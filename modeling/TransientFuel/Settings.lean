import TransientFuel.Curve
import TransientFuel.Grid
import TransientFuel.Load
import TransientFuel.Throttle

/-!
# Settings

Everything that can be configured, with its defaults.
-/

namespace TransientFuel

/-- Which channel is observed during a replay. -/
inductive Watch where
  /-- None. -/
  | off
  /-- The throttle channel. -/
  | throttle
  /-- The load channel. -/
  | load
deriving DecidableEq, Repr

/-- Where log records go. -/
structure Logging where
  /-- The file that they are appended to. -/
  file : Option String := none
  /-- Which records are kept. -/
  level : Option String := none
  /-- When a new file is begun. -/
  rotation : Option String := none
deriving DecidableEq, Repr

/-- The taper that leaves every rise as it is, up to the age of seven. -/
def CurveData.default : CurveData where
  bins := [0.0, 1.0, 2.0, 3.0, 4.0, 5.0, 6.0, 7.0]
  multipliers := List.replicate 8 1.0

/-- All settings. The number of cylinders belongs to the load channel. -/
structure Settings where
  /-- The throttle channel. -/
  throttle : ThrottleSettings := { smoothing := { period := 3 } }
  /-- The throttle table. -/
  table : Option GridData := none
  /-- The load channel. -/
  load : LoadSettings := {}
  /-- The taper. -/
  taper : CurveData := .default
  /-- The channel observed. -/
  watch : Watch := .off
  /-- The log. -/
  logging : Logging := {}
deriving DecidableEq

end TransientFuel
