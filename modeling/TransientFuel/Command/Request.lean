import TransientFuel.Engine

/-!
# What the command is asked to do

The command shows the settings in force or replays a trace. A replay can override settings of both
channels.
-/

namespace TransientFuel

/-- Settings of the throttle channel given with a replay. -/
structure ThrottleOverrides where
  /-- The length of the window. -/
  windowLength : Option Int := none
  /-- The least rise that counts. -/
  riseThreshold : Option Float32 := none
  /-- The least drop that counts. -/
  dropThreshold : Option Float32 := none
  /-- The milliseconds per unit of drop. -/
  dropMultiplier : Option Float32 := none
deriving DecidableEq

/-- Settings of the load channel given with a replay. -/
structure LoadOverrides where
  /-- The length of the window. -/
  windowLength : Option Int := none
  /-- The least rise that counts. -/
  riseThreshold : Option Float32 := none
  /-- The factor of a rise. -/
  riseMultiplier : Option Float32 := none
  /-- The least drop that counts. -/
  dropThreshold : Option Float32 := none
  /-- The factor of a drop. -/
  dropMultiplier : Option Float32 := none
deriving DecidableEq

/-- What a replay is asked to do. -/
structure ReplayOptions where
  /-- The path of the trace. -/
  trace : String
  /-- What the throttle channel is given. -/
  throttle : ThrottleOverrides := {}
  /-- What the load channel is given. -/
  load : LoadOverrides := {}
  /-- Whether the time that ticks take is shown. -/
  stats : Bool := false
deriving DecidableEq

/-- A task of the command. -/
inductive Task where
  /-- Shows the settings in force. -/
  | info
  /-- Replays a trace. -/
  | replay (options : ReplayOptions)
deriving DecidableEq

/-- A task and what it works on. -/
structure Request where
  /-- The path of the settings. -/
  config : Option String := none
  /-- The path of a throttle table. -/
  table : Option String := none
  /-- The path of a taper. -/
  taper : Option String := none
  /-- Whether output is JSON. -/
  json : Bool := false
  /-- Which log records are kept. -/
  level : Option String := none
  /-- The task. -/
  task : Task
deriving DecidableEq

end TransientFuel
