import TransientFuel.Decimal.Layout
import TransientFuel.Engine

/-!
# Descriptions of state

One-line descriptions of the channels and of the engine, for people who look into a running system.
-/

namespace TransientFuel

/-- A record on one line: its name and its fields in order. -/
def describeRecord (name : String) (fields : List (String × String)) : String :=
  let entries := fields.map fun (field, value) => field ++ ": " ++ value
  name ++ " \x7b " ++ ", ".intercalate entries ++ " \x7d"

/-- A number in a description. -/
def describeNumber (x : Float32) : String :=
  Decimal.descriptive.render x

/-- The description of a smoothing. -/
def Smoothing.describe (smoothing : Smoothing) : String :=
  describeRecord "FractionCfg"
    [("period", toString smoothing.period), ("divisor", describeNumber smoothing.divisor)]

/-- The description of the throttle settings. -/
def ThrottleSettings.describe (settings : ThrottleSettings) : String :=
  describeRecord "ThrottleCfg"
    [("accel_threshold", describeNumber settings.riseThreshold),
      ("decel_threshold", describeNumber settings.dropThreshold),
      ("decel_multiplier", describeNumber settings.dropMultiplier),
      ("history_len", toString settings.windowLength),
      ("fraction", settings.smoothing.describe)]

/-- The description of a pump. -/
def Pump.describe (pump : Pump) : String :=
  describeRecord "FractionState"
    [("accumulated_ms", describeNumber pump.accumulated),
      ("max_extra_per_cycle_ms", describeNumber pump.cyclePeak),
      ("max_extra_per_period_ms", describeNumber pump.periodPeak),
      ("max_injected_per_period_ms", describeNumber pump.injectedPeak),
      ("cycle_countdown", toString pump.countdown)]

/-- The description of a throttle channel. -/
def Throttle.describe (channel : Throttle) : String :=
  describeRecord "ThrottleEnrichment"
    [("cfg", channel.settings.describe),
      ("history_len", toString channel.window.count),
      ("state", channel.pump.describe),
      ("debug_sink", toString channel.observed)]

/-- The description of the load settings. -/
def LoadSettings.describe (settings : LoadSettings) : String :=
  describeRecord "LoadCfg"
    [("accel_threshold", describeNumber settings.riseThreshold),
      ("decel_threshold", describeNumber settings.dropThreshold),
      ("accel_multiplier", describeNumber settings.riseMultiplier),
      ("decel_multiplier", describeNumber settings.dropMultiplier),
      ("history_len", toString settings.windowLength),
      ("cylinders", toString settings.cylinders)]

/-- The description of a load channel. -/
def Load.describe (channel : Load) : String :=
  describeRecord "LoadEnrichment"
    [("cfg", channel.settings.describe),
      ("history_len", toString channel.window.count),
      ("debug_sink", toString channel.observed)]

/-- The description of an engine. -/
def Engine.describe (engine : Engine) : String :=
  describeRecord "Runner"
    [("throttle", engine.throttle.describe),
      ("load", engine.load.describe),
      ("load_ms", describeNumber engine.held),
      ("cycles", toString engine.cycles)]

end TransientFuel
