import TransientFuel.Channel
import TransientFuel.Pump
import TransientFuel.Rise

/-!
# The throttle channel

Opening the throttle quickly calls for extra fuel, which the table gives for the steepest rise in
the window. A quick closing takes fuel away in proportion to the drop. With smoothing, the charge
goes through the pump.
-/

namespace TransientFuel

/-- The settings of the throttle channel. -/
structure ThrottleSettings where
  /-- A rise above this calls for the table's fuel. -/
  riseThreshold : Float32 := 40.0
  /-- A drop beyond this takes fuel away. -/
  dropThreshold : Float32 := 40.0
  /-- The milliseconds per unit of drop. -/
  dropMultiplier : Float32 := 0.0
  /-- How many readings are kept. -/
  windowLength : Nat := Window.defaultLength
  /-- How charges are spread. -/
  smoothing : Smoothing := {}
deriving DecidableEq

/-- The throttle channel. -/
structure Throttle where
  /-- The settings in force. -/
  settings : ThrottleSettings
  /-- The extra fuel for a reading before and a reading after a rise. -/
  table : Float32 → Float32 → Float32
  /-- The recent readings. -/
  window : Window
  /-- The pump. -/
  pump : Pump
  /-- Whether snapshots are published. -/
  observed : Bool

namespace Throttle

/-- A channel without readings, not observed. -/
def create (settings : ThrottleSettings) (table : Float32 → Float32 → Float32) :
    Except LengthRefused Throttle :=
  (Window.ofLength settings.windowLength).map fun window =>
    { settings, table, window, pump := Pump.idle, observed := false }

/-- Takes in a reading. -/
def sample (channel : Throttle) (reading : Float32) : Throttle :=
  { channel with window := channel.window.push reading }

/-- The fuel that a rise calls for before smoothing. -/
def charge (channel : Throttle) (rise : Rise) : Float32 :=
  if channel.settings.riseThreshold < rise.delta then
    channel.table rise.before rise.after
  else if rise.delta < -channel.settings.dropThreshold then
    rise.delta * channel.settings.dropMultiplier
  else
    0.0

/-- The pump after a charge; without smoothing it is kept empty. -/
def charged (channel : Throttle) (charge : Float32) : Pump :=
  if channel.settings.smoothing.isEnabled then channel.pump.note channel.settings.smoothing charge
  else Pump.idle

/-- What is injected of a charge in one cycle. -/
def injected (channel : Throttle) (charge : Float32) : Float32 :=
  if channel.settings.smoothing.isEnabled then channel.pump.dose channel.settings.smoothing charge
  else charge

/-- What is published about a correction. -/
def snapshot (channel : Throttle) (rise : Rise) (extra : Float32) : Snapshot :=
  .throttle
    { before := rise.before
      after := rise.after
      tableValue := channel.table rise.before rise.after
      extra
      accumulated := channel.pump.accumulated
      periodPeak := channel.pump.periodPeak
      injectedPeak := channel.pump.injectedPeak
      countdown := channel.pump.countdown }

/-- The correction for the readings so far; with fewer than two it is zero. -/
def compute (channel : Throttle) : Answer Throttle :=
  match channel.window.steepest? with
  | none => ⟨0.0, none, channel⟩
  | some rise =>
    let charge := channel.charge rise
    let extra := channel.injected charge
    let after := { channel with pump := channel.charged charge }
    ⟨extra, if channel.observed then some (after.snapshot rise extra) else none, after⟩

/-- The channel after an engine cycle has ended. -/
def endCycle (channel : Throttle) : Throttle :=
  { channel with pump := channel.pump.endCycle channel.settings.smoothing }

/-- Forgets the readings and empties the pump. -/
def reset (channel : Throttle) : Throttle :=
  { channel with window := channel.window.clear, pump := Pump.idle }

/-- Gives the window another length. -/
def resize (channel : Throttle) (length : Int) : Except LengthRefused Throttle :=
  (channel.window.resize length).map fun window => { channel with window }

/-- Replaces the settings; readings are kept if the window already has the new length. -/
def reconfigure (channel : Throttle) (settings : ThrottleSettings) :
    Except LengthRefused Throttle :=
  if settings.windowLength = channel.window.capacity then .ok { channel with settings }
  else
    (channel.resize (Window.request settings.windowLength)).map fun resized =>
      { resized with settings }

/-- Switches observation on or off. -/
def observe (channel : Throttle) (observed : Bool) : Throttle :=
  { channel with observed }

/-- The channel after an operation, and its reply. -/
def apply (channel : Throttle) : Operation ThrottleSettings → Throttle × Reply
  | .sample reading => (channel.sample reading, .done)
  | .compute => (channel.compute.channel,
      .correction channel.compute.correction channel.compute.snapshot)
  | .endCycle => (channel.endCycle, .done)
  | .reset => (channel.reset, .done)
  | .resize length => settle channel (channel.resize length)
  | .reconfigure settings => settle channel (channel.reconfigure settings)
  | .observe observed => (channel.observe observed, .done)

end Throttle
end TransientFuel
