import TransientFuel.Channel
import TransientFuel.Rise

/-!
# The load channel

A rise of the engine load, scaled by the number of cylinders, calls for extra fuel, the less the
longer ago it was. A drop takes fuel away at full strength.
-/

namespace TransientFuel

/-- The settings of the load channel. -/
structure LoadSettings where
  /-- A scaled rise above this calls for fuel. -/
  riseThreshold : Float32 := 2.0
  /-- A scaled drop beyond this takes fuel away. -/
  dropThreshold : Float32 := 2.0
  /-- The milliseconds per unit of scaled rise. -/
  riseMultiplier : Float32 := 0.0
  /-- The milliseconds per unit of scaled drop. -/
  dropMultiplier : Float32 := 0.0
  /-- How many readings are kept. -/
  windowLength : Nat := Window.defaultLength
  /-- The engine's cylinders. -/
  cylinders : Nat := 4
deriving DecidableEq

/-- The load channel. -/
structure Load where
  /-- The settings in force. -/
  settings : LoadSettings
  /-- The multiplier for the age of a rise. -/
  taper : Float32 → Float32
  /-- The recent readings. -/
  window : Window
  /-- Whether snapshots are published. -/
  observed : Bool

namespace Load

/-- A channel without readings, not observed. -/
def create (settings : LoadSettings) (taper : Float32 → Float32) : Except LengthRefused Load :=
  (Window.ofLength settings.windowLength).map fun window =>
    { settings, taper, window, observed := false }

/-- Takes in a reading. -/
def sample (channel : Load) (reading : Float32) : Load :=
  { channel with window := channel.window.push reading }

/-- A rise scaled by the number of cylinders, at least one. -/
def scaled (channel : Load) (rise : Rise) : Float32 :=
  rise.delta * Float32.ofNat (max channel.settings.cylinders 1)

/-- The age, the multiplier and the correction for a rise. -/
def assess (channel : Load) (rise : Rise) : LoadSnapshot :=
  let change := channel.scaled rise
  if channel.settings.riseThreshold < change then
    let age := (channel.window.age? rise.offset).getD 0
    let taper := channel.taper (Float32.ofNat age)
    { age, taper, result := taper * change * channel.settings.riseMultiplier }
  else if change < -channel.settings.dropThreshold then
    { age := 0, taper := 0.0, result := change * channel.settings.dropMultiplier }
  else
    { age := 0, taper := 0.0, result := 0.0 }

/-- The correction for the readings so far; with fewer than two it is zero. -/
def compute (channel : Load) : Answer Load :=
  match channel.window.steepest? with
  | none => ⟨0.0, none, channel⟩
  | some rise =>
    let assessed := channel.assess rise
    ⟨assessed.result, if channel.observed then some (.load assessed) else none, channel⟩

/-- Forgets the readings. -/
def reset (channel : Load) : Load :=
  { channel with window := channel.window.clear }

/-- Gives the window another length. -/
def resize (channel : Load) (length : Int) : Except LengthRefused Load :=
  (channel.window.resize length).map fun window => { channel with window }

/-- Replaces the settings; readings are kept if the window already has the new length. -/
def reconfigure (channel : Load) (settings : LoadSettings) : Except LengthRefused Load :=
  if settings.windowLength = channel.window.capacity then .ok { channel with settings }
  else
    (channel.resize (Window.request settings.windowLength)).map fun resized =>
      { resized with settings }

/-- Switches observation on or off. -/
def observe (channel : Load) (observed : Bool) : Load :=
  { channel with observed }

/-- The channel after an operation, and its reply; the end of a cycle changes nothing here. -/
def apply (channel : Load) : Operation LoadSettings → Load × Reply
  | .sample reading => (channel.sample reading, .done)
  | .compute => (channel.compute.channel,
      .correction channel.compute.correction channel.compute.snapshot)
  | .endCycle => (channel, .done)
  | .reset => (channel.reset, .done)
  | .resize length => settle channel (channel.resize length)
  | .reconfigure settings => settle channel (channel.reconfigure settings)
  | .observe observed => (channel.observe observed, .done)

end Load
end TransientFuel
