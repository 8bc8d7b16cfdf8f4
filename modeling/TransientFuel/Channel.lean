import TransientFuel.Window

/-!
# What the two channels have in common

The throttle channel and the load channel are driven by the same operations. A channel that is
observed publishes a snapshot of each correction it computes.
-/

namespace TransientFuel

/-- The values behind one throttle correction. -/
structure ThrottleSnapshot where
  /-- The reading before the rise. -/
  before : Float32
  /-- The reading after the rise. -/
  after : Float32
  /-- What the table says for the rise. -/
  tableValue : Float32
  /-- The correction. -/
  extra : Float32
  /-- The pump's accumulator. -/
  accumulated : Float32
  /-- The pump's largest charge of the period. -/
  periodPeak : Float32
  /-- The pump's largest share of the period. -/
  injectedPeak : Float32
  /-- The cycles left in the pump's period. -/
  countdown : Int
deriving DecidableEq

/-- The values behind one load correction. -/
structure LoadSnapshot where
  /-- The age of the rise, zero unless it was above the threshold. -/
  age : Nat
  /-- The correction. -/
  result : Float32
  /-- The multiplier for the age, zero unless the rise was above the threshold. -/
  taper : Float32
deriving DecidableEq

/-- A snapshot of either channel. -/
inductive Snapshot where
  | throttle (snapshot : ThrottleSnapshot)
  | load (snapshot : LoadSnapshot)
deriving DecidableEq

/-- A correction, what was published about it, and the channel after it. -/
structure Answer (Channel : Type) where
  /-- The correction in milliseconds of injection. -/
  correction : Float32
  /-- What was published. -/
  snapshot : Option Snapshot
  /-- The channel after the correction. -/
  channel : Channel

/-- An operation on a channel. -/
inductive Operation (Settings : Type) where
  /-- A new reading comes in. -/
  | sample (reading : Float32)
  /-- The correction is asked for. -/
  | compute
  /-- An engine cycle ends. -/
  | endCycle
  /-- Readings and pump are forgotten. -/
  | reset
  /-- The window gets another length. -/
  | resize (length : Int)
  /-- The settings are replaced. -/
  | reconfigure (settings : Settings)
  /-- Observation is switched on or off. -/
  | observe (observed : Bool)

/-- What a channel says to an operation. -/
inductive Reply where
  /-- Nothing to say. -/
  | done
  /-- The correction asked for. -/
  | correction (value : Float32) (snapshot : Option Snapshot)
  /-- The operation was refused and nothing has changed. -/
  | refused (refusal : LengthRefused)
deriving DecidableEq

/-- The channel after an operation that can be refused, and the reply. -/
def settle {Channel : Type} (channel : Channel) : Except LengthRefused Channel → Channel × Reply
  | .ok changed => (changed, .done)
  | .error refusal => (channel, .refused refusal)

end TransientFuel
