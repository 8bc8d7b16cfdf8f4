import TransientFuel.Proofs.EngineRuns

/-!
# The engine without proofs

The windows, tables and curves of an engine carry proofs that keep their indices in range. Here they
are taken apart into lists and plain numbers, and nothing is known about these. Instead each index
is tested when its list is read or written, a difference of indices must not go below zero, and a
modulus or a divisor has to be positive. A computation that fails a test stops with a fault. The
order of the steps is that of the engine, except that the throttle table is looked up for every rise
and not only for those that call for its fuel.
-/

namespace TransientFuel

/-- Why a computation stops. -/
inductive AccessFault where
  /-- An index is not below the length of its list. -/
  | outOfRange
  /-- A difference of indices is negative. -/
  | underflow
  /-- A modulus or a divisor is not positive. -/
  | divisor
deriving DecidableEq, Repr

/-- A computation that stops at a fault. -/
abbrev Access (α : Type) := Except AccessFault α

namespace Access

def read (list : List Float32) (index : ℕ) : Access Float32 :=
  match list[index]? with
  | some value => .ok value
  | none => .error .outOfRange

def write (list : List Float32) (index : ℕ) (value : Float32) : Access (List Float32) :=
  if index < list.length then .ok (list.set index value) else .error .outOfRange

def sub (left right : ℕ) : Access ℕ :=
  if right ≤ left then .ok (left - right) else .error .underflow

def mod (number modulus : ℕ) : Access ℕ :=
  if 0 < modulus then .ok (number % modulus) else .error .divisor

def div (number divisor : Float32) : Access Float32 :=
  if 0.0 < divisor then .ok (number / divisor) else .error .divisor

end Access

/-- A ring of slots with any capacity, head and count. -/
structure BareWindow where
  slots : List Float32
  capacity : ℕ
  head : ℕ
  count : ℕ

namespace BareWindow

variable (window : BareWindow)

def ofLength (length : ℕ) : BareWindow :=
  ⟨List.replicate Window.maxLength 0.0, length, 0, 0⟩

def clear : BareWindow :=
  { window with head := 0, count := 0 }

/-- The window with another length, if the length is in range. -/
def resize (requested : Int) : Option BareWindow :=
  if 1 ≤ requested ∧ requested ≤ 32 then
    some { window with capacity := requested.toNat, head := 0, count := 0 }
  else
    none

/-- The window with the length that settings ask for, if it has it already or can be given it. -/
def fit (length : ℕ) : Option BareWindow :=
  if length = window.capacity then some window else window.resize (Window.request length)

def push (reading : Float32) : Access BareWindow := do
  let slots ← Access.write window.slots window.head reading
  let head ← Access.mod (window.head + 1) window.capacity
  let count := if window.count < window.capacity then window.count + 1 else window.count
  return { window with slots, head, count }

def slot (offset : ℕ) : Access (Option ℕ) :=
  if offset < window.count then do
    let newest ← Access.sub (window.head + window.capacity) 1
    let behind ← Access.sub newest offset
    let slot ← Access.mod behind window.capacity
    return some slot
  else
    return none

def get (offset : ℕ) : Access (Option Float32) := do
  match ← window.slot offset with
  | some slot => return some (← Access.read window.slots slot)
  | none => return none

def riseAt (offset : ℕ) : Access (Option Rise) := do
  let after ← window.get offset
  let before ← window.get (offset + 1)
  match after, before with
  | some after, some before => return some { offset, before, after }
  | _, _ => return none

def steepest : Access (Option Rise) := do
  match ← window.riseAt 0 with
  | none => return none
  | some newest =>
    let best ← (List.range' 1 (window.count - 2)).foldlM (fun best offset => do
      return (← window.riseAt offset).elim best best.steeper) newest
    return some best

def age (offset : ℕ) : Access ℕ := do
  match ← window.slot offset with
  | none => return 0
  | some slot =>
    let behind : Int := (window.head : Int) - slot
    let wrapped := if behind ≤ 0 then behind + (min window.count window.capacity : ℕ) else behind
    return wrapped.toNat

end BareWindow

/-- Two indices of a list of positions, and a place between these. -/
structure BareCell where
  lower : ℕ
  upper : ℕ
  fraction : Float32

def BareCell.locate (bins : List Float32) (x : Float32) : Access BareCell := do
  let last ← Access.sub bins.length 1
  let first ← Access.read bins 0
  if x.isNaN ∨ x ≤ first then
    return ⟨0, 0, 0.0⟩
  else
    let highest ← Access.read bins last
    if highest ≤ x then
      return ⟨last, last, 0.0⟩
    else
      let upper := (bins.takeWhile (· ≤ x)).length
      let lower ← Access.sub upper 1
      let start ← Access.read bins lower
      let stop ← Access.read bins upper
      let fraction ← Access.div (x - start) (stop - start)
      return ⟨lower, upper, fraction⟩

/-- A table with any positions and any number of values. -/
structure BareGrid where
  before : List Float32
  after : List Float32
  values : List Float32

namespace BareGrid

variable (grid : BareGrid)

def value (row column : ℕ) : Access Float32 :=
  Access.read grid.values (row * grid.after.length + column)

def lookup (before after : Float32) : Access Float32 := do
  let row ← BareCell.locate grid.before before
  let column ← BareCell.locate grid.after after
  let low := interpolate (← grid.value row.lower column.lower) (← grid.value row.lower column.upper)
    column.fraction
  let high := interpolate (← grid.value row.upper column.lower)
    (← grid.value row.upper column.upper) column.fraction
  return interpolate low high row.fraction

end BareGrid

/-- The multiplier of a taper as written down, for an age. -/
def CurveData.lookup (curve : CurveData) (age : Float32) : Access Float32 := do
  let cell ← BareCell.locate curve.bins age
  return interpolate (← Access.read curve.multipliers cell.lower)
    (← Access.read curve.multipliers cell.upper) cell.fraction

structure BareThrottle where
  settings : ThrottleSettings
  grid : BareGrid
  window : BareWindow
  pump : Pump

namespace BareThrottle

variable (channel : BareThrottle)

def sample (reading : Float32) : Access BareThrottle := do
  let window ← channel.window.push reading
  return { channel with window }

/-- What is injected of a charge, and the channel after it. -/
def inject (charge : Float32) : Access (BareThrottle × Float32) := do
  let pump := channel.pump
  let smoothing := channel.settings.smoothing
  if smoothing.isEnabled then
    let injection ← Access.div (Single.larger charge pump.accumulated) smoothing.share
    let dose ← Access.div injection (Float32.ofInt smoothing.cycles)
    let noted := { pump with
      cyclePeak := Single.larger charge pump.cyclePeak
      injectedPeak := Single.larger injection pump.injectedPeak }
    return ({ channel with pump := noted }, dose)
  else
    return ({ channel with pump := Pump.idle }, charge)

def compute : Access (BareThrottle × Float32) := do
  match ← channel.window.steepest with
  | none => return (channel, 0.0)
  | some rise =>
    let tableValue ← channel.grid.lookup rise.before rise.after
    channel.inject <|
      if channel.settings.riseThreshold < rise.delta then tableValue
      else if rise.delta < -channel.settings.dropThreshold then
        rise.delta * channel.settings.dropMultiplier
      else 0.0

def endCycle : BareThrottle :=
  { channel with pump := channel.pump.endCycle channel.settings.smoothing }

def reset : BareThrottle :=
  { channel with window := channel.window.clear, pump := Pump.idle }

/-- The channel with another window length, or as it was if the length is refused. -/
def resize (length : Int) : BareThrottle :=
  match channel.window.resize length with
  | some window => { channel with window }
  | none => channel

def reconfigure (settings : ThrottleSettings) : BareThrottle :=
  match channel.window.fit settings.windowLength with
  | some window => { channel with settings, window }
  | none => channel

def apply : Operation ThrottleSettings → Access BareThrottle
  | .sample reading => channel.sample reading
  | .compute => do return (← channel.compute).1
  | .endCycle => return channel.endCycle
  | .reset => return channel.reset
  | .resize length => return channel.resize length
  | .reconfigure settings => return channel.reconfigure settings
  | .observe _ => return channel

end BareThrottle

structure BareLoad where
  settings : LoadSettings
  curve : CurveData
  window : BareWindow

namespace BareLoad

variable (channel : BareLoad)

def sample (reading : Float32) : Access BareLoad := do
  let window ← channel.window.push reading
  return { channel with window }

def compute : Access Float32 := do
  match ← channel.window.steepest with
  | none => return 0.0
  | some rise =>
    let change := rise.delta * Float32.ofNat (max channel.settings.cylinders 1)
    if channel.settings.riseThreshold < change then
      let age ← channel.window.age rise.offset
      let taper ← channel.curve.lookup (Float32.ofNat age)
      return taper * change * channel.settings.riseMultiplier
    else if change < -channel.settings.dropThreshold then
      return change * channel.settings.dropMultiplier
    else
      return 0.0

def reset : BareLoad :=
  { channel with window := channel.window.clear }

/-- The channel with another window length, or as it was if the length is refused. -/
def resize (length : Int) : BareLoad :=
  match channel.window.resize length with
  | some window => { channel with window }
  | none => channel

def reconfigure (settings : LoadSettings) : BareLoad :=
  match channel.window.fit settings.windowLength with
  | some window => { channel with settings, window }
  | none => channel

def apply : Operation LoadSettings → Access BareLoad
  | .sample reading => channel.sample reading
  | .compute => do
    let _ ← channel.compute
    return channel
  | .endCycle => return channel
  | .reset => return channel.reset
  | .resize length => return channel.resize length
  | .reconfigure settings => return channel.reconfigure settings
  | .observe _ => return channel

end BareLoad

structure BareEngine where
  throttle : BareThrottle
  load : BareLoad
  held : Float32
  cycles : ℕ

namespace BareEngine

def tick (engine : BareEngine) (sample : Sample) : Access (BareEngine × Correction) := do
  let sampled ← engine.throttle.sample sample.throttle
  let (throttle, extra) ← sampled.compute
  if sample.cycleEnd then
    let load ← engine.load.sample sample.load
    let held ← load.compute
    let cycles := engine.cycles + 1
    return ({ throttle := throttle.endCycle, load, held, cycles }, ⟨extra, held⟩)
  else
    return ({ engine with throttle }, ⟨extra, engine.held⟩)

def run (engine : BareEngine) : List Sample → Access (BareEngine × List Correction)
  | [] => return (engine, [])
  | sample :: rest => do
    let (next, correction) ← engine.tick sample
    let (last, corrections) ← next.run rest
    return (last, correction :: corrections)

def reset (engine : BareEngine) : BareEngine :=
  { throttle := engine.throttle.reset, load := engine.load.reset, held := 0.0, cycles := 0 }

def apply (engine : BareEngine) : EngineAction → Access (BareEngine × List Correction)
  | .tick sample => do
    let (next, correction) ← engine.tick sample
    return (next, [correction])
  | .run trace => engine.run trace
  | .reset => return (engine.reset, [])
  | .throttle operation => do
    let throttle ← engine.throttle.apply operation
    return ({ engine with throttle }, [])
  | .load operation => do
    let load ← engine.load.apply operation
    return ({ engine with load }, [])

/-- The engine after a list of actions, and the corrections of each. -/
def perform (engine : BareEngine) :
    List EngineAction → Access (BareEngine × List (List Correction))
  | [] => return (engine, [])
  | action :: rest => do
    let (next, corrections) ← engine.apply action
    let (last, more) ← next.perform rest
    return (last, corrections :: more)

end BareEngine

/-- The engine that settings and tables describe, taken as they are. -/
def Settings.bareEngine (settings : Settings) (table : Option GridData)
    (taper : Option CurveData) : BareEngine :=
  let data := (settings.tableInForce table).getD .zero
  { throttle :=
      { settings := settings.throttle
        grid := ⟨data.before, data.after, data.values.flatten⟩
        window := .ofLength settings.throttle.windowLength
        pump := .idle }
    load :=
      { settings := settings.load
        curve := taper.getD settings.taper
        window := .ofLength settings.load.windowLength }
    held := 0.0
    cycles := 0 }

end TransientFuel
