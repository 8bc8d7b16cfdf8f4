import TransientFuel.Engine
import TransientFuel.Settings
import TransientFuel.Single

/-!
# Replays

A replay runs the engine over a trace. Its result is a list of lines: for each tick the snapshots
published and the tick itself, and at the end a summary.
-/

namespace TransientFuel

/-- The least and the greatest of some values. -/
structure Range where
  /-- The least. -/
  least : Float32
  /-- The greatest. -/
  greatest : Float32
deriving DecidableEq

namespace Range

/-- The range of one value. -/
def single (value : Float32) : Range :=
  ⟨value, value⟩

/-- The range with a further value in it. -/
def widen (range : Range) (value : Float32) : Range :=
  ⟨Single.smaller range.least value, Single.larger range.greatest value⟩

/-- The range of values seen so far, if any, with a further value in it. -/
def extend : Option Range → Float32 → Range
  | none, value => single value
  | some range, value => range.widen value

/-- The range of no values. -/
def zero : Range :=
  ⟨0.0, 0.0⟩

end Range

/-- How many ticks there were, and the ranges of their corrections. -/
structure Summary where
  /-- The number of ticks. -/
  rows : Nat := 0
  /-- The range of the throttle corrections. -/
  throttle : Option Range := none
  /-- The range of the load corrections. -/
  load : Option Range := none
deriving DecidableEq

namespace Summary

/-- The summary with a further tick. -/
def add (summary : Summary) (correction : Correction) : Summary where
  rows := summary.rows + 1
  throttle := some (Range.extend summary.throttle correction.throttle)
  load := some (Range.extend summary.load correction.load)

/-- The summary of a list of corrections. -/
def ofCorrections (corrections : List Correction) : Summary :=
  corrections.foldl add {}

theorem rows_foldl_add (summary : Summary) (corrections : List Correction) :
    (corrections.foldl add summary).rows = summary.rows + corrections.length := by
  induction corrections generalizing summary with
  | nil => rfl
  | cons correction rest inductionHypothesis =>
      simp only [List.foldl_cons, inductionHypothesis, add, List.length_cons]
      omega

/-- The range of the throttle corrections, zero if there are none. -/
def throttleRange (summary : Summary) : Range :=
  summary.throttle.getD .zero

/-- The range of the load corrections, zero if there are none. -/
def loadRange (summary : Summary) : Range :=
  summary.load.getD .zero

end Summary

/-- A line of a replay. -/
inductive Line where
  /-- A snapshot that a channel published. -/
  | snapshot (shot : Snapshot)
  /-- A tick, with its number from zero. -/
  | row (number : Nat) (sample : Sample) (correction : Correction)
  /-- The summary, with the number of cycles. -/
  | summary (totals : Summary) (cycles : Nat)
deriving DecidableEq

namespace Engine

/-- The lines of the ticks of a trace, the first of which has a given number. -/
def rowLines (engine : Engine) : Nat → List Sample → List Line
  | _, [] => []
  | number, sample :: rest =>
    let tick := engine.tick sample
    tick.snapshots.map .snapshot ++ .row number sample tick.correction ::
      tick.engine.rowLines (number + 1) rest

/-- The lines of a replay. -/
def replay (engine : Engine) (trace : List Sample) : List Line :=
  engine.rowLines 0 trace ++
    [.summary (.ofCorrections ((engine.run trace).map Tick.correction)) (engine.after trace).cycles]

/-- The engine with the channel observed that the settings name. -/
def watch (engine : Engine) : Watch → Engine
  | .off => engine
  | .throttle => { engine with throttle := engine.throttle.observe true }
  | .load => { engine with load := engine.load.observe true }

end Engine
end TransientFuel
