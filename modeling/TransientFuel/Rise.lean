import TransientFuel.Window

/-!
# The steepest rise

Both channels react to the pair of neighbouring readings whose difference is largest. Of equally
steep pairs the most recent one counts.
-/

namespace TransientFuel

/-- Two neighbouring readings of a window. -/
structure Rise where
  /-- The offset of the later reading; the earlier one is at the next offset. -/
  offset : Nat
  /-- The earlier reading. -/
  before : Float32
  /-- The later reading. -/
  after : Float32
deriving DecidableEq

namespace Rise

/-- How much the reading rose; a fall is negative. -/
def delta (rise : Rise) : Float32 :=
  rise.after - rise.before

/-- The steeper of two rises; only a strictly larger difference displaces the first. -/
def steeper (best candidate : Rise) : Rise :=
  if best.delta < candidate.delta then candidate else best

end Rise

namespace Window

/-- The neighbouring readings whose later one is at the given offset. -/
def riseAt? (window : Window) (offset : Nat) : Option Rise :=
  match window.get? offset, window.get? (offset + 1) with
  | some after, some before => some { offset, before, after }
  | _, _ => none

/-- The steepest rise in the window, if it holds two readings. -/
def steepest? (window : Window) : Option Rise :=
  (window.riseAt? 0).map fun newest =>
    ((List.range' 1 (window.count - 2)).filterMap window.riseAt?).foldl Rise.steeper newest

/-- The difference of the steepest rise. -/
def steepness? (window : Window) : Option Float32 :=
  window.steepest?.map Rise.delta

end Window
end TransientFuel
