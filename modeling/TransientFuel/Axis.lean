/-!
# Axes of lookup tables

An axis is the list of positions at which a table has values. Locating a number on an axis gives
the two neighbouring positions and how far the number has come from the lower to the upper one;
outside the axis the nearest end is taken.
-/

namespace TransientFuel

/-- Why a table cannot be built. -/
inductive TableFault where
  /-- The positions before the rise do not form an axis. -/
  | beforeBins
  /-- The positions after the rise do not form an axis. -/
  | afterBins
  /-- A row has too many or too few values. -/
  | raggedRow
  /-- There are too many or too few values. -/
  | valueCount
  /-- A value is not finite. -/
  | valueNotFinite
  /-- The ages do not form an axis. -/
  | taperBins
  /-- There are too many or too few multipliers. -/
  | taperCount
  /-- A multiplier is not finite. -/
  | taperNotFinite
deriving DecidableEq, Repr

/-- The wording of a table fault. -/
def TableFault.message : TableFault → String
  | .beforeBins => "from bins must be non-empty, finite and strictly increasing"
  | .afterBins => "to bins must be non-empty, finite and strictly increasing"
  | .raggedRow => "every row must have one value per to bin"
  | .valueCount => "value count must equal from bins x to bins"
  | .valueNotFinite => "values must be finite"
  | .taperBins => "taper bins must be non-empty, finite and strictly increasing"
  | .taperCount => "taper multipliers must match taper bins"
  | .taperNotFinite => "taper multipliers must be finite"

/-- Whether every number is strictly above the one before it. -/
def strictlyIncreasing : List Float32 → Bool
  | first :: second :: rest => first < second && strictlyIncreasing (second :: rest)
  | _ => true

/-- Strictly increasing positions, at least one. -/
structure Axis where
  /-- The positions in order. -/
  bins : List Float32
  nonempty : bins ≠ []
  finite : ∀ bin ∈ bins, bin.isFinite = true
  increasing : strictlyIncreasing bins = true

/-- Two neighbouring positions of an axis, by their numbers, and a place between them. -/
structure Cell (size : Nat) where
  /-- The position at or below the place. -/
  lower : Fin size
  /-- The position above the place, or the lower one again at either end of the axis. -/
  upper : Fin size
  /-- How far the place lies from the lower to the upper position. -/
  fraction : Float32

/-- A list is longer than its prefix that satisfies a test, if one of its elements fails it. -/
theorem length_takeWhile_lt {α : Type} (test : α → Bool) (list : List α) (index : Nat)
    (bound : index < list.length) (fails : test list[index] = false) :
    (list.takeWhile test).length < list.length := by
  induction list generalizing index with
  | nil => simp at bound
  | cons head tail ih =>
    rw [List.takeWhile_cons]
    split
    · cases index with
      | zero => simp_all
      | succ index =>
        have shorter := ih index (by simpa using bound) (by simpa using fails)
        simpa using shorter
    · simp

namespace Axis

/-- The axis with the given positions, if they form one. -/
def ofList? (bins : List Float32) : Option Axis :=
  if valid : bins ≠ [] ∧ (∀ bin ∈ bins, bin.isFinite = true) ∧ strictlyIncreasing bins = true then
    some ⟨bins, valid.1, valid.2.1, valid.2.2⟩
  else
    none

/-- The number of positions. -/
abbrev size (axis : Axis) : Nat :=
  axis.bins.length

theorem size_pos (axis : Axis) : 0 < axis.size :=
  List.length_pos_iff.mpr axis.nonempty

/-- The position with a number. -/
def bin (axis : Axis) (index : Fin axis.size) : Float32 :=
  axis.bins.get index

/-- The number of the first position. -/
def first (axis : Axis) : Fin axis.size :=
  ⟨0, axis.size_pos⟩

/-- The number of the last position. -/
def last (axis : Axis) : Fin axis.size :=
  ⟨axis.size - 1, Nat.sub_lt axis.size_pos Nat.one_pos⟩

/--
The cell that a number falls into. A number at or below the first position, or no number at all,
is taken to the first position, and one at or above the last position to the last.
-/
def locate (axis : Axis) (x : Float32) : Cell axis.size :=
  if x.isNaN ∨ x ≤ axis.bin axis.first then
    ⟨axis.first, axis.first, 0.0⟩
  else if beyond : axis.bin axis.last ≤ x then
    ⟨axis.last, axis.last, 0.0⟩
  else
    have bound : (axis.bins.takeWhile (· ≤ x)).length < axis.size :=
      length_takeWhile_lt _ _ (axis.size - 1) axis.last.isLt (decide_eq_false beyond)
    let upper : Fin axis.size := ⟨(axis.bins.takeWhile (· ≤ x)).length, bound⟩
    let lower : Fin axis.size := ⟨upper - 1, Nat.lt_of_le_of_lt (Nat.sub_le _ _) bound⟩
    ⟨lower, upper, (x - axis.bin lower) / (axis.bin upper - axis.bin lower)⟩

end Axis

/-- The number at a fraction of the way between two numbers. -/
def interpolate (start stop fraction : Float32) : Float32 :=
  start + (stop - start) * fraction

end TransientFuel
