import TransientFuel.Grid
import TransientFuel.Proofs.Lists
import TransientFuel.Proofs.SingleBounds

/-!
# Interpolation

A number is located at the first position of an axis, at the last one, or between two neighbours:
`Axis.located`. The way it has come from the lower to the upper neighbour is at most the way between
them, so an interpolated number is bounded by three times the numbers that it is interpolated from,
and a number looked up in a grid by nine times the values of the grid. The factors allow for
rounding, and for neighbours so far apart that their difference is infinite.
-/

namespace TransientFuel

namespace Axis

/-- All that locating a number on an axis can give. -/
inductive Located (axis : Axis) (x : Float32) : Cell axis.size → Prop
  | first (outside : x.isNaN = true ∨ x ≤ axis.bin axis.first) :
      Located axis x ⟨axis.first, axis.first, 0.0⟩
  | last (inside : axis.bin axis.first < x) (beyond : axis.bin axis.last ≤ x) :
      Located axis x ⟨axis.last, axis.last, 0.0⟩
  | between {lower upper : Fin axis.size} (inside : axis.bin axis.first < x)
      (short : x < axis.bin axis.last)
      (partition : (upper : ℕ) = (axis.bins.takeWhile (· ≤ x)).length)
      (next : (upper : ℕ) = lower + 1) (above : axis.bin lower ≤ x) (below : x < axis.bin upper) :
      Located axis x ⟨lower, upper, (x - axis.bin lower) / (axis.bin upper - axis.bin lower)⟩

variable (axis : Axis)

theorem isFinite_bin (index : Fin axis.size) : (axis.bin index).isFinite = true :=
  axis.finite _ (List.get_mem _ _)

theorem isNaN_bin (index : Fin axis.size) : (axis.bin index).isNaN = false :=
  (Single.standsFor_of_isFinite (axis.isFinite_bin index)).1

theorem located (x : Float32) : axis.Located x (axis.locate x) := by
  rw [locate]
  split
  · exact .first ‹_›
  rename_i inside
  rw [not_or] at inside
  have known := Bool.eq_false_iff.mpr inside.1
  have aboveFirst : axis.bin axis.first < x :=
    Single.lt_of_not_le known (axis.isNaN_bin _) inside.2
  split
  · exact .last aboveFirst ‹_›
  · rename_i notBeyond
    have length : 0 < (axis.bins.takeWhile (· ≤ x)).length := by
      rw [List.length_pos_iff, ne_eq, List.takeWhile_eq_nil_iff]
      intro fails
      apply fails axis.size_pos
      have le := Single.lt_iff.mp aboveFirst
      exact decide_eq_true (Single.le_iff.mpr ⟨le.1, le.2.1, le.2.2.le⟩)
    apply Located.between aboveFirst
    · exact Single.lt_of_not_le (axis.isNaN_bin _) known notBeyond
    · rfl
    · exact (Nat.sub_add_cancel length).symm
    · have bound := List.IsPrefix.length_le (List.takeWhile_prefix (· ≤ x) (l := axis.bins))
      have inside := Nat.sub_lt length Nat.one_pos
      exact of_decide_eq_true (getElem_of_lt_takeWhile (· ≤ x) (inside.trans_le bound) inside)
    · apply Single.lt_of_not_le (axis.isNaN_bin _) known
      exact of_decide_eq_false (getElem_length_takeWhile (· ≤ x) _)

/-- That a number between two positions is not at a finite distance from the lower one. -/
def Distant (x : Float32) : Prop :=
  (axis.locate x).lower ≠ (axis.locate x).upper ∧
    (x - axis.bin (axis.locate x).lower).isFinite = false

/-- A number has come a fraction of the way from one position to the next, if the way is known. -/
theorem fraction_cases (x : Float32) :
    axis.Distant x ∧ (axis.locate x).fraction.isNaN = true ∨
      ¬axis.Distant x ∧
        ∃ part, Single.StandsFor (axis.locate x).fraction part ∧ 0 ≤ part ∧ part ≤ 1 := by
  have located := axis.located x
  rw [Distant]
  generalize axis.locate x = cell at located ⊢
  cases located with
  | first outside => exact Or.inr ⟨by simp, 0, Single.standsFor_zero, le_rfl, zero_le_one⟩
  | last inside beyond => exact Or.inr ⟨by simp, 0, Single.standsFor_zero, le_rfl, zero_le_one⟩
  | @between lower upper _ _ _ next above below =>
      rw [Single.le_iff] at above
      rw [Single.lt_iff] at below
      have lowerFinite := axis.isFinite_bin lower
      have upperFinite := axis.isFinite_bin upper
      have lowerBounds := abs_lt.mp ((Single.isFinite_iff _).mp lowerFinite).2
      have upperBounds := abs_lt.mp ((Single.isFinite_iff _).mp upperFinite).2
      have xFinite : x.isFinite = true := by
        rw [Single.isFinite_iff, abs_lt]
        exact ⟨below.1, by linarith, by linarith⟩
      have apart : lower ≠ upper := by
        intro same
        rw [same] at next
        omega
      have gone := Single.sub_nonneg_of_le xFinite lowerFinite above.2.2
      have notFurther := Single.sub_le_sub_right xFinite upperFinite lowerFinite below.2.2.le
      have whole : 0 < Single.toRat (axis.bin upper - axis.bin lower) :=
        Single.sub_pos_of_lt lowerFinite upperFinite (by linarith)
      rcases Single.div_cases gone notFurther whole with ⟨infinite, missing⟩ | ⟨finite, part⟩
      · exact Or.inl ⟨⟨apart, infinite⟩, missing⟩
      · exact Or.inr ⟨by simp [finite], part⟩

theorem atMost_fraction (x : Float32) : Single.AtMost 1 (axis.locate x).fraction := by
  rcases axis.fraction_cases x with ⟨_, missing⟩ | ⟨_, part, stands, nonneg, le⟩
  · exact Or.inl missing
  · right
    rw [stands.2, abs_of_nonneg nonneg]
    exact le

end Axis

section Bounds

open Binary (Representable)

section Ends

variable {start stop fraction : Float32} {count : ℕ} {exponent : ℤ}
  (startAtMost : Single.AtMost (count * 2 ^ exponent) start)
  (stopAtMost : Single.AtMost (count * 2 ^ exponent) stop)
  (short : 3 * count ≤ 2 ^ 24) (least : -149 ≤ exponent)
  (small : ((3 * count : ℕ) : ℚ) * 2 ^ exponent < 2 ^ (128 : ℤ))

include startAtMost stopAtMost short least small

theorem atMost_difference :
    Single.AtMost ((2 * count : ℕ) * 2 ^ exponent) (stop - start) ∧
      ((2 * count : ℕ) : ℚ) * 2 ^ exponent < 2 ^ (128 : ℤ) := by
  have twice : ((2 * count : ℕ) : ℚ) * 2 ^ exponent =
      count * 2 ^ exponent + count * 2 ^ exponent := by
    push_cast
    ring
  have less : ((2 * count : ℕ) : ℚ) * 2 ^ exponent < 2 ^ (128 : ℤ) := by
    refine lt_of_le_of_lt ?_ small
    gcongr
    omega
  refine ⟨?_, less⟩
  rw [twice]
  apply stopAtMost.sub startAtMost <;> rw [← twice]
  · exact Binary.representable_of_nat (by omega) least
  · exact less

/-- An interpolated number is the start and at most all of the difference. -/
theorem atMost_interpolate (fractionAtMost : Single.AtMost 1 fraction) :
    Single.AtMost ((3 * count : ℕ) * 2 ^ exponent) (interpolate start stop fraction) := by
  obtain ⟨difference, less⟩ := atMost_difference startAtMost stopAtMost short least small
  have part := difference.mul_part fractionAtMost
    (Binary.representable_of_nat (by omega) least) less
  have thrice : ((3 * count : ℕ) : ℚ) * 2 ^ exponent =
      count * 2 ^ exponent + (2 * count : ℕ) * 2 ^ exponent := by
    push_cast
    ring
  rw [thrice]
  apply startAtMost.add part <;> rw [← thrice]
  · exact Binary.representable_of_nat short least
  · exact small

end Ends

variable {grid : Grid}

theorem Grid.value_mem (row : Fin grid.before.size) (column : Fin grid.after.size) :
    grid.value row column ∈ grid.values :=
  List.get_mem _ _

/-- What a grid says about a rise is bounded by its values, whatever the rise is. -/
theorem Grid.atMost_lookup (bounded : ∀ value ∈ grid.values, |Single.toRat value| ≤ 2 ^ (99 : ℤ))
    (before after : Float32) : Single.AtMost (2 ^ (103 : ℤ)) (grid.lookup before after) := by
  have atMost (row : Fin grid.before.size) (column : Fin grid.after.size) :
      Single.AtMost ((1 : ℕ) * 2 ^ (99 : ℤ)) (grid.value row column) := by
    rw [Nat.cast_one, one_mul]
    exact Or.inr (bounded _ (grid.value_mem row column))
  have alongRow (row : Fin grid.before.size) :=
    atMost_interpolate (atMost row (grid.after.locate after).lower)
      (atMost row (grid.after.locate after).upper) (by norm_num) (by norm_num) (by norm_num)
      (grid.after.atMost_fraction after)
  have lookedUp :=
    atMost_interpolate (alongRow (grid.before.locate before).lower)
      (alongRow (grid.before.locate before).upper) (by norm_num) (by norm_num) (by norm_num)
      (grid.before.atMost_fraction before)
  exact lookedUp.mono (by norm_num)

end Bounds
end TransientFuel
