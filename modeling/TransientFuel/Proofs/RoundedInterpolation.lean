import TransientFuel.Curve
import TransientFuel.Proofs.Interpolation
import TransientFuel.Proofs.StuckAmounts

/-!
# Interpolation with rounding

An interpolated number is rounded three times: the difference of its two ends, the part of the
difference, and the sum. The rounded difference can be longer than the exact one. But a part of it
that is less than all of it is never longer than the exact difference, `Binary.rounded_way_le`, so
the number lies between the two ends, `Binary.interpolated_mem_uIcc`. Only at the far end can it lie
beyond. With that it is known which interpolated numbers are finite, `isFinite_interpolate_iff`.
-/

namespace TransientFuel

namespace Binary

/-- The number that single precision has at a fraction of the way between two numbers. -/
def interpolated (start stop fraction : ℚ) : ℚ :=
  rounded (start + rounded (rounded (stop - start) * fraction))

section Nearest

variable {exact other : ℚ}

theorem representable_rounded (exact : ℚ) : Representable (rounded exact) := by
  have positiveCase {exact : ℚ} (positive : 0 < exact) : Representable (rounded exact) := by
    rcases rounded_nearest positive with ⟨grid, _, representable, _, value⟩
    rw [value]
    rcases min_choice grid (2 ^ (128 : ℤ)) with equal | equal <;> rw [equal]
    · exact representable
    · exact representable_zpow (by norm_num)
  rcases lt_trichotomy exact 0 with negative | rfl | positive
  · have opposite := (positiveCase (neg_pos.mpr negative)).neg
    rwa [rounded_neg, neg_neg] at opposite
  · exact rounded_zero ▸ ⟨0, 0, by norm_num, by norm_num, by norm_num⟩
  · exact positiveCase positive

theorem Representable.abs {number : ℚ} (representable : Representable number) :
    Representable |number| := by
  rcases abs_choice number with same | opposite
  · rwa [same]
  · rw [opposite]
    exact representable.neg

/-- What lies between a number and its rounding is not representable. -/
theorem rounded_le_of_lt (representable : Representable other) (positive : 0 < exact)
    (bounded : rounded exact < 2 ^ (128 : ℤ)) (less : exact < other) : rounded exact ≤ other := by
  rcases rounded_nearest positive with ⟨grid, _, _, nearest, value⟩
  have gridEq : rounded exact = grid := by
    rw [value] at bounded ⊢
    exact min_eq_left ((min_lt_iff.mp bounded).resolve_right (lt_irrefl _)).le
  have near := nearest other representable
  rw [gridEq]
  rw [abs_of_pos (sub_pos.mpr less)] at near
  linarith [le_abs_self (grid - exact)]

/-- Differences too small to be normal are exact. -/
theorem Representable.sub_tiny {left right : ℚ} (leftRepresentable : Representable left)
    (rightRepresentable : Representable right) (tiny : |right - left| ≤ 2 ^ (-126 : ℤ)) :
    Representable (right - left) := by
  rcases leftRepresentable.exists_int with ⟨leftMultiple, rfl⟩
  rcases rightRepresentable.exists_int with ⟨rightMultiple, rfl⟩
  rw [← sub_mul, ← Int.cast_sub] at tiny ⊢
  refine ⟨rightMultiple - leftMultiple, -149, ?_, le_rfl, rfl⟩
  have power : (0 : ℚ) < 2 ^ (-149 : ℤ) := by positivity
  rw [abs_mul, abs_of_pos power, ← le_div_iff₀ power] at tiny
  have short : |((rightMultiple - leftMultiple : ℤ) : ℚ)| ≤ 2 ^ 24 := tiny.trans (by norm_num)
  exact_mod_cast short

end Nearest

section Fractions

variable {start stop fraction : ℚ}

/-- Less than all of a number is less after rounding too, unless the number is very small. -/
theorem rounded_mul_lt {number : ℚ} (fractionRepresentable : Representable fraction)
    (part : fraction < 1) (normal : 2 ^ (-126 : ℤ) ≤ number * fraction)
    (positive : 0 < number) : rounded (number * fraction) < number := by
  have one : Representable ((2 : ℚ) ^ (0 : ℤ)) := representable_zpow (by norm_num)
  have gap := fractionRepresentable.gap one (by simpa using part)
  rw [zpow_zero, mul_one] at gap
  rcases rounded_near normal with ⟨grid, error, value⟩
  rw [value]
  apply (min_le_left _ _).trans_lt
  have upper := (abs_le.mp error).2
  have unit : (0 : ℚ) < 2 ^ (-24 : ℤ) := by positivity
  nlinarith [mul_pos unit positive, mul_le_mul_of_nonneg_left gap positive.le,
    mul_lt_mul_of_pos_left part (mul_pos unit positive)]

variable (startRepresentable : Representable start) (stopRepresentable : Representable stop)

include startRepresentable stopRepresentable

/-- The rounded difference can be longer than the exact one, but no smaller part of it is. -/
theorem rounded_way_le (ordered : start ≤ stop) (short : rounded (stop - start) < 2 ^ (128 : ℤ))
    (fractionRepresentable : Representable fraction) (part : fraction < 1) :
    rounded (rounded (stop - start) * fraction) ≤ stop - start := by
  rcases ordered.eq_or_lt with rfl | less
  · simp
  have positive : 0 < stop - start := sub_pos.mpr less
  have roundedPos := rounded_sub_pos startRepresentable stopRepresentable less
  by_contra beyond
  rw [not_le] at beyond
  -- A representable number beyond the exact difference is not before the rounded one.
  have all := rounded_le_of_lt (representable_rounded _) positive short beyond
  rcases lt_or_ge (rounded (stop - start) * fraction) (2 ^ (-126 : ℤ)) with tiny | normal
  · have small : rounded (rounded (stop - start) * fraction) ≤ 2 ^ (-126 : ℤ) :=
      rounded_le (representable_zpow (by norm_num)) (by norm_num) tiny.le
    have magnitude : |stop - start| ≤ 2 ^ (-126 : ℤ) := by
      rw [abs_of_pos positive]
      exact beyond.le.trans small
    have exact := startRepresentable.sub_tiny stopRepresentable magnitude
    have bounded : |stop - start| ≤ 2 ^ (128 : ℤ) := magnitude.trans (by norm_num)
    rw [rounded_of_representable exact bounded] at beyond
    apply absurd beyond
    rw [not_lt]
    exact rounded_le exact bounded (mul_le_of_le_one_right positive.le part.le)
  · exact absurd all (not_le.mpr (rounded_mul_lt fractionRepresentable part normal roundedPos))

theorem interpolated_mem_Icc (ordered : start ≤ stop) (startBounded : |start| ≤ 2 ^ (128 : ℤ))
    (stopBounded : |stop| ≤ 2 ^ (128 : ℤ)) (short : rounded (stop - start) < 2 ^ (128 : ℤ))
    (fractionRepresentable : Representable fraction) (nonneg : 0 ≤ fraction) (part : fraction < 1) :
    interpolated start stop fraction ∈ Set.Icc start stop := by
  have way := rounded_way_le startRepresentable stopRepresentable ordered short
    fractionRepresentable part
  have wayNonneg : 0 ≤ rounded (rounded (stop - start) * fraction) :=
    rounded_nonneg (mul_nonneg (rounded_nonneg (sub_nonneg.mpr ordered)) nonneg)
  constructor
  · exact le_rounded startRepresentable startBounded (by linarith)
  · exact rounded_le stopRepresentable stopBounded (by linarith)

omit startRepresentable stopRepresentable in
theorem interpolated_neg (start stop fraction : ℚ) :
    interpolated (-start) (-stop) fraction = -interpolated start stop fraction := by
  have opposite : -stop - -start = -(stop - start) := by ring
  simp only [interpolated, opposite, rounded_neg, neg_mul, ← neg_add]

theorem interpolated_mem_uIcc (startBounded : |start| ≤ 2 ^ (128 : ℤ))
    (stopBounded : |stop| ≤ 2 ^ (128 : ℤ)) (short : |rounded (stop - start)| < 2 ^ (128 : ℤ))
    (fractionRepresentable : Representable fraction) (nonneg : 0 ≤ fraction) (part : fraction < 1) :
    interpolated start stop fraction ∈ Set.uIcc start stop := by
  rw [abs_lt] at short
  rcases le_total start stop with ordered | ordered
  · rw [Set.uIcc_of_le ordered]
    exact interpolated_mem_Icc startRepresentable stopRepresentable ordered startBounded
      stopBounded short.2 fractionRepresentable nonneg part
  · have opposite : -stop - -start = -(stop - start) := by ring
    have mirrored := interpolated_mem_Icc startRepresentable.neg stopRepresentable.neg
      (neg_le_neg ordered) (by rwa [abs_neg]) (by rwa [abs_neg])
      (by rw [opposite, rounded_neg]; linarith) fractionRepresentable nonneg part
    rw [interpolated_neg, Set.mem_Icc] at mirrored
    rw [Set.uIcc_of_ge ordered, Set.mem_Icc]
    constructor <;> linarith

omit stopRepresentable in
/-- From an amount, no part of the way to another amount leads below zero. -/
theorem interpolated_nonneg (startBounded : |start| ≤ 2 ^ (128 : ℤ)) (startNonneg : 0 ≤ start)
    (stopNonneg : 0 ≤ stop) (nonneg : 0 ≤ fraction) (part : fraction ≤ 1) :
    0 ≤ interpolated start stop fraction := by
  have oppositeBounded : |-start| ≤ 2 ^ (128 : ℤ) := by rwa [abs_neg]
  have difference : -start ≤ rounded (stop - start) :=
    le_rounded startRepresentable.neg oppositeBounded (by linarith)
  have way : -start ≤ rounded (stop - start) * fraction := by
    rcases le_total 0 (rounded (stop - start)) with ahead | back
    · linarith [mul_nonneg ahead nonneg]
    · linarith [mul_le_mul_of_nonpos_left part back]
  have rest := le_rounded startRepresentable.neg oppositeBounded way
  exact rounded_nonneg (by linarith)

end Fractions

end Binary

section Numbers

open Single (toRat StandsFor)
open Binary (rounded interpolated)

variable {start stop fraction : Float32} {part : ℚ}

theorem finite_of_interpolate (finite : (interpolate start stop fraction).isFinite = true) :
    start.isFinite = true ∧ stop.isFinite = true ∧ (stop - start).isFinite = true ∧
      fraction.isFinite = true := by
  rcases Single.isFinite_of_add finite with ⟨startFinite, goneFinite⟩
  rcases Single.isFinite_of_mul goneFinite with ⟨wayFinite, fractionFinite⟩
  exact ⟨startFinite, (Single.isFinite_of_sub wayFinite).1, wayFinite, fractionFinite⟩

theorem isFinite_of_part (given : StandsFor fraction part) (nonneg : 0 ≤ part) (le : part ≤ 1) :
    fraction.isFinite = true := by
  apply Single.isFinite_of_standsFor given
  rw [abs_of_nonneg nonneg]
  exact le.trans_lt (by norm_num)

section Known

variable (startFinite : start.isFinite = true) (wayFinite : (stop - start).isFinite = true)
  (given : StandsFor fraction part) (nonneg : 0 ≤ part) (le : part ≤ 1)

include startFinite wayFinite given nonneg le

theorem standsFor_interpolate :
    StandsFor (interpolate start stop fraction)
      (interpolated (toRat start) (toRat stop) part) := by
  have fractionFinite := isFinite_of_part given nonneg le
  have gone := Single.standsFor_mul wayFinite fractionFinite
  have goneFinite : ((stop - start) * fraction).isFinite = true := by
    have wayBounded := ((Single.isFinite_iff _).mp wayFinite).2
    apply Single.isFinite_of_standsFor gone
    refine (Binary.abs_rounded_le ?_ wayBounded.le ?_).trans_lt wayBounded
    · exact (Single.operand_of_isFinite wayFinite).representable.abs
    · rw [abs_mul, given.2, abs_of_nonneg nonneg]
      exact mul_le_of_le_one_right (abs_nonneg _) le
  have sum := Single.standsFor_add startFinite goneFinite
  have way := Single.standsFor_sub (Single.isFinite_of_sub wayFinite).1 startFinite
  rw [gone.2, way.2, given.2] at sum
  exact sum

theorem toRat_interpolate_mem_uIcc (short : part < 1) :
    toRat (interpolate start stop fraction) ∈ Set.uIcc (toRat start) (toRat stop) := by
  have stopFinite := (Single.isFinite_of_sub wayFinite).1
  have startOperand := Single.operand_of_isFinite startFinite
  have stopOperand := Single.operand_of_isFinite stopFinite
  have wayBounded := ((Single.isFinite_iff _).mp wayFinite).2
  rw [(Single.standsFor_sub stopFinite startFinite).2] at wayBounded
  have fractionRepresentable :=
    (Single.operand_of_isFinite (isFinite_of_part given nonneg le)).representable
  rw [given.2] at fractionRepresentable
  rw [(standsFor_interpolate startFinite wayFinite given nonneg le).2]
  exact Binary.interpolated_mem_uIcc startOperand.representable stopOperand.representable
    startOperand.abs_lt.le stopOperand.abs_lt.le wayBounded fractionRepresentable nonneg short

end Known

/-- At the far end the number is the start and the rounded difference. -/
theorem toRat_interpolate_of_one (startFinite : start.isFinite = true)
    (wayFinite : (stop - start).isFinite = true) (given : StandsFor fraction 1) :
    toRat (interpolate start stop fraction) = toRat (start + (stop - start)) := by
  have way := Single.standsFor_sub (Single.isFinite_of_sub wayFinite).1 startFinite
  rw [(standsFor_interpolate startFinite wayFinite given zero_le_one le_rfl).2,
    (Single.standsFor_add startFinite wayFinite).2, interpolated, ← way.2, mul_one,
    Single.rounded_toRat wayFinite]

/--
That an interpolation leaves the finite numbers: its ends are too far apart, or it goes to the far
end, and the rounded difference leads beyond it.
-/
def Overshoots (start stop fraction : Float32) : Prop :=
  (stop - start).isFinite = false ∨
    fraction == 1.0 ∧ (start + (stop - start)).isFinite = false

theorem isFinite_interpolate_iff (startFinite : start.isFinite = true)
    (stopFinite : stop.isFinite = true) (given : StandsFor fraction part) (nonneg : 0 ≤ part)
    (le : part ≤ 1) :
    (interpolate start stop fraction).isFinite = true ↔ ¬Overshoots start stop fraction := by
  rw [Overshoots, not_or, not_and, Bool.not_eq_false, Bool.not_eq_false]
  have one : fraction == 1.0 ↔ part = 1 := by
    rw [Single.beq_iff, given.2, Single.toRat_one]
    exact ⟨fun known => known.2.2, fun equal => ⟨given.1, by decide, equal⟩⟩
  constructor
  · intro finite
    rcases finite_of_interpolate finite with ⟨_, _, wayFinite, _⟩
    refine ⟨wayFinite, fun far => ?_⟩
    have sum := Single.standsFor_add startFinite wayFinite
    rw [one.mp far] at given
    rw [Single.isFinite_iff] at finite ⊢
    rw [← toRat_interpolate_of_one startFinite wayFinite given]
    exact ⟨sum.1, finite.2⟩
  · rintro ⟨wayFinite, reached⟩
    have stands := standsFor_interpolate startFinite wayFinite given nonneg le
    rw [Single.isFinite_iff]
    refine ⟨stands.1, ?_⟩
    rcases le.lt_or_eq with short | rfl
    · have between := toRat_interpolate_mem_uIcc startFinite wayFinite given nonneg le short
      have startBounds := abs_lt.mp ((Single.isFinite_iff _).mp startFinite).2
      have stopBounds := abs_lt.mp ((Single.isFinite_iff _).mp stopFinite).2
      rw [abs_lt]
      rcases Set.mem_uIcc.mp between with ⟨lower, upper⟩ | ⟨lower, upper⟩ <;>
        constructor <;> linarith
    · rw [toRat_interpolate_of_one startFinite wayFinite given]
      exact ((Single.isFinite_iff _).mp (reached (one.mpr rfl))).2

end Numbers

namespace Grid

variable (grid : Grid)

theorem isFinite_value (row : Fin grid.before.size) (column : Fin grid.after.size) :
    (grid.value row column).isFinite = true :=
  grid.values_finite _ (grid.value_mem row column)

/-- What a grid says in one of its rows. -/
def along (row : Fin grid.before.size) (column : Cell grid.after.size) : Float32 :=
  interpolate (grid.value row column.lower) (grid.value row column.upper) column.fraction

theorem lookup_eq (before after : Float32) :
    grid.lookup before after =
      interpolate (grid.along (grid.before.locate before).lower (grid.after.locate after))
        (grid.along (grid.before.locate before).upper (grid.after.locate after))
        (grid.before.locate before).fraction :=
  rfl

end Grid

namespace Curve

variable (curve : Curve)

theorem multiplier_mem (index : Fin curve.ages.size) :
    curve.multiplier index ∈ curve.multipliers :=
  List.get_mem _ _

theorem isFinite_multiplier (index : Fin curve.ages.size) :
    (curve.multiplier index).isFinite = true :=
  curve.multipliers_finite _ (curve.multiplier_mem index)

end Curve
end TransientFuel
