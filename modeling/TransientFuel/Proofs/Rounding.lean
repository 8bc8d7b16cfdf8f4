import Mathlib
import TransientFuel.Binary

/-!
# Rounding to single precision

This file relates `Format.nearest` for single precision to the rational numbers. A rational number
is rounded by `rounded`, which is `Format.nearest` read as a number: infinite results are read as
the first power of two beyond the finite ones, so that rounding stays monotone across an overflow.

The facts that the rest of the development uses are that the result is a nearest representable
number, and therefore that rounding is monotone, that it keeps representable numbers, and that
away from the subnormal numbers its relative error is at most `2 ^ (-24)`.
-/

namespace TransientFuel.Binary

/-- The factor of a sign. -/
def signFactor (negative : Bool) : ℚ :=
  if negative then -1 else 1

/--
The number that a value stands for. The infinite values stand for the first powers of two that are
too large for single precision.
-/
def Value.toRat : Value → ℚ
  | .finite negative significand exponent => signFactor negative * (significand * 2 ^ exponent)
  | .infinite negative => signFactor negative * 2 ^ (128 : ℤ)
  | .notNumber => 0

/-- The number that single precision has for a rational one. -/
def rounded (exact : ℚ) : ℚ :=
  (single.nearest (decide (exact < 0)) exact.num.natAbs exact.den).toRat

/-- The numbers that have a significand of single precision, however large they are. -/
def Representable (number : ℚ) : Prop :=
  ∃ significand exponent : ℤ,
    |significand| ≤ 2 ^ 24 ∧ -149 ≤ exponent ∧ number = significand * 2 ^ exponent

section Scaling

theorem scaleTwo_eq (numerator denominator : ℕ) (shift : ℤ) :
    scaleTwo numerator denominator shift =
      if 0 ≤ shift then (numerator * 2 ^ shift.toNat, denominator)
      else (numerator, denominator * 2 ^ (-shift).toNat) := by
  simp only [scaleTwo, Nat.shiftLeft_eq]

theorem scaleTwo_denominator_pos (numerator : ℕ) {denominator : ℕ} (positive : 0 < denominator)
    (shift : ℤ) : 0 < (scaleTwo numerator denominator shift).2 := by
  rw [scaleTwo_eq]
  split
  · exact positive
  · exact Nat.mul_pos positive (Nat.two_pow_pos _)

theorem scaleTwo_numerator_pos {numerator : ℕ} (positive : 0 < numerator) (denominator : ℕ)
    (shift : ℤ) : 0 < (scaleTwo numerator denominator shift).1 := by
  rw [scaleTwo_eq]
  split
  · exact Nat.mul_pos positive (Nat.two_pow_pos _)
  · exact positive

theorem scaleTwo_ratio (numerator denominator : ℕ) (shift : ℤ) :
    ((scaleTwo numerator denominator shift).1 : ℚ) / (scaleTwo numerator denominator shift).2 =
      numerator / denominator * 2 ^ shift := by
  rw [scaleTwo_eq]
  split
  · rename_i nonnegative
    have power : (2 : ℚ) ^ shift.toNat = 2 ^ shift := by
      rw [← zpow_natCast, Int.toNat_of_nonneg nonnegative]
    push_cast
    rw [power]
    ring
  · rename_i negative
    have power : (2 : ℚ) ^ (-shift).toNat = (2 ^ shift)⁻¹ := by
      rw [← zpow_natCast, Int.toNat_of_nonneg (by omega), zpow_neg]
    push_cast
    rw [power, div_mul_eq_div_div, div_inv_eq_mul]

/-- At most one power of two and its successor enclose a number. -/
theorem exponent_unique {number : ℚ} {left right : ℤ}
    (leftLower : (2 : ℚ) ^ left ≤ number) (leftUpper : number < 2 ^ (left + 1))
    (rightLower : (2 : ℚ) ^ right ≤ number) (rightUpper : number < 2 ^ (right + 1)) :
    left = right := by
  have leftLt : left < right + 1 :=
    (zpow_lt_zpow_iff_right₀ (by norm_num)).mp (leftLower.trans_lt rightUpper)
  have rightLt : right < left + 1 :=
    (zpow_lt_zpow_iff_right₀ (by norm_num)).mp (rightLower.trans_lt leftUpper)
  omega

theorem two_pow_log2_le {number : ℕ} (positive : 0 < number) :
    (2 : ℚ) ^ (number.log2 : ℤ) ≤ number := by
  rw [zpow_natCast]
  exact_mod_cast Nat.log2_self_le positive.ne'

theorem lt_two_pow_log2_succ (number : ℕ) : (number : ℚ) < 2 ^ ((number.log2 : ℤ) + 1) := by
  have bound : number < 2 ^ (number.log2 + 1) := Nat.lt_log2_self
  have cast : ((number.log2 : ℤ) + 1) = ((number.log2 + 1 : ℕ) : ℤ) := by push_cast; rfl
  rw [cast, zpow_natCast]
  exact_mod_cast bound

theorem log2Ratio_bounds {numerator denominator : ℕ} (numeratorPos : 0 < numerator)
    (denominatorPos : 0 < denominator) :
    (2 : ℚ) ^ log2Ratio numerator denominator ≤ numerator / denominator ∧
      (numerator / denominator : ℚ) < 2 ^ (log2Ratio numerator denominator + 1) := by
  have positive : (0 : ℚ) < denominator := by exact_mod_cast denominatorPos
  have upLower := two_pow_log2_le numeratorPos
  have upUpper := lt_two_pow_log2_succ numerator
  have downLower := two_pow_log2_le denominatorPos
  have downUpper := lt_two_pow_log2_succ denominator
  set guess : ℤ := (numerator.log2 : ℤ) - (denominator.log2 : ℤ) with guessDef
  -- The quotient of the two leading powers misses the exponent by one at most.
  have upper : (numerator / denominator : ℚ) < 2 ^ (guess + 1) := by
    rw [div_lt_iff₀ positive]
    calc (numerator : ℚ) < 2 ^ ((numerator.log2 : ℤ) + 1) := upUpper
      _ = 2 ^ (guess + 1) * 2 ^ (denominator.log2 : ℤ) := by
          rw [← zpow_add₀ (by norm_num)]
          congr 1
          omega
      _ ≤ 2 ^ (guess + 1) * denominator := by gcongr
  have lower : (2 : ℚ) ^ (guess - 1) ≤ numerator / denominator := by
    rw [le_div_iff₀ positive]
    calc (2 : ℚ) ^ (guess - 1) * denominator
        ≤ 2 ^ (guess - 1) * 2 ^ ((denominator.log2 : ℤ) + 1) := by gcongr
      _ = 2 ^ (numerator.log2 : ℤ) := by
          rw [← zpow_add₀ (by norm_num)]
          congr 1
          omega
      _ ≤ numerator := upLower
  have downPos : (0 : ℚ) < (scaleTwo numerator denominator (-guess)).2 := by
    exact_mod_cast scaleTwo_denominator_pos numerator denominatorPos (-guess)
  have test : (scaleTwo numerator denominator (-guess)).2 ≤
      (scaleTwo numerator denominator (-guess)).1 ↔ (2 : ℚ) ^ guess ≤ numerator / denominator := by
    have ratio := scaleTwo_ratio numerator denominator (-guess)
    rw [zpow_neg, ← div_eq_mul_inv] at ratio
    rw [← Nat.cast_le (α := ℚ), ← one_le_div downPos, ratio, one_le_div (by positivity)]
  have unfolded : log2Ratio numerator denominator =
      if (scaleTwo numerator denominator (-guess)).2 ≤
        (scaleTwo numerator denominator (-guess)).1 then guess else guess - 1 := rfl
  rw [unfolded]
  split
  · rename_i reached
    exact ⟨test.mp reached, upper⟩
  · rename_i missed
    refine ⟨lower, ?_⟩
    rw [sub_add_cancel]
    exact not_le.mp fun reached => missed (test.mpr reached)

end Scaling

section Nearest

theorem roundDiv_mul_right (numerator denominator : ℕ) {factor : ℕ} (positive : 0 < factor) :
    roundDiv (numerator * factor) (denominator * factor) = roundDiv numerator denominator := by
  have below : 2 * (numerator % denominator * factor) < denominator * factor ↔
      2 * (numerator % denominator) < denominator := by
    rw [← mul_assoc, Nat.mul_lt_mul_right positive]
  have above : denominator * factor < 2 * (numerator % denominator * factor) ↔
      denominator < 2 * (numerator % denominator) := by
    rw [← mul_assoc, Nat.mul_lt_mul_right positive]
  simp only [roundDiv, Nat.mul_div_mul_right _ _ positive, Nat.mul_mod_mul_right, below, above]

/-- Rounding a quotient depends on the quotient only. -/
theorem roundDiv_congr {numerator denominator numerator' denominator' : ℕ}
    (positive : 0 < denominator) (positive' : 0 < denominator')
    (same : (numerator / denominator : ℚ) = numerator' / denominator') :
    roundDiv numerator denominator = roundDiv numerator' denominator' := by
  have cross : numerator * denominator' = numerator' * denominator := by
    have nonzero : (denominator : ℚ) ≠ 0 := by exact_mod_cast positive.ne'
    have nonzero' : (denominator' : ℚ) ≠ 0 := by exact_mod_cast positive'.ne'
    rw [div_eq_div_iff nonzero nonzero'] at same
    exact_mod_cast same
  rw [← roundDiv_mul_right numerator denominator positive', cross,
    mul_comm denominator denominator', roundDiv_mul_right numerator' denominator' positive]

theorem abs_roundDiv_sub_le (numerator : ℕ) {denominator : ℕ} (positive : 0 < denominator) :
    |(roundDiv numerator denominator : ℚ) - numerator / denominator| ≤ 1 / 2 := by
  have split := Nat.div_add_mod numerator denominator
  have restLt := Nat.mod_lt numerator positive
  set quotient := numerator / denominator with quotientDef
  set rest := numerator % denominator with restDef
  have positiveRat : (0 : ℚ) < denominator := by exact_mod_cast positive
  have exactQuotient : (numerator / denominator : ℚ) = quotient + rest / denominator := by
    rw [← split]
    push_cast
    field_simp
  have restNonneg : (0 : ℚ) ≤ rest / denominator := by positivity
  have restBelow : (rest / denominator : ℚ) < 1 := by
    rw [div_lt_one positiveRat]
    exact_mod_cast restLt
  -- Rounding down leaves at most half, rounding up at least half.
  have down (half : 2 * rest ≤ denominator) : (rest / denominator : ℚ) ≤ 1 / 2 := by
    rw [div_le_iff₀ positiveRat]
    have : (2 * rest : ℚ) ≤ denominator := by exact_mod_cast half
    linarith
  have up (half : denominator ≤ 2 * rest) : (1 / 2 : ℚ) ≤ rest / denominator := by
    rw [le_div_iff₀ positiveRat]
    have : (denominator : ℚ) ≤ 2 * rest := by exact_mod_cast half
    linarith
  have value : roundDiv numerator denominator = quotient ∧ 2 * rest ≤ denominator ∨
      roundDiv numerator denominator = quotient + 1 ∧ denominator ≤ 2 * rest := by
    simp only [roundDiv, ← quotientDef, ← restDef]
    split_ifs
    · exact Or.inl ⟨rfl, by omega⟩
    · exact Or.inr ⟨rfl, by omega⟩
    · exact Or.inl ⟨rfl, by omega⟩
    · exact Or.inr ⟨rfl, by omega⟩
  rw [exactQuotient, abs_le]
  rcases value with ⟨value, half⟩ | ⟨value, half⟩
  · rw [value]
    constructor <;> linarith [down half]
  · rw [value]
    push_cast
    constructor <;> linarith [up half]

/-- No whole number is nearer than one that is half a unit away at most. -/
theorem abs_sub_le_of_half {whole : ℤ} {number : ℚ} (near : |(whole : ℚ) - number| ≤ 1 / 2)
    (other : ℤ) : |(whole : ℚ) - number| ≤ |(other : ℚ) - number| := by
  by_cases same : whole = other
  · rw [same]
  · have apart : (1 : ℚ) ≤ |(whole : ℚ) - other| := by
      have : 1 ≤ |whole - other| := Int.one_le_abs (sub_ne_zero.mpr same)
      exact_mod_cast this
    have triangle := abs_sub_le (whole : ℚ) number other
    rw [abs_sub_comm number] at triangle
    linarith

/--
The value with a rounded significand in a given last place. Rounding up can make the significand
one bit too long, and the next place is the last one then.
-/
def carried (negative : Bool) (significand : ℕ) (place : ℤ) : Value :=
  if significand = 2 ^ 24 then
    if 104 < place + 1 then .infinite negative else .finite negative (2 ^ 23) (place + 1)
  else if 104 < place then .infinite negative
  else .finite negative significand place

/-- How `nearest` finds a value: the place of the last bit, then the significand in that place. -/
theorem single_nearest_eq (negative : Bool) {numerator denominator : ℕ} {place : ℤ}
    (numeratorPos : 0 < numerator)
    (placeEq : place = max (-149) (log2Ratio numerator denominator - 23)) :
    single.nearest negative numerator denominator =
      carried negative
        (roundDiv (scaleTwo numerator denominator (-place)).1
          (scaleTwo numerator denominator (-place)).2) place := by
  have lastPlaceEq : single.lastPlace numerator denominator = place := by
    rw [placeEq]
    simp only [Format.lastPlace, single]
    push_cast
    congr 1
    ring
  simp only [Format.nearest, if_neg numeratorPos.ne', lastPlaceEq]
  generalize roundDiv (scaleTwo numerator denominator (-place)).1
    (scaleTwo numerator denominator (-place)).2 = significand
  by_cases full : significand = 1 <<< single.precision
  · rw [if_pos full, carried, if_pos (show significand = 2 ^ 24 from full)]
    rfl
  · rw [if_neg full, carried, if_neg (show ¬significand = 2 ^ 24 from full)]
    rfl

theorem single_nearest_ne_notNumber (negative : Bool) (numerator denominator : ℕ) :
    single.nearest negative numerator denominator ≠ .notNumber := by
  rcases Nat.eq_zero_or_pos numerator with rfl | numeratorPos
  · simp [Format.nearest]
  · rw [single_nearest_eq negative numeratorPos rfl, carried]
    split_ifs <;> simp

/-- Rounding depends on the quotient only. -/
theorem single_nearest_congr (negative : Bool) {numerator denominator numerator' denominator' : ℕ}
    (positive : 0 < denominator) (positive' : 0 < denominator')
    (same : (numerator / denominator : ℚ) = numerator' / denominator') :
    single.nearest negative numerator denominator =
      single.nearest negative numerator' denominator' := by
  have nonzero : (denominator : ℚ) ≠ 0 := by exact_mod_cast positive.ne'
  have nonzero' : (denominator' : ℚ) ≠ 0 := by exact_mod_cast positive'.ne'
  rcases Nat.eq_zero_or_pos numerator with rfl | numeratorPos
  · have zero : numerator' = 0 := by
      rw [Nat.cast_zero, zero_div, eq_comm, div_eq_zero_iff] at same
      exact_mod_cast same.resolve_right nonzero'
    rw [zero]
    rfl
  · have numeratorPos' : 0 < numerator' := by
      rcases Nat.eq_zero_or_pos numerator' with rfl | positive
      · rw [Nat.cast_zero, zero_div, div_eq_zero_iff] at same
        have : (numerator : ℚ) ≠ 0 := by exact_mod_cast numeratorPos.ne'
        exact absurd same (by simp [this, nonzero])
      · exact positive
    have bounds := log2Ratio_bounds numeratorPos positive
    have bounds' := log2Ratio_bounds numeratorPos' positive'
    rw [← same] at bounds'
    have exponents := exponent_unique bounds.1 bounds.2 bounds'.1 bounds'.2
    rw [single_nearest_eq negative numeratorPos rfl, single_nearest_eq negative numeratorPos'
      (congrArg (fun exponent => max (-149) (exponent - 23)) exponents)]
    congr 1
    apply roundDiv_congr (scaleTwo_denominator_pos _ positive _)
      (scaleTwo_denominator_pos _ positive' _)
    rw [scaleTwo_ratio, scaleTwo_ratio, same]

end Nearest

section Signs

@[simp]
theorem signFactor_false : signFactor false = 1 := rfl

@[simp]
theorem signFactor_true : signFactor true = -1 := rfl

theorem abs_signFactor (negative : Bool) : |signFactor negative| = 1 := by
  cases negative <;> simp

theorem carried_toRat_sign (negative : Bool) (significand : ℕ) (place : ℤ) :
    (carried negative significand place).toRat =
      signFactor negative * (carried false significand place).toRat := by
  unfold carried
  split_ifs <;> simp [Value.toRat]

/-- The sign takes no part in rounding. -/
theorem toRat_nearest_sign (negative : Bool) (numerator denominator : ℕ) :
    (single.nearest negative numerator denominator).toRat =
      signFactor negative * (single.nearest false numerator denominator).toRat := by
  rcases Nat.eq_zero_or_pos numerator with rfl | numeratorPos
  · simp [Format.nearest, Value.toRat]
  · rw [single_nearest_eq negative numeratorPos rfl, single_nearest_eq false numeratorPos rfl]
    exact carried_toRat_sign ..

theorem rounded_of_nonneg {exact : ℚ} (nonneg : 0 ≤ exact) :
    rounded exact = (single.nearest false exact.num.natAbs exact.den).toRat := by
  rw [rounded, decide_eq_false (not_lt.mpr nonneg)]

theorem toRat_nearest (negative : Bool) (numerator : ℕ) {denominator : ℕ}
    (positive : 0 < denominator) :
    (single.nearest negative numerator denominator).toRat =
      signFactor negative * rounded (numerator / denominator) := by
  have nonneg : (0 : ℚ) ≤ numerator / denominator := by positivity
  rw [toRat_nearest_sign, rounded_of_nonneg nonneg]
  congr 2
  apply single_nearest_congr false positive (Rat.den_pos _)
  have numNonneg := Rat.num_nonneg.mpr nonneg
  rw [← Int.cast_natCast (Int.natAbs _), Int.natAbs_of_nonneg numNonneg, Rat.num_div_den]

@[simp]
theorem rounded_neg (exact : ℚ) : rounded (-exact) = -rounded exact := by
  rw [rounded, rounded, toRat_nearest_sign, toRat_nearest_sign (decide (exact < 0))]
  rw [Rat.neg_num, Int.natAbs_neg, Rat.neg_den]
  rcases lt_trichotomy exact 0 with negative | rfl | positive
  · rw [decide_eq_false (by linarith), decide_eq_true negative]
    simp
  · simp [Format.nearest, Value.toRat]
  · rw [decide_eq_true (by linarith), decide_eq_false (by linarith)]
    simp

@[simp]
theorem rounded_zero : rounded 0 = 0 := by
  simp [rounded, Format.nearest, Value.toRat]

end Signs

section Grid

/-- A significand that overflows its place overflows the format, and no other one does. -/
theorem toRat_carried {significand : ℕ} {place : ℤ} (short : significand ≤ 2 ^ 24)
    (normal : place = -149 ∨ 2 ^ 23 ≤ significand) :
    (carried false significand place).toRat =
      min ((significand : ℚ) * 2 ^ place) (2 ^ (128 : ℤ)) := by
  have powerPos : (0 : ℚ) < 2 ^ place := by positivity
  have shortRat : (significand : ℚ) ≤ 2 ^ (24 : ℤ) := by exact_mod_cast short
  -- The product of a significand bound and a place is a power of two.
  have power (exponent : ℤ) : (2 : ℚ) ^ exponent * 2 ^ place = 2 ^ (exponent + place) :=
    (zpow_add₀ (by norm_num) _ _).symm
  have mono {left right : ℤ} (le : left ≤ right) : (2 : ℚ) ^ left ≤ 2 ^ right :=
    zpow_le_zpow_right₀ (by norm_num) le
  unfold carried
  split_ifs with full tooLarge tooLarge
  · subst full
    have reached : (2 : ℚ) ^ (128 : ℤ) ≤ ((2 ^ 24 : ℕ) : ℚ) * 2 ^ place := by
      calc (2 : ℚ) ^ (128 : ℤ) ≤ 2 ^ (24 + place) := mono (by omega)
        _ = ((2 ^ 24 : ℕ) : ℚ) * 2 ^ place := by rw [← power]; norm_num
    rw [min_eq_right reached]
    simp [Value.toRat]
  · subst full
    have below : ((2 ^ 24 : ℕ) : ℚ) * 2 ^ place ≤ 2 ^ (128 : ℤ) := by
      calc ((2 ^ 24 : ℕ) : ℚ) * 2 ^ place = 2 ^ (24 + place) := by rw [← power]; norm_num
        _ ≤ 2 ^ (128 : ℤ) := mono (by omega)
    rw [min_eq_left below]
    simp only [Value.toRat, signFactor_false, one_mul]
    rw [zpow_add₀ (by norm_num)]
    push_cast
    ring
  · have long : 2 ^ 23 ≤ significand := normal.resolve_left (by omega)
    have longRat : (2 : ℚ) ^ (23 : ℤ) ≤ significand := by exact_mod_cast long
    have reached : (2 : ℚ) ^ (128 : ℤ) ≤ significand * 2 ^ place := by
      calc (2 : ℚ) ^ (128 : ℤ) ≤ 2 ^ (23 + place) := mono (by omega)
        _ = 2 ^ (23 : ℤ) * 2 ^ place := (power 23).symm
        _ ≤ significand * 2 ^ place := by gcongr
    rw [min_eq_right reached]
    simp [Value.toRat]
  · have below : (significand : ℚ) * 2 ^ place ≤ 2 ^ (128 : ℤ) := by
      calc (significand : ℚ) * 2 ^ place ≤ 2 ^ (24 : ℤ) * 2 ^ place := by gcongr
        _ = 2 ^ (24 + place) := power 24
        _ ≤ 2 ^ (128 : ℤ) := mono (by omega)
    rw [min_eq_left below]
    simp [Value.toRat]

variable {numerator denominator : ℕ} {place : ℤ}

/-- The last place of a quotient leaves it a full significand, unless it is the least place. -/
theorem place_bounds (numeratorPos : 0 < numerator) (denominatorPos : 0 < denominator)
    (placeEq : place = max (-149) (log2Ratio numerator denominator - 23)) :
    (numerator / denominator : ℚ) < 2 ^ (place + 24) ∧
      (place = -149 ∨ (2 : ℚ) ^ (place + 23) ≤ numerator / denominator) := by
  have bounds := log2Ratio_bounds numeratorPos denominatorPos
  refine ⟨bounds.2.trans_le (zpow_le_zpow_right₀ (by norm_num) (by omega)), ?_⟩
  rcases le_total (log2Ratio numerator denominator - 23) (-149) with small | large
  · left
    rw [placeEq, max_eq_left small]
  · right
    rw [placeEq, max_eq_right large, sub_add_cancel]
    exact bounds.1

theorem significand_bounds (numeratorPos : 0 < numerator) (denominatorPos : 0 < denominator)
    (placeEq : place = max (-149) (log2Ratio numerator denominator - 23)) {significand : ℕ}
    (significandEq : significand = roundDiv (scaleTwo numerator denominator (-place)).1
      (scaleTwo numerator denominator (-place)).2) :
    |(significand : ℚ) - numerator / denominator / 2 ^ place| ≤ 1 / 2 ∧
      significand ≤ 2 ^ 24 ∧ (place = -149 ∨ 2 ^ 23 ≤ significand) := by
  rcases place_bounds numeratorPos denominatorPos placeEq with ⟨upper, lower⟩
  have powerPos : (0 : ℚ) < 2 ^ place := by positivity
  have near : |(significand : ℚ) - numerator / denominator / 2 ^ place| ≤ 1 / 2 := by
    have error := abs_roundDiv_sub_le (scaleTwo numerator denominator (-place)).1
      (scaleTwo_denominator_pos numerator denominatorPos (-place))
    rwa [← significandEq, scaleTwo_ratio, zpow_neg, ← div_eq_mul_inv] at error
  refine ⟨near, ?_, lower.imp_right fun reached => ?_⟩
  · have quotient : (numerator / denominator / 2 ^ place : ℚ) < 2 ^ 24 := by
      rw [div_lt_iff₀ powerPos, ← zpow_natCast, ← zpow_add₀ (by norm_num), add_comm]
      exact upper
    have : (significand : ℚ) < 2 ^ 24 + 1 := by linarith [(abs_le.mp near).2]
    exact Nat.lt_succ_iff.mp (by exact_mod_cast this)
  · have quotient : (2 : ℚ) ^ 23 ≤ numerator / denominator / 2 ^ place := by
      rw [le_div_iff₀ powerPos, ← zpow_natCast, ← zpow_add₀ (by norm_num), add_comm]
      exact reached
    have : (2 ^ 23 : ℚ) < significand + 1 := by linarith [(abs_le.mp near).1]
    exact Nat.lt_succ_iff.mp (by exact_mod_cast this)

/--
A positive number is rounded in the place of its last bit, which is the least place of all for a
small number and leaves a full significand for any other one.
-/
theorem rounded_grid {exact : ℚ} (positive : 0 < exact) :
    ∃ (significand : ℕ) (place : ℤ), -149 ≤ place ∧
      (place = -149 ∨ 2 ^ (place + 23) ≤ exact) ∧
      |(significand : ℚ) - exact / 2 ^ place| ≤ 1 / 2 ∧
      significand ≤ 2 ^ 24 ∧
      rounded exact = min ((significand : ℚ) * 2 ^ place) (2 ^ (128 : ℤ)) := by
  have numPos : 0 < exact.num.natAbs := Int.natAbs_pos.mpr (Rat.num_pos.mpr positive).ne'
  have ratio : (exact.num.natAbs : ℚ) / exact.den = exact := by
    rw [← Int.cast_natCast (Int.natAbs _), Int.natAbs_of_nonneg (Rat.num_pos.mpr positive).le,
      Rat.num_div_den]
  rcases place_bounds numPos exact.den_pos rfl with ⟨_, lower⟩
  rcases significand_bounds numPos exact.den_pos rfl rfl with ⟨near, short, normal⟩
  rw [ratio] at lower near
  refine ⟨_, _, le_max_left _ _, lower, near, short, ?_⟩
  rw [rounded_of_nonneg positive.le, single_nearest_eq false numPos rfl]
  exact toRat_carried short normal

end Grid

section Order

theorem Representable.neg {number : ℚ} (representable : Representable number) :
    Representable (-number) := by
  rcases representable with ⟨significand, exponent, short, least, rfl⟩
  refine ⟨-significand, exponent, by rwa [abs_neg], least, ?_⟩
  push_cast
  ring

theorem representable_of_nat {significand : ℕ} {exponent : ℤ} (short : significand ≤ 2 ^ 24)
    (least : -149 ≤ exponent) : Representable ((significand : ℚ) * 2 ^ exponent) := by
  refine ⟨significand, exponent, ?_, least, by push_cast; rfl⟩
  rw [abs_of_nonneg (Int.natCast_nonneg _)]
  exact_mod_cast short

theorem representable_zpow {exponent : ℤ} (least : -149 ≤ exponent) :
    Representable ((2 : ℚ) ^ exponent) := by
  have one : Representable (((1 : ℕ) : ℚ) * 2 ^ exponent) :=
    representable_of_nat (by norm_num) least
  rwa [Nat.cast_one, one_mul] at one

/-- Up to an overflow, a positive number is rounded to a nearest representable one. -/
theorem rounded_nearest {exact : ℚ} (positive : 0 < exact) :
    ∃ grid : ℚ, 0 ≤ grid ∧ Representable grid ∧
      (∀ other, Representable other → |grid - exact| ≤ |other - exact|) ∧
      rounded exact = min grid (2 ^ (128 : ℤ)) := by
  rcases rounded_grid positive with ⟨significand, place, least, normal, near, short, value⟩
  have powerPos : (0 : ℚ) < 2 ^ place := by positivity
  refine ⟨(significand : ℚ) * 2 ^ place, by positivity, representable_of_nat short least, ?_,
    value⟩
  -- Among the multiples of the last place, the whole-number bound decides.
  have multiple (whole : ℤ) :
      |(significand : ℚ) * 2 ^ place - exact| ≤ |(whole : ℚ) * 2 ^ place - exact| := by
    have scale (number : ℚ) :
        |number * 2 ^ place - exact| = |number - exact / 2 ^ place| * 2 ^ place := by
      rw [← abs_of_pos powerPos, ← abs_mul, abs_of_pos powerPos, sub_mul,
        div_mul_cancel₀ _ powerPos.ne']
    have nearInt : |(((significand : ℕ) : ℤ) : ℚ) - exact / 2 ^ place| ≤ 1 / 2 := by
      exact_mod_cast near
    rw [scale, scale]
    apply mul_le_mul_of_nonneg_right _ powerPos.le
    exact_mod_cast abs_sub_le_of_half nearInt whole
  rintro other ⟨whole, exponent, wholeShort, exponentLeast, rfl⟩
  rcases le_or_gt place exponent with coarse | fine
  · have onGrid : (whole : ℚ) * 2 ^ exponent =
        ((whole * 2 ^ (exponent - place).toNat : ℤ) : ℚ) * 2 ^ place := by
      push_cast
      rw [← zpow_natCast, Int.toNat_of_nonneg (by omega), mul_assoc,
        ← zpow_add₀ (by norm_num), sub_add_cancel]
    rw [onGrid]
    exact multiple _
  · -- A number off the grid lies below the least full significand, which is on it.
    have full : (2 : ℚ) ^ (place + 23) ≤ exact := normal.resolve_left (by omega)
    have wholeRat : (whole : ℚ) ≤ 2 ^ (24 : ℤ) := by
      exact_mod_cast (le_abs_self whole).trans wholeShort
    have below : (whole : ℚ) * 2 ^ exponent ≤ 2 ^ (place + 23) := by
      calc (whole : ℚ) * 2 ^ exponent ≤ 2 ^ (24 : ℤ) * 2 ^ exponent := by gcongr
        _ = 2 ^ (24 + exponent) := (zpow_add₀ (by norm_num) _ _).symm
        _ ≤ 2 ^ (place + 23) := zpow_le_zpow_right₀ (by norm_num) (by omega)
    have onGrid : ((2 ^ 23 : ℤ) : ℚ) * 2 ^ place = 2 ^ (place + 23) := by
      rw [zpow_add₀ (by norm_num)]
      push_cast
      ring
    calc |(significand : ℚ) * 2 ^ place - exact| ≤ |((2 ^ 23 : ℤ) : ℚ) * 2 ^ place - exact| :=
          multiple _
      _ = exact - 2 ^ (place + 23) := by
          rw [onGrid, abs_sub_comm, abs_of_nonneg (by linarith)]
      _ ≤ exact - (whole : ℚ) * 2 ^ exponent := by linarith
      _ ≤ |(whole : ℚ) * 2 ^ exponent - exact| := by
          rw [abs_sub_comm]
          exact le_abs_self _

theorem rounded_nonneg {exact : ℚ} (nonneg : 0 ≤ exact) : 0 ≤ rounded exact := by
  rcases nonneg.eq_or_lt with rfl | positive
  · rw [rounded_zero]
  · rcases rounded_nearest positive with ⟨grid, gridNonneg, _, _, value⟩
    rw [value]
    exact le_min gridNonneg (by positivity)

/-- Rounding keeps the numbers that it can represent. -/
theorem rounded_of_representable {number : ℚ} (representable : Representable number)
    (bounded : |number| ≤ 2 ^ (128 : ℤ)) : rounded number = number := by
  have positiveCase {number : ℚ} (positive : 0 < number) (representable : Representable number)
      (bounded : |number| ≤ 2 ^ (128 : ℤ)) : rounded number = number := by
    rcases rounded_nearest positive with ⟨grid, _, _, nearest, value⟩
    have gridEq : grid = number := by
      have := nearest number representable
      rw [sub_self, abs_zero] at this
      exact sub_eq_zero.mp (abs_eq_zero.mp (le_antisymm this (abs_nonneg _)))
    rw [value, gridEq]
    exact min_eq_left ((le_abs_self _).trans bounded)
  rcases lt_trichotomy number 0 with negative | rfl | positive
  · have := positiveCase (neg_pos.mpr negative) representable.neg (by rwa [abs_neg])
    rw [rounded_neg] at this
    exact neg_injective this
  · exact rounded_zero
  · exact positiveCase positive representable bounded

theorem rounded_le_rounded_of_pos {left right : ℚ} (positive : 0 < left) (le : left ≤ right) :
    rounded left ≤ rounded right := by
  rcases le.eq_or_lt with rfl | lt
  · rfl
  rcases rounded_nearest positive with ⟨leftGrid, _, leftRepresentable, leftNearest, leftValue⟩
  rcases rounded_nearest (positive.trans lt) with
    ⟨rightGrid, _, rightRepresentable, rightNearest, rightValue⟩
  have gridLe : leftGrid ≤ rightGrid := by
    -- Otherwise the midpoint of the two results would lie right of `right` and left of `left`.
    by_contra crossed
    have leftSquare := sq_le_sq.mpr (leftNearest rightGrid rightRepresentable)
    have rightSquare := sq_le_sq.mpr (rightNearest leftGrid leftRepresentable)
    nlinarith
  rw [leftValue, rightValue]
  exact min_le_min_right _ gridLe

theorem rounded_mono : Monotone rounded := by
  intro left right le
  rcases lt_or_ge 0 left with leftPos | leftNonpos
  · exact rounded_le_rounded_of_pos leftPos le
  rcases lt_or_ge right 0 with rightNeg | rightNonneg
  · have flipped := rounded_le_rounded_of_pos (neg_pos.mpr rightNeg) (neg_le_neg le)
    rwa [rounded_neg, rounded_neg, neg_le_neg_iff] at flipped
  · have leftBound : rounded left ≤ 0 := by
      have flipped := rounded_nonneg (neg_nonneg.mpr leftNonpos)
      rwa [rounded_neg, neg_nonneg] at flipped
    exact leftBound.trans (rounded_nonneg rightNonneg)

theorem le_rounded {number exact : ℚ} (representable : Representable number)
    (bounded : |number| ≤ 2 ^ (128 : ℤ)) (le : number ≤ exact) : number ≤ rounded exact := by
  rw [← rounded_of_representable representable bounded]
  exact rounded_mono le

theorem rounded_le {number exact : ℚ} (representable : Representable number)
    (bounded : |number| ≤ 2 ^ (128 : ℤ)) (le : exact ≤ number) : rounded exact ≤ number := by
  rw [← rounded_of_representable representable bounded]
  exact rounded_mono le

/-- Above the subnormal numbers, the relative error is half a unit at most, up to an overflow. -/
theorem rounded_near {exact : ℚ} (normal : 2 ^ (-126 : ℤ) ≤ exact) :
    ∃ grid : ℚ, |grid - exact| ≤ 2 ^ (-24 : ℤ) * exact ∧
      rounded exact = min grid (2 ^ (128 : ℤ)) := by
  have positive : 0 < exact := lt_of_lt_of_le (by positivity) normal
  rcases rounded_grid positive with ⟨significand, place, _, full, near, _, value⟩
  have powerPos : (0 : ℚ) < 2 ^ place := by positivity
  have withinPlace : (2 : ℚ) ^ (place + 23) ≤ exact := by
    rcases full with rfl | full
    · exact normal
    · exact full
  refine ⟨(significand : ℚ) * 2 ^ place, ?_, value⟩
  calc |(significand : ℚ) * 2 ^ place - exact|
      = |(significand : ℚ) - exact / 2 ^ place| * 2 ^ place := by
        rw [← abs_of_pos powerPos, ← abs_mul, abs_of_pos powerPos, sub_mul,
          div_mul_cancel₀ _ powerPos.ne']
    _ ≤ 1 / 2 * 2 ^ place := by gcongr
    _ = 2 ^ (-24 : ℤ) * 2 ^ (place + 23) := by
        rw [zpow_add₀ (by norm_num)]
        norm_num
        ring
    _ ≤ 2 ^ (-24 : ℤ) * exact := by gcongr

/-- Between the subnormal numbers and an overflow, the relative error is half a unit at most. -/
theorem abs_rounded_sub_le {exact : ℚ} (normal : 2 ^ (-126 : ℤ) ≤ exact)
    (bounded : exact ≤ 2 ^ (127 : ℤ)) : |rounded exact - exact| ≤ 2 ^ (-24 : ℤ) * exact := by
  rcases rounded_near normal with ⟨grid, error, value⟩
  have below : grid ≤ 2 ^ (128 : ℤ) := by
    have := (abs_le.mp error).2
    norm_num at this bounded ⊢
    linarith
  rw [value, min_eq_left below]
  exact error

end Order

end TransientFuel.Binary
