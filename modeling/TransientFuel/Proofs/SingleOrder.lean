import TransientFuel.Proofs.SingleArithmetic
import TransientFuel.Single

/-!
# The order of single-precision numbers

Comparisons of single-precision numbers are comparisons of the rational numbers that they stand for,
with missing numbers left out: `lt_iff`, `le_iff` and `beq_iff`. The rest of the file is about
amounts that are not negative, infinite ones among them, since these are what the pump holds.
-/

namespace TransientFuel.Single

open Float.Model Float.Model.UnpackedFloat
open Binary (rounded signFactor)

section Comparison

theorem significand_lt_of_place_lt {left right : ℕ} {leftPlace rightPlace : ℤ}
    (leftProper : Proper left leftPlace) (rightProper : Proper right rightPlace)
    (lt : leftPlace < rightPlace) :
    (left : ℚ) * 2 ^ leftPlace < (right : ℚ) * 2 ^ rightPlace := by
  have long : 2 ^ 23 ≤ right := rightProper.normal.resolve_left (by have := leftProper.least; omega)
  have longRat : (2 : ℚ) ^ (23 : ℤ) ≤ right := by exact_mod_cast long
  have shortRat : (left : ℚ) < 2 ^ (24 : ℤ) := by exact_mod_cast leftProper.short
  calc (left : ℚ) * 2 ^ leftPlace < 2 ^ (24 : ℤ) * 2 ^ leftPlace := by gcongr
    _ = 2 ^ (24 + leftPlace) := (zpow_add₀ (by norm_num) _ _).symm
    _ ≤ 2 ^ (23 + rightPlace) := zpow_le_zpow_right₀ (by norm_num) (by omega)
    _ = 2 ^ (23 : ℤ) * 2 ^ rightPlace := zpow_add₀ (by norm_num) _ _
    _ ≤ (right : ℚ) * 2 ^ rightPlace := by gcongr

/-- Proper numbers are compared by their places first, then by their significands. -/
theorem compares_magnitude {left right : ℕ} {leftPlace rightPlace : ℤ}
    (leftProper : Proper left leftPlace) (rightProper : Proper right rightPlace) :
    ((compare leftPlace rightPlace).then (compare left right)).Compares
      ((left : ℚ) * 2 ^ leftPlace) ((right : ℚ) * 2 ^ rightPlace) := by
  rcases lt_trichotomy leftPlace rightPlace with lt | rfl | gt
  · rw [Int.compare_eq_lt.mpr lt]
    exact significand_lt_of_place_lt leftProper rightProper lt
  · have powerPos : (0 : ℚ) < 2 ^ leftPlace := by positivity
    rw [Int.compare_eq_eq.mpr rfl]
    rcases lt_trichotomy left right with lt | rfl | gt
    · rw [Nat.compare_eq_lt.mpr lt]
      exact mul_lt_mul_of_pos_right (by exact_mod_cast lt) powerPos
    · rw [Nat.compare_eq_eq.mpr rfl]
      exact rfl
    · rw [Nat.compare_eq_gt.mpr gt]
      exact mul_lt_mul_of_pos_right (by exact_mod_cast gt) powerPos
  · rw [Int.compare_eq_gt.mpr gt]
    exact significand_lt_of_place_lt rightProper leftProper gt

theorem Proper.number_pos {significand : ℕ} {place : ℤ} (proper : Proper significand place) :
    (0 : ℚ) < significand * 2 ^ place := by
  have : (0 : ℚ) < significand := by exact_mod_cast proper.positive
  positivity

theorem compares_neg {order : Ordering} {left right : ℚ} (compares : order.Compares left right) :
    order.Compares (-right) (-left) := by
  cases order with
  | lt => exact neg_lt_neg compares
  | eq => exact congrArg Neg.neg compares.symm
  | gt => exact neg_lt_neg compares

/-- Finite numbers are compared as the rational numbers that they stand for. -/
theorem Operand.compares {left right : UnpackedFloat} {leftNumber rightNumber : ℚ}
    (leftGiven : Operand left leftNumber) (rightGiven : Operand right rightNumber) :
    ∃ order, left.compare right = some order ∧ order.Compares leftNumber rightNumber := by
  cases leftGiven with
  | zero leftSign =>
      cases rightGiven with
      | zero rightSign => exact ⟨.eq, rfl, rfl⟩
      | finite rightSign rightProper =>
          have positive := rightProper.number_pos
          cases rightSign with
          | negative =>
              refine ⟨.gt, rfl, ?_⟩
              simpa [Ordering.Compares, Sign.apply] using positive
          | positive =>
              refine ⟨.lt, rfl, ?_⟩
              simpa [Ordering.Compares, Sign.apply] using positive
  | finite leftSign leftProper =>
      have leftPositive := leftProper.number_pos
      cases rightGiven with
      | zero rightSign =>
          cases leftSign with
          | negative =>
              refine ⟨.lt, rfl, ?_⟩
              simpa [Ordering.Compares, Sign.apply] using leftPositive
          | positive =>
              refine ⟨.gt, rfl, ?_⟩
              simpa [Ordering.Compares, Sign.apply] using leftPositive
      | finite rightSign rightProper =>
          have rightPositive := rightProper.number_pos
          have magnitudes := compares_magnitude leftProper rightProper
          cases leftSign with
          | negative =>
              cases rightSign with
              | negative =>
                  refine ⟨_, rfl, Ordering.Compares.of_swap ?_⟩
                  simpa [Sign.apply] using compares_neg magnitudes
              | positive =>
                  refine ⟨.lt, rfl, ?_⟩
                  simp only [Ordering.Compares, Sign.apply, Int.cast_neg, Int.cast_natCast]
                  linarith
          | positive =>
              cases rightSign with
              | negative =>
                  refine ⟨.gt, rfl, ?_⟩
                  simp only [Ordering.Compares, Sign.apply, Int.cast_neg, Int.cast_natCast]
                  linarith
              | positive =>
                  refine ⟨_, rfl, ?_⟩
                  simpa [Sign.apply] using magnitudes

/-- The unpacked numbers that are not missing, each with the rational number it stands for. -/
inductive Ordered : UnpackedFloat → ℚ → Prop
  | infinite (sign : Sign) :
      Ordered (.infinity sign) (signFactor (isMinus sign) * 2 ^ (128 : ℤ))
  | finite {operand : UnpackedFloat} {number : ℚ} (given : Operand operand number) :
      Ordered operand number

theorem ordered_of_isNaN {x : Float32} (isNumber : x.isNaN = false) :
    Ordered x.toModel.unpack (toRat x) := by
  by_cases finite : x.isFinite = true
  · exact .finite (operand_of_isFinite finite)
  · change x.toModel.unpack.isNaN = false at isNumber
    change ¬x.toModel.unpack.isFinite = true at finite
    cases unpacked : x.toModel.unpack with
    | notANumber => simp [unpacked, UnpackedFloat.isNaN] at isNumber
    | infinity sign =>
        rw [toRat_infinity unpacked]
        exact .infinite sign
    | zero sign => simp [unpacked, UnpackedFloat.isFinite] at finite
    | finite sign significand place positive =>
        simp [unpacked, UnpackedFloat.isFinite] at finite

/-- Infinite numbers lie beyond the finite ones, as the numbers that they stand for do. -/
theorem Ordered.compares {left right : UnpackedFloat} {leftNumber rightNumber : ℚ}
    (leftGiven : Ordered left leftNumber) (rightGiven : Ordered right rightNumber) :
    ∃ order, left.compare right = some order ∧ order.Compares leftNumber rightNumber := by
  cases leftGiven with
  | infinite leftSign =>
      cases rightGiven with
      | infinite rightSign =>
          cases leftSign <;> cases rightSign
          · exact ⟨.eq, rfl, rfl⟩
          · exact ⟨.lt, rfl, by simp [isMinus, Ordering.Compares]⟩
          · exact ⟨.gt, rfl, by simp [isMinus, Ordering.Compares]⟩
          · exact ⟨.eq, rfl, rfl⟩
      | finite given =>
          rcases abs_lt.mp given.abs_lt with ⟨lower, upper⟩
          cases leftSign
          · refine ⟨.lt, by cases given <;> rfl, ?_⟩
            simpa [isMinus, Ordering.Compares] using lower
          · refine ⟨.gt, by cases given <;> rfl, ?_⟩
            simpa [isMinus, Ordering.Compares] using upper
  | finite leftFinite =>
      cases rightGiven with
      | infinite rightSign =>
          rcases abs_lt.mp leftFinite.abs_lt with ⟨lower, upper⟩
          cases rightSign
          · refine ⟨.gt, by cases leftFinite <;> rfl, ?_⟩
            simpa [isMinus, Ordering.Compares] using lower
          · refine ⟨.lt, by cases leftFinite <;> rfl, ?_⟩
            simpa [isMinus, Ordering.Compares] using upper
      | finite rightFinite => exact leftFinite.compares rightFinite

theorem compare_of_isNaN {x y : Float32} (missing : x.isNaN = true ∨ y.isNaN = true) :
    x.toModel.unpack.compare y.toModel.unpack = none := by
  change x.toModel.unpack.isNaN = true ∨ y.toModel.unpack.isNaN = true at missing
  cases xUnpacked : x.toModel.unpack <;> cases yUnpacked : y.toModel.unpack <;>
    simp_all [UnpackedFloat.isNaN, UnpackedFloat.compare]

/-- A test of the order that fails on missing numbers is a relation of rational numbers. -/
theorem compare_iff (test : Option Ordering → Prop) (related : ℚ → ℚ → Prop)
    (noOrder : ¬test none)
    (agrees : ∀ {order : Ordering} {left right : ℚ}, order.Compares left right →
      (test (some order) ↔ related left right)) (x y : Float32) :
    test (x.toModel.unpack.compare y.toModel.unpack) ↔
      x.isNaN = false ∧ y.isNaN = false ∧ related (toRat x) (toRat y) := by
  by_cases missing : x.isNaN = true ∨ y.isNaN = true
  · rw [compare_of_isNaN missing]
    refine ⟨fun passed => absurd passed noOrder, ?_⟩
    rintro ⟨xNumber, yNumber, _⟩
    rw [xNumber, yNumber] at missing
    rcases missing with missing | missing <;> contradiction
  · simp only [not_or, Bool.not_eq_true] at missing
    rcases missing with ⟨xNumber, yNumber⟩
    rcases (ordered_of_isNaN xNumber).compares (ordered_of_isNaN yNumber) with
      ⟨order, compareEq, compares⟩
    rw [compareEq, agrees compares]
    exact ⟨fun relation => ⟨xNumber, yNumber, relation⟩, fun known => known.2.2⟩

variable {x y z : Float32}

theorem lt_iff : x < y ↔ x.isNaN = false ∧ y.isNaN = false ∧ toRat x < toRat y := by
  have unfolded : x < y ↔ x.toModel.unpack.compare y.toModel.unpack = some .lt := by
    change decide (x.toModel < y.toModel) = true ↔ _
    rw [decide_eq_true_iff]
    change (x.toModel.unpack.compare y.toModel.unpack == some .lt) = true ↔ _
    rw [beq_iff_eq]
  rw [unfolded]
  apply compare_iff (· = some .lt) (· < ·) (by simp)
  intro order left right compares
  rw [Option.some_inj, compares.eq_lt]

theorem le_iff : x ≤ y ↔ x.isNaN = false ∧ y.isNaN = false ∧ toRat x ≤ toRat y := by
  have unfolded : x ≤ y ↔ (x.toModel.unpack.compare y.toModel.unpack).any (·.isLE) = true := by
    change decide (x.toModel ≤ y.toModel) = true ↔ _
    rw [decide_eq_true_iff]
    rfl
  rw [unfolded]
  apply compare_iff (fun order => order.any (·.isLE) = true) (· ≤ ·) (by simp)
  intro order left right compares
  rw [← compares.ne_gt]
  cases order <;> simp

theorem beq_iff : (x == y) = true ↔ x.isNaN = false ∧ y.isNaN = false ∧ toRat x = toRat y := by
  have unfolded : (x == y) = true ↔
      x.toModel.unpack.compare y.toModel.unpack = some .eq := by
    change (x.toModel.unpack.compare y.toModel.unpack == some .eq) = true ↔ _
    rw [beq_iff_eq]
  rw [unfolded]
  apply compare_iff (· = some .eq) (· = ·) (by simp)
  intro order left right compares
  rw [Option.some_inj, compares.eq_eq]

theorem beq_of_standsFor (stands : StandsFor x (toRat y)) (yNumber : y.isNaN = false) : x == y :=
  beq_iff.mpr ⟨stands.1, yNumber, stands.2⟩

theorem isFinite_of_beq (same : x == y) (finite : y.isFinite = true) : x.isFinite = true := by
  rw [beq_iff] at same
  rw [isFinite_iff] at finite ⊢
  rw [same.2.2]
  exact ⟨same.1, finite.2⟩

protected theorem le_refl (xNumber : x.isNaN = false) : x ≤ x :=
  le_iff.mpr ⟨xNumber, xNumber, le_rfl⟩

protected theorem le_trans (xLe : x ≤ y) (yLe : y ≤ z) : x ≤ z := by
  rw [le_iff] at xLe yLe ⊢
  exact ⟨xLe.1, yLe.2.1, xLe.2.2.trans yLe.2.2⟩

protected theorem le_of_lt (less : x < y) : x ≤ y := by
  rw [lt_iff] at less
  exact le_iff.mpr ⟨less.1, less.2.1, less.2.2.le⟩

protected theorem not_le_of_lt (less : x < y) : ¬y ≤ x := by
  intro le
  exact absurd (le_iff.mp le).2.2 (not_le.mpr (lt_iff.mp less).2.2)

theorem le_of_not_lt (xNumber : x.isNaN = false) (yNumber : y.isNaN = false)
    (notLess : ¬x < y) : y ≤ x := by
  rw [lt_iff] at notLess
  rw [le_iff]
  exact ⟨yNumber, xNumber, not_lt.mp fun less => notLess ⟨xNumber, yNumber, less⟩⟩

theorem lt_of_not_le (xNumber : x.isNaN = false) (yNumber : y.isNaN = false)
    (notLe : ¬x ≤ y) : y < x := by
  rw [le_iff] at notLe
  rw [lt_iff]
  exact ⟨yNumber, xNumber, not_le.mp fun le => notLe ⟨xNumber, yNumber, le⟩⟩

theorem less_irrefl : ¬x < x := by
  simp [lt_iff]

theorem less_trans (first : x < y) (second : y < z) : x < z := by
  rw [lt_iff] at first second ⊢
  exact ⟨first.1, second.2.1, first.2.2.trans second.2.2⟩

theorem beq_swap : (x == y) = (y == x) := by
  rw [Bool.eq_iff_iff, beq_iff, beq_iff]
  tauto

/-- Equal numbers are equal to the same numbers. -/
theorem beq_congr_right (same : (y == z) = true) : (x == y) = (x == z) := by
  rw [beq_iff] at same
  rw [Bool.eq_iff_iff, beq_iff, beq_iff, same.1, same.2.1, same.2.2]

theorem beq_self_of_known (known : x.isNaN = false) : (x == x) = true :=
  beq_iff.mpr ⟨known, known, rfl⟩

theorem not_beq_of_lt (lt : x < y) : (x == y) = false := by
  rw [lt_iff] at lt
  rw [Bool.eq_false_iff, ne_eq, beq_iff]
  intro same
  exact lt.2.2.ne same.2.2

theorem lt_of_lt_of_beq (lt : x < y) (same : (y == z) = true) : x < z := by
  rw [lt_iff] at lt ⊢
  rw [beq_iff] at same
  exact ⟨lt.1, same.2.1, same.2.2 ▸ lt.2.2⟩

end Comparison

section Amounts

variable {operand : UnpackedFloat} {number : ℚ} {x y : Float32}

@[simp]
theorem toRat_zero : toRat 0.0 = 0 := by decide +kernel

@[simp]
theorem toRat_one : toRat 1.0 = 1 := by decide +kernel

theorem nonneg_iff : 0.0 ≤ x ↔ x.isNaN = false ∧ 0 ≤ toRat x := by
  rw [le_iff, toRat_zero]
  exact and_iff_right (by decide)

theorem zero_nonneg : (0.0 : Float32) ≤ 0.0 := by decide

theorem not_neg_iff : ¬x < 0.0 ↔ x.isNaN = true ∨ 0.0 ≤ x := by
  have zero : (0.0 : Float32).isNaN = false := by decide
  rw [lt_iff, nonneg_iff, toRat_zero, zero]
  cases x.isNaN <;> simp

theorem not_neg_of_nonneg (nonneg : 0.0 ≤ x) : ¬x < 0.0 :=
  not_neg_iff.mpr (Or.inr nonneg)

theorem standsFor_zero : StandsFor 0.0 0 :=
  ⟨by decide, toRat_zero⟩

theorem standsFor_infinity : StandsFor (ofPacked (.infinity .positive)) (2 ^ (128 : ℤ)) :=
  ⟨by decide, by decide +kernel⟩

/-- An amount that is not negative is finite or the one infinity. -/
theorem Ordered.infinity_or_operand (given : Ordered operand number) (nonneg : 0 ≤ number) :
    operand = .infinity .positive ∧ number = 2 ^ (128 : ℤ) ∨ Operand operand number := by
  cases given with
  | infinite sign =>
      cases sign with
      | negative => norm_num [isMinus] at nonneg
      | positive => exact Or.inl ⟨rfl, by simp [isMinus]⟩
  | finite given => exact Or.inr given

theorem Ordered.le (given : Ordered operand number) (nonneg : 0 ≤ number) :
    number ≤ 2 ^ (128 : ℤ) := by
  rcases given.infinity_or_operand nonneg with ⟨_, rfl⟩ | finite
  · exact le_rfl
  · exact (abs_lt.mp finite.abs_lt).2.le

variable {left right : UnpackedFloat} {leftNumber rightNumber : ℚ}

/-- A sum of amounts is at least either of them. -/
theorem Ordered.add_nonneg (leftGiven : Ordered left leftNumber) (leftNonneg : 0 ≤ leftNumber)
    (rightGiven : Ordered right rightNumber) (rightNonneg : 0 ≤ rightNumber) :
    ∃ sum, StandsFor (ofPacked (UnpackedFloat.add .binary32 left right)) sum ∧
      rightNumber ≤ sum := by
  have largest := rightGiven.le rightNonneg
  rcases leftGiven.infinity_or_operand leftNonneg with ⟨rfl, _⟩ | leftFinite
  · have infinite : UnpackedFloat.add .binary32 (.infinity .positive) right =
        .infinity .positive := by
      rcases rightGiven.infinity_or_operand rightNonneg with ⟨rfl, _⟩ | rightFinite
      · rfl
      · cases rightFinite <;> rfl
    rw [infinite]
    exact ⟨_, standsFor_infinity, largest⟩
  · rcases rightGiven.infinity_or_operand rightNonneg with ⟨rfl, _⟩ | rightFinite
    · have infinite : UnpackedFloat.add .binary32 left (.infinity .positive) =
          .infinity .positive := by
        cases leftFinite <;> rfl
      rw [infinite]
      exact ⟨_, standsFor_infinity, largest⟩
    · refine ⟨_, leftFinite.add rightFinite, ?_⟩
      calc rightNumber = rounded rightNumber := rightFinite.rounded_eq.symm
        _ ≤ rounded (leftNumber + rightNumber) := Binary.rounded_mono (by linarith)

/-- Taking a smaller amount off leaves an amount, but an infinite one minus itself is missing. -/
theorem Ordered.sub_nonneg (leftGiven : Ordered left leftNumber)
    (rightGiven : Ordered right rightNumber) (rightNonneg : 0 ≤ rightNumber)
    (le : rightNumber ≤ leftNumber) :
    (ofPacked (UnpackedFloat.sub .binary32 left right)).isNaN = true ∨
      ∃ rest, StandsFor (ofPacked (UnpackedFloat.sub .binary32 left right)) rest ∧ 0 ≤ rest := by
  rcases leftGiven.infinity_or_operand (rightNonneg.trans le) with ⟨rfl, _⟩ | leftFinite
  · rcases rightGiven.infinity_or_operand rightNonneg with ⟨rfl, _⟩ | rightFinite
    · left
      decide
    · have infinite : UnpackedFloat.sub .binary32 (.infinity .positive) right =
          .infinity .positive := by
        cases rightFinite <;> rfl
      rw [infinite]
      exact Or.inr ⟨_, standsFor_infinity, by positivity⟩
  · rcases rightGiven.infinity_or_operand rightNonneg with ⟨_, rfl⟩ | rightFinite
    · exact absurd ((abs_lt.mp leftFinite.abs_lt).2.trans_le le) (lt_irrefl _)
    · right
      rw [leftFinite.sub_eq_add_neg rightFinite]
      refine ⟨_, leftFinite.add rightFinite.neg, ?_⟩
      exact Binary.rounded_nonneg (by linarith)

/-- A share of an amount, by a finite positive divisor, is an amount. -/
theorem Ordered.div_nonneg (leftGiven : Ordered left leftNumber) (leftNonneg : 0 ≤ leftNumber)
    (rightGiven : Operand right rightNumber) (rightPos : 0 < rightNumber) :
    ∃ share, StandsFor (ofPacked (UnpackedFloat.div .binary32 left right)) share ∧ 0 ≤ share := by
  rcases leftGiven.infinity_or_operand leftNonneg with ⟨rfl, _⟩ | leftFinite
  · have infinite : UnpackedFloat.div .binary32 (.infinity .positive) right =
        .infinity .positive := by
      cases rightGiven with
      | zero sign => exact absurd rightPos (lt_irrefl _)
      | @finite sign significand place proper =>
          cases sign with
          | negative =>
              have magnitude := proper.number_pos
              rw [cast_apply, isMinus, Binary.signFactor_true] at rightPos
              linarith
          | positive => rfl
    rw [infinite]
    exact ⟨_, standsFor_infinity, by positivity⟩
  · exact ⟨_, leftFinite.div rightGiven rightPos.ne', Binary.rounded_nonneg (by positivity)⟩

theorem le_add_of_nonneg_left (xNonneg : 0.0 ≤ x) (yNonneg : 0.0 ≤ y) : y ≤ x + y := by
  rw [nonneg_iff] at xNonneg yNonneg
  rcases (ordered_of_isNaN xNonneg.1).add_nonneg xNonneg.2 (ordered_of_isNaN yNonneg.1)
    yNonneg.2 with ⟨sum, stands, le⟩
  rw [le_iff]
  exact ⟨yNonneg.1, stands.1, le.trans_eq stands.2.symm⟩

theorem sub_isNaN_or_nonneg (yNonneg : 0.0 ≤ y) (le : y ≤ x) :
    (x - y).isNaN = true ∨ 0.0 ≤ x - y := by
  rw [le_iff] at le
  rcases (ordered_of_isNaN le.2.1).sub_nonneg (ordered_of_isNaN le.1) (nonneg_iff.mp yNonneg).2
    le.2.2 with missing | ⟨rest, stands, nonneg⟩
  · exact Or.inl missing
  · exact Or.inr (nonneg_iff.mpr ⟨stands.1, nonneg.trans_eq stands.2.symm⟩)

theorem div_nonneg_of_finite (xNonneg : 0.0 ≤ x) (yFinite : y.isFinite = true)
    (yPos : 0 < toRat y) : 0.0 ≤ x / y := by
  rw [nonneg_iff] at xNonneg
  rcases (ordered_of_isNaN xNonneg.1).div_nonneg xNonneg.2 (operand_of_isFinite yFinite) yPos with
    ⟨share, stands, nonneg⟩
  exact nonneg_iff.mpr ⟨stands.1, nonneg.trans_eq stands.2.symm⟩

end Amounts

section Missing

variable {x y : Float32}

theorem unpack_of_isNaN (missing : x.isNaN = true) : x.toModel.unpack = .notANumber := by
  change x.toModel.unpack.isNaN = true at missing
  cases unpacked : x.toModel.unpack <;> simp_all [UnpackedFloat.isNaN]

theorem isNaN_add_left (missing : x.isNaN = true) : (x + y).isNaN = true := by
  change (ofPacked (UnpackedFloat.add .binary32 x.toModel.unpack y.toModel.unpack)).isNaN = true
  rw [unpack_of_isNaN missing, UnpackedFloat.add]
  decide

theorem isNaN_sub_left (missing : x.isNaN = true) : (x - y).isNaN = true := by
  change (ofPacked (UnpackedFloat.sub .binary32 x.toModel.unpack y.toModel.unpack)).isNaN = true
  rw [unpack_of_isNaN missing, UnpackedFloat.sub]
  decide

/-- Infinite numbers have no difference with themselves. -/
theorem Ordered.sub_self {operand : UnpackedFloat} {number : ℚ} (given : Ordered operand number) :
    (ofPacked (UnpackedFloat.sub .binary32 operand operand)).isNaN = true ∨
      StandsFor (ofPacked (UnpackedFloat.sub .binary32 operand operand)) 0 := by
  cases given with
  | infinite sign =>
      left
      cases sign <;> decide
  | finite given =>
      right
      have difference := given.add given.neg
      rw [add_neg_cancel, Binary.rounded_zero] at difference
      rw [given.sub_eq_add_neg given]
      exact difference

theorem sub_self_cases (x : Float32) : (x - x).isNaN = true ∨ StandsFor (x - x) 0 := by
  by_cases missing : x.isNaN = true
  · exact Or.inl (isNaN_sub_left missing)
  · exact (ordered_of_isNaN (Bool.eq_false_iff.mpr missing)).sub_self

/-- A number without a minus sign is not negative. -/
theorem toRat_nonneg_of_isNegative (plus : isNegative x = false) : 0 ≤ toRat x := by
  have positive : decide (0x80000000 ≤ x.toBits.toNat) = false := plus
  rw [toRat, Binary.Value.ofSingle]
  simp only [positive]
  split_ifs <;> simp only [Binary.Value.toRat, Binary.signFactor_false] <;> positivity

end Missing

section Larger

variable {x y : Float32}

/-- The first number gives way if it is missing or less; a second that is missing is not more. -/
theorem larger_eq_ite (x y : Float32) : larger x y = if x.isNaN = true ∨ x < y then y else x := by
  rw [larger]
  by_cases xMissing : x.isNaN = true
  · simp only [xMissing, if_true, true_or]
  · cases yMissing : y.isNaN with
    | true =>
        have notLess : ¬x < y := by
          intro less
          rw [lt_iff, yMissing] at less
          simp at less
        simp [notLess]
    | false => simp only [xMissing, false_or, Bool.false_eq_true, if_false]

/-- The larger of two numbers is one of them, and at least the second. -/
theorem larger_cases (yNumber : y.isNaN = false) :
    larger x y = y ∧ (x.isNaN = true ∨ x < y) ∨ larger x y = x ∧ y ≤ x := by
  rw [larger_eq_ite]
  by_cases weak : x.isNaN = true ∨ x < y
  · exact Or.inl ⟨if_pos weak, weak⟩
  · rcases not_or.mp weak with ⟨xKnown, notLess⟩
    exact Or.inr ⟨if_neg weak, le_of_not_lt (Bool.eq_false_iff.mpr xKnown) yNumber notLess⟩

theorem larger_nonneg (yNonneg : 0.0 ≤ y) : 0.0 ≤ larger x y := by
  rw [nonneg_iff] at yNonneg
  rcases larger_cases yNonneg.1 with ⟨larger_eq, _⟩ | ⟨larger_eq, le⟩
  · rw [larger_eq, nonneg_iff]
    exact yNonneg
  · rw [le_iff] at le
    rw [larger_eq, nonneg_iff]
    exact ⟨le.2.1, yNonneg.2.trans le.2.2⟩

theorem standsFor_larger {left right : ℚ} (xStands : StandsFor x left)
    (yStands : StandsFor y right) : StandsFor (larger x y) (max left right) := by
  rcases larger_cases yStands.1 with ⟨larger_eq, missing | lt⟩ | ⟨larger_eq, le⟩
  · rw [xStands.1] at missing
    contradiction
  · rw [larger_eq, ← xStands.2, ← yStands.2, max_eq_right (lt_iff.mp lt).2.2.le]
    exact ⟨yStands.1, rfl⟩
  · rw [larger_eq, ← xStands.2, ← yStands.2, max_eq_left (le_iff.mp le).2.2]
    exact ⟨xStands.1, rfl⟩

theorem standsFor_larger_of_ge {left right : ℚ} (xStands : StandsFor x left)
    (yStands : StandsFor y right) (ge : right ≤ left) : StandsFor (larger x y) left := by
  rw [← max_eq_left ge]
  exact standsFor_larger xStands yStands

theorem standsFor_larger_of_le {left right : ℚ} (xStands : StandsFor x left)
    (yStands : StandsFor y right) (le : left ≤ right) : StandsFor (larger x y) right := by
  rw [← max_eq_right le]
  exact standsFor_larger xStands yStands

/-- A number that is missing or not positive gives way to an amount, up to the sign of zero. -/
theorem standsFor_larger_of_nonpos {number : ℚ} (weak : x.isNaN = true ∨ x ≤ 0.0)
    (stands : StandsFor y number) (nonneg : 0 ≤ number) : StandsFor (larger x y) number := by
  rcases weak with missing | le
  · rw [larger, if_pos missing]
    exact stands
  · rw [le_iff, toRat_zero] at le
    exact standsFor_larger_of_le ⟨le.1, rfl⟩ stands (le.2.2.trans nonneg)

end Larger

end TransientFuel.Single
