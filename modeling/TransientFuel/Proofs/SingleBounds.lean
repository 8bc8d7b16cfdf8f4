import TransientFuel.Proofs.SingleOrder

/-!
# Bounds of single-precision results

A result is missing if an operand is, and no sum, difference or product is finite unless both of its
operands are. Apart from that, magnitudes can be bounded as if there were no rounding, as long as
the bounds have a significand of single precision themselves: rounding is monotone and keeps such
numbers. This is what `AtMost` and its lemmas say.
-/

namespace TransientFuel

namespace Binary

/-- Representable bounds survive rounding. -/
theorem abs_rounded_le {number bound : ℚ} (representable : Representable bound)
    (small : bound ≤ 2 ^ (128 : ℤ)) (le : |number| ≤ bound) : |rounded number| ≤ bound := by
  have nonneg : 0 ≤ bound := (abs_nonneg number).trans le
  rw [abs_le] at le ⊢
  constructor
  · apply le_rounded representable.neg _ le.1
    rw [abs_neg, abs_of_nonneg nonneg]
    exact small
  · apply rounded_le representable _ le.2
    rw [abs_of_nonneg nonneg]
    exact small

/-- Representable numbers are whole multiples of the least power of two. -/
theorem Representable.exists_int {number : ℚ} (representable : Representable number) :
    ∃ multiple : ℤ, number = multiple * 2 ^ (-149 : ℤ) := by
  rcases representable with ⟨significand, exponent, _, least, rfl⟩
  obtain ⟨shift, shiftEq⟩ := Int.eq_ofNat_of_zero_le (show 0 ≤ exponent + 149 by omega)
  refine ⟨significand * 2 ^ shift, ?_⟩
  rw [Int.cast_mul, Int.cast_pow, Int.cast_ofNat, mul_assoc, ← zpow_natCast,
    ← zpow_add₀ (by norm_num)]
  congr 2
  omega

/-- The difference of two representable numbers does not vanish by rounding. -/
theorem rounded_sub_pos {left right : ℚ} (leftRepresentable : Representable left)
    (rightRepresentable : Representable right) (lt : left < right) :
    0 < rounded (right - left) := by
  rcases leftRepresentable.exists_int with ⟨leftMultiple, rfl⟩
  rcases rightRepresentable.exists_int with ⟨rightMultiple, rfl⟩
  have powerPos : (0 : ℚ) < 2 ^ (-149 : ℤ) := by positivity
  have apart : leftMultiple + 1 ≤ rightMultiple := by
    have := lt_of_mul_lt_mul_right lt powerPos.le
    exact_mod_cast this
  have apartRat : (leftMultiple : ℚ) + 1 ≤ rightMultiple := by exact_mod_cast apart
  apply powerPos.trans_le
  apply le_rounded (representable_zpow le_rfl) (by norm_num)
  nlinarith

end Binary

namespace Single

open Float.Model Float.Model.UnpackedFloat
open Binary (rounded Representable)

variable {x y z : Float32}

section Missing

variable {operation : UnpackedFloat → UnpackedFloat → UnpackedFloat}

/-- An operation that has no result without a right operand. -/
theorem isNaN_of_right (strict : ∀ left, operation left .notANumber = .notANumber)
    (left : UnpackedFloat) (missing : y.isNaN = true) :
    (ofPacked (operation left y.toModel.unpack)).isNaN = true := by
  rw [unpack_of_isNaN missing, strict]
  decide

theorem isNaN_add_right (missing : y.isNaN = true) : (x + y).isNaN = true := by
  apply isNaN_of_right _ x.toModel.unpack missing
  intro left
  cases left <;> rfl

theorem isNaN_sub_right (missing : y.isNaN = true) : (x - y).isNaN = true := by
  apply isNaN_of_right _ x.toModel.unpack missing
  intro left
  cases left <;> rfl

theorem isNaN_mul_right (missing : y.isNaN = true) : (x * y).isNaN = true := by
  apply isNaN_of_right _ x.toModel.unpack missing
  intro left
  cases left <;> rfl

theorem isNaN_mul_left (missing : x.isNaN = true) : (x * y).isNaN = true := by
  change (ofPacked (UnpackedFloat.mul .binary32 x.toModel.unpack y.toModel.unpack)).isNaN = true
  rw [unpack_of_isNaN missing, UnpackedFloat.mul]
  decide

variable {left right : UnpackedFloat}

theorem isFinite_of_ofPacked {result : UnpackedFloat}
    (finite : (ofPacked result).isFinite = true) : result.isFinite = true := by
  cases result with
  | notANumber => exact absurd finite (by decide)
  | infinity sign => cases sign <;> exact absurd finite (by decide)
  | zero sign => rfl
  | finite sign significand place positive => rfl

theorem finite_operands_add (finite : (UnpackedFloat.add .binary32 left right).isFinite = true) :
    left.isFinite = true ∧ right.isFinite = true := by
  cases left with
  | notANumber => contradiction
  | infinity sign =>
      cases right with
      | infinity other => cases sign <;> cases other <;> contradiction
      | _ => contradiction
  | _ => cases right <;> first | contradiction | exact ⟨rfl, rfl⟩

theorem finite_operands_sub (finite : (UnpackedFloat.sub .binary32 left right).isFinite = true) :
    left.isFinite = true ∧ right.isFinite = true := by
  cases left with
  | notANumber => contradiction
  | infinity sign =>
      cases right with
      | infinity other => cases sign <;> cases other <;> contradiction
      | _ => contradiction
  | _ => cases right <;> first | contradiction | exact ⟨rfl, rfl⟩

theorem finite_operands_mul (finite : (UnpackedFloat.mul .binary32 left right).isFinite = true) :
    left.isFinite = true ∧ right.isFinite = true := by
  cases left <;> cases right <;> first | contradiction | exact ⟨rfl, rfl⟩

/-- No sum is finite again once an operand is lost, and no difference or product. -/
theorem isFinite_of_add (finite : (x + y).isFinite = true) :
    x.isFinite = true ∧ y.isFinite = true :=
  finite_operands_add (isFinite_of_ofPacked finite)

theorem isFinite_of_sub (finite : (x - y).isFinite = true) :
    x.isFinite = true ∧ y.isFinite = true :=
  finite_operands_sub (isFinite_of_ofPacked finite)

theorem isFinite_of_mul (finite : (x * y).isFinite = true) :
    x.isFinite = true ∧ y.isFinite = true :=
  finite_operands_mul (isFinite_of_ofPacked finite)

end Missing

section Infinity

variable {operand : UnpackedFloat} {number : ℚ}

theorem Operand.div_infinity (given : Operand operand number) :
    ∃ sign, UnpackedFloat.div .binary32 operand (.infinity .positive) = .zero sign := by
  cases given <;> exact ⟨_, rfl⟩

theorem isFinite_of_nonneg (nonneg : 0.0 ≤ x) (small : toRat x < 2 ^ (128 : ℤ)) :
    x.isFinite = true := by
  rw [nonneg_iff] at nonneg
  rw [isFinite_iff, abs_of_nonneg nonneg.2]
  exact ⟨nonneg.1, small⟩

theorem toRat_of_infinite (nonneg : 0.0 ≤ x) (infinite : x.isFinite = false) :
    toRat x = 2 ^ (128 : ℤ) := by
  rw [nonneg_iff] at nonneg
  rcases (ordered_of_isNaN nonneg.1).infinity_or_operand nonneg.2 with ⟨_, valueEq⟩ | finite
  · exact valueEq
  · have := (isFinite_iff x).mpr ⟨nonneg.1, finite.abs_lt⟩
    rw [infinite] at this
    contradiction

theorem Operand.sub_infinity (given : Operand operand number) :
    UnpackedFloat.sub .binary32 operand (.infinity .positive) = .infinity .negative := by
  cases given <;> rfl

end Infinity

section Bounds

/-- A magnitude that is bounded unless it is missing. -/
def AtMost (bound : ℚ) (x : Float32) : Prop :=
  x.isNaN = true ∨ |toRat x| ≤ bound

namespace AtMost

variable {bound left right : ℚ}

theorem mono (atMost : AtMost left x) (le : left ≤ right) : AtMost right x :=
  atMost.imp_right fun bounded => bounded.trans le

theorem isFinite (atMost : AtMost bound x) (known : x.isNaN = false)
    (small : bound < 2 ^ (128 : ℤ)) : x.isFinite = true := by
  rcases atMost with missing | bounded
  · rw [known] at missing
    contradiction
  · exact (isFinite_iff x).mpr ⟨known, bounded.trans_lt small⟩

/-- A result that is the rounded value of something within a representable bound. -/
theorem of_rounded {number : ℚ} (stands : StandsFor x (rounded number))
    (representable : Representable bound) (small : bound ≤ 2 ^ (128 : ℤ))
    (le : |number| ≤ bound) : AtMost bound x := by
  right
  rw [stands.2]
  exact Binary.abs_rounded_le representable small le

/-- Two bounded numbers are finite, unless one of them is missing. -/
theorem finite_or_missing (xAtMost : AtMost left x) (yAtMost : AtMost right y)
    (small : left + right < 2 ^ (128 : ℤ)) :
    x.isNaN = true ∨ y.isNaN = true ∨ (x.isFinite = true ∧ |toRat x| ≤ left) ∧
      y.isFinite = true ∧ |toRat y| ≤ right := by
  by_cases xMissing : x.isNaN = true
  · exact Or.inl xMissing
  by_cases yMissing : y.isNaN = true
  · exact Or.inr (Or.inl yMissing)
  have xBounded := xAtMost.resolve_left xMissing
  have yBounded := yAtMost.resolve_left yMissing
  have leftNonneg := (abs_nonneg _).trans xBounded
  have rightNonneg := (abs_nonneg _).trans yBounded
  have xFinite := xAtMost.isFinite (Bool.eq_false_iff.mpr xMissing) (by linarith)
  have yFinite := yAtMost.isFinite (Bool.eq_false_iff.mpr yMissing) (by linarith)
  exact Or.inr (Or.inr ⟨⟨xFinite, xBounded⟩, yFinite, yBounded⟩)

theorem add (xAtMost : AtMost left x) (yAtMost : AtMost right y)
    (representable : Representable (left + right)) (small : left + right < 2 ^ (128 : ℤ)) :
    AtMost (left + right) (x + y) := by
  rcases xAtMost.finite_or_missing yAtMost small with
    xMissing | yMissing | ⟨⟨xFinite, xBounded⟩, yFinite, yBounded⟩
  · exact Or.inl (isNaN_add_left xMissing)
  · exact Or.inl (isNaN_add_right yMissing)
  · apply of_rounded (standsFor_add xFinite yFinite) representable small.le
    exact (abs_add_le _ _).trans (add_le_add xBounded yBounded)

theorem sub (xAtMost : AtMost left x) (yAtMost : AtMost right y)
    (representable : Representable (left + right)) (small : left + right < 2 ^ (128 : ℤ)) :
    AtMost (left + right) (x - y) := by
  rcases xAtMost.finite_or_missing yAtMost small with
    xMissing | yMissing | ⟨⟨xFinite, xBounded⟩, yFinite, yBounded⟩
  · exact Or.inl (isNaN_sub_left xMissing)
  · exact Or.inl (isNaN_sub_right yMissing)
  · apply of_rounded (standsFor_sub xFinite yFinite) representable small.le
    exact (abs_sub _ _).trans (add_le_add xBounded yBounded)

/-- A part of a bounded number. -/
theorem mul_part (xAtMost : AtMost bound x) (yAtMost : AtMost 1 y)
    (representable : Representable bound) (small : bound < 2 ^ (128 : ℤ)) :
    AtMost bound (x * y) := by
  by_cases xMissing : x.isNaN = true
  · exact Or.inl (isNaN_mul_left xMissing)
  by_cases yMissing : y.isNaN = true
  · exact Or.inl (isNaN_mul_right yMissing)
  have xBounded := xAtMost.resolve_left xMissing
  have yBounded := yAtMost.resolve_left yMissing
  have xFinite := xAtMost.isFinite (Bool.eq_false_iff.mpr xMissing) small
  have yFinite := yAtMost.isFinite (Bool.eq_false_iff.mpr yMissing) (by norm_num)
  apply of_rounded (standsFor_mul xFinite yFinite) representable small.le
  rw [abs_mul]
  calc |toRat x| * |toRat y| ≤ bound * 1 :=
        mul_le_mul xBounded yBounded (abs_nonneg _) ((abs_nonneg _).trans xBounded)
    _ = bound := mul_one bound

end AtMost

/-- An amount is a fraction of a larger one, unless both are infinite and nothing is known. -/
theorem div_cases (xNonneg : 0.0 ≤ x) (le : x ≤ y) (yPos : 0 < toRat y) :
    x.isFinite = false ∧ (x / y).isNaN = true ∨
      x.isFinite = true ∧ ∃ part, StandsFor (x / y) part ∧ 0 ≤ part ∧ part ≤ 1 := by
  have one : Representable ((2 : ℚ) ^ (0 : ℤ)) := Binary.representable_zpow (by norm_num)
  rw [zpow_zero] at one
  rw [le_iff] at le
  have xAmount := nonneg_iff.mp xNonneg
  rcases (ordered_of_isNaN le.2.1).infinity_or_operand yPos.le with
    ⟨yInfinite, _⟩ | yOperand
  · have quotient : x / y = ofPacked (UnpackedFloat.div .binary32 x.toModel.unpack
        (.infinity .positive)) := by
      rw [← yInfinite]
      rfl
    rw [quotient]
    rcases (ordered_of_isNaN xAmount.1).infinity_or_operand xAmount.2 with
      ⟨xInfinite, _⟩ | xOperand
    · left
      refine ⟨congrArg UnpackedFloat.isFinite xInfinite, ?_⟩
      rw [xInfinite]
      decide
    · right
      obtain ⟨sign, result⟩ := xOperand.div_infinity
      refine ⟨(isFinite_iff x).mpr ⟨xAmount.1, xOperand.abs_lt⟩, 0, ?_, le_rfl, zero_le_one⟩
      rw [result]
      exact ofPacked_zero sign
  · right
    have yFinite := (isFinite_iff y).mpr ⟨le.2.1, yOperand.abs_lt⟩
    have xFinite := isFinite_of_nonneg xNonneg (le.2.2.trans_lt (abs_lt.mp yOperand.abs_lt).2)
    refine ⟨xFinite, _, standsFor_div xFinite yFinite yPos.ne', ?_, ?_⟩
    · exact Binary.rounded_nonneg (div_nonneg xAmount.2 yPos.le)
    · exact Binary.rounded_le one (by norm_num) ((div_le_one yPos).mpr le.2.2)

/-- Nothing is no part of an amount, also of an infinite one. -/
theorem standsFor_div_of_zero (zero : StandsFor x 0) (yNumber : y.isNaN = false)
    (yPos : 0 < toRat y) : StandsFor (x / y) 0 := by
  have xFinite := isFinite_of_standsFor zero (by norm_num)
  have xOperand := operand_of_isFinite xFinite
  rcases (ordered_of_isNaN yNumber).infinity_or_operand yPos.le with ⟨yInfinite, _⟩ | yOperand
  · have quotient : x / y = ofPacked (UnpackedFloat.div .binary32 x.toModel.unpack
        (.infinity .positive)) := by
      rw [← yInfinite]
      rfl
    obtain ⟨sign, result⟩ := xOperand.div_infinity
    rw [quotient, result]
    exact ofPacked_zero sign
  · have yFinite := (isFinite_iff y).mpr ⟨yNumber, yOperand.abs_lt⟩
    have quotient := standsFor_div xFinite yFinite yPos.ne'
    rwa [zero.2, zero_div, Binary.rounded_zero] at quotient

end Bounds

section Differences

/-- Taking an amount off a finite number leaves no more than there was. -/
theorem sub_le_of_nonneg (xFinite : x.isFinite = true) (yNonneg : 0.0 ≤ y) :
    ∃ rest, StandsFor (x - y) rest ∧ rest ≤ toRat x := by
  rw [nonneg_iff] at yNonneg
  have xOperand := operand_of_isFinite xFinite
  rcases (ordered_of_isNaN yNonneg.1).infinity_or_operand yNonneg.2 with
    ⟨yInfinite, _⟩ | yOperand
  · refine ⟨-2 ^ (128 : ℤ), ?_, (abs_lt.mp xOperand.abs_lt).1.le⟩
    change StandsFor (ofPacked (UnpackedFloat.sub .binary32 x.toModel.unpack y.toModel.unpack)) _
    rw [yInfinite, xOperand.sub_infinity]
    exact ⟨by decide, by decide +kernel⟩
  · have yFinite := (isFinite_iff y).mpr ⟨yNonneg.1, yOperand.abs_lt⟩
    refine ⟨_, standsFor_sub xFinite yFinite, ?_⟩
    calc rounded (toRat x - toRat y) ≤ rounded (toRat x) := Binary.rounded_mono (by linarith)
      _ = toRat x := rounded_toRat xFinite

/-- Nothing but an infinite amount brings an infinite one down, and then nothing is known. -/
theorem sub_of_infinite (xNonneg : 0.0 ≤ x) (infinite : x.isFinite = false) (yNonneg : 0.0 ≤ y) :
    (x - y).isNaN = true ∨ toRat (x - y) = 2 ^ (128 : ℤ) := by
  have largest := nonneg_iff.mp yNonneg
  have yLe : y ≤ x := by
    rw [le_iff, toRat_of_infinite xNonneg infinite]
    exact ⟨largest.1, (nonneg_iff.mp xNonneg).1, (ordered_of_isNaN largest.1).le largest.2⟩
  rcases sub_isNaN_or_nonneg yNonneg yLe with missing | nonneg
  · exact Or.inl missing
  · right
    apply toRat_of_infinite nonneg
    rw [Bool.eq_false_iff] at infinite ⊢
    intro finite
    exact infinite (isFinite_of_sub finite).1

theorem sub_le_sub_right (xFinite : x.isFinite = true) (yFinite : y.isFinite = true)
    (zFinite : z.isFinite = true) (le : toRat x ≤ toRat y) : x - z ≤ y - z := by
  have xStands := standsFor_sub xFinite zFinite
  have yStands := standsFor_sub yFinite zFinite
  rw [le_iff, xStands.2, yStands.2]
  exact ⟨xStands.1, yStands.1, Binary.rounded_mono (by linarith)⟩

theorem sub_nonneg_of_le (xFinite : x.isFinite = true) (yFinite : y.isFinite = true)
    (le : toRat y ≤ toRat x) : 0.0 ≤ x - y := by
  have stands := standsFor_sub xFinite yFinite
  rw [nonneg_iff, stands.2]
  exact ⟨stands.1, Binary.rounded_nonneg (by linarith)⟩

/-- The difference of two amounts is not larger than either of them. -/
theorem isFinite_sub_of_nonneg (xFinite : x.isFinite = true) (yFinite : y.isFinite = true)
    (xNonneg : 0 ≤ toRat x) (yNonneg : 0 ≤ toRat y) : (x - y).isFinite = true := by
  have xOperand := operand_of_isFinite xFinite
  have yOperand := operand_of_isFinite yFinite
  have xBound := abs_lt.mp xOperand.abs_lt
  have yBound := abs_lt.mp yOperand.abs_lt
  apply isFinite_of_standsFor (standsFor_sub xFinite yFinite)
  rw [abs_lt]
  constructor
  · have lower := Binary.le_rounded yOperand.representable.neg
      ((abs_neg _).trans_le yOperand.abs_lt.le) (show -toRat y ≤ toRat x - toRat y by linarith)
    linarith
  · have upper := Binary.rounded_le xOperand.representable xOperand.abs_lt.le
      (show toRat x - toRat y ≤ toRat x by linarith)
    linarith

theorem sub_pos_of_lt (xFinite : x.isFinite = true) (yFinite : y.isFinite = true)
    (lt : toRat x < toRat y) : 0 < toRat (y - x) := by
  rw [(standsFor_sub yFinite xFinite).2]
  exact Binary.rounded_sub_pos (operand_of_isFinite xFinite).representable
    (operand_of_isFinite yFinite).representable lt

end Differences

section Signs

variable {left right : UnpackedFloat} {leftNumber rightNumber : ℚ}

/-- A number that is not positive stays so if an amount multiplies it, or the product is missing. -/
theorem Ordered.mul_nonpos (leftGiven : Ordered left leftNumber) (leftNonpos : leftNumber ≤ 0)
    (rightGiven : Ordered right rightNumber) (rightNonneg : 0 ≤ rightNumber) :
    (ofPacked (UnpackedFloat.mul .binary32 left right)).isNaN = true ∨
      ∃ product, StandsFor (ofPacked (UnpackedFloat.mul .binary32 left right)) product ∧
        product ≤ 0 := by
  have lowest : StandsFor (ofPacked (.infinity .negative)) (-2 ^ (128 : ℤ)) :=
    ⟨by decide, by decide +kernel⟩
  cases leftGiven with
  | infinite sign =>
      cases sign with
      | positive => norm_num [isMinus] at leftNonpos
      | negative =>
          rcases rightGiven.infinity_or_operand rightNonneg with ⟨rfl, _⟩ | rightFinite
          · exact Or.inr ⟨_, lowest, by norm_num⟩
          · cases rightFinite with
            | zero sign =>
                left
                cases sign <;> decide
            | @finite sign significand place proper =>
                cases sign with
                | negative =>
                    have := proper.number_pos
                    rw [cast_apply, isMinus, Binary.signFactor_true] at rightNonneg
                    linarith
                | positive => exact Or.inr ⟨_, lowest, by norm_num⟩
  | finite leftFinite =>
      rcases rightGiven.infinity_or_operand rightNonneg with ⟨rfl, _⟩ | rightFinite
      · cases leftFinite with
        | zero sign =>
            left
            cases sign <;> decide
        | @finite sign significand place proper =>
            cases sign with
            | positive =>
                have := proper.number_pos
                rw [cast_apply, isMinus, Binary.signFactor_false] at leftNonpos
                linarith
            | negative => exact Or.inr ⟨_, lowest, by norm_num⟩
      · refine Or.inr ⟨_, leftFinite.mul rightFinite, ?_⟩
        calc rounded (leftNumber * rightNumber) ≤ rounded 0 :=
              Binary.rounded_mono (mul_nonpos_of_nonpos_of_nonneg leftNonpos rightNonneg)
          _ = 0 := Binary.rounded_zero

theorem mul_isNaN_or_nonpos (xNumber : x.isNaN = false) (xNonpos : toRat x ≤ 0)
    (yNonneg : 0.0 ≤ y) : (x * y).isNaN = true ∨ toRat (x * y) ≤ 0 := by
  rw [nonneg_iff] at yNonneg
  rcases (ordered_of_isNaN xNumber).mul_nonpos xNonpos (ordered_of_isNaN yNonneg.1) yNonneg.2 with
    missing | ⟨product, stands, nonpos⟩
  · exact Or.inl missing
  · exact Or.inr (stands.2.trans_le nonpos)

/-- An amount stays one if a finite amount multiplies it, or the product is missing. -/
theorem Ordered.mul_nonneg (leftGiven : Ordered left leftNumber) (leftNonneg : 0 ≤ leftNumber)
    (rightGiven : Operand right rightNumber) (rightNonneg : 0 ≤ rightNumber) :
    (ofPacked (UnpackedFloat.mul .binary32 left right)).isNaN = true ∨
      ∃ product, StandsFor (ofPacked (UnpackedFloat.mul .binary32 left right)) product ∧
        0 ≤ product := by
  rcases leftGiven.infinity_or_operand leftNonneg with ⟨rfl, _⟩ | leftFinite
  · cases rightGiven with
    | zero sign =>
        left
        cases sign <;> decide
    | @finite sign significand place proper =>
        cases sign with
        | negative =>
            have := proper.number_pos
            rw [cast_apply, isMinus, Binary.signFactor_true] at rightNonneg
            linarith
        | positive => exact Or.inr ⟨_, standsFor_infinity, by norm_num⟩
  · refine Or.inr ⟨_, leftFinite.mul rightGiven, ?_⟩
    exact Binary.rounded_nonneg (Left.mul_nonneg leftNonneg rightNonneg)

theorem mul_isNaN_or_nonneg (xNonneg : 0.0 ≤ x) (yFinite : y.isFinite = true)
    (yNonneg : 0 ≤ toRat y) : (x * y).isNaN = true ∨ 0.0 ≤ x * y := by
  rw [nonneg_iff] at xNonneg
  rcases (ordered_of_isNaN xNonneg.1).mul_nonneg xNonneg.2 (operand_of_isFinite yFinite)
    yNonneg with missing | ⟨product, stands, nonneg⟩
  · exact Or.inl missing
  · exact Or.inr (nonneg_iff.mpr ⟨stands.1, nonneg.trans_eq stands.2.symm⟩)

/-- Nothing that is added to an infinite amount brings it below zero. -/
theorem add_isNaN_or_nonneg (xNonneg : 0.0 ≤ x) (infinite : x.isFinite = false) (y : Float32) :
    (x + y).isNaN = true ∨ 0.0 ≤ x + y := by
  have amount := nonneg_iff.mp xNonneg
  rcases (ordered_of_isNaN amount.1).infinity_or_operand amount.2 with ⟨unpacked, _⟩ | operand
  · have sum : x + y = ofPacked (UnpackedFloat.add .binary32 (.infinity .positive)
        y.toModel.unpack) := by
      rw [← unpacked]
      rfl
    have largest : 0.0 ≤ ofPacked (.infinity .positive) := by decide
    rw [sum]
    cases y.toModel.unpack with
    | notANumber => exact Or.inl (by decide)
    | infinity sign =>
        cases sign with
        | negative => exact Or.inl (by decide)
        | positive => exact Or.inr largest
    | zero sign => exact Or.inr largest
    | finite sign significand place positive => exact Or.inr largest
  · have finite := (isFinite_iff x).mpr ⟨amount.1, operand.abs_lt⟩
    rw [finite] at infinite
    contradiction

theorem toRat_larger_le {bound : ℚ} (xLe : x.isNaN = true ∨ toRat x ≤ bound)
    (yNumber : y.isNaN = false) (yLe : toRat y ≤ bound) : toRat (larger x y) ≤ bound := by
  rcases larger_cases yNumber with ⟨larger_eq, _⟩ | ⟨larger_eq, le⟩
  · rw [larger_eq]
    exact yLe
  · rw [larger_eq]
    rw [le_iff] at le
    exact xLe.resolve_left (Bool.eq_false_iff.mp le.2.1)

end Signs

end Single
end TransientFuel
