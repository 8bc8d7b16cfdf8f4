import Mathlib
import TransientFuel.Proofs.Rounding

/-!
# Single-precision arithmetic as rounded rational arithmetic

The logical model of `Float32` unpacks its operands, operates on significands and exponents, rounds
with the help of two residual bits, and packs the result. This file relates all of that to the
rational numbers: `toRat` reads a single-precision number as a rational one, and each operation on
finite numbers is the operation on rational numbers followed by `Binary.rounded`.

An infinite number is read as a power of two beyond all finite ones. The comparisons are then the
ones of the rational numbers, as long as no operand is missing.
-/

namespace TransientFuel.Single

open Float.Model Float.Model.UnpackedFloat
open Binary (Value carried rounded roundDiv scaleTwo log2Ratio signFactor Representable)

/-- The rational number that a single-precision number stands for; zero if it is none. -/
def toRat (x : Float32) : ℚ :=
  (Value.ofSingle x).toRat

/-- That a single-precision number is not missing and stands for a rational number. -/
def StandsFor (x : Float32) (number : ℚ) : Prop :=
  x.isNaN = false ∧ toRat x = number

section Unpacking

/-- Whether a sign is minus. -/
def isMinus : Sign → Bool
  | .negative => true
  | .positive => false

/-- The value of an unpacked number. -/
def ofUnpacked : UnpackedFloat → Value
  | .notANumber => .notNumber
  | .infinity sign => .infinite (isMinus sign)
  | .zero sign => .finite (isMinus sign) 0 (-149)
  | .finite sign mantissa exponent _ => .finite (isMinus sign) mantissa exponent

/-- The single-precision number of an unpacked one. -/
def ofPacked (number : UnpackedFloat) : Float32 :=
  .ofModel (.pack number)

theorem toNat_unpackMantissa (bits : BitVec 32) :
    (@unpackMantissa Format.binary32 bits).toNat = bits.toNat % 2 ^ 23 := by
  simp [unpackMantissa]

theorem toNat_unpackExponent (bits : BitVec 32) :
    (@unpackExponent Format.binary32 bits).toNat = bits.toNat / 2 ^ 23 % 2 ^ 8 := by
  simp [unpackExponent, Nat.shiftRight_eq_div_pow]

theorem toNat_unpackSign (bits : BitVec 32) :
    (@unpackSign Format.binary32 bits).toNat = bits.toNat / 2 ^ 31 := by
  have := bits.isLt
  simp [unpackSign, Nat.shiftRight_eq_div_pow]
  omega

theorem isMinus_unpackSign (bits : BitVec 32) :
    isMinus (Sign.ofBitVec (@unpackSign Format.binary32 bits)) =
      decide (0x80000000 ≤ bits.toNat) := by
  have width := bits.isLt
  have value := toNat_unpackSign bits
  have signZero : @unpackSign Format.binary32 bits = 0#1 ↔ ¬0x80000000 ≤ bits.toNat := by
    rw [← BitVec.toNat_inj, value, BitVec.toNat_ofNat]
    omega
  unfold Sign.ofBitVec
  split
  · rename_i zero
    rw [decide_eq_false (signZero.mp zero)]
    rfl
  · rename_i nonzero
    rw [decide_eq_true (not_not.mp (mt signZero.mpr nonzero))]
    rfl

/-- Unpacking finds the value that the bits of a number give. -/
theorem ofSingle_eq_ofUnpacked (x : Float32) :
    Value.ofSingle x = ofUnpacked x.toModel.unpack := by
  set bits := x.toModel.toBits.toBitVec with bitsDef
  have bitsNat : x.toBits.toNat = bits.toNat := rfl
  have width := bits.isLt
  have mantissa := toNat_unpackMantissa bits
  have exponent := toNat_unpackExponent bits
  have sign := isMinus_unpackSign bits
  have fieldEq : bits.toNat % 0x80000000 / 0x800000 = bits.toNat / 2 ^ 23 % 2 ^ 8 := by omega
  have fractionEq : bits.toNat % 0x80000000 % 0x800000 = bits.toNat % 2 ^ 23 := by omega
  have allOnes : @unpackExponent Format.binary32 bits = -1#_ ↔
      bits.toNat / 2 ^ 23 % 2 ^ 8 = 255 := by
    rw [← BitVec.toNat_inj, exponent]
    rfl
  have allZeros : @unpackExponent Format.binary32 bits = 0#_ ↔
      bits.toNat / 2 ^ 23 % 2 ^ 8 = 0 := by
    rw [← BitVec.toNat_inj, exponent]
    rfl
  have noFraction : @unpackMantissa Format.binary32 bits = 0#_ ↔ bits.toNat % 2 ^ 23 = 0 := by
    rw [← BitVec.toNat_inj, mantissa]
    rfl
  simp only [Value.ofSingle, bitsNat, fieldEq, fractionEq, Float32.Model.unpack,
    UnpackedFloat.unpack, ← bitsDef, allOnes, allZeros, noFraction]
  split_ifs with special whole small empty
  · simp only [ofUnpacked, sign]
  · rfl
  · simp only [ofUnpacked, sign, empty]
    rfl
  · simp only [ofUnpacked, sign, mantissa, exponent, small]
    rfl
  · simp only [ofUnpacked, sign, exponent]
    congr 1
    · rw [BitVec.toNat_append, ← Nat.shiftLeft_add_eq_or_of_lt (BitVec.isLt _), mantissa]
      rfl
    · simp only [Binary.single, Format.exponentBias]
      push_cast
      omega

theorem isNaN_iff (x : Float32) : x.isNaN = true ↔ Value.ofSingle x = .notNumber := by
  rw [ofSingle_eq_ofUnpacked]
  change x.toModel.unpack.isNaN = true ↔ _
  cases x.toModel.unpack <;> simp [UnpackedFloat.isNaN, ofUnpacked]

theorem standsFor_of_value {x : Float32} {value : Value} (valueEq : Value.ofSingle x = value)
    (isNumber : value ≠ .notNumber) : StandsFor x value.toRat := by
  refine ⟨?_, by rw [toRat, valueEq]⟩
  rw [← Bool.not_eq_true, isNaN_iff, valueEq]
  exact isNumber

end Unpacking

section Packing

theorem ofSingle_ofPacked (number : UnpackedFloat) :
    Value.ofSingle (ofPacked number) =
      ofUnpacked (UnpackedFloat.unpack .binary32 (UnpackedFloat.pack .binary32 number)) := by
  rw [ofSingle_eq_ofUnpacked]
  rfl

theorem ofBitVec_unpackSign_packComponents (sign : Sign) (field : BitVec 8)
    (fraction : BitVec 23) :
    Sign.ofBitVec (unpackSign (packComponents .binary32 sign field fraction)) = sign := by
  have : unpackSign (packComponents .binary32 sign field fraction) = sign.toBitVec := by
    apply BitVec.eq_of_getLsbD_eq
    intro index bound
    obtain rfl : index = 0 := by omega
    have inner : (sign.toBitVec ++ field).getLsbD 8 = sign.toBitVec.getLsbD 0 := by
      rw [BitVec.getLsbD_append]
      rfl
    have outer : (sign.toBitVec ++ field ++ fraction).getLsbD 31 =
        (sign.toBitVec ++ field).getLsbD 8 := by
      rw [BitVec.getLsbD_append]
      rfl
    rw [← inner, ← outer]
    simp only [unpackSign, packComponents, BitVec.getLsbD_cast, BitVec.getLsbD_extractLsb]
    rfl
  rw [this]
  cases sign <;> rfl

theorem ofUnpacked_packComponents (sign : Sign) (field : BitVec 8) (fraction : BitVec 23) :
    ofUnpacked (UnpackedFloat.unpack .binary32 (packComponents .binary32 sign field fraction)) =
      if field.toNat = 255 then
        if fraction.toNat = 0 then .infinite (isMinus sign) else .notNumber
      else if field.toNat = 0 then .finite (isMinus sign) fraction.toNat (-149)
      else .finite (isMinus sign) (2 ^ 23 + fraction.toNat) (field.toNat - 150) := by
  have allOnes : field = -1#8 ↔ field.toNat = 255 := by
    rw [← BitVec.toNat_inj]
    rfl
  have allZeros : field = 0#8 ↔ field.toNat = 0 := by
    rw [← BitVec.toNat_inj]
    rfl
  have noFraction : fraction = 0#23 ↔ fraction.toNat = 0 := by
    rw [← BitVec.toNat_inj]
    rfl
  simp only [UnpackedFloat.unpack, unpackMantissa_packComponents, unpackExponent_packComponents,
    ofBitVec_unpackSign_packComponents, allOnes, allZeros, noFraction]
  split_ifs with special whole small empty
  · rfl
  · rfl
  · simp only [ofUnpacked, empty]
  · simp only [ofUnpacked, small]
    rfl
  · simp only [ofUnpacked]
    congr 1
    · rw [BitVec.toNat_append, ← Nat.shiftLeft_add_eq_or_of_lt (BitVec.isLt _)]
      rfl

/-- Packing keeps a significand in its proper place unless the place is too large. -/
theorem ofSingle_ofPacked_finite (sign : Sign) {significand : ℕ} {place : ℤ}
    (positive : 0 < significand) (short : significand < 2 ^ 24) (least : -149 ≤ place)
    (normal : place = -149 ∨ 2 ^ 23 ≤ significand) :
    Value.ofSingle (ofPacked (.finite sign significand place positive)) =
      if 104 < place then .infinite (isMinus sign)
      else .finite (isMinus sign) significand place := by
  rw [ofSingle_ofPacked]
  have biased : (place + Format.binary32.exponentBias +
      Format.binary32.mantissaBitsWithoutImplicit).toNat = (place + 150).toNat := by
    simp only [Format.exponentBias]
    congr 1
    push_cast
    ring
  have full : significand.log2 + 1 = Format.binary32.mantissaBits ↔ 2 ^ 23 ≤ significand := by
    have upper := (Nat.log2_lt positive.ne').mpr short
    rw [← Nat.le_log2 positive.ne']
    simp only [Format.mantissaBits]
    omega
  simp only [UnpackedFloat.pack, biased, full]
  split_ifs with overflow tooLarge long tooLarge tooLarge
  · rw [packedInfinity, ofUnpacked_packComponents]
    rfl
  · omega
  · omega
  · have fieldNat : (BitVec.ofNat 8 (place + 150).toNat).toNat = (place + 150).toNat := by
      rw [BitVec.toNat_ofNat, Nat.mod_eq_of_lt (by omega)]
    have fractionNat : (BitVec.ofNat 23 significand).toNat = significand - 2 ^ 23 := by
      rw [BitVec.toNat_ofNat]
      omega
    have whole : 2 ^ 23 + (significand - 2 ^ 23) = significand := by omega
    have unbiased : ((place + 150).toNat : ℤ) - 150 = place := by omega
    rw [ofUnpacked_packComponents, fieldNat, fractionNat, if_neg (by omega), if_neg (by omega),
      whole, unbiased]
  · omega
  · have fractionNat : (BitVec.ofNat 23 significand).toNat = significand := by
      rw [BitVec.toNat_ofNat, Nat.mod_eq_of_lt (by omega)]
    rw [ofUnpacked_packComponents, fractionNat, normal.resolve_right long]
    rfl

end Packing

section ResidualBits

/--
An extended mantissa describes a quotient if its mantissa is the whole part and its two bits tell
how the rest compares with one half.
-/
def Describes (extended : ExtendedMantissa) (numerator denominator : ℕ) : Prop :=
  extended.mantissa = numerator / denominator ∧
    extended.roundBit = decide (denominator ≤ 2 * (numerator % denominator)) ∧
    extended.stickyBit =
      decide (2 * (numerator % denominator) ≠ 0 ∧ 2 * (numerator % denominator) ≠ denominator)

variable {extended : ExtendedMantissa} {numerator denominator : ℕ}

theorem describes_accuracyOfFraction (numerator : ℕ) (positive : 0 < denominator) :
    Describes (.ofMantissaAndAccuracy (numerator / denominator)
      (accuracyOfFraction (numerator % denominator) denominator)) numerator denominator := by
  unfold accuracyOfFraction
  split
  · rename_i whole
    simp [Describes, ExtendedMantissa.ofMantissaAndAccuracy, whole, positive.ne']
  · rename_i rest
    rcases lt_trichotomy (2 * (numerator % denominator)) denominator with below | half | above
    · rw [Nat.compare_eq_lt.mpr below]
      simp [Describes, ExtendedMantissa.ofMantissaAndAccuracy]
      omega
    · rw [Nat.compare_eq_eq.mpr half]
      simp [Describes, ExtendedMantissa.ofMantissaAndAccuracy, half]
    · rw [Nat.compare_eq_gt.mpr above]
      simp [Describes, ExtendedMantissa.ofMantissaAndAccuracy]
      omega

theorem Describes.shiftRightOne (describes : Describes extended numerator denominator)
    (positive : 0 < denominator) :
    Describes extended.shiftRightOne numerator (denominator * 2) := by
  rcases describes with ⟨mantissa, roundBit, stickyBit⟩
  have quotient : numerator / (denominator * 2) = numerator / denominator / 2 :=
    (Nat.div_div_eq_div_mul ..).symm
  have rest : numerator % (denominator * 2) =
      numerator % denominator + denominator * (numerator / denominator % 2) := Nat.mod_mul
  have restLt := Nat.mod_lt numerator positive
  unfold Describes ExtendedMantissa.shiftRightOne
  simp only [mantissa, roundBit, stickyBit, quotient, rest]
  refine ⟨trivial, ?_, ?_⟩
  all_goals
    rcases Nat.mod_two_eq_zero_or_one (numerator / denominator) with even | odd
    · simp only [even, mul_zero, add_zero]
      grind
    · simp only [odd, mul_one]
      grind

theorem Describes.shiftRight (describes : Describes extended numerator denominator)
    (positive : 0 < denominator) (shift : ℕ) :
    Describes (extended >>> shift) numerator (denominator * 2 ^ shift) := by
  change Describes (shift.repeat ExtendedMantissa.shiftRightOne extended) _ _
  induction shift with
  | zero => simpa [Nat.repeat] using describes
  | succ shift ih =>
      rw [Nat.repeat, pow_succ, ← mul_assoc]
      exact ih.shiftRightOne (Nat.mul_pos positive (Nat.two_pow_pos _))

/-- The two bits suffice to round the quotient. -/
theorem Describes.roundedMantissa_eq (describes : Describes extended numerator denominator)
    (positive : 0 < denominator) :
    extended.roundedMantissa = roundDiv numerator denominator := by
  rcases extended with ⟨mantissa, roundBit, stickyBit⟩
  rcases describes with ⟨mantissaEq, roundEq, stickyEq⟩
  simp only at mantissaEq roundEq stickyEq
  have restLt := Nat.mod_lt numerator positive
  subst mantissaEq
  simp only [roundDiv, ExtendedMantissa.roundedMantissa]
  cases roundBit <;> cases stickyBit <;>
    simp only [ExtendedMantissa.accuracy, Accuracy.roundToNearestEven] <;>
    grind

end ResidualBits

section Rounding

variable {numerator denominator : ℕ} {exponent place : ℤ}

theorem shiftToTargetExponent_eq (mantissa : ℕ) (exponent : ℤ) (accuracy : Accuracy) :
    shiftToTargetExponent .binary32 mantissa exponent accuracy =
      (ExtendedMantissa.ofMantissaAndAccuracy mantissa accuracy >>>
          (max ((mantissa.log2 : ℤ) + 1 + exponent - 24) (-149) - exponent).toNat,
        exponent + (max ((mantissa.log2 : ℤ) + 1 + exponent - 24) (-149) - exponent).toNat) := rfl

/-- A rounded significand is packed in its place, or in the next one if rounding has carried. -/
theorem ofSingle_ofPacked_carried (sign : Sign) {significand : ℕ} (short : significand ≤ 2 ^ 24)
    (least : -149 ≤ place) (normal : place = -149 ∨ 2 ^ 23 ≤ significand) :
    Value.ofSingle (ofPacked
      (if h : (shiftToTargetExponent .binary32 significand place .exact).1.mantissa = 0 then
        .zero sign
      else
        .finite sign (shiftToTargetExponent .binary32 significand place .exact).1.mantissa
          (shiftToTargetExponent .binary32 significand place .exact).2 (Nat.pos_of_ne_zero h))) =
      carried (isMinus sign) significand place := by
  rcases short.eq_or_lt with full | fits
  · have shifted : shiftToTargetExponent .binary32 significand place .exact =
        (⟨2 ^ 23, false, false⟩, place + 1) := by
      subst full
      have target : max (((2 ^ 24).log2 : ℤ) + 1 + place - 24) (-149) = place + 1 := by
        rw [Nat.log2_two_pow]
        omega
      rw [shiftToTargetExponent_eq, target, show (place + 1 - place).toNat = 1 by omega]
      rfl
    have long : 2 ^ 23 ≠ 0 := by norm_num
    simp only [shifted, long, ↓reduceDIte]
    rw [ofSingle_ofPacked_finite sign _ (by norm_num) (by omega) (Or.inr le_rfl), carried,
      if_pos full]
  · have logLt : significand.log2 < 24 := by
      rcases Nat.eq_zero_or_pos significand with rfl | positive
      · simp
      · exact (Nat.log2_lt positive.ne').mpr fits
    have shifted : shiftToTargetExponent .binary32 significand place .exact =
        (⟨significand, false, false⟩, place) := by
      have stays : (max ((significand.log2 : ℤ) + 1 + place - 24) (-149) - place).toNat = 0 := by
        omega
      rw [shiftToTargetExponent_eq, stays, Nat.cast_zero, add_zero]
      rfl
    simp only [shifted]
    rw [carried, if_neg fits.ne]
    split_ifs with zero tooLarge tooLarge
    · omega
    · rw [zero, normal.resolve_right (by omega)]
      cases sign <;> rfl
    · rw [ofSingle_ofPacked_finite sign _ fits least normal, if_pos tooLarge]
    · rw [ofSingle_ofPacked_finite sign _ fits least normal, if_neg tooLarge]

/-- The model looks for the last place in the whole part of a quotient, which is enough. -/
theorem targetExponent_eq_place (numeratorPos : 0 < numerator) (denominatorPos : 0 < denominator)
    (lower : exponent ≤ place)
    (placeEq : place = max (-149) (log2Ratio (scaleTwo numerator denominator exponent).1
      (scaleTwo numerator denominator exponent).2 - 23)) :
    max (((numerator / denominator).log2 : ℤ) + 1 + exponent - 24) (-149) = place := by
  have bounds := Binary.log2Ratio_bounds
    (Binary.scaleTwo_numerator_pos numeratorPos denominator exponent)
    (Binary.scaleTwo_denominator_pos numerator denominatorPos exponent)
  rw [Binary.scaleTwo_ratio] at bounds
  have denominatorRat : (0 : ℚ) < denominator := by exact_mod_cast denominatorPos
  have powerPos : (0 : ℚ) < 2 ^ exponent := by positivity
  have wholeLe : ((numerator / denominator : ℕ) : ℚ) ≤ numerator / denominator := Nat.cast_div_le
  have ltWhole : (numerator / denominator : ℚ) < (numerator / denominator : ℕ) + 1 := by
    rw [div_lt_iff₀ denominatorRat]
    rw [mul_comm]
    exact_mod_cast Nat.lt_mul_div_succ numerator denominatorPos
  rcases Nat.eq_zero_or_pos (numerator / denominator) with zero | positive
  · -- Without a whole part, the quotient is too small for any but the least place.
    have small : (numerator / denominator : ℚ) * 2 ^ exponent < 2 ^ exponent := by
      rw [zero] at ltWhole
      norm_num at ltWhole
      exact mul_lt_of_lt_one_left powerPos ltWhole
    have logLt := (zpow_lt_zpow_iff_right₀ (by norm_num)).mp (bounds.1.trans_lt small)
    rw [zero, Nat.log2_zero]
    omega
  · have logLower := Binary.two_pow_log2_le positive
    have logUpper : ((numerator / denominator : ℕ) : ℚ) + 1 ≤
        2 ^ (((numerator / denominator).log2 : ℤ) + 1) := by
      have : numerator / denominator + 1 ≤ 2 ^ ((numerator / denominator).log2 + 1) :=
        Nat.lt_log2_self
      exact_mod_cast this
    have reached : (2 : ℚ) ^ (((numerator / denominator).log2 : ℤ) + exponent) ≤
        numerator / denominator * 2 ^ exponent := by
      rw [zpow_add₀ (by norm_num)]
      gcongr
      exact logLower.trans wholeLe
    have below : (numerator / denominator : ℚ) * 2 ^ exponent <
        2 ^ (((numerator / denominator).log2 : ℤ) + exponent + 1) := by
      rw [add_right_comm, zpow_add₀ (by norm_num)]
      gcongr
      exact ltWhole.trans_le logUpper
    have logEq := Binary.exponent_unique bounds.1 bounds.2 reached below
    omega

/-- Rounding in the model is rounding to the nearest value of single precision. -/
theorem ofSingle_roundWithAccuracy (sign : Sign) (numeratorPos : 0 < numerator)
    (denominatorPos : 0 < denominator)
    (lower : exponent ≤ max (-149) (log2Ratio (scaleTwo numerator denominator exponent).1
      (scaleTwo numerator denominator exponent).2 - 23)) :
    Value.ofSingle (ofPacked (roundWithAccuracy .binary32 sign (numerator / denominator) exponent
      (accuracyOfFraction (numerator % denominator) denominator))) =
      Binary.single.nearest (isMinus sign) (scaleTwo numerator denominator exponent).1
        (scaleTwo numerator denominator exponent).2 := by
  have scaledPos := Binary.scaleTwo_numerator_pos numeratorPos denominator exponent
  have scaledPos' := Binary.scaleTwo_denominator_pos numerator denominatorPos exponent
  have ratio := Binary.scaleTwo_ratio numerator denominator exponent
  set scaled := scaleTwo numerator denominator exponent with scaledDef
  set place := max (-149) (log2Ratio scaled.1 scaled.2 - 23) with placeDef
  have target := targetExponent_eq_place numeratorPos denominatorPos lower placeDef
  have powerPos : 0 < denominator * 2 ^ (place - exponent).toNat :=
    Nat.mul_pos denominatorPos (Nat.two_pow_pos _)
  -- The first shift goes to the last place, and its residual bits round the quotient there.
  have shifted : shiftToTargetExponent .binary32 (numerator / denominator) exponent
      (accuracyOfFraction (numerator % denominator) denominator) =
        (ExtendedMantissa.ofMantissaAndAccuracy (numerator / denominator)
          (accuracyOfFraction (numerator % denominator) denominator) >>>
            (place - exponent).toNat, place) := by
    rw [shiftToTargetExponent_eq, target]
    congr 1
    omega
  have describes := (describes_accuracyOfFraction numerator denominatorPos).shiftRight
    denominatorPos (place - exponent).toNat
  have significand := describes.roundedMantissa_eq powerPos
  have sameQuotient : roundDiv numerator (denominator * 2 ^ (place - exponent).toNat) =
      roundDiv (scaleTwo scaled.1 scaled.2 (-place)).1 (scaleTwo scaled.1 scaled.2 (-place)).2 := by
    apply Binary.roundDiv_congr powerPos (Binary.scaleTwo_denominator_pos _ scaledPos' _)
    rw [Binary.scaleTwo_ratio, ratio]
    push_cast
    rw [← zpow_natCast, Int.toNat_of_nonneg (by omega), mul_assoc, ← zpow_add₀ (by norm_num),
      div_mul_eq_div_div, div_eq_mul_inv _ ((2 : ℚ) ^ _), ← zpow_neg]
    congr 2
    ring
  rcases Binary.significand_bounds scaledPos scaledPos' placeDef rfl with ⟨_, short, normal⟩
  have least : -149 ≤ place := le_max_left _ _
  rw [Binary.single_nearest_eq (isMinus sign) scaledPos placeDef,
    ← ofSingle_ofPacked_carried sign short least normal]
  simp only [roundWithAccuracy, shifted, significand, sameQuotient]

/--
A quotient with enough bits, or with a place that is small enough, is rounded to the nearest number
of single precision.
-/
theorem ofPacked_roundWithAccuracy (sign : Sign) (numeratorPos : 0 < numerator)
    (denominatorPos : 0 < denominator)
    (enough : exponent ≤ -149 ∨ 2 ^ 23 * denominator ≤ numerator) :
    StandsFor (ofPacked (roundWithAccuracy .binary32 sign (numerator / denominator) exponent
        (accuracyOfFraction (numerator % denominator) denominator)))
      (signFactor (isMinus sign) * rounded (numerator / denominator * 2 ^ exponent)) := by
  have scaledPos := Binary.scaleTwo_numerator_pos numeratorPos denominator exponent
  have scaledPos' := Binary.scaleTwo_denominator_pos numerator denominatorPos exponent
  have lower : exponent ≤ max (-149) (log2Ratio (scaleTwo numerator denominator exponent).1
      (scaleTwo numerator denominator exponent).2 - 23) := by
    rcases enough with small | long
    · exact le_max_of_le_left small
    · have bounds := Binary.log2Ratio_bounds scaledPos scaledPos'
      rw [Binary.scaleTwo_ratio] at bounds
      have denominatorRat : (0 : ℚ) < denominator := by exact_mod_cast denominatorPos
      have longRat : (2 : ℚ) ^ (23 : ℤ) ≤ numerator / denominator := by
        rw [le_div_iff₀ denominatorRat]
        exact_mod_cast long
      have reached : (2 : ℚ) ^ (23 + exponent) ≤ numerator / denominator * 2 ^ exponent := by
        rw [zpow_add₀ (by norm_num)]
        gcongr
      have logGe := (zpow_lt_zpow_iff_right₀ (by norm_num)).mp (reached.trans_lt bounds.2)
      exact le_max_of_le_right (by omega)
  have value := ofSingle_roundWithAccuracy sign numeratorPos denominatorPos lower
  rw [← Binary.scaleTwo_ratio, ← Binary.toRat_nearest _ _ scaledPos']
  exact standsFor_of_value value (Binary.single_nearest_ne_notNumber _ _ _)

theorem ofPacked_roundExact (sign : Sign) {mantissa : ℕ} (positive : 0 < mantissa)
    (enough : exponent ≤ -149 ∨ 2 ^ 23 ≤ mantissa) :
    StandsFor (ofPacked (roundWithAccuracy .binary32 sign mantissa exponent .exact))
      (signFactor (isMinus sign) * rounded (mantissa * 2 ^ exponent)) := by
  have quotient := ofPacked_roundWithAccuracy sign positive Nat.one_pos (by simpa using enough)
  rw [Nat.div_one, Nat.mod_one, Nat.cast_one, div_one] at quotient
  exact quotient

theorem ofPacked_round (sign : Sign) {mantissa : ℕ} (positive : 0 < mantissa) (exponent : ℤ) :
    StandsFor (ofPacked (UnpackedFloat.round .binary32 sign mantissa exponent))
      (signFactor (isMinus sign) * rounded (mantissa * 2 ^ exponent)) := by
  set target := max ((mantissa.log2 : ℤ) + 1 + exponent - 24) (-149) with targetDef
  set shift := (exponent - target).toNat with shiftDef
  have unfolded : UnpackedFloat.round .binary32 sign mantissa exponent =
      roundWithAccuracy .binary32 sign (mantissa * 2 ^ shift) (exponent - shift) .exact := by
    rw [← Nat.shiftLeft_eq]
    rfl
  have logLe : 2 ^ mantissa.log2 ≤ mantissa := Nat.log2_self_le positive.ne'
  have enough : exponent - shift ≤ -149 ∨ 2 ^ 23 ≤ mantissa * 2 ^ shift := by
    rcases le_or_gt (exponent - shift) (-149) with small | large
    · exact Or.inl small
    · right
      calc 2 ^ 23 ≤ 2 ^ (mantissa.log2 + shift) := Nat.pow_le_pow_right (by norm_num) (by omega)
        _ = 2 ^ mantissa.log2 * 2 ^ shift := pow_add ..
        _ ≤ mantissa * 2 ^ shift := Nat.mul_le_mul_right _ logLe
  have sameNumber : ((mantissa * 2 ^ shift : ℕ) : ℚ) * 2 ^ (exponent - shift) =
      mantissa * 2 ^ exponent := by
    push_cast
    rw [mul_assoc, ← zpow_natCast, ← zpow_add₀ (by norm_num), add_sub_cancel]
  have result := ofPacked_roundExact sign (Nat.mul_pos positive (Nat.two_pow_pos shift)) enough
  rw [sameNumber] at result
  rw [unfolded]
  exact result

theorem ofPacked_zero (sign : Sign) : StandsFor (ofPacked (.zero sign)) 0 := by
  cases sign <;> exact ⟨rfl, by decide +kernel⟩

theorem ofPacked_normalize (mantissa exponent : ℤ) (zeroSign : Sign) :
    StandsFor (ofPacked (UnpackedFloat.normalize .binary32 mantissa exponent zeroSign))
      (rounded (mantissa * 2 ^ exponent)) := by
  unfold UnpackedFloat.normalize
  rcases lt_trichotomy mantissa 0 with negative | rfl | positive
  · rw [show compare mantissa 0 = .lt from Int.compare_eq_lt.mpr negative]
    have result := ofPacked_round .negative (show 0 < (-mantissa).toNat by omega) exponent
    have cast : (((-mantissa).toNat : ℕ) : ℚ) = -mantissa := by
      rw [← Int.cast_natCast, Int.toNat_of_nonneg (by omega), Int.cast_neg]
    rw [cast, neg_mul, Binary.rounded_neg] at result
    simpa [isMinus] using result
  · rw [show compare (0 : ℤ) 0 = .eq from rfl]
    simpa using ofPacked_zero zeroSign
  · rw [show compare mantissa 0 = .gt from Int.compare_eq_gt.mpr positive]
    have result := ofPacked_round .positive (show 0 < mantissa.toNat by omega) exponent
    have cast : ((mantissa.toNat : ℕ) : ℚ) = mantissa := by
      rw [← Int.cast_natCast, Int.toNat_of_nonneg (by omega)]
    rw [cast] at result
    simpa [isMinus] using result

end Rounding

section Operands

/-- The significands and places of finite numbers other than zero. -/
structure Proper (significand : ℕ) (place : ℤ) : Prop where
  positive : 0 < significand
  short : significand < 2 ^ 24
  least : -149 ≤ place
  greatest : place ≤ 104
  normal : place = -149 ∨ 2 ^ 23 ≤ significand

/-- The unpacked finite numbers, each with the rational number that it stands for. -/
inductive Operand : UnpackedFloat → ℚ → Prop
  | zero (sign : Sign) : Operand (.zero sign) 0
  | finite (sign : Sign) {significand : ℕ} {place : ℤ} (proper : Proper significand place) :
      Operand (.finite sign significand place proper.positive)
        ((sign.apply significand : ℤ) * 2 ^ place)

theorem cast_apply (sign : Sign) (number : ℕ) :
    ((sign.apply number : ℤ) : ℚ) = signFactor (isMinus sign) * number := by
  cases sign <;> simp [Sign.apply, isMinus]

theorem neg_apply (sign : Sign) (number : ℤ) : (-sign).apply number = -sign.apply number := by
  cases sign with
  | negative => exact (neg_neg number).symm
  | positive => rfl

/-- The significand of a finite number is full, unless the number is in the least place. -/
theorem ofSingle_bounds {x : Float32} {negative : Bool} {significand : ℕ} {place : ℤ}
    (value : Value.ofSingle x = .finite negative significand place) :
    significand < 2 ^ 24 ∧ -149 ≤ place ∧ place ≤ 104 ∧
      (place = -149 ∨ 2 ^ 23 ≤ significand) := by
  have width := x.toBits.toNat_lt
  simp only [Value.ofSingle, Binary.single] at value
  split_ifs at value with special whole small
  · simp only [Value.finite.injEq] at value
    omega
  · simp only [Value.finite.injEq] at value
    omega

theorem exists_ofSingle_of_isFinite {x : Float32} (finite : x.isFinite = true) :
    ∃ negative significand place, Value.ofSingle x = .finite negative significand place := by
  change x.toModel.unpack.isFinite = true at finite
  rw [ofSingle_eq_ofUnpacked]
  cases unpacked : x.toModel.unpack with
  | notANumber => simp [unpacked, UnpackedFloat.isFinite] at finite
  | infinity sign => simp [unpacked, UnpackedFloat.isFinite] at finite
  | zero sign => exact ⟨_, _, _, rfl⟩
  | finite sign significand place positive => exact ⟨_, _, _, rfl⟩

theorem operand_of_isFinite {x : Float32} (finite : x.isFinite = true) :
    Operand x.toModel.unpack (toRat x) := by
  change x.toModel.unpack.isFinite = true at finite
  have value := ofSingle_eq_ofUnpacked x
  rw [toRat, value]
  cases unpacked : x.toModel.unpack with
  | notANumber => simp [unpacked, UnpackedFloat.isFinite] at finite
  | infinity sign => simp [unpacked, UnpackedFloat.isFinite] at finite
  | zero sign =>
      have number : (ofUnpacked (.zero sign)).toRat = 0 := by simp [ofUnpacked, Value.toRat]
      rw [number]
      exact .zero sign
  | finite sign significand place positive =>
      rw [unpacked, ofUnpacked] at value
      rcases ofSingle_bounds value with ⟨short, least, greatest, normal⟩
      rw [ofUnpacked, Value.toRat, ← mul_assoc, ← cast_apply]
      exact .finite sign ⟨positive, short, least, greatest, normal⟩

namespace Operand

variable {operand : UnpackedFloat} {number : ℚ}

/-- Finite numbers lie below the power of two that infinity stands for. -/
theorem abs_lt (given : Operand operand number) : |number| < 2 ^ (128 : ℤ) := by
  cases given with
  | zero sign => positivity
  | @finite sign significand place proper =>
      have powerPos : (0 : ℚ) < 2 ^ place := by positivity
      have short : (significand : ℚ) < 2 ^ (24 : ℤ) := by exact_mod_cast proper.short
      have greatest := proper.greatest
      rw [cast_apply, abs_mul, abs_mul, Binary.abs_signFactor, one_mul, abs_of_pos powerPos,
        Nat.abs_cast]
      calc (significand : ℚ) * 2 ^ place < 2 ^ (24 : ℤ) * 2 ^ place := by gcongr
        _ = 2 ^ (24 + place) := (zpow_add₀ (by norm_num) _ _).symm
        _ ≤ 2 ^ (128 : ℤ) := zpow_le_zpow_right₀ (by norm_num) (by omega)

theorem representable (given : Operand operand number) : Representable number := by
  cases given with
  | zero sign => exact ⟨0, 0, by norm_num, by norm_num, by simp⟩
  | @finite sign significand place proper =>
      refine ⟨sign.apply significand, place, ?_, proper.least, rfl⟩
      have absolute : |sign.apply (significand : ℤ)| = significand := by
        cases sign <;> simp [Sign.apply]
      rw [absolute]
      exact_mod_cast proper.short.le

theorem rounded_eq (given : Operand operand number) : rounded number = number :=
  Binary.rounded_of_representable given.representable given.abs_lt.le

/-- Packing keeps an operand. -/
theorem packed (given : Operand operand number) : StandsFor (ofPacked operand) number := by
  cases given with
  | zero sign => exact ofPacked_zero sign
  | @finite sign significand place proper =>
      have greatest := proper.greatest
      have value := ofSingle_ofPacked_finite sign proper.positive proper.short proper.least
        proper.normal
      rw [if_neg (by omega)] at value
      have stands := standsFor_of_value value (by simp)
      rwa [Value.toRat, ← mul_assoc, ← cast_apply] at stands

theorem neg (given : Operand operand number) : Operand operand.neg (-number) := by
  cases given with
  | zero sign =>
      rw [neg_zero]
      exact .zero _
  | @finite sign significand place proper =>
      rw [← neg_mul, ← Int.cast_neg, ← neg_apply]
      exact .finite (-sign) proper

end Operand

theorem toRat_infinity {x : Float32} {sign : Sign}
    (unpacked : x.toModel.unpack = .infinity sign) :
    toRat x = signFactor (isMinus sign) * 2 ^ (128 : ℤ) := by
  rw [toRat, ofSingle_eq_ofUnpacked, unpacked]
  rfl

/-- The finite numbers are those that stand for less than the infinite ones. -/
theorem isFinite_iff (x : Float32) :
    x.isFinite = true ↔ x.isNaN = false ∧ |toRat x| < 2 ^ (128 : ℤ) := by
  change x.toModel.unpack.isFinite = true ↔ x.toModel.unpack.isNaN = false ∧ _
  cases unpacked : x.toModel.unpack with
  | notANumber => simp [UnpackedFloat.isFinite, UnpackedFloat.isNaN]
  | infinity sign =>
      rw [toRat_infinity unpacked, abs_mul, Binary.abs_signFactor, one_mul]
      simp [UnpackedFloat.isFinite]
  | zero sign =>
      have finite : x.isFinite = true := by
        change x.toModel.unpack.isFinite = true
        rw [unpacked]
        rfl
      exact iff_of_true rfl ⟨rfl, (operand_of_isFinite finite).abs_lt⟩
  | finite sign significand place positive =>
      have finite : x.isFinite = true := by
        change x.toModel.unpack.isFinite = true
        rw [unpacked]
        rfl
      exact iff_of_true rfl ⟨rfl, (operand_of_isFinite finite).abs_lt⟩

theorem rounded_toRat {x : Float32} (finite : x.isFinite = true) :
    rounded (toRat x) = toRat x :=
  (operand_of_isFinite finite).rounded_eq

end Operands

section Operations

variable {left right : UnpackedFloat} {leftNumber rightNumber : ℚ}

theorem cast_apply_decreaseExponent (sign : Sign) (significand : ℕ) {place lower : ℤ}
    (le : lower ≤ place) :
    ((sign.apply ((decreaseExponent significand place lower).1 : ℕ) : ℤ) : ℚ) * 2 ^ lower =
      (sign.apply significand : ℤ) * 2 ^ place := by
  have powers : (2 : ℚ) ^ (place - lower).toNat * 2 ^ lower = 2 ^ place := by
    rw [← zpow_natCast, Int.toNat_of_nonneg (by omega), ← zpow_add₀ (by norm_num),
      sub_add_cancel]
  rw [cast_apply, cast_apply, decreaseExponent]
  simp only [Nat.shiftLeft_eq]
  push_cast
  rw [mul_assoc, mul_assoc, mul_assoc, powers]

theorem Operand.add (leftGiven : Operand left leftNumber) (rightGiven : Operand right rightNumber) :
    StandsFor (ofPacked (UnpackedFloat.add .binary32 left right))
      (rounded (leftNumber + rightNumber)) := by
  cases leftGiven with
  | zero leftSign =>
      rw [zero_add, rightGiven.rounded_eq]
      cases rightGiven with
      | zero rightSign =>
          simp only [UnpackedFloat.add]
          split <;> exact ofPacked_zero _
      | finite rightSign proper => exact (Operand.finite rightSign proper).packed
  | @finite leftSign leftSignificand leftPlace leftProper =>
      cases rightGiven with
      | zero rightSign =>
          rw [add_zero, (Operand.finite leftSign leftProper).rounded_eq]
          exact (Operand.finite leftSign leftProper).packed
      | @finite rightSign rightSignificand rightPlace rightProper =>
          rw [← cast_apply_decreaseExponent leftSign _ (min_le_left leftPlace rightPlace),
            ← cast_apply_decreaseExponent rightSign _ (min_le_right leftPlace rightPlace),
            ← add_mul, ← Int.cast_add]
          exact ofPacked_normalize _ _ _

/-- Subtraction adds the number of opposite sign. -/
theorem Operand.sub_eq_add_neg (leftGiven : Operand left leftNumber)
    (rightGiven : Operand right rightNumber) :
    UnpackedFloat.sub .binary32 left right = UnpackedFloat.add .binary32 left right.neg := by
  cases leftGiven with
  | zero leftSign => cases rightGiven <;> rfl
  | finite leftSign leftProper =>
      cases rightGiven with
      | zero rightSign => rfl
      | finite rightSign rightProper =>
          simp only [UnpackedFloat.sub, UnpackedFloat.add, UnpackedFloat.neg, neg_apply]
          rfl

theorem rounded_signFactor_mul (negative : Bool) (number : ℚ) :
    rounded (signFactor negative * number) = signFactor negative * rounded number := by
  cases negative <;> simp

theorem signFactor_div (left right : Sign) :
    signFactor (isMinus (left / right)) =
      signFactor (isMinus left) / signFactor (isMinus right) := by
  have sign : isMinus (left / right) = xor (isMinus left) (isMinus right) := by
    cases left <;> cases right <;> rfl
  rw [sign]
  cases isMinus left <;> cases isMinus right <;> norm_num

/-- The model widens the dividend until the quotient has enough bits. -/
theorem ofPacked_divCore (sign : Sign) {leftSignificand rightSignificand : ℕ}
    (leftPlace rightPlace : ℤ) (leftPos : 0 < leftSignificand) (rightPos : 0 < rightSignificand) :
    StandsFor
      (ofPacked
        (let (mantissa, exponent, accuracy) :=
          divCore .binary32 leftSignificand leftPlace rightSignificand rightPlace
        roundWithAccuracy .binary32 sign mantissa exponent accuracy))
      (signFactor (isMinus sign) *
        rounded (leftSignificand * 2 ^ leftPlace / (rightSignificand * 2 ^ rightPlace))) := by
  set target := min (leftPlace - rightPlace)
    (max ((leftSignificand.log2 : ℤ) + 1 + leftPlace -
      (rightSignificand.log2 + 1 + rightPlace) - 24) (-149)) with targetDef
  set shift := (leftPlace - rightPlace - target).toNat with shiftDef
  have unfolded : divCore .binary32 leftSignificand leftPlace rightSignificand rightPlace =
      (leftSignificand * 2 ^ shift / rightSignificand, target,
        accuracyOfFraction (leftSignificand * 2 ^ shift % rightSignificand) rightSignificand) := by
    rw [← Nat.shiftLeft_eq]
    rfl
  have leftLog : 2 ^ leftSignificand.log2 ≤ leftSignificand := Nat.log2_self_le leftPos.ne'
  have rightLog : rightSignificand < 2 ^ (rightSignificand.log2 + 1) := Nat.lt_log2_self
  have enough : target ≤ -149 ∨ 2 ^ 23 * rightSignificand ≤ leftSignificand * 2 ^ shift := by
    rcases le_or_gt target (-149) with small | large
    · exact Or.inl small
    · right
      calc 2 ^ 23 * rightSignificand ≤ 2 ^ 23 * 2 ^ (rightSignificand.log2 + 1) :=
            Nat.mul_le_mul_left _ rightLog.le
        _ = 2 ^ (23 + (rightSignificand.log2 + 1)) := (pow_add ..).symm
        _ ≤ 2 ^ (leftSignificand.log2 + shift) := Nat.pow_le_pow_right (by norm_num) (by omega)
        _ = 2 ^ leftSignificand.log2 * 2 ^ shift := pow_add ..
        _ ≤ leftSignificand * 2 ^ shift := Nat.mul_le_mul_right _ leftLog
  have sameNumber : ((leftSignificand * 2 ^ shift : ℕ) : ℚ) / rightSignificand * 2 ^ target =
      leftSignificand * 2 ^ leftPlace / (rightSignificand * 2 ^ rightPlace) := by
    have powers : (2 : ℚ) ^ shift * 2 ^ target * 2 ^ rightPlace = 2 ^ leftPlace := by
      rw [← zpow_natCast, ← zpow_add₀ (by norm_num), ← zpow_add₀ (by norm_num)]
      congr 1
      omega
    have rightRat : (rightSignificand : ℚ) ≠ 0 := by exact_mod_cast rightPos.ne'
    rw [← powers]
    push_cast
    field_simp
  have result := ofPacked_roundWithAccuracy sign
    (Nat.mul_pos leftPos (Nat.two_pow_pos shift)) rightPos enough
  rw [sameNumber] at result
  rw [unfolded]
  exact result

theorem Operand.div (leftGiven : Operand left leftNumber) (rightGiven : Operand right rightNumber)
    (nonzero : rightNumber ≠ 0) :
    StandsFor (ofPacked (UnpackedFloat.div .binary32 left right))
      (rounded (leftNumber / rightNumber)) := by
  cases rightGiven with
  | zero rightSign => exact absurd rfl nonzero
  | @finite rightSign rightSignificand rightPlace rightProper =>
      cases leftGiven with
      | zero leftSign =>
          rw [zero_div, Binary.rounded_zero]
          exact ofPacked_zero _
      | @finite leftSign leftSignificand leftPlace leftProper =>
          have result := ofPacked_divCore (leftSign / rightSign) leftPlace rightPlace
            leftProper.positive rightProper.positive
          rw [← rounded_signFactor_mul, signFactor_div, div_mul_div_comm, ← mul_assoc,
            ← mul_assoc, ← cast_apply, ← cast_apply] at result
          exact result

theorem signFactor_mul (left right : Sign) :
    signFactor (isMinus (left * right)) =
      signFactor (isMinus left) * signFactor (isMinus right) := by
  cases left <;> cases right <;> norm_num [isMinus, signFactor]

/-- A product of full significands is long enough, and so is one of two numbers too small for it. -/
theorem Operand.mul (leftGiven : Operand left leftNumber)
    (rightGiven : Operand right rightNumber) :
    StandsFor (ofPacked (UnpackedFloat.mul .binary32 left right))
      (rounded (leftNumber * rightNumber)) := by
  cases leftGiven with
  | zero leftSign =>
      rw [zero_mul, Binary.rounded_zero]
      cases rightGiven <;> exact ofPacked_zero _
  | @finite leftSign leftSignificand leftPlace leftProper =>
      cases rightGiven with
      | zero rightSign =>
          rw [mul_zero, Binary.rounded_zero]
          exact ofPacked_zero _
      | @finite rightSign rightSignificand rightPlace rightProper =>
          have leftPos := leftProper.positive
          have rightPos := rightProper.positive
          have enough : leftPlace + rightPlace ≤ -149 ∨
              2 ^ 23 ≤ leftSignificand * rightSignificand := by
            rcases leftProper.normal with leftLeast | leftLong
            · rcases rightProper.normal with rightLeast | rightLong
              · left
                omega
              · exact Or.inr (rightLong.trans (Nat.le_mul_of_pos_left _ leftPos))
            · exact Or.inr (leftLong.trans (Nat.le_mul_of_pos_right _ rightPos))
          have result := ofPacked_roundExact (leftSign * rightSign)
            (Nat.mul_pos leftPos rightPos) enough
          have sameNumber : signFactor (isMinus (leftSign * rightSign)) *
              (((leftSignificand * rightSignificand : ℕ) : ℚ) * 2 ^ (leftPlace + rightPlace)) =
                leftSign.apply leftSignificand * 2 ^ leftPlace *
                  (rightSign.apply rightSignificand * 2 ^ rightPlace) := by
            rw [signFactor_mul, cast_apply, cast_apply, zpow_add₀ (by norm_num)]
            push_cast
            ring
          rw [← rounded_signFactor_mul, sameNumber] at result
          exact result

variable {x y : Float32}

/-- The sum of finite numbers is the rounded sum. -/
theorem standsFor_add (xFinite : x.isFinite = true) (yFinite : y.isFinite = true) :
    StandsFor (x + y) (rounded (toRat x + toRat y)) :=
  (operand_of_isFinite xFinite).add (operand_of_isFinite yFinite)

/-- The difference of finite numbers is the rounded difference. -/
theorem standsFor_sub (xFinite : x.isFinite = true) (yFinite : y.isFinite = true) :
    StandsFor (x - y) (rounded (toRat x - toRat y)) := by
  have xGiven := operand_of_isFinite xFinite
  have yGiven := operand_of_isFinite yFinite
  have result := xGiven.add yGiven.neg
  rw [← xGiven.sub_eq_add_neg yGiven, ← sub_eq_add_neg] at result
  exact result

theorem standsFor_neg (xFinite : x.isFinite = true) : StandsFor (-x) (-toRat x) :=
  (operand_of_isFinite xFinite).neg.packed

/-- The quotient of finite numbers is the rounded quotient. -/
theorem standsFor_div (xFinite : x.isFinite = true) (yFinite : y.isFinite = true)
    (nonzero : toRat y ≠ 0) : StandsFor (x / y) (rounded (toRat x / toRat y)) :=
  (operand_of_isFinite xFinite).div (operand_of_isFinite yFinite) nonzero

/-- The product of finite numbers is the rounded product. -/
theorem standsFor_mul (xFinite : x.isFinite = true) (yFinite : y.isFinite = true) :
    StandsFor (x * y) (rounded (toRat x * toRat y)) :=
  (operand_of_isFinite xFinite).mul (operand_of_isFinite yFinite)

end Operations

section Naturals

theorem standsFor_toFloat32 {number : ℕ} (short : number < 2 ^ 64) :
    StandsFor number.toUInt64.toFloat32 (rounded number) := by
  have fits : number.toUInt64.toNat = number := Nat.mod_eq_of_lt short
  have result := ofPacked_normalize number 0 .positive
  rw [zpow_zero, mul_one, Int.cast_natCast] at result
  change StandsFor (ofPacked (UnpackedFloat.normalize .binary32
    (number.toUInt64.toNat : ℕ) 0 .positive)) _
  rw [fits]
  exact result

/-- Long numbers are widened, so that their product with one keeps every bit. -/
theorem standsFor_ofScientific {number : ℕ} (long : 2 ^ 23 ≤ number) :
    StandsFor (ofPacked (UnpackedFloat.ofScientific .binary32 number 0)) (rounded number) := by
  have positive : 0 < number := by omega
  have widened : number <<< Format.binary32.mantissaBits * 10 ^ (0 : ℤ).toNat =
      number * 2 ^ 24 := by
    rw [show Format.binary32.mantissaBits = 24 from rfl, Nat.shiftLeft_eq]
    exact mul_one _
  have enough : (-24 : ℤ) ≤ -149 ∨ 2 ^ 23 ≤ number * 2 ^ 24 := Or.inr (by omega)
  have result := ofPacked_roundExact .positive (by omega) enough
  have sameNumber : ((number * 2 ^ 24 : ℕ) : ℚ) * 2 ^ (-24 : ℤ) = number := by
    rw [Nat.cast_mul]
    norm_num
    ring
  rw [sameNumber, isMinus, Binary.signFactor_false, one_mul] at result
  have notTiny : ¬(0 : ℤ) < -((2 ^ Format.binary32.exponentBits : ℤ) + number.log2) := by
    have := pow_pos (show (0 : ℤ) < 2 by norm_num) Format.binary32.exponentBits
    omega
  rw [UnpackedFloat.ofScientific, dif_neg positive.ne', if_neg (by decide), if_neg notTiny,
    if_pos le_rfl, UnpackedFloat.mul, widened]
  exact result

theorem standsFor_of_isFinite {x : Float32} (finite : x.isFinite = true) : StandsFor x (toRat x) :=
  ⟨((isFinite_iff x).mp finite).1, rfl⟩

theorem isFinite_of_standsFor {x : Float32} {number : ℚ} (stands : StandsFor x number)
    (bounded : |number| < 2 ^ (128 : ℤ)) : x.isFinite = true := by
  rw [isFinite_iff, stands.2]
  exact ⟨stands.1, bounded⟩

/-- A difference depends on what its operands stand for only, not on the signs of zeros. -/
theorem StandsFor.sub {x y u v : Float32} (xStands : StandsFor x (toRat u))
    (uFinite : u.isFinite = true) (yStands : StandsFor y (toRat v)) (vFinite : v.isFinite = true) :
    StandsFor (x - y) (toRat (u - v)) := by
  have xFinite := isFinite_of_standsFor xStands ((isFinite_iff u).mp uFinite).2
  have yFinite := isFinite_of_standsFor yStands ((isFinite_iff v).mp vFinite).2
  have difference := standsFor_sub xFinite yFinite
  rw [xStands.2, yStands.2, ← (standsFor_sub uFinite vFinite).2] at difference
  exact difference

theorem StandsFor.div {x u z : Float32} (xStands : StandsFor x (toRat u))
    (uFinite : u.isFinite = true) (zFinite : z.isFinite = true) (nonzero : toRat z ≠ 0) :
    StandsFor (x / z) (toRat (u / z)) := by
  have xFinite := isFinite_of_standsFor xStands ((isFinite_iff u).mp uFinite).2
  have quotient := standsFor_div xFinite zFinite nonzero
  rw [xStands.2, ← (standsFor_div uFinite zFinite nonzero).2] at quotient
  exact quotient

theorem rounded_natCast {number : ℕ} (short : number ≤ 2 ^ 24) : rounded number = number := by
  have representable : Representable ((number : ℚ) * 2 ^ (0 : ℤ)) :=
    Binary.representable_of_nat short (by norm_num)
  rw [zpow_zero, mul_one] at representable
  apply Binary.rounded_of_representable representable
  rw [abs_of_nonneg (Nat.cast_nonneg number)]
  calc (number : ℚ) ≤ (2 ^ 24 : ℕ) := by exact_mod_cast short
    _ ≤ 2 ^ (128 : ℤ) := by norm_num

/-- A natural number is converted by rounding it. -/
theorem standsFor_ofNat (number : ℕ) : StandsFor (Float32.ofNat number) (rounded number) := by
  change StandsFor (Float32.ofScientific number false 0) _
  by_cases short : number < 2 ^ 23
  · have converted := standsFor_toFloat32 (show number < 2 ^ 64 by omega)
    have finite : number.toUInt64.toFloat32.isFinite = true := by
      apply isFinite_of_standsFor converted
      rw [rounded_natCast (by omega), abs_of_nonneg (Nat.cast_nonneg number)]
      calc (number : ℚ) < (2 ^ 23 : ℕ) := by exact_mod_cast short
        _ ≤ 2 ^ (128 : ℤ) := by norm_num
    have oneFinite : (Float32.ofBits 0x3F800000).isFinite = true := by decide
    have oneEq : toRat (Float32.ofBits 0x3F800000) = 1 := by decide +kernel
    have product := standsFor_mul finite oneFinite
    rw [oneEq, mul_one, rounded_toRat finite, converted.2] at product
    rw [Float32.ofScientific, dif_pos ⟨short, by norm_num⟩]
    exact product
  · rw [Float32.ofScientific, dif_neg (fun both => short both.1)]
    exact standsFor_ofScientific (Nat.le_of_not_lt short)

theorem isFinite_ofNat {number : ℕ} (small : number ≤ 2 ^ 127) :
    (Float32.ofNat number).isFinite = true := by
  apply isFinite_of_standsFor (standsFor_ofNat number)
  rw [abs_of_nonneg (Binary.rounded_nonneg (Nat.cast_nonneg number))]
  calc rounded number ≤ 2 ^ (127 : ℤ) := by
        apply Binary.rounded_le (Binary.representable_zpow (by norm_num)) (by norm_num)
        exact_mod_cast small
    _ < 2 ^ (128 : ℤ) := by norm_num

end Naturals

end TransientFuel.Single
