import TransientFuel.Decimal.Layout
import TransientFuel.Proofs.SingleArithmetic

/-!
# Numerals

Numbers in JSON lines are written as numerals in the notation of JSON, `IsNumeral`: digits without a
needless zero in front, perhaps with a sign, a fraction and an exponent. The digits come from a
search for the shortest decimal. Wherever that search ends, what it leads to is a numeral,
`Layout.isNumeral_render`, and every finite single-precision number is finite in double precision,
which the lines are written in.
-/

namespace TransientFuel

/-- One digit or more. -/
structure Digits (text : List Char) : Prop where
  nonempty : text ≠ []
  each : ∀ c ∈ text, c.isDigit = true

/-- A number without sign: digits, of which the first is no needless zero, fraction, exponent. -/
structure Magnitude (whole fraction exponent : List Char) : Prop where
  digits : Digits whole
  leading : whole = ['0'] ∨ whole.head? ≠ some '0'
  fraction : fraction = [] ∨ ∃ digits, Digits digits ∧ fraction = '.' :: digits
  exponent : exponent = [] ∨ ∃ mark digits,
    mark ∈ [['e'], ['e', '+'], ['e', '-']] ∧ Digits digits ∧ exponent = mark ++ digits

/-- That a text is a number in the notation of JSON. -/
def IsNumeral (text : String) : Prop :=
  ∃ sign whole fraction exponent, (sign = [] ∨ sign = ['-']) ∧ Magnitude whole fraction exponent ∧
    text.toList = sign ++ (whole ++ fraction ++ exponent)

namespace Digits

variable {left right : List Char}

theorem append (digits : Digits left) (more : ∀ c ∈ right, c.isDigit = true) :
    Digits (left ++ right) := by
  refine ⟨by simp [digits.nonempty], ?_⟩
  rw [List.forall_mem_append]
  exact ⟨digits.each, more⟩

theorem toDigits (number : ℕ) : Digits (Nat.toDigits 10 number) :=
  ⟨Nat.toDigits_ne_nil, fun _ => Nat.isDigit_of_mem_toDigits (by simp) (by simp)⟩

end Digits

theorem head?_toDigits_ne_zero {number : ℕ} (positive : 0 < number) :
    (Nat.toDigits 10 number).head? ≠ some '0' := by
  induction number using Nat.strong_induction_on with
  | h number inductionHypothesis =>
      rw [Nat.toDigits_eq_if (by simp)]
      split
      · rename_i small
        interval_cases number <;> decide
      · rename_i large
        rw [List.head?_append_of_ne_nil _ Nat.toDigits_ne_nil]
        exact inductionHypothesis (number / 10) (by omega) (by omega)

namespace Decimal

open Binary (Format Value)

/-- What is found on a grid lies in the interval. -/
theorem contains_of_onGrid {tie : Tie} {span : Interval} {exponent scale : ℤ} {digits : ℕ}
    (found : onGrid tie span exponent scale = some digits) :
    ∃ point quarter, 0 < quarter ∧ span.contains (digits * point) quarter = true := by
  have upPos : 0 < (Binary.scaleTwo 1 1 (exponent - 2)).1 :=
    Binary.scaleTwo_numerator_pos Nat.one_pos _ _
  have tenPos : 0 < (scaleTen 1 scale).2 := by
    rw [scaleTen]
    split
    · exact Nat.one_pos
    · exact Nat.pow_pos (by simp)
  refine ⟨(scaleTen 1 scale).1 * (Binary.scaleTwo 1 1 (exponent - 2)).2, _,
    Nat.mul_pos upPos tenPos, ?_⟩
  have either {nearer : Bool} {below point quarter : ℕ}
      (belowFits : span.contains (below * point) quarter = true)
      (aboveFits : span.contains ((below + 1) * point) quarter = true) :
      span.contains ((if nearer then below + 1 else below) * point) quarter = true := by
    cases nearer with
    | false => exact belowFits
    | true => exact aboveFits
  simp only [onGrid] at found
  split at found
  · rename_i both
    rw [Bool.and_eq_true] at both
    rw [← Option.some.inj found]
    exact either both.1 both.2
  · split at found
    · rename_i fits
      rw [← Option.some.inj found]
      exact fits
    · split at found
      · rename_i fits
        rw [← Option.some.inj found]
        exact fits
      · contradiction

theorem onGrid_ne_zero {tie : Tie} {span : Interval} {exponent scale : ℤ} {digits : ℕ}
    (positive : 0 < span.low) (found : onGrid tie span exponent scale = some digits) :
    digits ≠ 0 := by
  rintro rfl
  rcases contains_of_onGrid found with ⟨point, quarter, large, inside⟩
  have low : 0 < span.low * quarter := Nat.mul_pos positive large
  rw [Nat.zero_mul, Interval.contains] at inside
  split at inside <;> simp only [decide_eq_true_eq] at inside <;> omega

theorem trimZeros_zero (steps : ℕ) (scale : ℤ) : trimZeros steps (0, scale) = (0, scale) := by
  cases steps <;> simp [trimZeros]

theorem trimZeros_ne_zero {digits : ℕ} (positive : digits ≠ 0) (steps : ℕ) (scale : ℤ) :
    (trimZeros steps (digits, scale)).1 ≠ 0 := by
  induction steps generalizing digits scale with
  | zero => exact positive
  | succ steps inductionHypothesis =>
      rw [trimZeros]
      split
      · exact inductionHypothesis (by omega) _
      · exact positive

/-- Either the shortest digits are those of a positive number, or they are a lone zero. -/
theorem shortest_cases (tie : Tie) (format : Format) {significand : ℕ}
    (positive : 0 < significand) (exponent : ℤ) :
    (shortest tie format significand exponent).1 ≠ 0 ∨
      shortest tie format significand exponent = (0, 0) := by
  have low : 0 < (interval format significand exponent).low := by
    simp only [interval]
    split <;> omega
  simp only [shortest]
  generalize List.map _ _ = grids
  cases searched : grids.findSome? fun scale =>
      (onGrid tie (interval format significand exponent) exponent scale).map (·, scale) with
  | none => exact Or.inr (trimZeros_zero _ _)
  | some found =>
      rcases List.exists_of_findSome?_eq_some searched with ⟨scale, _, tried⟩
      rcases Option.map_eq_some_iff.mp tried with ⟨digits, onIt, rfl⟩
      exact Or.inl (trimZeros_ne_zero (onGrid_ne_zero low onIt) _ _)

namespace Layout

variable (layout : Layout)

theorem exists_magnitude_pointed {digits : List Char} {position : ℤ} (given : Digits digits)
    (leading : digits.head? ≠ some '0' ∨ digits = ['0'] ∧ position = 1) :
    ∃ whole fraction, Magnitude whole fraction [] ∧
      (layout.pointed digits position).toList = whole ++ fraction := by
  have zeroDigits (count : ℕ) : ∀ c ∈ zeros count, c.isDigit = true := by
    intro c member
    rw [List.eq_of_mem_replicate member]
    rfl
  have zero : Digits ['0'] := ⟨by simp, zeroDigits 1⟩
  simp only [pointed, String.toList_ofList]
  split
  · have behind : Digits (zeros (-position).toNat ++ digits) :=
      ⟨by simp [given.nonempty], List.forall_mem_append.mpr ⟨zeroDigits _, given.each⟩⟩
    exact ⟨['0'], _, ⟨zero, Or.inl rfl, Or.inr ⟨_, behind, rfl⟩, Or.inl rfl⟩, rfl⟩
  · rename_i positive
    split
    · rename_i inside
      have first : digits.head? ≠ some '0' := by
        apply leading.resolve_right
        rintro ⟨rfl, rfl⟩
        simp at inside
      have front : Digits (digits.take position.toNat) := by
        refine ⟨?_, fun c member => given.each c (List.mem_of_mem_take member)⟩
        simp only [ne_eq, List.take_eq_nil_iff, given.nonempty, or_false]
        omega
      have behind : Digits (digits.drop position.toNat) := by
        refine ⟨?_, fun c member => given.each c (List.mem_of_mem_drop member)⟩
        simp only [ne_eq, List.drop_eq_nil_iff]
        omega
      refine ⟨_, _, ⟨front, Or.inr ?_, Or.inr ⟨_, behind, rfl⟩, Or.inl rfl⟩, rfl⟩
      rwa [List.head?_take, if_neg (by omega)]
    · refine ⟨_, _, ⟨given.append (zeroDigits _), ?_, ?_, Or.inl rfl⟩, rfl⟩
      · rcases leading with first | ⟨rfl, rfl⟩
        · right
          rwa [List.head?_append_of_ne_nil _ given.nonempty]
        · exact Or.inl rfl
      · split
        · exact Or.inr ⟨['0'], zero, rfl⟩
        · exact Or.inl rfl

theorem exists_magnitude_scientific {digits : List Char} (given : Digits digits) (position : ℤ) :
    ∃ whole fraction exponent, Magnitude whole fraction exponent ∧
      (layout.scientific digits position).toList = whole ++ fraction ++ exponent := by
  refine ⟨digits.take 1, if digits.length ≤ 1 then [] else '.' :: digits.drop 1,
    (if position - 1 < 0 then "e-" else if layout.exponentPlus then "e+" else "e").toList ++
      Nat.toDigits 10 (position - 1).natAbs,
    ⟨⟨?_, ?_⟩, ?_, ?_, Or.inr ⟨_, _, ?_, Digits.toDigits _, rfl⟩⟩, ?_⟩
  · simp [given.nonempty]
  · exact fun c member => given.each c (List.mem_of_mem_take member)
  · rcases List.exists_cons_of_ne_nil given.nonempty with ⟨first, others, rfl⟩
    by_cases zero : first = '0' <;> simp [zero]
  · split
    · exact Or.inl rfl
    · rename_i more
      refine Or.inr ⟨_, ⟨?_, fun c member => given.each c (List.mem_of_mem_drop member)⟩, rfl⟩
      rwa [ne_eq, List.drop_eq_nil_iff]
  · split_ifs <;> simp
  · simp [scientific, Nat.repr_eq_ofList_toDigits]

theorem exists_magnitude {significand : ℕ} (positive : 0 < significand) (exponent : ℤ) :
    ∃ whole fraction power, Magnitude whole fraction power ∧
      (layout.magnitude significand exponent).toList = whole ++ fraction ++ power := by
  have cases := shortest_cases layout.tie layout.format positive exponent
  rw [magnitude]
  generalize shortest layout.tie layout.format significand exponent = found at cases
  simp only
  split
  · have leading : (toDigits found.1).head? ≠ some '0' ∨
        toDigits found.1 = ['0'] ∧ ((toDigits found.1).length + found.2 : ℤ) = 1 := by
      rcases cases with nonzero | rfl
      · exact Or.inl (head?_toDigits_ne_zero (Nat.pos_of_ne_zero nonzero))
      · exact Or.inr ⟨rfl, rfl⟩
    rcases layout.exists_magnitude_pointed (Digits.toDigits found.1) leading with
      ⟨whole, fraction, spelled, text⟩
    exact ⟨whole, fraction, [], spelled, by rw [List.append_nil]; exact text⟩
  · exact layout.exists_magnitude_scientific (Digits.toDigits found.1) _

theorem isNumeral_of_magnitude {negative : Bool} {text : String}
    {whole fraction exponent : List Char} (magnitude : Magnitude whole fraction exponent)
    (spelled : text.toList = whole ++ fraction ++ exponent) :
    IsNumeral (sign negative ++ text) := by
  refine ⟨(sign negative).toList, whole, fraction, exponent, ?_, magnitude, ?_⟩
  · cases negative <;> simp [sign]
  · rw [String.toList_append, spelled]

/-- A number that is finite in the format of a layout is written as a numeral. -/
theorem isNumeral_render {x : Float32} {negative : Bool} {significand : ℕ} {exponent : ℤ}
    (value : layout.format.round (Value.ofSingle x) =
      .finite negative significand exponent) : IsNumeral (layout.render x) := by
  rw [render, value]
  cases significand with
  | zero =>
      have zero : Digits ['0'] := Digits.toDigits 0
      have plain : Magnitude ['0'] [] [] := ⟨zero, Or.inl rfl, Or.inl rfl, Or.inl rfl⟩
      have pointed : Magnitude ['0'] ['.', '0'] [] :=
        ⟨zero, Or.inl rfl, Or.inr ⟨_, zero, rfl⟩, Or.inl rfl⟩
      cases layout.wholePoint with
      | false => exact isNumeral_of_magnitude plain rfl
      | true => exact isNumeral_of_magnitude pointed rfl
  | succ rest =>
      rcases layout.exists_magnitude (Nat.succ_pos rest) exponent with
        ⟨whole, fraction, power, magnitude, spelled⟩
      exact isNumeral_of_magnitude magnitude spelled

end Layout

theorem exists_nearest_double (negative : Bool) {numerator : ℕ} (small : numerator < 2 ^ 128)
    (denominator : ℕ) : ∃ significand exponent,
      Binary.double.nearest negative numerator denominator =
        .finite negative significand exponent := by
  rw [Format.nearest]
  split
  · exact ⟨_, _, rfl⟩
  · rename_i nonzero
    have logSmall : numerator.log2 < 128 := (Nat.log2_lt nonzero).mpr small
    have ratioSmall : Binary.log2Ratio numerator denominator ≤ numerator.log2 := by
      simp only [Binary.log2Ratio]
      split <;> omega
    have placeSmall : Binary.double.lastPlace numerator denominator ≤ 127 := by
      simp only [Format.lastPlace, Binary.double]
      omega
    generalize Binary.double.lastPlace numerator denominator = place at placeSmall
    have greatest : Binary.double.greatest = 971 := rfl
    simp only
    refine ⟨_, _, if_neg ?_⟩
    rw [not_lt, apply_ite Prod.snd, greatest]
    split <;> omega

/-- No single-precision number is too large for double precision. -/
theorem exists_round_double {x : Float32} (finite : x.isFinite = true) :
    ∃ negative significand exponent,
      Binary.double.round (Value.ofSingle x) = .finite negative significand exponent := by
  rcases Single.exists_ofSingle_of_isFinite finite with ⟨negative, significand, place, value⟩
  rcases Single.ofSingle_bounds value with ⟨short, _, greatest, _⟩
  have small : (Binary.scaleTwo significand 1 place).1 < 2 ^ 128 := by
    rw [Binary.scaleTwo_eq]
    split
    · calc significand * 2 ^ place.toNat < 2 ^ 24 * 2 ^ place.toNat := by gcongr
        _ ≤ 2 ^ 24 * 2 ^ 104 := by gcongr <;> omega
        _ = 2 ^ 128 := by norm_num
    · exact short.trans (by norm_num)
  rcases exists_nearest_double negative small (Binary.scaleTwo significand 1 place).2 with
    ⟨rounded, exponent, nearest⟩
  exact ⟨negative, rounded, exponent, by rw [value]; exact nearest⟩

end Decimal
end TransientFuel
