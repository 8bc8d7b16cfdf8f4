import TransientFuel.Command.Replay
import TransientFuel.Proofs.SingleOrder

/-!
# The ranges in a summary

A summary keeps the least and the greatest correction of each channel. The ends of a range are
seeded by the first correction and widened by every later one, and a missing number gives way to any
other. So an end is one of the corrections, and none of the numbers among them lies beyond it:
`Extreme`. Least and greatest are the same notion in two orders, `NumberOrder`. What follows is
`ofCorrections_ranges_true`: the range is that of the numbers among the corrections, wherever the
missing ones stand, and zero is in it only if there are corrections on both sides of zero.
-/

namespace TransientFuel

/-- An order of the numbers, in which a missing number has no place. -/
structure NumberOrder (before : Float32 → Float32 → Prop) : Prop where
  refl : ∀ {x}, x.isNaN = false → before x x
  trans : ∀ {x y z}, before x y → before y z → before x z
  antisymm : ∀ {x y}, before x y → before y x → x == y
  known : ∀ {x y}, before x y → x.isNaN = false

theorem numberOrder_le : NumberOrder (· ≤ ·) where
  refl := Single.le_refl
  trans := Single.le_trans
  antisymm := by
    intro x y le ge
    rw [Single.le_iff] at le ge
    exact Single.beq_iff.mpr ⟨le.1, le.2.1, le_antisymm le.2.2 ge.2.2⟩
  known le := (Single.le_iff.mp le).1

theorem numberOrder_ge : NumberOrder (· ≥ ·) where
  refl := Single.le_refl
  trans le ge := Single.le_trans ge le
  antisymm le ge := numberOrder_le.antisymm ge le
  known ge := (Single.le_iff.mp ge).2.1

/-- The same number up to the sign of zero, or no number on both sides. -/
def Single.Alike (x y : Float32) : Prop :=
  x.isNaN = true ∧ y.isNaN = true ∨ x == y

/-- The numbers among some values. -/
def numbersIn (values : List Float32) : Set Float32 :=
  {value | value ∈ values ∧ value.isNaN = false}

theorem isNaN_of_numbersIn_eq_empty {values : List Float32} (none : numbersIn values = ∅)
    {value : Float32} (member : value ∈ values) : value.isNaN = true := by
  by_contra known
  have number : value ∈ numbersIn values := ⟨member, Bool.eq_false_iff.mpr known⟩
  rwa [none] at number

/-- One of some values that comes before every number among them. -/
structure Extreme (before : Float32 → Float32 → Prop) (values : List Float32) (x : Float32) :
    Prop where
  mem : x ∈ values
  first : ∀ value ∈ values, value.isNaN = false → before x value

namespace Extreme

variable {before : Float32 → Float32 → Prop} {values others : List Float32} {x y picked : Float32}

theorem single (order : NumberOrder before) (x : Float32) : Extreme before [x] x where
  mem := List.mem_singleton_self x
  first := by
    intro value member known
    obtain rfl := List.mem_singleton.mp member
    exact order.refl known

/-- A further value takes the place of one that is missing or that it comes before. -/
theorem concat (extreme : Extreme before values x) (order : NumberOrder before)
    (picks : picked = x ∧ (y.isNaN = true ∨ before x y) ∨
      picked = y ∧ (x.isNaN = true ∨ before y x)) :
    Extreme before (values ++ [y]) picked := by
  rcases picks with ⟨rfl, weak⟩ | ⟨rfl, weak⟩
  · refine ⟨List.mem_append_left _ extreme.mem, ?_⟩
    intro value member known
    rcases List.mem_append.mp member with earlier | last
    · exact extreme.first value earlier known
    · obtain rfl := List.mem_singleton.mp last
      exact weak.resolve_left (Bool.eq_false_iff.mp known)
  · refine ⟨List.mem_append_right _ (List.mem_singleton_self _), ?_⟩
    intro value member known
    rcases List.mem_append.mp member with earlier | last
    · -- A value that comes before a number is not missing itself.
      have formerly := extreme.first value earlier known
      have present := Bool.eq_false_iff.mp (order.known formerly)
      exact order.trans (weak.resolve_left present) formerly
    · obtain rfl := List.mem_singleton.mp last
      exact order.refl known

theorem known (extreme : Extreme before values x) (order : NumberOrder before)
    (some : (numbersIn values).Nonempty) : x.isNaN = false := by
  rcases some with ⟨value, member, known⟩
  exact order.known (extreme.first value member known)

/-- The values decide on the extreme, and not their order or how often each of them occurs. -/
theorem alike (extreme : Extreme before values x) (other : Extreme before others y)
    (order : NumberOrder before) (same : ∀ value, value ∈ values ↔ value ∈ others) :
    Single.Alike x y := by
  have yMember : y ∈ values := (same y).mpr other.mem
  rcases (numbersIn values).eq_empty_or_nonempty with none | some
  · exact Or.inl ⟨isNaN_of_numbersIn_eq_empty none extreme.mem,
      isNaN_of_numbersIn_eq_empty none yMember⟩
  · have someOther : (numbersIn others).Nonempty := by
      simpa only [numbersIn, same] using some
    right
    apply order.antisymm
    · exact extreme.first y yMember (other.known order someOther)
    · exact other.first x ((same x).mp extreme.mem) (extreme.known order some)

end Extreme

/-- The smaller of two numbers is one that is not beyond the other, or the only one. -/
theorem Single.smaller_picks (x y : Float32) :
    smaller x y = x ∧ (y.isNaN = true ∨ x ≤ y) ∨ smaller x y = y ∧ (x.isNaN = true ∨ y ≤ x) := by
  rw [smaller]
  split_ifs with xMissing yMissing less
  · exact Or.inr ⟨rfl, Or.inl xMissing⟩
  · exact Or.inl ⟨rfl, Or.inl yMissing⟩
  · exact Or.inr ⟨rfl, Or.inr (Single.le_of_lt less)⟩
  · exact Or.inl ⟨rfl, Or.inr (le_of_not_lt (Bool.eq_false_iff.mpr yMissing)
      (Bool.eq_false_iff.mpr xMissing) less)⟩

theorem Single.larger_picks (x y : Float32) :
    larger x y = x ∧ (y.isNaN = true ∨ x ≥ y) ∨ larger x y = y ∧ (x.isNaN = true ∨ y ≥ x) := by
  rw [larger]
  split_ifs with xMissing yMissing less
  · exact Or.inr ⟨rfl, Or.inl xMissing⟩
  · exact Or.inl ⟨rfl, Or.inl yMissing⟩
  · exact Or.inr ⟨rfl, Or.inr (Single.le_of_lt less)⟩
  · exact Or.inl ⟨rfl, Or.inr (le_of_not_lt (Bool.eq_false_iff.mpr xMissing)
      (Bool.eq_false_iff.mpr yMissing) less)⟩

namespace Range

variable {values others : List Float32} {range other : Range}

/-- A range between two extremes of some values. -/
structure Spans (values : List Float32) (range : Range) : Prop where
  least : Extreme (· ≤ ·) values range.least
  greatest : Extreme (· ≥ ·) values range.greatest

theorem spans_single (value : Float32) : (single value).Spans [value] :=
  ⟨Extreme.single numberOrder_le value, Extreme.single numberOrder_ge value⟩

theorem Spans.widen (spans : range.Spans values) (value : Float32) :
    (range.widen value).Spans (values ++ [value]) :=
  ⟨spans.least.concat numberOrder_le (Single.smaller_picks _ _),
    spans.greatest.concat numberOrder_ge (Single.larger_picks _ _)⟩

/-- What is known after some values: nothing before the first, then the range that they span. -/
def Covered (values : List Float32) : Option Range → Prop
  | none => values = []
  | some range => range.Spans values

theorem covered_extend {seen : Option Range} (covered : Covered values seen) (value : Float32) :
    Covered (values ++ [value]) (some (extend seen value)) := by
  cases seen with
  | none =>
      obtain rfl : values = [] := covered
      exact spans_single value
  | some range => exact Spans.widen covered value

/-- That a number lies in a range. -/
def Includes (range : Range) (x : Float32) : Prop :=
  range.least ≤ x ∧ x ≤ range.greatest

/-- The same range up to the signs of zeros. -/
structure Alike (range other : Range) : Prop where
  least : Single.Alike range.least other.least
  greatest : Single.Alike range.greatest other.greatest

theorem Spans.alike (spans : range.Spans values) (otherSpans : other.Spans others)
    (same : ∀ value, value ∈ values ↔ value ∈ others) : range.Alike other :=
  ⟨spans.least.alike otherSpans.least numberOrder_le same,
    spans.greatest.alike otherSpans.greatest numberOrder_ge same⟩

end Range

/--
The range of some values. Missing numbers do not count, unless there is nothing else. The ends are
among the values, and what lies in the range lies between two of them.
-/
structure RangeOf (values : List Float32) (range : Range) : Prop where
  empty : values = [] → range = ⟨0.0, 0.0⟩
  missing : values ≠ [] → numbersIn values = ∅ →
    range.least.isNaN = true ∧ range.greatest.isNaN = true
  known : (numbersIn values).Nonempty →
    IsLeast (numbersIn values) range.least ∧ IsGreatest (numbersIn values) range.greatest
  includes : values ≠ [] → ∀ x, range.Includes x ↔
    ∃ low ∈ values, ∃ high ∈ values, low ≤ x ∧ x ≤ high

namespace Range

variable {values others : List Float32} {range : Range} {seen otherSeen : Option Range}

theorem Spans.isLeast_isGreatest (spans : range.Spans values)
    (some : (numbersIn values).Nonempty) :
    IsLeast (numbersIn values) range.least ∧ IsGreatest (numbersIn values) range.greatest := by
  have least := spans.least.known numberOrder_le some
  have greatest := spans.greatest.known numberOrder_ge some
  refine ⟨⟨⟨spans.least.mem, least⟩, ?_⟩, ⟨spans.greatest.mem, greatest⟩, ?_⟩
  · intro value number
    exact spans.least.first value number.1 number.2
  · intro value number
    exact spans.greatest.first value number.1 number.2

theorem Spans.includes_iff (spans : range.Spans values) (x : Float32) :
    range.Includes x ↔ ∃ low ∈ values, ∃ high ∈ values, low ≤ x ∧ x ≤ high := by
  constructor
  · rintro ⟨lower, upper⟩
    exact ⟨_, spans.least.mem, _, spans.greatest.mem, lower, upper⟩
  · rintro ⟨low, lowMember, high, highMember, lower, upper⟩
    have least := spans.least.first low lowMember (Single.le_iff.mp lower).1
    have greatest := spans.greatest.first high highMember (Single.le_iff.mp upper).2.1
    exact ⟨Single.le_trans least lower, Single.le_trans upper greatest⟩

theorem Covered.rangeOf (covered : Covered values seen) : RangeOf values (seen.getD .zero) := by
  cases seen with
  | none =>
      obtain rfl : values = [] := covered
      refine ⟨fun _ => rfl, fun some => absurd rfl some, ?_, fun some => absurd rfl some⟩
      rintro ⟨value, member, _⟩
      exact absurd member List.not_mem_nil
  | some range =>
      have spans : range.Spans values := covered
      have nonempty := List.ne_nil_of_mem spans.least.mem
      refine ⟨fun none => absurd none nonempty, ?_, spans.isLeast_isGreatest,
        fun _ => spans.includes_iff⟩
      intro _ none
      exact ⟨isNaN_of_numbersIn_eq_empty none spans.least.mem,
        isNaN_of_numbersIn_eq_empty none spans.greatest.mem⟩

theorem Covered.alike (covered : Covered values seen) (otherCovered : Covered others otherSeen)
    (same : ∀ value, value ∈ values ↔ value ∈ others) :
    (seen.getD .zero).Alike (otherSeen.getD .zero) := by
  cases seen with
  | none =>
      cases otherSeen with
      | none => exact ⟨Or.inr (by decide), Or.inr (by decide)⟩
      | some other =>
          obtain rfl : values = [] := covered
          have spans : other.Spans others := otherCovered
          exact absurd ((same _).mpr spans.least.mem) List.not_mem_nil
  | some range =>
      have spans : range.Spans values := covered
      cases otherSeen with
      | none =>
          obtain rfl : others = [] := otherCovered
          exact absurd ((same _).mp spans.least.mem) List.not_mem_nil
      | some other => exact spans.alike otherCovered same

end Range

namespace Summary

/-- What a channel's part of the summary knows after all corrections. -/
theorem covered_ofCorrections {part : Summary → Option Range} {value : Correction → Float32}
    (atFirst : part {} = none)
    (add : ∀ summary correction,
      part (summary.add correction) = some (Range.extend (part summary) (value correction)))
    (corrections : List Correction) :
    Range.Covered (corrections.map value) (part (ofCorrections corrections)) := by
  induction corrections using List.reverseRecOn with
  | nil =>
      rw [ofCorrections, List.foldl_nil, atFirst]
      rfl
  | append_singleton earlier correction inductionHypothesis =>
      rw [ofCorrections, List.foldl_concat, add, List.map_append]
      exact Range.covered_extend inductionHypothesis (value correction)

theorem covered_throttle (corrections : List Correction) :
    Range.Covered (corrections.map Correction.throttle) (ofCorrections corrections).throttle :=
  covered_ofCorrections rfl (fun _ _ => rfl) corrections

theorem covered_load (corrections : List Correction) :
    Range.Covered (corrections.map Correction.load) (ofCorrections corrections).load :=
  covered_ofCorrections rfl (fun _ _ => rfl) corrections

/--
A summary counts the corrections and gives the range of each channel's corrections. The order in
which they came makes no difference, up to the signs of zeros.
-/
theorem ofCorrections_ranges_true (corrections : List Correction) :
    (ofCorrections corrections).rows = corrections.length ∧
      RangeOf (corrections.map Correction.throttle) (ofCorrections corrections).throttleRange ∧
      RangeOf (corrections.map Correction.load) (ofCorrections corrections).loadRange ∧
      ∀ reordered : List Correction, reordered.Perm corrections →
        (ofCorrections reordered).throttleRange.Alike (ofCorrections corrections).throttleRange ∧
          (ofCorrections reordered).loadRange.Alike (ofCorrections corrections).loadRange := by
  refine ⟨?_, (covered_throttle corrections).rangeOf, (covered_load corrections).rangeOf, ?_⟩
  · have rows := rows_foldl_add {} corrections
    rwa [Nat.zero_add] at rows
  · intro reordered perm
    have same (value : Correction → Float32) (number) :
        number ∈ reordered.map value ↔ number ∈ corrections.map value :=
      (perm.map value).mem_iff
    exact ⟨(covered_throttle reordered).alike (covered_throttle corrections) (same _),
      (covered_load reordered).alike (covered_load corrections) (same _)⟩

/-- Corrections that only take fuel away, with missing ones in front and among them. -/
theorem ofCorrections_ranges_true_one_sided :
    let missing : Float32 := 0.0 / 0.0
    let corrections : List Correction := [⟨missing, -4.0⟩, ⟨-2.0, missing⟩, ⟨-0.5, -1.0⟩]
    corrections.reverse.Perm corrections ∧
      (ofCorrections corrections.reverse).throttleRange.Alike
        (ofCorrections corrections).throttleRange ∧
      ¬(ofCorrections corrections).throttleRange.Includes 0.0 := by
  intro missing corrections
  obtain ⟨_, throttle, _, orderless⟩ := ofCorrections_ranges_true corrections
  refine ⟨corrections.reverse_perm, (orderless _ corrections.reverse_perm).1, ?_⟩
  rw [throttle.includes (List.cons_ne_nil _ _)]
  decide +kernel

end Summary
end TransientFuel
