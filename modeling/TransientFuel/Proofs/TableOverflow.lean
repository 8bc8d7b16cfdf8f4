import TransientFuel.Proofs.CheckedSettings
import TransientFuel.Proofs.RoundedInterpolation

/-!
# Lookups that leave the finite numbers

All positions and values of a table are finite, but differences of them need not be. A lookup is
lost exactly where a number is infinitely far from the lower end of its cell, or an interpolation
overshoots: `Curve.isFinite_lookup_iff`, `Grid.isFinite_lookup_iff`. Neither happens in a table
whose positions and values have moderate magnitudes.
-/

namespace TransientFuel

open Single (toRat StandsFor AtMost)

namespace Axis

variable (axis : Axis) (x : Float32)

/-- An interpolation on an axis fails where the way gone is not known, or where it overshoots. -/
theorem isFinite_between_iff {start stop : Float32} (startFinite : start.isFinite = true)
    (stopFinite : stop.isFinite = true) :
    (interpolate start stop (axis.locate x).fraction).isFinite = true ↔
      ¬axis.Distant x ∧ ¬Overshoots start stop (axis.locate x).fraction := by
  rcases axis.fraction_cases x with ⟨distant, missing⟩ | ⟨near, part, given, nonneg, le⟩
  · have lost : ¬(interpolate start stop (axis.locate x).fraction).isFinite = true := by
      intro finite
      have fractionFinite := (finite_of_interpolate finite).2.2.2
      rw [(Single.standsFor_of_isFinite fractionFinite).1] at missing
      contradiction
    exact iff_of_false lost fun known => known.1 distant
  · rw [isFinite_interpolate_iff startFinite stopFinite given nonneg le]
    exact (and_iff_right near).symm

/-- Between ends of moderate magnitude nothing overflows. -/
theorem isFinite_between_of_atMost {start stop : Float32} {count : ℕ} {exponent : ℤ}
    (near : ¬axis.Distant x) (startFinite : start.isFinite = true)
    (stopFinite : stop.isFinite = true) (startAtMost : AtMost (count * 2 ^ exponent) start)
    (stopAtMost : AtMost (count * 2 ^ exponent) stop) (short : 3 * count ≤ 2 ^ 24)
    (least : -149 ≤ exponent) (small : ((3 * count : ℕ) : ℚ) * 2 ^ exponent < 2 ^ (128 : ℤ)) :
    (interpolate start stop (axis.locate x).fraction).isFinite = true := by
  have known := (axis.fraction_cases x).resolve_left fun distant => near distant.1
  rcases known with ⟨_, part, given, nonneg, le⟩
  rcases atMost_difference startAtMost stopAtMost short least small with ⟨difference, less⟩
  have wayFinite := difference.isFinite (Single.standsFor_sub stopFinite startFinite).1 less
  have bounded := atMost_interpolate startAtMost stopAtMost short least small
    (axis.atMost_fraction x)
  exact bounded.isFinite (standsFor_interpolate startFinite wayFinite given nonneg le).1 small

theorem not_distant (bounded : ∀ bin ∈ axis.bins, |toRat bin| ≤ 2 ^ 126) : ¬axis.Distant x := by
  rintro ⟨apart, lost⟩
  have located := axis.located x
  generalize axis.locate x = cell at located apart lost
  cases located with
  | first outside => exact apart rfl
  | last inside beyond => exact apart rfl
  | @between lower upper _ _ _ _ above below =>
      have lowerBounded := bounded (axis.bin lower) (List.get_mem _ _)
      have upperBounded := bounded (axis.bin upper) (List.get_mem _ _)
      rw [Single.le_iff] at above
      rw [Single.lt_iff] at below
      have xBounded : |toRat x| ≤ 2 ^ 126 := by
        rw [abs_le] at lowerBounded upperBounded ⊢
        constructor <;> linarith
      have xFinite : x.isFinite = true := by
        rw [Single.isFinite_iff]
        exact ⟨below.1, xBounded.trans_lt (by norm_num)⟩
      have power : Binary.Representable ((2 : ℚ) ^ (127 : ℤ)) :=
        Binary.representable_zpow (by norm_num)
      have twice : (2 : ℚ) ^ 126 + 2 ^ 126 = 2 ^ (127 : ℤ) := by norm_num
      have distance := Single.AtMost.sub (Or.inr xBounded) (Or.inr lowerBounded) (twice ▸ power)
        (by norm_num)
      have known := (Single.standsFor_sub xFinite (axis.isFinite_bin lower)).1
      rw [distance.isFinite known (by norm_num)] at lost
      contradiction

end Axis

namespace Curve

variable (curve : Curve)

/-- That the lookup at an age leaves the finite numbers on its way. -/
def Overflows (age : Float32) : Prop :=
  let cell := curve.ages.locate age
  curve.ages.Distant age ∨
    Overshoots (curve.multiplier cell.lower) (curve.multiplier cell.upper) cell.fraction

theorem isFinite_lookup_iff (age : Float32) :
    (curve.lookup age).isFinite = true ↔ ¬curve.Overflows age := by
  rw [Overflows, not_or]
  exact curve.ages.isFinite_between_iff age (curve.isFinite_multiplier _)
    (curve.isFinite_multiplier _)

theorem isFinite_lookup (ages : ∀ bin ∈ curve.ages.bins, |toRat bin| ≤ 2 ^ 126)
    (multipliers : ∀ multiplier ∈ curve.multipliers, |toRat multiplier| ≤ 2 ^ 126)
    (age : Float32) : (curve.lookup age).isFinite = true := by
  have atMost (index : Fin curve.ages.size) :
      AtMost ((1 : ℕ) * 2 ^ (126 : ℤ)) (curve.multiplier index) := by
    rw [Nat.cast_one, one_mul]
    exact Or.inr (multipliers _ (curve.multiplier_mem index))
  exact curve.ages.isFinite_between_of_atMost age (curve.ages.not_distant age ages)
    (curve.isFinite_multiplier _) (curve.isFinite_multiplier _) (atMost _) (atMost _)
    (by norm_num) (by norm_num) (by norm_num)

end Curve

namespace Grid

variable (grid : Grid)

/-- That a row of a grid overshoots between two of its columns. -/
def OvershootsAlong (row : Fin grid.before.size) (column : Cell grid.after.size) : Prop :=
  Overshoots (grid.value row column.lower) (grid.value row column.upper) column.fraction

/-- That the lookup at two positions leaves the finite numbers on its way. -/
def Overflows (before after : Float32) : Prop :=
  let row := grid.before.locate before
  let column := grid.after.locate after
  grid.before.Distant before ∨ grid.after.Distant after ∨
    grid.OvershootsAlong row.lower column ∨ grid.OvershootsAlong row.upper column ∨
    Overshoots (grid.along row.lower column) (grid.along row.upper column) row.fraction

theorem isFinite_along_iff (row : Fin grid.before.size) (after : Float32) :
    (grid.along row (grid.after.locate after)).isFinite = true ↔
      ¬grid.after.Distant after ∧ ¬grid.OvershootsAlong row (grid.after.locate after) :=
  grid.after.isFinite_between_iff after (grid.isFinite_value _ _) (grid.isFinite_value _ _)

theorem isFinite_lookup_iff (before after : Float32) :
    (grid.lookup before after).isFinite = true ↔ ¬grid.Overflows before after := by
  have low := grid.isFinite_along_iff (grid.before.locate before).lower after
  have high := grid.isFinite_along_iff (grid.before.locate before).upper after
  rw [lookup_eq, Overflows]
  constructor
  · intro finite
    obtain ⟨lowFinite, highFinite, _⟩ := finite_of_interpolate finite
    have whole := (grid.before.isFinite_between_iff before lowFinite highFinite).mp finite
    rw [low] at lowFinite
    rw [high] at highFinite
    simp only [not_or]
    exact ⟨whole.1, lowFinite.1, lowFinite.2, highFinite.2, whole.2⟩
  · simp only [not_or]
    rintro ⟨beforeNear, afterNear, lowReached, highReached, reached⟩
    have lowFinite := low.mpr ⟨afterNear, lowReached⟩
    have highFinite := high.mpr ⟨afterNear, highReached⟩
    exact (grid.before.isFinite_between_iff before lowFinite highFinite).mpr ⟨beforeNear, reached⟩

theorem isFinite_lookup (beforeBins : ∀ bin ∈ grid.before.bins, |toRat bin| ≤ 2 ^ 126)
    (afterBins : ∀ bin ∈ grid.after.bins, |toRat bin| ≤ 2 ^ 126)
    (values : ∀ value ∈ grid.values, |toRat value| ≤ 2 ^ 124) (before after : Float32) :
    (grid.lookup before after).isFinite = true := by
  have atMost (row : Fin grid.before.size) (column : Fin grid.after.size) :
      AtMost ((1 : ℕ) * 2 ^ (124 : ℤ)) (grid.value row column) := by
    rw [Nat.cast_one, one_mul]
    exact Or.inr (values _ (grid.value_mem row column))
  have alongFinite (row : Fin grid.before.size) :
      (grid.along row (grid.after.locate after)).isFinite = true :=
    grid.after.isFinite_between_of_atMost after (grid.after.not_distant after afterBins)
      (grid.isFinite_value _ _) (grid.isFinite_value _ _) (atMost _ _) (atMost _ _)
      (by norm_num) (by norm_num) (by norm_num)
  have alongAtMost (row : Fin grid.before.size) :=
    atMost_interpolate (atMost row (grid.after.locate after).lower)
      (atMost row (grid.after.locate after).upper) (by norm_num) (by norm_num) (by norm_num)
      (grid.after.atMost_fraction after)
  exact grid.before.isFinite_between_of_atMost before
    (grid.before.not_distant before beforeBins) (alongFinite _) (alongFinite _) (alongAtMost _)
    (alongAtMost _) (by norm_num) (by norm_num) (by norm_num)

end Grid

/--
A lookup is lost exactly where a difference on its way overflows: a number is infinitely far from
the lower end of its cell, or an interpolation overshoots. That the positions and values of a table
are finite does not exclude this. It is excluded for all lookups, also of infinite and missing
numbers, by a bound on the magnitudes.
-/
theorem lookup_lost_iff_overflows (x y age : Float32) :
    (∀ (before after values : List Float32) (grid : Grid),
      Grid.ofFlat before after values = .ok grid →
        ((grid.lookup x y).isFinite = false ↔ grid.Overflows x y) ∧
          ((∀ bin ∈ before, |toRat bin| ≤ 2 ^ 126) → (∀ bin ∈ after, |toRat bin| ≤ 2 ^ 126) →
            (∀ value ∈ values, |toRat value| ≤ 2 ^ 124) →
              (grid.lookup x y).isFinite = true)) ∧
      (∀ (data : CurveData) (curve : Curve),
        Curve.ofData data = .ok curve →
          ((curve.lookup age).isFinite = false ↔ curve.Overflows age) ∧
            ((∀ bin ∈ data.bins, |toRat bin| ≤ 2 ^ 126) →
              (∀ multiplier ∈ data.multipliers, |toRat multiplier| ≤ 2 ^ 126) →
                (curve.lookup age).isFinite = true)) := by
  constructor
  · intro before after values grid built
    obtain ⟨rfl, rfl, rfl⟩ := Grid.ofFlat_eq_ok_iff.mp built
    constructor
    · rw [← Bool.not_eq_true, grid.isFinite_lookup_iff, not_not]
    · intro beforeBins afterBins values
      exact grid.isFinite_lookup beforeBins afterBins values x y
  · intro data curve built
    obtain ⟨agesEq, multipliersEq⟩ := Curve.ofData_eq_ok_iff.mp built
    rw [← agesEq, ← multipliersEq]
    constructor
    · rw [← Bool.not_eq_true, curve.isFinite_lookup_iff, not_not]
    · intro ages multipliers
      exact curve.isFinite_lookup ages multipliers age

theorem lookup_kept_in_steep_table :
    (∃ grid, Grid.ofFlat [0.0, 1e37] [-1e37, 60.0] [1.0, -2.0, -1e37, 1e37] = .ok grid ∧
      (∀ bin ∈ [0.0, 1e37], |toRat bin| ≤ 2 ^ 126) ∧
      (∀ bin ∈ [-1e37, 60.0], |toRat bin| ≤ 2 ^ 126) ∧
      (∀ value ∈ [1.0, -2.0, -1e37, 1e37], |toRat value| ≤ 2 ^ 124) ∧
        (grid.lookup 7e36 20.0).isFinite = true) ∧
      ∃ curve, Curve.ofData ⟨[0.0, 5.0], [1e37, -1e37]⟩ = .ok curve ∧
        (∀ bin ∈ [0.0, 5.0], |toRat bin| ≤ 2 ^ 126) ∧
        (∀ multiplier ∈ [1e37, -1e37], |toRat multiplier| ≤ 2 ^ 126) ∧
          (curve.lookup 2.0).isFinite = true := by
  constructor
  · have accepted : (Grid.ofFlat [0.0, 1e37] [-1e37, 60.0]
        [1.0, -2.0, -1e37, 1e37]).toOption.any (fun _ => true) = true := by decide +kernel
    obtain ⟨grid, built, _⟩ := exists_ok_of_any accepted
    have beforeBins : ∀ bin ∈ [0.0, 1e37], |toRat bin| ≤ 2 ^ 126 := by decide +kernel
    have afterBins : ∀ bin ∈ [-1e37, 60.0], |toRat bin| ≤ 2 ^ 126 := by decide +kernel
    have values : ∀ value ∈ [1.0, -2.0, -1e37, 1e37], |toRat value| ≤ 2 ^ 124 := by
      decide +kernel
    exact ⟨grid, built, beforeBins, afterBins, values,
      ((lookup_lost_iff_overflows 7e36 20.0 2.0).1 _ _ _ grid built).2 beforeBins afterBins values⟩
  · have accepted : (Curve.ofData ⟨[0.0, 5.0], [1e37, -1e37]⟩).toOption.any
        (fun _ => true) = true := by decide +kernel
    obtain ⟨curve, built, _⟩ := exists_ok_of_any accepted
    have ages : ∀ bin ∈ [0.0, 5.0], |toRat bin| ≤ 2 ^ 126 := by decide +kernel
    have multipliers : ∀ multiplier ∈ [1e37, -1e37], |toRat multiplier| ≤ 2 ^ 126 := by
      decide +kernel
    exact ⟨curve, built, ages, multipliers,
      ((lookup_lost_iff_overflows 7e36 20.0 2.0).2 _ curve built).2 ages multipliers⟩

/--
A grid with finite positions and values whose lookups are lost at one of its positions and beside
it, and a taper that loses the way between two ages.
-/
theorem lookup_lost_in_finite_table :
    (∃ grid, Grid.ofFlat [0.0] [0.0, 2.0, 4.0] [0.0, 3e38, -3e38] = .ok grid ∧
      (grid.lookup 0.0 2.0).isNaN = true ∧ (grid.lookup 0.0 3.0).isNaN = true) ∧
      ∃ curve, Curve.ofData ⟨[-3e38, 3e38], [1.0, 2.0]⟩ = .ok curve ∧
        (curve.lookup 1e38).isNaN = true := by
  constructor
  · have lost : (Grid.ofFlat [0.0] [0.0, 2.0, 4.0] [0.0, 3e38, -3e38]).toOption.any (fun grid =>
        (grid.lookup 0.0 2.0).isNaN && (grid.lookup 0.0 3.0).isNaN) = true := by
      decide +kernel
    obtain ⟨grid, built, missing⟩ := exists_ok_of_any lost
    rw [Bool.and_eq_true] at missing
    exact ⟨grid, built, missing⟩
  · exact exists_ok_of_any (by decide +kernel)

end TransientFuel
