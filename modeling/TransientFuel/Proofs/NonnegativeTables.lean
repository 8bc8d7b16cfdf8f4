import TransientFuel.Proofs.CheckedSettings
import TransientFuel.Proofs.RoundedInterpolation

/-!
# Tables without negative entries

Where neither end is negative, an interpolated number is not negative: if the ends fall, the rounded
product takes away at most the start, `Binary.interpolated_nonneg`. A row of a grid can end in an
infinite or a missing number, so the ends of the second interpolation need not be finite. From an
infinite end the way leads to an infinite or a missing number, but never below zero.
-/

namespace TransientFuel

open Single (toRat StandsFor)

section Ends

variable {start stop fraction : Float32} {part : ℚ}

/-- From a finite amount to an infinite one. -/
theorem interpolate_nonneg_of_infinite (startFinite : start.isFinite = true)
    (startNonneg : 0.0 ≤ start) (stopNonneg : 0.0 ≤ stop) (stopInfinite : stop.isFinite = false)
    (given : StandsFor fraction part) (nonneg : 0 ≤ part) (le : part ≤ 1) :
    (interpolate start stop fraction).isNaN = true ∨ 0.0 ≤ interpolate start stop fraction := by
  have ordered : start ≤ stop := by
    rw [Single.le_iff, Single.toRat_of_infinite stopNonneg stopInfinite]
    have bounded := ((Single.isFinite_iff start).mp startFinite).2
    exact ⟨(Single.nonneg_iff.mp startNonneg).1, (Single.nonneg_iff.mp stopNonneg).1,
      (abs_lt.mp bounded).2.le⟩
  rcases Single.sub_isNaN_or_nonneg startNonneg ordered with missing | wayNonneg
  · exact Or.inl (Single.isNaN_add_right (Single.isNaN_mul_left missing))
  rcases Single.mul_isNaN_or_nonneg wayNonneg (isFinite_of_part given nonneg le)
    (given.2.symm ▸ nonneg) with missing | goneNonneg
  · exact Or.inl (Single.isNaN_add_right missing)
  · exact Or.inr (Single.le_trans goneNonneg (Single.le_add_of_nonneg_left startNonneg goneNonneg))

theorem interpolate_not_neg (startNotNeg : ¬start < 0.0) (stopNotNeg : ¬stop < 0.0)
    (known : fraction.isNaN = true ∨ ∃ part, StandsFor fraction part ∧ 0 ≤ part ∧ part ≤ 1) :
    ¬interpolate start stop fraction < 0.0 := by
  rw [Single.not_neg_iff] at startNotNeg stopNotNeg ⊢
  rcases known with missing | ⟨part, given, nonneg, le⟩
  · exact Or.inl (Single.isNaN_add_right (Single.isNaN_mul_right missing))
  rcases startNotNeg with missing | startNonneg
  · exact Or.inl (Single.isNaN_add_left missing)
  rcases stopNotNeg with missing | stopNonneg
  · exact Or.inl (Single.isNaN_add_right (Single.isNaN_mul_left (Single.isNaN_sub_left missing)))
  cases startFinite : start.isFinite with
  | false => exact Single.add_isNaN_or_nonneg startNonneg startFinite _
  | true =>
      cases stopFinite : stop.isFinite with
      | false =>
          exact interpolate_nonneg_of_infinite startFinite startNonneg stopNonneg stopFinite given
            nonneg le
      | true =>
          rw [Single.nonneg_iff] at startNonneg stopNonneg
          have wayFinite := Single.isFinite_sub_of_nonneg stopFinite startFinite stopNonneg.2
            startNonneg.2
          have stands := standsFor_interpolate startFinite wayFinite given nonneg le
          have startOperand := Single.operand_of_isFinite startFinite
          right
          rw [Single.nonneg_iff, stands.2]
          exact ⟨stands.1, Binary.interpolated_nonneg startOperand.representable
            startOperand.abs_lt.le startNonneg.2 stopNonneg.2 nonneg le⟩

end Ends

theorem Axis.fraction_known (axis : Axis) (x : Float32) :
    (axis.locate x).fraction.isNaN = true ∨
      ∃ part, StandsFor (axis.locate x).fraction part ∧ 0 ≤ part ∧ part ≤ 1 :=
  (axis.fraction_cases x).imp And.right And.right

/--
A grid without negative values finds no negative fuel for any two positions, and a taper without
negative multipliers no negative multiplier for any age, also for positions and ages that are
infinite or missing. Where a difference is too large for a number, what is found can be infinite or
missing.
-/
theorem lookup_never_negative :
    (∀ (before after values : List Float32) (grid : Grid),
      Grid.ofFlat before after values = .ok grid → (∀ value ∈ values, 0.0 ≤ value) →
        ∀ x y, ¬grid.lookup x y < 0.0) ∧
      (∀ (data : CurveData) (curve : Curve),
        Curve.ofData data = .ok curve → (∀ multiplier ∈ data.multipliers, 0.0 ≤ multiplier) →
          ∀ age, ¬curve.lookup age < 0.0) := by
  constructor
  · intro before after values grid built nonneg x y
    obtain ⟨rfl, rfl, rfl⟩ := Grid.ofFlat_eq_ok_iff.mp built
    have value (row column) : ¬grid.value row column < 0.0 :=
      Single.not_neg_of_nonneg (nonneg _ (grid.value_mem row column))
    have along (row) : ¬grid.along row (grid.after.locate y) < 0.0 :=
      interpolate_not_neg (value row _) (value row _) (grid.after.fraction_known y)
    exact interpolate_not_neg (along _) (along _) (grid.before.fraction_known x)
  · intro data curve built nonneg age
    rw [← (Curve.ofData_eq_ok_iff.mp built).2] at nonneg
    have multiplier (index) : ¬curve.multiplier index < 0.0 :=
      Single.not_neg_of_nonneg (nonneg _ (curve.multiplier_mem index))
    exact interpolate_not_neg (multiplier _) (multiplier _) (curve.ages.fraction_known age)

theorem lookup_never_negative_falling :
    (∃ grid, Grid.ofFlat [0.0, 50.0] [0.0, 60.0] [3.0, 0.0, 0.1, 0.0] = .ok grid ∧
      (∀ value ∈ [3.0, 0.0, 0.1, 0.0], (0.0 : Float32) ≤ value) ∧
        ¬grid.lookup 49.0 59.0 < 0.0) ∧
      ∃ curve, Curve.ofData ⟨[0.0, 5.0], [1.0, 0.0]⟩ = .ok curve ∧
        (∀ multiplier ∈ [1.0, 0.0], (0.0 : Float32) ≤ multiplier) ∧
          ¬curve.lookup 4.9 < 0.0 := by
  obtain ⟨grid, gridBuilt⟩ : ∃ grid,
      Grid.ofFlat [0.0, 50.0] [0.0, 60.0] [3.0, 0.0, 0.1, 0.0] = .ok grid := ⟨_, rfl⟩
  obtain ⟨curve, curveBuilt⟩ : ∃ curve,
      Curve.ofData ⟨[0.0, 5.0], [1.0, 0.0]⟩ = .ok curve := ⟨_, rfl⟩
  have values : ∀ value ∈ [3.0, 0.0, 0.1, 0.0], (0.0 : Float32) ≤ value := by decide +kernel
  have multipliers : ∀ multiplier ∈ [1.0, 0.0], (0.0 : Float32) ≤ multiplier := by decide +kernel
  constructor
  · exact ⟨grid, gridBuilt, values, lookup_never_negative.1 _ _ _ _ gridBuilt values _ _⟩
  · exact ⟨curve, curveBuilt, multipliers, lookup_never_negative.2 _ _ curveBuilt multipliers _⟩

end TransientFuel
