import TransientFuel.Proofs.DistinctBins
import TransientFuel.Proofs.RoundedInterpolation

/-!
# Lookups at the nodes of a table

A position of an axis is located at itself, with no way gone: at the ends of the axis because the
ends are taken, and elsewhere because the position is the lower one of its cell, `Axis.atNode`. So
the lookup at a node finds the value that stands there, unless a neighbour is infinitely far away,
which makes the product with the fraction zero a missing number: `lookup_exact_at_nodes`.
-/

namespace TransientFuel

open Single (toRat StandsFor)

namespace Axis

variable (axis : Axis)

theorem strictMono_bin : StrictMono fun index : Fin axis.size => toRat (axis.bin index) := by
  intro lower upper less
  have increasing := strictlyIncreasing_iff_pairwise.mp axis.increasing
  exact (Single.lt_iff.mp (List.pairwise_iff_get.mp increasing lower upper less)).2.2

/-- The cell of a position: it begins there, and nothing of the way to its end is gone. -/
structure AtNode (index : Fin axis.size) (cell : Cell axis.size) : Prop where
  lower : cell.lower = index
  upper : cell.upper = index ∨ (cell.upper : ℕ) = index + 1
  fraction : StandsFor cell.fraction 0

theorem atNode (index : Fin axis.size) : axis.AtNode index (axis.locate (axis.bin index)) := by
  have located := axis.located (axis.bin index)
  generalize axis.locate (axis.bin index) = cell at located
  cases located with
  | first outside =>
      have le := outside.resolve_left (Bool.eq_false_iff.mp (axis.isNaN_bin index))
      have notAfter := axis.strictMono_bin.le_iff_le.mp (Single.le_iff.mp le).2.2
      have same : axis.first = index := le_antisymm (Nat.zero_le index) notAfter
      exact ⟨same, Or.inl same, Single.standsFor_zero⟩
  | last inside beyond =>
      have notBefore := axis.strictMono_bin.le_iff_le.mp (Single.le_iff.mp beyond).2.2
      have same : axis.last = index := le_antisymm notBefore (Nat.le_sub_one_of_lt index.isLt)
      exact ⟨same, Or.inl same, Single.standsFor_zero⟩
  | @between lower upper _ _ _ next above below =>
      have less := (Single.lt_iff.mp below).2.2
      have same : lower = index := by
        have notBefore := axis.strictMono_bin.le_iff_le.mp (Single.le_iff.mp above).2.2
        have inside := axis.strictMono_bin.lt_iff_lt.mp less
        omega
      subst same
      refine ⟨rfl, Or.inr next, ?_⟩
      have lowerFinite := axis.isFinite_bin lower
      have upperFinite := axis.isFinite_bin upper
      have nothing := Single.standsFor_sub lowerFinite lowerFinite
      rw [sub_self, Binary.rounded_zero] at nothing
      apply Single.standsFor_div_of_zero nothing (Single.standsFor_sub upperFinite lowerFinite).1
      exact Single.sub_pos_of_lt lowerFinite upperFinite less

end Axis

section Unmoved

variable {start stop fraction : Float32}

/-- An interpolation that has not left its start. -/
theorem standsFor_interpolate_of_zero (startFinite : start.isFinite = true)
    (wayFinite : (stop - start).isFinite = true) (given : StandsFor fraction 0) :
    StandsFor (interpolate start stop fraction) (toRat start) := by
  have stands := standsFor_interpolate startFinite wayFinite given le_rfl zero_le_one
  have unmoved : Binary.interpolated (toRat start) (toRat stop) 0 = toRat start := by
    simp [Binary.interpolated, Single.rounded_toRat startFinite]
  rwa [unmoved] at stands

theorem isFinite_sub_self (finite : start.isFinite = true) : (start - start).isFinite = true := by
  apply Single.isFinite_of_standsFor (Single.standsFor_sub finite finite)
  simp

end Unmoved

/-- At a position an interpolation along the axis finds what stands there. -/
theorem Axis.AtNode.standsFor_interpolate {axis : Axis} {index : Fin axis.size}
    {cell : Cell axis.size} (node : axis.AtNode index cell) (values : Fin axis.size → Float32)
    (finite : (values index).isFinite = true)
    (gradual : ∀ next : Fin axis.size, (next : ℕ) = index + 1 →
      (values next - values index).isFinite = true) :
    StandsFor (interpolate (values cell.lower) (values cell.upper) cell.fraction)
      (toRat (values index)) := by
  rcases node with ⟨lower, upper, fraction⟩
  rw [lower]
  apply standsFor_interpolate_of_zero finite _ fraction
  rcases upper with same | next
  · rw [same]
    exact isFinite_sub_self finite
  · exact gradual _ next

/-- Neighbouring multipliers have finite differences. -/
def Curve.Gradual (curve : Curve) : Prop :=
  ∀ index next : Fin curve.ages.size, (next : ℕ) = index + 1 →
    (curve.multiplier next - curve.multiplier index).isFinite = true

theorem Curve.Gradual.lookup_bin {curve : Curve} (gradual : curve.Gradual)
    (index : Fin curve.ages.size) :
    StandsFor (curve.lookup (curve.ages.bin index)) (toRat (curve.multiplier index)) :=
  (curve.ages.atNode index).standsFor_interpolate curve.multiplier
    (curve.isFinite_multiplier index) (gradual index)

namespace Grid

variable {grid : Grid}

/-- Values that are neighbours in a row or in a column have finite differences. -/
structure Gradual (grid : Grid) : Prop where
  alongRow : ∀ (row : Fin grid.before.size) (column next : Fin grid.after.size),
    (next : ℕ) = column + 1 → (grid.value row next - grid.value row column).isFinite = true
  alongColumn : ∀ (row next : Fin grid.before.size) (column : Fin grid.after.size),
    (next : ℕ) = row + 1 → (grid.value next column - grid.value row column).isFinite = true

theorem Gradual.lookup_bin (gradual : grid.Gradual) (row : Fin grid.before.size)
    (column : Fin grid.after.size) :
    StandsFor (grid.lookup (grid.before.bin row) (grid.after.bin column))
      (toRat (grid.value row column)) := by
  have along (row : Fin grid.before.size) :
      StandsFor (grid.along row (grid.after.locate (grid.after.bin column)))
        (toRat (grid.value row column)) :=
    (grid.after.atNode column).standsFor_interpolate (grid.value row)
      (grid.isFinite_value row column) (gradual.alongRow row column)
  rw [lookup_eq, ← (along row).2]
  -- In the column of the node the rows differ as their values do.
  apply (grid.before.atNode row).standsFor_interpolate
    (grid.along · (grid.after.locate (grid.after.bin column)))
  · exact Single.isFinite_of_standsFor (along row)
      ((Single.isFinite_iff _).mp (grid.isFinite_value row column)).2
  · intro next neighbour
    have way := (along next).sub (grid.isFinite_value next column) (along row)
      (grid.isFinite_value row column)
    exact Single.isFinite_of_standsFor way
      ((Single.isFinite_iff _).mp (gradual.alongColumn row next column neighbour)).2

end Grid

theorem Axis.exists_bin {axis : Axis} {index : ℕ} {x : Float32}
    (found : axis.bins[index]? = some x) :
    ∃ place : Fin axis.size, (place : ℕ) = index ∧ axis.bin place = x := by
  rcases List.getElem?_eq_some_iff.mp found with ⟨bound, rfl⟩
  exact ⟨⟨index, bound⟩, rfl, rfl⟩

/--
A lookup at a position before and a position after the rise gives the value of that row and that
column, up to the sign of zero, if values that are neighbours in a row or in a column have finite
differences. The values stand row by row. A taper gives the multiplier of each of its ages, if
neighbouring multipliers have finite differences.
-/
theorem lookup_exact_at_nodes :
    (∀ (before after values : List Float32) (grid : Grid),
      Grid.ofFlat before after values = .ok grid → grid.Gradual →
        ∀ (row column : ℕ) x y, before[row]? = some x → after[column]? = some y →
          ∃ value, values[row * after.length + column]? = some value ∧ grid.lookup x y == value) ∧
      (∀ (data : CurveData) (curve : Curve),
        Curve.ofData data = .ok curve → curve.Gradual →
          ∀ (index : ℕ) age, data.bins[index]? = some age →
            ∃ multiplier, data.multipliers[index]? = some multiplier ∧
              curve.lookup age == multiplier) := by
  constructor
  · intro before after values grid built gradual row column x y foundRow foundColumn
    obtain ⟨rfl, rfl, rfl⟩ := Grid.ofFlat_eq_ok_iff.mp built
    obtain ⟨rowPlace, rfl, rfl⟩ := Axis.exists_bin foundRow
    obtain ⟨columnPlace, rfl, rfl⟩ := Axis.exists_bin foundColumn
    refine ⟨grid.value rowPlace columnPlace, ?_, ?_⟩
    · simp [Grid.value]
    · apply Single.beq_of_standsFor (gradual.lookup_bin rowPlace columnPlace)
      exact (Single.standsFor_of_isFinite (grid.isFinite_value _ _)).1
  · intro data curve built gradual index age found
    obtain ⟨agesEq, multipliersEq⟩ := Curve.ofData_eq_ok_iff.mp built
    rw [← agesEq] at found
    rw [← multipliersEq]
    obtain ⟨place, rfl, rfl⟩ := Axis.exists_bin found
    refine ⟨curve.multiplier place, ?_, ?_⟩
    · simp [Curve.multiplier]
    · apply Single.beq_of_standsFor (gradual.lookup_bin place)
      exact (Single.standsFor_of_isFinite (curve.isFinite_multiplier _)).1

theorem lookup_exact_at_nodes_wide :
    (∃ grid, Grid.ofFlat [0.0, 50.0] [0.0, 30.0, 60.0] [1.0, 2.0, 4.0, 8.0, 0.5, 16.0] = .ok grid ∧
      grid.Gradual ∧ grid.lookup 50.0 30.0 == 0.5) ∧
      ∃ curve, Curve.ofData ⟨[0.0, 2.0, 5.0], [1.0, 0.5, 0.0]⟩ = .ok curve ∧ curve.Gradual ∧
        curve.lookup 2.0 == 0.5 := by
  constructor
  · obtain ⟨grid, built, gradual⟩ : ∃ grid,
        Grid.ofFlat [0.0, 50.0] [0.0, 30.0, 60.0] [1.0, 2.0, 4.0, 8.0, 0.5, 16.0] = .ok grid ∧
          grid.Gradual :=
      ⟨_, rfl, by decide +kernel, by decide +kernel⟩
    obtain ⟨value, found, same⟩ :=
      lookup_exact_at_nodes.1 _ _ _ grid built gradual 1 1 _ _ rfl rfl
    obtain rfl : (0.5 : Float32) = value := Option.some.inj found
    exact ⟨grid, built, gradual, same⟩
  · obtain ⟨curve, built, gradual⟩ : ∃ curve,
        Curve.ofData ⟨[0.0, 2.0, 5.0], [1.0, 0.5, 0.0]⟩ = .ok curve ∧ curve.Gradual := by
      refine ⟨_, rfl, ?_⟩
      rw [Curve.Gradual]
      decide +kernel
    obtain ⟨multiplier, found, same⟩ :=
      lookup_exact_at_nodes.2 _ curve built gradual 1 _ rfl
    obtain rfl : (0.5 : Float32) = multiplier := Option.some.inj found
    exact ⟨curve, built, gradual, same⟩

end TransientFuel
