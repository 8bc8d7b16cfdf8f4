import TransientFuel.Proofs.DistinctBins

/-!
# Checking a table and building it

A table is checked when it is loaded, with a report that names the row at fault, and tested once
more when it is built, where the rows are put behind each other and only their total length is
counted. Both tests accept the tables that are regular, `GridData.Regular` and `CurveData.Regular`,
and no others: once every row has the right length, and there is at least one column, the total
length tells the number of rows. The total length itself is small enough for a machine word, since
there are fewer than `2 ^ 32` finite numbers that the positions of an axis could be, `Axis.size_lt`.
-/

namespace TransientFuel

/-- At least one position, all of them finite, each above those before it. -/
structure Ascending (bins : List Float32) : Prop where
  nonempty : bins ≠ []
  finite : ∀ bin ∈ bins, bin.isFinite = true
  increasing : bins.Pairwise (· < ·)

/-- A row for each position before the rise, and in it a finite value for each position after it. -/
structure GridData.Regular (data : GridData) : Prop where
  before : Ascending data.before
  after : Ascending data.after
  rows : data.values.length = data.before.length
  columns : ∀ row ∈ data.values, row.length = data.after.length
  finite : ∀ row ∈ data.values, ∀ value ∈ row, value.isFinite = true

/-- A finite multiplier for each age. -/
structure CurveData.Regular (data : CurveData) : Prop where
  ages : Ascending data.bins
  length : data.multipliers.length = data.bins.length
  finite : ∀ multiplier ∈ data.multipliers, multiplier.isFinite = true

theorem ascending_iff {bins : List Float32} :
    Ascending bins ↔ ∃ axis : Axis, axis.bins = bins := by
  constructor
  · rintro ⟨nonempty, finite, increasing⟩
    exact ⟨⟨bins, nonempty, finite, strictlyIncreasing_iff_pairwise.mpr increasing⟩, rfl⟩
  · rintro ⟨axis, rfl⟩
    exact ⟨axis.nonempty, axis.finite, strictlyIncreasing_iff_pairwise.mp axis.increasing⟩

section Counting

variable {x y : Float32}

theorem Single.rank_lt_of_lt (less : x < y) : rank x < rank y := by
  rcases lt_iff.mp less with ⟨xKnown, yKnown, lessRat⟩
  by_contra notLess
  have le := toRat_le_of_rank_le yKnown xKnown (not_lt.mp notLess)
  linarith

/-- Behind the last finite number comes infinity. -/
theorem Single.rank_bounds (finite : x.isFinite = true) :
    -0x7f800000 ≤ rank x ∧ rank x < 0x7f800000 := by
  have width := x.toBits.toNat_lt
  rcases (isFinite_iff x).mp finite with ⟨known, small⟩
  have short : x.toBits.toNat % 0x80000000 < 0x7f800000 := by
    by_contra long
    have large := magnitude_mono (not_lt.mp long)
    have infinity : magnitude 0x7f800000 = 2 ^ (128 : ℤ) := by norm_num [magnitude]
    rw [toRat_eq_magnitude known, abs_mul, Binary.abs_signFactor, one_mul,
      abs_of_nonneg (magnitude_nonneg _)] at small
    rw [infinity] at large
    linarith
  simp only [rank, isNegative, decide_eq_true_eq]
  split <;> omega

/-- The positions have different ranks, and there are not more ranks than that. -/
theorem Axis.size_lt (axis : Axis) : axis.size < 2 ^ 32 := by
  have ascending : Ascending axis.bins := ascending_iff.mpr ⟨axis, rfl⟩
  have increasing : (axis.bins.map Single.rank).Pairwise (· < ·) :=
    List.pairwise_map.mpr (ascending.increasing.imp Single.rank_lt_of_lt)
  have few : (axis.bins.map Single.rank).length ≤ (0x7f800000 - -0x7f800000 : ℤ).toNat := by
    apply length_le_of_pairwise increasing
    intro rank member
    rcases List.mem_map.mp member with ⟨bin, inBins, rfl⟩
    exact Single.rank_bounds (ascending.finite bin inBins)
  rw [List.length_map] at few
  exact few.trans_lt (by norm_num)

end Counting

theorem GridData.check_eq_ok_iff_regular {data : GridData} :
    data.check = .ok () ↔ data.Regular := by
  simp only [check, check_bind_eq_ok, checkBins_eq_ok_iff, require_eq_ok, checkRows_eq_ok_iff,
    beq_iff_eq, ← ascending_iff]
  constructor
  · rintro ⟨before, after, rows, values⟩
    exact ⟨before, after, rows, fun row member => (values row member).1,
      fun row member => (values row member).2⟩
  · rintro ⟨before, after, rows, columns, finite⟩
    exact ⟨before, after, rows, fun row member => ⟨columns row member, finite row member⟩⟩

theorem CurveData.check_eq_ok_iff_regular {data : CurveData} :
    data.check = .ok () ↔ data.Regular := by
  simp only [check, check_bind_eq_ok, checkBins_eq_ok_iff, require_eq_ok, beq_iff_eq,
    List.all_eq_true, ← ascending_iff]
  constructor
  · rintro ⟨ages, length, finite⟩
    exact ⟨ages, length, finite⟩
  · rintro ⟨ages, length, finite⟩
    exact ⟨ages, length, finite⟩

section Cells

theorem Grid.value_of_ofData {data : GridData} {grid : Grid} (built : ofData data = .ok grid)
    (row : Fin grid.before.size) (column : Fin grid.after.size) :
    (data.values[(row : ℕ)]?.bind fun values => values[(column : ℕ)]?) =
      some (grid.value row column) := by
  rcases ofData_eq_ok_iff.mp built with ⟨even, _, afterEq, valuesEq⟩
  rw [← afterEq] at even
  rw [← getElem?_flatten even row column.isLt, ← valuesEq, value, List.get_eq_getElem,
    List.getElem?_eq_getElem]

end Cells

/--
A throttle table passes its check if and only if a grid can be built of it, and both happen if and
only if it is regular. The grid then has the positions of the table, and in each cell the value that
the table has there. A taper passes its check if and only if a curve can be built of it, and both
happen if and only if it is regular; the curve has the ages and the multipliers of the taper. The
number of cells between two axes, which the builder compares the values with, is below `2 ^ 64`.
-/
theorem check_iff_builds :
    (∀ data : GridData,
      (data.check = .ok () ↔ ∃ grid, Grid.ofData data = .ok grid) ∧
        (data.check = .ok () ↔ data.Regular) ∧
        ∀ grid, Grid.ofData data = .ok grid →
          grid.before.bins = data.before ∧ grid.after.bins = data.after ∧
            ∀ (row : Fin grid.before.size) (column : Fin grid.after.size),
              (data.values[(row : ℕ)]?.bind fun values => values[(column : ℕ)]?) =
                some (grid.value row column)) ∧
      (∀ data : CurveData,
        (data.check = .ok () ↔ ∃ curve, Curve.ofData data = .ok curve) ∧
          (data.check = .ok () ↔ data.Regular) ∧
          ∀ curve, Curve.ofData data = .ok curve →
            curve.ages.bins = data.bins ∧ curve.multipliers = data.multipliers) ∧
      ∀ before after : Axis, before.size * after.size < 2 ^ 64 := by
  refine ⟨?_, ?_, ?_⟩
  · intro data
    refine ⟨GridData.check_eq_ok_iff, GridData.check_eq_ok_iff_regular, ?_⟩
    intro grid built
    rcases Grid.ofData_eq_ok_iff.mp built with ⟨_, beforeEq, afterEq, _⟩
    exact ⟨beforeEq, afterEq, Grid.value_of_ofData built⟩
  · intro data
    refine ⟨CurveData.check_eq_ok_iff, CurveData.check_eq_ok_iff_regular, ?_⟩
    intro curve built
    exact Curve.ofData_eq_ok_iff.mp built
  · intro before after
    calc before.size * after.size
        < 2 ^ 32 * 2 ^ 32 := Nat.mul_lt_mul'' before.size_lt after.size_lt
      _ = 2 ^ 64 := by norm_num

/-- A grid of two rows and three columns, read in its last cell. -/
theorem check_iff_builds_two_rows :
    let data : GridData :=
      ⟨[0.0, 50.0], [0.0, 30.0, 60.0], [[1.0, 2.0, 3.0], [4.0, 5.0, 6.0]]⟩
    data.check = .ok () ∧ ∃ grid, Grid.ofData data = .ok grid ∧
      ∀ (row : Fin grid.before.size) (column : Fin grid.after.size),
        (row : ℕ) = 1 → (column : ℕ) = 2 → grid.value row column = 6.0 := by
  intro data
  have passes : data.check = .ok () := by decide +kernel
  rcases check_iff_builds.1 data with ⟨builds, _, cells⟩
  rcases builds.mp passes with ⟨grid, built⟩
  refine ⟨passes, grid, built, ?_⟩
  intro row column rowEq columnEq
  have cell := (cells grid built).2.2 row column
  rw [rowEq, columnEq] at cell
  exact (Option.some.inj cell).symm

end TransientFuel
