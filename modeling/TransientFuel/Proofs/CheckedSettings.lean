import TransientFuel.Proofs.ChargeConservation
import TransientFuel.Proofs.EngineRuns

/-!
# Checked settings build an engine

The check of a table and the building of a table test the same things in different ways. The check
looks for a position that is not above the one before it and counts rows, while building compares
neighbours the other way round and counts all values. For finite positions both come to the same, so
a table passes its check exactly if it can be built. It follows that checked settings always build
an engine: `Settings.exists_build`.
-/

namespace TransientFuel

theorem check_bind_eq_ok {first : Except SettingsFault Unit}
    {next : Unit → Except SettingsFault Unit} :
    (first >>= next) = .ok () ↔ first = .ok () ∧ next () = .ok () := by
  cases first with
  | error fault => simp [bind, Except.bind]
  | ok passed => simp [bind, Except.bind]

section Bins

variable {bins : List Float32}

theorem Axis.ofList?_eq_some_iff {axis : Axis} : ofList? bins = some axis ↔ axis.bins = bins := by
  rw [ofList?]
  constructor
  · intro made
    split at made
    · rw [← Option.some.inj made]
    · contradiction
  · rintro rfl
    rw [dif_pos ⟨axis.nonempty, axis.finite, axis.increasing⟩]

/-- Finite numbers are in order or not, so both ways of looking at them agree. -/
theorem strictlyIncreasing_eq_not_hasDescent (finite : ∀ bin ∈ bins, bin.isFinite = true) :
    strictlyIncreasing bins = !hasDescent bins := by
  fun_induction strictlyIncreasing bins with
  | case1 first second rest inductionHypothesis =>
      have firstNumber := (Single.standsFor_of_isFinite (finite first (by simp))).1
      have secondNumber := (Single.standsFor_of_isFinite (finite second (by simp))).1
      have step : decide (first < second) = !decide (second ≤ first) := by
        rw [← decide_not, decide_eq_decide, Single.lt_iff, Single.le_iff]
        simp only [firstNumber, secondNumber, true_and, not_le]
      rw [step, hasDescent, inductionHypothesis (fun bin member => finite bin (by simp [member])),
        Bool.not_or]
  | case2 bins short =>
      rw [hasDescent]
      · rfl
      · exact short

theorem checkBins_eq_ok_iff {name : String} :
    checkBins name bins = .ok () ↔ ∃ axis : Axis, axis.bins = bins := by
  simp only [checkBins, require_bind_eq_ok, require_eq_ok, Bool.not_eq_true',
    List.isEmpty_eq_false_iff, List.all_eq_true]
  constructor
  · rintro ⟨nonempty, finite, noDescent⟩
    refine ⟨⟨bins, nonempty, finite, ?_⟩, rfl⟩
    rw [strictlyIncreasing_eq_not_hasDescent finite, noDescent]
    rfl
  · rintro ⟨axis, rfl⟩
    refine ⟨axis.nonempty, axis.finite, ?_⟩
    have increasing := axis.increasing
    rw [strictlyIncreasing_eq_not_hasDescent axis.finite] at increasing
    simpa using increasing

end Bins

namespace Grid

variable {grid : Grid} {before after values : List Float32}

theorem ofFlat_eq_ok_iff : ofFlat before after values = .ok grid ↔
    grid.before.bins = before ∧ grid.after.bins = after ∧ grid.values = values := by
  constructor
  · intro made
    rw [ofFlat] at made
    split at made
    · contradiction
    rename_i beforeAxis beforeMade
    split at made
    · contradiction
    rename_i afterAxis afterMade
    split_ifs at made with size finite
    rw [← Except.ok.inj made]
    exact ⟨Axis.ofList?_eq_some_iff.mp beforeMade, Axis.ofList?_eq_some_iff.mp afterMade, rfl⟩
  · rintro ⟨rfl, rfl, rfl⟩
    rw [ofFlat, Axis.ofList?_eq_some_iff.mpr rfl, Axis.ofList?_eq_some_iff.mpr rfl]
    simp only
    rw [dif_pos grid.length_values, dif_pos grid.values_finite]

theorem ofData_eq_ok_iff {data : GridData} : ofData data = .ok grid ↔
    (∀ row ∈ data.values, row.length = data.after.length) ∧ grid.before.bins = data.before ∧
      grid.after.bins = data.after ∧ grid.values = data.values.flatten := by
  rw [ofData]
  split
  · rename_i even
    simp only [List.all_eq_true, beq_iff_eq] at even
    rw [ofFlat_eq_ok_iff]
    exact (and_iff_right even).symm
  · rename_i ragged
    simp only [List.all_eq_true, beq_iff_eq] at ragged
    simp [ragged]

end Grid

namespace GridData

theorem checkRows_eq_ok_iff {columns number : ℕ} {rows : List (List Float32)} :
    checkRows columns number rows = .ok () ↔
      ∀ row ∈ rows, row.length = columns ∧ ∀ value ∈ row, value.isFinite = true := by
  induction rows generalizing number with
  | nil => simp [checkRows]
  | cons row rest inductionHypothesis =>
      simp only [checkRows, require_bind_eq_ok, inductionHypothesis, beq_iff_eq, List.all_eq_true,
        List.forall_mem_cons, and_assoc]

/-- A table passes its check exactly if a grid can be built of it. -/
theorem check_eq_ok_iff {data : GridData} :
    data.check = .ok () ↔ ∃ grid, Grid.ofData data = .ok grid := by
  simp only [check, check_bind_eq_ok, checkBins_eq_ok_iff, require_eq_ok, checkRows_eq_ok_iff,
    beq_iff_eq, Grid.ofData_eq_ok_iff]
  constructor
  · rintro ⟨⟨before, beforeEq⟩, ⟨after, afterEq⟩, rowCount, rows⟩
    have even : ∀ row ∈ data.values, row.length = data.after.length := by
      intro row member
      exact (rows row member).1
    refine ⟨⟨before, after, data.values.flatten, ?_, ?_⟩, even, beforeEq, afterEq, rfl⟩
    · rw [length_flatten_even even, rowCount, Axis.size, Axis.size, beforeEq, afterEq]
    · intro value member
      rcases List.mem_flatten.mp member with ⟨row, rowMember, valueMember⟩
      exact (rows row rowMember).2 value valueMember
  · rintro ⟨grid, even, beforeEq, afterEq, valuesEq⟩
    refine ⟨⟨_, beforeEq⟩, ⟨_, afterEq⟩, ?_, ?_⟩
    · have size := grid.length_values
      rw [valuesEq, length_flatten_even even, Axis.size, Axis.size, beforeEq, afterEq] at size
      refine Nat.eq_of_mul_eq_mul_right ?_ size
      rw [← afterEq]
      exact grid.after.size_pos
    · intro row member
      refine ⟨even row member, ?_⟩
      intro value valueMember
      apply grid.values_finite
      rw [valuesEq]
      exact List.mem_flatten.mpr ⟨row, member, valueMember⟩

end GridData

theorem Curve.ofData_eq_ok_iff {curve : Curve} {data : CurveData} : ofData data = .ok curve ↔
    curve.ages.bins = data.bins ∧ curve.multipliers = data.multipliers := by
  constructor
  · intro made
    rw [ofData] at made
    split at made
    · contradiction
    rename_i ages agesMade
    split_ifs at made with size finite
    rw [← Except.ok.inj made]
    exact ⟨Axis.ofList?_eq_some_iff.mp agesMade, rfl⟩
  · rintro ⟨bins, multipliers⟩
    rw [ofData, Axis.ofList?_eq_some_iff.mpr bins]
    simp only [← multipliers]
    rw [dif_pos curve.length_multipliers, dif_pos curve.multipliers_finite]

/-- A taper passes its check exactly if a curve can be built of it. -/
theorem CurveData.check_eq_ok_iff {data : CurveData} :
    data.check = .ok () ↔ ∃ curve, Curve.ofData data = .ok curve := by
  simp only [check, check_bind_eq_ok, checkBins_eq_ok_iff, require_eq_ok, beq_iff_eq,
    List.all_eq_true, Curve.ofData_eq_ok_iff]
  constructor
  · rintro ⟨⟨ages, agesEq⟩, length, finite⟩
    refine ⟨⟨ages, data.multipliers, ?_, finite⟩, agesEq, rfl⟩
    rw [length, ← agesEq]
  · rintro ⟨curve, agesEq, multipliersEq⟩
    refine ⟨⟨_, agesEq⟩, ?_, ?_⟩
    · rw [← agesEq, ← multipliersEq]
      exact curve.length_multipliers
    · rw [← multipliersEq]
      exact curve.multipliers_finite

/-- That a window can have this length. -/
def Window.Possible (length : ℕ) : Prop :=
  1 ≤ length ∧ length ≤ 32

theorem Window.exists_ofLength_of_possible {length : ℕ} (possible : Possible length) :
    ∃ window, ofLength length = .ok window := by
  rcases empty.resize_cases (request length) with ⟨_, _, window, made, _⟩ | ⟨outside, _⟩
  · exact ⟨window, made⟩
  · have := possible.1
    have := possible.2
    simp only [request, longestRequest] at outside
    omega

theorem Window.exists_ofLength {name : String} {length : ℕ}
    (valid : checkWindowLength name length = .ok ()) : ∃ window, ofLength length = .ok window := by
  simp only [checkWindowLength, require_eq_ok, Bool.and_eq_true, decide_eq_true_eq] at valid
  exact exists_ofLength_of_possible valid

namespace Settings

variable {settings : Settings}

theorem check_eq_ok_iff :
    settings.check = .ok () ↔
      (settings.load.cylinders ≠ 0 ∧ settings.load.cylinders ≤ maxCylinders) ∧
        settings.throttle.check = .ok () ∧ (∀ table ∈ settings.table, table.check = .ok ()) ∧
        settings.load.check = .ok () ∧ settings.taper.check = .ok () ∧
        settings.logging.check = .ok () := by
  rw [check]
  cases settings.table with
  | none =>
      simp [check_bind_eq_ok, require_eq_ok, and_assoc]
  | some table =>
      simp [check_bind_eq_ok, require_eq_ok, and_assoc]

/-- Tables beside the settings are checked on their own, and the table in force is one of them. -/
theorem tableInForce_check (valid : settings.check = .ok ()) {table : Option GridData}
    (tableValid : ∀ data ∈ table, data.check = .ok ()) :
    ((settings.tableInForce table).getD .zero).check = .ok () := by
  rw [tableInForce]
  cases table with
  | some data => exact tableValid data rfl
  | none =>
      have configured := (check_eq_ok_iff.mp valid).2.2.1
      cases given : settings.table with
      | some data => exact configured data given
      | none => decide +kernel

/-- Checked settings build an engine, and with checked tables beside them they still do. -/
theorem exists_build (valid : settings.check = .ok ()) {table : Option GridData}
    (tableValid : ∀ data ∈ table, data.check = .ok ()) {taper : Option CurveData}
    (taperValid : ∀ data ∈ taper, data.check = .ok ()) :
    ∃ engine, settings.build table taper = .ok engine := by
  rcases check_eq_ok_iff.mp valid with ⟨_, throttleValid, _, loadValid, configuredTaper, _⟩
  obtain ⟨grid, gridMade⟩ := GridData.check_eq_ok_iff.mp (tableInForce_check valid tableValid)
  obtain ⟨curve, curveMade⟩ : ∃ curve, Curve.ofData (taper.getD settings.taper) = .ok curve := by
    apply CurveData.check_eq_ok_iff.mp
    cases taper with
    | none => exact configuredTaper
    | some data => exact taperValid data rfl
  simp only [ThrottleSettings.check, check_bind_eq_ok] at throttleValid
  simp only [LoadSettings.check, check_bind_eq_ok] at loadValid
  obtain ⟨throttle, throttleMade⟩ :
      ∃ throttle, Throttle.create settings.throttle grid.lookup = .ok throttle := by
    obtain ⟨window, made⟩ := Window.exists_ofLength throttleValid.2.2.2.1
    rw [Throttle.create, made]
    exact ⟨_, rfl⟩
  obtain ⟨load, loadMade⟩ : ∃ load, Load.create settings.load curve.lookup = .ok load := by
    obtain ⟨window, made⟩ := Window.exists_ofLength loadValid.2.2.2.2
    rw [Load.create, made]
    exact ⟨_, rfl⟩
  exact ⟨_, build_eq_ok_iff.mpr
    ⟨grid, gridMade, curve, curveMade, throttle, throttleMade, load, loadMade, rfl⟩⟩

end Settings

end TransientFuel
