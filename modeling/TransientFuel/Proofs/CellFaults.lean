import TransientFuel.Proofs.CompleteGrids

/-!
# The cell at fault

If cells do not make a table, the fault names a cell. A cell that repeats an earlier one comes
before all others: the first such cell is named with its line, even if other cells are missing. If
no cell is repeated, the first pair of bins without a cell is named, row by row. The two searches
are lists gone through until something fails, `firstRepeat?_eq_some_iff` and `mapM_eq_error_iff`, so
what they find is the least place of its kind: `GridData.ofCells_blames_first`.
-/

namespace TransientFuel

/-- That the cell at an index is for the same positions as an earlier one. -/
def RepeatsAt (cells : List GridCell) (index : ℕ) : Prop :=
  ∃ earlier < index, ∃ first second, cells[earlier]? = some first ∧ cells[index]? = some second ∧
    first.isAt second.before second.after = true

/-- That no cell is for the bins in a row and a column. -/
def GapAt (cells : List GridCell) (row column : ℕ) : Prop :=
  ∃ before after, (distinct (cells.map GridCell.before))[row]? = some before ∧
    (distinct (cells.map GridCell.after))[column]? = some after ∧
    ∀ cell ∈ cells, cell.isAt before after = false

/-- Which fault some cells have: the first repeated one, or else the first missing one. -/
inductive Blamed (cells : List GridCell) : TabulationFault → Prop
  | repeated {index : ℕ} {cell : GridCell} (least : IsLeast {index | RepeatsAt cells index} index)
      (found : cells[index]? = some cell) :
      Blamed cells (.duplicate cell.before cell.after (index + 2))
  | missing {row column : ℕ} {before after : Float32} (unrepeated : ∀ index, ¬RepeatsAt cells index)
      (least : IsLeast {place : ℕ ×ₗ ℕ | GapAt cells (ofLex place).1 (ofLex place).2}
        (toLex (row, column)))
      (beforeAt : (distinct (cells.map GridCell.before))[row]? = some before)
      (afterAt : (distinct (cells.map GridCell.after))[column]? = some after) :
      Blamed cells (.missing before after)

section Searches

/-- The cell that is found repeats a cell before it, and the cells before it repeat none. -/
theorem firstRepeat?_eq_some_iff {seen cells : List GridCell} {line found : ℕ} {cell : GridCell} :
    firstRepeat? seen line cells = some (cell, found) ↔
      ∃ index, found = line + index ∧ cells[index]? = some cell ∧
        (∃ earlier ∈ seen ++ cells.take index, earlier.isAt cell.before cell.after = true) ∧
        firstRepeat? seen line (cells.take index) = none := by
  induction cells generalizing seen line with
  | nil => simp [firstRepeat?]
  | cons first rest inductionHypothesis =>
      rw [← Nat.or_exists_add_one]
      by_cases repeats : seen.any (·.isAt first.before first.after) = true
      · simp only [firstRepeat?, if_pos repeats, List.take_succ_cons, reduceCtorEq, and_false,
          exists_false, or_false, List.getElem?_cons_zero, List.take_zero, List.append_nil]
        constructor
        · rintro ⟨⟩
          exact ⟨rfl, rfl, by simpa using repeats, trivial⟩
        · rintro ⟨rfl, ⟨⟩, _⟩
          rfl
      · have fresh : ∀ earlier ∈ seen, earlier.isAt first.before first.after = false := by
          simpa using repeats
        rw [firstRepeat?, if_neg repeats, inductionHypothesis, or_iff_right]
        · apply exists_congr
          intro index
          simp only [firstRepeat?, if_neg repeats, List.take_succ_cons, List.getElem?_cons_succ,
            List.perm_middle.mem_iff, List.cons_append, Nat.add_assoc, Nat.add_comm 1]
        · rintro ⟨_, ⟨⟩, ⟨earlier, member, isAt⟩, _⟩
          simp [fresh earlier (by simpa using member)] at isAt

end Searches

section Repeats

variable {cells : List GridCell}

theorem repeatsAt_iff {index : ℕ} {cell : GridCell} (found : cells[index]? = some cell) :
    RepeatsAt cells index ↔
      ∃ earlier ∈ cells.take index, earlier.isAt cell.before cell.after = true := by
  constructor
  · rintro ⟨earlier, before, first, second, firstAt, secondAt, isAt⟩
    obtain rfl : cell = second := Option.some.inj (found.symm.trans secondAt)
    exact ⟨first, mem_take_iff.mpr ⟨earlier, before, firstAt⟩, isAt⟩
  · rintro ⟨first, member, isAt⟩
    rcases mem_take_iff.mp member with ⟨earlier, before, firstAt⟩
    exact ⟨earlier, before, first, cell, firstAt, found, isAt⟩

theorem repeatsAt_take_iff {count index : ℕ} :
    RepeatsAt (cells.take count) index ↔ index < count ∧ RepeatsAt cells index := by
  by_cases inside : index < count
  · simp only [inside, true_and, RepeatsAt, List.getElem?_take_of_lt]
    apply exists_congr
    intro earlier
    apply and_congr_right
    intro before
    simp only [List.getElem?_take_of_lt (before.trans inside)]
  · simp [RepeatsAt, List.getElem?_take, inside]

theorem pairwise_iff_not_repeatsAt :
    (cells.Pairwise fun earlier later => earlier.isAt later.before later.after = false) ↔
      ∀ index, ¬RepeatsAt cells index := by
  rw [List.pairwise_iff_getElem]
  constructor
  · rintro apart index ⟨earlier, before, first, second, firstAt, secondAt, isAt⟩
    rcases List.getElem?_eq_some_iff.mp firstAt with ⟨earlierInside, rfl⟩
    rcases List.getElem?_eq_some_iff.mp secondAt with ⟨inside, rfl⟩
    simp [apart earlier index earlierInside inside before] at isAt
  · intro unrepeated earlier index earlierInside inside before
    by_contra isAt
    refine unrepeated index ⟨earlier, before, cells[earlier], cells[index], ?_, ?_, ?_⟩
    · exact List.getElem?_eq_getElem earlierInside
    · exact List.getElem?_eq_getElem inside
    · simpa using isAt

theorem firstRepeat?_eq_none_iff_not_repeatsAt {line : ℕ} :
    firstRepeat? [] line cells = none ↔ ∀ index, ¬RepeatsAt cells index := by
  rw [GridCell.firstRepeat?_eq_none_iff, pairwise_iff_not_repeatsAt]
  simp

/-- Of the cells that repeat an earlier one, the first is found, with its line. -/
theorem firstRepeat?_eq_some_iff_isLeast {line found : ℕ} {cell : GridCell} :
    firstRepeat? [] line cells = some (cell, found) ↔
      ∃ index, IsLeast {index | RepeatsAt cells index} index ∧ cells[index]? = some cell ∧
        found = line + index := by
  rw [firstRepeat?_eq_some_iff]
  simp only [firstRepeat?_eq_none_iff_not_repeatsAt, repeatsAt_take_iff, List.nil_append]
  apply exists_congr
  intro index
  constructor
  · rintro ⟨line, found, repeats, unrepeated⟩
    refine ⟨⟨(repeatsAt_iff found).mpr repeats, ?_⟩, found, line⟩
    intro other otherRepeats
    by_contra before
    exact unrepeated other ⟨not_le.mp before, otherRepeats⟩
  · rintro ⟨⟨repeats, least⟩, found, line⟩
    refine ⟨line, found, (repeatsAt_iff found).mp repeats, ?_⟩
    rintro other ⟨before, otherRepeats⟩
    exact absurd (least otherRepeats) (not_le.mpr before)

end Repeats

namespace GridData

variable {cells : List GridCell} {fault : TabulationFault}

theorem cellValue_eq_error_iff {row column : Float32} :
    cellValue cells row column = .error fault ↔
      (∀ cell ∈ cells, cell.isAt row column = false) ∧ fault = .missing row column := by
  rw [cellValue]
  cases found : cells.find? (·.isAt row column) with
  | some cell =>
      have isAt := List.find?_some found
      have member := List.mem_of_find?_eq_some found
      simp only [reduceCtorEq, false_iff, not_and]
      intro gap
      simp [gap cell member] at isAt
  | none =>
      have gap : ∀ cell ∈ cells, cell.isAt row column = false := by
        simpa using found
      rw [Except.error.injEq, and_iff_right gap, eq_comm]

/-- Going through the bins row by row ends at the first pair that has no cell. -/
theorem mapM_cellValue_eq_error_iff :
    ((distinct (cells.map GridCell.before)).mapM fun row =>
        (distinct (cells.map GridCell.after)).mapM fun column =>
          cellValue cells row column) = .error fault ↔
      ∃ row column before after,
        IsLeast {place : ℕ ×ₗ ℕ | GapAt cells (ofLex place).1 (ofLex place).2}
          (toLex (row, column)) ∧
        (distinct (cells.map GridCell.before))[row]? = some before ∧
        (distinct (cells.map GridCell.after))[column]? = some after ∧
        fault = .missing before after := by
  rw [mapM_mapM_eq_error_iff]
  simp only [cellValue_eq_error_iff]
  have gaps (place : ℕ ×ₗ ℕ) :
      (∃ before after, ∃ other : TabulationFault,
        (distinct (cells.map GridCell.before))[(ofLex place).1]? = some before ∧
        (distinct (cells.map GridCell.after))[(ofLex place).2]? = some after ∧
        (∀ cell ∈ cells, cell.isAt before after = false) ∧ other = .missing before after) ↔
      GapAt cells (ofLex place).1 (ofLex place).2 := by
    simp [GapAt]
  simp only [gaps]
  constructor
  · rintro ⟨row, column, before, after, least, beforeAt, afterAt, _, named⟩
    exact ⟨row, column, before, after, least, beforeAt, afterAt, named⟩
  · rintro ⟨row, column, before, after, least, beforeAt, afterAt, named⟩
    rcases least.1 with ⟨sameBefore, sameAfter, sameBeforeAt, sameAfterAt, gap⟩
    obtain rfl : before = sameBefore := Option.some.inj (beforeAt.symm.trans sameBeforeAt)
    obtain rfl : after = sameAfter := Option.some.inj (afterAt.symm.trans sameAfterAt)
    exact ⟨row, column, before, after, least, beforeAt, afterAt, gap, named⟩

/-- Of cells that are there and finite, either one is repeated or one may be missing. -/
theorem ofCells_eq_error_iff (nonempty : cells ≠ [])
    (finite : ∀ cell ∈ cells, cell.isFinite = true) :
    ofCells cells = .error fault ↔
      (∃ cell line, firstRepeat? [] firstLine cells = some (cell, line) ∧
        fault = .duplicate cell.before cell.after line) ∨
      firstRepeat? [] firstLine cells = none ∧
        ((distinct (cells.map GridCell.before)).mapM fun row =>
          (distinct (cells.map GridCell.after)).mapM fun column =>
            cellValue cells row column) = .error fault := by
  have notEmpty : cells.isEmpty = false := by
    simpa using nonempty
  have allFinite : (!cells.all GridCell.isFinite) = false := by
    simpa using finite
  simp only [ofCells, notEmpty, allFinite, Bool.false_eq_true, if_false]
  cases firstRepeat? [] firstLine cells with
  | some repeated =>
      rcases repeated with ⟨cell, line⟩
      simp [eq_comm]
  | none => simp [bind_eq_error, pure, Except.pure]

theorem ofCells_eq_error_iff_blamed (nonempty : cells ≠ [])
    (finite : ∀ cell ∈ cells, cell.isFinite = true) :
    ofCells cells = .error fault ↔ Blamed cells fault := by
  rw [ofCells_eq_error_iff nonempty finite, mapM_cellValue_eq_error_iff,
    firstRepeat?_eq_none_iff_not_repeatsAt]
  simp only [firstRepeat?_eq_some_iff_isLeast]
  constructor
  · rintro (⟨cell, _, ⟨index, least, found, rfl⟩, rfl⟩ |
      ⟨unrepeated, row, column, before, after, least, beforeAt, afterAt, rfl⟩)
    · rw [firstLine, Nat.add_comm]
      exact .repeated least found
    · exact .missing unrepeated least beforeAt afterAt
  · rintro (⟨least, found⟩ | ⟨unrepeated, least, beforeAt, afterAt⟩)
    · left
      exact ⟨_, _, ⟨_, least, found, rfl⟩, by rw [firstLine, Nat.add_comm]⟩
    · right
      exact ⟨unrepeated, _, _, _, _, least, beforeAt, afterAt, rfl⟩

/--
Cells that are there and finite but do not make a table have one fault. If a cell is for the same
positions as an earlier one, it is the first such cell, with its positions and its line, which is
two more than its index, no matter which cells are missing. If not, it is the first pair of bins
that no cell is for, in the order of rows and within a row in the order of columns; the bins are the
different positions, in increasing order. Filling the table cell by cell ends with the same fault.
-/
theorem ofCells_blames_first (cells : List GridCell) (nonempty : cells ≠ [])
    (finite : ∀ cell ∈ cells, cell.isFinite = true) :
    BinsOf (distinct (cells.map GridCell.before)) (cells.map GridCell.before) ∧
      BinsOf (distinct (cells.map GridCell.after)) (cells.map GridCell.after) ∧
      ∀ fault, (ofCells cells = .error fault ↔ Blamed cells fault) ∧
        (place cells = .error (.cells fault) ↔ Blamed cells fault) := by
  refine ⟨GridCell.binsOf_before finite, GridCell.binsOf_after finite, ?_⟩
  intro fault
  have blamed : ofCells cells = .error fault ↔ Blamed cells fault :=
    ofCells_eq_error_iff_blamed nonempty finite
  refine ⟨blamed, ?_⟩
  rw [← blamed, place_eq, mapError_eq_error_iff]
  simp

/-- Two cells are repeated, the first of them with the other zero, and two are missing. -/
theorem ofCells_blames_first_of_zeros :
    let cells : List GridCell :=
      [⟨0.0, 50.0, 4.0⟩, ⟨30.0, 10.0, -1.0⟩, ⟨-0.0, 50.0, 1.0⟩, ⟨30.0, 10.0, 2.0⟩]
    cells ≠ [] ∧ (∀ cell ∈ cells, cell.isFinite = true) ∧
      ofCells cells = .error (.duplicate (-0.0) 50.0 4) ∧
      Blamed cells (.duplicate (-0.0) 50.0 4) := by
  intro cells
  have nonempty : cells ≠ [] := by decide +kernel
  have finite : ∀ cell ∈ cells, cell.isFinite = true := by decide +kernel
  have failed : ofCells cells = .error (.duplicate (-0.0) 50.0 4) := by decide +kernel
  rcases ofCells_blames_first cells nonempty finite with ⟨_, _, blames⟩
  exact ⟨nonempty, finite, failed, (blames _).1.mp failed⟩

end GridData

end TransientFuel
