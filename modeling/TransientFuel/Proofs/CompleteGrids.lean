import TransientFuel.DataFile
import TransientFuel.Proofs.CellPlacement

/-!
# Complete grids

A list of cells is a complete grid if all its numbers are finite and every pair of a position before
and a position after that occur in it has exactly one cell. Positions are compared as numbers, so
the two zeros are one position. Tabulating accepts exactly the complete grids, and the table has the
positions as its bins and the cells as its values: `GridData.ofCells_tabulates`.
-/

namespace TransientFuel

/-- That there are cells, all finite, and that each pair of positions has exactly one of them. -/
structure CompleteGrid (cells : List GridCell) : Prop where
  nonempty : cells ≠ []
  finite : ∀ cell ∈ cells, cell.isFinite = true
  once : ∀ row ∈ cells, ∀ column ∈ cells, cells.countP (·.isAt row.before column.after) = 1

instance (cells : List GridCell) : Decidable (CompleteGrid cells) :=
  decidable_of_iff (cells ≠ [] ∧ (∀ cell ∈ cells, cell.isFinite = true) ∧
      ∀ row ∈ cells, ∀ column ∈ cells, cells.countP (·.isAt row.before column.after) = 1)
    ⟨fun ⟨nonempty, finite, once⟩ => ⟨nonempty, finite, once⟩,
      fun ⟨nonempty, finite, once⟩ => ⟨nonempty, finite, once⟩⟩

/-- That a table has the positions of some cells as bins, and for each pair of bins its cell. -/
structure GridData.Tabulates (data : GridData) (cells : List GridCell) : Prop where
  before : BinsOf data.before (cells.map GridCell.before)
  after : BinsOf data.after (cells.map GridCell.after)
  rows : data.values.length = data.before.length
  columns : ∀ values ∈ data.values, values.length = data.after.length
  value : ∀ (row column : ℕ) (rowInside : row < data.before.length)
    (columnInside : column < data.after.length),
    ∃ cell, cells.filter (·.isAt data.before[row] data.after[column]) = [cell] ∧
      ∃ values, data.values[row]? = some values ∧ values[column]? = some cell.extra

namespace GridCell

variable {cells : List GridCell} {row column : Float32}

theorem isAt_iff {cell : GridCell} : cell.isAt row column = true ↔
    (cell.before == row) = true ∧ (cell.after == column) = true := by
  rw [isAt, Bool.and_eq_true]

theorem isAt_self {cell : GridCell} (finite : cell.isFinite = true) :
    cell.isAt cell.before cell.after = true :=
  isAt_iff.mpr ⟨Single.beq_self_of_known (known_of_isFinite finite).1,
    Single.beq_self_of_known (known_of_isFinite finite).2⟩

/-- Cells for the same pair of positions are for each other's positions. -/
theorem isAt_of_isAt {first second : GridCell} (firstAt : first.isAt row column = true)
    (secondAt : second.isAt row column = true) :
    first.isAt second.before second.after = true := by
  rw [isAt_iff] at firstAt secondAt ⊢
  rw [Single.beq_congr_right secondAt.1, Single.beq_congr_right secondAt.2]
  exact firstAt

theorem firstRepeat?_eq_none_iff {seen : List GridCell} {line : ℕ} :
    firstRepeat? seen line cells = none ↔
      (∀ cell ∈ cells, ∀ earlier ∈ seen, earlier.isAt cell.before cell.after = false) ∧
        cells.Pairwise fun earlier later => earlier.isAt later.before later.after = false := by
  induction cells generalizing seen line with
  | nil => simp [firstRepeat?]
  | cons cell rest inductionHypothesis =>
      rw [firstRepeat?]
      split
      · rename_i repeats
        obtain ⟨earlier, member, isAt⟩ := List.any_eq_true.mp repeats
        simp only [reduceCtorEq, false_iff]
        rintro ⟨fresh, _⟩
        rw [fresh cell List.mem_cons_self earlier member] at isAt
        contradiction
      · rename_i fresh
        simp only [List.any_eq_true, not_exists, not_and, Bool.not_eq_true] at fresh
        simp only [inductionHypothesis, List.forall_mem_cons, List.pairwise_cons]
        constructor
        · rintro ⟨later, unrepeated⟩
          exact ⟨⟨fresh, fun other member => (later other member).2⟩,
            fun other member => (later other member).1, unrepeated⟩
        · rintro ⟨⟨_, later⟩, first, unrepeated⟩
          exact ⟨fun other member => ⟨first other member, later other member⟩, unrepeated⟩

/-- Cells that do not repeat each other have one cell at most for a pair of positions. -/
theorem exists_filter_eq
    (unrepeated : cells.Pairwise fun earlier later =>
      earlier.isAt later.before later.after = false)
    (found : ∃ cell ∈ cells, cell.isAt row column = true) :
    ∃ cell, cells.filter (·.isAt row column) = [cell] := by
  obtain ⟨cell, member, isAt⟩ := found
  have filled : cell ∈ cells.filter (·.isAt row column) := List.mem_filter.mpr ⟨member, isAt⟩
  have filtered := unrepeated.filter (·.isAt row column)
  have allAt : ∀ other ∈ cells.filter (·.isAt row column), other.isAt row column = true := by
    intro other otherKept
    exact (List.mem_filter.mp otherKept).2
  generalize cells.filter (·.isAt row column) = kept at filled filtered allAt ⊢
  rcases kept with _ | ⟨first, _ | ⟨second, rest⟩⟩
  · contradiction
  · exact ⟨first, rfl⟩
  · have apart := (List.pairwise_cons.mp filtered).1 second List.mem_cons_self
    rw [isAt_of_isAt (allAt first (by simp)) (allAt second (by simp))] at apart
    contradiction

/-- If each pair of positions has one cell, no cell repeats another. -/
theorem unrepeated_of_complete (complete : CompleteGrid cells) :
    cells.Pairwise fun earlier later => earlier.isAt later.before later.after = false := by
  rw [List.pairwise_iff_forall_sublist]
  intro earlier later inOrder
  have member := inOrder.subset (show later ∈ [earlier, later] by simp)
  by_contra repeats
  rw [Bool.not_eq_false] at repeats
  have two := inOrder.countP_le (p := (·.isAt later.before later.after))
  rw [complete.once later member later member] at two
  simp [repeats, isAt_self (complete.finite later member)] at two

end GridCell

namespace GridData

variable {cells : List GridCell} {data : GridData}

theorem exists_cellValue {row column : Float32} :
    (∃ value, cellValue cells row column = .ok value) ↔
      ∃ cell ∈ cells, cell.isAt row column = true := by
  rw [cellValue]
  cases found : cells.find? (·.isAt row column) with
  | some cell =>
      refine iff_of_true ⟨cell.extra, rfl⟩ ⟨cell, List.mem_of_find?_eq_some found, ?_⟩
      exact (List.find?_eq_some_iff_append.mp found).1
  | none =>
      simpa using found

theorem cellValue_of_filter {row column value : Float32} {cell : GridCell}
    (only : cells.filter (·.isAt row column) = [cell])
    (looked : cellValue cells row column = .ok value) : value = cell.extra := by
  have first := congrArg List.head? only
  rw [List.head?_filter] at first
  rw [cellValue, first] at looked
  exact (Except.ok.inj looked).symm

/-- All that tabulating does when it succeeds. -/
theorem ofCells_eq_ok_iff :
    ofCells cells = .ok data ↔
      cells ≠ [] ∧ (∀ cell ∈ cells, cell.isFinite = true) ∧
        (cells.Pairwise fun earlier later => earlier.isAt later.before later.after = false) ∧
        data.before = distinct (cells.map GridCell.before) ∧
        data.after = distinct (cells.map GridCell.after) ∧
        List.Forall₂ (fun row values => List.Forall₂ (fun column value =>
          cellValue cells row column = .ok value) data.after values) data.before data.values := by
  have unrepeated := @GridCell.firstRepeat?_eq_none_iff cells [] firstLine
  simp only [List.not_mem_nil, false_imp_iff, implies_true, true_and] at unrepeated
  simp only [← unrepeated, ← mapM_eq_ok_iff]
  rw [ofCells]
  split
  · rename_i empty
    simp [List.isEmpty_iff.mp empty]
  rename_i nonempty
  rw [List.isEmpty_iff] at nonempty
  split
  · rename_i infinite
    simp only [Bool.not_eq_true', Bool.eq_false_iff, ne_eq, List.all_eq_true] at infinite
    simp [infinite]
  rename_i finite
  simp only [Bool.not_eq_true, Bool.not_eq_false', List.all_eq_true] at finite
  cases firstRepeat? [] firstLine cells with
  | some repeated => simp
  | none =>
      simp only [bind_eq_ok]
      constructor
      · rintro ⟨values, collected, same⟩
        obtain rfl := Except.ok.inj same
        exact ⟨nonempty, finite, trivial, rfl, rfl, collected⟩
      · rintro ⟨_, _, _, beforeEq, afterEq, collected⟩
        rw [beforeEq, afterEq] at collected
        refine ⟨data.values, collected, ?_⟩
        rw [← beforeEq, ← afterEq]
        rfl

/-- Tabulating succeeds if no cell is repeated and none is missing. -/
theorem exists_ofCells (complete : CompleteGrid cells) : ∃ data, ofCells cells = .ok data := by
  have rows := GridCell.binsOf_before complete.finite
  have columns := GridCell.binsOf_after complete.finite
  -- A pair of bins is a pair of positions that occur, and such a pair has a cell.
  have covered : ∀ row ∈ distinct (cells.map GridCell.before),
      ∀ column ∈ distinct (cells.map GridCell.after),
        ∃ value, cellValue cells row column = .ok value := by
    intro row rowMember column columnMember
    obtain ⟨rowCell, rowGiven, rfl⟩ := List.mem_map.mp (rows.occurs row rowMember)
    obtain ⟨columnCell, columnGiven, rfl⟩ := List.mem_map.mp (columns.occurs column columnMember)
    rw [exists_cellValue, ← List.countP_pos_iff,
      complete.once rowCell rowGiven columnCell columnGiven]
    exact Nat.one_pos
  obtain ⟨values, collected⟩ := exists_forall₂ fun row rowMember =>
    exists_forall₂ (covered row rowMember)
  exact ⟨⟨_, _, values⟩, ofCells_eq_ok_iff.mpr ⟨complete.nonempty, complete.finite,
    GridCell.unrepeated_of_complete complete, rfl, rfl, collected⟩⟩

theorem tabulates_of_ofCells (tabulated : ofCells cells = .ok data) : data.Tabulates cells := by
  obtain ⟨_, finite, unrepeated, beforeEq, afterEq, collected⟩ := ofCells_eq_ok_iff.mp tabulated
  rw [List.forall₂_iff_get] at collected
  obtain ⟨rowCount, rowsCollected⟩ := collected
  constructor
  · rw [beforeEq]
    exact GridCell.binsOf_before finite
  · rw [afterEq]
    exact GridCell.binsOf_after finite
  · exact rowCount.symm
  · intro values member
    obtain ⟨row, inside, rfl⟩ := List.getElem_of_mem member
    exact (rowsCollected row (rowCount ▸ inside) inside).length_eq.symm
  · intro row column rowInside columnInside
    have valuesInside : row < data.values.length := rowCount ▸ rowInside
    obtain ⟨columnCount, valued⟩ :=
      List.forall₂_iff_get.mp (rowsCollected row rowInside valuesInside)
    have columnBound : column < data.values[row].length := columnCount ▸ columnInside
    have looked := valued column columnInside columnBound
    obtain ⟨cell, only⟩ :=
      GridCell.exists_filter_eq unrepeated (exists_cellValue.mp ⟨_, looked⟩)
    refine ⟨cell, only, data.values[row], List.getElem?_eq_getElem valuesInside, ?_⟩
    rw [← cellValue_of_filter only looked]
    exact List.getElem?_eq_getElem columnBound

/-- The positions that occur make bins with all pairs covered, and one cell for each of them. -/
theorem complete_of_ofCells (tabulated : ofCells cells = .ok data) : CompleteGrid cells := by
  have tabulates := tabulates_of_ofCells tabulated
  obtain ⟨nonempty, finite, _⟩ := ofCells_eq_ok_iff.mp tabulated
  refine ⟨nonempty, finite, ?_⟩
  intro row rowGiven column columnGiven
  obtain ⟨rowBin, rowMember, rowSame⟩ :=
    tabulates.before.covers row.before (List.mem_map_of_mem rowGiven)
  obtain ⟨columnBin, columnMember, columnSame⟩ :=
    tabulates.after.covers column.after (List.mem_map_of_mem columnGiven)
  obtain ⟨rowIndex, rowInside, rfl⟩ := List.getElem_of_mem rowMember
  obtain ⟨columnIndex, columnInside, rfl⟩ := List.getElem_of_mem columnMember
  obtain ⟨cell, only, _⟩ := tabulates.value rowIndex columnIndex rowInside columnInside
  have sameAt (other : GridCell) := @GridCell.isAt_congr _ _ ⟨row.before, column.after, 0.0⟩
    rowSame columnSame other
  simp only [sameAt] at only
  rw [List.countP_eq_length_filter, only, List.length_singleton]

/-- A value stands in the row and in the column of some cell, and is the one of that cell. -/
theorem Tabulates.exists_cell (tabulates : data.Tabulates cells) {values : List Float32}
    {value : Float32} (inTable : values ∈ data.values) (inRow : value ∈ values) :
    ∃ cell ∈ cells, cell.extra = value := by
  obtain ⟨row, rowInside, rfl⟩ := List.getElem_of_mem inTable
  obtain ⟨column, columnInside, rfl⟩ := List.getElem_of_mem inRow
  obtain ⟨cell, only, values, valuesFound, valueFound⟩ := tabulates.value row column
    (tabulates.rows ▸ rowInside) (tabulates.columns _ inTable ▸ columnInside)
  rw [List.getElem?_eq_getElem rowInside, Option.some_inj] at valuesFound
  subst valuesFound
  rw [List.getElem?_eq_getElem columnInside, Option.some_inj] at valueFound
  have kept : cell ∈ cells.filter _ := only ▸ List.mem_singleton_self cell
  exact ⟨cell, List.mem_of_mem_filter kept, valueFound.symm⟩

theorem Tabulates.check_eq_ok (tabulates : data.Tabulates cells) (complete : CompleteGrid cells) :
    data.check = .ok () := by
  have finite : ∀ cell ∈ cells, cell.before.isFinite = true ∧ cell.after.isFinite = true ∧
      cell.extra.isFinite = true := by
    intro cell given
    simpa [GridCell.isFinite, and_assoc] using complete.finite cell given
  simp only [check, check_bind_eq_ok, checkBins_eq_ok_iff, require_eq_ok, checkRows_eq_ok_iff,
    beq_iff_eq]
  refine ⟨?_, ?_, tabulates.rows, ?_⟩
  · apply tabulates.before.exists_axis (by simpa using complete.nonempty)
    simp only [List.forall_mem_map]
    intro cell given
    exact (finite cell given).1
  · apply tabulates.after.exists_axis (by simpa using complete.nonempty)
    simp only [List.forall_mem_map]
    intro cell given
    exact (finite cell given).2.1
  · intro values inTable
    refine ⟨tabulates.columns values inTable, ?_⟩
    intro value inRow
    obtain ⟨cell, given, rfl⟩ := tabulates.exists_cell inTable inRow
    exact (finite cell given).2.2

/-- What is made of cells passes the check, so the check could be left out. -/
theorem ofSheet_eq (path : String) (sheet : Csv.Sheet) :
    ofSheet path sheet =
      DataKind.grid.readSheet path sheet >>= fun cells => (ofCells cells).mapError .cells := by
  rw [ofSheet]
  cases DataKind.grid.readSheet path sheet with
  | error fault => rfl
  | ok cells =>
      cases tabulated : ofCells cells with
      | error fault => simp only [bind, Except.bind, tabulated, Except.mapError]
      | ok data =>
          have passes := (tabulates_of_ofCells tabulated).check_eq_ok
            (complete_of_ofCells tabulated)
          simp only [bind, Except.bind, tabulated, Except.mapError, passes]
          rfl

/--
Tabulating succeeds exactly for complete grids. The table then has the positions that occur as its
bins, in strictly increasing order, and for each pair of bins the value of the only cell for it, and
it passes its check, which could be left out when a sheet is read. Filling the table cell by cell
gives the same table or the same fault, and no index is out of range on the way.
-/
theorem ofCells_tabulates (cells : List GridCell) :
    ((∃ data, ofCells cells = .ok data) ↔ CompleteGrid cells) ∧
      (∀ data, ofCells cells = .ok data → data.Tabulates cells ∧ data.check = .ok ()) ∧
      place cells = (ofCells cells).mapError .cells ∧
      ∀ (path : String) (sheet : Csv.Sheet), ofSheet path sheet =
        DataKind.grid.readSheet path sheet >>= fun cells => (ofCells cells).mapError .cells := by
  refine ⟨⟨?_, exists_ofCells⟩, ?_, place_eq cells, ofSheet_eq⟩
  · rintro ⟨data, tabulated⟩
    exact complete_of_ofCells tabulated
  · intro data tabulated
    have tabulates := tabulates_of_ofCells tabulated
    exact ⟨tabulates, tabulates.check_eq_ok (complete_of_ofCells tabulated)⟩

/-- Cells out of order, with both zeros as positions before: they stand for one row. -/
theorem ofCells_tabulates_zeros :
    let cells : List GridCell :=
      [⟨0.0, 50.0, 4.0⟩, ⟨30.0, 10.0, -1.0⟩, ⟨-0.0, 10.0, 0.5⟩, ⟨30.0, 50.0, 2.5⟩]
    CompleteGrid cells ∧ ∃ data, ofCells cells = .ok data ∧
      data.Tabulates cells ∧ data.check = .ok () ∧ place cells = .ok data := by
  intro cells
  have complete : CompleteGrid cells := by decide +kernel
  obtain ⟨accepts, describes, placing, _⟩ := ofCells_tabulates cells
  obtain ⟨data, tabulated⟩ := accepts.mpr complete
  obtain ⟨tabulates, passes⟩ := describes data tabulated
  refine ⟨complete, data, tabulated, tabulates, passes, ?_⟩
  rw [placing, tabulated]
  rfl

end GridData

end TransientFuel
