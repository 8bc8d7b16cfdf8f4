import TransientFuel.Proofs.CompleteGrids
import TransientFuel.Proofs.TableAgreement

/-!
# Cells in any order

The cells of a table may be listed in any order. The positions are sorted by their bit patterns, and
no two numbers have the same one, so the bins do not depend on the order, even if both zeros are
among the positions: `distinct_eq_of_perm`. The values do not depend on it either, since a pair of
bins has at most one cell once no cell repeats another: `GridData.cellValue_eq_ok_iff`. So a list of
cells makes the same table in any order, `GridData.ofCells_eq_ok_of_perm`, and a table that is taken
apart into its cells is the one that they make, `GridData.ofCells_toCells`.
-/

namespace TransientFuel

/-- The cells of a table, row by row. -/
def GridData.toCells (data : GridData) : List GridCell :=
  (data.before.zip data.values).flatMap fun (row, values) =>
    (data.after.zip values).map fun (column, value) => ⟨row, column, value⟩

theorem Single.rank_injective : Function.Injective rank := by
  intro x y same
  have xWidth := x.toBits.toNat_lt
  have yWidth := y.toBits.toNat_lt
  have sameBits : x.toBits = y.toBits := by
    apply UInt32.toNat_inj.mp
    simp only [rank, isNegative, decide_eq_true_eq] at same
    split at same <;> split at same <;> omega
  rw [← Float32.ofBits_toBits x, sameBits, Float32.ofBits_toBits]

/-- Where both zeros occur, the negative one comes first and is kept, whatever the order was. -/
theorem distinct_eq_of_perm {numbers others : List Float32} (perm : numbers.Perm others) :
    distinct numbers = distinct others := by
  have sorted : numbers.mergeSort Single.rankLe = others.mergeSort Single.rankLe := by
    apply List.Perm.eq_of_pairwise _ (pairwise_mergeSort_rankLe numbers)
      (pairwise_mergeSort_rankLe others)
    · exact (numbers.mergeSort_perm _).trans (perm.trans (others.mergeSort_perm _).symm)
    · intro x y _ _ le ge
      simp only [Single.rankLe, decide_eq_true_eq] at le ge
      exact Single.rank_injective (le_antisymm le ge)
  rw [distinct, distinct, sorted]

theorem eq_of_increasing {bins others : List Float32} (increasing : bins.Pairwise (· < ·))
    (othersIncreasing : others.Pairwise (· < ·)) (same : ∀ bin, bin ∈ bins ↔ bin ∈ others) :
    bins = others := by
  have unequal {x y : Float32} (less : x < y) : x ≠ y := by
    rintro rfl
    exact Single.less_irrefl less
  apply List.Perm.eq_of_pairwise _ increasing othersIncreasing
  · exact (List.perm_ext_iff_of_nodup (increasing.imp unequal)
      (othersIncreasing.imp unequal)).mpr same
  · intro x y _ _ less greater
    exact absurd (Single.less_trans less greater) Single.less_irrefl

/-- Positions in order are the bins of every list in which they and no others occur. -/
theorem Ascending.distinct_eq {bins numbers : List Float32} (ascending : Ascending bins)
    (same : ∀ number, number ∈ numbers ↔ number ∈ bins) : distinct numbers = bins := by
  have known : ∀ number ∈ bins, number.isNaN = false := by
    intro number found
    exact (Single.standsFor_of_isFinite (ascending.finite number found)).1
  have given := binsOf_distinct fun number found => known number ((same number).mp found)
  apply eq_of_increasing given.increasing ascending.increasing
  intro number
  constructor
  · intro found
    exact (same number).mp (given.occurs number found)
  · intro found
    rcases given.covers number ((same number).mpr found) with ⟨bin, member, equal⟩
    -- A bin that is equal to a position is that position, with the same sign if it is zero.
    rcases List.getElem_of_mem found with ⟨index, inside, rfl⟩
    rcases List.getElem_of_mem ((same bin).mp (given.occurs bin member)) with
      ⟨other, otherInside, rfl⟩
    have atOther := eq_position ascending.increasing otherInside equal
    have atIndex := eq_position ascending.increasing inside
      (Single.beq_self_of_known (known _ found))
    obtain rfl : other = index := atOther.trans atIndex.symm
    exact member

theorem GridCell.isAt_eq_false_symm {first second : GridCell}
    (apart : first.isAt second.before second.after = false) :
    second.isAt first.before first.after = false := by
  rwa [isAt, Single.beq_swap, @Single.beq_swap second.after]

namespace GridData

variable {cells others : List GridCell} {data : GridData}

/-- A cell that is not repeated is found for its positions, wherever it stands. -/
theorem cellValue_eq_ok_iff {row column value : Float32}
    (unrepeated : cells.Pairwise fun earlier later =>
      earlier.isAt later.before later.after = false) :
    cellValue cells row column = .ok value ↔
      ∃ cell ∈ cells, cell.isAt row column = true ∧ cell.extra = value := by
  constructor
  · intro looked
    rcases exists_cellValue.mp ⟨value, looked⟩ with ⟨cell, member, isAt⟩
    rcases GridCell.exists_filter_eq unrepeated ⟨cell, member, isAt⟩ with ⟨only, filtered⟩
    have kept : only ∈ cells.filter _ := filtered ▸ List.mem_singleton_self only
    rw [List.mem_filter] at kept
    exact ⟨only, kept.1, kept.2, (cellValue_of_filter filtered looked).symm⟩
  · rintro ⟨cell, member, isAt, rfl⟩
    rcases GridCell.exists_filter_eq unrepeated ⟨cell, member, isAt⟩ with ⟨only, filtered⟩
    have kept : cell ∈ cells.filter (·.isAt row column) := List.mem_filter.mpr ⟨member, isAt⟩
    simp only [filtered, List.mem_singleton] at kept
    rcases exists_cellValue.mpr ⟨cell, member, isAt⟩ with ⟨value, looked⟩
    rw [looked, cellValue_of_filter filtered looked, kept]

theorem ofCells_eq_ok_of_perm (perm : cells.Perm others) (tabulated : ofCells cells = .ok data) :
    ofCells others = .ok data := by
  rcases ofCells_eq_ok_iff.mp tabulated with
    ⟨nonempty, finite, unrepeated, beforeEq, afterEq, collected⟩
  have stillUnrepeated := (perm.pairwise_iff GridCell.isAt_eq_false_symm).mp unrepeated
  refine ofCells_eq_ok_iff.mpr ⟨?_, ?_, stillUnrepeated, ?_, ?_, ?_⟩
  · intro empty
    exact nonempty (List.perm_nil.mp (empty ▸ perm))
  · intro cell given
    exact finite cell (perm.mem_iff.mpr given)
  · rw [beforeEq, distinct_eq_of_perm (perm.map _)]
  · rw [afterEq, distinct_eq_of_perm (perm.map _)]
  · simpa only [cellValue_eq_ok_iff unrepeated, cellValue_eq_ok_iff stillUnrepeated,
      perm.mem_iff] using collected

theorem mem_toCells_iff {cell : GridCell} :
    cell ∈ data.toCells ↔
      ∃ (row column : ℕ) (values : List Float32),
        data.before[row]? = some cell.before ∧ data.after[column]? = some cell.after ∧
          data.values[row]? = some values ∧ values[column]? = some cell.extra := by
  simp only [toCells, List.mem_flatMap, List.mem_map, Prod.exists]
  simp only [List.mem_iff_getElem?, List.getElem?_zip_eq_some]
  constructor
  · rintro ⟨row, values, ⟨rowIndex, atRow, valuesAt⟩, column, value,
      ⟨columnIndex, atColumn, valueAt⟩, rfl⟩
    exact ⟨rowIndex, columnIndex, values, atRow, atColumn, valuesAt, valueAt⟩
  · rintro ⟨row, column, values, atRow, atColumn, valuesAt, valueAt⟩
    exact ⟨cell.before, values, ⟨row, atRow, valuesAt⟩, cell.after, cell.extra,
      ⟨column, atColumn, valueAt⟩, rfl⟩

theorem getElem_mem_toCells {row column : ℕ} (rowInside : row < data.before.length)
    (columnInside : column < data.after.length) (valuesInside : row < data.values.length)
    (valueInside : column < data.values[row].length) :
    ⟨data.before[row], data.after[column], data.values[row][column]⟩ ∈ data.toCells := by
  apply mem_toCells_iff.mpr
  refine ⟨row, column, data.values[row], ?_⟩
  simp [rowInside, columnInside, valuesInside, valueInside]

namespace Regular

variable (regular : data.Regular)

include regular

/-- Each pair of a row and a column has a cell. -/
theorem exists_mem_toCells {row column : ℕ} (rowInside : row < data.before.length)
    (columnInside : column < data.after.length) :
    ∃ cell ∈ data.toCells, cell.before = data.before[row] ∧ cell.after = data.after[column] := by
  have valuesInside : row < data.values.length := regular.rows ▸ rowInside
  have valueInside : column < data.values[row].length := by
    rwa [regular.columns _ (List.getElem_mem valuesInside)]
  exact ⟨_, getElem_mem_toCells rowInside columnInside valuesInside valueInside, rfl, rfl⟩

theorem mem_before_iff (position : Float32) :
    position ∈ data.toCells.map GridCell.before ↔ position ∈ data.before := by
  constructor
  · intro found
    rcases List.mem_map.mp found with ⟨cell, member, rfl⟩
    rcases mem_toCells_iff.mp member with ⟨row, _, _, atRow, _⟩
    exact List.mem_of_getElem? atRow
  · intro found
    rcases List.getElem_of_mem found with ⟨row, rowInside, rfl⟩
    have columnInside := List.length_pos_iff.mpr regular.after.nonempty
    rcases regular.exists_mem_toCells rowInside columnInside with ⟨cell, member, same, _⟩
    exact List.mem_map.mpr ⟨cell, member, same⟩

theorem mem_after_iff (position : Float32) :
    position ∈ data.toCells.map GridCell.after ↔ position ∈ data.after := by
  constructor
  · intro found
    rcases List.mem_map.mp found with ⟨cell, member, rfl⟩
    rcases mem_toCells_iff.mp member with ⟨_, column, _, _, atColumn, _⟩
    exact List.mem_of_getElem? atColumn
  · intro found
    rcases List.getElem_of_mem found with ⟨column, columnInside, rfl⟩
    rcases regular.exists_mem_toCells (List.length_pos_iff.mpr regular.before.nonempty)
      columnInside with ⟨cell, member, _, same⟩
    exact List.mem_map.mpr ⟨cell, member, same⟩

theorem isFinite_of_mem_toCells {cell : GridCell} (member : cell ∈ data.toCells) :
    cell.isFinite = true := by
  rcases mem_toCells_iff.mp member with ⟨row, column, values, atRow, atColumn, valuesAt, valueAt⟩
  have before := regular.before.finite _ (List.mem_of_getElem? atRow)
  have after := regular.after.finite _ (List.mem_of_getElem? atColumn)
  have extra := regular.finite _ (List.mem_of_getElem? valuesAt) _ (List.mem_of_getElem? valueAt)
  simp [GridCell.isFinite, before, after, extra]

/-- Cells of a row are for different columns, and cells of different rows for different rows. -/
theorem pairwise_toCells :
    data.toCells.Pairwise fun earlier later =>
      earlier.isAt later.before later.after = false := by
  have rows : (data.before.zip data.values).Pairwise fun earlier later => earlier.1 < later.1 := by
    rw [← List.pairwise_map (f := Prod.fst) (R := (· < ·)), List.map_fst_zip regular.rows.ge]
    exact regular.before.increasing
  rw [toCells, List.pairwise_flatMap]
  constructor
  · rintro ⟨row, values⟩ member
    have columns : (data.after.zip values).Pairwise fun earlier later => earlier.1 < later.1 := by
      rw [← List.pairwise_map (f := Prod.fst) (R := (· < ·)), List.map_fst_zip]
      · exact regular.after.increasing
      · exact (regular.columns values (List.of_mem_zip member).2).ge
    rw [List.pairwise_map]
    apply columns.imp
    intro earlier later less
    simp [GridCell.isAt, Single.not_beq_of_lt less]
  · apply rows.imp
    rintro ⟨row, values⟩ ⟨later, laterValues⟩ less cell member other otherMember
    rcases List.mem_map.mp member with ⟨_, _, rfl⟩
    rcases List.mem_map.mp otherMember with ⟨_, _, rfl⟩
    simp [GridCell.isAt, Single.not_beq_of_lt less]

end Regular

/-- A table that is taken apart row by row is put together again. -/
theorem ofCells_toCells (regular : data.Regular) : ofCells data.toCells = .ok data := by
  have unrepeated := regular.pairwise_toCells
  refine ofCells_eq_ok_iff.mpr ⟨?_, ?_, unrepeated, ?_, ?_, ?_⟩
  · rcases regular.exists_mem_toCells (List.length_pos_iff.mpr regular.before.nonempty)
      (List.length_pos_iff.mpr regular.after.nonempty) with ⟨cell, member, _⟩
    exact List.ne_nil_of_mem member
  · intro cell member
    exact regular.isFinite_of_mem_toCells member
  · exact (regular.before.distinct_eq regular.mem_before_iff).symm
  · exact (regular.after.distinct_eq regular.mem_after_iff).symm
  · simp only [cellValue_eq_ok_iff unrepeated]
    rw [List.forall₂_iff_get]
    refine ⟨regular.rows.symm, ?_⟩
    intro row rowInside valuesInside
    rw [List.forall₂_iff_get]
    refine ⟨(regular.columns _ (List.get_mem _ _)).symm, ?_⟩
    intro column columnInside valueInside
    have member := getElem_mem_toCells rowInside columnInside valuesInside valueInside
    exact ⟨_, member, GridCell.isAt_self (regular.isFinite_of_mem_toCells member), rfl⟩

/--
A table that passes its check is made again of its cells in any order, with the same bits in every
number. If a list of cells is put into another order, either both make the same table or both make
none, also if the two zeros are among their positions. All this holds for filling the table cell by
cell as well.
-/
theorem ofCells_ignores_order :
    (∀ data : GridData, data.check = .ok () →
      ∀ cells : List GridCell, cells.Perm data.toCells →
        ofCells cells = .ok data ∧ place cells = .ok data) ∧
      ∀ cells others : List GridCell, cells.Perm others →
        (∃ data, ofCells cells = .ok data ∧ ofCells others = .ok data ∧
          place cells = .ok data ∧ place others = .ok data) ∨
        ∃ fault other, ofCells cells = .error fault ∧ ofCells others = .error other ∧
          place cells = .error (.cells fault) ∧ place others = .error (.cells other) := by
  constructor
  · intro data passes cells perm
    have made := ofCells_eq_ok_of_perm perm.symm
      (ofCells_toCells (check_eq_ok_iff_regular.mp passes))
    exact ⟨made, by rw [place_eq, made]; rfl⟩
  · intro cells others perm
    simp only [place_eq]
    cases tabulated : ofCells cells with
    | ok data =>
        left
        refine ⟨data, rfl, ofCells_eq_ok_of_perm perm tabulated, rfl, ?_⟩
        rw [ofCells_eq_ok_of_perm perm tabulated]
        rfl
    | error fault =>
        right
        cases otherTabulated : ofCells others with
        | ok data =>
            rw [ofCells_eq_ok_of_perm perm.symm otherTabulated] at tabulated
            contradiction
        | error other => exact ⟨fault, other, rfl, rfl, rfl, rfl⟩

/-- A table read backwards, and cells with both zeros as positions in two orders. -/
theorem ofCells_ignores_order_of_zeros :
    let data : GridData := ⟨[-0.0, 30.0], [10.0, 50.0], [[0.5, 4.0], [-1.0, 2.5]]⟩
    let cells : List GridCell :=
      [⟨0.0, 50.0, 4.0⟩, ⟨30.0, 10.0, -1.0⟩, ⟨-0.0, 10.0, 0.5⟩, ⟨30.0, 50.0, 2.5⟩]
    data.check = .ok () ∧ ofCells data.toCells.reverse = .ok data ∧
      ∃ made, ofCells cells = .ok made ∧ ofCells cells.reverse = .ok made := by
  intro data cells
  have passes : data.check = .ok () := by decide +kernel
  rcases exists_ofCells (show CompleteGrid cells by decide +kernel) with ⟨table, tabulated⟩
  rcases ofCells_ignores_order with ⟨again, orders⟩
  refine ⟨passes, (again data passes _ data.toCells.reverse_perm).1, ?_⟩
  rcases orders cells cells.reverse cells.reverse_perm.symm with
    ⟨made, first, second, _⟩ | ⟨fault, _, first, _⟩
  · exact ⟨made, first, second⟩
  · rw [tabulated] at first
    contradiction

end GridData

end TransientFuel
