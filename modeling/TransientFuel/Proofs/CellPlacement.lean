import TransientFuel.Proofs.DistinctBins

/-!
# Tables filled cell by cell

A table can also be made by filling a board. Each cell is put at the place that a search by halving
finds for its positions among the bins, and a cell whose place is taken is a duplicate. In the end
the board is read row by row, and a place where nothing was put is a missing cell. Every index into
a list is tested here, and a test that fails stops the filling. At any time the board shows, for
each pair of bins, what the cells so far say about it: `Board.showing`. It follows that filling
gives the same table or the same fault as `GridData.ofCells` does, and that no test of an index ever
fails: `place_eq`.
-/

namespace TransientFuel

/-- Why filling stops. -/
inductive PlacingFault where
  /-- The cells do not make a table. -/
  | cells (fault : TabulationFault)
  /-- An index is not below the length of its list. -/
  | outOfRange
deriving DecidableEq

def readAt {α : Type} (list : List α) (index : ℕ) : Except PlacingFault α :=
  match list[index]? with
  | some value => .ok value
  | none => .error .outOfRange

/-- Where a number belongs among the bins from one index up to another, found by halving. -/
def bisect (bins : List Float32) (x : Float32) (low high : ℕ) : Except PlacingFault ℕ :=
  if low < high then do
    if (← readAt bins ((low + high) / 2)) < x then bisect bins x ((low + high) / 2 + 1) high
    else bisect bins x low ((low + high) / 2)
  else
    .ok low
termination_by high - low

/-- The rows of a table that is being filled. -/
abbrev Board := List (List (Option Float32))

namespace Board

/-- The board with a value put at a place, if the place is free. -/
def put (board : Board) (row column : ℕ) (value : Float32) :
    Except PlacingFault (Option Board) := do
  let places ← readAt board row
  match ← readAt places column with
  | some _ => return none
  | none => return some (board.set row (places.set column (some value)))

/-- The board after some cells, the first of which stands on the given line. -/
def fill (before after : List Float32) :
    ℕ → Board → List GridCell → Except PlacingFault Board
  | _, board, [] => .ok board
  | line, board, cell :: rest => do
    let row ← bisect before cell.before 0 before.length
    let column ← bisect after cell.after 0 after.length
    match ← board.put row column cell.extra with
    | some next => fill before after (line + 1) next rest
    | none => .error (.cells (.duplicate cell.before cell.after line))

/-- The values on a board, if every place has one. -/
def collect (before after : List Float32) (board : Board) :
    Except PlacingFault (List (List Float32)) :=
  board.zipIdx.mapM fun (places, row) => places.zipIdx.mapM fun (value, column) =>
    match value with
    | some value => .ok value
    | none => do .error (.cells (.missing (← readAt before row) (← readAt after column)))

/-- What cells say about a pair of bins. -/
def shown (cells : List GridCell) (row column : Float32) : Option Float32 :=
  (cells.find? (·.isAt row column)).map GridCell.extra

/-- What cells say about each pair of bins. -/
def showing (before after : List Float32) (cells : List GridCell) : Board :=
  before.map fun row => after.map (shown cells row)

end Board

/-- The table with the given cells, filled cell by cell. -/
def GridData.place (cells : List GridCell) : Except PlacingFault GridData := do
  if cells.isEmpty then
    .error (.cells .empty)
  else if !cells.all GridCell.isFinite then
    .error (.cells .notFinite)
  else
    let before := distinct (cells.map GridCell.before)
    let after := distinct (cells.map GridCell.after)
    let blank := List.replicate before.length (List.replicate after.length none)
    let board ← Board.fill before after firstLine blank cells
    let values ← board.collect before after
    return { before, after, values }

theorem readAt_of_lt {α : Type} {list : List α} {index : ℕ} (inside : index < list.length) :
    readAt list index = .ok list[index] := by
  rw [readAt, List.getElem?_eq_getElem inside]

/-- Halving ends where the bins that are less end, if they are in order. -/
theorem bisect_eq {bins : List Float32} (increasing : bins.Pairwise (· < ·)) {x : Float32}
    {low high : ℕ} (lower : low ≤ position bins x) (upper : position bins x ≤ high)
    (bound : high ≤ bins.length) : bisect bins x low high = .ok (position bins x) := by
  apply halving _ _ lower upper bound
  · rw [bisect, if_neg (lt_irrefl _)]
  · intro low high apart bound
    have inside : (low + high) / 2 < bins.length := by omega
    rw [bisect, if_pos apart]
    simp only [readAt_of_lt inside, bind, Except.bind, lt_position_iff increasing inside]

theorem BinsOf.bisect_eq {bins numbers : List Float32} (given : BinsOf bins numbers) {x : Float32}
    (found : x ∈ numbers) : bisect bins x 0 bins.length = .ok (position bins x) :=
  TransientFuel.bisect_eq given.increasing (Nat.zero_le _) (given.eq_position_iff found).1.le le_rfl

theorem GridCell.isAt_congr {row column : Float32} {cell : GridCell}
    (sameRow : (row == cell.before) = true) (sameColumn : (column == cell.after) = true)
    (other : GridCell) : other.isAt row column = other.isAt cell.before cell.after := by
  rw [isAt, isAt, Single.beq_congr_right sameRow, Single.beq_congr_right sameColumn]

namespace Board

section Shown

variable {row column : Float32} {cell : GridCell} {seen : List GridCell}

theorem shown_concat_of_isAt (free : ∀ earlier ∈ seen, earlier.isAt row column = false)
    (isAt : cell.isAt row column = true) : shown (seen ++ [cell]) row column = some cell.extra := by
  have missing : seen.find? (·.isAt row column) = none := by simpa using free
  simp [shown, List.find?_append, missing, isAt]

theorem shown_concat_of_not_isAt (elsewhere : cell.isAt row column = false) :
    shown (seen ++ [cell]) row column = shown seen row column := by
  simp [shown, List.find?_append, elsewhere]

theorem shown_eq_none_iff :
    shown seen row column = none ↔ ∀ earlier ∈ seen, earlier.isAt row column = false := by
  simp [shown]

theorem replicate_none_eq (before after : List Float32) :
    List.replicate before.length (List.replicate after.length none) = showing before after [] := by
  have nothing (row : Float32) : shown [] row = fun _ => none := rfl
  simp [showing, nothing, List.map_const']

end Shown

variable {cells : List GridCell} {before after : List Float32}
  (rows : BinsOf before (cells.map GridCell.before))
  (columns : BinsOf after (cells.map GridCell.after))

include rows columns

/-- Of all places, a cell belongs to the one that its positions lead to. -/
theorem isAt_iff {cell : GridCell} (given : cell ∈ cells) {row column : ℕ}
    (rowInside : row < before.length) (columnInside : column < after.length) :
    cell.isAt before[row] after[column] = true ↔
      row = position before cell.before ∧ column = position after cell.after := by
  have rowSame := (rows.eq_position_iff (List.mem_map_of_mem given)).2 row rowInside
  have columnSame := (columns.eq_position_iff (List.mem_map_of_mem given)).2 column columnInside
  rw [GridCell.isAt, Bool.and_eq_true, Single.beq_swap, rowSame, Single.beq_swap, columnSame]

/-- A cell whose place is free changes this one place of the board. -/
theorem set_showing {seen : List GridCell} {cell : GridCell} (given : cell ∈ cells)
    (rowInside : position before cell.before < before.length)
    (columnInside : position after cell.after < after.length)
    (free : ∀ earlier ∈ seen, earlier.isAt before[position before cell.before]
      after[position after cell.after] = false) :
    (showing before after seen).set (position before cell.before)
        ((after.map (shown seen before[position before cell.before])).set
          (position after cell.after) (some cell.extra)) =
      showing before after (seen ++ [cell]) := by
  have unchanged {row column : ℕ} (rowBound : row < before.length)
      (columnBound : column < after.length)
      (elsewhere : ¬(row = position before cell.before ∧ column = position after cell.after)) :
      shown (seen ++ [cell]) before[row] after[column] =
        shown seen before[row] after[column] := by
    apply shown_concat_of_not_isAt
    rw [Bool.eq_false_iff, ne_eq, isAt_iff rows columns given rowBound columnBound]
    exact elsewhere
  apply set_map_eq rowInside
  · symm
    apply set_map_eq columnInside
    · apply shown_concat_of_isAt free
      exact (isAt_iff rows columns given rowInside columnInside).mpr ⟨rfl, rfl⟩
    · intro other otherInside different
      apply unchanged rowInside otherInside
      intro both
      exact different both.2
  · intro other otherInside different
    apply List.map_congr_left
    intro bin member
    obtain ⟨column, columnBound, rfl⟩ := List.getElem_of_mem member
    apply unchanged otherInside columnBound
    intro both
    exact different both.1

/-- A cell finds its place taken exactly if an earlier cell is for the same pair of bins. -/
theorem put_showing {seen : List GridCell} {cell : GridCell} (given : cell ∈ cells) :
    (showing before after seen).put (position before cell.before) (position after cell.after)
        cell.extra =
      .ok (if seen.any (·.isAt cell.before cell.after) then none
        else some (showing before after (seen ++ [cell]))) := by
  obtain ⟨rowInside, rowSame⟩ := rows.eq_position_iff (List.mem_map_of_mem given)
  obtain ⟨columnInside, columnSame⟩ := columns.eq_position_iff (List.mem_map_of_mem given)
  have sameAt (other : GridCell) :=
    GridCell.isAt_congr ((rowSame _ rowInside).mpr rfl) ((columnSame _ columnInside).mpr rfl) other
  have readRow : readAt (showing before after seen) (position before cell.before) =
      .ok (after.map (shown seen before[position before cell.before])) := by
    rw [readAt_of_lt (by simpa [showing] using rowInside)]
    simp only [showing, List.getElem_map]
  have readColumn : readAt (after.map (shown seen before[position before cell.before]))
        (position after cell.after) =
      .ok (shown seen before[position before cell.before] after[position after cell.after]) := by
    rw [readAt_of_lt (by simpa using columnInside), List.getElem_map]
  rw [put, readRow]
  simp only [bind, Except.bind, readColumn]
  by_cases taken : seen.any (·.isAt cell.before cell.after) = true
  · rw [if_pos taken]
    cases found : shown seen before[position before cell.before]
        after[position after cell.after] with
    | some value => rfl
    | none =>
        rw [shown_eq_none_iff] at found
        simp only [sameAt] at found
        obtain ⟨earlier, member, isAt⟩ := List.any_eq_true.mp taken
        rw [found earlier member] at isAt
        contradiction
  · rw [if_neg taken]
    have free : ∀ earlier ∈ seen, earlier.isAt before[position before cell.before]
        after[position after cell.after] = false := by
      simpa [sameAt] using taken
    simp only [shown_eq_none_iff.mpr free, set_showing rows columns given rowInside columnInside
      free]
    rfl

/-- The board shows the cells so far until one of them repeats an earlier one. -/
theorem fill_showing {seen rest : List GridCell} (given : ∀ cell ∈ rest, cell ∈ cells)
    (line : ℕ) :
    fill before after line (showing before after seen) rest =
      match firstRepeat? seen.reverse line rest with
      | some (cell, found) => .error (.cells (.duplicate cell.before cell.after found))
      | none => .ok (showing before after (seen ++ rest)) := by
  induction rest generalizing seen line with
  | nil => simp [fill, firstRepeat?]
  | cons cell rest inductionHypothesis =>
      simp only [List.forall_mem_cons] at given
      rw [fill, rows.bisect_eq (List.mem_map_of_mem given.1),
        columns.bisect_eq (List.mem_map_of_mem given.1)]
      simp only [bind, Except.bind, put_showing rows columns given.1]
      rw [firstRepeat?, List.any_reverse]
      by_cases repeats : seen.any (·.isAt cell.before cell.after) = true
      · simp only [if_pos repeats]
      · have later := @inductionHypothesis (seen ++ [cell]) given.2 (line + 1)
        simp only [List.reverse_append, List.reverse_singleton, List.singleton_append,
          List.append_assoc] at later
        simp only [if_neg repeats]
        exact later

omit rows columns in
/-- Reading the board finds each value where its pair of bins has it, and misses the same cell. -/
theorem collect_showing :
    (showing before after cells).collect before after =
      (before.mapM fun row => after.mapM fun column =>
        GridData.cellValue cells row column).mapError .cells := by
  rw [mapM_mapError, collect, showing]
  apply mapM_zipIdx_map
  intro row rowInside
  rw [mapM_mapError]
  apply mapM_zipIdx_map
  intro column columnInside
  rw [GridData.cellValue]
  simp only [Nat.zero_add, readAt_of_lt rowInside, readAt_of_lt columnInside]
  rw [shown]
  cases cells.find? (·.isAt before[row] after[column]) <;> rfl

end Board

namespace GridCell

variable {cells : List GridCell}

theorem known_of_isFinite {cell : GridCell} (finite : cell.isFinite = true) :
    cell.before.isNaN = false ∧ cell.after.isNaN = false := by
  simp only [isFinite, Bool.and_eq_true] at finite
  exact ⟨(Single.standsFor_of_isFinite finite.1.1).1, (Single.standsFor_of_isFinite finite.1.2).1⟩

theorem binsOf_before (finite : ∀ cell ∈ cells, cell.isFinite = true) :
    BinsOf (distinct (cells.map before)) (cells.map before) := by
  apply binsOf_distinct
  simp only [List.forall_mem_map]
  intro cell given
  exact (known_of_isFinite (finite cell given)).1

theorem binsOf_after (finite : ∀ cell ∈ cells, cell.isFinite = true) :
    BinsOf (distinct (cells.map after)) (cells.map after) := by
  apply binsOf_distinct
  simp only [List.forall_mem_map]
  intro cell given
  exact (known_of_isFinite (finite cell given)).2

end GridCell

/-- Filling cell by cell passes all tests of indices and ends as tabulating does. -/
theorem GridData.place_eq (cells : List GridCell) :
    place cells = (ofCells cells).mapError .cells := by
  rw [place, ofCells]
  split
  · rfl
  split
  · rfl
  rename_i finite
  simp only [Bool.not_eq_true, Bool.not_eq_false', List.all_eq_true] at finite
  have rows := GridCell.binsOf_before finite
  have columns := GridCell.binsOf_after finite
  have filled := @Board.fill_showing _ _ _ rows columns [] _ (fun _ => id) firstLine
  simp only [Board.replicate_none_eq, filled, List.reverse_nil, List.nil_append]
  cases firstRepeat? [] firstLine cells with
  | some repeated => rfl
  | none =>
      simp only [bind, Except.bind, Board.collect_showing]
      cases (distinct (cells.map GridCell.before)).mapM fun row =>
        (distinct (cells.map GridCell.after)).mapM fun column => cellValue cells row column <;> rfl

end TransientFuel
