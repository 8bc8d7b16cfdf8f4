import TransientFuel.Decimal.Layout
import TransientFuel.Grid
import TransientFuel.Single

/-!
# Tables from lists of cells

A throttle table can be written as a list of cells, one per line, in any order. The bins are the
positions that occur. Every pair of bins has to have exactly one cell.
-/

namespace TransientFuel

/-- One cell of a throttle table. -/
structure GridCell where
  /-- The throttle position before the rise. -/
  before : Float32
  /-- The throttle position after the rise. -/
  after : Float32
  /-- The extra fuel. -/
  extra : Float32
deriving DecidableEq

/-- Why a list of cells is no table. -/
inductive TabulationFault where
  /-- There is no cell. -/
  | empty
  /-- A number is not finite. -/
  | notFinite
  /-- A cell repeats an earlier one; lines are counted from the header line. -/
  | duplicate (before after : Float32) (line : Nat)
  /-- A pair of bins has no cell. -/
  | missing (before after : Float32)
deriving DecidableEq

/-- The wording of a fault. -/
def TabulationFault.message : TabulationFault → String
  | .empty => "throttle table requires at least one row"
  | .notFinite => "throttle table contains a non-finite value"
  | .duplicate before after line =>
    "throttle table has duplicate cell from=" ++ Decimal.plain.render before ++ " to=" ++
      Decimal.plain.render after ++ " at row " ++ toString line
  | .missing before after =>
    "throttle table is missing cell from=" ++ Decimal.plain.render before ++ " to=" ++
      Decimal.plain.render after

namespace GridCell

/-- Whether all numbers of a cell are finite. -/
def isFinite (cell : GridCell) : Bool :=
  cell.before.isFinite && cell.after.isFinite && cell.extra.isFinite

/-- Whether a cell is for the given positions. -/
def isAt (cell : GridCell) (before after : Float32) : Bool :=
  cell.before == before && cell.after == after

end GridCell

/-- The numbers behind one that has been kept, without repetitions of the one kept last. -/
def dropRepeats (kept : Float32) : List Float32 → List Float32
  | [] => []
  | next :: rest => if next == kept then dropRepeats kept rest else next :: dropRepeats next rest

/-- The different numbers of a list in order. -/
def distinct (numbers : List Float32) : List Float32 :=
  match numbers.mergeSort Single.rankLe with
  | [] => []
  | first :: rest => first :: dropRepeats first rest

/-- The first cell that repeats an earlier one, and its line. -/
def firstRepeat? (seen : List GridCell) (line : Nat) : List GridCell → Option (GridCell × Nat)
  | [] => none
  | cell :: rest =>
    if seen.any (·.isAt cell.before cell.after) then some (cell, line)
    else firstRepeat? (cell :: seen) (line + 1) rest

/-- The line of the first cell of a file. -/
def firstLine : Nat := 2

namespace GridData

/-- The extra fuel for a pair of bins. -/
def cellValue (cells : List GridCell) (before after : Float32) :
    Except TabulationFault Float32 :=
  match cells.find? (·.isAt before after) with
  | some cell => .ok cell.extra
  | none => .error (.missing before after)

/-- The table with the given cells. -/
def ofCells (cells : List GridCell) : Except TabulationFault GridData := do
  if cells.isEmpty then
    .error .empty
  else if !cells.all GridCell.isFinite then
    .error .notFinite
  else
    let before := distinct (cells.map GridCell.before)
    let after := distinct (cells.map GridCell.after)
    match firstRepeat? [] firstLine cells with
    | some (cell, line) => .error (.duplicate cell.before cell.after line)
    | none =>
      let values ← before.mapM fun row => after.mapM fun column => cellValue cells row column
      return { before, after, values }

end GridData
end TransientFuel
