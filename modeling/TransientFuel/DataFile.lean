import TransientFuel.Csv.Sheet
import TransientFuel.Engine
import TransientFuel.File
import TransientFuel.Report
import TransientFuel.Settings.Check
import TransientFuel.Tabulation
import TransientFuel.Text.Quoted

/-!
# Data files

Throttle tables, tapers and traces come from data files with fixed headers. A file is loaded as a
whole or not at all; what is reported is the first thing wrong with it.
-/

namespace TransientFuel

/-- What is wrong with a data file. -/
inductive DataFault where
  /-- The file cannot be opened. -/
  | unopened (kind path reason : String)
  /-- The file cannot be read. -/
  | unreadable (path reason : String)
  /-- The header cannot be read. -/
  | headerRow (path : String) (position : Csv.Position) (fault : Csv.RowFault)
  /-- The header has other fields. -/
  | header (kind : String) (expected found : List String)
  /-- A row cannot be read; the header is row one. -/
  | row (number : Nat) (position : Csv.Position) (fault : Csv.RowFault)
  /-- A row of a trace has a number that is not finite. -/
  | sample (number : Nat)
  /-- The cells do not make a table. -/
  | cells (fault : TabulationFault)
  /-- The table does not pass the check. -/
  | check (fault : SettingsFault)
deriving DecidableEq

/-- The wording of a fault. -/
def DataFault.message : DataFault → String
  | .unopened kind path reason => s!"open {kind} CSV " ++ Text.quote path ++ ": " ++ reason
  | .unreadable path reason => "read CSV headers " ++ Text.quote path ++ ": " ++ reason
  | .headerRow path position fault =>
    "read CSV headers " ++ Text.quote path ++ ": " ++ fault.message position
  | .header kind expected found =>
    s!"{kind} CSV must have headers '" ++ ",".intercalate expected ++ "', got: " ++
      ",".intercalate found
  | .row number position fault => s!"invalid CSV row {number}: " ++ fault.message position
  | .sample number => s!"trace row {number} contains a non-finite value"
  | .cells fault => fault.message
  | .check fault => fault.message

/-- The report of a fault. -/
def DataFault.report (fault : DataFault) : Report :=
  .ofText fault.message

/-- A kind of data file: its name, its header, and how a row is read. -/
structure DataKind (α : Type) where
  /-- The name in messages. -/
  name : String
  /-- The fields that the header has to have. -/
  header : List String
  /-- The value of a row. -/
  read : List String → Except Csv.RowFault α

namespace DataKind

/-- A field read as a number. -/
def number (field : Nat) (text : String) : Except Csv.RowFault Float32 :=
  (Decimal.read text).mapError (.number field)

/-- A field read as a truth value; an empty one is false. -/
def flag (text : String) : Except Csv.RowFault Bool :=
  if text = "1" ∨ text = "true" then .ok true
  else if text = "0" ∨ text = "false" ∨ text = "" then .ok false
  else .error (.flag text)

/-- Throttle tables, a cell a row. -/
def grid : DataKind GridCell where
  name := "throttle table"
  header := ["from", "to", "extra_ms"]
  read
    | [before, after, extra] => do
      return ⟨← number 0 before, ← number 1 after, ← number 2 extra⟩
    | fields => .error (.fieldCount 3 fields.length)

/-- Tapers, an age and its multiplier a row. -/
def taper : DataKind (Float32 × Float32) where
  name := "taper"
  header := ["distance", "mult"]
  read
    | [age, multiplier] => do
      return (← number 0 age, ← number 1 multiplier)
    | fields => .error (.fieldCount 2 fields.length)

/-- Traces, a tick a row. -/
def trace : DataKind Sample where
  name := "trace"
  header := ["tps", "load", "cycle_end"]
  read
    | [throttle, load, cycleEnd] => do
      return ⟨← number 0 throttle, ← number 1 load, ← flag cycleEnd⟩
    | fields => .error (.fieldCount 3 fields.length)

/-- The values of rows, the first of which has a given number. -/
def readRows {α : Type} (kind : DataKind α) : Nat → List Csv.Row → Except DataFault (List α)
  | _, [] => .ok []
  | number, row :: rest =>
    match row.fields.bind kind.read with
    | .ok value => (kind.readRows (number + 1) rest).map (value :: ·)
    | .error fault => .error (.row number row.position fault)

/-- The values of a sheet that came from a path. -/
def readSheet {α : Type} (kind : DataKind α) (path : String) (sheet : Csv.Sheet) :
    Except DataFault (List α) :=
  match sheet.header with
  | .error fault => .error (.headerRow path sheet.position fault)
  | .ok found =>
    if found = kind.header then kind.readRows firstLine sheet.rows
    else .error (.header kind.name kind.header found)

/-- The sheet of a file of this kind. -/
def sheet {α : Type} (kind : DataKind α) (path : String) : FileContent → Except DataFault Csv.Sheet
  | .bytes content => .ok (Csv.sheet content)
  | .unopened reason => .error (.unopened kind.name path reason)
  | .unreadable reason => .error (.unreadable path reason)

end DataKind

/-- The throttle table in a sheet. -/
def GridData.ofSheet (path : String) (sheet : Csv.Sheet) : Except DataFault GridData := do
  let cells ← DataKind.grid.readSheet path sheet
  let data ← (GridData.ofCells cells).mapError .cells
  data.check.mapError .check
  return data

/-- The taper in a sheet. -/
def CurveData.ofSheet (path : String) (sheet : Csv.Sheet) : Except DataFault CurveData := do
  let pairs ← DataKind.taper.readSheet path sheet
  let data : CurveData := ⟨pairs.map Prod.fst, pairs.map Prod.snd⟩
  data.check.mapError .check
  return data

/-- Whether both readings of a tick are finite. -/
def Sample.isFinite (sample : Sample) : Bool :=
  sample.throttle.isFinite && sample.load.isFinite

/-- A trace is a list of ticks. -/
abbrev Trace := List Sample

/-- The trace in a sheet. -/
def Trace.ofSheet (path : String) (sheet : Csv.Sheet) : Except DataFault Trace := do
  let samples ← DataKind.trace.readSheet path sheet
  match samples.findIdx? (!·.isFinite) with
  | some index => .error (.sample (index + firstLine))
  | none => return samples

/-- The throttle table in a file. -/
def GridData.ofFile (path : String) (file : FileContent) : Except DataFault GridData := do
  GridData.ofSheet path (← DataKind.grid.sheet path file)

/-- The taper in a file. -/
def CurveData.ofFile (path : String) (file : FileContent) : Except DataFault CurveData := do
  CurveData.ofSheet path (← DataKind.taper.sheet path file)

/-- The trace in a file. -/
def Trace.ofFile (path : String) (file : FileContent) : Except DataFault Trace := do
  Trace.ofSheet path (← DataKind.trace.sheet path file)

end TransientFuel
