import TransientFuel.Csv.Record
import TransientFuel.Decimal.Literal
import TransientFuel.Text.Blank
import TransientFuel.Text.Utf8

/-!
# Sheets

A sheet is a header and a list of rows with as many fields as the header. Fields are texts without
the blanks around them. Rows that cannot be read carry their fault, so that what is wrong with a row
is only found out when it is reached.
-/

namespace TransientFuel.Csv

/-- What is wrong with a row. -/
inductive RowFault where
  /-- The row has another number of fields than the header. -/
  | fieldCount (expected found : Nat)
  /-- A field is not UTF-8 from an index on. -/
  | notText (field index : Nat)
  /-- A field is not a number. -/
  | number (field : Nat) (fault : Decimal.NumberFault)
  /-- The field that marks the end of a cycle is neither true nor false. -/
  | flag (found : String)
deriving DecidableEq, Repr

/-- A position as faults give it. -/
def Position.message (position : Position) : String :=
  s!"record {position.record} (line: {position.line}, byte: {position.byte})"

/-- The wording of a fault in the row begun at a position. -/
def RowFault.message (position : Position) : RowFault → String
  | .fieldCount expected found =>
    "CSV error: " ++ position.message ++
      s!": found record with {found} fields, but the previous record has {expected} fields"
  | .notText field index =>
    s!"CSV parse error: record {position.record} (line {position.line}, field: {field}, " ++
      s!"byte: {position.byte}): invalid utf-8: invalid UTF-8 in field {field} " ++
      s!"near byte index {index}"
  | .number field fault =>
    "CSV deserialize error: " ++ position.message ++ s!": field {field}: " ++ fault.message
  | .flag found =>
    "CSV deserialize error: " ++ position.message ++
      ": cycle_end must be 0/1 or true/false, got '" ++ found ++ "'"

/-- A row of a sheet. -/
structure Row where
  /-- Where the row begins. -/
  position : Position
  /-- The fields, or what is wrong with them. -/
  fields : Except RowFault (List String)

/-- A sheet. -/
structure Sheet where
  /-- Where the header begins. -/
  position : Position
  /-- The fields of the header, or what is wrong with them. -/
  header : Except RowFault (List String)
  /-- The rows. -/
  rows : List Row

/-- The texts of fields, the first of which has a given number. -/
def decodeFields : Nat → List (List UInt8) → Except RowFault (List String)
  | _, [] => .ok []
  | number, field :: rest =>
    match Text.decode field with
    | .ok text => (decodeFields (number + 1) rest).map (Text.trim text :: ·)
    | .error index => .error (.notText number index)

/-- A row of the given number of fields. -/
def Row.ofRecord (expected : Nat) (record : Record) : Row where
  position := record.position
  fields :=
    if record.fields.length = expected then decodeFields 0 (record.fields.map Text.trimBytes)
    else .error (.fieldCount expected record.fields.length)

/-- The sheet of a file; the first record is the header. -/
def sheet (file : List UInt8) : Sheet :=
  match records file with
  | [] => ⟨⟨0, 1, 0⟩, .ok [], []⟩
  | header :: rest =>
    ⟨header.position, decodeFields 0 header.fields, rest.map (Row.ofRecord header.fields.length)⟩

end TransientFuel.Csv
