/-!
# Records of a data file

A data file is a sequence of records of fields, with commas between the fields and a line end behind
each record. A line end is a line feed, a carriage return, or both. A field that begins with a quote
goes on to the next lone quote, whatever stands in between; two quotes stand for one. Empty lines
are passed over. The reader works on bytes and notes where it stood when it began each record.
-/

namespace TransientFuel.Csv

/-- Where the reader stood when it began a record. -/
structure Position where
  /-- How many records were complete. -/
  record : Nat
  /-- The number of the line, from one; only line feeds end a line here. -/
  line : Nat
  /-- How many bytes had been read. -/
  byte : Nat
deriving DecidableEq, Repr

/-- The fields of a record as they stand in the file, without the quotes around them. -/
structure Record where
  /-- Where the reader began the record. -/
  position : Position
  /-- The fields. -/
  fields : List (List UInt8)
deriving DecidableEq, Repr

/-- What the reader is in the middle of. -/
inductive Place where
  /-- Before a record. -/
  | recordStart
  /-- Before a field, behind a comma. -/
  | fieldStart
  /-- In a field without quotes, or behind the quotes of one. -/
  | plain
  /-- In quotes. -/
  | quoted
  /-- Behind a quote in quotes, which may be the first of two. -/
  | quote
deriving DecidableEq, Repr

/-- The reader. -/
structure Reader where
  /-- What it is in the middle of. -/
  place : Place
  /-- Where it stands. -/
  now : Position
  /-- Where it began the current record. -/
  start : Position
  /-- The bytes of the current field, last first. -/
  field : List UInt8
  /-- The complete fields of the current record, last first. -/
  fields : List (List UInt8)
  /-- The complete records, last first. -/
  records : List Record

namespace Reader

/-- The reader at the start of a file, behind the given number of bytes. -/
def atStart (skipped : Nat) : Reader where
  place := .recordStart
  now := ⟨0, 1, skipped⟩
  start := ⟨0, 1, 0⟩
  field := []
  fields := []
  records := []

/-- A byte is part of the current field. -/
def take (reader : Reader) (place : Place) (byte : UInt8) : Reader :=
  { reader with place, field := byte :: reader.field }

/-- The current field is complete. -/
def endField (reader : Reader) : Reader :=
  { reader with place := .fieldStart, field := [], fields := reader.field.reverse :: reader.fields }

/-- The current record is complete, and the next one begins where the reader stands. -/
def endRecord (reader : Reader) : Reader :=
  let now := { reader.now with record := reader.now.record + 1 }
  { place := .recordStart
    now
    start := now
    field := []
    fields := []
    records := ⟨reader.start, (reader.field.reverse :: reader.fields).reverse⟩ :: reader.records }

/-- The byte of a comma. -/
def comma : UInt8 := 0x2C

/-- The byte of a quote. -/
def quoteByte : UInt8 := 0x22

/-- Whether a byte ends a record. -/
def endsRecord (byte : UInt8) : Bool :=
  byte == 0x0A || byte == 0x0D

/-- The reader has gone over a byte. -/
def advance (reader : Reader) (byte : UInt8) : Reader :=
  { reader with now :=
    { reader.now with
      line := if byte == 0x0A then reader.now.line + 1 else reader.now.line
      byte := reader.now.byte + 1 } }

/-- A byte outside quotes that is not the first of its field. -/
def inField (reader : Reader) (byte : UInt8) : Reader :=
  if byte == comma then reader.endField
  else if endsRecord byte then reader.endRecord
  else reader.take .plain byte

/-- The reader after a byte. -/
def step (reader : Reader) (byte : UInt8) : Reader :=
  let reader := reader.advance byte
  match reader.place with
  | .recordStart =>
    if endsRecord byte then reader
    else if byte == quoteByte then { reader with place := .quoted }
    else reader.inField byte
  | .fieldStart =>
    if byte == quoteByte then { reader with place := .quoted } else reader.inField byte
  | .plain => reader.inField byte
  | .quoted =>
    if byte == quoteByte then { reader with place := .quote } else reader.take .quoted byte
  | .quote => if byte == quoteByte then reader.take .quoted byte else reader.inField byte

/-- The records at the end of the file, where a record that has begun is complete. -/
def finish (reader : Reader) : List Record :=
  match reader.place with
  | .recordStart => reader.records.reverse
  | _ => reader.endRecord.records.reverse

end Reader

/-- The bytes behind a byte order mark, if one stands in front, and the length of the mark. -/
def skipMark : List UInt8 → List UInt8 × Nat
  | 0xEF :: 0xBB :: 0xBF :: rest => (rest, 3)
  | bytes => (bytes, 0)

/-- The records of a file. -/
def records (file : List UInt8) : List Record :=
  let (bytes, skipped) := skipMark file
  (bytes.foldl Reader.step (.atStart skipped)).finish

end TransientFuel.Csv
