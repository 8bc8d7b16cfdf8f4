import TransientFuel.Binary

/-!
# TOML values

Settings are written in TOML. This file holds the values that a document can contain and the faults
that a document can have.
-/

namespace TransientFuel.Toml

/-- A calendar date. -/
structure Date where
  year : Nat
  month : Nat
  day : Nat
deriving DecidableEq, Repr

/-- A time of day; the fraction of a second is kept as its digits. -/
structure Time where
  hour : Nat
  minute : Nat
  second : Nat
  fraction : List Char
deriving DecidableEq, Repr

/-- A date, a time of day, or both, perhaps with an offset from universal time in minutes. -/
inductive Moment where
  | date (date : Date)
  | time (time : Time)
  | dateTime (date : Date) (time : Time)
  | offset (date : Date) (time : Time) (minutes : Int)
deriving DecidableEq, Repr

/-- A value of a document. -/
inductive Value where
  /-- A string. -/
  | text (content : String)
  /-- A whole number of 64 bits. -/
  | integer (number : Int)
  /-- A number of double precision. -/
  | float (number : Binary.Value)
  /-- A truth value. -/
  | boolean (flag : Bool)
  /-- A date or a time. -/
  | moment (moment : Moment)
  /-- An array. -/
  | array (items : List Value)
  /-- A table; its keys are distinct. -/
  | table (entries : List (String × Value))
deriving Inhabited

/-- What is wrong with a document. -/
inductive Fault where
  /-- The text does not go on as it must. -/
  | malformed (expected : String)
  /-- A key or a table is defined twice. -/
  | duplicate (key : String)
  /-- A key is used as a table and is none. -/
  | notTable (key : String)
  /-- Arrays and tables are nested too deeply, or a key has too many parts. -/
  | tooDeep
  /-- A field has a value of another kind. -/
  | mismatch (field expected : String)
  /-- A field is missing. -/
  | missing (field : String)
deriving DecidableEq, Repr

/-- The wording of a fault. -/
def Fault.message : Fault → String
  | .malformed expected => "expected " ++ expected
  | .duplicate key => "duplicate key " ++ key
  | .notTable key => "key " ++ key ++ " is not a table"
  | .tooDeep => "recursion limit exceeded"
  | .mismatch name expected => name ++ ": expected " ++ expected
  | .missing name => "missing field " ++ name

/-- A fault and the line where it shows, if it shows in a line. -/
structure Error where
  /-- The number of the line, from one. -/
  line : Option Nat
  /-- What is wrong. -/
  fault : Fault
deriving DecidableEq, Repr

/-- The wording of an error. -/
def Error.message (error : Error) : String :=
  match error.line with
  | some line => "TOML parse error at line " ++ toString line ++ ": " ++ error.fault.message
  | none => "TOML parse error: " ++ error.fault.message

end TransientFuel.Toml
