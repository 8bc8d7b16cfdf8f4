import TransientFuel.Report
import TransientFuel.Text.Alphanumeric
import TransientFuel.Text.Blank

/-!
# Log filters

A log filter is a list of directives with commas between them. A directive is a level, the name of a
target, or both with an equals sign between them; a span in brackets, perhaps with fields in braces,
can stand behind the target. Blanks around a directive belong to its level, which they spoil, and do
no harm where there is none. Only a directive that cannot be read is of interest here.
-/

namespace TransientFuel.LogFilter

/-- Why a filter cannot be read. -/
inductive Fault where
  /-- What should be a level is none. -/
  | level
  /-- A directive has another form. -/
  | directive
deriving DecidableEq, Repr

/-- The report of a fault; that of an unknown level names its cause once more. -/
def Fault.report : Fault → Report
  | .level =>
    let text := "error parsing level filter: expected one of \"off\", \"error\", \"warn\", " ++
      "\"info\", \"debug\", \"trace\", or a number 0-5"
    (Report.ofText text).within (.text text)
  | .directive => .ofText "invalid filter directive"

/-- The names of the levels. -/
def levels : List String :=
  ["off", "error", "warn", "info", "debug", "trace"]

/-- Whether a text is a number up to five. -/
def isLevelNumber (text : List Char) : Bool :=
  let digits := match text with
    | '+' :: rest => rest
    | _ => text
  match digits.dropWhile (· == '0') with
  | [] => !digits.isEmpty
  | [digit] => '1' ≤ digit && digit ≤ '5'
  | _ => false

/-- Whether a text is a level, in letters of either case. -/
def isLevel (text : List Char) : Bool :=
  text.isEmpty || levels.contains (String.ofList (text.map Char.toLower)) || isLevelNumber text

/-- What part of a directive is being read. -/
inductive Part where
  /-- Nothing yet. -/
  | start
  /-- A level or a target. -/
  | name
  /-- A span in brackets. -/
  | span
  /-- A field in braces, with its length so far. -/
  | field (length : Nat)
  /-- Behind the braces. -/
  | fields
  /-- Behind the brackets. -/
  | closed
deriving DecidableEq, Repr

/-- Whether a character can begin a directive. -/
def begins (c : Char) : Bool :=
  c == '-' || c == ':' || c == '_' || Text.isAlphanumeric c

/-- Reads what stands behind the equals sign. -/
def readLevel (fits : List Char → Bool) (level : List Char) : Except Fault Unit :=
  if fits level then .ok () else .error .level

/-- Reads the rest of a directive, from a part of it on, with a test for levels. -/
def readFrom (fits : List Char → Bool) : Part → List Char → Except Fault Unit
  | .start, [] => .error .directive
  | .start, c :: rest =>
    if c = '[' then readFrom fits .span rest
    else if begins c then readFrom fits .name rest
    else .error .directive
  | .name, [] => .ok ()
  | .name, c :: rest =>
    if c = '=' then readLevel fits rest
    else if c = '[' then readFrom fits .span rest
    else readFrom fits .name rest
  | .span, [] => .error .directive
  | .span, c :: rest =>
    if c = ']' then readFrom fits .closed rest
    else if c = '\x7b' then readFrom fits (.field 0) rest
    else readFrom fits .span rest
  | .field _, [] => .error .directive
  | .field length, c :: rest =>
    if c = '\x7d' then
      if length = 0 then .error .directive else readFrom fits .fields rest
    else readFrom fits (.field (length + 1)) rest
  | .fields, [] => .error .directive
  | .fields, c :: rest => if c = ']' then readFrom fits .closed rest else .error .directive
  | .closed, [] => .ok ()
  | .closed, c :: rest => if c = '=' then readLevel fits rest else .error .directive

/-- Reads a directive. -/
def readDirective (text : List Char) : Except Fault Unit :=
  let before := text.takeWhile Text.isBlank
  let behind := (text.reverse.takeWhile Text.isBlank).reverse
  readFrom (fun level => before.isEmpty && isLevel (level ++ behind)) .start
    (Text.trimBoth Text.isBlank text)

/-- Reads a filter; between two commas there may be nothing. -/
def read (text : String) : Except Fault Unit :=
  ((text.toList.splitOn ',').filter (!·.isEmpty)).forM readDirective

end TransientFuel.LogFilter
