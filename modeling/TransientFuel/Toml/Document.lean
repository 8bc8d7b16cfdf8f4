import TransientFuel.Toml.Scalar

/-!
# TOML documents

A document is a sequence of lines: pairs of a key and a value, and headers that open a table or add
one to an array of tables. A table may be opened once. Tables that only arise on the way to another
one can still be opened later; tables that arise from dotted keys cannot.
-/

namespace TransientFuel.Toml

/-- How a table came about. -/
inductive Origin where
  /-- By a header of its own. -/
  | header
  /-- On the way to the table of a header. -/
  | implied
  /-- By a dotted key. -/
  | dotted
deriving DecidableEq, Repr

/-- A part of a document that is being read. -/
inductive Node where
  /-- A value to which nothing can be added. -/
  | value (content : Value)
  /-- A table. -/
  | table (origin : Origin) (entries : List (String × Node))
  /-- An array of tables; additions go to the last one, which is kept first. -/
  | tables (latest : List (String × Node)) (earlier : List (List (String × Node)))

/-- The entries of a table that is being read. -/
abbrev Entries : Type :=
  List (String × Node)

namespace Node

mutual

/-- The value of a part once the document has been read. -/
def close : Node → Value
  | .value content => content
  | .table _ entries => .table (closeEntries entries)
  | .tables latest earlier => .array (closeTables earlier [.table (closeEntries latest)])

/-- The entries of a table once the document has been read. -/
def closeEntries : List (String × Node) → List (String × Value)
  | [] => []
  | (key, node) :: rest => (key, close node) :: closeEntries rest

/-- The tables of an array, kept latest first, in front of those already closed. -/
def closeTables : List (List (String × Node)) → List Value → List Value
  | [], done => done
  | entries :: earlier, done => closeTables earlier (.table (closeEntries entries) :: done)

end

end Node

namespace Entries

/-- The entries with the one of a key replaced. -/
def replace (entries : Entries) (key : String) (node : Node) : Entries :=
  entries.map fun entry => if entry.1 = key then (key, node) else entry

/-- The entries with a further one. -/
def add (entries : Entries) (key : String) (node : Node) : Entries :=
  entries ++ [(key, node)]

/--
The entries with a pair added under a dotted key. The tables on the way are made as needed; one that
has a header cannot be entered, and the last one has to be a dotted one.
-/
def insert (entries : Entries) (path : List String) (key : String) (value : Value) :
    Except Fault Entries :=
  match path with
  | [] =>
    match entries.lookup key with
    | none => .ok (entries.add key (.value value))
    | some _ => .error (.duplicate key)
  | step :: rest =>
    match entries.lookup step with
    | none => do
      let inner ← insert [] rest key value
      return entries.add step (.table .dotted inner)
    | some (.table origin inner) =>
      if origin = .header ∨ (rest = [] ∧ origin ≠ .dotted) then .error (.duplicate step)
      else do
        let changed ← insert inner rest key value
        return entries.replace step (.table origin changed)
    | some (.tables latest earlier) =>
      if rest = [] then .error (.duplicate step)
      else do
        let changed ← insert latest rest key value
        return entries.replace step (.tables changed earlier)
    | some (.value _) => .error (.notTable step)

/-- The entries with a change made at the end of a path of tables, which are made as needed. -/
def modifyAt (entries : Entries) (path : List String) (change : Entries → Except Fault Entries) :
    Except Fault Entries :=
  match path with
  | [] => change entries
  | step :: rest =>
    match entries.lookup step with
    | none => do
      let inner ← modifyAt [] rest change
      return entries.add step (.table .implied inner)
    | some (.table origin inner) => do
      let changed ← modifyAt inner rest change
      return entries.replace step (.table origin changed)
    | some (.tables latest earlier) => do
      let changed ← modifyAt latest rest change
      return entries.replace step (.tables changed earlier)
    | some (.value _) => .error (.notTable step)

/-- The entries with a table opened by a header. -/
def openTable (key : String) (entries : Entries) : Except Fault Entries :=
  match entries.lookup key with
  | none => .ok (entries.add key (.table .header []))
  | some (.table .implied inner) => .ok (entries.replace key (.table .header inner))
  | some _ => .error (.duplicate key)

/-- The entries with a table added to an array of tables by a header. -/
def openElement (key : String) (entries : Entries) : Except Fault Entries :=
  match entries.lookup key with
  | none => .ok (entries.add key (.tables [] []))
  | some (.tables latest earlier) => .ok (entries.replace key (.tables [] (latest :: earlier)))
  | some _ => .error (.duplicate key)

end Entries

/-- From this depth of nesting on, and from this number of parts of a key on, a text is refused. -/
def depthLimit : Nat := 80

/-- A character of a key without quotes. -/
def isKeyChar (c : Char) : Bool :=
  c.isAlphanum || c = '-' || c = '_'

/-- One part of a key. -/
def keyPart (text : List Char) : Except Fault (String × List Char) :=
  match text with
  | '"' :: rest => basicString [] rest
  | '\'' :: rest => literalString [] rest
  | _ =>
    let part := text.takeWhile isKeyChar
    if part = [] then .error (.malformed "a key")
    else .ok (String.ofList part, text.dropWhile isKeyChar)

/-- The parts of a key, with points between them; at most `fuel` parts are read. -/
def keyParts : Nat → List Char → Except Fault (List String × List Char)
  | 0, _ => .error .tooDeep
  | fuel + 1, text => do
    let (part, rest) ← keyPart (skipGaps text)
    match skipGaps rest with
    | '.' :: after =>
      let (parts, final) ← keyParts fuel after
      return (part :: parts, final)
    | after => return ([part], after)

/-- A key: the parts that lead to a table, and the last part. -/
def key (text : List Char) : Except Fault ((List String × String) × List Char) := do
  let (parts, rest) ← keyParts (depthLimit - 1) text
  return ((parts.dropLast, parts.getLastD ""), rest)

/-- The text behind an equals sign and the gaps after it. -/
def equalsSign : List Char → Except Fault (List Char)
  | '=' :: rest => .ok (skipGaps rest)
  | _ => .error (.malformed "an equals sign")

mutual

/-- A value at a depth of nesting; `fuel` bounds the steps, at most two for each character. -/
def valueAt : Nat → Nat → List Char → Except Fault (Value × List Char)
  | 0, _, _ => .error (.malformed "a value")
  | fuel + 1, depth, text =>
    match text with
    | '[' :: rest =>
      if depthLimit ≤ depth + 1 then .error .tooDeep else items fuel (depth + 1) [] rest
    | '\x7b' :: rest =>
      if depthLimit ≤ depth + 1 then .error .tooDeep
      else
        match skipGaps rest with
        | '\x7d' :: after => .ok (.table [], after)
        | _ => pairs fuel (depth + 1) [] rest
    | '"' :: _ => (string text).map fun (content, rest) => (.text content, rest)
    | '\'' :: _ => (string text).map fun (content, rest) => (.text content, rest)
    | _ => scalar text

/-- The rest of an array behind the items read so far, last first. -/
def items : Nat → Nat → List Value → List Char → Except Fault (Value × List Char)
  | 0, _, _, _ => .error (.malformed "an array")
  | fuel + 1, depth, done, text =>
    match skipFiller false text with
    | ']' :: rest => .ok (.array done.reverse, rest)
    | start => do
      let (item, rest) ← valueAt fuel depth start
      match skipFiller false rest with
      | ',' :: after => items fuel depth (item :: done) after
      | ']' :: after => return (.array (item :: done).reverse, after)
      | _ => .error (.malformed "a comma or a bracket")

/-- The rest of a table in braces behind the entries read so far. -/
def pairs : Nat → Nat → Entries → List Char → Except Fault (Value × List Char)
  | 0, _, _, _ => .error (.malformed "a table")
  | fuel + 1, depth, entries, text => do
    let ((path, last), rest) ← key text
    let start ← equalsSign rest
    let (value, after) ← valueAt fuel depth start
    let changed ← entries.insert path last value
    match skipGaps after with
    | ',' :: next => pairs fuel depth changed next
    | '\x7d' :: next => return ((Node.table .dotted changed).close, next)
    | _ => .error (.malformed "a comma or a brace")

end

/-- A value at the front of a text. -/
def value (text : List Char) : Except Fault (Value × List Char) :=
  valueAt (2 * text.length + 2) 0 text

/-- A document that is being read: what has been read, and the table that pairs go to. -/
structure Draft where
  /-- The entries of the whole document. -/
  root : Entries
  /-- The path of the table opened last. -/
  current : List String

namespace Draft

/-- Reads the pair in a line. -/
def pair (draft : Draft) (text : List Char) : Except Fault (Draft × List Char) := do
  let ((path, last), rest) ← key text
  let start ← equalsSign rest
  let (value, after) ← value start
  let root ← draft.root.modifyAt draft.current fun entries => entries.insert path last value
  return ({ draft with root }, ← endLine after)

/-- Reads the header in a line, behind its opening brackets. -/
def header (draft : Draft) (change : String → Entries → Except Fault Entries)
    (closing : List Char) (text : List Char) : Except Fault (Draft × List Char) := do
  let ((path, last), rest) ← key text
  if closing.isPrefixOf rest then
    let after ← endLine (rest.drop closing.length)
    let root ← draft.root.modifyAt path (change last)
    return ({ root, current := path ++ [last] }, after)
  else
    .error (.malformed "a closing bracket")

/-- Reads one line, or several if a value extends over them. -/
def line (draft : Draft) (text : List Char) : Except Fault (Draft × List Char) :=
  match text with
  | '#' :: _ => (endLine text).map (draft, ·)
  | '\n' :: rest => .ok (draft, rest)
  | '\r' :: _ => (endLine text).map (draft, ·)
  | '[' :: '[' :: rest => draft.header Entries.openElement [']', ']'] rest
  | '[' :: rest => draft.header Entries.openTable [']'] rest
  | _ => draft.pair text

/-- Reads the lines of a text; `fuel` bounds their number and the text's length is enough. -/
def lines (draft : Draft) : Nat → List Char → Except (Fault × List Char) Draft
  | 0, _ => .ok draft
  | fuel + 1, text =>
    match skipGaps text with
    | [] => .ok draft
    | start =>
      match draft.line start with
      | .ok (next, rest) => next.lines fuel rest
      | .error fault => .error (fault, start)

end Draft

/-- The text without a byte order mark in front. -/
def skipMark : List Char → List Char
  | first :: rest => if first.toNat = 0xFEFF then rest else first :: rest
  | [] => []

/-- Reads a document; the value is a table. -/
def parse (document : String) : Except Error Value :=
  let text := skipMark document.toList
  match (Draft.mk [] []).lines (text.length + 1) text with
  | .ok draft => .ok (.table (Node.closeEntries draft.root))
  | .error (fault, rest) =>
    let before := text.take (text.length - rest.length)
    .error ⟨some (before.count '\n' + 1), fault⟩

end TransientFuel.Toml
