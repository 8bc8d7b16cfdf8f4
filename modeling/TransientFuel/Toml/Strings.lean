import TransientFuel.Toml.Value

/-!
# Lines and strings

The blanks, comments and line ends of a document, and its four kinds of strings.
-/

namespace TransientFuel.Toml

/-- A blank or a tab. -/
def isGap (c : Char) : Bool :=
  c = ' ' || c = '\t'

/-- A character that may stand in a comment or in a string: no control but the tab. -/
def isTextChar (c : Char) : Bool :=
  c = '\t' || (0x20 ≤ c.toNat && c.toNat ≠ 0x7F)

/-- The text behind blanks and tabs. -/
def skipGaps (text : List Char) : List Char :=
  text.dropWhile isGap

/-- The text behind the end of a line, if one stands in front. -/
def newline? : List Char → Option (List Char)
  | '\n' :: rest => some rest
  | '\r' :: '\n' :: rest => some rest
  | _ => none

/-- The text behind a comment, if one stands in front. -/
def skipComment : List Char → List Char
  | '#' :: rest => rest.dropWhile isTextChar
  | text => text

/-- The text behind the rest of a line, which may hold blanks and a comment only. -/
def endLine (text : List Char) : Except Fault (List Char) :=
  match skipComment (skipGaps text) with
  | [] => .ok []
  | rest => ((newline? rest).map Except.ok).getD (.error (.malformed "end of line"))

/-- The text behind blanks, comments and line ends; the flag tells that a comment has begun. -/
def skipFiller : Bool → List Char → List Char
  | _, [] => []
  | _, '\n' :: rest => skipFiller false rest
  | _, '\r' :: '\n' :: rest => skipFiller false rest
  | true, c :: rest => if isTextChar c then skipFiller true rest else c :: rest
  | false, c :: rest =>
    if isGap c then skipFiller false rest
    else if c = '#' then skipFiller true rest
    else c :: rest

/-- Whether a character is a digit of base sixteen. -/
def isHexDigit (c : Char) : Bool :=
  c.isDigit || ('a' ≤ c && c ≤ 'f') || ('A' ≤ c && c ≤ 'F')

/-- The value of a digit of base sixteen. -/
def hexDigit (c : Char) : Nat :=
  if c.isDigit then c.toNat - '0'.toNat
  else if 'a' ≤ c then c.toNat - 'a'.toNat + 10
  else c.toNat - 'A'.toNat + 10

/-- The number that digits stand for in a base. -/
def ofBase (base : Nat) (digits : List Char) : Nat :=
  digits.foldl (fun total digit => base * total + hexDigit digit) 0

/-- The character with the code point given in base sixteen. -/
def codePoint? (digits : List Char) : Option Char :=
  let code := ofBase 16 digits
  if digits.all isHexDigit ∧ (code < 0xD800 ∨ (0xE000 ≤ code ∧ code ≤ 0x10FFFF)) then
    some (Char.ofNat code)
  else
    none

/-- The character that a letter stands for behind a backslash. -/
def escape? (c : Char) : Option Char :=
  if c = 'b' then some (Char.ofNat 8)
  else if c = 't' then some '\t'
  else if c = 'n' then some '\n'
  else if c = 'f' then some (Char.ofNat 12)
  else if c = 'r' then some '\r'
  else if c = '"' then some '"'
  else if c = '\\' then some '\\'
  else none

/-- The fault of a bad escape. -/
def badEscape : Fault :=
  .malformed "an escape"

/-- The fault of a string that goes on beyond its line or beyond the text. -/
def badString : Fault :=
  .malformed "a string"

/-- The rest of a one-line string with escapes, behind what has been read of it, last first. -/
def basicString (done : List Char) : List Char → Except Fault (String × List Char)
  | '"' :: rest => .ok (String.ofList done.reverse, rest)
  | '\\' :: 'u' :: a :: b :: c :: d :: rest =>
    match codePoint? [a, b, c, d] with
    | some char => basicString (char :: done) rest
    | none => .error badEscape
  | '\\' :: 'U' :: a :: b :: c :: d :: e :: f :: g :: h :: rest =>
    match codePoint? [a, b, c, d, e, f, g, h] with
    | some char => basicString (char :: done) rest
    | none => .error badEscape
  | '\\' :: c :: rest =>
    match escape? c with
    | some char => basicString (char :: done) rest
    | none => .error badEscape
  | c :: rest => if isTextChar c then basicString (c :: done) rest else .error badString
  | [] => .error badString

/-- Where the reader of a multi-line string with escapes stands. -/
inductive Place where
  /-- In the content. -/
  | content
  /-- Behind a backslash that hides the end of its line; only blanks have come so far. -/
  | hiding
  /-- Behind a hidden line end; blanks and line ends are left out. -/
  | hidden
deriving DecidableEq, Repr

/-- The rest of a multi-line string with escapes; up to two quotes may stand before its end. -/
def multiBasicString (place : Place) (done : List Char) (text : List Char) :
    Except Fault (String × List Char) :=
  match place, text with
  | .hiding, '\n' :: rest => multiBasicString .hidden done rest
  | .hiding, '\r' :: '\n' :: rest => multiBasicString .hidden done rest
  | .hiding, ' ' :: rest => multiBasicString .hiding done rest
  | .hiding, '\t' :: rest => multiBasicString .hiding done rest
  | .hiding, _ => .error badEscape
  | .hidden, '\n' :: rest => multiBasicString .hidden done rest
  | .hidden, '\r' :: '\n' :: rest => multiBasicString .hidden done rest
  | .hidden, ' ' :: rest => multiBasicString .hidden done rest
  | .hidden, '\t' :: rest => multiBasicString .hidden done rest
  | _, '"' :: '"' :: '"' :: '"' :: '"' :: rest =>
    .ok (String.ofList ('"' :: '"' :: done).reverse, rest)
  | _, '"' :: '"' :: '"' :: '"' :: rest => .ok (String.ofList ('"' :: done).reverse, rest)
  | _, '"' :: '"' :: '"' :: rest => .ok (String.ofList done.reverse, rest)
  | _, '\n' :: rest => multiBasicString .content ('\n' :: done) rest
  | _, '\r' :: '\n' :: rest => multiBasicString .content ('\n' :: done) rest
  | _, '\\' :: 'u' :: a :: b :: c :: d :: rest =>
    match codePoint? [a, b, c, d] with
    | some char => multiBasicString .content (char :: done) rest
    | none => .error badEscape
  | _, '\\' :: 'U' :: a :: b :: c :: d :: e :: f :: g :: h :: rest =>
    match codePoint? [a, b, c, d, e, f, g, h] with
    | some char => multiBasicString .content (char :: done) rest
    | none => .error badEscape
  | _, '\\' :: '\n' :: rest => multiBasicString .hidden done rest
  | _, '\\' :: '\r' :: '\n' :: rest => multiBasicString .hidden done rest
  | _, '\\' :: c :: rest =>
    if isGap c then multiBasicString .hiding done rest
    else
      match escape? c with
      | some char => multiBasicString .content (char :: done) rest
      | none => .error badEscape
  | _, c :: rest =>
    if isTextChar c then multiBasicString .content (c :: done) rest else .error badString
  | _, [] => .error badString
termination_by structural text

/-- The rest of a one-line string without escapes. -/
def literalString (done : List Char) : List Char → Except Fault (String × List Char)
  | '\'' :: rest => .ok (String.ofList done.reverse, rest)
  | c :: rest => if isTextChar c then literalString (c :: done) rest else .error badString
  | [] => .error badString

/-- The rest of a multi-line string without escapes; up to two quotes may stand before its end. -/
def multiLiteralString (done : List Char) : List Char → Except Fault (String × List Char)
  | '\'' :: '\'' :: '\'' :: '\'' :: '\'' :: rest =>
    .ok (String.ofList ('\'' :: '\'' :: done).reverse, rest)
  | '\'' :: '\'' :: '\'' :: '\'' :: rest => .ok (String.ofList ('\'' :: done).reverse, rest)
  | '\'' :: '\'' :: '\'' :: rest => .ok (String.ofList done.reverse, rest)
  | '\n' :: rest => multiLiteralString ('\n' :: done) rest
  | '\r' :: '\n' :: rest => multiLiteralString ('\n' :: done) rest
  | c :: rest => if isTextChar c then multiLiteralString (c :: done) rest else .error badString
  | [] => .error badString

/-- The text behind a line end, if one stands in front, and else the text itself. -/
def skipNewline (text : List Char) : List Char :=
  (newline? text).getD text

/-- A string of any kind. -/
def string : List Char → Except Fault (String × List Char)
  | '"' :: '"' :: '"' :: rest => multiBasicString .content [] (skipNewline rest)
  | '"' :: rest => basicString [] rest
  | '\'' :: '\'' :: '\'' :: rest => multiLiteralString [] (skipNewline rest)
  | '\'' :: rest => literalString [] rest
  | _ => .error badString

end TransientFuel.Toml
