import TransientFuel.Decimal.Literal
import TransientFuel.Toml.Strings

/-!
# Numbers, truth values and moments

These values are written without quotes, as one token. A token is classified as a whole.
-/

namespace TransientFuel.Toml

/-- A character of an unquoted value. -/
def isTokenChar (c : Char) : Bool :=
  c.isAlphanum || c = '+' || c = '-' || c = '_' || c = '.' || c = ':'

/--
Digits without the underscores among them. An underscore has to stand between two digits, and there
has to be a digit.
-/
def ungroup (isDigit : Char → Bool) : List Char → Option (List Char)
  | [] => none
  | [digit] => if isDigit digit then some [digit] else none
  | digit :: '_' :: rest =>
    if isDigit digit then (ungroup isDigit rest).map (digit :: ·) else none
  | digit :: rest => if isDigit digit then (ungroup isDigit rest).map (digit :: ·) else none

/-- The digits of a whole part, which begins with zero only if it is zero. -/
def wholePart (text : List Char) : Option (List Char) :=
  match ungroup Char.isDigit text with
  | some ('0' :: _ :: _) => none
  | digits => digits

/-- A whole number of 64 bits. -/
def inRange (number : Int) : Option Int :=
  if -0x8000000000000000 ≤ number ∧ number < 0x8000000000000000 then some number else none

/-- A whole number, decimal with an optional sign or in base sixteen, eight or two. -/
def integer? : List Char → Option Int
  | '0' :: 'x' :: digits => (ungroup isHexDigit digits).bind fun d => inRange (ofBase 16 d)
  | '0' :: 'o' :: digits =>
    (ungroup (fun c => '0' ≤ c && c ≤ '7') digits).bind fun d => inRange (ofBase 8 d)
  | '0' :: 'b' :: digits =>
    (ungroup (fun c => c = '0' || c = '1') digits).bind fun d => inRange (ofBase 2 d)
  | text =>
    let (negative, digits) := Decimal.splitSign text
    (wholePart digits).bind fun d =>
      inRange (if negative then -(Decimal.ofDigits d : Int) else Decimal.ofDigits d)

/-- The characters up to the point or the exponent. -/
def isGroupChar (c : Char) : Bool :=
  c.isDigit || c = '_'

/-- The exponent behind the letter that announces it. -/
def exponent? (text : List Char) : Option Int :=
  let (negative, digits) := Decimal.splitSign text
  (ungroup Char.isDigit digits).map fun d =>
    if negative then -(Decimal.ofDigits d : Int) else Decimal.ofDigits d

/-- The digits behind the point and the exponent; at least one of the two has to be there. -/
def fractionExponent? : List Char → Option (List Char × Int)
  | '.' :: text =>
    (ungroup Char.isDigit (text.takeWhile isGroupChar)).bind fun fraction =>
      match text.dropWhile isGroupChar with
      | [] => some (fraction, 0)
      | mark :: rest =>
        if mark = 'e' ∨ mark = 'E' then (exponent? rest).map (fraction, ·) else none
  | mark :: rest => if mark = 'e' ∨ mark = 'E' then (exponent? rest).map ([], ·) else none
  | [] => none

/-- A finite number with a point or an exponent. -/
def decimal? (text : List Char) : Option Decimal.Literal :=
  let (negative, unsigned) := Decimal.splitSign text
  (wholePart (unsigned.takeWhile isGroupChar)).bind fun whole =>
    (fractionExponent? (unsigned.dropWhile isGroupChar)).map fun (fraction, exponent) =>
      { negative
        digits := Decimal.ofDigits (whole ++ fraction)
        scale := exponent - fraction.length }

/-- A number of double precision; a literal too large for it is none, unless it is negative. -/
def float? (text : List Char) : Option Binary.Value :=
  let (negative, word) := Decimal.splitSign text
  if word = "inf".toList then some (.infinite negative)
  else if word = "nan".toList then some .notNumber
  else
    (decimal? text).bind fun literal =>
      match literal.round Binary.double with
      | .infinite false => none
      | value => some value

/-- A number of two digits within bounds. -/
def twoDigits? (low high : Nat) (first second : Char) : Option Nat :=
  let number := Decimal.ofDigits [first, second]
  if first.isDigit ∧ second.isDigit ∧ low ≤ number ∧ number ≤ high then some number else none

/-- The days of a month. -/
def daysIn (year month : Nat) : Nat :=
  if month = 2 then
    if year % 4 = 0 ∧ (year % 100 ≠ 0 ∨ year % 400 = 0) then 29 else 28
  else if month = 4 ∨ month = 6 ∨ month = 9 ∨ month = 11 then 30
  else 31

/-- A date in front of a token, and the rest of the token. -/
def date? : List Char → Option (Date × List Char)
  | y :: e :: a :: r :: '-' :: m :: o :: '-' :: d :: t :: rest => do
    if [y, e, a, r].all Char.isDigit then
      let year := Decimal.ofDigits [y, e, a, r]
      let month ← twoDigits? 1 12 m o
      let day ← twoDigits? 1 (daysIn year month) d t
      some (⟨year, month, day⟩, rest)
    else
      none
  | _ => none

/-- A time of day in front of a token, and the rest of the token; a second may be a leap second. -/
def time? : List Char → Option (Time × List Char)
  | h :: o :: ':' :: m :: i :: ':' :: s :: e :: rest => do
    let hour ← twoDigits? 0 23 h o
    let minute ← twoDigits? 0 59 m i
    let second ← twoDigits? 0 60 s e
    match rest with
    | '.' :: after =>
      let fraction := after.takeWhile Char.isDigit
      if fraction = [] then none
      else some (⟨hour, minute, second, fraction⟩, after.dropWhile Char.isDigit)
    | _ => some (⟨hour, minute, second, []⟩, rest)
  | _ => none

/-- An offset from universal time in minutes. -/
def offset? : List Char → Option Int
  | ['Z'] => some 0
  | ['z'] => some 0
  | [sign, h, o, ':', m, i] => do
    let hour ← twoDigits? 0 23 h o
    let minute ← twoDigits? 0 59 m i
    if sign = '+' then some (60 * hour + minute)
    else if sign = '-' then some (-(60 * hour + minute))
    else none
  | _ => none

/-- A moment. -/
def moment? (token : List Char) : Option Moment :=
  match date? token with
  | some (date, []) => some (.date date)
  | some (date, mark :: rest) =>
    if mark = 'T' ∨ mark = 't' then
      match time? rest with
      | some (time, []) => some (.dateTime date time)
      | some (time, zone) => (offset? zone).map (.offset date time)
      | none => none
    else
      none
  | none =>
    match time? token with
    | some (time, []) => some (.time time)
    | _ => none

/-- The value of a whole token. -/
def token? (token : List Char) : Option Value :=
  if token = "true".toList then some (.boolean true)
  else if token = "false".toList then some (.boolean false)
  else
    ((moment? token).map Value.moment).or
      (((float? token).map Value.float).or ((integer? token).map Value.integer))

/-- Whether a text goes on with a digit. -/
def startsWithDigit (text : List Char) : Bool :=
  (text.head?.map Char.isDigit).getD false

/-- The token in front of a text; a blank may stand between a date and a time of day. -/
def splitToken (text : List Char) : List Char × List Char :=
  let token := text.takeWhile isTokenChar
  let rest := text.dropWhile isTokenChar
  match date? token, rest with
  | some (_, []), ' ' :: after =>
    if startsWithDigit after then
      (token ++ 'T' :: after.takeWhile isTokenChar, after.dropWhile isTokenChar)
    else
      (token, rest)
  | _, _ => (token, rest)

/-- A value without quotes or brackets. -/
def scalar (text : List Char) : Except Fault (Value × List Char) :=
  let (token, rest) := splitToken text
  match token? token with
  | some value => .ok (value, rest)
  | none => .error (.malformed "a value")

end TransientFuel.Toml
