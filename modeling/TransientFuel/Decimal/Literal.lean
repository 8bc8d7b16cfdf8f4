import TransientFuel.Binary

/-!
# Decimal literals

A literal is a whole number times a power of ten, with a sign. This file reads the notation used in
data files and command-line options, where a point may stand first or last and infinities and
missing numbers have names, and rounds literals to binary formats.
-/

namespace TransientFuel.Decimal

open Binary (Format Value)

/-- The number `digits * 10 ^ scale`, negated if asked for. -/
structure Literal where
  /-- Whether a minus sign stands in front. -/
  negative : Bool
  /-- The digits, read as a whole number. -/
  digits : Nat
  /-- The power of ten that the digits are multiplied by. -/
  scale : Int
deriving DecidableEq, Repr

/-- The whole number that a list of decimal digits stands for. -/
def ofDigits (digits : List Char) : Nat :=
  digits.foldl (fun total digit => 10 * total + (digit.toNat - '0'.toNat)) 0

/-- The decimal digits of a whole number. -/
def toDigits (number : Nat) : List Char :=
  Nat.toDigits 10 number

/-- The ratio `number * 10 ^ scale` as a numerator and a denominator. -/
def scaleTen (number : Nat) (scale : Int) : Nat × Nat :=
  if 0 ≤ scale then (number * Nat.pow 10 scale.toNat, 1) else (number, Nat.pow 10 (-scale).toNat)

namespace Literal

/--
The literal rounded to a format. Beyond four hundred places before or behind the point the answer
is infinity or zero in both formats, and no power of ten is formed.
-/
def round (literal : Literal) (format : Format) : Value :=
  let places : Int := (toDigits literal.digits).length + literal.scale
  if literal.digits = 0 ∨ places < -400 then format.nearest literal.negative 0 1
  else if 400 < places then .infinite literal.negative
  else
    let (numerator, denominator) := scaleTen literal.digits literal.scale
    format.nearest literal.negative numerator denominator

end Literal

/-- Why a text is no number. -/
inductive NumberFault where
  /-- The text is empty. -/
  | empty
  /-- The text is not a number in decimal notation. -/
  | malformed
deriving DecidableEq, Repr

/-- The wording of a fault. -/
def NumberFault.message : NumberFault → String
  | .empty => "cannot parse float from empty string"
  | .malformed => "invalid float literal"

/-- A sign in front of a text, and the text behind it. -/
def splitSign : List Char → Bool × List Char
  | '-' :: rest => (true, rest)
  | '+' :: rest => (false, rest)
  | text => (false, text)

/-- The exponent that ends a number: nothing, or the letter `e` with a signed whole number. -/
def exponent? : List Char → Option Int
  | [] => some 0
  | mark :: rest =>
    if mark = 'e' ∨ mark = 'E' then
      let (negative, digits) := splitSign rest
      if digits ≠ [] ∧ digits.all Char.isDigit then
        some (if negative then -(ofDigits digits : Int) else ofDigits digits)
      else
        none
    else
      none

/-- The fraction behind a whole part, which is the digits after a point, and what follows it. -/
def splitFraction : List Char → List Char × List Char
  | '.' :: rest => (rest.takeWhile Char.isDigit, rest.dropWhile Char.isDigit)
  | text => ([], text)

/-- An unsigned number: digits with an optional point among them, then an optional exponent. -/
def magnitude? (negative : Bool) (text : List Char) : Option Literal :=
  let whole := text.takeWhile Char.isDigit
  let (fraction, rest) := splitFraction (text.dropWhile Char.isDigit)
  if whole = [] ∧ fraction = [] then none
  else (exponent? rest).map fun exponent =>
    { negative
      digits := ofDigits (whole ++ fraction)
      scale := exponent - fraction.length }

/-- Reads a number of a data file: a decimal number, or the name of an infinity or of no number. -/
def read (text : String) : Except NumberFault Float32 :=
  if text.isEmpty then .error .empty
  else
    let (negative, rest) := splitSign text.toList
    let word := String.ofList (rest.map Char.toLower)
    if word = "inf" ∨ word = "infinity" then .ok (Value.infinite negative).toSingle
    else if word = "nan" then .ok Value.notNumber.toSingle
    else
      match magnitude? negative rest with
      | some literal => .ok (literal.round Binary.single).toSingle
      | none => .error .malformed

end TransientFuel.Decimal
