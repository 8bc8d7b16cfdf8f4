import TransientFuel.Decimal.Shortest

/-!
# Layouts of decimal text

A number is written with its shortest digits in one of several layouts, which differ in where
positional notation ends and in how exponents look, or with a fixed number of places behind the
point.
-/

namespace TransientFuel.Decimal

open Binary (Format Value)

/-- How a number with given shortest digits is laid out. -/
structure Layout where
  /-- The format whose numbers the digits have to tell apart. -/
  format : Format
  /-- Where a number halfway between two shortest decimals goes. -/
  tie : Tie
  /--
  Whether a number is written without an exponent, by the position of the point: a number has
  position `p` if it lies between `10 ^ (p - 1)` and `10 ^ p`.
  -/
  positional : Int → Bool
  /-- Whether a whole number without exponent ends in `.0`. -/
  wholePoint : Bool
  /-- Whether a positive exponent has a plus sign. -/
  exponentPlus : Bool

/-- The sign in front of a negative number. -/
def sign (negative : Bool) : String :=
  if negative then "-" else ""

/-- A run of zeros. -/
def zeros (count : Nat) : List Char :=
  List.replicate count '0'

/-- The digits with the point at a position. -/
def Layout.pointed (layout : Layout) (digits : List Char) (position : Int) : String :=
  let length : Int := digits.length
  let before := digits.take position.toNat
  let after := digits.drop position.toNat
  String.ofList <|
    if position ≤ 0 then '0' :: '.' :: zeros (-position).toNat ++ digits
    else if position < length then before ++ '.' :: after
    else digits ++ zeros (position - length).toNat ++ if layout.wholePoint then ['.', '0'] else []

/-- The digits with the point behind the first one and an exponent. -/
def Layout.scientific (layout : Layout) (digits : List Char) (position : Int) : String :=
  let fraction := if digits.length ≤ 1 then [] else '.' :: digits.drop 1
  let power := position - 1
  let mark := if power < 0 then "e-" else if layout.exponentPlus then "e+" else "e"
  String.ofList (digits.take 1 ++ fraction) ++ mark ++ toString power.natAbs

/-- The text of a finite number that is not zero, without its sign. -/
def Layout.magnitude (layout : Layout) (significand : Nat) (exponent : Int) : String :=
  let (digits, scale) := shortest layout.tie layout.format significand exponent
  let text := toDigits digits
  let position := text.length + scale
  if layout.positional position then layout.pointed text position
  else layout.scientific text position

/-- The text of a single-precision number. -/
def Layout.render (layout : Layout) (x : Float32) : String :=
  match layout.format.round (Value.ofSingle x) with
  | .notNumber => "NaN"
  | .infinite negative => sign negative ++ "inf"
  | .finite negative 0 _ => sign negative ++ if layout.wholePoint then "0.0" else "0"
  | .finite negative significand exponent =>
    sign negative ++ layout.magnitude significand exponent

/-- The text of a number with a fixed count of places; a half goes to the even last digit. -/
def fixed (places : Nat) (x : Float32) : String :=
  match Value.ofSingle x with
  | .notNumber => "NaN"
  | .infinite negative => sign negative ++ "inf"
  | .finite negative significand exponent =>
    let (up, down) := Binary.scaleTwo (significand * Nat.pow 10 places) 1 exponent
    let digits := toDigits (Binary.roundDiv up down)
    let padded := zeros (places + 1 - digits.length) ++ digits
    let whole := padded.length - places
    let point := if places = 0 then [] else ['.']
    sign negative ++ String.ofList (padded.take whole ++ point ++ padded.drop whole)

/-- The text filled up with blanks on the left to a width. -/
def padLeft (width : Nat) (text : String) : String :=
  String.ofList (List.replicate (width - text.length) ' ') ++ text

/-- Numbers in messages: never with an exponent, and without a point if whole. -/
def plain : Layout where
  format := Binary.single
  tie := .up
  positional := fun _ => true
  wholePoint := false
  exponentPlus := false

/-- Numbers in descriptions of a channel's state: exponents below `1e-4` and from `1e16` on. -/
def descriptive : Layout where
  format := Binary.single
  tie := .up
  positional := fun position => -4 < position ∧ position ≤ 16
  wholePoint := true
  exponentPlus := false

/--
Numbers in JSON lines: written as double-precision numbers, with exponents below `1e-5` and from
`1e16` on.
-/
def json : Layout where
  format := Binary.double
  tie := .even
  positional := fun position => -5 < position ∧ position ≤ 16
  wholePoint := true
  exponentPlus := true

end TransientFuel.Decimal
