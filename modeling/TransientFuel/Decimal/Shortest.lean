import TransientFuel.Decimal.Literal

/-!
# The shortest decimal that reads back

A binary number is written with the fewest decimal digits that still round to it, and among those
with the digits nearest to it. The search goes through the decimal grids from coarse to fine and
tests the two grid points around the number.
-/

namespace TransientFuel.Decimal

open Binary (Format)

/-- Where a number halfway between two decimals goes. -/
inductive Tie where
  /-- To the larger decimal. -/
  | up
  /-- To the decimal whose last digit is even. -/
  | even
deriving DecidableEq, Repr

/--
The reals that round to a positive binary number. The number and the ends are counted in quarters
of the last bit.
-/
structure Interval where
  /-- The lower end. -/
  low : Nat
  /-- The number itself. -/
  centre : Nat
  /-- The upper end. -/
  high : Nat
  /-- Whether the ends round to the number too. -/
  closed : Bool

/--
The interval of a number of a format. Below a power of two the neighbour is at half the distance,
except among the numbers nearest to zero; the ends belong to an even significand.
-/
def interval (format : Format) (significand : Nat) (exponent : Int) : Interval where
  low :=
    if significand = 1 <<< (format.precision - 1) ∧ format.least < exponent then 4 * significand - 1
    else 4 * significand - 2
  centre := 4 * significand
  high := 4 * significand + 2
  closed := significand % 2 = 0

/-- Whether the ratio lies in an interval. -/
def Interval.contains (span : Interval) (numerator denominator : Nat) : Bool :=
  if span.closed then
    span.low * denominator ≤ numerator ∧ numerator ≤ span.high * denominator
  else
    span.low * denominator < numerator ∧ numerator < span.high * denominator

/-- The largest exponent whose power of ten is at most a positive ratio. -/
def log10Ratio (numerator denominator : Nat) : Int :=
  let guess : Int := (toDigits numerator).length - (toDigits denominator).length
  let (up, down) := scaleTen denominator guess
  if up ≤ numerator * down then guess else guess - 1

/--
The grid point of `10 ^ scale` that lies in the interval and is nearest to its centre, if one of the
two points around the centre does. The quarter of the last bit is `2 ^ (exponent - 2)`.
-/
def onGrid (tie : Tie) (span : Interval) (exponent scale : Int) : Option Nat :=
  let (up, down) := Binary.scaleTwo 1 1 (exponent - 2)
  let (tenUp, tenDown) := scaleTen 1 scale
  let point := tenUp * down
  let quarter := up * tenDown
  let below := span.centre * quarter / point
  let rest := span.centre * quarter % point
  let belowFits := span.contains (below * point) quarter
  let aboveFits := span.contains ((below + 1) * point) quarter
  let nearerAbove : Bool :=
    if 2 * rest = point then tie = .up ∨ below % 2 = 1 else point < 2 * rest
  if belowFits && aboveFits then some (if nearerAbove then below + 1 else below)
  else if belowFits then some below
  else if aboveFits then some (below + 1)
  else none

/-- Digits and scale without the zeros at the end of the digits; at most `steps` are taken off. -/
def trimZeros : Nat → Nat × Int → Nat × Int
  | 0, decimal => decimal
  | steps + 1, (digits, scale) =>
    if digits ≠ 0 ∧ digits % 10 = 0 then trimZeros steps (digits / 10, scale + 1)
    else (digits, scale)

/-- A number of digits that suffices for every number of a format. -/
def enoughDigits (format : Format) : Nat :=
  format.precision / 3 + 2

/--
The shortest decimal that rounds to the positive number `significand * 2 ^ exponent`, as digits and
the power of ten that they are multiplied by.
-/
def shortest (tie : Tie) (format : Format) (significand : Nat) (exponent : Int) : Nat × Int :=
  let span := interval format significand exponent
  let (up, down) := Binary.scaleTwo significand 1 exponent
  let leading := log10Ratio up down
  let grids := (List.range (enoughDigits format)).map fun (place : Nat) => leading - place
  let found := grids.findSome? fun scale => (onGrid tie span exponent scale).map (·, scale)
  trimZeros (enoughDigits format) (found.getD (0, 0))

end TransientFuel.Decimal
