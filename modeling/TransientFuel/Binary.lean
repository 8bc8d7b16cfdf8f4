/-!
# Binary floating-point values

Numbers in text are read and written exactly: as a whole number times a power of two. This file
holds the two formats involved, single and double precision, the rounding of a ratio to the nearest
value of a format with ties to the even one, and the passage between such values and `Float32`.
-/

namespace TransientFuel.Binary

/-- A binary format: the bits of a significand and the range of the exponent of its last bit. -/
structure Format where
  /-- How many bits a significand has. -/
  precision : Nat
  /-- The exponent of the last bit of the numbers nearest to zero. -/
  least : Int
  /-- The exponent of the last bit of the largest finite numbers. -/
  greatest : Int
deriving DecidableEq, Repr

/-- Single precision. -/
def single : Format := ⟨24, -149, 104⟩

/-- Double precision. -/
def double : Format := ⟨53, -1074, 971⟩

/-- A number of some binary format. -/
inductive Value where
  /-- The number `significand * 2 ^ exponent`, negated if asked for. -/
  | finite (negative : Bool) (significand : Nat) (exponent : Int)
  /-- Positive or negative infinity. -/
  | infinite (negative : Bool)
  /-- Not a number. -/
  | notNumber
deriving DecidableEq, Repr, Inhabited

/-- The whole number nearest to a quotient, the even one if two are equally near. -/
def roundDiv (numerator denominator : Nat) : Nat :=
  let quotient := numerator / denominator
  let rest := numerator % denominator
  if 2 * rest < denominator then quotient
  else if denominator < 2 * rest then quotient + 1
  else if quotient % 2 = 0 then quotient
  else quotient + 1

/-- The ratio `numerator / denominator * 2 ^ shift` as a numerator and a denominator. -/
def scaleTwo (numerator denominator : Nat) (shift : Int) : Nat × Nat :=
  if 0 ≤ shift then (numerator <<< shift.toNat, denominator)
  else (numerator, denominator <<< (-shift).toNat)

/-- The largest exponent whose power of two is at most a positive ratio. -/
def log2Ratio (numerator denominator : Nat) : Int :=
  let guess : Int := (numerator.log2 : Int) - (denominator.log2 : Int)
  let (up, down) := scaleTwo numerator denominator (-guess)
  if down ≤ up then guess else guess - 1

namespace Format

/-- The exponent of the last bit that the format keeps of a positive ratio. -/
def lastPlace (format : Format) (numerator denominator : Nat) : Int :=
  max format.least (log2Ratio numerator denominator - format.precision + 1)

/-- The value nearest to a ratio, with ties to the even significand; too large a one is infinite. -/
def nearest (format : Format) (negative : Bool) (numerator denominator : Nat) : Value :=
  if numerator = 0 then
    .finite negative 0 format.least
  else
    let place := format.lastPlace numerator denominator
    let (up, down) := scaleTwo numerator denominator (-place)
    let rounded := roundDiv up down
    let (significand, exponent) :=
      if rounded = 1 <<< format.precision then (1 <<< (format.precision - 1), place + 1)
      else (rounded, place)
    if format.greatest < exponent then .infinite negative
    else .finite negative significand exponent

/-- The value of the format that is nearest to a value of another one. -/
def round (format : Format) : Value → Value
  | .finite negative significand exponent =>
    let (up, down) := scaleTwo significand 1 exponent
    format.nearest negative up down
  | .infinite negative => .infinite negative
  | .notNumber => .notNumber

end Format

namespace Value

/-- The number of opposite sign. -/
def negate : Value → Value
  | .finite negative significand exponent => .finite (!negative) significand exponent
  | .infinite negative => .infinite (!negative)
  | .notNumber => .notNumber

/-- The bits of a value of single precision, without its sign. -/
def magnitudeBits : Value → Nat
  | .finite _ significand exponent =>
    if significand < 0x800000 then significand
    else (exponent + 149).toNat * 0x800000 + significand
  | .infinite _ => 255 * 0x800000
  | .notNumber => 255 * 0x800000 + 0x400000

/-- Whether the sign is minus. -/
def isNegative : Value → Bool
  | .finite negative _ _ => negative
  | .infinite negative => negative
  | .notNumber => false

/-- The single-precision number nearest to a value. -/
def toSingle (value : Value) : Float32 :=
  let rounded := single.round value
  let sign := if rounded.isNegative then 0x80000000 else 0
  Float32.ofBits (UInt32.ofNat (sign + rounded.magnitudeBits))

/-- The value of a single-precision number. -/
def ofSingle (x : Float32) : Value :=
  let bits := x.toBits.toNat
  let negative := decide (0x80000000 ≤ bits)
  let magnitude := bits % 0x80000000
  let field : Nat := magnitude / 0x800000
  let fraction : Nat := magnitude % 0x800000
  if field = 255 then
    if fraction = 0 then .infinite negative else .notNumber
  else if field = 0 then
    .finite negative fraction single.least
  else
    .finite negative (0x800000 + fraction) (single.least + (field : Int) - 1)

/-- The value of a whole number. -/
def ofInt (number : Int) : Value :=
  .finite (decide (number < 0)) number.natAbs 0

end Value
end TransientFuel.Binary
