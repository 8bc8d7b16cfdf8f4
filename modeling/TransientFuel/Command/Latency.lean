/-!
# The time that ticks take

Times are whole numbers of nanoseconds. Their mean and their standard deviation are shown with one
place behind the point, a half rounded up.
-/

namespace TransientFuel.Latency

/-- The square root of a number, found from the top bit down, with this many bits to go. -/
def squareRootFrom (number : Nat) : Nat → Nat → Nat
  | 0, root => root
  | bits + 1, root =>
    let higher := root + 1 <<< bits
    squareRootFrom number bits (if higher * higher ≤ number then higher else root)

/-- The whole part of the square root of a number. -/
def squareRoot (number : Nat) : Nat :=
  squareRootFrom number (number.log2 / 2 + 1) 0

/-- The nearest whole number to a quotient, zero if there is none. -/
def nearestQuotient (numerator denominator : Nat) : Nat :=
  (2 * numerator + denominator) / (2 * denominator)

/-- The sum of some times. -/
def total (times : List Nat) : Nat :=
  times.foldl (· + ·) 0

/-- The mean in tenths. -/
def meanTenths (times : List Nat) : Nat :=
  nearestQuotient (10 * total times) times.length

/-- The standard deviation of a sample in tenths, zero for less than two times. -/
def deviationTenths (times : List Nat) : Nat :=
  let count := times.length
  let squares := total (times.map fun time => time * time)
  let spread := count * squares - total times * total times
  nearestQuotient (squareRoot (400 * spread / (count * (count - 1)))) 2

/-- A number of tenths with a point. -/
def showTenths (tenths : Nat) : String :=
  s!"{tenths / 10}.{tenths % 10}"

/-- The line about some times. -/
def line (times : List Nat) : String :=
  s!"Latency min/avg/max/stdev (ns): {times.min?.getD 0} / " ++ showTenths (meanTenths times) ++
    s!" / {times.max?.getD 0} / " ++ showTenths (deviationTenths times)

end TransientFuel.Latency
