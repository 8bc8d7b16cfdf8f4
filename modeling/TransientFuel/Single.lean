/-!
# Single-precision readings

Every sensor reading and every correction is a single-precision number. This file adds the
operations on them that the enrichment needs beyond arithmetic: maxima and minima that step over
missing numbers, and the total order used to sort bin positions.
-/

namespace TransientFuel.Single

/-- The larger of two numbers; one that is not a number gives way to the other. -/
def larger (left right : Float32) : Float32 :=
  if left.isNaN then right
  else if right.isNaN then left
  else if left < right then right
  else left

/-- The smaller of two numbers; one that is not a number gives way to the other. -/
def smaller (left right : Float32) : Float32 :=
  if left.isNaN then right
  else if right.isNaN then left
  else if right < left then right
  else left

/-- Whether the sign is minus, which holds of negative zero too. -/
def isNegative (x : Float32) : Bool :=
  0x80000000 ≤ x.toBits.toNat

/--
The rank of a number in the total order of all bit patterns: negative numbers lie below positive
ones and negative zero lies just below zero.
-/
def rank (x : Float32) : Int :=
  if isNegative x then 0x7fffffff - (x.toBits.toNat : Int) else x.toBits.toNat

/-- Comparison by rank. -/
def rankLe (left right : Float32) : Bool :=
  rank left ≤ rank right

end TransientFuel.Single
