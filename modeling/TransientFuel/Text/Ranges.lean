/-!
# Ranges of characters

A class of characters is a list of closed ranges of code points, ascending and apart.
-/

namespace TransientFuel.Text

/-- Whether a character lies in one of the ranges. -/
def inRanges (ranges : List (Nat × Nat)) (c : Char) : Bool :=
  ranges.any fun (low, high) => low ≤ c.toNat ∧ c.toNat ≤ high

end TransientFuel.Text
