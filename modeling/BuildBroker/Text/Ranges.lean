/-!
# Ranges of Characters

Properties of characters are given as lists of ranges of their numbers.
-/

namespace BuildBroker.Text

/-- Whether the number lies in one of the ranges, bounds included. -/
def inRanges (ranges : List (Nat × Nat)) (n : Nat) : Bool :=
  ranges.any fun r => r.1 ≤ n && n ≤ r.2

end BuildBroker.Text
