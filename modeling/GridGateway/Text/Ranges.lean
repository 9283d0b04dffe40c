/-!
# Ranges of code points

A property of characters is written as the list of the closed ranges of code points that have it.
-/

namespace GridGateway.Text

/-- Whether `n` lies in one of the closed ranges. -/
def inRanges (ranges : List (Nat × Nat)) (n : Nat) : Bool :=
  ranges.any fun r => r.1 ≤ n && n ≤ r.2

end GridGateway.Text
