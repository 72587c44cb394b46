/-!
# Ranges of characters

A property of characters is kept as the list of the ranges of code points that have it.
-/

namespace PackGuard

/-- Whether a code point is in one of the ranges, whose ends belong to them. -/
def inRanges (ranges : List (Nat × Nat)) (n : Nat) : Bool :=
  ranges.any fun r => r.1 ≤ n && n ≤ r.2

end PackGuard
