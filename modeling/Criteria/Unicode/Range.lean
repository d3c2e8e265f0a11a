/-!
# Character ranges

Character classes are written as lists of code point ranges, both ends
included, in ascending order.
-/

namespace Criteria

/-- The character lies in one of the ranges. -/
def inRanges (char : Char) (ranges : List (Nat × Nat)) : Bool :=
  ranges.any fun range => range.1 ≤ char.toNat && char.toNat ≤ range.2

end Criteria
