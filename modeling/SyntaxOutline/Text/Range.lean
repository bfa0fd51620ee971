/-!
# Ranges of code points

Properties of characters are tables of ranges, in ascending order and apart from each other.
-/

namespace SyntaxOutline

namespace Text

/-- Whether a number lies in one of the ranges. The search ends at the first range that starts
behind the number. -/
def inRanges : List (Nat × Nat) → Nat → Bool
  | [], _ => false
  | (low, high) :: ranges, n => low ≤ n && (n ≤ high || inRanges ranges n)

end Text

end SyntaxOutline
