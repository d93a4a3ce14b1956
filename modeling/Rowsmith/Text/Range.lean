/-!
# Ranges of code points

Properties of characters are held as ascending lists of disjoint ranges.
-/

namespace Rowsmith.Text

/-- Whether a code point lies in one of the ascending ranges. -/
def inRanges : List (Nat × Nat) → Nat → Bool
  | [], _ => false
  | (low, high) :: rest, n => if n < low then false else n ≤ high || inRanges rest n

end Rowsmith.Text
