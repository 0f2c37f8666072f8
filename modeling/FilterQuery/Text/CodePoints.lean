/-!
# Sets of characters by code point

A property of characters is written as the list of its ranges, lowest first, so that a look-up can
stop at the first range above the character.
-/

namespace FilterQuery.Text

/-- A set of characters: closed ranges of code points in increasing order. -/
structure CodePoints where
  ranges : List (Nat × Nat)

/-- Whether `n` lies in one of the ranges.  The search ends at the first range above `n`. -/
def inRanges (n : Nat) : List (Nat × Nat) → Bool
  | [] => false
  | (low, high) :: rest => if n < low then false else n ≤ high || inRanges n rest

/-- Whether the character is in the set. -/
def CodePoints.contains (set : CodePoints) (c : Char) : Bool := inRanges c.toNat set.ranges

end FilterQuery.Text
