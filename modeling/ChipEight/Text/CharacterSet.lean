/-!
# Sets of characters

A set of characters is given by the ranges of code points that it covers, both
ends included.
-/

namespace ChipEight.Text

/-- A set of characters, as ranges of code points. -/
structure CharacterSet where
  /-- First and last code point of each range. -/
  ranges : List (Nat × Nat)

/-- Whether a character belongs to a set. -/
def CharacterSet.contains (set : CharacterSet) (c : Char) : Bool :=
  set.ranges.any fun range => range.1 ≤ c.toNat && c.toNat ≤ range.2

end ChipEight.Text
