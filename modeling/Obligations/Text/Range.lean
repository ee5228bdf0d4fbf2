/-! # Ranges of code points

A property of characters is stored as the list of its ranges, in increasing order. Nothing here
depends on which property it is.
-/

namespace Obligations.Text

/-- All code points from `first` to `last`, both included. -/
structure CodeRange where
  first : Nat
  last : Nat
deriving DecidableEq, Repr

namespace CodeRange

def contains (range : CodeRange) (code : Nat) : Bool :=
  range.first ≤ code && code ≤ range.last

end CodeRange

/-- A character has a property when one of its ranges holds the character. -/
def inRanges (ranges : List CodeRange) (c : Char) : Bool :=
  ranges.any (·.contains c.toNat)

end Obligations.Text
