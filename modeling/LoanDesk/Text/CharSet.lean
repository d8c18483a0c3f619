/-!
# Sets of characters

A set of characters is given by ranges of code points.  Properties of characters that no rule
decides are such sets.
-/

namespace LoanDesk.Text

/-- A set of characters as ranges of code points in increasing order, both ends included. -/
structure CharSet where
  ranges : List (Nat × Nat)

namespace CharSet

/-- Whether a character is in the set. -/
def contains (s : CharSet) (c : Char) : Bool :=
  s.ranges.any fun range => range.1 ≤ c.toNat && c.toNat ≤ range.2

end CharSet

end LoanDesk.Text
