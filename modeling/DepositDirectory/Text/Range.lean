/-!
# Ranges of code points

Properties of characters that are standard data are held as lists of closed ranges of code points.
-/

namespace DepositDirectory.Text

/-- The code points from `first` to `last`, both included. -/
structure Range where
  first : Nat
  last : Nat

def Range.anyHolds (ranges : List Range) (c : Char) : Bool :=
  ranges.any fun range => range.first ≤ c.toNat && c.toNat ≤ range.last

end DepositDirectory.Text
