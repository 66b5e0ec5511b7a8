import DepositDirectory.Text.Split

/-!
# Images

Tables of characters and the texts that stand in for them.
-/

namespace DepositDirectory.Text

/--
The texts that stand in for the characters from `first` on, one after another, with spaces between
them.
-/
structure Images where
  first : Nat
  texts : String

def imageIn? (rows : List Images) (c : Char) : Option (List Char) := do
  let row ← (rows.takeWhile (·.first ≤ c.toNat)).getLast?
  (splitAt ' ' row.texts.toList)[c.toNat - row.first]?

end DepositDirectory.Text
