import DepositDirectory.Text.Blank
import DepositDirectory.Text.Lowercase

/-!
# Addresses

Addresses differ in their letters' case and in blanks around them without being different.  An
address is normalized before it is stored: trimmed, then lower-cased.  Two addresses match when they
are the same after trimming, up to the case of ASCII letters.
-/

namespace DepositDirectory.Address

/-- The form of an address in which it is stored. -/
def normalize (address : String) : String :=
  Text.lower (Text.trim address)

/-- Whether two addresses are the same, blanks around them and the case of ASCII letters apart. -/
def agree (a b : String) : Bool :=
  Text.asciiLower (Text.trimChars a.toList) = Text.asciiLower (Text.trimChars b.toList)

end DepositDirectory.Address
