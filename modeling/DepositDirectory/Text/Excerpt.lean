/-!
# Excerpts of long texts

A text longer than a limit is shortened to its first and last characters around three dots.  The two
ends have the same length, half of what the limit leaves beside the dots, so a limit under three
leaves the dots alone.
-/

namespace DepositDirectory.Text

def excerptEnd (limit : Nat) : Nat :=
  (limit - 3) / 2

/-- The text itself when it has at most `limit` characters, else its two ends around three dots. -/
def excerptChars (limit : Nat) (cs : List Char) : List Char :=
  if cs.length ≤ limit then cs
  else
    cs.take (excerptEnd limit) ++ ['.', '.', '.'] ++ cs.drop (cs.length - excerptEnd limit)

/-- An excerpt of a text. -/
def excerpt (limit : Nat) (text : String) : String :=
  String.ofList (excerptChars limit text.toList)

end DepositDirectory.Text
