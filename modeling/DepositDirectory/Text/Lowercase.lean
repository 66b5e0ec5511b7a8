import DepositDirectory.Text.CaseSpan
import DepositDirectory.Text.Letter

/-!
# Lower case

Full lower-casing of text.  A character is lower-cased on its own, with two exceptions: the capital
I with a dot becomes two characters, and a capital sigma becomes the final form at the end of a
word, that is when a character with case stands before it and none after it, ignorable characters
passed over.
-/

namespace DepositDirectory.Text

def meetsCased (cs : List Char) : Bool :=
  match cs.dropWhile isCaseIgnorable with
  | [] => false
  | c :: _ => isCased c

/--
The lower-case form of a character between the text `before` it, read backwards, and `after` it.
-/
def lowerBetween (before : List Char) (c : Char) (after : List Char) : List Char :=
  if c = 'Σ' then
    if meetsCased before && !meetsCased after then ['ς'] else ['σ']
  else if c = 'İ' then
    ['i', '\u0307']
  else
    [lowerChar c]

/-- Lower-case the characters that follow `before`, which is read backwards. -/
def lowerFrom (before : List Char) : List Char → List Char
  | [] => []
  | c :: after => lowerBetween before c after ++ lowerFrom (c :: before) after

def lowerChars (cs : List Char) : List Char :=
  lowerFrom [] cs

def lower (text : String) : String :=
  String.ofList (lowerChars text.toList)

def asciiLower (cs : List Char) : List Char :=
  cs.map Char.toLower

end DepositDirectory.Text
