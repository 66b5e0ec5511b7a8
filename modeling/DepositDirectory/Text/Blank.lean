/-!
# Blank characters and trimming

A character is blank when it has the Unicode property `White_Space`; there are 25 of them.
Zero-width characters and the information separators are not blank.  Trimming drops the blank
characters at both ends of a text and keeps the ones inside.
-/

namespace DepositDirectory.Text

/-- The code points with the Unicode property `White_Space`. -/
def isBlank (c : Char) : Bool :=
  let n := c.toNat
  (0x09 ≤ n && n ≤ 0x0D) || n == 0x20 || n == 0x85 || n == 0xA0 || n == 0x1680 ||
    (0x2000 ≤ n && n ≤ 0x200A) || n == 0x2028 || n == 0x2029 || n == 0x202F || n == 0x205F ||
    n == 0x3000

def trimStart (cs : List Char) : List Char :=
  cs.dropWhile isBlank

def trimEnd (cs : List Char) : List Char :=
  (cs.reverse.dropWhile isBlank).reverse

/-- Drop the blank characters at both ends of a character list. -/
def trimChars (cs : List Char) : List Char :=
  trimEnd (trimStart cs)

def trim (text : String) : String :=
  String.ofList (trimChars text.toList)

end DepositDirectory.Text
