import DepositDirectory.Text.Unseen

/-!
# Quoted text

Text for a reader of logs and messages, in double quotes.  The quote and the backslash get a
backslash, four control characters have short escapes, and every other character that cannot be seen
is written as its code point in hexadecimal.
-/

namespace DepositDirectory.Text

def hexText (n : Nat) : List Char :=
  Nat.toDigits 16 n

def quotedChar (c : Char) : List Char :=
  if c = '"' then ['\\', '"']
  else if c = '\\' then ['\\', '\\']
  else if c = '\n' then ['\\', 'n']
  else if c = '\r' then ['\\', 'r']
  else if c = '\t' then ['\\', 't']
  else if c = '\x00' then ['\\', '0']
  else if isUnseen c then ['\\', 'u', '\x7b'] ++ hexText c.toNat ++ ['\x7d']
  else [c]

def quoted (text : String) : String :=
  String.ofList ('"' :: text.toList.flatMap quotedChar ++ ['"'])

/-- An optional text: `Some` around the quoted text, or `None`. -/
def quotedOption : Option String → String
  | some text => "Some(" ++ quoted text ++ ")"
  | none => "None"

end DepositDirectory.Text
