import DepositDirectory.Json.Value

/-!
# Writing JSON text

A value has two written forms.  The compact one has no blanks at all; the pretty one gives every
element and every member a line of its own, two spaces deeper than what holds it, and keeps empty
lists and objects closed up.  Strings escape the quote, the backslash and the control characters and
nothing else.
-/

namespace DepositDirectory.Json

def hexDigit (n : Nat) : Char :=
  if n < 10 then Char.ofNat ('0'.toNat + n) else Char.ofNat ('a'.toNat + (n - 10))

def escapedChar (c : Char) : List Char :=
  if c = '"' then ['\\', '"']
  else if c = '\\' then ['\\', '\\']
  else if c = '\x08' then ['\\', 'b']
  else if c = '\x0c' then ['\\', 'f']
  else if c = '\n' then ['\\', 'n']
  else if c = '\r' then ['\\', 'r']
  else if c = '\t' then ['\\', 't']
  else if c.toNat < 0x20 then
    ['\\', 'u', '0', '0', hexDigit (c.toNat / 16), hexDigit (c.toNat % 16)]
  else [c]

def textChars (content : String) : List Char :=
  '"' :: content.toList.flatMap escapedChar ++ ['"']

/-- The blanks of a written form: what comes before each line, and what comes after a colon. -/
inductive Layout where
  | compact
  | pretty
  deriving DecidableEq

def Layout.lineBreak (layout : Layout) (depth : Nat) : List Char :=
  match layout with
  | .compact => []
  | .pretty => '\n' :: List.replicate (2 * depth) ' '

def Layout.colon (layout : Layout) : List Char :=
  match layout with
  | .compact => [':']
  | .pretty => [':', ' ']

mutual

/-- A value as it is written `depth` levels deep. -/
def Value.chars (layout : Layout) (depth : Nat) : Value → List Char
  | .null => ['n', 'u', 'l', 'l']
  | .natural n => n.repr.toList
  | .text content => textChars content
  | .list [] => ['[', ']']
  | .list (item :: rest) =>
      '[' :: layout.lineBreak (depth + 1) ++ item.chars layout (depth + 1) ++
        restItemChars layout (depth + 1) rest ++ layout.lineBreak depth ++ [']']
  | .object [] => ['\x7b', '\x7d']
  | .object ((key, value) :: rest) =>
      '\x7b' :: layout.lineBreak (depth + 1) ++ textChars key ++ layout.colon ++
        value.chars layout (depth + 1) ++ restMemberChars layout (depth + 1) rest ++
        layout.lineBreak depth ++ ['\x7d']

def restItemChars (layout : Layout) (depth : Nat) : List Value → List Char
  | [] => []
  | item :: rest =>
      ',' :: layout.lineBreak depth ++ item.chars layout depth ++ restItemChars layout depth rest

def restMemberChars (layout : Layout) (depth : Nat) : List (String × Value) → List Char
  | [] => []
  | (key, value) :: rest =>
      ',' :: layout.lineBreak depth ++ textChars key ++ layout.colon ++
        value.chars layout depth ++ restMemberChars layout depth rest

end

/-- The text of a value without blanks. -/
def Value.compact (value : Value) : String :=
  String.ofList (value.chars .compact 0)

/-- The text of a value in lines. -/
def Value.pretty (value : Value) : String :=
  String.ofList (value.chars .pretty 0)

end DepositDirectory.Json
