import DepositDirectory.Text.Utf8

/-!
# Percent escapes

In a URL a byte can be written as a percent sign and two hexadecimal digits.  Each part of a URL has
its own characters that have to be written so; controls and everything outside ASCII are escaped in
all of them.
-/

namespace DepositDirectory.Url

open Text (utf8)

def upperHexDigit (n : Nat) : Char :=
  if n < 10 then Char.ofNat ('0'.toNat + n) else Char.ofNat ('A'.toNat + (n - 10))

def escapedByte (byte : UInt8) : List Char :=
  ['%', upperHexDigit (byte.toNat / 16), upperHexDigit (byte.toNat % 16)]

/-- Whether a character is escaped in every part: a control, or not ASCII. -/
def isAlwaysEscaped (c : Char) : Bool :=
  c.toNat < 0x20 || 0x7E < c.toNat

/-- Escape the characters of a set, and those that always are. -/
def percentEncode (set : List Char) (cs : List Char) : List Char :=
  cs.flatMap fun c =>
    if isAlwaysEscaped c || set.contains c then (utf8 [c]).flatMap escapedByte else [c]

def fragmentSet : List Char := [' ', '"', '<', '>', '\x60']

def pathSet : List Char := fragmentSet ++ ['#', '?', '\x7b', '\x7d']

def segmentSet : List Char := pathSet ++ ['/', '%']

/-- What is escaped in a component that is added to the path of a web address. -/
def webSegmentSet : List Char := segmentSet ++ ['\\']

def userSet : List Char := pathSet ++ ['/', ':', ';', '=', '@', '[', '\\', ']', '^', '|']

def querySet : List Char := [' ', '"', '#', '<', '>']

def webQuerySet : List Char := querySet ++ ['\'']

def hexByte? (byte : UInt8) : Option Nat :=
  if 0x30 ≤ byte && byte ≤ 0x39 then some (byte.toNat - 0x30)
  else if 0x41 ≤ byte && byte ≤ 0x46 then some (byte.toNat - 0x41 + 10)
  else if 0x61 ≤ byte && byte ≤ 0x66 then some (byte.toNat - 0x61 + 10)
  else none

/-- Undo the escapes in bytes; a percent sign without two digits stands for itself. -/
def percentDecode : List UInt8 → List UInt8
  | [] => []
  | [a] => [a]
  | [a, b] => [a, b]
  | a :: b :: c :: rest =>
      if a = 0x25 then
        match hexByte? b, hexByte? c with
        | some high, some low => UInt8.ofNat (high * 16 + low) :: percentDecode rest
        | _, _ => a :: percentDecode (b :: c :: rest)
      else a :: percentDecode (b :: c :: rest)

end DepositDirectory.Url
