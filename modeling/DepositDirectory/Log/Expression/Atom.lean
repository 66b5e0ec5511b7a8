import DepositDirectory.Text.Blank
import DepositDirectory.Url.Host

/-!
# Atoms of regular expressions

An atom is the least part of an expression: a character as it is written or escaped, a class of
characters with a letter for its name, or a place between characters.  The modes in force decide
which blanks and comments are passed over, and which atoms are allowed: no table of Unicode is at
hand, so what would look one up is refused, and so is what could match half a character.
-/

namespace DepositDirectory.Log.Expression

open Text (isBlank)

/-- The modes in which a part of an expression is read. -/
structure Modes where
  /-- Case does not matter. -/
  caseless : Bool
  /-- Characters are those of Unicode, not bytes. -/
  unicode : Bool
  /-- Blanks and comments between atoms are passed over. -/
  spaced : Bool
  deriving DecidableEq

namespace Modes

def usual : Modes := ⟨false, true, false⟩

/-- What follows blanks and comments; a comment ends with its line. -/
def passOver : (inComment : Bool) → List Char → List Char
  | _, [] => []
  | true, c :: rest => passOver (c ≠ '\n') rest
  | false, c :: rest =>
      if isBlank c then passOver false rest
      else if c = '#' then passOver true rest
      else c :: rest

def skip (modes : Modes) (cs : List Char) : List Char :=
  if modes.spaced then passOver false cs else cs

def glimpse? : (marked : Bool) → List Char → Option Char
  | _, [] => none
  | marked, c :: rest =>
      if isBlank c then glimpse? marked rest
      else if c = '#' && !marked then glimpse? true rest
      else some c

/-- The character that counts as the next one when only looked at: a comment is looked into. -/
def peek? (modes : Modes) (cs : List Char) : Option Char :=
  if modes.spaced then (glimpse? false cs).or cs.head? else cs.head?

def set (modes : Modes) (flag : Char) (on : Bool) : Modes :=
  if flag = 'i' then { modes with caseless := on }
  else if flag = 'u' then { modes with unicode := on }
  else if flag = 'x' then { modes with spaced := on }
  else modes

end Modes

/-- The least part of an expression. -/
inductive Atom where
  /-- A character; with two hexadecimal digits it can be written as a byte. -/
  | character (c : Char) (byte : Bool)
  | any
  /-- Digits, blanks or the characters of words, or all but those. -/
  | kind (negated : Bool)
  /-- Characters with a property. -/
  | property
  /-- An end of a line or of the text. -/
  | bound
  /-- A place at the edge of a word or inside it. -/
  | wordEdge
  deriving DecidableEq

namespace Atom

def isAllowed (modes : Modes) : Atom → Bool
  | character c byte => if modes.unicode then !modes.caseless else !byte || c.toNat < 0x80
  | any => modes.unicode
  | kind negated => !modes.unicode && !negated
  | property => false
  | bound => true
  | wordEdge => !modes.unicode

/-- The character that the code point of hexadecimal digits is, if there is one. -/
def ofCodePoint? (n : Nat) : Option Char :=
  if h : n.isValidChar then some ⟨n.toUInt32, (by
    have small : n < 4294967296 := by
      simp only [Nat.isValidChar] at h
      omega
    simpa [UInt32.isValidChar, Nat.toUInt32, UInt32.toNat_ofNat, Nat.mod_eq_of_lt small] using h)⟩
  else none

/-- Read hexadecimal digits after one another, with blanks that do not count between them. -/
def readHex? (modes : Modes) : (left value : Nat) → List Char → Option (Nat × List Char)
  | 0, value, cs => some (value, cs)
  | left + 1, value, cs =>
      match cs with
      | [] => none
      | c :: rest => do
          let digit ← Url.digitIn? 16 c
          readHex? modes left (value * 16 + digit) (modes.skip rest)

def readCodePoint? (modes : Modes) (digits : Nat) (cs : List Char) :
    Option (Atom × List Char) := do
  let (value, rest) ← readHex? modes digits 0 (modes.skip cs)
  let c ← ofCodePoint? value
  return (character c (digits = 2), rest)

def controlOf? (c : Char) : Option Char :=
  [('a', '\x07'), ('f', '\x0c'), ('t', '\t'), ('n', '\n'), ('r', '\r'), ('v', '\x0b')].lookup c

def readEscaped? (modes : Modes) : List Char → Option (Atom × List Char)
  | [] => none
  | c :: rest =>
      match controlOf? c with
      | some control => some (character control false, rest)
      | none =>
          if c = 'x' then readCodePoint? modes 2 rest
          else if c = 'u' then readCodePoint? modes 4 rest
          else if c = 'U' then readCodePoint? modes 8 rest
          else if "dsw".toList.contains c then some (kind false, rest)
          else if "DSW".toList.contains c then some (kind true, rest)
          else if c = 'p' || c = 'P' then some (property, rest)
          else if c = 'A' || c = 'z' then some (bound, rest)
          else if "bB<>".toList.contains c then some (wordEdge, rest)
          else if c.isAlphanum || 0x80 ≤ c.toNat then none
          else some (character c false, rest)

def read? (modes : Modes) : List Char → Option (Atom × List Char)
  | [] => none
  | '\\' :: rest => readEscaped? modes rest
  | '.' :: rest => some (any, rest)
  | '^' :: rest => some (bound, rest)
  | '$' :: rest => some (bound, rest)
  | c :: rest => some (character c false, rest)

end Atom

end DepositDirectory.Log.Expression
