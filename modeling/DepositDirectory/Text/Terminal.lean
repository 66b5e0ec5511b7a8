/-!
# Terminal sequences

Text for a terminal holds sequences that move, colour or name things and are no text themselves.
They start with an escape and take one of a few forms, each with its own end.  Where no terminal
reads along, text is shown without them, and without controls that are no blanks.
-/

namespace DepositDirectory.Text

/-- The form of the sequence that is open. -/
inductive Sequence where
  | none
  /-- After an escape. -/
  | escape
  /-- After an escape and a character of the second column, which leaves one form. -/
  | escapeSet
  /-- With numbers, up to a letter. -/
  | control
  /-- A string with numbers in front, up to the letter before the string. -/
  | deviceStart
  | deviceNumbers
  | deviceSet
  /-- A string, up to its terminator. -/
  | string
  /-- A string that a bell ends. -/
  | title
  deriving DecidableEq

namespace Sequence

/-- Whether a code point lies in a range, both ends included. -/
def within (n low high : Nat) : Bool := low ≤ n && n ≤ high

def ofOpening (n : Nat) : Sequence :=
  if within n 0x20 0x2F then escapeSet
  else if n = 0x5B then control
  else if n = 0x5D then title
  else if n = 0x50 then deviceStart
  else if n = 0x58 || n = 0x5E || n = 0x5F then string
  else if within n 0x30 0x7E then none
  else escape

def holdsTerminator (c : Char) : Bool :=
  c.utf8Size = 2 && c.toNat % 64 = 0x1C ||
    c.utf8Size = 3 && (c.toNat % 64 = 0x1C || c.toNat / 64 % 64 = 0x1C) ||
    c.utf8Size = 4 &&
      (c.toNat % 64 = 0x1C || c.toNat / 64 % 64 = 0x1C || c.toNat / 4096 % 64 = 0x1C)

def next (sequence : Sequence) (c : Char) : Sequence :=
  let n := c.toNat
  if n = 0x1B then escape
  else if n = 0x18 || n = 0x1A then none
  else
    match sequence with
    | none => none
    | escape => ofOpening n
    | escapeSet => if within n 0x30 0x7E then none else escapeSet
    | control => if within n 0x40 0x7E then none else control
    | deviceStart =>
        if within n 0x40 0x7E then string
        else if within n 0x30 0x3F then deviceNumbers
        else if within n 0x20 0x2F then deviceSet
        else deviceStart
    | deviceNumbers =>
        if within n 0x3C 0x7E then string
        else if within n 0x20 0x2F then deviceSet
        else deviceNumbers
    | deviceSet => if within n 0x30 0x7E then string else deviceSet
    | string => if holdsTerminator c then none else string
    | title => if n = 0x07 then none else title

/-- Whether a sequence gives way to a blank that is no space. -/
def yields : Sequence → Bool
  | escape => true
  | escapeSet => true
  | control => true
  | _ => false

end Sequence

def isBlankControl (c : Char) : Bool :=
  c = '\t' || c = '\n' || c = '\x0c' || c = '\r'

def isShown (c : Char) : Bool :=
  isBlankControl c || (0x20 ≤ c.toNat && c.toNat ≠ 0x7F)

/--
Text without its sequences.  A sequence that has given way to a blank is over; in a stream, it is
taken up again after the text that follows the blank, unless that text left ASCII.
-/
def shownFrom (stream : Bool) : (showing : Bool) → Sequence → List Char → List Char
  | _, _, [] => []
  | showing, sequence, c :: rest =>
      let shows := showing || sequence = .none || (sequence.yields && isBlankControl c)
      if shows && isShown c then
        c :: shownFrom stream true (if stream && c.toNat < 0x80 then sequence else .none) rest
      else shownFrom stream false (sequence.next c) rest

def withoutSequences (text : String) : String :=
  String.ofList (shownFrom false false .none text.toList)

/-- A text as it comes out of a stream that takes sequences away. -/
def streamed (text : String) : String :=
  String.ofList (shownFrom true false .none text.toList)

end DepositDirectory.Text
