import DepositDirectory.Text.Utf8

/-!
# Reading a character at a time

A byte by itself, or the first of several, gives the characters at the front of a text.  Bytes that
are no character give one replacement character together.  An ASCII byte at the end of those is left
to be read by itself, so that a broken character hides none of the signs that a text is built with.
-/

namespace DepositDirectory.Text

/-- What is taken at a byte: its text, and how many bytes after it belong to it. -/
structure Taken where
  text : List Char
  more : Nat
  deriving DecidableEq

namespace Taken

def single (c : Char) : Taken := ⟨[c], 0⟩

/-- A byte, and so many after it, that are no character. -/
def broken (more : Nat) : Taken := ⟨[replacement], more⟩

/-- A byte, so many after it, and a last one, that are no character. -/
def brokenAt (between : Nat) (last : UInt8) : Taken :=
  broken (if last < 0x80 then between else between + 1)

def pair (text? : UInt8 → UInt8 → Option (List Char)) (lead : UInt8) : List UInt8 → Taken
  | [] => broken 0
  | trail :: _ =>
      match text? lead trail with
      | some text => ⟨text, 1⟩
      | none => brokenAt 0 trail

end Taken

def readBy (take : UInt8 → List UInt8 → Taken) : List UInt8 → List Char
  | [] => []
  | byte :: rest =>
      let taken := take byte rest
      taken.text ++ readBy take (rest.drop taken.more)
termination_by bytes => bytes.length
decreasing_by rw [List.length_drop, List.length_cons]; omega

def asciiChar (byte : UInt8) : Char :=
  Char.ofNat byte.toNat

def isWithin (first last byte : UInt8) : Bool :=
  first ≤ byte && byte ≤ last

end DepositDirectory.Text
