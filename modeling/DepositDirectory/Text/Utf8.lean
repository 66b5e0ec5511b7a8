/-!
# Bytes of text

Text is sent as UTF-8.  Bytes that are read as UTF-8 always give a text: what is no well-formed
character becomes a replacement character, one for the longest run of bytes that could have started
one.
-/

namespace DepositDirectory.Text

def utf8 (cs : List Char) : List UInt8 :=
  cs.flatMap String.utf8EncodeChar

def replacement : Char := '\uFFFD'

def isContinuation (byte : UInt8) : Bool :=
  0x80 ≤ byte && byte ≤ 0xBF

def appendBits (value : Nat) (byte : UInt8) : Nat :=
  value * 64 + byte.toNat % 64

def followers? (first : UInt8) : Option (Nat × UInt8 × UInt8) :=
  if 0xC2 ≤ first && first ≤ 0xDF then some (1, 0x80, 0xBF)
  else if first = 0xE0 then some (2, 0xA0, 0xBF)
  else if first = 0xED then some (2, 0x80, 0x9F)
  else if 0xE1 ≤ first && first ≤ 0xEF then some (2, 0x80, 0xBF)
  else if first = 0xF0 then some (3, 0x90, 0xBF)
  else if first = 0xF4 then some (3, 0x80, 0x8F)
  else if 0xF1 ≤ first && first ≤ 0xF3 then some (3, 0x80, 0xBF)
  else none

/--
Take up to `count` following bytes: the value so far, how many are lacking, and how many there were.
-/
def takeContinuations (value : Nat) : (count : Nat) → List UInt8 → Nat × Nat × Nat
  | 0, _ => (value, 0, 0)
  | count + 1, [] => (value, count + 1, 0)
  | count + 1, byte :: rest =>
      if isContinuation byte then
        let (value, lacking, taken) := takeContinuations (appendBits value byte) count rest
        (value, lacking, taken + 1)
      else (value, count + 1, 0)

def firstBits (count : Nat) (first : UInt8) : Nat :=
  first.toNat % Nat.pow 2 (6 - count)

/--
The character that starts with a byte, if it is well formed, and how many bytes after it it takes.
-/
def readScalar (first : UInt8) (rest : List UInt8) : Option Char × Nat :=
  if first < 0x80 then (some (Char.ofNat first.toNat), 0)
  else
    match followers? first with
    | none => (none, 0)
    | some (count, low, high) =>
        match rest with
        | [] => (none, 0)
        | second :: more =>
            if low ≤ second && second ≤ high then
              let start := appendBits (firstBits count first) second
              let (value, lacking, taken) := takeContinuations start (count - 1) more
              (if lacking = 0 then some (Char.ofNat value) else none, taken + 1)
            else (none, 0)

def ofUtf8 : List UInt8 → List Char
  | [] => []
  | first :: rest =>
      let (c?, taken) := readScalar first rest
      c?.getD replacement :: ofUtf8 (rest.drop taken)
termination_by bytes => bytes.length
decreasing_by rw [List.length_drop, List.length_cons]; omega

/-- Read bytes as UTF-8, unless a character is not well formed. -/
def ofUtf8? : List UInt8 → Option (List Char)
  | [] => some []
  | first :: rest =>
      match readScalar first rest with
      | (some c, taken) => (ofUtf8? (rest.drop taken)).map (c :: ·)
      | (none, _) => none
termination_by bytes => bytes.length
decreasing_by rw [List.length_drop, List.length_cons]; omega

end DepositDirectory.Text
