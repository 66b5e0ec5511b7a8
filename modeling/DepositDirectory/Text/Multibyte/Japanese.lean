import DepositDirectory.Text.Chart.Jis0208
import DepositDirectory.Text.Chart.Jis0212
import DepositDirectory.Text.Multibyte.Taken

/-!
# Japanese bytes

Shift JIS and EUC-JP tell kana and kanji from ASCII by their first byte.  ISO-2022-JP has no bytes
above ASCII: escape sequences tell which set the bytes after them are of.
-/

namespace DepositDirectory.Text

def halfKana (number : Nat) : Char :=
  Char.ofNat (0xFF61 + number)

/-! ## Shift JIS -/

def shiftJisText? (lead trail : UInt8) : Option (List Char) :=
  if isWithin 0x40 0x7E trail || isWithin 0x80 0xFC trail then
    let row := lead.toNat - if lead < 0xA0 then 0x81 else 0xC1
    let column := trail.toNat - if trail < 0x7F then 0x40 else 0x41
    (jis0208.char? (row * 188 + column)).map ([·])
  else none

def takeShiftJis (byte : UInt8) (rest : List UInt8) : Taken :=
  if byte ≤ 0x80 then .single (asciiChar byte)
  else if isWithin 0xA1 0xDF byte then .single (halfKana (byte.toNat - 0xA1))
  else if isWithin 0x81 0x9F byte || isWithin 0xE0 0xFC byte then .pair shiftJisText? byte rest
  else .broken 0

/-! ## EUC-JP -/

/-- The character of a row and a column of a chart, both numbered from a first byte. -/
def cell? (chart : Chart) (first lead trail : UInt8) : Option Char :=
  if isWithin first (first + 93) lead && isWithin first (first + 93) trail then
    chart.char? ((lead.toNat - first.toNat) * 94 + (trail.toNat - first.toNat))
  else none

def eucJpText? (lead trail : UInt8) : Option (List Char) :=
  if lead = 0x8E && isWithin 0xA1 0xDF trail then some [halfKana (trail.toNat - 0xA1)]
  else (cell? jis0208 0xA1 lead trail).map ([·])

/-- What is taken at a byte that says that the next two are of the second chart. -/
def takeSupplement : List UInt8 → Taken
  | [] => .broken 0
  | lead :: rest =>
      if isWithin 0xA1 0xFE lead then
        match rest with
        | [] => .broken 1
        | trail :: _ =>
            match cell? jis0212 0xA1 lead trail with
            | some c => ⟨[c], 2⟩
            | none => .brokenAt 1 trail
      else .brokenAt 0 lead

def takeEucJp (byte : UInt8) (rest : List UInt8) : Taken :=
  if byte < 0x80 then .single (asciiChar byte)
  else if byte = 0x8F then takeSupplement rest
  else if byte = 0x8E || isWithin 0xA1 0xFE byte then .pair eucJpText? byte rest
  else .broken 0

/-! ## ISO-2022-JP -/

inductive Designation where
  | ascii
  /-- ASCII with two signs in other places. -/
  | roman
  | kana
  | kanji
  deriving DecidableEq

namespace Designation

def ofBytes? (first second : UInt8) : Option Designation :=
  if first = 0x28 then
    if second = 0x42 then some ascii
    else if second = 0x4A then some roman
    else if second = 0x49 then some kana
    else none
  else if first = 0x24 && (second = 0x40 || second = 0x42) then some kanji
  else none

/-- The character of a byte, in a set with one byte a character. -/
def char? (designation : Designation) (byte : UInt8) : Option Char :=
  match designation with
  | .ascii => plain?
  | .roman => if byte = 0x5C then some '¥' else if byte = 0x7E then some '‾' else plain?
  | .kana => if isWithin 0x21 0x5F byte then some (halfKana (byte.toNat - 0x21)) else none
  | .kanji => none
where
  /-- The character of an ASCII byte that shifts to no other set. -/
  plain? : Option Char :=
    if byte < 0x80 && byte ≠ 0x0E && byte ≠ 0x0F then some (asciiChar byte) else none

end Designation

def takeDesignated (designation : Designation) (byte : UInt8) (rest : List UInt8) : Taken :=
  if designation = .kanji && isWithin 0x21 0x7E byte then
    match rest with
    | [] => .broken 0
    | trail :: _ =>
        if trail = 0x1B then .broken 0
        else ⟨[(cell? jis0208 0x21 byte trail).getD replacement], 1⟩
  else .single ((designation.char? byte).getD replacement)

/--
Read bytes of ISO-2022-JP, of the set that was last chosen.  An escape sequence with no text after
the one before it could hide something, so that it is no character.
-/
def readDesignated (designation : Designation) (isFresh : Bool) : List UInt8 → List Char
  | [] => []
  | byte :: rest =>
      if byte = 0x1B then
        match chosen? rest with
        | some next =>
            (if isFresh then [replacement] else []) ++ readDesignated next true (rest.drop 2)
        | none => replacement :: readDesignated designation false rest
      else
        let taken := takeDesignated designation byte rest
        taken.text ++ readDesignated designation false (rest.drop taken.more)
termination_by bytes => bytes.length
decreasing_by all_goals simp only [List.length_drop, List.length_cons]; omega
where
  /-- The set that the bytes after an escape choose. -/
  chosen? : List UInt8 → Option Designation
    | first :: second :: _ => Designation.ofBytes? first second
    | _ => none

end DepositDirectory.Text
