import DepositDirectory.Text.Codepage
import DepositDirectory.Text.Lowercase
import DepositDirectory.Text.Multibyte
import DepositDirectory.Text.Utf8

/-!
# Character sets of answers

Which characters the bytes of an answer stand for: those of UTF-8, of UTF-16 in either byte order,
or of an older set with one byte or several to a character.  A byte-order mark at the front decides
over any label and is no part of the text.
-/

namespace DepositDirectory.Text

/-- A character set. -/
inductive Charset where
  | utf8
  | utf16 (bigEndian : Bool)
  | page (codepage : Codepage)
  | multibyte (set : Multibyte)
  /-- ASCII, and characters for private use above it. -/
  | ownUse
  /-- A set that is never read. -/
  | unread
  deriving DecidableEq

def units (bigEndian : Bool) : List UInt8 → List (Option Nat)
  | [] => []
  | [_] => [none]
  | a :: b :: rest =>
      some (if bigEndian then a.toNat * 256 + b.toNat else b.toNat * 256 + a.toNat) ::
        units bigEndian rest

def ofUnits : List (Option Nat) → List Char
  | [] => []
  | none :: rest => replacement :: ofUnits rest
  | some n :: rest =>
      if 0xD800 ≤ n && n ≤ 0xDBFF then
        match rest with
        | some m :: after =>
            if 0xDC00 ≤ m && m ≤ 0xDFFF then
              Char.ofNat (0x10000 + (n - 0xD800) * 0x400 + (m - 0xDC00)) :: ofUnits after
            else replacement :: ofUnits (some m :: after)
        | none :: after => replacement :: ofUnits after
        | [] => [replacement]
      else if 0xDC00 ≤ n && n ≤ 0xDFFF then replacement :: ofUnits rest
      else Char.ofNat n :: ofUnits rest
termination_by units => units.length

def Charset.read : Charset → List UInt8 → List Char
  | .utf8, bytes => ofUtf8 bytes
  | .utf16 bigEndian, bytes => ofUnits (units bigEndian bytes)
  | .page codepage, bytes => bytes.map codepage.char
  | .multibyte set, bytes => set.read bytes
  | .ownUse, bytes => bytes.map fun b => Char.ofNat (if b < 0x80 then b.toNat else 0xF700 + b.toNat)
  | .unread, bytes => if bytes = [] then [] else [replacement]

def byteOrderMark? : List UInt8 → Option (Charset × List UInt8)
  | 0xEF :: 0xBB :: 0xBF :: rest => some (.utf8, rest)
  | 0xFE :: 0xFF :: rest => some (.utf16 true, rest)
  | 0xFF :: 0xFE :: rest => some (.utf16 false, rest)
  | _ => none

/-- Read bytes in the set of their byte-order mark, or in the given one. -/
def Charset.decode (charset : Charset) (bytes : List UInt8) : String :=
  match byteOrderMark? bytes with
  | some (marked, rest) => String.ofList (marked.read rest)
  | none => String.ofList (charset.read bytes)

def utf16Labels : List String :=
  ["utf-16", "utf-16le", "csunicode", "iso-10646-ucs-2", "ucs-2", "unicode", "unicodefeff"]

/-- The labels of sets that are never read, because what they hide could be read in two ways. -/
def unreadLabels : List String :=
  ["replacement", "csiso2022kr", "hz-gb-2312", "iso-2022-cn", "iso-2022-cn-ext", "iso-2022-kr"]

/-- The character set of a label in lower case; what is no label of another is read as UTF-8. -/
def Charset.ofLabel (label : String) : Charset :=
  match codepages.find? (·.labels.contains label), Multibyte.ofLabel? label with
  | some codepage, _ => .page codepage
  | none, some set => .multibyte set
  | none, none =>
      if utf16Labels.contains label then .utf16 false
      else if ["utf-16be", "unicodefffe"].contains label then .utf16 true
      else if unreadLabels.contains label then .unread
      else if label = "x-user-defined" then .ownUse
      else .utf8

end DepositDirectory.Text
