import DepositDirectory.Text.Split
import DepositDirectory.Url.Domain
import DepositDirectory.Url.Percent

/-!
# Hosts

A host is a domain or an address of version 4 or 6.  The host of a web address is read in any of the
spellings that stand for it (case, escapes, characters outside ASCII, addresses in octal or with
fewer parts) and written in one.
-/

namespace DepositDirectory.Url

open Text (splitAt utf8)

/-- Why a text is no URL. -/
inductive UrlError where
  | noBase
  | emptyHost
  | badDomain
  | badPort
  | badV4
  | badV6
  | badHostCharacter
  deriving DecidableEq

def UrlError.message : UrlError → String
  | .noBase => "relative URL without a base"
  | .emptyHost => "empty host"
  | .badDomain => "invalid international domain name"
  | .badPort => "invalid port number"
  | .badV4 => "invalid IPv4 address"
  | .badV6 => "invalid IPv6 address"
  | .badHostCharacter => "invalid domain character"

/-- A host; an address of version 6 has eight pieces of sixteen bits. -/
inductive Host where
  | domain (name : String)
  | v4 (address : Nat)
  | v6 (pieces : List Nat)
  deriving DecidableEq

/-! ## Addresses of version 4 -/

def digitIn? (base : Nat) (c : Char) : Option Nat :=
  let value :=
    if '0' ≤ c ∧ c ≤ '9' then c.toNat - '0'.toNat
    else if 'a' ≤ c ∧ c ≤ 'f' then c.toNat - 'a'.toNat + 10
    else if 'A' ≤ c ∧ c ≤ 'F' then c.toNat - 'A'.toNat + 10
    else 16
  if value < base then some value else none

/-- The value of digits in a base; no digits have the value zero. -/
def digitsIn? (base : Nat) (cs : List Char) : Option Nat :=
  cs.foldlM (fun value c => (digitIn? base c).map (value * base + ·)) 0

/-- A part of an address of version 4: decimal, or octal after a zero, or hexadecimal after `0x`. -/
def v4Part? : List Char → Option Nat
  | [] => none
  | '0' :: 'x' :: digits => digitsIn? 16 digits
  | '0' :: 'X' :: digits => digitsIn? 16 digits
  | '0' :: d :: digits => digitsIn? 8 (d :: digits)
  | digits => digitsIn? 10 digits

def domainParts (cs : List Char) : List (List Char) :=
  let parts := splitAt '.' cs
  if parts.getLast? = some [] then parts.dropLast else parts

/-- Whether the last part of a domain is a number, so that the domain has to be an address. -/
def endsInNumber (cs : List Char) : Bool :=
  match (domainParts cs).getLast? with
  | none => false
  | some [] => false
  | some last => last.all (digitIn? 10 · |>.isSome) || (v4Part? last).isSome

def v4Address? (parts : List Nat) : Option Nat :=
  match parts.reverse with
  | [] => none
  | last :: leading =>
      let room := Nat.pow 256 (4 - leading.length)
      if 3 < leading.length ∨ leading.any (255 < ·) ∨ room ≤ last then none
      else some (leading.reverse.foldl (fun value part => value * 256 + part) 0 * room + last)

def readV4 (cs : List Char) : Except UrlError Host :=
  match ((domainParts cs).mapM v4Part?).bind v4Address? with
  | some address => .ok (.v4 address)
  | none => .error .badV4

def v4Text (address : Nat) : String :=
  ".".intercalate ([24, 16, 8, 0].map fun shift => (address / Nat.pow 2 shift % 256).repr)

/-! ## Addresses of version 6 -/

/-- One piece of an address of version 6: one to four hexadecimal digits. -/
def v6Piece? (cs : List Char) : Option Nat :=
  if cs = [] ∨ 4 < cs.length then none else digitsIn? 16 cs

def decimalByte? (cs : List Char) : Option Nat :=
  if cs = [] ∨ (1 < cs.length ∧ cs.head? = some '0') then none
  else (digitsIn? 10 cs).filter (· ≤ 255)

def v4Pieces? (cs : List Char) : Option (List Nat) :=
  match (splitAt '.' cs).mapM decimalByte? with
  | some [a, b, c, d] => some [a * 256 + b, c * 256 + d]
  | _ => none

/-- The pieces of groups between colons; the last may be an address of version 4. -/
def v6Groups? (v4Allowed : Bool) : List (List Char) → Option (List Nat)
  | [] => some []
  | [last] =>
      if v4Allowed && last.contains '.' then v4Pieces? last else (v6Piece? last).map ([·])
  | group :: rest => do return (← v6Piece? group) :: (← v6Groups? v4Allowed rest)

def splitDoubleColon? : List Char → Option (List Char × List Char)
  | [] => none
  | ':' :: ':' :: rest => some ([], rest)
  | c :: rest => (splitDoubleColon? rest).map fun (before, after) => (c :: before, after)

def v6Side? (v4Allowed : Bool) (cs : List Char) : Option (List Nat) :=
  if cs = [] then some [] else v6Groups? v4Allowed (splitAt ':' cs)

/-- The pieces of an address of version 6; a double colon stands for one zero or more. -/
def v6Pieces? (cs : List Char) : Option (List Nat) :=
  match splitDoubleColon? cs with
  | none => (v6Groups? true (splitAt ':' cs)).filter (·.length = 8)
  | some (before, after) => do
      let left ← v6Side? false before
      let right ← v6Side? true after
      if left.length + right.length ≤ 7 then
        some (left ++ List.replicate (8 - left.length - right.length) 0 ++ right)
      else none

def readV6 (cs : List Char) : Except UrlError Host :=
  match v6Pieces? cs with
  | some pieces => .ok (.v6 pieces)
  | none => .error .badV6

def zeroRun (pieces : List Nat) : Nat :=
  (pieces.takeWhile (· = 0)).length

def longestZeroRun (pieces : List Nat) : Nat :=
  ((List.range pieces.length).map fun start => zeroRun (pieces.drop start)).foldl max 0

def piecesText (pieces : List Nat) : String :=
  ":".intercalate (pieces.map fun piece => String.ofList (Nat.toDigits 16 piece))

/-- An address of version 6 as it is written: the longest run of two zeros or more becomes `::`. -/
def v6Text (pieces : List Nat) : String :=
  let run := longestZeroRun pieces
  let start := ((List.range pieces.length).find? fun start => zeroRun (pieces.drop start) = run)
  match start with
  | some start =>
      if run < 2 then piecesText pieces
      else piecesText (pieces.take start) ++ "::" ++ piecesText (pieces.drop (start + run))
  | none => piecesText pieces

/-! ## Hosts of both kinds -/

def readWebHost (cs : List Char) : Except UrlError Host :=
  match cs with
  | [] => .error .emptyHost
  | '[' :: rest =>
      if rest.getLast? = some ']' then readV6 rest.dropLast else .error .badV6
  | _ =>
      match (Text.ofUtf8? (percentDecode (utf8 cs))).bind Domain.inAscii? with
      | none => .error .badDomain
      | some [] => .error .emptyHost
      | some domain =>
          if endsInNumber domain then readV4 domain else .ok (.domain (String.ofList domain))

def readPlainHost (cs : List Char) : Except UrlError Host :=
  match cs with
  | '[' :: rest =>
      if rest.getLast? = some ']' then readV6 rest.dropLast else .error .badV6
  | _ =>
      if cs.any fun c => ['\x00', ' ', '#', '/', ':', '<', '>', '?', '@', '[', '\\', ']', '^',
          '|'].contains c then .error .badHostCharacter
      else .ok (.domain (String.ofList (percentEncode [] cs)))

def Host.text : Host → String
  | .domain name => name
  | .v4 address => v4Text address
  | .v6 pieces => "[" ++ v6Text pieces ++ "]"

end DepositDirectory.Url
