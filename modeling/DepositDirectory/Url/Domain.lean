import DepositDirectory.Text.Composed
import DepositDirectory.Text.Joining
import DepositDirectory.Text.Split
import DepositDirectory.Url.Domain.Direction
import DepositDirectory.Url.Domain.Image
import DepositDirectory.Url.Punycode

/-!
# Domains

A domain is a list of labels with full stops between them.  It is read with its characters as they
are meant, and written in ASCII.  A label that is written in ASCII already has to be the only way to
write what it means.
-/

namespace DepositDirectory.Url.Domain

open Text (composed isJoiningTransparent isMark isVirama joinsBackward joinsForward splitAt)

def isForbidden (c : Char) : Bool :=
  c.toNat ≤ 0x20 || c.toNat = 0x7F || "%#/:<>?@[\\]^|".toList.contains c

def isAscii (c : Char) : Bool :=
  c.toNat < 0x80

/-- A text as it is meant; none where a character may not be in a domain. -/
def meant? (cs : List Char) : Option (List Char) :=
  (cs.mapM image?).map fun images => composed images.flatten

/-! ## Joiners -/

def meetsJoining (joins : Char → Bool) (cs : List Char) : Bool :=
  (cs.dropWhile isJoiningTransparent).head?.any joins

/--
Whether a character may stand between the text `before` it, read backwards, and `after` it.  Joiners
follow a virama; the one that keeps letters apart may also stand between two that would join.
-/
def fitsBetween (before : List Char) (c : Char) (after : List Char) : Bool :=
  if c = '\u200D' then before.head?.any isVirama
  else if c = '\u200C' then
    before.head?.any isVirama ||
      (meetsJoining joinsForward before && meetsJoining joinsBackward after)
  else true

def joinersFit (before : List Char) : List Char → Bool
  | [] => true
  | c :: after => fitsBetween before c after && joinersFit (c :: before) after

/-! ## Directions -/

def isFromLeftward (c : Char) : Bool :=
  direction c = .leftward || direction c = .arabicDigit

/--
Whether a label runs one way.  It starts with a letter.  One to the right has no part that runs to
the left, one to the left no part that runs to the right nor digits of both kinds; either ends, but
for marks, with a letter or a digit.
-/
def runsOneWay (label : List Char) : Bool :=
  let directions := ((label.map direction).reverse.dropWhile (· = .mark)).reverse
  match label.map direction with
  | [] => true
  | .rightward :: _ =>
      directions.all (fun d => d ≠ .leftward && d ≠ .arabicDigit) &&
        directions.getLast?.all (fun d => d = .rightward || d = .digit)
  | .leftward :: _ =>
      directions.all (· ≠ .rightward) &&
        directions.getLast?.all (fun d => d = .leftward || d = .digit || d = .arabicDigit) &&
        !(directions.contains .digit && directions.contains .arabicDigit)
  | _ => false

/-- Whether every label runs one way, which matters where one has a part that runs to the left. -/
def directionsFit (labels : List (List Char)) : Bool :=
  !labels.any (·.any isFromLeftward) || labels.all runsOneWay

/-! ## Labels -/

def isLabel (label : List Char) : Bool :=
  !label.any isForbidden && !label.head?.any isMark && joinersFit [] label &&
    (label.all isAscii || label.length ≤ 1000)

/-- What an encoded label means: not ASCII alone, and no other spelling of something else. -/
def decodeLabel? (encoded : List Char) : Option (List Char) :=
  if encoded.getLast?.all (· = '-') || !encoded.all isAscii || 2000 < encoded.length then none
  else do
    let label ← Punycode.decode? encoded
    if meant? label = some label then some label else none

def readLabel? (label : List Char) : Option (List Char) := do
  let label ←
    match label with
    | 'x' :: 'n' :: '-' :: '-' :: encoded => decodeLabel? encoded
    | _ => some label
  if isLabel label then some label else none

def writeLabel (label : List Char) : List Char :=
  if label.all isAscii then label else ['x', 'n', '-', '-'] ++ Punycode.encode label

def inAscii? (cs : List Char) : Option (List Char) := do
  let labels ← (splitAt '.' (← meant? cs)).mapM readLabel?
  if directionsFit labels then some (List.intercalate ['.'] (labels.map writeLabel)) else none

end DepositDirectory.Url.Domain
