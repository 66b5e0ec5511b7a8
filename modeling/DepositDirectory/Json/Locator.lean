import DepositDirectory.Json.Shape

/-!
# Where a text is at fault

Who reads a text as JSON and finds a fault says not only what it is but also where: in which line,
counted from one, and how many bytes of that line had been read.  How far one has read when a fault
shows depends on how one reads, so this is left open: a locator says it.  One that goes by the text
alone takes the end of its shortest beginning that has the same fault already.
-/

namespace DepositDirectory.Json

structure Spot where
  line : Nat
  column : Nat
  deriving DecidableEq

/-- The wording of a fault that was found at a place. -/
def Fault.messageAt (fault : Fault) (spot : Spot) : String :=
  s!"{fault.message} at line {spot.line} column {spot.column}"

/-- Says where a text is found to be no value of a shape. -/
class Locator where
  locate : Shape → List Char → Spot

def Spot.behind (cs : List Char) : Spot :=
  ⟨cs.count '\n' + 1, byteCount (cs.reverse.takeWhile (· ≠ '\n'))⟩

def Fault.isEnd : Fault → Bool
  | .endInValue => true
  | .endInObject => true
  | .endInList => true
  | .endInText => true
  | _ => false

def Shape.complaint? (shape : Shape) (cs : List Char) : Option String :=
  match shape.parse cs with
  | .ok _ => none
  | .error fault => some fault.message

/-- The least number between two at which a property holds, if it holds from there on. -/
def least (holds : Nat → Bool) : (steps low high : Nat) → Nat
  | 0, _, high => high
  | steps + 1, low, high =>
      if high ≤ low then high
      else
        let middle := (low + high) / 2
        if holds middle then least holds steps low middle else least holds steps (middle + 1) high

instance Locator.shortest : Locator where
  locate := fun shape cs =>
    match shape.parse cs with
    | .ok _ => .behind cs
    | .error fault =>
        if fault.isEnd then .behind cs
        else
          let same (length : Nat) : Bool :=
            shape.complaint? (cs.take length) = some fault.message
          .behind (cs.take (least same (cs.length + 1) 0 cs.length))

end DepositDirectory.Json
