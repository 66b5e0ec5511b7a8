import DepositDirectory.Log.Expression.Atom

/-!
# Classes of characters

A class is written in brackets: characters, ranges of them, named classes and classes inside, joined
by operators between what stands to their left and right.  A class is only read, and its depth
taken; which characters it holds does not matter here.
-/

namespace DepositDirectory.Log.Expression

/-- Parts side by side: how many there are, and how deep the deepest is. -/
structure Layer where
  count : Nat
  deepest : Nat
  deriving DecidableEq

namespace Layer

def empty : Layer := ⟨0, 0⟩

def add (depth : Nat) (layer : Layer) : Layer :=
  ⟨layer.count + 1, max layer.deepest depth⟩

/-- The depth of the parts together; a part alone needs no level of its own. -/
def depth (layer : Layer) : Nat :=
  if layer.count ≤ 1 then layer.deepest else layer.deepest + 1

end Layer

/-- How far the front of a class has been read. -/
inductive Front where
  | opened
  | negated
  /-- Hyphens at the front stand for themselves. -/
  | hyphens
  | passed
  deriving DecidableEq

/-- A class that is open. -/
structure Frame where
  front : Front
  /-- Whether the class holds what is not listed. -/
  negated : Bool
  items : Layer
  /-- The depth of what stands to the left of the last operator. -/
  left : Option Nat
  deriving DecidableEq

namespace Frame

def opened : Frame := ⟨.opened, false, .empty, none⟩

def pass (frame : Frame) : Frame := { frame with front := .passed }

def add (depth : Nat) (frame : Frame) : Frame :=
  { frame with front := .passed, items := frame.items.add depth }

def depth (frame : Frame) : Nat :=
  match frame.left with
  | none => frame.items.depth
  | some left => max left frame.items.depth + 1

def operated (frame : Frame) : Frame :=
  { frame with front := .passed, items := .empty, left := some frame.depth }

end Frame

def classNames : List String :=
  ["alnum", "alpha", "ascii", "blank", "cntrl", "digit", "graph", "lower", "print", "punct",
    "space", "upper", "word", "xdigit"]

/-- Read a named class after its bracket, and whether it is negated. -/
def readNamed? : List Char → Option (Bool × List Char)
  | ':' :: cs =>
      let (negated, cs) :=
        match cs with
        | '^' :: rest => (true, rest)
        | _ => (false, cs)
      match cs.span (· ≠ ':') with
      | (name, ':' :: ']' :: rest) =>
          if classNames.contains (String.ofList name) then some (negated, rest) else none
      | _ => none
  | _ => none

/-- Whether a character in a class is allowed: with bytes there is only ASCII. -/
def isMember (modes : Modes) (c : Char) : Bool :=
  if modes.unicode then !modes.caseless else c.toNat < 0x80

def isItem (modes : Modes) : Atom → Bool
  | .character c _ => isMember modes c
  | .kind negated => (Atom.kind negated).isAllowed modes
  | _ => false

def isNamedAllowed (modes : Modes) (negated : Bool) : Bool :=
  if modes.unicode then !modes.caseless else !negated

def readEnd? (modes : Modes) : List Char → Option (Atom × List Char)
  | '\\' :: rest => Atom.readEscaped? modes rest
  | c :: rest => some (.character c false, rest)
  | [] => none

def readRange? (modes : Modes) (cs : List Char) : Option (List Char) := do
  let (first, rest) ← readEnd? modes cs
  match modes.skip rest with
  | [] => none
  | '-' :: after =>
      if [some ']', some '-'].contains (modes.peek? after) then
        if isItem modes first then some ('-' :: after) else none
      else
        let (last, rest) ← readEnd? modes (modes.skip after)
        match first, last with
        | .character low _, .character high _ =>
            if low ≤ high && isMember modes low && isMember modes high then some rest else none
        | _, _ => none
  | rest => if isItem modes first then some rest else none

/-- Read a class to its end, inside of others, and take its depth; `fuel` bounds the steps. -/
def readClass? (modes : Modes) :
    (fuel : Nat) → Frame → List Frame → List Char → Option (Nat × List Char)
  | 0, _, _, _ => none
  | fuel + 1, frame, outer, cs =>
      match modes.skip cs with
      | [] => none
      | c :: rest =>
          let atFront := frame.front = .opened || frame.front = .negated
          if c = '^' && frame.front = .opened then
            readClass? modes fuel { frame with front := .negated, negated := true } outer rest
          else if c = '-' && frame.front ≠ .passed then
            if isMember modes c then
              readClass? modes fuel { frame.add 0 with front := .hyphens } outer rest
            else none
          else if c = ']' && atFront then
            if isMember modes c then readClass? modes fuel (frame.add 0) outer rest else none
          else if c = '[' then
            match readNamed? rest with
            | some (negated, rest) =>
                if isNamedAllowed modes negated then
                  readClass? modes fuel (frame.add 0) outer rest
                else none
            | none => readClass? modes fuel .opened (frame.pass :: outer) rest
          else if c = ']' then
            if frame.negated && !modes.unicode then none
            else
              match outer with
              | [] => some (frame.depth + 1, rest)
              | around :: others =>
                  readClass? modes fuel (around.add (frame.depth + 1)) others rest
          else if "&-~".toList.contains c && rest.head? = some c then
            readClass? modes fuel frame.operated outer rest.tail
          else do
            readClass? modes fuel (frame.add 0) outer (← readRange? modes (c :: rest))

end DepositDirectory.Log.Expression
