import DepositDirectory.Log.Expression.Class
import DepositDirectory.Text.Alphabetic

/-!
# Regular expressions

An expression is a choice between sequences of atoms, classes, groups and repetitions of these.
Flags in a group, or in parentheses of their own, set the modes for what follows up to the end of
the group around it.  Here is only decided whether a text is an expression that can be matched.
-/

namespace DepositDirectory.Log.Expression

/-- The parts of a sequence so far. -/
structure Sequence where
  parts : Layer
  /-- The depth of the last part, if it can be repeated. -/
  last : Option Nat
  deriving DecidableEq

namespace Sequence

def empty : Sequence := ⟨.empty, none⟩

def add (depth : Nat) (sequence : Sequence) : Sequence :=
  ⟨sequence.parts.add depth, some depth⟩

def addFlags (sequence : Sequence) : Sequence :=
  ⟨sequence.parts.add 0, none⟩

def repeated? (sequence : Sequence) : Option Sequence :=
  sequence.last.map fun depth =>
    ⟨{ sequence.parts with deepest := max sequence.parts.deepest (depth + 1) }, some (depth + 1)⟩

end Sequence

/-- A group that is open, with what stood before it. -/
structure OpenGroup where
  modes : Modes
  choices : Layer
  before : Sequence
  deriving DecidableEq

inductive Opening where
  | group (modes : Modes) (name : Option (List Char))
  | flags (modes : Modes)
  deriving DecidableEq

/-- Whether a character can be in the name of a group, at its front or further on. -/
def isNameChar (front : Bool) (c : Char) : Bool :=
  c = '_' ||
    if front then Text.isAlphabetic c else Text.isAlphanumeric c || ".[]".toList.contains c

def readName? (cs : List Char) : Option (List Char × List Char) :=
  match cs.span (· ≠ '>') with
  | (first :: others, _ :: rest) =>
      if isNameChar true first && others.all (isNameChar false) then some (first :: others, rest)
      else none
  | _ => none

/-- Read flags up to their end; each comes once, and so does the hyphen, which is not the last. -/
def readFlags? (modes : Modes) (seen : List Char) : List Char → Option (Opening × List Char)
  | [] => none
  | ':' :: rest => if seen.head? = some '-' then none else some (.group modes none, rest)
  | ')' :: rest =>
      if seen = [] || seen.head? = some '-' then none else some (.flags modes, rest)
  | flag :: rest =>
      if seen.contains flag || !"imsUuxR-".toList.contains flag then none
      else readFlags? (modes.set flag (!seen.contains '-')) (flag :: seen) rest

def readOpening? (modes : Modes) (cs : List Char) : Option (Opening × List Char) :=
  let named := fun rest : List Char =>
    (readName? rest).map fun (name, rest) => (Opening.group modes (some name), rest)
  match modes.skip cs with
  | '?' :: 'P' :: '<' :: rest => named rest
  | '?' :: '<' :: rest => named rest
  | '?' :: rest => readFlags? modes [] rest
  | rest => some (.group modes none, rest)

/-- What follows a sign of repetition, with the mark of a short one. -/
def afterRepetition : List Char → List Char
  | '?' :: rest => rest
  | rest => rest

/-- Read an expression to its end and take its depth; `fuel` bounds the steps. -/
def readFrom? : (fuel : Nat) → Modes → (choices : Layer) → Sequence → List OpenGroup →
    (names : List (List Char)) → List Char → Option Nat
  | 0, _, _, _, _, _, _ => none
  | fuel + 1, modes, choices, sequence, groups, names, cs =>
      let choice := choices.add sequence.parts.depth
      match modes.skip cs with
      | [] => if groups = [] then some choice.depth else none
      | '(' :: rest => do
          match ← readOpening? modes rest with
          | (.flags modes, rest) =>
              readFrom? fuel modes choices sequence.addFlags groups names rest
          | (.group inner name, rest) =>
              if name.any names.contains then none
              else
                readFrom? fuel inner .empty .empty (⟨modes, choices, sequence⟩ :: groups)
                  (name.toList ++ names) rest
      | ')' :: rest =>
          match groups with
          | [] => none
          | group :: outer =>
              readFrom? fuel group.modes group.choices (group.before.add (choice.depth + 1)) outer
                names rest
      | '|' :: rest => readFrom? fuel modes choice .empty groups names rest
      | '[' :: rest => do
          let (depth, rest) ← readClass? modes (rest.length + 1) .opened [] rest
          readFrom? fuel modes choices (sequence.add depth) groups names rest
      | '\x7b' :: _ => none
      | c :: rest =>
          if "?*+".toList.contains c then do
            readFrom? fuel modes choices (← sequence.repeated?) groups names (afterRepetition rest)
          else do
            let (atom, rest) ← Atom.read? modes (c :: rest)
            if atom.isAllowed modes then
              readFrom? fuel modes choices (sequence.add 0) groups names rest
            else none

def depthLimit : Nat := 250

def isExpression (cs : List Char) : Bool :=
  (readFrom? (cs.length + 1) .usual .empty .empty [] [] cs).any (· ≤ depthLimit)

end DepositDirectory.Log.Expression
