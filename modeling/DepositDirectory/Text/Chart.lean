/-!
# Charts of characters

Sets with more than one byte a character number their characters by places on a chart.  A chart is
written row by row.  Characters that would not be seen in a row stand apart from it, in runs.
-/

namespace DepositDirectory.Text

/-! ## Runs -/

/-- The places from `first` to `last` with the characters from the code point `start` on. -/
structure Run where
  first : Nat
  last : Nat
  start : Nat
  deriving DecidableEq

def Run.char? (runs : List Run) (place : Nat) : Option Char :=
  (runs.find? fun run => run.first ≤ place && place ≤ run.last).map fun run =>
    Char.ofNat (run.start + (place - run.first))

/-! ## Charts -/

/--
A chart of characters: the places that no run covers are those of the rows, `width` of them to a
row.  A space, like the end of a row that is shorter, means that a place has no character.
-/
structure Chart where
  width : Nat
  runs : List Run
  rows : Array String
  deriving DecidableEq

namespace Chart

def written? (chart : Chart) (place : Nat) : Option Char :=
  match chart.rows[place / chart.width]? with
  | some row => row.toList[place % chart.width]?.filter (· ≠ ' ')
  | none => none

def char? (chart : Chart) (place : Nat) : Option Char :=
  (Run.char? chart.runs place).or (chart.written? place)

end Chart

end DepositDirectory.Text
