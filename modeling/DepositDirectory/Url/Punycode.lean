/-!
# Punycode

A label that is not ASCII is written in ASCII: its ASCII characters first, and behind them how the
others go back in.  They go back in ascending order, each at its place among the characters that
are already there.  All pairs of a character and a place are counted in one order, so one
insertion is the count of the pairs passed since the one before.  The counts are written as numbers
of variable length in base 36, whose last digit is told by its size.
-/

namespace DepositDirectory.Url.Punycode

/-! ## What goes back in -/

/-- A character goes back in behind the characters of the label that are there before it. -/
structure Insertion where
  code : Nat
  place : Nat

def placeOf (label : List Char) (index : Nat) (c : Char) : Nat :=
  (label.take index).countP (· ≤ c)

def insertions (label : List Char) : List Insertion :=
  let marked := label.zipIdx.filter fun (c, _) => 0x80 ≤ c.toNat
  (marked.map fun (c, index) => ⟨c.toNat, placeOf label index c⟩).mergeSort (·.code ≤ ·.code)

/-- The pairs passed up to each insertion, where `next` comes first and `size` characters stand. -/
def gaps (size : Nat) (next : Insertion) : List Insertion → List Nat
  | [] => []
  | insertion :: later =>
      ((insertion.code - next.code) * (size + 1) + insertion.place - next.place) ::
        gaps (size + 1) ⟨insertion.code, insertion.place + 1⟩ later

/-! ## Numbers of variable length -/

def digitMarks : List Char :=
  "abcdefghijklmnopqrstuvwxyz0123456789".toList

def digit (value : Nat) : Char :=
  digitMarks.getD value 'a'

def floorAt (position bias : Nat) : Nat :=
  max 1 (min 26 (position - bias))

/-- A number from a position on; the digit below the floor is the last. -/
def numeral (bias position number : Nat) : List Char :=
  let floor := floorAt position bias
  if number < floor then [digit number]
  else
    let excess := number - floor
    digit (floor + excess % (36 - floor)) ::
      numeral bias (position + 36) (excess / (36 - floor))
termination_by number
decreasing_by
  have one_le_floor : 1 ≤ floorAt position bias := Nat.le_max_left ..
  exact Nat.lt_of_le_of_lt (Nat.div_le_self ..) (by omega)

def biasOf (base magnitude : Nat) : Nat :=
  if 455 < magnitude then biasOf (base + 36) (magnitude / 35)
  else base + 36 * magnitude / (magnitude + 38)
termination_by magnitude

/-- The numbers one after another; each sets the bias of the next by how large it was. -/
def numerals (size bias damping : Nat) : List Nat → List Char
  | [] => []
  | number :: later =>
      let damped := number / damping
      numeral bias 36 number ++
        numerals (size + 1) (biasOf 0 (damped + damped / (size + 1))) 2 later

def readNumeral? (bias position : Nat) :
    (cs : List Char) → Option (Nat × { rest : List Char // rest.length < cs.length })
  | [] => none
  | c :: later => do
      let value ← digitMarks.idxOf? c
      let floor := floorAt position bias
      if value < floor then some (value, ⟨later, Nat.lt_succ_self _⟩)
      else
        let (higher, ⟨rest, shorter⟩) ← readNumeral? bias (position + 36) later
        some (value + (36 - floor) * higher, ⟨rest, Nat.lt_succ_of_lt shorter⟩)

def readNumerals? (size bias damping : Nat) (cs : List Char) : Option (List Nat) :=
  if cs = [] then some []
  else
    match readNumeral? bias 36 cs with
    | none => none
    | some (number, ⟨rest, _⟩) =>
        let damped := number / damping
        (readNumerals? (size + 1) (biasOf 0 (damped + damped / (size + 1))) 2 rest).map
          (number :: ·)
termination_by cs.length

/-! ## Labels -/

def encode (label : List Char) : List Char :=
  let plain := label.filter (·.toNat < 0x80)
  let passed := gaps plain.length ⟨0x80, 0⟩ (insertions label)
  (if plain = [] then [] else plain ++ ['-']) ++ numerals plain.length 72 700 passed

def refill? (label : List Char) (next : Insertion) : List Nat → Option (List Char)
  | [] => some label
  | gap :: later =>
      let passed := next.place + gap
      let code := next.code + passed / (label.length + 1)
      let place := passed % (label.length + 1)
      if code.isValidChar then
        refill? (label.insertIdx place (Char.ofNat code)) ⟨code, place + 1⟩ later
      else none

/-- The label that a text in ASCII stands for, where it stands for one. -/
def decode? (encoded : List Char) : Option (List Char) :=
  let marks := (encoded.reverse.takeWhile (· ≠ '-')).reverse
  let plain := encoded.take (encoded.length - marks.length - 1)
  if encoded = '-' :: marks then none
  else (readNumerals? plain.length 72 700 marks).bind (refill? plain ⟨0x80, 0⟩)

end DepositDirectory.Url.Punycode
