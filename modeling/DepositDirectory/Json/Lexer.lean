import DepositDirectory.Json.Token
import DepositDirectory.Text.Numeral

/-!
# Splitting JSON text into tokens

Every text splits into tokens.  Four blank characters stand between tokens and belong to none; a
character that starts no token becomes junk.  What follows a token that broke off has no meaning, so
the splitting stops there.
-/

namespace DepositDirectory.Json

open Text (digitValue?)

/-- The characters that JSON lets stand between tokens. -/
def isGap (c : Char) : Bool :=
  c = ' ' || c = '\n' || c = '\t' || c = '\r'

def hexDigit? (c : Char) : Option Nat :=
  if '0' ≤ c ∧ c ≤ '9' then some (c.toNat - '0'.toNat)
  else if 'a' ≤ c ∧ c ≤ 'f' then some (c.toNat - 'a'.toNat + 10)
  else if 'A' ≤ c ∧ c ≤ 'F' then some (c.toNat - 'A'.toNat + 10)
  else none

def hexUnit? (a b c d : Char) : Option Nat := do
  return (((← hexDigit? a) * 16 + (← hexDigit? b)) * 16 + (← hexDigit? c)) * 16 + (← hexDigit? d)

/-- The character that a one-letter escape stands for. -/
def escaped? (c : Char) : Option Char :=
  if c = '"' then some '"'
  else if c = '\\' then some '\\'
  else if c = '/' then some '/'
  else if c = 'b' then some '\x08'
  else if c = 'f' then some '\x0c'
  else if c = 'n' then some '\n'
  else if c = 'r' then some '\r'
  else if c = 't' then some '\t'
  else none

def byteCount (cs : List Char) : Nat :=
  cs.foldl (fun count c => count + c.utf8Size) 0

/--
How a string ends whose unit escape lacks digits: four bytes that are no digits are a bad unit.
-/
def shortUnit (cs : List Char) : TextEnd :=
  if 4 ≤ byteCount cs then .badUnit else .cut

def readText : List Char → TextToken × List Char
  | [] => (⟨[], .cut⟩, [])
  | c :: rest =>
      if c = '"' then (⟨[], .closed⟩, rest)
      else if c = '\\' then
        match rest with
        | [] => (⟨[], .cut⟩, [])
        | e :: afterEscape =>
            if e = 'u' then
              match afterEscape with
              | h₁ :: h₂ :: h₃ :: h₄ :: after =>
                  match hexUnit? h₁ h₂ h₃ h₄ with
                  | some n => (readText after).map (·.push (.unit n)) id
                  | none => (⟨[], .badUnit⟩, [])
              | few => (⟨[], shortUnit few⟩, [])
            else
              match escaped? e with
              | some meant => (readText afterEscape).map (·.push (.char meant)) id
              | none => (⟨[], .badEscape⟩, [])
      else if c.toNat < 0x20 then (⟨[], .control⟩, [])
      else (readText rest).map (·.push (.char c)) id

/-- The digits at the front, and what follows them. -/
def splitDigits : List Char → List Nat × List Char
  | [] => ([], [])
  | c :: rest =>
      match digitValue? c with
      | some digit => (splitDigits rest).map (digit :: ·) id
      | none => ([], c :: rest)

/-- What stands at the front of a text where a digit is needed. -/
def insteadOf : List Char → Instead
  | [] => .theEnd
  | _ :: _ => .other

def readExponentDigits (number : NumberToken) (negative : Bool) (cs : List Char) :
    Token × List Char :=
  match splitDigits cs with
  | ([], rest) => (.brokenNumber (insteadOf rest), [])
  | (digits, rest) => (.number { number with exponent := some ⟨negative, digits⟩ }, rest)

def readExponent (number : NumberToken) : List Char → Token × List Char
  | 'e' :: '+' :: rest => readExponentDigits number false rest
  | 'e' :: '-' :: rest => readExponentDigits number true rest
  | 'e' :: rest => readExponentDigits number false rest
  | 'E' :: '+' :: rest => readExponentDigits number false rest
  | 'E' :: '-' :: rest => readExponentDigits number true rest
  | 'E' :: rest => readExponentDigits number false rest
  | rest => (.number number, rest)

/-- Read what may follow the whole part of a number. -/
def readFraction (number : NumberToken) : List Char → Token × List Char
  | '.' :: rest =>
      match splitDigits rest with
      | ([], after) => (.brokenNumber (insteadOf after), [])
      | (digits, after) => readExponent { number with fraction := some digits } after
  | rest => readExponent number rest

/-- Read a number after its sign; a whole part of two or more digits does not start with zero. -/
def readNumber (negative : Bool) (cs : List Char) : Token × List Char :=
  match splitDigits cs with
  | ([], rest) => (.brokenNumber (insteadOf rest), [])
  | (first :: more, rest) =>
      if first = 0 ∧ more ≠ [] then (.brokenNumber .other, [])
      else readFraction ⟨negative, first :: more, none, none⟩ rest

def readWord (meaning : Token) : List Char → List Char → Token × List Char
  | [], rest => (meaning, rest)
  | _ :: _, [] => (.misspelt .theEnd, [])
  | due :: left, c :: rest =>
      if due = c then readWord meaning left rest else (.misspelt .other, [])

def mark? (c : Char) : Option Token :=
  if c = '[' then some .openList
  else if c = ']' then some .closeList
  else if c = '\x7b' then some .openObject
  else if c = '\x7d' then some .closeObject
  else if c = ',' then some .comma
  else if c = ':' then some .colon
  else none

/--
The word that starts with a letter: what it means, and the letters that are due after the first.
-/
def word? (c : Char) : Option (Token × List Char) :=
  if c = 'n' then some (.null, ['u', 'l', 'l'])
  else if c = 't' then some (.bool true, ['r', 'u', 'e'])
  else if c = 'f' then some (.bool false, ['a', 'l', 's', 'e'])
  else none

/-- The token that starts with `c`, and the text after it. -/
def readToken (c : Char) (rest : List Char) : Token × List Char :=
  match mark? c with
  | some mark => (mark, rest)
  | none =>
      match word? c with
      | some (meaning, due) => readWord meaning due rest
      | none =>
          if c = '"' then (readText rest).map Token.text id
          else if c = '-' then readNumber true rest
          else if (digitValue? c).isSome then readNumber false (c :: rest)
          else (.junk, [])

theorem readText_length (cs : List Char) : (readText cs).2.length ≤ cs.length := by
  fun_induction readText cs <;> simp_all <;> omega

theorem splitDigits_length (cs : List Char) : (splitDigits cs).2.length ≤ cs.length := by
  fun_induction splitDigits cs <;> simp_all; omega

theorem splitDigits_cons_length {c : Char} (digit : (digitValue? c).isSome) (cs : List Char) :
    (splitDigits (c :: cs)).2.length ≤ cs.length := by
  obtain ⟨n, found⟩ := Option.isSome_iff_exists.1 digit
  simpa [splitDigits, found] using splitDigits_length cs

theorem readExponentDigits_length (number : NumberToken) (negative : Bool) (cs : List Char) :
    (readExponentDigits number negative cs).2.length ≤ cs.length := by
  have shorter := splitDigits_length cs
  unfold readExponentDigits
  split <;> simp_all

theorem readExponent_length (number : NumberToken) (cs : List Char) :
    (readExponent number cs).2.length ≤ cs.length := by
  unfold readExponent
  split
  all_goals first
    | exact Nat.le_trans (readExponentDigits_length _ _ _) (by simp; try omega)
    | exact Nat.le_refl _

theorem readFraction_length (number : NumberToken) (cs : List Char) :
    (readFraction number cs).2.length ≤ cs.length := by
  unfold readFraction
  split
  · rename_i rest
    have shorter := splitDigits_length rest
    split
    · simp
    · rename_i digits after _ same
      have := readExponent_length { number with fraction := some digits } after
      simp_all; omega
  · exact readExponent_length _ _

theorem readNumber_length (negative : Bool) (cs : List Char) :
    (readNumber negative cs).2.length ≤ (splitDigits cs).2.length := by
  unfold readNumber
  rcases splitDigits cs with ⟨digits, rest⟩
  cases digits with
  | nil => exact Nat.zero_le _
  | cons first more =>
      dsimp only
      split
      · exact Nat.zero_le _
      · exact readFraction_length _ _

theorem readWord_length (meaning : Token) (due cs : List Char) :
    (readWord meaning due cs).2.length ≤ cs.length := by
  fun_induction readWord meaning due cs <;> simp_all; omega

theorem readToken_length (c : Char) (rest : List Char) :
    (readToken c rest).2.length ≤ rest.length := by
  unfold readToken
  split
  · exact Nat.le_refl _
  · split
    · exact readWord_length _ _ _
    · split
      · exact readText_length rest
      · split
        · exact Nat.le_trans (readNumber_length _ _) (splitDigits_length _)
        · split
          · rename_i digit
            exact Nat.le_trans (readNumber_length _ _) (splitDigits_cons_length digit _)
          · exact Nat.zero_le _

def lex : List Char → List Token
  | [] => []
  | c :: rest =>
      if isGap c then lex rest
      else
        let read := readToken c rest
        read.1 :: lex read.2
termination_by cs => cs.length
decreasing_by
  · simp
  · have := readToken_length c rest
    simp; omega

end DepositDirectory.Json
