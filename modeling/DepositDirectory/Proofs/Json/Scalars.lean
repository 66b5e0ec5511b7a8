import DepositDirectory.Json.Lexer
import DepositDirectory.Json.Printer
import DepositDirectory.Json.Scalar
import DepositDirectory.Proofs.Text.Numeral
import Mathlib.Data.Nat.Digits.Defs

/-!
# Written strings and numbers

A written string splits into one token, whatever characters are in it, and the token stands for the
string that was written.  The same holds of a written natural number that fits in 64 bits, as long
as the text after it does not go on with what a number can go on with.
-/

namespace DepositDirectory.Json

open Text
  (digitValue? digitValue?_of_isDigit isDigit_of_mem_repr le_ofDigitChars maxWord64 of_isDigit
    repr_ne_nil)

/-! ## Splitting off one token -/

theorem lex_nil : lex [] = [] := by
  rw [lex]

theorem lex_of_gap {c : Char} (gap : isGap c = true) (rest : List Char) :
    lex (c :: rest) = lex rest := by
  rw [lex, if_pos gap]

theorem lex_of_token {c : Char} (noGap : isGap c = false) (rest : List Char) :
    lex (c :: rest) = (readToken c rest).1 :: lex (readToken c rest).2 := by
  rw [lex, noGap]
  rfl

/-! ## Strings -/

/-- Whether a character is written as the code of its unit: a control character with no escape of
its own. -/
def isCoded (c : Char) : Bool :=
  c.toNat < 0x20 && !(['\x08', '\x0c', '\n', '\r', '\t'].contains c)

/-- What a written character is read as. -/
def pieceOf (c : Char) : Piece :=
  if isCoded c then .unit c.toNat else .char c

def textToken (content : String) : TextToken :=
  ⟨content.toList.map pieceOf, .closed⟩

theorem hexDigit?_hexDigit : ∀ n < 16, hexDigit? (hexDigit n) = some n := by
  decide

/-- The code of a control character is read back as its unit. -/
theorem hexUnit?_of_control {n : Nat} (control : n < 0x20) :
    hexUnit? '0' '0' (hexDigit (n / 16)) (hexDigit (n % 16)) = some n := by
  have zero : hexDigit? '0' = some 0 := by decide
  have upper : hexDigit? (hexDigit (n / 16)) = some (n / 16) := hexDigit?_hexDigit _ (by omega)
  have lower : hexDigit? (hexDigit (n % 16)) = some (n % 16) :=
    hexDigit?_hexDigit _ (Nat.mod_lt _ (by decide))
  rw [hexUnit?, zero, upper, lower]
  exact congrArg some (by omega)

/-- A character is written as itself, as a short escape, or as the code of its unit. -/
theorem escapedChar_cases (c : Char) :
    (escapedChar c = [c] ∧ c ≠ '"' ∧ c ≠ '\\' ∧ 0x20 ≤ c.toNat) ∨
      (∃ letter, escapedChar c = ['\\', letter] ∧ letter ≠ 'u' ∧ escaped? letter = some c ∧
        isCoded c = false) ∨
      (escapedChar c = ['\\', 'u', '0', '0', hexDigit (c.toNat / 16), hexDigit (c.toNat % 16)] ∧
        c.toNat < 0x20 ∧ isCoded c = true) := by
  by_cases special : c ∈ ['"', '\\', '\x08', '\x0c', '\n', '\r', '\t']
  · refine Or.inr (Or.inl ?_)
    simp only [List.mem_cons, List.not_mem_nil, or_false] at special
    rcases special with rfl | rfl | rfl | rfl | rfl | rfl | rfl
    · exact ⟨'"', by decide⟩
    · exact ⟨'\\', by decide⟩
    · exact ⟨'b', by decide⟩
    · exact ⟨'f', by decide⟩
    · exact ⟨'n', by decide⟩
    · exact ⟨'r', by decide⟩
    · exact ⟨'t', by decide⟩
  · simp only [List.mem_cons, List.not_mem_nil, or_false, not_or] at special
    obtain ⟨quote, backslash, back, feed, line, carriage, tab⟩ := special
    by_cases control : c.toNat < 0x20
    · refine Or.inr (Or.inr ⟨?_, control, ?_⟩)
      · simp only [escapedChar, quote, backslash, back, feed, line, carriage, tab, control,
          if_true, if_false]
      · simp [isCoded, control, back, feed, line, carriage, tab]
    · refine Or.inl ⟨?_, quote, backslash, Nat.le_of_not_lt control⟩
      simp only [escapedChar, quote, backslash, back, feed, line, carriage, tab, control, if_false]

theorem readText_quote (rest : List Char) : readText ('"' :: rest) = (⟨[], .closed⟩, rest) := by
  rw [readText.eq_def]
  rfl

/-- A written character is read as one piece of the string. -/
theorem readText_escapedChar (c : Char) (rest : List Char) :
    readText (escapedChar c ++ rest) = (readText rest).map (·.push (pieceOf c)) id := by
  have opens : '\\' ≠ '"' := by decide
  rcases escapedChar_cases c with
    ⟨written, quote, backslash, printable⟩ | ⟨letter, written, noUnit, meant, uncoded⟩ |
      ⟨written, control, coded⟩
  · have uncoded : isCoded c = false := by
      simp [isCoded, Nat.not_lt.mpr printable]
    rw [written, List.singleton_append, readText.eq_def, pieceOf, uncoded]
    simp only [quote, backslash, Nat.not_lt.mpr printable, if_false, Bool.false_eq_true]
  · rw [written, List.cons_append, List.singleton_append, readText.eq_def, pieceOf, uncoded]
    simp only [opens, noUnit, meant, if_true, if_false, Bool.false_eq_true]
  · rw [written, readText.eq_def, pieceOf, coded]
    simp only [List.cons_append, List.nil_append, opens, hexUnit?_of_control control, if_true,
      if_false]

theorem readText_written (cs rest : List Char) :
    readText (cs.flatMap escapedChar ++ '"' :: rest) = (⟨cs.map pieceOf, .closed⟩, rest) := by
  induction cs with
  | nil => exact readText_quote rest
  | cons c cs ih =>
      rw [List.flatMap_cons, List.append_assoc, readText_escapedChar, ih]
      rfl

theorem lex_textChars (content : String) (rest : List Char) :
    lex (textChars content ++ rest) = .text (textToken content) :: lex rest := by
  have opened : readToken '"' (content.toList.flatMap escapedChar ++ '"' :: rest) =
      (.text (textToken content), rest) := by
    have read := readText_written content.toList rest
    rw [readToken, show mark? '"' = none from rfl, show word? '"' = none from rfl]
    simp only [if_true, read]
    rfl
  have whole : textChars content ++ rest =
      '"' :: (content.toList.flatMap escapedChar ++ '"' :: rest) := by
    simp only [textChars, List.cons_append, List.append_assoc, List.nil_append]
  rw [whole, lex_of_token (by decide), opened]

theorem pieceChars_closed (cs : List Char) : pieceChars .closed (cs.map pieceOf) = .ok cs := by
  induction cs with
  | nil => rfl
  | cons c cs ih =>
      rw [List.map_cons, pieceOf]
      split
      · -- The unit of a control character is no surrogate, so it stands for itself.
        rename_i coded
        have control : c.toNat < 0x20 := by
          simp only [isCoded, Bool.and_eq_true, decide_eq_true_eq] at coded
          exact coded.1
        have noLow : isLowSurrogate c.toNat = false := by
          simp only [isLowSurrogate, Bool.and_eq_false_iff, decide_eq_false_iff_not]
          omega
        have noHigh : isHighSurrogate c.toNat = false := by
          simp only [isHighSurrogate, Bool.and_eq_false_iff, decide_eq_false_iff_not]
          omega
        rw [pieceChars.eq_def]
        simp only [noLow, noHigh, ih, Char.ofNat_toNat, Bool.false_eq_true, if_false]
        rfl
      · rw [pieceChars, ih]
        rfl

/-- The token of a written string stands for that string. -/
theorem textToken_value (content : String) : (textToken content).value = .ok content := by
  rw [TextToken.value, textToken, pieceChars_closed]
  exact congrArg Except.ok String.ofList_toList

/-! ## Numbers -/

def continuesNumber (c : Char) : Bool :=
  (digitValue? c).isSome || c = '.' || c = 'e' || c = 'E'

/-- The text does not go on with a number that ends before it. -/
def Apart (cs : List Char) : Prop :=
  ∀ c ∈ cs.head?, continuesNumber c = false

theorem apart_nil : Apart [] := by
  intro c member
  cases member

theorem apart_cons {c : Char} (other : continuesNumber c = false) (rest : List Char) :
    Apart (c :: rest) := by
  intro d member
  cases member
  exact other

def decimalDigits (n : Nat) : List Nat :=
  (Nat.toDigits 10 n).map fun c => c.toNat - '0'.toNat

def numberToken (n : Nat) : NumberToken :=
  ⟨false, decimalDigits n, none, none⟩

theorem splitDigits_of_apart {rest : List Char} (apart : Apart rest) :
    splitDigits rest = ([], rest) := by
  cases rest with
  | nil => rfl
  | cons c rest =>
      have other := apart c rfl
      simp only [continuesNumber, Bool.or_eq_false_iff, Option.isSome_eq_false_iff,
        Option.isNone_iff_eq_none] at other
      rw [splitDigits, other.1.1.1]

theorem splitDigits_append {digits rest : List Char} (all : ∀ c ∈ digits, c.isDigit = true)
    (apart : Apart rest) :
    splitDigits (digits ++ rest) = (digits.map fun c => c.toNat - '0'.toNat, rest) := by
  induction digits with
  | nil => exact splitDigits_of_apart apart
  | cons c digits ih =>
      rw [List.cons_append, splitDigits, digitValue?_of_isDigit (all c List.mem_cons_self),
        ih fun d member => all d (List.mem_cons_of_mem c member)]
      rfl

theorem readExponent_of_ne (number : NumberToken) {c : Char} (noSmall : c ≠ 'e')
    (noCapital : c ≠ 'E') (rest : List Char) :
    readExponent number (c :: rest) = (.number number, c :: rest) := by
  rw [readExponent.eq_def]
  split <;> simp_all

theorem readFraction_of_apart (number : NumberToken) {rest : List Char} (apart : Apart rest) :
    readFraction number rest = (.number number, rest) := by
  cases rest with
  | nil => rfl
  | cons c rest =>
      have other := apart c rfl
      simp only [continuesNumber, Bool.or_eq_false_iff, decide_eq_false_iff_not] at other
      obtain ⟨⟨⟨_, noPoint⟩, noSmall⟩, noCapital⟩ := other
      rw [readFraction.eq_def]
      split
      · rename_i same
        exact absurd (List.cons.inj same).1 noPoint
      · exact readExponent_of_ne number noSmall noCapital rest

theorem decimalDigits_eq (n : Nat) :
    decimalDigits n = if n < 10 then [n] else decimalDigits (n / 10) ++ [n % 10] := by
  rw [decimalDigits, Nat.toDigits_eq_if (by decide)]
  split
  · rename_i small
    exact congrArg ([·]) (Nat.toNat_digitChar_sub_48_of_lt_ten small)
  · have last : (n % 10).digitChar.toNat - 48 = n % 10 :=
      Nat.toNat_digitChar_sub_48_of_lt_ten (Nat.mod_lt n (by decide))
    rw [List.map_append]
    exact congrArg (decimalDigits (n / 10) ++ [·]) last

theorem decimalDigits_ne_nil (n : Nat) : decimalDigits n ≠ [] := by
  rw [decimalDigits, Ne, List.map_eq_nil_iff]
  exact Nat.toDigits_ne_nil

/-- No natural number but zero is written with a zero in front. -/
theorem eq_zero_of_decimalDigits {n : Nat} {more : List Nat}
    (front : decimalDigits n = 0 :: more) : n = 0 := by
  induction n using Nat.strongRecOn generalizing more with
  | ind n ih =>
      rw [decimalDigits_eq] at front
      split at front
      · exact (List.cons.inj front).1
      · obtain ⟨digit, digits, written⟩ :=
          List.exists_cons_of_ne_nil (decimalDigits_ne_nil (n / 10))
        rw [written, List.cons_append] at front
        have tenth : n / 10 = 0 :=
          ih (n / 10) (by omega) (written.trans (congrArg (· :: digits) (List.cons.inj front).1))
        omega

theorem readNumber_repr (n : Nat) {rest : List Char} (apart : Apart rest) :
    readNumber false (n.repr.toList ++ rest) = (.number (numberToken n), rest) := by
  have split : splitDigits (n.repr.toList ++ rest) = (decimalDigits n, rest) := by
    have split := splitDigits_append (fun c => isDigit_of_mem_repr (n := n)) apart
    rwa [Nat.repr_eq_ofList_toDigits, String.toList_ofList] at split ⊢
  obtain ⟨digit, digits, written⟩ := List.exists_cons_of_ne_nil (decimalDigits_ne_nil n)
  have single : ¬(digit = 0 ∧ digits ≠ []) := by
    rintro ⟨rfl, longer⟩
    cases eq_zero_of_decimalDigits written
    exact longer (List.cons.inj written).2.symm
  rw [readNumber, split, numberToken, written]
  simp only [single, if_false]
  exact readFraction_of_apart _ apart

theorem starts_of_isDigit {c : Char} (digit : c.isDigit = true) :
    isGap c = false ∧ mark? c = none ∧ word? c = none ∧ c ≠ '"' ∧ c ≠ '-' := by
  refine of_isDigit digit ?_
  decide

/-- A token that starts with a digit is a number. -/
theorem lex_of_isDigit {c : Char} (digit : c.isDigit = true) (rest : List Char) :
    lex (c :: rest) =
      (readNumber false (c :: rest)).1 :: lex (readNumber false (c :: rest)).2 := by
  obtain ⟨noGap, noMark, noWord, noQuote, noMinus⟩ := starts_of_isDigit digit
  rw [lex_of_token noGap, readToken, noMark, noWord]
  simp only [noQuote, noMinus, digitValue?_of_isDigit digit, Option.isSome_some, if_true, if_false]

/-- A written natural number is one token of a text that does not go on with it. -/
theorem lex_repr (n : Nat) {rest : List Char} (apart : Apart rest) :
    lex (n.repr.toList ++ rest) = .number (numberToken n) :: lex rest := by
  obtain ⟨c, digits, written⟩ := List.exists_cons_of_ne_nil (repr_ne_nil n)
  have digit : c.isDigit = true := isDigit_of_mem_repr (n := n) (written ▸ List.mem_cons_self)
  have read := readNumber_repr n apart
  rw [written, List.cons_append] at read ⊢
  rw [lex_of_isDigit digit, read]

/-- Digits that make a number of 64 bits are taken in as that number. -/
theorem takeWhole_of_fits {value : Nat} {digits : List Char}
    (fits : Nat.ofDigitChars 10 digits value ≤ maxWord64) :
    takeWhole value (digits.map fun c => c.toNat - '0'.toNat) =
      ⟨Nat.ofDigitChars 10 digits value, 0⟩ := by
  induction digits generalizing value with
  | nil => rfl
  | cons c digits ih =>
      rw [Nat.ofDigitChars_cons, Nat.mul_comm 10 value] at fits ⊢
      have shorter : value * 10 + (c.toNat - '0'.toNat) ≤ maxWord64 :=
        Nat.le_trans (le_ofDigitChars _ digits) fits
      rw [List.map_cons, takeWhole, appendDigit?, if_pos shorter]
      exact ih fits

/-- The token of a written natural number of 64 bits stands for that number. -/
theorem numberToken_value {n : Nat} (fits : n ≤ maxWord64) :
    (numberToken n).value = .ok (.integer n) := by
  have value : Nat.ofDigitChars 10 (Nat.toDigits 10 n) 0 = n := Nat.ofDigitChars_ten_toDigits
  have taken : takeWhole 0 (decimalDigits n) = ⟨n, 0⟩ := by
    have taken := takeWhole_of_fits (value.symm ▸ fits)
    rwa [value] at taken
  rw [NumberToken.value, numberToken, taken]
  rfl

end DepositDirectory.Json
