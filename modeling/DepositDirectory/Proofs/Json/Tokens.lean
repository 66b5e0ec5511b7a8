import DepositDirectory.Proofs.Json.Outlines
import Mathlib.Data.List.Chain

/-!
# How tokens are spelled

The spelling of a token is what the grammar of JSON lets stand for it: a string is its characters
between quotes, each as it is, as a short escape or as the code of a unit; a number is a sign, whole
digits without a zero too many, a fraction and an exponent.  A text is split into tokens exactly as
it is spelled with them, with gaps anywhere between; a token that broke off has no spelling.
-/

namespace DepositDirectory.Json

open Text (digitValue? isDigit_of_digitValue?)

/-! ## Spellings -/

/-- How one character of a string is spelled: as it is, as a short escape, or as the code of a
unit. -/
inductive Piece.Spelled : Piece → List Char → Prop where
  | plain {c : Char} (noQuote : c ≠ '"') (noBackslash : c ≠ '\\') (printable : 0x20 ≤ c.toNat) :
      Spelled (.char c) [c]
  | short {letter c : Char} (meant : escaped? letter = some c) : Spelled (.char c) ['\\', letter]
  | code {a b c d : Char} {n : Nat} (unit : hexUnit? a b c d = some n) :
      Spelled (.unit n) ['\\', 'u', a, b, c, d]

/-- How the characters of a string are spelled. -/
inductive PiecesSpelled : List Piece → List Char → Prop where
  | nil : PiecesSpelled [] []
  | cons {piece : Piece} {chars : List Char} {pieces : List Piece} {rest : List Char}
      (first : piece.Spelled chars) (others : PiecesSpelled pieces rest) :
      PiecesSpelled (piece :: pieces) (chars ++ rest)

/-- Digits with their values; there is at least one. -/
def DigitsSpelled (digits : List Nat) (cs : List Char) : Prop :=
  digits ≠ [] ∧ cs.map digitValue? = digits.map some

/-- How the fraction of a number is spelled, if there is one. -/
inductive FractionSpelled : Option (List Nat) → List Char → Prop where
  | none : FractionSpelled none []
  | some {digits : List Nat} {cs : List Char} (spelled : DigitsSpelled digits cs) :
      FractionSpelled (some digits) ('.' :: cs)

/-- How the sign of an exponent is spelled: a minus, a plus or nothing. -/
inductive SignSpelled : Bool → List Char → Prop where
  | minus : SignSpelled true ['-']
  | plus : SignSpelled false ['+']
  | bare : SignSpelled false []

/-- How the exponent of a number is spelled, if there is one. -/
inductive ExponentSpelled : Option ExponentPart → List Char → Prop where
  | none : ExponentSpelled none []
  | some {mark : Char} {negative : Bool} {sign cs : List Char} {digits : List Nat}
      (marked : mark = 'e' ∨ mark = 'E') (signed : SignSpelled negative sign)
      (spelled : DigitsSpelled digits cs) :
      ExponentSpelled (some ⟨negative, digits⟩) (mark :: (sign ++ cs))

/-- The sign of a number is spelled with a minus, or not at all. -/
def signChars (negative : Bool) : List Char :=
  if negative then ['-'] else []

/-- How a number is spelled.  A whole part of two or more digits does not begin with zero. -/
inductive NumberToken.Spelled : NumberToken → List Char → Prop where
  | mk {negative : Bool} {whole : List Nat} {fraction : Option (List Nat)}
      {exponent : Option ExponentPart} {wholeChars fractionChars exponentChars : List Char}
      (digits : DigitsSpelled whole wholeChars) (bare : whole.head? = some 0 → whole = [0])
      (further : FractionSpelled fraction fractionChars)
      (scaled : ExponentSpelled exponent exponentChars) :
      Spelled ⟨negative, whole, fraction, exponent⟩
        (signChars negative ++ (wholeChars ++ (fractionChars ++ exponentChars)))

/-- How a token is spelled; one that broke off is not. -/
def Token.Spelled : Token → List Char → Prop
  | .openList, cs => cs = ['[']
  | .closeList, cs => cs = [']']
  | .openObject, cs => cs = ['\x7b']
  | .closeObject, cs => cs = ['\x7d']
  | .comma, cs => cs = [',']
  | .colon, cs => cs = [':']
  | .null, cs => cs = ['n', 'u', 'l', 'l']
  | .bool true, cs => cs = ['t', 'r', 'u', 'e']
  | .bool false, cs => cs = ['f', 'a', 'l', 's', 'e']
  | .text token, cs => token.ending = .closed ∧
      ∃ inside, cs = '"' :: (inside ++ ['"']) ∧ PiecesSpelled token.pieces inside
  | .number token, cs => token.Spelled cs
  | .misspelt _, _ => False
  | .brokenNumber _, _ => False
  | .junk, _ => False

def Token.Unbroken : Token → Prop
  | .text token => token.ending = .closed
  | .misspelt _ => False
  | .brokenNumber _ => False
  | .junk => False
  | _ => True

/-- How a text is spelled with tokens, with gaps before, between and after them. -/
inductive Spelled : List Token → List Char → Prop where
  | nil {gap : List Char} (blank : ∀ c ∈ gap, isGap c = true) : Spelled [] gap
  | cons {gap chars rest : List Char} {token : Token} {tokens : List Token}
      (blank : ∀ c ∈ gap, isGap c = true) (first : token.Spelled chars)
      (others : Spelled tokens rest) : Spelled (token :: tokens) (gap ++ (chars ++ rest))

/-! ## Strings -/

theorem readText_of_piece {piece : Piece} {chars : List Char} (spelled : piece.Spelled chars)
    (rest : List Char) :
    readText (chars ++ rest) = (readText rest).map (·.push piece) id := by
  have opens : '\\' ≠ '"' := by decide
  rw [readText.eq_def]
  cases spelled with
  | plain noQuote noBackslash printable =>
      simp only [List.singleton_append, noQuote, noBackslash, Nat.not_lt.mpr printable, if_false]
  | @short letter c meant =>
      have noUnit : letter ≠ 'u' := by
        rintro rfl
        cases meant
      simp only [List.cons_append, List.nil_append, opens, noUnit, meant, if_true, if_false]
  | code unit => simp only [List.cons_append, List.nil_append, opens, unit, if_true, if_false]

theorem readText_of_spelled {pieces : List Piece} {inside : List Char}
    (spelled : PiecesSpelled pieces inside) (rest : List Char) :
    readText (inside ++ '"' :: rest) = (⟨pieces, .closed⟩, rest) := by
  induction spelled with
  | nil => exact readText_quote rest
  | cons first others ih =>
      rw [List.append_assoc, readText_of_piece first, ih]
      rfl

theorem exists_of_push {read : TextToken × List Char} {piece : Piece} {pieces : List Piece}
    {rest : List Char} (pushed : read.map (·.push piece) id = (⟨pieces, .closed⟩, rest)) :
    ∃ others, read = (⟨others, .closed⟩, rest) ∧ pieces = piece :: others := by
  obtain ⟨⟨others, ending⟩, after⟩ := read
  cases pushed
  exact ⟨others, rfl, rfl⟩

theorem spelled_of_readText {cs rest : List Char} {pieces : List Piece}
    (read : readText cs = (⟨pieces, .closed⟩, rest)) :
    ∃ inside, cs = inside ++ '"' :: rest ∧ PiecesSpelled pieces inside := by
  have further {piece : Piece} {chars after : List Char} {pieces : List Piece}
      (first : piece.Spelled chars)
      (pushed : (readText after).map (·.push piece) id = (⟨pieces, .closed⟩, rest))
      (ih : ∀ {others}, readText after = (⟨others, .closed⟩, rest) →
        ∃ inside, after = inside ++ '"' :: rest ∧ PiecesSpelled others inside) :
      ∃ inside, chars ++ after = inside ++ '"' :: rest ∧ PiecesSpelled pieces inside := by
    obtain ⟨others, before, rfl⟩ := exists_of_push pushed
    obtain ⟨inside, rfl, spelled⟩ := ih before
    exact ⟨chars ++ inside, (List.append_assoc _ _ _).symm, .cons first spelled⟩
  fun_induction readText cs generalizing pieces with
  | case2 after =>
      cases read
      exact ⟨[], rfl, .nil⟩
  | case4 a b c d after n unit _ ih => exact further (.code unit) read ih
  | case7 letter after _ c meant _ ih => exact further (.short meant) read ih
  | case10 c after noQuote noBackslash printable ih =>
      exact further (.plain noQuote noBackslash (Nat.le_of_not_lt printable)) read ih
  | case6 few =>
      unfold shortUnit at read
      split at read <;> cases read
  | _ => cases read

/-! ## Numbers -/

section

variable {number : NumberToken} {token : Token} {negative : Bool} {digits whole : List Nat}
  {cs front rest : List Char}

def EndsDigits (cs : List Char) : Prop :=
  ∀ c ∈ cs.head?, digitValue? c = none

theorem endsDigits_cons {c : Char} (noDigit : digitValue? c = none) (rest : List Char) :
    EndsDigits (c :: rest) := by
  rintro d ⟨⟩
  exact noDigit

theorem Apart.endsDigits (apart : Apart rest) : EndsDigits rest := by
  intro c head
  have other := apart c head
  simp only [continuesNumber, Bool.or_eq_false_iff, Option.isSome_eq_false_iff,
    Option.isNone_iff_eq_none] at other
  exact other.1.1.1

theorem splitDigits_of_spelled (spelled : front.map digitValue? = digits.map some)
    (ended : EndsDigits rest) : splitDigits (front ++ rest) = (digits, rest) := by
  induction front generalizing digits with
  | nil =>
      rw [List.map_nil, eq_comm, List.map_eq_nil_iff] at spelled
      subst spelled
      cases rest with
      | nil => rfl
      | cons c rest => rw [List.nil_append, splitDigits, ended c rfl]
  | cons c front ih =>
      cases digits with
      | nil => cases spelled
      | cons digit digits =>
          obtain ⟨value, spelled⟩ := List.cons.inj spelled
          rw [List.cons_append, splitDigits, value, ih spelled]
          rfl

theorem spelled_of_splitDigits (split : splitDigits cs = (digits, rest)) :
    ∃ front, cs = front ++ rest ∧ front.map digitValue? = digits.map some := by
  induction cs generalizing digits with
  | nil =>
      cases split
      exact ⟨[], rfl, rfl⟩
  | cons c cs ih =>
      rw [splitDigits] at split
      cases value : digitValue? c with
      | none =>
          rw [value] at split
          cases split
          exact ⟨[], rfl, rfl⟩
      | some digit =>
          rw [value] at split
          cases split
          obtain ⟨front, text, spelled⟩ := ih rfl
          refine ⟨c :: front, congrArg (c :: ·) text, ?_⟩
          rw [List.map_cons, value, spelled, List.map_cons]

theorem readExponentDigits_of_spelled (spelled : DigitsSpelled digits front)
    (ended : EndsDigits rest) :
    readExponentDigits number negative (front ++ rest) =
      (.number { number with exponent := some ⟨negative, digits⟩ }, rest) := by
  obtain ⟨some, spelled⟩ := spelled
  obtain ⟨first, more, rfl⟩ := List.exists_cons_of_ne_nil some
  rw [readExponentDigits, splitDigits_of_spelled spelled ended]

theorem spelled_of_readExponentDigits
    (found : readExponentDigits number negative cs = (token, rest)) (unbroken : token.Unbroken) :
    ∃ digits front, cs = front ++ rest ∧ DigitsSpelled digits front ∧
      token = .number { number with exponent := some ⟨negative, digits⟩ } := by
  unfold readExponentDigits at found
  split at found
  · cases found
    cases unbroken
  · rename_i digits after some split
    cases found
    obtain ⟨front, text, spelled⟩ := spelled_of_splitDigits split
    exact ⟨digits, front, text, ⟨some, spelled⟩, rfl⟩

theorem readExponent_of_mark {mark first : Char} (marked : mark = 'e' ∨ mark = 'E')
    (noPlus : first ≠ '+') (noMinus : first ≠ '-') :
    readExponent number (mark :: first :: cs) = readExponentDigits number false (first :: cs) := by
  rw [readExponent.eq_def]
  rcases marked with rfl | rfl
  · split <;> simp_all
  · split <;> simp_all

theorem readExponent_of_apart (apart : Apart rest) :
    readExponent number rest = (.number number, rest) := by
  cases rest with
  | nil => rfl
  | cons c rest =>
      have other := apart c rfl
      simp only [continuesNumber, Bool.or_eq_false_iff, decide_eq_false_iff_not] at other
      exact readExponent_of_ne number other.1.2 other.2 rest

theorem readExponent_of_spelled {exponent : Option ExponentPart} (bare : number.exponent = none)
    (spelled : ExponentSpelled exponent front) (apart : Apart rest) :
    readExponent number (front ++ rest) = (.number { number with exponent := exponent }, rest) := by
  cases spelled with
  | none =>
      rw [← bare]
      exact readExponent_of_apart apart
  | @some mark negative sign digitChars digits marked signed spelled =>
      have told := @readExponentDigits_of_spelled number negative digits _ rest spelled
        apart.endsDigits
      rw [← told, List.cons_append, List.append_assoc]
      cases signed with
      | minus => rcases marked with rfl | rfl <;> rfl
      | plus => rcases marked with rfl | rfl <;> rfl
      | bare =>
          -- Without a sign the first digit follows the mark, and no digit is a sign.
          obtain ⟨some, spelled⟩ := spelled
          obtain ⟨digit, others, rfl⟩ := List.exists_cons_of_ne_nil some
          cases digitChars with
          | nil => cases spelled
          | cons first more =>
              have value := (List.cons.inj spelled).1
              refine readExponent_of_mark marked ?_ ?_
              · rintro rfl
                cases value
              · rintro rfl
                cases value

theorem spelled_of_readExponent (bare : number.exponent = none)
    (found : readExponent number cs = (token, rest)) (unbroken : token.Unbroken) :
    ∃ exponent front, cs = front ++ rest ∧ ExponentSpelled exponent front ∧
      token = .number { number with exponent := exponent } := by
  have further {mark : Char} {sign after : List Char} {negative : Bool}
      (marked : mark = 'e' ∨ mark = 'E') (signed : SignSpelled negative sign)
      (found : readExponentDigits number negative after = (token, rest)) :
      ∃ exponent front, mark :: (sign ++ after) = front ++ rest ∧ ExponentSpelled exponent front ∧
        token = .number { number with exponent := exponent } := by
    obtain ⟨digits, front, rfl, spelled, rfl⟩ := spelled_of_readExponentDigits found unbroken
    refine ⟨_, _, ?_, .some marked signed spelled, rfl⟩
    rw [List.cons_append, List.append_assoc]
  unfold readExponent at found
  split at found
  · exact further (.inl rfl) .plus found
  · exact further (.inl rfl) .minus found
  · exact further (.inl rfl) .bare found
  · exact further (.inr rfl) .plus found
  · exact further (.inr rfl) .minus found
  · exact further (.inr rfl) .bare found
  · cases found
    refine ⟨none, [], rfl, .none, ?_⟩
    rw [← bare]

theorem ExponentSpelled.endsDigits {exponent : Option ExponentPart}
    (spelled : ExponentSpelled exponent front) (apart : Apart rest) :
    EndsDigits (front ++ rest) := by
  cases spelled with
  | none => exact apart.endsDigits
  | some marked signed spelled => rcases marked with rfl | rfl <;> exact endsDigits_cons rfl _

theorem FractionSpelled.endsDigits {fraction : Option (List Nat)}
    (spelled : FractionSpelled fraction front) (ended : EndsDigits rest) :
    EndsDigits (front ++ rest) := by
  cases spelled with
  | none => exact ended
  | some spelled => exact endsDigits_cons rfl _

theorem readFraction_of_ne {c : Char} (noPoint : c ≠ '.') :
    readFraction number (c :: cs) = readExponent number (c :: cs) := by
  rw [readFraction.eq_def]
  split
  · rename_i same
    exact absurd (List.cons.inj same).1 noPoint
  · rfl

theorem readFraction_of_spelled {fraction : Option (List Nat)} {exponent : Option ExponentPart}
    {exponentChars : List Char} (unread : number.fraction = none ∧ number.exponent = none)
    (further : FractionSpelled fraction front) (scaled : ExponentSpelled exponent exponentChars)
    (apart : Apart rest) :
    readFraction number (front ++ (exponentChars ++ rest)) =
      (.number { number with fraction := fraction, exponent := exponent }, rest) := by
  cases further with
  | none =>
      have read := readExponent_of_spelled unread.2 scaled apart
      rw [← unread.1, ← read]
      cases scaled with
      | none => exact (readFraction_of_apart number apart).trans (readExponent_of_apart apart).symm
      | some marked signed spelled =>
          rcases marked with rfl | rfl <;> exact readFraction_of_ne (by decide)
  | @some digits digitChars spelled =>
      have split := splitDigits_of_spelled spelled.2 (scaled.endsDigits apart)
      obtain ⟨first, more, rfl⟩ := List.exists_cons_of_ne_nil spelled.1
      have bare :
          ({ number with fraction := some (first :: more) } : NumberToken).exponent = none :=
        unread.2
      rw [List.cons_append, readFraction, split]
      exact readExponent_of_spelled bare scaled apart

theorem spelled_of_readFraction (unread : number.fraction = none ∧ number.exponent = none)
    (found : readFraction number cs = (token, rest)) (unbroken : token.Unbroken) :
    ∃ fraction exponent front exponentChars, cs = front ++ (exponentChars ++ rest) ∧
      FractionSpelled fraction front ∧ ExponentSpelled exponent exponentChars ∧
      token = .number { number with fraction := fraction, exponent := exponent } := by
  unfold readFraction at found
  split at found
  · split at found
    · cases found
      cases unbroken
    · rename_i digits after filled split
      have bare : ({ number with fraction := some digits } : NumberToken).exponent = none :=
        unread.2
      obtain ⟨digitChars, rfl, digitsSpelled⟩ := spelled_of_splitDigits split
      obtain ⟨exponent, exponentChars, rfl, spelled, rfl⟩ :=
        spelled_of_readExponent bare found unbroken
      exact ⟨_, exponent, _, exponentChars, rfl, .some ⟨filled, digitsSpelled⟩, spelled, rfl⟩
  · obtain ⟨exponent, exponentChars, rfl, spelled, rfl⟩ :=
      spelled_of_readExponent unread.2 found unbroken
    refine ⟨none, exponent, [], exponentChars, rfl, .none, spelled, ?_⟩
    rw [← unread.1]

theorem DigitsSpelled.exists_cons (spelled : DigitsSpelled digits front) :
    ∃ first more, front = first :: more ∧ first.isDigit = true := by
  obtain ⟨filled, spelled⟩ := spelled
  obtain ⟨digit, others, rfl⟩ := List.exists_cons_of_ne_nil filled
  cases front with
  | nil => cases spelled
  | cons first more =>
      exact ⟨first, more, rfl, isDigit_of_digitValue? (List.cons.inj spelled).1⟩

/-- A number is read as it is spelled, unless the text goes on with it. -/
theorem readNumber_of_spelled {token : NumberToken} (spelled : token.Spelled front)
    (apart : Apart rest) :
    ∃ first more, front = signChars token.negative ++ first :: more ∧ first.isDigit = true ∧
      readNumber token.negative (first :: (more ++ rest)) = (.number token, rest) := by
  obtain ⟨digits, bare, further, scaled⟩ := spelled
  have split := splitDigits_of_spelled digits.2 (further.endsDigits (scaled.endsDigits apart))
  obtain ⟨first, more, rfl, digit⟩ := digits.exists_cons
  refine ⟨first, more ++ (_ ++ _), rfl, digit, ?_⟩
  obtain ⟨leading, others, rfl⟩ := List.exists_cons_of_ne_nil digits.1
  have single : ¬(leading = 0 ∧ others ≠ []) := by
    rintro ⟨rfl, longer⟩
    exact longer (List.cons.inj (bare rfl)).2
  rw [List.cons_append] at split
  rw [List.append_assoc, List.append_assoc, readNumber, split]
  simp only [single, if_false]
  exact readFraction_of_spelled ⟨rfl, rfl⟩ further scaled apart

theorem spelled_of_readNumber (found : readNumber negative cs = (token, rest))
    (unbroken : token.Unbroken) :
    ∃ front, signChars negative ++ cs = front ++ rest ∧ token.Spelled front := by
  unfold readNumber at found
  split at found
  · cases found
    cases unbroken
  · rename_i first more after split
    split at found
    · cases found
      cases unbroken
    · rename_i single
      obtain ⟨wholeChars, rfl, digits⟩ := spelled_of_splitDigits split
      obtain ⟨fraction, exponent, fractionChars, exponentChars, rfl, further, scaled, rfl⟩ :=
        spelled_of_readFraction ⟨rfl, rfl⟩ found unbroken
      have bare : (first :: more).head? = some 0 → first :: more = [0] := by
        rintro ⟨⟩
        rw [not_and_not_right] at single
        rw [single rfl]
      refine ⟨_, ?_, .mk ⟨List.cons_ne_nil first more, digits⟩ bare further scaled⟩
      simp only [signChars, List.append_assoc]

end

/-! ## Tokens -/

section

variable {token meaning : Token} {c : Char} {due chars rest after : List Char}

def Token.isNumber : Token → Bool
  | .number _ => true
  | _ => false

/-- A number is split off as it is spelled, unless the text goes on with it. -/
theorem lex_of_numberSpelled {number : NumberToken} (spelled : number.Spelled chars)
    (apart : Apart rest) : lex (chars ++ rest) = .number number :: lex rest := by
  obtain ⟨first, more, rfl, digit, read⟩ := readNumber_of_spelled spelled apart
  cases sign : number.negative with
  | true =>
      rw [sign] at read
      have token : readToken '-' (first :: (more ++ rest)) = (.number number, rest) := read
      rw [signChars, if_pos rfl, List.cons_append, List.nil_append, List.cons_append,
        List.cons_append, lex_of_token (by decide), token]
  | false =>
      rw [sign] at read
      rw [signChars, if_neg Bool.false_ne_true, List.nil_append, List.cons_append,
        lex_of_isDigit digit, read]

/-- A token is split off as it is spelled; only a number can be gone on with. -/
theorem lex_of_spelled (spelled : token.Spelled chars)
    (apart : token.isNumber = true → Apart rest) : lex (chars ++ rest) = token :: lex rest := by
  cases token with
  | openList => cases spelled; exact lex_mark rfl rfl rest
  | closeList => cases spelled; exact lex_mark rfl rfl rest
  | openObject => cases spelled; exact lex_mark rfl rfl rest
  | closeObject => cases spelled; exact lex_mark rfl rfl rest
  | comma => cases spelled; exact lex_mark rfl rfl rest
  | colon => cases spelled; exact lex_mark rfl rfl rest
  | null => cases spelled; exact lex_null rest
  | bool value =>
      cases value with
      | true =>
          cases spelled
          have read : readToken 't' (['r', 'u', 'e'] ++ rest) = (.bool true, rest) := rfl
          rw [List.cons_append, lex_of_token (by decide), read]
      | false =>
          cases spelled
          have read : readToken 'f' (['a', 'l', 's', 'e'] ++ rest) = (.bool false, rest) := rfl
          rw [List.cons_append, lex_of_token (by decide), read]
  | text token =>
      obtain ⟨pieces, ending⟩ := token
      obtain ⟨rfl, inside, rfl, spelled⟩ := spelled
      have read : readToken '"' (inside ++ '"' :: rest) = (.text ⟨pieces, .closed⟩, rest) :=
        congrArg (Prod.map Token.text id) (readText_of_spelled spelled rest)
      rw [List.cons_append, List.append_assoc, List.singleton_append, lex_of_token (by decide),
        read]
  | number token => exact lex_of_numberSpelled spelled (apart rfl)
  | misspelt found => cases spelled
  | brokenNumber found => cases spelled
  | junk => cases spelled

theorem spelled_of_mark (mark : mark? c = some token) : token.Spelled [c] := by
  simp only [mark?] at mark
  split_ifs at mark <;> cases mark <;> simp_all [Token.Spelled]

theorem spelled_of_word (word : word? c = some (meaning, due)) : meaning.Spelled (c :: due) := by
  simp only [word?] at word
  split_ifs at word <;> cases word <;> simp_all [Token.Spelled]

theorem eq_of_readWord (read : readWord meaning due rest = (token, after))
    (unbroken : token.Unbroken) : token = meaning ∧ rest = due ++ after := by
  fun_induction readWord meaning due rest with
  | case1 rest =>
      cases read
      exact ⟨rfl, rfl⟩
  | case2 =>
      cases read
      cases unbroken
  | case3 left c rest ih =>
      obtain ⟨rfl, rfl⟩ := ih read
      exact ⟨rfl, rfl⟩
  | case4 =>
      cases read
      cases unbroken

theorem spelled_of_readToken (read : readToken c rest = (token, after))
    (unbroken : token.Unbroken) : ∃ chars, c :: rest = chars ++ after ∧ token.Spelled chars := by
  unfold readToken at read
  split at read
  · rename_i mark
    cases read
    exact ⟨[c], rfl, spelled_of_mark mark⟩
  · split at read
    · rename_i word
      obtain ⟨rfl, rfl⟩ := eq_of_readWord read unbroken
      exact ⟨_, rfl, spelled_of_word word⟩
    · split at read
      · rename_i quote
        subst quote
        obtain ⟨⟨⟨pieces, ending⟩, left⟩, inside⟩ : ∃ found, readText rest = found := ⟨_, rfl⟩
        rw [inside] at read
        cases read
        cases unbroken
        obtain ⟨between, rfl, spelled⟩ := spelled_of_readText inside
        refine ⟨'"' :: (between ++ ['"']), ?_, rfl, between, rfl, spelled⟩
        rw [List.cons_append, List.append_assoc]
        rfl
      · split at read
        · rename_i minus
          subst minus
          exact spelled_of_readNumber read unbroken
        · split at read
          · exact spelled_of_readNumber read unbroken
          · cases read
            cases unbroken

end

/-! ## Texts -/

section

variable {gap cs rest : List Char} {tokens : List Token}

def Separate (tokens : List Token) : Prop :=
  tokens.IsChain fun token next => token.isNumber = false ∨ next.isNumber = false

theorem lex_of_gaps (blank : ∀ c ∈ gap, isGap c = true) : lex (gap ++ rest) = lex rest := by
  induction gap with
  | nil => rfl
  | cons c gap ih =>
      rw [List.cons_append, lex_of_gap (blank c List.mem_cons_self)]
      exact ih fun d member => blank d (List.mem_cons_of_mem c member)

theorem continuesNumber_of_gap {c : Char} (gap : isGap c = true) : continuesNumber c = false := by
  simp only [isGap, Bool.or_eq_true, decide_eq_true_eq] at gap
  rcases gap with ((rfl | rfl) | rfl) | rfl <;> decide

/-- Only a number can go on with a number. -/
theorem Token.Spelled.apart {token : Token} {chars : List Char} (spelled : token.Spelled chars)
    (noNumber : token.isNumber = false) (rest : List Char) : Apart (chars ++ rest) := by
  cases token with
  | number number => cases noNumber
  | bool value => cases value <;> cases spelled <;> exact apart_cons (by decide) _
  | text token =>
      obtain ⟨closed, inside, rfl, spelled⟩ := spelled
      exact apart_cons (by decide) _
  | _ => cases spelled <;> exact apart_cons (by decide) _

/-- What does not begin with a number does not go on with one. -/
theorem Spelled.apart (spelled : Spelled tokens cs)
    (noNumber : ∀ token ∈ tokens.head?, token.isNumber = false) : Apart cs := by
  have gapped {gap rest : List Char} (blank : ∀ c ∈ gap, isGap c = true) (apart : Apart rest) :
      Apart (gap ++ rest) := by
    cases gap with
    | nil => exact apart
    | cons c gap => exact apart_cons (continuesNumber_of_gap (blank c List.mem_cons_self)) _
  cases spelled with
  | nil blank =>
      rw [← List.append_nil cs]
      exact gapped blank apart_nil
  | cons blank first others =>
      exact gapped blank (first.apart (noNumber _ rfl) _)

/-- A text is split into the tokens it is spelled with. -/
theorem lex_of_spelledTokens (spelled : Spelled tokens cs) (separate : Separate tokens) :
    lex cs = tokens := by
  induction spelled with
  | nil blank =>
      have gaps : lex (_ ++ []) = lex [] := lex_of_gaps blank
      rwa [List.append_nil, lex_nil] at gaps
  | cons blank first others ih =>
      obtain ⟨apart, separate⟩ := List.isChain_cons.mp separate
      rw [lex_of_gaps blank, lex_of_spelled first, ih separate]
      intro number
      refine others.apart fun next head => (apart next head).resolve_left ?_
      rw [number]
      exact Bool.noConfusion

theorem Spelled.gapped {c : Char} (spelled : Spelled tokens cs) (gap : isGap c = true) :
    Spelled tokens (c :: cs) := by
  cases spelled with
  | nil blank => exact .nil (List.forall_mem_cons.mpr ⟨gap, blank⟩)
  | cons blank first others =>
      exact .cons (List.forall_mem_cons.mpr ⟨gap, blank⟩) first others

/-- A text whose tokens did not break off is spelled with them. -/
theorem spelled_of_lex (unbroken : ∀ token ∈ lex cs, token.Unbroken) : Spelled (lex cs) cs := by
  fun_induction lex cs with
  | case1 => exact .nil nofun
  | case2 c rest gap ih => exact (ih unbroken).gapped gap
  | case3 c rest noGap read ih =>
      have same : readToken c rest = (read.1, read.2) := rfl
      obtain ⟨chars, text, first⟩ := spelled_of_readToken same (unbroken read.1 List.mem_cons_self)
      have others := ih fun token member => unbroken token (List.mem_cons_of_mem _ member)
      have whole := Spelled.cons (List.forall_mem_nil _) first others
      rwa [List.nil_append, ← text] at whole

end

end DepositDirectory.Json
