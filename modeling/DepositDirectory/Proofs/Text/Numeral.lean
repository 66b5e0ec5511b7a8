import DepositDirectory.Proofs.Text.Trimming
import DepositDirectory.Text.Numeral

/-!
# What a numeral is worth

A numeral is read for its decimal value, exactly: one that is within the limit gives its value,
however many zeros it starts with, and one that is past the limit gives nothing.  No other text
gives a value.  The decimal text of a number is a numeral of that number.
-/

namespace DepositDirectory.Text

/-! ## Digits -/

theorem digitValue?_of_isDigit {c : Char} (digit : c.isDigit = true) :
    digitValue? c = some (c.toNat - '0'.toNat) := by
  simp only [Char.isDigit, Bool.and_eq_true, decide_eq_true_eq] at digit
  exact if_pos digit

theorem isDigit_of_digitValue? {c : Char} {digit : Nat} (value : digitValue? c = some digit) :
    c.isDigit = true := by
  unfold digitValue? at value
  split at value
  · rename_i range
    simp only [Char.isDigit, Bool.and_eq_true, decide_eq_true_eq]
    exact range
  · cases value

@[elab_as_elim]
theorem of_isDigit {motive : Char → Prop} {c : Char} (digit : c.isDigit = true)
    (each : ∀ n ≤ 57, 48 ≤ n → motive (Char.ofNat n)) : motive c := by
  simp only [Char.isDigit, Bool.and_eq_true, decide_eq_true_eq] at digit
  have known := each c.toNat digit.2 digit.1
  rwa [Char.ofNat_toNat] at known

theorem isBlank_of_isDigit {c : Char} (digit : c.isDigit = true) : isBlank c = false := by
  refine of_isDigit digit ?_
  decide

theorem repr_ne_nil (n : Nat) : n.repr.toList ≠ [] := by
  rw [Nat.repr_eq_ofList_toDigits, String.toList_ofList]
  exact Nat.toDigits_ne_nil

theorem isDigit_of_mem_repr {n : Nat} {c : Char} (member : c ∈ n.repr.toList) :
    c.isDigit = true := by
  rw [Nat.repr_eq_ofList_toDigits, String.toList_ofList] at member
  exact Nat.isDigit_of_mem_toDigits (by decide) (by decide) member

/-! ## Reading digits -/

theorem le_ofDigitChars (value : Nat) (digits : List Char) :
    value ≤ Nat.ofDigitChars 10 digits value := by
  rw [Nat.ofDigitChars_eq_ofDigitChars_zero]
  exact Nat.le_add_right_of_le (Nat.le_mul_of_pos_left _ (Nat.pow_pos (by decide)))

/-- Digits are read for the number that they make, as long as it is within the limit. -/
theorem readDigits_eq_ok_iff {limit value n : Nat} {cs : List Char} (within : value ≤ limit) :
    readDigits limit value cs = .ok n ↔
      (∀ c ∈ cs, c.isDigit = true) ∧ Nat.ofDigitChars 10 cs value = n ∧ n ≤ limit := by
  induction cs generalizing value with
  | nil =>
      rw [readDigits, Nat.ofDigitChars_nil, Except.ok.injEq]
      exact ⟨fun same => ⟨nofun, same, same ▸ within⟩, fun read => read.2.1⟩
  | cons c rest ih =>
      cases digit : c.isDigit with
      | false =>
          have noValue : digitValue? c = none := by
            cases value : digitValue? c with
            | none => rfl
            | some d => exact absurd (isDigit_of_digitValue? value) (by simp [digit])
          rw [readDigits, noValue]
          refine ⟨nofun, fun read => ?_⟩
          exact absurd (read.1 c List.mem_cons_self) (by simp [digit])
      | true =>
          rw [readDigits, digitValue?_of_isDigit digit, Nat.ofDigitChars_cons,
            Nat.mul_comm 10 value, List.forall_mem_cons]
          simp only [digit, true_and]
          split
          · rename_i fits
            exact ih fits
          · rename_i past
            refine ⟨nofun, ?_⟩
            rintro ⟨_, rfl, fits⟩
            exact absurd (Nat.le_trans (le_ofDigitChars _ rest) fits) past

/-! ## Numerals -/

/-- How a number may be written: as one or more ASCII digits, with or without a plus sign in
front. -/
inductive Numeral : List Char → Nat → Prop where
  | plain {digits : List Char} (filled : digits ≠ []) (all : ∀ c ∈ digits, c.isDigit = true) :
      Numeral digits (Nat.ofDigitChars 10 digits 0)
  | signed {digits : List Char} (filled : digits ≠ []) (all : ∀ c ∈ digits, c.isDigit = true) :
      Numeral ('+' :: digits) (Nat.ofDigitChars 10 digits 0)

/-- A plus sign is no digit, so what starts with one is a numeral only behind it. -/
theorem numeral_plus_iff {digits : List Char} {n : Nat} :
    Numeral ('+' :: digits) n ↔
      digits ≠ [] ∧ (∀ c ∈ digits, c.isDigit = true) ∧ Nat.ofDigitChars 10 digits 0 = n := by
  constructor
  · intro numeral
    cases numeral with
    | plain filled all => exact absurd (all '+' List.mem_cons_self) (by decide)
    | signed filled all => exact ⟨filled, all, rfl⟩
  · rintro ⟨filled, all, rfl⟩
    exact .signed filled all

theorem numeral_iff_of_ne {c : Char} {rest : List Char} {n : Nat} (other : c ≠ '+') :
    Numeral (c :: rest) n ↔
      (∀ d ∈ c :: rest, d.isDigit = true) ∧ Nat.ofDigitChars 10 (c :: rest) 0 = n := by
  constructor
  · intro numeral
    cases numeral with
    | plain filled all => exact ⟨all, rfl⟩
    | signed filled all => exact absurd rfl other
  · rintro ⟨all, rfl⟩
    exact .plain (List.cons_ne_nil c rest) all

/-- What is read up to a limit is the numerals of the numbers within it. -/
theorem readNumeral_eq_ok_iff {limit n : Nat} {cs : List Char} :
    readNumeral limit cs = .ok n ↔ Numeral cs n ∧ n ≤ limit := by
  have read (digits : List Char) : readDigits limit 0 digits = .ok n ↔ _ :=
    readDigits_eq_ok_iff (Nat.zero_le limit)
  unfold readNumeral
  split
  · refine ⟨nofun, ?_⟩
    rintro ⟨⟨filled, _⟩, _⟩
    exact absurd rfl filled
  · rw [numeral_plus_iff]
    exact ⟨nofun, fun numeral => absurd rfl numeral.1.1⟩
  · rename_i digits single
    rw [numeral_plus_iff, read]
    have filled : digits ≠ [] := fun nothing => single (nothing ▸ rfl)
    simp only [filled, ne_eq, not_false_eq_true, true_and, and_assoc]
  · rename_i filled single unsigned
    obtain ⟨c, rest, rfl⟩ := List.exists_cons_of_ne_nil filled
    have other : c ≠ '+' := fun plus => unsigned rest (plus ▸ rfl)
    rw [numeral_iff_of_ne other, read, and_assoc]

theorem Numeral.sign_or_digit {before after : List Char} {c : Char} {n : Nat}
    (numeral : Numeral (before ++ c :: after) n) :
    c.isDigit = true ∨ before = [] ∧ c = '+' := by
  generalize written : before ++ c :: after = cs at numeral
  cases numeral with
  | plain filled all =>
      exact Or.inl (all c (written ▸ List.mem_append_right before List.mem_cons_self))
  | signed filled all =>
      cases before with
      | nil => exact Or.inr ⟨rfl, (List.cons.inj written).1⟩
      | cons sign before =>
          have rest := (List.cons.inj written).2
          exact Or.inl (all c (rest ▸ List.mem_append_right before List.mem_cons_self))

/-! ## Texts -/

/-- The text is a numeral of the number, blanks around it apart. -/
def TellsNumber (text : String) (n : Nat) : Prop :=
  ∃ numeral, Stripped text.toList numeral ∧ Numeral numeral n

theorem readNumeral_trimChars_eq_ok_iff {limit n : Nat} {text : String} :
    readNumeral limit (trimChars text.toList) = .ok n ↔ TellsNumber text n ∧ n ≤ limit := by
  simp only [TellsNumber, stripped_iff, exists_eq_left', readNumeral_eq_ok_iff]

/-- A character that is neither a digit nor the sign in front leaves a text without a number. -/
theorem not_tellsNumber_of_foreign {text : String} {before after : List Char} {c : Char}
    (stripped : Stripped text.toList (before ++ c :: after)) (foreign : c.isDigit = false)
    (inside : before ≠ [] ∨ c ≠ '+') (n : Nat) : ¬ TellsNumber text n := by
  rintro ⟨inner, own, numeral⟩
  have same : before ++ c :: after = inner :=
    (stripped_iff.mp stripped).symm.trans (stripped_iff.mp own)
  rw [← same] at numeral
  rcases numeral.sign_or_digit with digit | ⟨first, plus⟩
  · exact absurd digit (by simp [foreign])
  · exact inside.elim (absurd first) (absurd plus)

theorem tellsNumber_repr (n : Nat) : TellsNumber n.repr n := by
  have digits : ∀ c ∈ n.repr.toList, c.isDigit = true := fun c => isDigit_of_mem_repr
  have trimmed : Trimmed n.repr.toList :=
    ⟨fun c head => isBlank_of_isDigit (digits c (List.mem_of_mem_head? head)),
      fun c last => isBlank_of_isDigit (digits c (List.mem_of_getLast? last))⟩
  refine ⟨n.repr.toList, stripped_iff.mpr (trimChars_of_trimmed trimmed), ?_⟩
  have value : Nat.ofDigitChars 10 n.repr.toList 0 = n := by
    rw [Nat.repr_eq_ofList_toDigits, String.toList_ofList]
    exact Nat.ofDigitChars_ten_toDigits
  have numeral := Numeral.plain (repr_ne_nil n) digits
  rwa [value] at numeral

end DepositDirectory.Text
