import DepositDirectory.Cache
import DepositDirectory.Log.Format
import DepositDirectory.Proofs.Text.Lowercase

/-!
# Names in any case

A name of ASCII letters is read from a text in any case of these letters, blanks around it apart.
Although the text is lower-cased in full, no other character passes for one of the name's: the only
one whose lower-case form is in ASCII without it being there itself is the Kelvin sign, whose form
is a `k`.
-/

namespace DepositDirectory

namespace Text

/-! ## Characters that become ASCII -/

theorem caseSpans_leave_ascii : ∀ span ∈ caseSpans, ∀ i < span.count,
    span.image + i * span.step < 128 →
      span.first + i * span.step < 128 ∨ span.image + i * span.step = 'k'.toNat := by
  decide +kernel

theorem toNat_ofNat_of_ascii {n : Nat} (ascii : n < 128) : (Char.ofNat n).toNat = n :=
  toNat_ofNat_of_valid (Or.inl (by omega))

/-- A character that becomes an ASCII one other than a `k` was one before. -/
theorem ascii_of_lowerChar {c : Char} (ascii : (lowerChar c).toNat < 128)
    (other : lowerChar c ≠ 'k') : c.toNat < 128 := by
  rcases lowerChar_cases c with same | ⟨span, member, i, place, rfl, lowered⟩
  · rwa [same] at ascii
  · obtain ⟨_, valid, _⟩ := caseSpans_lettered span member i place
    rw [lowered, toNat_ofNat_of_valid valid] at ascii
    rcases caseSpans_leave_ascii span member i place ascii with before | kelvin
    · rwa [toNat_ofNat_of_ascii before]
    · rw [lowered, kelvin] at other
      exact absurd rfl other

theorem ascii_of_lowerBetween {before after : List Char} {c : Char}
    (ascii : ∀ d ∈ lowerBetween before c after, d.toNat < 128 ∧ d ≠ 'k') : c.toNat < 128 := by
  unfold lowerBetween at ascii
  split at ascii
  · split at ascii
    · exact absurd (ascii 'ς' List.mem_cons_self).1 (by decide)
    · exact absurd (ascii 'σ' List.mem_cons_self).1 (by decide)
  · split at ascii
    · exact absurd (ascii '\u0307' (List.mem_cons_of_mem _ List.mem_cons_self)).1 (by decide)
    · obtain ⟨small, other⟩ := ascii (lowerChar c) List.mem_cons_self
      exact ascii_of_lowerChar small other

theorem ascii_of_lowerFrom {before cs : List Char}
    (ascii : ∀ d ∈ lowerFrom before cs, d.toNat < 128 ∧ d ≠ 'k') : ∀ c ∈ cs, c.toNat < 128 := by
  induction cs generalizing before with
  | nil => exact fun _ member => nomatch member
  | cons c after ih =>
      intro d member
      rcases List.mem_cons.mp member with rfl | member
      · apply ascii_of_lowerBetween
        intro e own
        exact ascii e (List.mem_append_left _ own)
      · have later : ∀ e ∈ lowerFrom (c :: before) after, e.toNat < 128 ∧ e ≠ 'k' := by
          intro e own
          exact ascii e (List.mem_append_right _ own)
        exact ih later d member

theorem ascii_of_toLower {c : Char} (ascii : c.toLower.toNat < 128) : c.toNat < 128 := by
  rcases toLower_cases c with same | ⟨i, small, rfl⟩
  · rwa [same] at ascii
  · rw [toNat_ofNat_of_ascii (by omega)]
    omega

/-- A text becomes a word of ASCII characters without a `k` when its ASCII letters do. -/
theorem lowerChars_eq_iff {cs word : List Char} (ascii : ∀ c ∈ word, c.toNat < 128 ∧ c ≠ 'k') :
    lowerChars cs = word ↔ asciiLower cs = word := by
  constructor
  · rintro rfl
    exact (lowerFrom_of_ascii (ascii_of_lowerFrom ascii) []).symm
  · rintro rfl
    apply lowerFrom_of_ascii
    intro c member
    exact ascii_of_toLower (ascii c.toLower (List.mem_map_of_mem member)).1

/-! ## Names -/

/-- The text is the name in some case of its ASCII letters, blanks around it apart. -/
def SpellsName (text name : String) : Prop :=
  ∃ word, Stripped text.toList word ∧ asciiLower word = name.toList

theorem lower_trim_eq_iff {text name : String}
    (ascii : ∀ c ∈ name.toList, c.toNat < 128 ∧ c ≠ 'k') :
    lower (trim text) = name ↔ SpellsName text name := by
  rw [SpellsName, ← String.toList_inj, lower, trim, String.toList_ofList, String.toList_ofList,
    lowerChars_eq_iff ascii]
  simp only [stripped_iff, exists_eq_left']

end Text

open Text (SpellsName)

theorem Cache.RefreshPolicy.ofName_eq_ok_iff {text : String} {policy : Cache.RefreshPolicy} :
    ofName text = .ok policy ↔ SpellsName text policy.name := by
  have plain : ∀ c ∈ policy.name.toList, c.toNat < 128 ∧ c ≠ 'k' := by
    cases policy <;> simp [name]
  rw [← Text.lower_trim_eq_iff plain, ofName]
  constructor
  · intro read
    split at read
    · cases read
      assumption
    · split at read
      · cases read
        assumption
      · cases read
  · intro same
    rw [same]
    cases policy <;> rfl

/-- The format is that for a machine when its name is spelled, in any case, and only then. -/
theorem Log.Format.ofNameOrPretty_eq_json_iff {text : String} :
    ofNameOrPretty text = .json ↔ SpellsName text "json" := by
  have plain : ∀ c ∈ "json".toList, c.toNat < 128 ∧ c ≠ 'k' := by simp
  rw [← Text.lower_trim_eq_iff plain, ofNameOrPretty, ofName]
  by_cases spelled : Text.lower (Text.trim text) = "json"
  · simp [spelled]
  · by_cases other : Text.lower (Text.trim text) = "pretty" <;> simp [spelled, other]

end DepositDirectory
