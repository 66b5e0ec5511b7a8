import DepositDirectory.Custody.CallError
import DepositDirectory.Proofs.Text.Numeral

/-!
# What a hint is heard to say

A hint says how many milliseconds to wait when it is a numeral of a number of 64 bits, blanks around
it apart, and nothing otherwise.  No number is wrapped or cut: one that is too large says as little
as a text that is no numeral at all.
-/

namespace DepositDirectory.Custody

open Text (Stripped TellsNumber)

theorem hintedWait_eq_some_iff {text : String} {n : Nat} :
    hintedWait (some text) = some n ↔ TellsNumber text n ∧ n ≤ Text.maxWord64 := by
  rw [← Text.readNumeral_trimChars_eq_ok_iff]
  unfold hintedWait
  simp only [Option.bind_some]
  cases Text.readNumeral Text.maxWord64 (Text.trimChars text.toList) <;> simp

theorem hintedWait_eq_none_iff {text : String} :
    hintedWait (some text) = none ↔ ∀ n, TellsNumber text n → Text.maxWord64 < n := by
  rw [Option.eq_none_iff_forall_ne_some]
  apply forall_congr'
  intro n
  rw [ne_eq, hintedWait_eq_some_iff, not_and, Nat.not_le]

/-- A hint is heard for exactly the number of 64 bits that it tells: one that is absent, past the
limit, or written with anything but digits behind one plus sign says nothing. -/
theorem hintedWait_hears :
    hintedWait none = none ∧
      (∀ text n, hintedWait (some text) = some n ↔ TellsNumber text n ∧ n ≤ Nat.pow 2 64 - 1) ∧
      (∀ text, hintedWait (some text) = none ↔ ∀ n, TellsNumber text n → Nat.pow 2 64 - 1 < n) ∧
      (∀ n ≤ Nat.pow 2 64 - 1, hintedWait (some n.repr) = some n) ∧
      ∀ text before c after, Stripped text.toList (before ++ c :: after) → c.isDigit = false →
        before ≠ [] ∨ c ≠ '+' → hintedWait (some text) = none := by
  refine ⟨rfl, fun text n => hintedWait_eq_some_iff, fun text => hintedWait_eq_none_iff, ?_, ?_⟩
  · intro n within
    exact hintedWait_eq_some_iff.mpr ⟨Text.tellsNumber_repr n, within⟩
  · intro text before c after stripped foreign inside
    apply hintedWait_eq_none_iff.mpr
    intro n told
    exact absurd told (Text.not_tellsNumber_of_foreign stripped foreign inside n)

/-- The largest number is heard as it is written, and a second sign silences a hint. -/
theorem limit_is_heard :
    (hintedWait (some (18446744073709551615 : Nat).repr) = some 18446744073709551615) ∧
      hintedWait (some " ++7 ") = none := by
  obtain ⟨_, _, _, heard, foreign⟩ := hintedWait_hears
  constructor
  · exact heard 18446744073709551615 (by decide)
  · have stripped : Stripped " ++7 ".toList (['+'] ++ '+' :: ['7']) :=
      Text.stripped_iff.mpr (by decide)
    exact foreign " ++7 " ['+'] '+' ['7'] stripped (by decide) (Or.inl (by decide))

end DepositDirectory.Custody
