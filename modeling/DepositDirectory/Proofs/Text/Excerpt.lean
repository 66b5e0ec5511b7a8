import DepositDirectory.Text.Excerpt

/-!
# What an excerpt keeps

A text within the limit is its own excerpt.  A longer one keeps two ends of the same length that
stand apart in it, so its excerpt is within the limit whenever the three dots are.  An excerpt is
its own excerpt, even where the dots alone are past the limit.
-/

namespace DepositDirectory.Text

theorem excerptChars_of_short {limit : Nat} {cs : List Char} (short : cs.length ≤ limit) :
    excerptChars limit cs = cs :=
  if_pos short

theorem exists_excerptChars_of_long {limit : Nat} {cs : List Char} (long : limit < cs.length) :
    ∃ front middle back, cs = front ++ middle ++ back ∧
      excerptChars limit cs = front ++ ['.', '.', '.'] ++ back ∧
      front.length = excerptEnd limit ∧ back.length = excerptEnd limit := by
  have apart : 2 * excerptEnd limit ≤ cs.length := by
    unfold excerptEnd
    omega
  refine ⟨cs.take (excerptEnd limit),
    (cs.take (cs.length - excerptEnd limit)).drop (excerptEnd limit),
    cs.drop (cs.length - excerptEnd limit), ?_, if_neg (Nat.not_le.mpr long), ?_, ?_⟩
  · -- The front is also the front of what the back leaves.
    have front : cs.take (excerptEnd limit) =
        (cs.take (cs.length - excerptEnd limit)).take (excerptEnd limit) := by
      rw [List.take_take, Nat.min_eq_left (by omega)]
    rw [front, List.take_append_drop, List.take_append_drop]
  · rw [List.length_take]
    omega
  · rw [List.length_drop]
    omega

theorem length_excerptChars_of_long {limit : Nat} {cs : List Char} (long : limit < cs.length) :
    (excerptChars limit cs).length = 2 * excerptEnd limit + 3 := by
  obtain ⟨front, middle, back, _, cut, ends⟩ := exists_excerptChars_of_long long
  rw [cut, List.length_append, List.length_append, ends.1, ends.2, List.length_cons,
    List.length_cons, List.length_singleton]
  omega

theorem length_excerptChars_le_iff {limit : Nat} {cs : List Char} :
    (excerptChars limit cs).length ≤ limit ↔ cs.length ≤ limit ∨ 3 ≤ limit := by
  by_cases short : cs.length ≤ limit
  · rw [excerptChars_of_short short]
    simp [short]
  · rw [length_excerptChars_of_long (Nat.not_le.mp short), excerptEnd]
    omega

theorem excerptChars_excerptChars (limit : Nat) (cs : List Char) :
    excerptChars limit (excerptChars limit cs) = excerptChars limit cs := by
  by_cases fits : (excerptChars limit cs).length ≤ limit
  · exact excerptChars_of_short fits
  · -- The dots are past the limit, so they are all that there is.
    have past := fits
    rw [length_excerptChars_le_iff, not_or] at fits
    have nothing : excerptEnd limit = 0 := by
      unfold excerptEnd
      omega
    have dots {ds : List Char} (long : limit < ds.length) :
        excerptChars limit ds = ['.', '.', '.'] := by
      rw [excerptChars, if_neg (Nat.not_le.mpr long), nothing, List.take_zero, Nat.sub_zero,
        List.drop_length]
      rfl
    rw [dots (Nat.not_le.mp past), dots (Nat.not_le.mp fits.1)]

/-- An excerpt is a text within the limit itself, or its two ends around three dots; it is its own
excerpt, and it is within the limit unless a longer text meets a limit under three. -/
theorem excerpt_keeps_ends (limit : Nat) (text : String) :
    (text.length ≤ limit → excerpt limit text = text) ∧
      (limit < text.length → ∃ front middle back, text = front ++ middle ++ back ∧
        excerpt limit text = front ++ "..." ++ back ∧
        front.length = (limit - 3) / 2 ∧ back.length = (limit - 3) / 2) ∧
      excerpt limit (excerpt limit text) = excerpt limit text ∧
      ((excerpt limit text).length ≤ limit ↔ text.length ≤ limit ∨ 3 ≤ limit) := by
  rw [← String.length_toList]
  refine ⟨fun short => ?_, fun long => ?_, ?_, ?_⟩
  · rw [excerpt, excerptChars_of_short short, String.ofList_toList]
  · obtain ⟨front, middle, back, whole, cut, ends⟩ := exists_excerptChars_of_long long
    refine ⟨.ofList front, .ofList middle, .ofList back, ?_, ?_, ?_, ?_⟩
    · rw [← String.ofList_append, ← String.ofList_append, ← whole, String.ofList_toList]
    · rw [excerpt, cut, String.ofList_append, String.ofList_append]
    · rw [String.length_ofList, ends.1, excerptEnd]
    · rw [String.length_ofList, ends.2, excerptEnd]
  · rw [excerpt, excerpt, String.toList_ofList, excerptChars_excerptChars]
  · rw [excerpt, String.length_ofList]
    exact length_excerptChars_le_iff

/-- Ten characters hold the dots and three at each end, and the whole of a text of ten. -/
theorem excerpt_of_ten :
    excerpt 10 "abcdefghij" = "abcdefghij" ∧
      ∃ front middle back, "abcdefghijklmnop" = front ++ middle ++ back ∧
        excerpt 10 "abcdefghijklmnop" = front ++ "..." ++ back ∧
        front.length = 3 ∧ back.length = 3 :=
  ⟨(excerpt_keeps_ends 10 "abcdefghij").1 (by decide),
    (excerpt_keeps_ends 10 "abcdefghijklmnop").2.1 (by decide)⟩

/-- The dots alone are longer than a limit of two. -/
theorem dots_outgrow_limit :
    excerpt 2 "abc" = "..." ∧ ¬ (excerpt 2 "abc").length ≤ 2 := by
  decide

end DepositDirectory.Text
