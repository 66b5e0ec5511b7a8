import DepositDirectory.Text.Blank
import Mathlib.Data.List.TakeWhile

/-!
# What trimming leaves

A trimmed text neither begins nor ends with a blank, so trimming it again changes nothing.  Blanks
that are put around it are what trimming takes away.
-/

namespace DepositDirectory.Text

/-- A text that neither begins nor ends with a blank. -/
structure Trimmed (cs : List Char) : Prop where
  front : ∀ c, cs.head? = some c → isBlank c = false
  back : ∀ c, cs.getLast? = some c → isBlank c = false

theorem isBlank_of_head_dropWhile {cs : List Char} {c : Char}
    (head : (cs.dropWhile isBlank).head? = some c) : isBlank c = false := by
  have stopped := List.head?_dropWhile_not isBlank cs
  rw [head] at stopped
  exact stopped

theorem dropWhile_isBlank {cs : List Char} (front : ∀ c, cs.head? = some c → isBlank c = false) :
    cs.dropWhile isBlank = cs := by
  cases cs with
  | nil => rfl
  | cons c rest => rw [List.dropWhile_cons, front c rfl]; rfl

theorem trimChars_of_trimmed {cs : List Char} (trimmed : Trimmed cs) : trimChars cs = cs := by
  have reversed : ∀ c, cs.reverse.head? = some c → isBlank c = false := by
    intro c head
    rw [List.head?_reverse] at head
    exact trimmed.back c head
  rw [trimChars, trimStart, dropWhile_isBlank trimmed.front, trimEnd, dropWhile_isBlank reversed,
    List.reverse_reverse]

theorem mem_of_mem_trimChars {cs : List Char} {c : Char} (member : c ∈ trimChars cs) : c ∈ cs := by
  rw [trimChars, trimEnd, List.mem_reverse] at member
  have started := List.mem_reverse.mp ((List.dropWhile_suffix isBlank).mem member)
  exact (List.dropWhile_suffix isBlank).mem started

theorem trimmed_trimChars (cs : List Char) : Trimmed (trimChars cs) := by
  constructor
  · intro c head
    -- What is left begins as the text did before its back was trimmed.
    obtain ⟨dropped, whole⟩ := List.dropWhile_suffix (l := (trimStart cs).reverse) isBlank
    have start : trimStart cs = trimChars cs ++ dropped.reverse := by
      rw [trimChars, trimEnd, ← List.reverse_append, whole, List.reverse_reverse]
    have same : (trimStart cs).head? = some c := by
      rw [start, List.head?_append, head]
      rfl
    exact isBlank_of_head_dropWhile same
  · intro c last
    rw [trimChars, trimEnd, List.getLast?_reverse] at last
    exact isBlank_of_head_dropWhile last

theorem trimChars_surrounded {before after cs : List Char} (trimmed : Trimmed cs) (filled : cs ≠ [])
    (blankBefore : ∀ c ∈ before, isBlank c = true) (blankAfter : ∀ c ∈ after, isBlank c = true) :
    trimChars (before ++ cs ++ after) = cs := by
  obtain ⟨c, rest, rfl⟩ := List.exists_cons_of_ne_nil filled
  have start : trimStart (before ++ c :: rest ++ after) = c :: rest ++ after := by
    rw [trimStart, List.append_assoc, List.dropWhile_append_of_pos blankBefore]
    exact dropWhile_isBlank fun d head => trimmed.front d head
  have blankReversed : ∀ d ∈ after.reverse, isBlank d = true := fun d member =>
    blankAfter d (List.mem_reverse.mp member)
  have back : trimEnd (c :: rest ++ after) = trimEnd (c :: rest) := by
    rw [trimEnd, List.reverse_append, List.dropWhile_append_of_pos blankReversed]
    rfl
  have alone := trimChars_of_trimmed trimmed
  rw [trimChars, trimStart, dropWhile_isBlank trimmed.front] at alone
  rw [trimChars, start, back, alone]

/-- What is left of a text without the blanks around it. -/
structure Stripped (text inner : List Char) : Prop where
  trimmed : Trimmed inner
  around : ∃ before after, text = before ++ inner ++ after ∧
    (∀ c ∈ before, isBlank c = true) ∧ ∀ c ∈ after, isBlank c = true

theorem stripped_trimChars (text : List Char) : Stripped text (trimChars text) := by
  have back : trimChars text ++ ((trimStart text).reverse.takeWhile isBlank).reverse =
      trimStart text := by
    rw [trimChars, trimEnd, ← List.reverse_append, List.takeWhile_append_dropWhile,
      List.reverse_reverse]
  refine ⟨trimmed_trimChars text, text.takeWhile isBlank,
    ((trimStart text).reverse.takeWhile isBlank).reverse, ?_, ?_, ?_⟩
  · rw [List.append_assoc, back, trimStart, List.takeWhile_append_dropWhile]
  · intro c member
    exact List.mem_takeWhile_imp member
  · intro c member
    exact List.mem_takeWhile_imp (List.mem_reverse.mp member)

/-- A text is trimmed to what is left of it without the blanks around it. -/
theorem stripped_iff {text inner : List Char} : Stripped text inner ↔ trimChars text = inner := by
  constructor
  · rintro ⟨trimmed, before, after, rfl, blankBefore, blankAfter⟩
    rcases List.eq_nil_or_concat inner with rfl | ⟨rest, c, rfl⟩
    · -- Nothing is left, so the whole text is blank.
      have blank : ∀ c ∈ before ++ [] ++ after, isBlank c = true := by
        rw [List.append_nil]
        intro c member
        exact (List.mem_append.mp member).elim (blankBefore c) (blankAfter c)
      rw [trimChars, trimStart, List.dropWhile_eq_nil_iff.mpr blank]
      rfl
    · exact trimChars_surrounded trimmed (by simp) blankBefore blankAfter
  · rintro rfl
    exact stripped_trimChars text

end DepositDirectory.Text
