import DepositDirectory.Text.Split

/-!
# Parts between separators

The parts of a list hold no separator and nothing that the list does not hold.  Parts without a
separator, written one behind the other with a separator in front of each, are found again.
-/

namespace DepositDirectory.Text

variable {α : Type} [DecidableEq α] {separator : α}

theorem splitAt_ne_nil (cs : List α) : splitAt separator cs ≠ [] := by
  fun_cases splitAt separator cs <;> simp

theorem splitAt_cons_of_ne {a : α} (other : a ≠ separator) {cs first : List α}
    {others : List (List α)} (parts : splitAt separator cs = first :: others) :
    splitAt separator (a :: cs) = (a :: first) :: others := by
  rw [splitAt, if_neg other, parts]

theorem splitAt_of_not_mem {part : List α} (plain : separator ∉ part) :
    splitAt separator part = [part] := by
  induction part with
  | nil => rfl
  | cons a part ih =>
      obtain ⟨other, later⟩ := List.ne_and_not_mem_of_not_mem_cons plain
      exact splitAt_cons_of_ne (Ne.symm other) (ih later)

theorem splitAt_append_cons {part : List α} (plain : separator ∉ part) (rest : List α) :
    splitAt separator (part ++ separator :: rest) = part :: splitAt separator rest := by
  induction part with
  | nil => rw [List.nil_append, splitAt, if_pos rfl]
  | cons a part ih =>
      obtain ⟨other, later⟩ := List.ne_and_not_mem_of_not_mem_cons plain
      exact splitAt_cons_of_ne (Ne.symm other) (ih later)

/-- Parts with a separator in front of each are found again behind the first separator. -/
theorem splitAt_flatMap {part : List α} {parts : List (List α)}
    (plain : ∀ one ∈ part :: parts, separator ∉ one) :
    splitAt separator (part ++ parts.flatMap (separator :: ·)) = part :: parts := by
  induction parts generalizing part with
  | nil =>
      rw [List.flatMap_nil, List.append_nil]
      exact splitAt_of_not_mem (plain part List.mem_cons_self)
  | cons next parts ih =>
      have later := ih fun one member => plain one (List.mem_cons_of_mem part member)
      rw [List.flatMap_cons, List.cons_append, splitAt_append_cons (plain part List.mem_cons_self),
        later]

/-- No part holds a separator, and what it holds is held by the whole. -/
theorem mem_of_mem_splitAt {cs part : List α} {c : α} (member : part ∈ splitAt separator cs)
    (inside : c ∈ part) : c ∈ cs ∧ c ≠ separator := by
  induction cs generalizing part with
  | nil =>
      rw [List.mem_singleton.mp member] at inside
      exact absurd inside List.not_mem_nil
  | cons a cs ih =>
      by_cases here : a = separator
      · rw [splitAt, if_pos here] at member
        rcases List.mem_cons.mp member with rfl | later
        · exact absurd inside List.not_mem_nil
        · exact (ih later inside).imp (List.mem_cons_of_mem a) id
      · obtain ⟨first, others, parts⟩ := List.exists_cons_of_ne_nil (splitAt_ne_nil cs)
        rw [splitAt_cons_of_ne here parts] at member
        rw [parts] at ih
        rcases List.mem_cons.mp member with rfl | later
        · rcases List.mem_cons.mp inside with rfl | inside
          · exact ⟨List.mem_cons_self, here⟩
          · exact (ih List.mem_cons_self inside).imp (List.mem_cons_of_mem a) id
        · exact (ih (List.mem_cons_of_mem first later) inside).imp (List.mem_cons_of_mem a) id

end DepositDirectory.Text
