/-!
# Results that are reached

A computation that can fail reaches a result through every part of it.  A fold whose steps can
change places reaches the same result from its elements in any order.
-/

namespace DepositDirectory

section

variable {ε α β : Type}

/-- A result that was reached was reached through the first part. -/
theorem bind_eq_ok_iff {first : Except ε α} {next : α → Except ε β} {b : β} :
    first >>= next = .ok b ↔ ∃ a, first = .ok a ∧ next a = .ok b := by
  constructor
  · intro reached
    cases first with
    | error error => cases reached
    | ok a => exact ⟨a, rfl, reached⟩
  · rintro ⟨a, rfl, reached⟩
    exact reached

theorem seq_eq_ok_iff {first : Except ε Unit} {next : Except ε β} {b : β} :
    (first >>= fun _ => next) = .ok b ↔ first = .ok () ∧ next = .ok b := by
  rw [bind_eq_ok_iff]
  exact ⟨fun ⟨_, reached⟩ => reached, fun reached => ⟨(), reached⟩⟩

theorem map_eq_ok_iff {first : Except ε α} {f : α → β} {b : β} :
    first.map f = .ok b ↔ ∃ a, first = .ok a ∧ f a = b := by
  cases first with
  | error error => exact ⟨nofun, nofun⟩
  | ok a =>
      constructor
      · rintro ⟨⟩
        exact ⟨a, rfl, rfl⟩
      · rintro ⟨_, ⟨⟩, rfl⟩
        rfl

theorem foldlM_cons_eq_ok_iff {step : β → α → Except ε β} {a : α} {as : List α} {b final : β} :
    (a :: as).foldlM step b = .ok final ↔
      ∃ next, step b a = .ok next ∧ as.foldlM step next = .ok final := by
  rw [List.foldlM_cons]
  exact bind_eq_ok_iff

theorem foldlM_append_eq_ok_iff {step : β → α → Except ε β} {as others : List α} {b final : β} :
    (as ++ others).foldlM step b = .ok final ↔
      ∃ next, as.foldlM step b = .ok next ∧ others.foldlM step next = .ok final := by
  rw [List.foldlM_append]
  exact bind_eq_ok_iff

/-- A fold reaches the same result with another element in a place, if the step from it does. -/
theorem foldlM_of_replaced {step : β → α → Except ε β} {a other : α}
    (same : ∀ {b next}, step b a = .ok next → step b other = .ok next) {before after : List α}
    {b final : β} (folded : (before ++ a :: after).foldlM step b = .ok final) :
    (before ++ other :: after).foldlM step b = .ok final := by
  obtain ⟨middle, first, folded⟩ := foldlM_append_eq_ok_iff.mp folded
  obtain ⟨next, own, rest⟩ := foldlM_cons_eq_ok_iff.mp folded
  exact foldlM_append_eq_ok_iff.mpr
    ⟨middle, first, foldlM_cons_eq_ok_iff.mpr ⟨next, same own, rest⟩⟩

theorem foldlM_of_perm {step : β → α → Except ε β}
    (swap : ∀ {b middle after first second}, step b first = .ok middle →
      step middle second = .ok after →
      ∃ other, step b second = .ok other ∧ step other first = .ok after)
    {as others : List α} (perm : as.Perm others) {b final : β}
    (folded : as.foldlM step b = .ok final) : others.foldlM step b = .ok final := by
  induction perm generalizing b with
  | nil => exact folded
  | cons a perm ih =>
      obtain ⟨next, first, rest⟩ := foldlM_cons_eq_ok_iff.mp folded
      exact foldlM_cons_eq_ok_iff.mpr ⟨next, first, ih rest⟩
  | swap second first as =>
      obtain ⟨middle, one, folded⟩ := foldlM_cons_eq_ok_iff.mp folded
      obtain ⟨after, two, rest⟩ := foldlM_cons_eq_ok_iff.mp folded
      obtain ⟨other, two, one⟩ := swap one two
      exact foldlM_cons_eq_ok_iff.mpr ⟨other, two, foldlM_cons_eq_ok_iff.mpr ⟨after, one, rest⟩⟩
  | trans perm others ih second => exact second (ih folded)

end

end DepositDirectory
