import DepositDirectory.Proofs.Dialogue.Exchanges
import DepositDirectory.Proofs.Retry.Schedule

/-!
# The attempts at one logical call

The outcomes that a patient caller sees fall into logical calls: attempts that were throttled, while
the budget of retries lasts, and then one outcome that stands.  A call that asks one question, made
patiently, asks this question once for each of its attempts and comes to the outcome that stands.
-/

namespace DepositDirectory

open Custody (CallError)

/-- The attempts at one logical call: the hints of those that were throttled and made again, and the
outcome that stands. -/
structure Tries (α : Type) where
  hints : List (Option String)
  outcome : Except CallError α

namespace Tries

variable {α : Type}

/-- What the attempts came to, one after the other. -/
def outcomes (tries : Tries α) : List (Except CallError α) :=
  tries.hints.map (fun hint => .error (.rateLimited hint)) ++ [tries.outcome]

theorem length_outcomes (tries : Tries α) :
    tries.outcomes.length = tries.hints.length + 1 := by
  simp [outcomes]

/-- The retry rule: no more attempts are made again than the budget allows, and a throttled outcome
stands only when it is spent. -/
structure Within (tries : Tries α) (budget : Nat) : Prop where
  bounded : tries.hints.length ≤ budget
  spent : Patience.isThrottled tries.outcome = true → tries.hints.length = budget

theorem Within.length_le {tries : Tries α} {budget : Nat} (within : tries.Within budget) :
    tries.outcomes.length ≤ budget + 1 := by
  rw [length_outcomes]
  exact Nat.succ_le_succ within.bounded

theorem within_zero_iff {hints : List (Option String)} {outcome : Except CallError α} :
    Within ⟨hints, outcome⟩ 0 ↔ hints = [] := by
  constructor
  · intro within
    exact List.eq_nil_of_length_eq_zero (Nat.le_zero.mp within.bounded)
  · rintro rfl
    exact ⟨Nat.le_refl 0, fun _ => rfl⟩

theorem within_nil_succ_iff {outcome : Except CallError α} {budget : Nat} :
    Within ⟨[], outcome⟩ (budget + 1) ↔ Patience.isThrottled outcome = false := by
  constructor
  · intro within
    cases throttled : Patience.isThrottled outcome with
    | false => rfl
    | true => cases within.spent throttled
  · intro settled
    exact ⟨Nat.zero_le _, fun throttled => Bool.noConfusion (settled.symm.trans throttled)⟩

theorem within_cons_succ_iff {hint : Option String} {hints : List (Option String)}
    {outcome : Except CallError α} {budget : Nat} :
    Within ⟨hint :: hints, outcome⟩ (budget + 1) ↔ Within ⟨hints, outcome⟩ budget := by
  constructor
  · intro within
    exact ⟨Nat.le_of_succ_le_succ within.bounded,
      fun throttled => Nat.succ.inj (within.spent throttled)⟩
  · intro within
    exact ⟨Nat.succ_le_succ within.bounded,
      fun throttled => congrArg Nat.succ (within.spent throttled)⟩

end Tries

namespace Dialogue

variable {I : Interface} {α : Type}

/-- The dialogue asks one question and comes to what the reply says; `made` is the exchange for what
it comes to. -/
def AsksOnce (dialogue : Dialogue I α) (made : α → Exchange I) : Prop :=
  ∀ exchanges outcome, dialogue.Reaches exchanges outcome ↔ exchanges = [made outcome]

end Dialogue

namespace Patience

open Dialogue (AsksOnce Reaches)

variable {I : Interface} {α : Type} {exchanges : List (Exchange I)}
  {outcome standing : Except CallError α} {patience : Patience} {budget left : Nat}
  {call : Dialogue I (Except CallError α)} {made : Except CallError α → Exchange I}

theorem reaches_standing_iff :
    Reaches (tellFinal budget standing >>= fun _ => pure standing : Dialogue I _) exchanges
        outcome ↔ exchanges = [] ∧ outcome = standing := by
  cases standing with
  | ok value => exact Dialogue.reaches_pure_iff
  | error error =>
      cases error <;> exact Dialogue.reaches_note_iff.trans Dialogue.reaches_pure_iff

section

variable (asks : AsksOnce call made)
include asks

theorem reaches_attempt_zero_iff :
    Reaches (patience.attempt budget call 0) exchanges outcome ↔ exchanges = [made outcome] := by
  rw [attempt, Dialogue.reaches_bind_iff]
  constructor
  · rintro ⟨earlier, middle, later, rfl, asked, ended⟩
    obtain ⟨rfl, rfl⟩ := reaches_standing_iff.mp ended
    rw [(asks _ _).mp asked, List.append_nil]
  · rintro rfl
    exact ⟨_, outcome, [], rfl, (asks _ _).mpr rfl, reaches_standing_iff.mpr ⟨rfl, rfl⟩⟩

theorem reaches_attempt_succ_iff :
    Reaches (patience.attempt budget call (left + 1)) exchanges outcome ↔
      (isThrottled outcome = false ∧ exchanges = [made outcome]) ∨
        ∃ hint later, exchanges = made (.error (.rateLimited hint)) :: later ∧
          Reaches (patience.attempt budget call left) later outcome := by
  rw [attempt, Dialogue.reaches_bind_iff]
  constructor
  · rintro ⟨earlier, middle, later, rfl, asked, ended⟩
    rw [(asks _ _).mp asked]
    rcases middle with (hint | ⟨code, body⟩ | text | text) | value
    case error.rateLimited =>
      have again := Dialogue.reaches_sleep_iff.mp (Dialogue.reaches_note_iff.mp ended)
      exact Or.inr ⟨hint, later, rfl, again⟩
    all_goals
      obtain ⟨rfl, rfl⟩ := reaches_standing_iff.mp ended
      exact Or.inl ⟨rfl, rfl⟩
  · rintro (⟨settled, rfl⟩ | ⟨hint, later, rfl, again⟩)
    · refine ⟨_, outcome, [], rfl, (asks _ _).mpr rfl, ?_⟩
      rcases outcome with (hint | ⟨code, body⟩ | text | text) | value
      case error.rateLimited => cases settled
      all_goals exact reaches_standing_iff.mpr ⟨rfl, rfl⟩
    · exact ⟨[made (.error (.rateLimited hint))], _, later, rfl, (asks _ _).mpr rfl,
        .note (.sleep again)⟩

/-- A call that asks one question, made patiently, asks it once for each attempt of one logical
call. -/
theorem reaches_attempt_iff :
    Reaches (patience.attempt budget call left) exchanges outcome ↔
      ∃ hints, Tries.Within ⟨hints, outcome⟩ left ∧
        exchanges = (Tries.outcomes ⟨hints, outcome⟩).map made := by
  induction left generalizing exchanges with
  | zero =>
      rw [reaches_attempt_zero_iff asks]
      constructor
      · rintro rfl
        exact ⟨[], Tries.within_zero_iff.mpr rfl, rfl⟩
      · rintro ⟨hints, within, rfl⟩
        rw [Tries.within_zero_iff.mp within]
        rfl
  | succ left ih =>
      rw [reaches_attempt_succ_iff asks]
      constructor
      · rintro (⟨settled, rfl⟩ | ⟨hint, later, rfl, again⟩)
        · exact ⟨[], Tries.within_nil_succ_iff.mpr settled, rfl⟩
        · obtain ⟨hints, within, rfl⟩ := ih.mp again
          exact ⟨hint :: hints, Tries.within_cons_succ_iff.mpr within, rfl⟩
      · rintro ⟨hints, within, rfl⟩
        cases hints with
        | nil => exact Or.inl ⟨Tries.within_nil_succ_iff.mp within, rfl⟩
        | cons hint hints =>
            have rest := ih.mpr ⟨hints, Tries.within_cons_succ_iff.mp within, rfl⟩
            exact Or.inr ⟨hint, _, rfl, rest⟩

end

theorem reaches_execute_iff {call : Task I CallError α} (asks : AsksOnce call.run made) :
    Reaches (patience.execute call).run exchanges outcome ↔
      ∃ hints, Tries.Within ⟨hints, outcome⟩ patience.maxRetries ∧
        exchanges = (Tries.outcomes ⟨hints, outcome⟩).map made :=
  reaches_attempt_iff asks

end Patience

end DepositDirectory
