import DepositDirectory.Proofs.Dialogue.Laws
import DepositDirectory.Proofs.Dialogue.Run

/-!
# Dialogues without their log lines

Two dialogues that differ in their log lines only ask the same questions, sleep as long and come to
the same result.  A host that takes no notice of log lines cannot tell them apart.
-/

namespace DepositDirectory

namespace Dialogue

variable {I : Interface} {α β ε : Type}

def unlogged (dialogue : Dialogue I α) : Dialogue I α :=
  dialogue.filterNotes fun _ => false

theorem unlogged_bind (first : Dialogue I α) (next : α → Dialogue I β) :
    (first >>= next).unlogged = first.unlogged >>= fun result => (next result).unlogged :=
  filterNotes_bind _ first next

theorem unlogged_task_bind (first : Task I ε α) {next other : α → Task I ε β}
    (same : ∀ value, (next value).run.unlogged = (other value).run.unlogged) :
    (first >>= next).run.unlogged = (first >>= other).run.unlogged := by
  rw [ExceptT.run_bind, ExceptT.run_bind, unlogged_bind, unlogged_bind]
  congr 1
  funext outcome
  cases outcome with
  | ok value => exact same value
  | error cause => rfl

end Dialogue

namespace Host

variable {I : Interface} {σ α : Type} {host : Host I σ}

/-- Log lines leave no trace in the state of the host. -/
def Deaf (host : Host I σ) : Prop :=
  ∀ line state, host.note line state = state

theorem Deaf.run_filterNotes (deaf : host.Deaf) (passes : Log.Line → Bool)
    (dialogue : Dialogue I α) (state : σ) :
    (dialogue.filterNotes passes).run host state = dialogue.run host state := by
  induction dialogue generalizing state with
  | done result => rfl
  | unfinished => rfl
  | ask question next ih => exact ih _ _
  | sleep ms next ih => exact ih _
  | note line next ih =>
      change _ = next.run host (host.note line state)
      rw [deaf, ← ih, Dialogue.filterNotes]
      split
      · change (next.filterNotes passes).run host (host.note line state) = _
        rw [deaf]
      · rfl

/-- Dialogues that differ in their log lines only come to the same, and leave the same state. -/
theorem Deaf.run_eq (deaf : host.Deaf) {first second : Dialogue I α}
    (same : first.unlogged = second.unlogged) (state : σ) :
    first.run host state = second.run host state := by
  have silent (dialogue : Dialogue I α) :
      dialogue.unlogged.run host state = dialogue.run host state :=
    deaf.run_filterNotes _ dialogue state
  rw [← silent first, same, silent]

end Host

end DepositDirectory
