import DepositDirectory.Custody.Call
import DepositDirectory.Proofs.Retry.Tries

/-!
# Logical calls to the custody service

A patient caller makes a call again while it is throttled; all these attempts are one logical call.
A task that asks the service only through a patient caller and stops at the first failure is
orderly: what it exchanges with the service are logical calls one after the other, all of them
answered, but for the last one when the task fails, and then the task fails as this call did.
-/

namespace DepositDirectory.Custody

open Dialogue (AsksOnce Reaches)

def answered (c : Call) (outcome : Except CallError c.Result) : Exchange service :=
  ⟨c, outcome⟩

def Call.asksForPage : Call → Bool
  | listVaults _ => true
  | _ => false

/-- A call to the service and the attempts at it. -/
structure LogicalCall where
  call : Call
  tries : Tries call.Result

namespace LogicalCall

/-- What is exchanged with the service: the call, once for each attempt. -/
def exchanges (logical : LogicalCall) : List (Exchange service) :=
  logical.tries.outcomes.map (answered logical.call)

/-- The service answered in the end, and the retry rule was obeyed. -/
structure Answered (logical : LogicalCall) (budget : Nat) : Prop where
  patient : logical.tries.Within budget
  answer : ∃ value, logical.tries.outcome = .ok value

/-- The caller gave up on it with a cause, and the retry rule was obeyed. -/
structure GivenUp (logical : LogicalCall) (budget : Nat) (cause : CallError) : Prop where
  patient : logical.tries.Within budget
  failure : logical.tries.outcome = .error cause

theorem length_exchanges_le {logical : LogicalCall} {budget : Nat}
    (patient : logical.tries.Within budget) : logical.exchanges.length ≤ budget + 1 := by
  rw [exchanges, List.length_map]
  exact patient.length_le

theorem length_flatMap_exchanges_le {budget : Nat} (logicals : List LogicalCall)
    (patient : ∀ logical ∈ logicals, logical.tries.Within budget) :
    (logicals.flatMap exchanges).length ≤ logicals.length * (budget + 1) := by
  induction logicals with
  | nil => exact Nat.zero_le _
  | cons logical rest ih =>
      have first := length_exchanges_le (patient logical List.mem_cons_self)
      have later := ih fun other member => patient other (List.mem_cons_of_mem _ member)
      rw [List.flatMap_cons, List.length_append, List.length_cons, Nat.add_one_mul]
      omega

theorem question_of_mem_exchanges {logical : LogicalCall} {told : Exchange service}
    (member : told ∈ logical.exchanges) : told.question = logical.call := by
  obtain ⟨outcome, _, rfl⟩ := List.mem_map.mp member
  rfl

end LogicalCall

open LogicalCall (exchanges)

/-- What is written down of logical calls. -/
def written (logicals : List LogicalCall) : List (Event service) :=
  (logicals.flatMap exchanges).map .told

@[simp]
theorem exchangesIn_written (logicals : List LogicalCall) :
    exchangesIn (written logicals) = logicals.flatMap exchanges :=
  exchangesIn_told _

variable {α β : Type} {budget : Nat}

theorem asksOnce_call (c : Call) : AsksOnce (call c).run (answered c) :=
  fun _ _ => Dialogue.reaches_query_iff

theorem reaches_execute_call_iff {patience : Patience} {c : Call} {told : List (Exchange service)}
    {outcome : Except CallError c.Result} :
    Reaches (patience.execute (call c)).run told outcome ↔
      ∃ hints, Tries.Within ⟨hints, outcome⟩ patience.maxRetries ∧
        told = exchanges ⟨c, ⟨hints, outcome⟩⟩ :=
  Patience.reaches_execute_iff (asksOnce_call c)

/-! ## Tasks that stop at the first failure -/

/-- The logical calls are all answered when the outcome is a value; else all but the last are, and
the last was given up with the cause of the failure. -/
def AccountFor (budget : Nat) (logicals : List LogicalCall) : Except CallError α → Prop
  | .ok _ => ∀ logical ∈ logicals, logical.Answered budget
  | .error cause => ∃ made last, logicals = made ++ [last] ∧
      (∀ logical ∈ made, logical.Answered budget) ∧ last.GivenUp budget cause

namespace AccountFor

theorem nil (value : α) : AccountFor budget [] (.ok value) :=
  fun _ member => nomatch member

/-- Logical calls that led to a value, and those that were made after it. -/
theorem append {first later : List LogicalCall} {value : α} {outcome : Except CallError β}
    (begun : AccountFor budget first (.ok value)) (ended : AccountFor budget later outcome) :
    AccountFor budget (first ++ later) outcome := by
  cases outcome with
  | ok result =>
      intro logical member
      rcases List.mem_append.mp member with early | late
      · exact begun logical early
      · exact ended logical late
  | error cause =>
      obtain ⟨made, last, rfl, answered, failed⟩ := ended
      refine ⟨first ++ made, last, (List.append_assoc _ _ _).symm, ?_, failed⟩
      intro logical member
      rcases List.mem_append.mp member with early | late
      · exact begun logical early
      · exact answered logical late

theorem single {logical : LogicalCall} {outcome : Except CallError logical.call.Result}
    (patient : logical.tries.Within budget) (ended : logical.tries.outcome = outcome) :
    AccountFor budget [logical] outcome := by
  cases outcome with
  | ok value =>
      intro other member
      cases List.mem_singleton.mp member
      exact ⟨patient, value, ended⟩
  | error cause => exact ⟨[], logical, rfl, fun _ member => (nomatch member), patient, ended⟩

theorem patient {logicals : List LogicalCall} {outcome : Except CallError α}
    (accounted : AccountFor budget logicals outcome) :
    ∀ logical ∈ logicals, logical.tries.Within budget := by
  cases outcome with
  | ok value => exact fun logical member => (accounted logical member).patient
  | error cause =>
      obtain ⟨made, last, rfl, answered, failed⟩ := accounted
      intro logical member
      rcases List.mem_append.mp member with early | late
      · exact (answered logical early).patient
      · cases List.mem_singleton.mp late
        exact failed.patient

theorem map {logicals : List LogicalCall} {outcome : Except CallError α} (change : α → β)
    (accounted : AccountFor budget logicals outcome) :
    AccountFor budget logicals (outcome.map change) := by
  cases outcome with
  | ok value => exact accounted
  | error cause => exact accounted

end AccountFor

/-- A task that makes so many logical calls at most, all of them of one sort, and stops at the first
that is given up. -/
def Orderly (budget atMost : Nat) (sort : Call → Prop) (task : Task service CallError α) : Prop :=
  ∀ told outcome, task.run.Reaches told outcome →
    ∃ logicals, logicals.length ≤ atMost ∧ (∀ logical ∈ logicals, sort logical.call) ∧
      told = logicals.flatMap exchanges ∧ AccountFor budget logicals outcome

namespace Orderly

variable {first : Task service CallError α} {sort : Call → Prop}

theorem pure (value : α) :
    Orderly budget 0 sort (Pure.pure value : Task service CallError α) := by
  intro told outcome reaches
  obtain ⟨rfl, rfl⟩ := Dialogue.reaches_task_pure_iff.mp reaches
  exact ⟨[], Nat.le_refl 0, fun _ member => (nomatch member), rfl, .nil value⟩

theorem bind {next : α → Task service CallError β} {early late : Nat}
    (begun : Orderly budget early sort first)
    (ended : ∀ value, Orderly budget late sort (next value)) :
    Orderly budget (early + late) sort (first >>= next) := by
  intro told outcome reaches
  rcases Dialogue.reaches_task_bind_iff.mp reaches with
    ⟨cause, rfl, failed⟩ | ⟨before, value, after, rfl, reached, rest⟩
  · obtain ⟨logicals, short, sorted, rfl, accounted⟩ := begun told _ failed
    exact ⟨logicals, Nat.le_add_right_of_le short, sorted, rfl, accounted⟩
  · obtain ⟨logicals, short, sorted, rfl, accounted⟩ := begun before _ reached
    obtain ⟨more, few, sortedToo, rfl, following⟩ := ended value after outcome rest
    refine ⟨logicals ++ more, List.length_append ▸ Nat.add_le_add short few, ?_,
      List.flatMap_append.symm, accounted.append following⟩
    intro logical member
    exact (List.mem_append.mp member).elim (sorted logical) (sortedToo logical)

theorem say {atMost : Nat} {level : Log.Level} {source : Log.Source} {message : String}
    (task : Orderly budget atMost sort first) :
    Orderly budget atMost sort
      (ExceptT.lift (Dialogue.say level source message) >>= fun _ => first) :=
  fun told outcome reaches => task told outcome (Dialogue.reaches_tell_bind_iff.mp reaches)

theorem execute (patience : Patience) {c : Call} (sorted : sort c) :
    Orderly patience.maxRetries 1 sort (patience.execute (call c)) := by
  intro told outcome reaches
  obtain ⟨hints, patient, rfl⟩ := reaches_execute_call_iff.mp reaches
  let logical : LogicalCall := ⟨c, ⟨hints, outcome⟩⟩
  refine ⟨[logical], Nat.le_refl 1, ?_, (List.append_nil _).symm, .single patient rfl⟩
  intro other member
  cases List.mem_singleton.mp member
  exact sorted

end Orderly

/-- A service that answers each call by how many it has answered before; the state counts them. -/
def numbered (answers : Nat → (c : Call) → Except CallError c.Result) : Host service Nat where
  answer := fun (c : Call) count => (answers count c, count + 1)
  wait := fun _ count => count
  note := fun _ count => count

end DepositDirectory.Custody
