import DepositDirectory.Proofs.Retry.Schedule
import DepositDirectory.Proofs.Together.Rounds

/-!
# Backing off delays nobody else

Callers with budgets, waits and outcomes of their own make their calls together.  Whatever the order
of their steps, each makes its attempts at the times at which it makes them alone, and ends with the
same outcome at the same time: a caller that backs off keeps no other from going on.  All is over
when the last of them would be alone.
-/

namespace DepositDirectory

open Custody (CallError)
open Rehearsal (endless exchange)

/-! ## Outcomes of one's own -/

namespace Rehearsal

/-- An outside that has an endless sequence of replies for each task; the state of a task holds its
own and the times of the calls that it has made so far. -/
def endlessEach (Reply : Type) : TimedHost (exchange Unit Reply) ((Nat → Reply) × List Nat) where
  answer := fun _ now (replies, times) => (replies times.length, replies, times ++ [now])
  note := fun _ held => held

theorem run_endlessEach {Reply α : Type} (replies : Nat → Reply)
    (dialogue : Dialogue (exchange Unit Reply) α) (now : Nat) (times : List Nat) :
    dialogue.run (endlessEach Reply).alone (now, replies, times) =
      ((dialogue.run (endless replies).alone (now, times)).1,
        (dialogue.run (endless replies).alone (now, times)).2.1, replies,
        (dialogue.run (endless replies).alone (now, times)).2.2) :=
  Dialogue.run_view (fun (now, times) => (now, replies, times)) (fun _ _ => rfl) (fun _ _ => rfl)
    (fun _ _ => rfl) dialogue (now, times)

end Rehearsal

open Rehearsal (endlessEach run_endlessEach)

namespace Together

/-- A caller: how patient it is, how often it may try again, and what its attempts come to.  A call
with the usual budget is one whose budget is that of the caller's patience. -/
structure Caller (α : Type) where
  patience : Patience
  budget : Nat
  outcomes : Nat → Except CallError α

namespace Caller

variable {α : Type}

/-- What the caller does, and the state in which its outside begins. -/
def task (caller : Caller α) :
    Dialogue (exchange Unit (Except CallError α)) (Except CallError α) ×
      (Nat → Except CallError α) × List Nat :=
  ((caller.patience.executeWith caller.budget (Patience.bareCall α)).run, caller.outcomes, [])

def alone (caller : Caller α) : Option (Except CallError α) × Nat × List Nat :=
  caller.patience.execution caller.budget caller.outcomes 0

theorem run_task (caller : Caller α) :
    caller.task.1.run (endlessEach (Except CallError α)).alone (0, caller.task.2) =
      (caller.alone.1, caller.alone.2.1, caller.outcomes, caller.alone.2.2) :=
  run_endlessEach caller.outcomes caller.task.1 0 []

theorem exists_outcome (caller : Caller α) : ∃ outcome, caller.alone.1 = some outcome := by
  obtain ⟨last, _, _, _, run⟩ := Patience.run_attempt_endless caller.patience caller.outcomes
    caller.budget caller.budget 0 []
  exact ⟨_, congrArg Prod.fst run⟩

end Caller

variable {α : Type}

/-- Where a caller stands: its result if it has ended, the time, and when it made its attempts. -/
def Lane.account (lane : Lane (exchange Unit (Except CallError α))
    ((Nat → Except CallError α) × List Nat) (Except CallError α)) :
    Option (Except CallError α) × Nat × List Nat :=
  (lane.result?, lane.time, lane.state.2)

/-- When the last of the callers ends that each run alone. -/
def lastEnd (callers : List (Caller α)) : Nat :=
  (callers.map (·.alone.2.1)).foldl max 0

theorem accounts_eq {callers : List (Caller α)}
    {lanes : List (Lane (exchange Unit (Except CallError α))
      ((Nat → Except CallError α) × List Nat) (Except CallError α))}
    (alone : lanes.map (fun lane => (lane.result?, lane.time, lane.state)) =
      (callers.map Caller.task).map fun (task, state) =>
        task.run (endlessEach (Except CallError α)).alone (0, state)) :
    lanes.map Lane.account = callers.map Caller.alone ∧ endTime lanes = lastEnd callers := by
  have accounts : lanes.map Lane.account = callers.map Caller.alone := by
    have forgotten := congrArg (List.map fun (result, time, held) =>
      (result, time, Prod.snd held)) alone
    simp only [List.map_map] at forgotten
    refine Eq.trans forgotten (List.map_congr_left fun caller _ => ?_)
    exact congrArg (fun (result, time, held) => (result, time, Prod.snd held)) caller.run_task
  refine ⟨accounts, ?_⟩
  have ends := congrArg (List.map fun account => account.2.1) accounts
  rw [List.map_map, List.map_map] at ends
  exact congrArg (List.foldl max 0) ends

/-- Callers that start together each come to an outcome, in every order of their steps: no order
goes on for ever, and where no step is left each has the outcome, the end and the attempts that it
has alone, and the time is that of the last end.  The scheduler of rounds comes to this too. -/
theorem backingOff_delays_none (callers : List (Caller α)) :
    let host := endlessEach (Except CallError α)
    let tasks := callers.map Caller.task
    (∀ caller ∈ callers, ∃ outcome, caller.alone.1 = some outcome) ∧
    (∃ bound, ∀ count moment, Steps host count (opening tasks) moment → count ≤ bound) ∧
    (∀ count moment, Steps host count (opening tasks) moment → moment.AtRest host →
      moment.lanes.map Lane.account = callers.map Caller.alone ∧
        moment.now = lastEnd callers) ∧
    ∃ enough, ∀ allowance ≥ enough,
      (start host allowance tasks).map Lane.account = callers.map Caller.alone ∧
        endTime (start host allowance tasks) = lastEnd callers := by
  intro host tasks
  have punctual := punctual_opening tasks
  refine ⟨fun caller _ => caller.exists_outcome, ⟨(opening tasks).stepsLeft host, ?_⟩, ?_, ?_⟩
  · intro count moment steps
    exact Nat.le_of_add_right_le (steps.count_le punctual)
  · intro count moment steps atRest
    have alone := steps.alone_eq punctual
    rw [opening, List.map_map] at alone
    have ended : moment.lanes.map (fun lane => (lane.result?, lane.time, lane.state)) =
        tasks.map fun (task, state) => task.run host.alone (0, state) := by
      refine Eq.trans (List.map_congr_left fun lane member => ?_) alone
      exact (Lane.alone_of_isOver (atRest.ended lane member).1).symm
    obtain ⟨accounts, last⟩ := accounts_eq ended
    exact ⟨accounts, (atRest.now_eq (steps.now_le rfl)).trans last⟩
  · obtain ⟨enough, ended⟩ := start_eq host tasks
    exact ⟨enough, fun allowance more => accounts_eq (ended allowance more)⟩

def crossing : List (Caller String) :=
  [⟨Patience.usual, 2, Patience.twiceThrottled⟩, ⟨⟨0, 250⟩, 1, fun
    | 0 => .error (.rateLimited none)
    | _ => .error (.status 500 "down")⟩]

/-- Some order of their steps comes to rest, and there both have what they have alone. -/
theorem crossing_undelayed :
    ∃ count moment, Steps (endlessEach _) count (opening (crossing.map Caller.task)) moment ∧
      moment.AtRest (endlessEach _) ∧
      moment.lanes.map Lane.account =
        [(some (.ok "done"), 1250, [0, 250, 1250]),
          (some (.error (.status 500 "down")), 250, [0, 250])] ∧ moment.now = 1250 := by
  obtain ⟨count, moment, steps, atRest⟩ :=
    exists_atRest (endlessEach _) (opening (crossing.map Caller.task)) (punctual_opening _)
  obtain ⟨_, _, undelayed, _⟩ := backingOff_delays_none crossing
  obtain ⟨accounts, last⟩ := undelayed count moment steps atRest
  have alone : crossing.map Caller.alone =
      [(some (.ok "done"), 1250, [0, 250, 1250]),
        (some (.error (.status 500 "down")), 250, [0, 250])] := rfl
  have latest : lastEnd crossing = 1250 := rfl
  exact ⟨count, moment, steps, atRest, accounts.trans alone, last.trans latest⟩

end Together

end DepositDirectory
