import DepositDirectory.Proofs.Dialogue.Run
import DepositDirectory.Rehearsal.Script
import DepositDirectory.Retry
import Mathlib.Algebra.GroupWithZero.Nat

/-!
# How often a throttled call is made, and when

One attempt at a call either stands, or is throttled and gives way to the attempts that are left
after a wait.  Against an endless sequence of outcomes this fixes a whole execution: the call is
made up to the first outcome that is not throttled, or until the budget of retries is spent, and
the attempts are apart by exactly the waits that the throttled outcomes between them ask for.
-/

namespace DepositDirectory

open Custody (CallError hintedWait)
open Rehearsal (exchange)

namespace Patience

variable {I : Interface} {σ α : Type}

def isThrottled : Except CallError α → Bool
  | .ok _ => false
  | .error error => error.isRateLimited

theorem isThrottled_iff (outcome : Except CallError α) :
    isThrottled outcome = true ↔ ∃ hint, outcome = .error (.rateLimited hint) := by
  cases outcome with
  | ok value => simp [isThrottled]
  | error error => cases error <;> simp [isThrottled, CallError.isRateLimited]

/-! ## One attempt on any host -/

theorem tellFinal_yields {host : Host I σ} {invariant : σ → Prop}
    (noted : ∀ line state, invariant state → invariant (host.note line state))
    (budget : Nat) (outcome : Except CallError α) :
    Dialogue.Yields host invariant (tellFinal budget outcome) () := by
  cases outcome with
  | ok value => exact Dialogue.Yields.pure ()
  | error error => cases error <;> exact Dialogue.Yields.say noted _ _ _

variable {host : Host I σ} {patience : Patience} {budget left : Nat}
  {call : Dialogue I (Except CallError α)} {state after : σ}

theorem run_attempt_of_settled {outcome : Except CallError α}
    (asked : call.run host state = (some outcome, after))
    (settled : isThrottled outcome = false) :
    (patience.attempt budget call left).run host state =
      (tellFinal budget outcome >>= fun _ => pure outcome).run host after := by
  cases left with
  | zero => exact Dialogue.run_bind_of_run asked
  | succ left =>
      rw [attempt, Dialogue.run_bind_of_run asked]
      cases outcome with
      | ok value => rfl
      | error error =>
          cases error with
          | rateLimited hint => cases settled
          | status code body => rfl
          | transport text => rfl
          | decode text => rfl

theorem run_attempt_zero {outcome : Except CallError α}
    (asked : call.run host state = (some outcome, after)) :
    (patience.attempt budget call 0).run host state =
      (tellFinal budget outcome >>= fun _ => pure outcome).run host after :=
  Dialogue.run_bind_of_run asked

theorem run_standing (traceless : ∀ line state, host.note line state = state) (budget : Nat)
    (outcome : Except CallError α) (state : σ) :
    (tellFinal budget outcome >>= fun _ => pure outcome).run host state =
      (some outcome, state) := by
  have told : Dialogue.Yields host (fun reached => reached = state) (tellFinal budget outcome) () :=
    tellFinal_yields (fun line reached same => (traceless line reached).trans same) budget outcome
  obtain ⟨_, final, run, _, same⟩ := told state rfl
  rw [Dialogue.run_bind_of_run run, same]
  rfl

theorem run_attempt_of_throttled (patience : Patience) (budget left : Nat) {hint : Option String}
    (asked : call.run host state = (some (.error (.rateLimited hint)), after)) :
    ∃ line, (patience.attempt budget call (left + 1)).run host state =
      (patience.attempt budget call left).run host
        (host.wait (patience.waitFor hint) (host.note line after)) := by
  let wait := patience.waitFor hint
  let text := s!"Custody API rate limited, retrying in {wait}ms ({left} retries left)"
  refine ⟨⟨.warn, .retry, text⟩, ?_⟩
  rw [attempt, Dialogue.run_bind_of_run asked]
  rfl

theorem exists_run_standing (host : Host I σ) (budget : Nat) (outcome : Except CallError α)
    (state : σ) :
    ∃ final, (tellFinal budget outcome >>= fun _ => pure outcome).run host state =
      (some outcome, final) := by
  have told : Dialogue.Yields host (fun _ => True) (tellFinal budget outcome) () :=
    tellFinal_yields (fun _ _ _ => trivial) budget outcome
  obtain ⟨_, final, run, _, _⟩ := told state trivial
  exact ⟨final, Dialogue.run_bind_of_run run⟩

theorem exists_run_attempt (patience : Patience) (budget left : Nat)
    (comesBack : ∀ state, ∃ outcome after, call.run host state = (some outcome, after))
    (state : σ) :
    ∃ outcome after, (patience.attempt budget call left).run host state =
      (some outcome, after) := by
  induction left generalizing state with
  | zero =>
      obtain ⟨outcome, after, asked⟩ := comesBack state
      obtain ⟨final, standing⟩ := exists_run_standing host budget outcome after
      exact ⟨outcome, final, (run_attempt_zero asked).trans standing⟩
  | succ left ih =>
      obtain ⟨outcome, after, asked⟩ := comesBack state
      cases throttled : isThrottled outcome with
      | true =>
          obtain ⟨hint, rfl⟩ := (isThrottled_iff outcome).mp throttled
          obtain ⟨line, again⟩ := run_attempt_of_throttled patience budget left asked
          obtain ⟨outcome, final, ended⟩ := ih (host.wait (patience.waitFor hint)
            (host.note line after))
          exact ⟨outcome, final, again.trans ended⟩
      | false =>
          obtain ⟨final, standing⟩ := exists_run_standing host budget outcome after
          exact ⟨outcome, final, (run_attempt_of_settled asked throttled).trans standing⟩

end Patience

/-! ## An endless sequence of outcomes -/

namespace Rehearsal

/-- An outside whose replies are an endless sequence; the state holds the times of the calls made
so far, and what is logged is not kept. -/
def endless {Reply : Type} (replies : Nat → Reply) :
    TimedHost (exchange Unit Reply) (List Nat) where
  answer := fun _ now times => (replies times.length, times ++ [now])
  note := fun _ times => times

end Rehearsal

namespace Patience

variable {I : Interface} {α : Type}

def bareCall (α : Type) : Task (exchange Unit (Except CallError α)) CallError α :=
  ExceptT.mk (Dialogue.query (I := exchange Unit (Except CallError α)) ())

/-- The milliseconds that a throttled outcome asks to wait: the number in its own hint when that
parses, else the default.  Every other outcome asks for nothing. -/
def waitAfter (patience : Patience) : Except CallError α → Nat
  | .error (.rateLimited hint) => (hintedWait hint).getD patience.defaultWait
  | _ => 0

/-- When the attempt with an index takes place: the start and the waits of all attempts before. -/
def attemptTime (patience : Patience) (outcomes : Nat → Except CallError α) (start index : Nat) :
    Nat :=
  start + ((List.range index).map fun earlier => patience.waitAfter (outcomes earlier)).sum

theorem attemptTime_succ (patience : Patience) (outcomes : Nat → Except CallError α)
    (start index : Nat) :
    patience.attemptTime outcomes start (index + 1) =
      patience.attemptTime outcomes start index + patience.waitAfter (outcomes index) := by
  simp [attemptTime, List.range_succ, Nat.add_assoc]

/-- The first outcome that is not throttled has the index. -/
def IsFirstSettled (outcomes : Nat → Except CallError α) (index : Nat) : Prop :=
  (∀ earlier < index, isThrottled (outcomes earlier) = true) ∧
    isThrottled (outcomes index) = false

theorem run_bareCall (outcomes : Nat → Except CallError α) (now : Nat) (times : List Nat) :
    (bareCall α).run.run (Rehearsal.endless outcomes).alone (now, times) =
      (some (outcomes times.length), now, times ++ [now]) := rfl

/-- Attempts that begin at one stage each, and wait for the next where they are throttled, run up to
one that stands: the first that is not throttled, or the last that the budget allows. -/
theorem run_attempt_staged {σ : Type} {host : Host I σ}
    (traceless : ∀ line state, host.note line state = state) (patience : Patience)
    {call : Dialogue I (Except CallError α)} {outcomes : Nat → Except CallError α}
    {stage after : Nat → σ}
    (asked : ∀ index, call.run host (stage index) = (some (outcomes index), after index))
    (waited : ∀ index, isThrottled (outcomes index) = true →
      host.wait (patience.waitAfter (outcomes index)) (after index) = stage (index + 1))
    (budget left : Nat) :
    ∃ last ≤ left, (∀ earlier < last, isThrottled (outcomes earlier) = true) ∧
      (isThrottled (outcomes last) = true → last = left) ∧
      (patience.attempt budget call left).run host (stage 0) =
        (some (outcomes last), after last) := by
  induction left generalizing outcomes stage after with
  | zero =>
      refine ⟨0, Nat.le_refl 0, by simp, fun _ => rfl, ?_⟩
      rw [run_attempt_zero (asked 0), run_standing traceless]
  | succ left ih =>
      cases throttled : isThrottled (outcomes 0) with
      | false =>
          refine ⟨0, Nat.zero_le _, by simp, by simp [throttled], ?_⟩
          rw [run_attempt_of_settled (asked 0) throttled, run_standing traceless]
      | true =>
          obtain ⟨hint, outcome⟩ := (isThrottled_iff _).mp throttled
          obtain ⟨line, again⟩ := run_attempt_of_throttled patience budget left
            (outcome ▸ asked 0)
          have wait : patience.waitAfter (outcomes 0) = patience.waitFor hint := by
            rw [outcome]
            rfl
          rw [traceless, ← wait, waited 0 throttled] at again
          obtain ⟨last, within, before, standing, rest⟩ :=
            ih (fun index => asked (index + 1)) fun index => waited (index + 1)
          refine ⟨last + 1, Nat.succ_le_succ within, ?_, ?_, again.trans rest⟩
          · intro earlier bound
            cases earlier with
            | zero => exact throttled
            | succ earlier => exact before earlier (Nat.lt_of_succ_lt_succ bound)
          · intro spent
            rw [standing spent]

/-- The attempts left run up to one that stands: the first that is not throttled, or the last that
the budget allows.  They take place on schedule from the time at which they begin. -/
theorem run_attempt_endless (patience : Patience) (outcomes : Nat → Except CallError α)
    (budget left now : Nat) (times : List Nat) :
    ∃ last ≤ left,
      (∀ earlier < last, isThrottled (outcomes (times.length + earlier)) = true) ∧
      (isThrottled (outcomes (times.length + last)) = true → last = left) ∧
      (patience.attempt budget (bareCall α).run left).run
          (Rehearsal.endless outcomes).alone (now, times) =
        (some (outcomes (times.length + last)),
          patience.attemptTime (fun later => outcomes (times.length + later)) now last,
          times ++ (List.range (last + 1)).map
            (patience.attemptTime (fun later => outcomes (times.length + later)) now)) := by
  let later := fun index => outcomes (times.length + index)
  let time := patience.attemptTime later now
  have asked (index : Nat) : (bareCall α).run.run (Rehearsal.endless outcomes).alone
      (time index, times ++ (List.range index).map time) =
        (some (later index), time index, times ++ (List.range (index + 1)).map time) := by
    rw [run_bareCall, List.length_append, List.length_map, List.length_range, List.range_succ,
      List.map_append, List.append_assoc]
    rfl
  have waited (index : Nat) : time index + patience.waitAfter (later index) = time (index + 1) :=
    (attemptTime_succ patience later now index).symm
  have staged := run_attempt_staged (fun _ _ => rfl) patience asked
    (fun index _ => Prod.ext (waited index) rfl) budget left
  rwa [List.range_zero, List.map_nil, List.append_nil] at staged

/-- A whole execution that begins at a time: its result, when it ends, and when each call was
made. -/
def execution (patience : Patience) (budget : Nat) (outcomes : Nat → Except CallError α)
    (start : Nat) : Option (Except CallError α) × Nat × List Nat :=
  (patience.executeWith budget (bareCall α)).run.run (Rehearsal.endless outcomes).alone (start, [])

/-- The first outcome that is not throttled is returned when the budget of retries reaches it, and
else the throttled outcome after which nothing is left of the budget.  The calls up to there are
all that are made, each on schedule, and the execution ends with the last of them. -/
theorem execution_on_schedule (patience : Patience) (budget start : Nat)
    (outcomes : Nat → Except CallError α) :
    (∀ index, IsFirstSettled outcomes index → index ≤ budget →
      patience.execution budget outcomes start =
        (some (outcomes index), patience.attemptTime outcomes start index,
          (List.range (index + 1)).map (patience.attemptTime outcomes start))) ∧
    ((∀ index, IsFirstSettled outcomes index → budget < index) →
      (∃ hint, outcomes budget = .error (.rateLimited hint)) ∧
      patience.execution budget outcomes start =
        (some (outcomes budget), patience.attemptTime outcomes start budget,
          (List.range (budget + 1)).map (patience.attemptTime outcomes start))) := by
  obtain ⟨last, within, before, standing, run⟩ :=
    run_attempt_endless patience outcomes budget budget start []
  simp only [List.length_nil, Nat.zero_add, List.nil_append] at before standing run
  constructor
  · intro index first reached
    have same : last = index := by
      rcases Nat.lt_trichotomy last index with sooner | same | later
      · have spent := standing (first.1 last sooner)
        omega
      · exact same
      · have throttled := before index later
        rw [first.2] at throttled
        cases throttled
    rw [← same]
    exact run
  · intro beyond
    have throttled : isThrottled (outcomes last) = true := by
      cases settled : isThrottled (outcomes last) with
      | true => rfl
      | false => exact absurd (beyond last ⟨before, settled⟩) (Nat.not_lt.mpr within)
    have spent := standing throttled
    subst spent
    exact ⟨(isThrottled_iff _).mp throttled, run⟩

def twiceThrottled : Nat → Except CallError String
  | 0 => .error (.rateLimited (some " 250 "))
  | 1 => .error (.rateLimited (some "later"))
  | _ => .ok "done"

/-- A budget of two reaches the success, and a budget of one ends with the second hint. -/
theorem execution_twiceThrottled :
    usual.execution 2 twiceThrottled 7 = (some (.ok "done"), 1257, [7, 257, 1257]) ∧
    usual.execution 1 twiceThrottled 7 =
      (some (.error (.rateLimited (some "later"))), 257, [7, 257]) := by
  have first : IsFirstSettled twiceThrottled 2 := ⟨by decide, rfl⟩
  refine ⟨?_, ?_⟩
  · exact (execution_on_schedule usual 2 7 twiceThrottled).1 2 first (Nat.le_refl 2)
  · refine ((execution_on_schedule usual 1 7 twiceThrottled).2 fun index settled => ?_).2
    rcases Nat.lt_or_ge 1 index with later | sooner
    · exact later
    · have throttled := first.1 index (by omega)
      rw [settled.2] at throttled
      cases throttled

end Patience

end DepositDirectory
