import DepositDirectory.Together
import Mathlib.Algebra.GroupWithZero.Nat
import Mathlib.Algebra.Order.BigOperators.Group.List
import Mathlib.Algebra.Order.Group.Nat
import Mathlib.Data.List.Fold
import Mathlib.Data.List.MinMax
import Mathlib.Order.Nat

/-!
# Tasks that go on in any order

Tasks under a common clock take their steps one at a time, in any order among those that are due.
The clock stands still as long as a task is due, and then moves to the next wake-up.  The tasks
share nothing else, so at every moment each still comes to what it comes to alone.  No order of
steps goes on for ever, and where none is left every task has ended, the last of them just now.
-/

namespace DepositDirectory.Together

variable {I : Interface} {σ α : Type}

/-! ## Moments and steps -/

/-- The time, and where each task stands. -/
structure Moment (I : Interface) (σ α : Type) where
  now : Nat
  lanes : List (Lane I σ α)

/-- A task that is due takes one step of its own. -/
inductive Lane.Step (host : TimedHost I σ) (now : Nat) : Lane I σ α → Lane I σ α → Prop where
  | ask {time : Nat} {question : I.Ask} {next : I.Reply question → Dialogue I α} {state : σ}
      (due : time ≤ now) :
      Lane.Step host now ⟨.ask question next, state, time⟩
        ⟨next (host.answer question now state).1, (host.answer question now state).2, now⟩
  | sleep {time ms : Nat} {next : Dialogue I α} {state : σ} (due : time ≤ now) :
      Lane.Step host now ⟨.sleep ms next, state, time⟩ ⟨next, state, now + ms⟩
  | note {time : Nat} {line : Log.Line} {next : Dialogue I α} {state : σ} (due : time ≤ now) :
      Lane.Step host now ⟨.note line next, state, time⟩ ⟨next, host.note line state, now⟩

/-- One of the tasks that are due takes a step; or none is due, and the clock moves to the next
wake-up. -/
inductive Step (host : TimedHost I σ) : Moment I σ α → Moment I σ α → Prop where
  | task {now : Nat} {lane next : Lane I σ α} (before after : List (Lane I σ α))
      (step : lane.Step host now next) :
      Step host ⟨now, before ++ lane :: after⟩ ⟨now, before ++ next :: after⟩
  | clock {now : Nat} {lanes : List (Lane I σ α)} {waiting : Lane I σ α}
      (idle : ∀ lane ∈ lanes, lane.isOver = true ∨ now < lane.time) (member : waiting ∈ lanes)
      (later : now < waiting.time)
      (first : ∀ lane ∈ lanes, now < lane.time → waiting.time ≤ lane.time) :
      Step host ⟨now, lanes⟩ ⟨waiting.time, lanes⟩

/-- So many steps, one after the other. -/
inductive Steps (host : TimedHost I σ) : Nat → Moment I σ α → Moment I σ α → Prop where
  | start (moment : Moment I σ α) : Steps host 0 moment moment
  | more {count : Nat} {first middle last : Moment I σ α} (steps : Steps host count first middle)
      (step : Step host middle last) : Steps host (count + 1) first last

/-- No step is left. -/
def Moment.AtRest (host : TimedHost I σ) (moment : Moment I σ α) : Prop :=
  ∀ next, ¬ Step host moment next

/-- The moment at which tasks are started together. -/
def opening (tasks : List (Dialogue I α × σ)) : Moment I σ α :=
  ⟨0, tasks.map fun (task, state) => ⟨task, state, 0⟩⟩

/-! ## What a task comes to alone -/

/-- What is left of a task comes to this alone: its result, its end and the state of its host. -/
def Lane.alone (host : TimedHost I σ) (lane : Lane I σ α) : Option α × Nat × σ :=
  lane.rest.run host.alone (lane.time, lane.state)

theorem Lane.alone_of_isOver {host : TimedHost I σ} {lane : Lane I σ α}
    (ended : lane.isOver = true) :
    lane.alone host = (lane.result?, lane.time, lane.state) := by
  obtain ⟨rest, state, time⟩ := lane
  cases rest with
  | done result => rfl
  | unfinished => rfl
  | ask question next => cases ended
  | sleep ms next => cases ended
  | note line next => cases ended

def Moment.Punctual (moment : Moment I σ α) : Prop :=
  ∀ lane ∈ moment.lanes, lane.isOver = false → moment.now ≤ lane.time

theorem punctual_opening (tasks : List (Dialogue I α × σ)) : (opening tasks).Punctual :=
  fun _ _ _ => Nat.zero_le _

namespace Lane.Step

variable {host : TimedHost I σ} {now : Nat} {lane next : Lane I σ α}

theorem notOver (step : lane.Step host now next) : lane.isOver = false := by
  cases step <;> rfl

theorem due (step : lane.Step host now next) : lane.time ≤ now := by
  cases step with
  | ask due => exact due
  | sleep due => exact due
  | note due => exact due

theorem now_le (step : lane.Step host now next) : now ≤ next.time := by
  cases step with
  | ask => exact Nat.le_refl now
  | sleep => exact Nat.le_add_right now _
  | note => exact Nat.le_refl now

/-- A task that is not behind the time comes to the same after its step. -/
theorem alone_eq (step : lane.Step host now next) (punctual : now ≤ lane.time) :
    next.alone host = lane.alone host := by
  have same : lane.time = now := Nat.le_antisymm step.due punctual
  cases step with
  | ask => subst same; rfl
  | sleep => subst same; rfl
  | note => subst same; rfl

theorem exists_of_due (host : TimedHost I σ) (goesOn : lane.isOver = false)
    (due : lane.time ≤ now) : ∃ next, lane.Step host now next := by
  obtain ⟨rest, state, time⟩ := lane
  cases rest with
  | done result => cases goesOn
  | unfinished => cases goesOn
  | ask question next => exact ⟨_, .ask due⟩
  | sleep ms next => exact ⟨_, .sleep due⟩
  | note line next => exact ⟨_, .note due⟩

end Lane.Step

namespace Step

variable {host : TimedHost I σ} {moment next : Moment I σ α}

theorem punctual (step : Step host moment next) (punctual : moment.Punctual) : next.Punctual := by
  cases step with
  | @task now lane later before after step =>
      intro other member goesOn
      rcases List.mem_append.mp member with earlier | rest
      · exact punctual other (List.mem_append_left _ earlier) goesOn
      · rcases List.mem_cons.mp rest with rfl | rest
        · exact step.now_le
        · exact punctual other (List.mem_append_right _ (List.mem_cons_of_mem _ rest)) goesOn
  | clock idle member later first =>
      intro other among goesOn
      have ahead : _ < other.time :=
        (idle other among).resolve_left (Bool.eq_false_iff.mp goesOn)
      exact first other among ahead

theorem alone_eq (step : Step host moment next) (punctual : moment.Punctual) :
    next.lanes.map (Lane.alone host) = moment.lanes.map (Lane.alone host) := by
  cases step with
  | @task now lane later before after step =>
      have ahead := punctual lane (List.mem_append_right _ List.mem_cons_self) step.notOver
      rw [List.map_append, List.map_append, List.map_cons, List.map_cons, step.alone_eq ahead]
  | clock idle member later first => rfl

theorem now_le (step : Step host moment next) :
    ∃ lane ∈ next.lanes, next.now ≤ lane.time := by
  cases step with
  | @task now lane later before after step =>
      exact ⟨later, List.mem_append_right _ List.mem_cons_self, step.now_le⟩
  | @clock now lanes waiting idle member later first =>
      exact ⟨waiting, member, Nat.le_refl _⟩

end Step

/-! ## No order of steps goes on for ever -/

def stepsFrom (host : TimedHost I σ) : Dialogue I α → Nat → σ → Nat
  | .done _, _, _ => 0
  | .unfinished, _, _ => 0
  | .ask question next, now, state =>
      let replied := host.answer question now state
      stepsFrom host (next replied.1) now replied.2 + 1
  | .sleep ms next, now, state => stepsFrom host next (now + ms) state + 1
  | .note line next, now, state => stepsFrom host next now (host.note line state) + 1

def Lane.stepsLeft (host : TimedHost I σ) (lane : Lane I σ α) : Nat :=
  stepsFrom host lane.rest lane.time lane.state

/-- A bound for the steps from a moment on: a step of a task can set off one wake-up. -/
def Moment.stepsLeft (host : TimedHost I σ) (moment : Moment I σ α) : Nat :=
  (moment.lanes.map fun lane =>
    2 * lane.stepsLeft host + if moment.now < lane.time then 1 else 0).sum

theorem Lane.Step.stepsLeft_eq {host : TimedHost I σ} {now : Nat} {lane next : Lane I σ α}
    (step : lane.Step host now next) (punctual : now ≤ lane.time) :
    lane.stepsLeft host = next.stepsLeft host + 1 := by
  have same : lane.time = now := Nat.le_antisymm step.due punctual
  cases step with
  | ask => subst same; rfl
  | sleep => subst same; rfl
  | note => subst same; rfl

theorem Step.stepsLeft_lt {host : TimedHost I σ} {moment next : Moment I σ α}
    (step : Step host moment next) (punctual : moment.Punctual) :
    next.stepsLeft host < moment.stepsLeft host := by
  cases step with
  | @task now lane later before after step =>
      have ahead := punctual lane (List.mem_append_right _ List.mem_cons_self) step.notOver
      have fewer := step.stepsLeft_eq ahead
      have due : ¬ now < lane.time := Nat.not_lt.mpr step.due
      simp only [Moment.stepsLeft, List.map_append, List.map_cons, List.sum_append,
        List.sum_cons, if_neg due]
      split <;> omega
  | @clock now lanes waiting idle member later first =>
      refine List.sum_lt_sum _ _ (fun lane _ => ?_) ⟨waiting, member, ?_⟩
      · refine Nat.add_le_add_left ?_ _
        split
        · rename_i still
          rw [if_pos (Nat.lt_trans later still)]
        · exact Nat.zero_le _
      · rw [if_neg (Nat.lt_irrefl _), if_pos later]
        exact Nat.lt_succ_self _

/-- Where no step is left, every task has ended, and none later than now. -/
theorem Moment.AtRest.ended {host : TimedHost I σ} {moment : Moment I σ α}
    (atRest : moment.AtRest host) :
    ∀ lane ∈ moment.lanes, lane.isOver = true ∧ lane.time ≤ moment.now := by
  obtain ⟨now, lanes⟩ := moment
  have idle : ∀ lane ∈ lanes, lane.isOver = true ∨ now < lane.time := by
    intro lane member
    by_contra neither
    obtain ⟨goesOn, due⟩ := not_or.mp neither
    obtain ⟨next, step⟩ := Lane.Step.exists_of_due host (Bool.not_eq_true _ ▸ goesOn)
      (Nat.not_lt.mp due)
    obtain ⟨before, after, rfl⟩ := List.append_of_mem member
    exact atRest _ (.task before after step)
  have none_waits : ∀ lane ∈ lanes, ¬ now < lane.time := by
    intro lane member later
    -- Of the tasks that wait, the one that is due first lets the clock move.
    let waiting := lanes.filter fun other => now < other.time
    have filled : lane ∈ waiting := List.mem_filter.mpr ⟨member, decide_eq_true later⟩
    obtain ⟨first, found⟩ := Option.ne_none_iff_exists'.mp fun none =>
      List.ne_nil_of_mem filled (List.argmin_eq_none (f := Lane.time).mp none)
    obtain ⟨among, ahead⟩ := List.mem_filter.mp (List.argmin_mem found)
    refine atRest _ (.clock idle among (of_decide_eq_true ahead) fun other elsewhere waits => ?_)
    exact List.le_of_mem_argmin (List.mem_filter.mpr ⟨elsewhere, decide_eq_true waits⟩) found
  intro lane member
  have past := none_waits lane member
  exact ⟨(idle lane member).resolve_right past, Nat.not_lt.mp past⟩

/-! ## Whole runs -/

namespace Steps

variable {host : TimedHost I σ} {count : Nat} {first last : Moment I σ α}

theorem punctual (steps : Steps host count first last) (start : first.Punctual) :
    last.Punctual := by
  induction steps with
  | start moment => exact start
  | more steps step ih => exact step.punctual (ih start)

theorem alone_eq (steps : Steps host count first last) (start : first.Punctual) :
    last.lanes.map (Lane.alone host) = first.lanes.map (Lane.alone host) := by
  induction steps with
  | start moment => rfl
  | more steps step ih => exact (step.alone_eq (steps.punctual start)).trans (ih start)

theorem count_le (steps : Steps host count first last) (start : first.Punctual) :
    count + last.stepsLeft host ≤ first.stepsLeft host := by
  induction steps with
  | start moment => exact Nat.le_of_eq (Nat.zero_add _)
  | more steps step ih =>
      have before := ih start
      have fewer := step.stepsLeft_lt (steps.punctual start)
      omega

theorem now_le (steps : Steps host count first last) (start : first.now = 0) :
    last.now = 0 ∨ ∃ lane ∈ last.lanes, last.now ≤ lane.time := by
  cases steps with
  | start => exact Or.inl start
  | more steps step => exact Or.inr step.now_le

end Steps

/-- From every moment the steps can be taken to an end. -/
theorem exists_atRest (host : TimedHost I σ) (moment : Moment I σ α) (punctual : moment.Punctual) :
    ∃ count last, Steps host count moment last ∧ last.AtRest host := by
  by_contra never
  push Not at never
  have onward : ∀ count, ∃ last, Steps host count moment last := by
    intro count
    induction count with
    | zero => exact ⟨moment, .start moment⟩
    | succ count ih =>
        obtain ⟨last, steps⟩ := ih
        obtain ⟨next, step⟩ := not_forall_not.mp (never count last steps)
        exact ⟨next, steps.more step⟩
  obtain ⟨last, steps⟩ := onward (moment.stepsLeft host + 1)
  have bound := steps.count_le punctual
  omega

/-! ## The end of the last task -/

theorem endTime_eq_foldr (lanes : List (Lane I σ α)) :
    endTime lanes = (lanes.map Lane.time).foldr max ⊥ :=
  List.foldl_eq_foldr

/-- When all has come to rest, it is the time at which the last task ended. -/
theorem Moment.AtRest.now_eq {host : TimedHost I σ} {moment : Moment I σ α}
    (atRest : moment.AtRest host)
    (reached : moment.now = 0 ∨ ∃ lane ∈ moment.lanes, moment.now ≤ lane.time) :
    moment.now = endTime moment.lanes := by
  rw [endTime_eq_foldr]
  apply Nat.le_antisymm
  · rcases reached with start | ⟨lane, member, ahead⟩
    · rw [start]
      exact Nat.zero_le _
    · exact List.le_max_of_le (List.mem_map_of_mem member) ahead
  · refine List.max_le_of_forall_le _ _ fun time member => ?_
    obtain ⟨lane, among, rfl⟩ := List.mem_map.mp member
    exact (atRest.ended lane among).2

end DepositDirectory.Together
