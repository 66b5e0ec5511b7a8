import DepositDirectory.Dialogue

/-!
# Tasks under a common clock

Several tasks are started at once and share nothing but a clock of milliseconds.  A task that is due
goes on until it sleeps or ends; when none is due, the clock moves on to the next time at which one
is.  A task that runs alone is the same with a single lane: its clock moves by exactly what it
sleeps.
-/

namespace DepositDirectory

/-- A host that knows what time it is when it answers. -/
structure TimedHost (I : Interface) (σ : Type) where
  answer : (question : I.Ask) → (now : Nat) → σ → I.Reply question × σ
  note : Log.Line → σ → σ

/--
The host of a task that runs alone: the clock is part of the state and moves as the task sleeps.
-/
def TimedHost.alone {I : Interface} {σ : Type} (host : TimedHost I σ) : Host I (Nat × σ) where
  answer := fun question (now, state) =>
    let (reply, state) := host.answer question now state
    (reply, now, state)
  wait := fun ms (now, state) => (now + ms, state)
  note := fun line (now, state) => (now, host.note line state)

namespace Together

/-- One of several tasks: what is left of it, the state of its host, and when it is due or ended. -/
structure Lane (I : Interface) (σ α : Type) where
  rest : Dialogue I α
  state : σ
  time : Nat

variable {I : Interface} {σ α : Type}

def Lane.result? (lane : Lane I σ α) : Option α :=
  match lane.rest with
  | .done result => some result
  | _ => none

def Lane.isOver (lane : Lane I σ α) : Bool :=
  match lane.rest with
  | .done _ => true
  | .unfinished => true
  | _ => false

def goOn (host : TimedHost I σ) (now : Nat) : Dialogue I α → σ → Lane I σ α
  | .done result, state => ⟨.done result, state, now⟩
  | .unfinished, state => ⟨.unfinished, state, now⟩
  | .ask question next, state =>
      let replied := host.answer question now state
      goOn host now (next replied.1) replied.2
  | .sleep ms next, state => ⟨next, state, now + ms⟩
  | .note line next, state => goOn host now next (host.note line state)

def Lane.resume (host : TimedHost I σ) (now : Nat) (lane : Lane I σ α) : Lane I σ α :=
  if lane.isOver || now < lane.time then lane else goOn host now lane.rest lane.state

def nextTime? (lanes : List (Lane I σ α)) : Option Nat :=
  ((lanes.filter (!·.isOver)).map Lane.time).min?

/-- Let the tasks go on from a time, through as many stops of the clock as are allowed. -/
def run (host : TimedHost I σ) : (allowance : Nat) → (now : Nat) → List (Lane I σ α) →
    List (Lane I σ α)
  | 0, _, lanes => lanes
  | allowance + 1, now, lanes =>
      let resumed := lanes.map (·.resume host now)
      match nextTime? resumed with
      | none => resumed
      | some time => run host allowance time resumed

def start (host : TimedHost I σ) (allowance : Nat) (tasks : List (Dialogue I α × σ)) :
    List (Lane I σ α) :=
  run host allowance 0 (tasks.map fun (task, state) => ⟨task, state, 0⟩)

def endTime (lanes : List (Lane I σ α)) : Nat :=
  (lanes.map Lane.time).foldl max 0

end Together

end DepositDirectory
