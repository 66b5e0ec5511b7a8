import DepositDirectory.Cache.Traffic
import Mathlib.Data.List.Induction

/-!
# Calls for the value of one cache

Many tasks call for the value of one cache at once, and each of them is the dialogue `Cache.get`.
A call goes on by itself until it ends or waits for a run of the producer, and goes on again when
that run ends: so its decision is one step and its store another, and everything else may happen in
between.  The steps of the calls are the steps of `Traffic`, and each leaves a call in one of three
standings.
-/

namespace DepositDirectory.Cache

variable {α ε : Type}

/-- What a call for the value asks: the cache, or for a run of the producer. -/
inductive Demand (α : Type) where
  | cache (ask : Ask α)
  | produce

def counter (α ε : Type) : Interface where
  Ask := Demand α
  Reply := fun
    | .cache ask => ask.Reply
    | .produce => Except ε α

def fetch (ε : Type) (terms : Terms) : Dialogue (counter α ε) (Except ε α) :=
  (get terms (fun ask => Dialogue.query (I := counter α ε) (.cache ask))
    (ExceptT.mk (Dialogue.query (I := counter α ε) .produce))).run

/-- A call: what is left of it, and the number of the run that it started. -/
structure Caller (α ε : Type) where
  rest : Dialogue (counter α ε) (Except ε α)
  run : Option Nat

namespace Traffic

/-- What is replied at once; a run of the producer is not over at once. -/
def answer (ε : Type) (terms : Terms) :
    (demand : Demand α) → Traffic α → Option ((counter α ε).Reply demand × Traffic α)
  | .cache .consult, traffic => some (terms.consult traffic.entry traffic.now, traffic)
  | .cache (.keep value), traffic =>
      some ((), { traffic with entry := some ⟨value, traffic.now⟩ })
  | .cache .forget, traffic => some ((), traffic.invalidate)
  | .produce, _ => none

def launch (traffic : Traffic α) : Traffic α :=
  { traffic with
    started := traffic.started + 1
    underWay := traffic.underWay ++ [traffic.started + 1] }

def settle (run : Nat) (traffic : Traffic α) : Traffic α :=
  { traffic with underWay := traffic.underWay.filter (· ≠ run) }

/-- Let a call go on until it ends or waits for a run that it starts; `run` is the one it started
before. -/
def serve (terms : Terms) (run : Option Nat) :
    Dialogue (counter α ε) (Except ε α) → Traffic α → Caller α ε × Traffic α
  | .done outcome, traffic => (⟨.done outcome, run⟩, traffic)
  | .unfinished, traffic => (⟨.unfinished, run⟩, traffic)
  | .sleep _ next, traffic => serve terms run next traffic
  | .note _ next, traffic => serve terms run next traffic
  | .ask demand next, traffic =>
      match answer ε terms demand traffic with
      | some (reply, after) => serve terms run (next reply) after
      | none => (⟨.ask demand next, some (traffic.started + 1)⟩, traffic.launch)

end Traffic

/-- A cache and the calls that have been made for its value, in the order in which they came. -/
structure Crowd (α ε : Type) where
  traffic : Traffic α
  callers : List (Caller α ε)

/-- What can happen: a call comes and decides, the run of a call ends, the entry is looked at or
dropped, the clock moves. -/
inductive Event (α ε : Type) where
  | get
  | finish (caller : Nat) (outcome : Except ε α)
  | peek
  | invalidate
  | advance (ns : Int)

namespace Crowd

def empty : Crowd α ε := ⟨Traffic.quiet, []⟩

def arrive (terms : Terms) (crowd : Crowd α ε) : Crowd α ε :=
  let served := crowd.traffic.serve terms none (fetch ε terms)
  ⟨served.2, crowd.callers ++ [served.1]⟩

/-- The run of a call ends and the call goes on; no run ends for a call that waits for none. -/
def finish (terms : Terms) (index : Nat) (outcome : Except ε α) (crowd : Crowd α ε) :
    Option (Crowd α ε) :=
  match crowd.callers[index]? with
  | some ⟨.ask .produce next, some run⟩ =>
      let served := (crowd.traffic.settle run).serve terms (some run) (next outcome)
      some ⟨served.2, crowd.callers.set index served.1⟩
  | _ => none

/-- What an event makes of a crowd, if it can happen. -/
def step (terms : Terms) (crowd : Crowd α ε) : Event α ε → Option (Crowd α ε)
  | .get => some (crowd.arrive terms)
  | .finish index outcome => crowd.finish terms index outcome
  | .peek => some crowd
  | .invalidate => some { crowd with traffic := crowd.traffic.invalidate }
  | .advance ns => some { crowd with traffic := crowd.traffic.advance ns }

/-- The crowd after a history of events, if it is possible. -/
def run (terms : Terms) (events : List (Event α ε)) : Option (Crowd α ε) :=
  events.foldlM (step terms) empty

end Crowd

/-! ## The standings of a call -/

def afterRun : Except ε α → Dialogue (counter α ε) (Except ε α)
  | .ok value => .ask (I := counter α ε) (.cache (.keep value)) fun _ => .done (.ok value)
  | .error cause => .done (.error cause)

def afterConsult (terms : Terms) : Verdict α → Dialogue (counter α ε) (Except ε α)
  | .serve value age => .note ⟨.debug, .cache, terms.servedText age⟩ (.done (.ok value))
  | .refresh => .ask (I := counter α ε) .produce afterRun

theorem fetch_eq (terms : Terms) :
    fetch (α := α) ε terms =
      .ask (I := counter α ε) (.cache .consult) (afterConsult terms) := by
  change Dialogue.ask (I := counter α ε) (.cache .consult) _ = _
  congr
  funext verdict
  cases verdict with
  | serve value age => rfl
  | refresh =>
      change Dialogue.ask (I := counter α ε) .produce _ = Dialogue.ask (I := counter α ε) .produce _
      congr
      funext outcome
      cases outcome <;> rfl

namespace Caller

def served (value : α) : Caller α ε := ⟨.done (.ok value), none⟩

def waiting (run : Nat) : Caller α ε := ⟨.ask (I := counter α ε) .produce afterRun, some run⟩

def ended (run : Nat) (outcome : Except ε α) : Caller α ε := ⟨.done outcome, some run⟩

@[simp]
theorem served_ne_waiting (value : α) (run : Nat) : (served value : Caller α ε) ≠ waiting run :=
  fun same => nomatch congrArg Caller.run same

@[simp]
theorem ended_ne_waiting (ran run : Nat) (outcome : Except ε α) : ended ran outcome ≠ waiting run :=
  fun same => nomatch congrArg Caller.rest same

theorem served_inj {first second : α} (same : (served first : Caller α ε) = served second) :
    first = second := by
  cases same
  rfl

/-- A call is served, or waits for its run, or its run has ended. -/
inductive Standing : Caller α ε → Prop where
  | served (value : α) : Standing (served value)
  | waiting (run : Nat) : Standing (waiting run)
  | ended (run : Nat) (outcome : Except ε α) : Standing (ended run outcome)

end Caller

namespace Traffic

theorem serve_fetch (terms : Terms) (traffic : Traffic α) :
    traffic.serve terms none (fetch ε terms) =
      match traffic.begin terms with
      | (.served value _, after) => (Caller.served value, after)
      | (.running run, after) => (Caller.waiting run, after) := by
  rw [fetch_eq]
  change serve terms none (afterConsult terms (terms.consult traffic.entry traffic.now)) traffic = _
  unfold begin
  cases terms.consult traffic.entry traffic.now with
  | serve value age => rfl
  | refresh => rfl

/-- A call whose run ends does to the traffic what `finish` says, and ends with the outcome. -/
theorem serve_afterRun (terms : Terms) (run : Nat) (outcome : Except ε α) (traffic : Traffic α) :
    (traffic.settle run).serve terms (some run) (afterRun outcome) =
      (Caller.ended run outcome, traffic.finish run outcome) := by
  cases outcome <;> rfl

end Traffic

theorem consult_cases (terms : Terms) (held : Option (Entry α)) (now : Int) :
    terms.consult held now = .refresh ∨
      ∃ entry, held = some entry ∧
        terms.policy.refreshes (now - entry.producedAt) terms.ttl = false ∧
        terms.consult held now = .serve entry.value (now - entry.producedAt) := by
  cases held with
  | none => exact Or.inl rfl
  | some entry =>
      cases decided : terms.policy.refreshes (now - entry.producedAt) terms.ttl with
      | true => exact Or.inl (by simp [Terms.consult, Terms.judge, decided])
      | false => exact Or.inr ⟨entry, rfl, decided, by simp [Terms.consult, Terms.judge, decided]⟩

/-! ## What one event can do -/

namespace Crowd

def Proper (crowd : Crowd α ε) : Prop := ∀ caller ∈ crowd.callers, caller.Standing

/-- Everything that an event can do to a crowd. -/
inductive Step (terms : Terms) (crowd : Crowd α ε) : Event α ε → Crowd α ε → Prop where
  | served {entry : Entry α} (held : crowd.traffic.entry = some entry)
      (serves :
        terms.policy.refreshes (crowd.traffic.now - entry.producedAt) terms.ttl = false) :
      Step terms crowd .get ⟨crowd.traffic, crowd.callers ++ [.served entry.value]⟩
  | started (refreshes : terms.consult crowd.traffic.entry crowd.traffic.now = .refresh) :
      Step terms crowd .get
        ⟨crowd.traffic.launch, crowd.callers ++ [.waiting (crowd.traffic.started + 1)]⟩
  | finished {index run : Nat} {outcome : Except ε α}
      (waits : crowd.callers[index]? = some (.waiting run)) :
      Step terms crowd (.finish index outcome)
        ⟨crowd.traffic.finish run outcome, crowd.callers.set index (.ended run outcome)⟩
  | peeked : Step terms crowd .peek crowd
  | dropped : Step terms crowd .invalidate ⟨crowd.traffic.invalidate, crowd.callers⟩
  | moved (ns : Int) : Step terms crowd (.advance ns) ⟨crowd.traffic.advance ns, crowd.callers⟩

variable {terms : Terms} {crowd next : Crowd α ε} {event : Event α ε}

theorem arrive_step (terms : Terms) (crowd : Crowd α ε) :
    Step terms crowd .get (crowd.arrive terms) := by
  unfold arrive
  rw [Traffic.serve_fetch]
  unfold Traffic.begin
  rcases consult_cases terms crowd.traffic.entry crowd.traffic.now with
    refreshes | ⟨entry, held, serves, consulted⟩
  · rw [refreshes]
    exact .started refreshes
  · rw [consulted]
    exact .served held serves

theorem finish_step (proper : crowd.Proper) {index : Nat} {outcome : Except ε α}
    (stepped : crowd.finish terms index outcome = some next) :
    Step terms crowd (.finish index outcome) next := by
  unfold finish at stepped
  split at stepped
  · rename_i rest run found
    have standing := proper _ (List.mem_of_getElem? found)
    cases standing with
    | waiting _ =>
        simp only [Traffic.serve_afterRun, Option.some.injEq] at stepped
        cases stepped
        exact .finished found
  · cases stepped

theorem step_cases (proper : crowd.Proper) (stepped : crowd.step terms event = some next) :
    Step terms crowd event next := by
  cases event with
  | get =>
      cases stepped
      exact arrive_step terms crowd
  | finish index outcome => exact finish_step proper stepped
  | peek =>
      cases stepped
      exact .peeked
  | invalidate =>
      cases stepped
      exact .dropped
  | advance ns =>
      cases stepped
      exact .moved ns

theorem Step.proper (step : Step terms crowd event next) (proper : crowd.Proper) :
    next.Proper := by
  cases step with
  | served held serves =>
      intro caller member
      rcases List.mem_append.mp member with old | new
      · exact proper caller old
      · rw [List.mem_singleton.mp new]
        exact .served _
  | started refreshes =>
      intro caller member
      rcases List.mem_append.mp member with old | new
      · exact proper caller old
      · rw [List.mem_singleton.mp new]
        exact .waiting _
  | finished waits =>
      intro caller member
      rcases List.mem_or_eq_of_mem_set member with old | new
      · exact proper caller old
      · rw [new]
        exact .ended _ _
  | peeked => exact proper
  | dropped => exact proper
  | moved ns => exact proper

/-! ## Histories -/

theorem run_concat (terms : Terms) (events : List (Event α ε)) (event : Event α ε) :
    run terms (events ++ [event]) = (run terms events).bind (step terms · event) := by
  simp [run, List.foldlM_append]

/-- What holds before anything has happened, and is kept by every event that can happen, holds
after every possible history. -/
theorem run_induction {terms : Terms} {motive : List (Event α ε) → Crowd α ε → Prop}
    (nil : motive [] empty)
    (snoc : ∀ events crowd event next, run terms events = some crowd → motive events crowd →
      Step terms crowd event next → motive (events ++ [event]) next)
    {events : List (Event α ε)} {crowd : Crowd α ε} (possible : run terms events = some crowd) :
    motive events crowd := by
  suffices proper : crowd.Proper ∧ motive events crowd from proper.2
  induction events using List.reverseRecOn generalizing crowd with
  | nil =>
      cases possible
      refine ⟨?_, nil⟩
      intro caller member
      cases member
  | append_singleton events event ih =>
      rw [run_concat] at possible
      obtain ⟨before, reached, stepped⟩ := Option.bind_eq_some_iff.mp possible
      obtain ⟨proper, holds⟩ := ih reached
      have step := step_cases proper stepped
      exact ⟨step.proper proper, snoc _ _ _ _ reached holds step⟩

theorem proper_of_run {terms : Terms} {events : List (Event α ε)} {crowd : Crowd α ε}
    (possible : run terms events = some crowd) : crowd.Proper := by
  refine run_induction (motive := fun _ crowd => crowd.Proper) ?_ ?_ possible
  · intro caller member
    cases member
  · intro events crowd event next _ proper step
    exact step.proper proper

theorem step_of_run {terms : Terms} {events : List (Event α ε)} {event : Event α ε}
    {next : Crowd α ε} (possible : run terms (events ++ [event]) = some next) :
    ∃ crowd, run terms events = some crowd ∧ Step terms crowd event next := by
  rw [run_concat] at possible
  obtain ⟨crowd, reached, stepped⟩ := Option.bind_eq_some_iff.mp possible
  exact ⟨crowd, reached, step_cases (proper_of_run reached) stepped⟩

theorem run_prefix {terms : Terms} {before after : List (Event α ε)} {crowd : Crowd α ε}
    (possible : run terms (before ++ after) = some crowd) :
    ∃ earlier, run terms before = some earlier := by
  simp only [run, List.foldlM_append] at possible
  obtain ⟨earlier, reached, _⟩ := Option.bind_eq_some_iff.mp possible
  exact ⟨earlier, reached⟩

end Crowd

end DepositDirectory.Cache
