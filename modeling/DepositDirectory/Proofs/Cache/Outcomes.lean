import DepositDirectory.Proofs.Cache.History

/-!
# What each call for the value of a cache comes to

A call decides at the crowd that it finds.  From there on only the end of its own run changes how it
stands: not the calls around it, nor their runs, nor invalidations or the clock.  So each call can
be followed from its decision through the rest of the history, and the runs can be counted by the
calls that decided to start one.
-/

namespace DepositDirectory.Cache

variable {α ε : Type}

namespace Crowd

variable {terms : Terms}

def Unended (index : Nat) (events : List (Event α ε)) : Prop :=
  ∀ outcome, .finish index outcome ∉ events

theorem Unended.concat {index : Nat} {events : List (Event α ε)} (unended : Unended index events)
    {event : Event α ε} (other : ∀ outcome, event ≠ .finish index outcome) :
    Unended index (events ++ [event]) := by
  intro outcome member
  rcases List.mem_append.mp member with old | new
  · exact unended outcome old
  · exact other outcome (List.mem_singleton.mp new).symm

/-- How a call stands that decided at an earlier crowd, by what has happened since. -/
inductive Follows (terms : Terms) (index : Nat) (earlier : Crowd α ε) (since : List (Event α ε)) :
    Caller α ε → Prop where
  /-- The policy serves an entry of the age that the entry had at the decision. -/
  | served {entry : Entry α} (held : earlier.traffic.entry = some entry)
      (serves :
        terms.policy.refreshes (earlier.traffic.now - entry.producedAt) terms.ttl = false)
      (unended : Unended index since) : Follows terms index earlier since (.served entry.value)
  /-- The call started the next run, which has not ended. -/
  | waiting (refreshes : terms.consult earlier.traffic.entry earlier.traffic.now = .refresh)
      (unended : Unended index since) :
      Follows terms index earlier since (.waiting (earlier.traffic.started + 1))
  /-- The call started the next run, which ended once, and the call with it. -/
  | ended {outcome : Except ε α} {during later : List (Event α ε)}
      (refreshes : terms.consult earlier.traffic.entry earlier.traffic.now = .refresh)
      (split : since = during ++ .finish index outcome :: later)
      (before : Unended index during) (after : Unended index later) :
      Follows terms index earlier since (.ended (earlier.traffic.started + 1) outcome)

variable {crowd next : Crowd α ε} {event : Event α ε} {index : Nat} {caller : Caller α ε}

theorem Step.caller_eq (step : Step terms crowd event next)
    (found : crowd.callers[index]? = some caller)
    (other : ∀ outcome, event ≠ .finish index outcome) : next.callers[index]? = some caller := by
  have bound : index < crowd.callers.length := (List.getElem?_eq_some_iff.mp found).1
  cases step with
  | served held serves => rw [List.getElem?_append_left bound, found]
  | started refreshes => rw [List.getElem?_append_left bound, found]
  | @finished finisher run outcome waits =>
      have apart : finisher ≠ index := fun same => other outcome (by rw [same])
      rw [List.getElem?_set_ne apart, found]
  | peeked => exact found
  | dropped => exact found
  | moved ns => exact found

theorem Follows.concat {earlier : Crowd α ε} {since : List (Event α ε)}
    (follows : Follows terms index earlier since caller)
    (other : ∀ outcome, event ≠ .finish index outcome) :
    Follows terms index earlier (since ++ [event]) caller := by
  cases follows with
  | served held serves unended => exact .served held serves (unended.concat other)
  | waiting refreshes unended => exact .waiting refreshes (unended.concat other)
  | ended refreshes split before after =>
      refine .ended refreshes ?_ before (after.concat other)
      rw [split, List.append_assoc]
      rfl

theorem Follows.of_waiting {earlier : Crowd α ε} {since : List (Event α ε)} {number : Nat}
    (follows : Follows terms index earlier since (.waiting number)) :
    number = earlier.traffic.started + 1 ∧
      terms.consult earlier.traffic.entry earlier.traffic.now = .refresh ∧
      Unended index since := by
  generalize same : Caller.waiting number = caller at follows
  cases follows with
  | served held serves unended => exact absurd same.symm (Caller.served_ne_waiting _ _)
  | waiting refreshes unended =>
      cases congrArg Caller.run same
      exact ⟨rfl, refreshes, unended⟩
  | ended refreshes split before after => exact absurd same.symm (Caller.ended_ne_waiting _ _ _)

theorem Follows.of_served {earlier : Crowd α ε} {since : List (Event α ε)} {value : α}
    (follows : Follows terms index earlier since (.served value)) :
    ∃ entry, earlier.traffic.entry = some entry ∧ entry.value = value ∧
      terms.policy.refreshes (earlier.traffic.now - entry.producedAt) terms.ttl = false := by
  generalize same : Caller.served value = caller at follows
  cases follows with
  | served held serves unended => exact ⟨_, held, (Caller.served_inj same).symm, serves⟩
  | waiting refreshes unended => exact absurd same (Caller.served_ne_waiting _ _)
  | ended refreshes split before after => cases congrArg Caller.run same

/-- A call is followed through every event that can happen. -/
theorem Follows.step {earlier : Crowd α ε} {since : List (Event α ε)}
    (follows : Follows terms index earlier since caller)
    (found : crowd.callers[index]? = some caller) (step : Step terms crowd event next) :
    ∃ later, next.callers[index]? = some later ∧
      Follows terms index earlier (since ++ [event]) later := by
  rcases Classical.em (∃ outcome, event = .finish index outcome) with ⟨outcome, rfl⟩ | other
  · cases step with
    | @finished _ run _ waits =>
        have bound : index < crowd.callers.length := (List.getElem?_eq_some_iff.mp waits).1
        refine ⟨.ended run outcome, List.getElem?_set_self bound, ?_⟩
        -- Only a call that waits has a run to end.
        cases waits.symm.trans found
        obtain ⟨rfl, refreshes, unended⟩ := follows.of_waiting
        exact .ended refreshes rfl unended fun _ member => nomatch member
  · have apart (outcome : Except ε α) : event ≠ .finish index outcome :=
      fun same => other ⟨outcome, same⟩
    exact ⟨caller, step.caller_eq found apart, follows.concat apart⟩

/-! ## Every call of a history -/

theorem Step.callers_length (step : Step terms crowd event next) :
    next.callers.length = crowd.callers.length + if event.isGet then 1 else 0 := by
  cases step with
  | served held serves => simp [Event.isGet]
  | started refreshes => simp [Event.isGet]
  | finished waits => simp [Event.isGet]
  | peeked => rfl
  | dropped => rfl
  | moved ns => rfl

theorem Step.newcomer (step : Step terms crowd .get next) :
    ∃ caller, next.callers[crowd.callers.length]? = some caller ∧
      Follows terms crowd.callers.length crowd [] caller := by
  cases step with
  | served held serves =>
      exact ⟨_, List.getElem?_concat_length, .served held serves fun _ member => nomatch member⟩
  | started refreshes =>
      exact ⟨_, List.getElem?_concat_length, .waiting refreshes fun _ member => nomatch member⟩

/-- The call that came after as many calls as its index stands as what followed it has left it. -/
def Traced (terms : Terms) (events : List (Event α ε)) (index : Nat) (caller : Caller α ε) : Prop :=
  ∃ before since earlier, events = before ++ .get :: since ∧ gets before = index ∧
    run terms before = some earlier ∧ Follows terms index earlier since caller

theorem length_callers {events : List (Event α ε)} {crowd : Crowd α ε}
    (possible : run terms events = some crowd) : crowd.callers.length = gets events := by
  refine run_induction (motive := fun events crowd => crowd.callers.length = gets events)
    rfl ?_ possible
  intro events crowd event next _ count step
  rw [step.callers_length, count, gets_append]
  simp [gets]

theorem follows_of_run {before since : List (Event α ε)} {earlier crowd : Crowd α ε}
    (past : run terms before = some earlier)
    (possible : run terms (before ++ .get :: since) = some crowd) :
    ∃ caller, crowd.callers[gets before]? = some caller ∧
      Follows terms (gets before) earlier since caller := by
  induction since using List.reverseRecOn generalizing crowd with
  | nil =>
      obtain ⟨found, reached, step⟩ := step_of_run possible
      cases past.symm.trans reached
      rw [← length_callers past]
      exact step.newcomer
  | append_singleton since event ih =>
      rw [← List.cons_append, ← List.append_assoc] at possible
      obtain ⟨found, reached, step⟩ := step_of_run possible
      obtain ⟨caller, stands, follows⟩ := ih reached
      exact follows.step stands step

theorem traced_of_run {events : List (Event α ε)} {crowd : Crowd α ε}
    (possible : run terms events = some crowd) {index : Nat} {caller : Caller α ε}
    (found : crowd.callers[index]? = some caller) : Traced terms events index caller := by
  have bound : index < crowd.callers.length := (List.getElem?_eq_some_iff.mp found).1
  rw [length_callers possible] at bound
  obtain ⟨before, since, rfl, rfl⟩ := exists_get bound
  obtain ⟨earlier, past⟩ := run_prefix possible
  obtain ⟨later, stands, follows⟩ := follows_of_run past possible
  cases stands.symm.trans found
  exact ⟨before, since, earlier, rfl, rfl, past, follows⟩

theorem runs_of_run {events : List (Event α ε)} {crowd : Crowd α ε}
    (possible : run terms events = some crowd) :
    crowd.callers.filterMap Caller.run = List.range' 1 crowd.traffic.started := by
  refine run_induction (motive := fun _ crowd =>
    crowd.callers.filterMap Caller.run = List.range' 1 crowd.traffic.started) rfl ?_ possible
  intro events crowd event next _ numbered step
  cases step with
  | served held serves =>
      rw [List.filterMap_append, numbered]
      exact List.append_nil _
  | started refreshes =>
      rw [List.filterMap_append, numbered, Traffic.launch, List.range'_1_concat, Nat.add_comm]
      rfl
  | @finished index run outcome waits =>
      -- The call keeps its number.
      have same : (crowd.callers.set index (.ended run outcome)).map Caller.run =
          crowd.callers.map Caller.run := by
        obtain ⟨bound, stands⟩ := List.getElem?_eq_some_iff.mp waits
        have number : (Caller.ended run outcome).run = (crowd.callers[index]).run := by
          rw [stands]
          rfl
        rw [List.map_set, number, ← List.getElem_map Caller.run (h := by simpa using bound),
          List.set_getElem_self]
      have count := congrArg (List.filterMap id) same
      simp only [List.filterMap_map, Function.id_comp] at count
      exact count.trans numbered
  | peeked => exact numbered
  | dropped => exact numbered
  | moved ns => exact numbered

/-! ## The whole account -/

/-- The run of a call can end as long as the call waits for it, and with any outcome. -/
theorem finish_eq_some_iff (proper : crowd.Proper) (outcome : Except ε α) :
    crowd.finish terms index outcome = some next ↔
      ∃ run, crowd.callers[index]? = some (.waiting run) ∧
        next = ⟨crowd.traffic.finish run outcome,
          crowd.callers.set index (.ended run outcome)⟩ := by
  constructor
  · intro stepped
    cases finish_step proper stepped with
    | finished waits => exact ⟨_, waits, rfl⟩
  · rintro ⟨run, waits, rfl⟩
    simp only [finish, waits, Caller.waiting, Traffic.serve_afterRun]

/-- What a history says about the crowd after it. -/
structure Accounted (terms : Terms) (events : List (Event α ε)) (crowd : Crowd α ε) : Prop where
  /-- Nothing is held exactly when every run that ended with a value was followed by an
  invalidation. -/
  absent : crowd.traffic.entry = none ↔ Dropped events
  /-- What is held is the value and the time of the run that ended last with a value, no
  invalidation having come since. -/
  held : ∀ entry, crowd.traffic.entry = some entry ↔ ∃ caller, KeptBy terms events caller entry
  /-- Every call that came is in the crowd. -/
  arrived : crowd.callers.length = gets events
  /-- Every call was served what was held at its decision, or has the outcome of its own run, or
  still waits for it. -/
  outcomes : ∀ index caller, crowd.callers[index]? = some caller →
    Traced terms events index caller
  /-- The runs that were started are those of the calls that decided to refresh, one each. -/
  runs : crowd.callers.filterMap Caller.run = List.range' 1 crowd.traffic.started
  /-- A run that fails changes nothing but that it is no longer under way and its own call ends. -/
  failure : ∀ index cause next, crowd.step terms (.finish index (.error cause)) = some next ↔
    ∃ run, crowd.callers[index]? = some (.waiting run) ∧
      next = ⟨crowd.traffic.settle run, crowd.callers.set index (.ended run (.error cause))⟩

/-- Every crowd is what its history says, in whatever order calls, ends of runs, invalidations and
moves of the clock have come. -/
theorem accounted_of_run {events : List (Event α ε)} {crowd : Crowd α ε}
    (possible : run terms events = some crowd) : Accounted terms events crowd where
  absent := entry_eq_none_iff possible
  held := entry_eq_some_iff possible
  arrived := length_callers possible
  outcomes := fun _ _ found => traced_of_run possible found
  runs := runs_of_run possible
  failure := fun _ cause _ => finish_eq_some_iff (proper_of_run possible) (.error cause)

def overtaken : List (Event Nat String) :=
  [.get, .get, .get, .finish 1 (.ok 2), .advance 5, .finish 0 (.ok 1), .finish 2 (.error "lost")]

/-- What is held is from the run that started first and ended last. -/
theorem accounted_overtaken :
    ∃ crowd, run ⟨60, .afterTtl⟩ overtaken = some crowd ∧
      crowd.traffic.entry = some ⟨1, 5⟩ ∧ Accounted ⟨60, .afterTtl⟩ overtaken crowd :=
  ⟨_, rfl, rfl, accounted_of_run rfl⟩

end Crowd

end DepositDirectory.Cache
