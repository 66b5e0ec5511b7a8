import DepositDirectory.Proofs.Cache.Callers

/-!
# What a cache holds and hands out, by its history

After every history of calls, ends of runs, invalidations and moves of the clock, the cache holds
the value of the run that ended last with one, unless an invalidation came after it; and every call
stands as its own decision and its own run have left it.  What counts is the order in which the runs
ended, not the order in which they started.
-/

namespace DepositDirectory.Cache

variable {α ε : Type}

namespace Event

def isGet : Event α ε → Bool
  | .get => true
  | _ => false

theorem eq_get {event : Event α ε} (comes : event.isGet = true) : event = .get := by
  cases event with
  | get => rfl
  | _ => cases comes

/-- Whether the entry is replaced or dropped: a run ends with a value, or an invalidation. -/
def changesEntry : Event α ε → Bool
  | .finish _ (.ok _) => true
  | .invalidate => true
  | _ => false

end Event

/-- How many calls come in a history. -/
def gets (events : List (Event α ε)) : Nat := events.countP Event.isGet

@[simp]
theorem gets_append (first second : List (Event α ε)) :
    gets (first ++ second) = gets first + gets second := List.countP_append

@[simp]
theorem gets_cons (event : Event α ε) (events : List (Event α ε)) :
    gets (event :: events) = gets events + if event.isGet then 1 else 0 := List.countP_cons

theorem exists_get {events : List (Event α ε)} {index : Nat} (bound : index < gets events) :
    ∃ before since, events = before ++ .get :: since ∧ gets before = index := by
  induction events generalizing index with
  | nil => cases bound
  | cons event rest ih =>
      rw [gets_cons] at bound
      cases comes : event.isGet with
      | false =>
          obtain ⟨before, since, rfl, rfl⟩ := ih (by simpa [comes] using bound)
          exact ⟨event :: before, since, rfl, by simp [comes]⟩
      | true =>
          obtain rfl := Event.eq_get comes
          cases index with
          | zero => exact ⟨[], rest, rfl, rfl⟩
          | succ index =>
              obtain ⟨before, since, rfl, rfl⟩ := ih (by simpa [comes] using bound)
              exact ⟨.get :: before, since, rfl, by simp [comes]⟩

/-- Every place in a history with one more event is the new event or a place before it. -/
theorem split_concat {β : Type} {before after events : List β} {place last : β}
    (split : events ++ [last] = before ++ place :: after) :
    (before = events ∧ place = last ∧ after = []) ∨
      ∃ less, after = less ++ [last] ∧ events = before ++ place :: less := by
  rcases List.eq_nil_or_concat after with rfl | ⟨less, final, rfl⟩
  · obtain ⟨same, here⟩ := List.append_inj' split rfl
    cases here
    exact Or.inl ⟨same.symm, rfl, rfl⟩
  · rw [List.concat_eq_append, ← List.cons_append, ← List.append_assoc] at split
    obtain ⟨same, here⟩ := List.append_inj' split rfl
    cases here
    exact Or.inr ⟨less, List.concat_eq_append, same⟩

/-! ## The entry -/

namespace Crowd

variable {terms : Terms}

/-- The run of the caller ended with the value of the entry at the time of the entry, and the entry
has neither been replaced nor dropped since. -/
def KeptBy (terms : Terms) (events : List (Event α ε)) (caller : Nat) (entry : Entry α) : Prop :=
  ∃ before after earlier,
    events = before ++ .finish caller (.ok entry.value) :: after ∧
    run terms before = some earlier ∧ entry.producedAt = earlier.traffic.now ∧
    ∀ event ∈ after, event.changesEntry = false

/-- Every run that ended with a value was followed by an invalidation. -/
def Dropped (events : List (Event α ε)) : Prop :=
  ∀ before caller value after,
    events = before ++ .finish caller (.ok value) :: after → .invalidate ∈ after

theorem KeptBy.not_dropped {events : List (Event α ε)} {caller : Nat} {entry : Entry α}
    (kept : KeptBy terms events caller entry) : ¬ Dropped events := by
  intro dropped
  obtain ⟨before, after, _, split, _, _, quiet⟩ := kept
  have changed := quiet .invalidate (dropped before caller entry.value after split)
  cases changed

theorem KeptBy.concat {events : List (Event α ε)} {caller : Nat} {entry : Entry α}
    (kept : KeptBy terms events caller entry) {event : Event α ε}
    (keeps : event.changesEntry = false) : KeptBy terms (events ++ [event]) caller entry := by
  obtain ⟨before, after, earlier, split, reached, time, quiet⟩ := kept
  refine ⟨before, after ++ [event], earlier, by simp [split], reached, time, ?_⟩
  intro later member
  rcases List.mem_append.mp member with old | new
  · exact quiet later old
  · rw [List.mem_singleton.mp new]
    exact keeps

theorem Dropped.concat {events : List (Event α ε)} (dropped : Dropped events)
    {event : Event α ε} (keeps : event.changesEntry = false) : Dropped (events ++ [event]) := by
  intro before caller value after split
  rcases split_concat split with ⟨_, rfl, _⟩ | ⟨less, rfl, within⟩
  · cases keeps
  · exact List.mem_append_left _ (dropped before caller value less within)

theorem Step.entry_eq {crowd next : Crowd α ε} {event : Event α ε}
    (step : Step terms crowd event next) (keeps : event.changesEntry = false) :
    next.traffic.entry = crowd.traffic.entry := by
  cases step with
  | served held serves => rfl
  | started refreshes => rfl
  | @finished index run outcome waits =>
      cases outcome with
      | ok value => cases keeps
      | error cause => rfl
  | peeked => rfl
  | dropped => cases keeps
  | moved ns => rfl

/-- What the history says about an entry, or about there being none. -/
def EntryAccount (terms : Terms) (events : List (Event α ε)) : Option (Entry α) → Prop
  | none => Dropped events
  | some entry => ∃ caller, KeptBy terms events caller entry

theorem EntryAccount.concat {events : List (Event α ε)} {held : Option (Entry α)}
    (account : EntryAccount terms events held) {event : Event α ε}
    (keeps : event.changesEntry = false) : EntryAccount terms (events ++ [event]) held := by
  cases held with
  | none => exact Dropped.concat account keeps
  | some entry =>
      obtain ⟨caller, kept⟩ := account
      exact ⟨caller, kept.concat keeps⟩

theorem entryAccount_of_run {events : List (Event α ε)} {crowd : Crowd α ε}
    (possible : run terms events = some crowd) :
    EntryAccount terms events crowd.traffic.entry := by
  refine run_induction (motive := fun events crowd =>
    EntryAccount terms events crowd.traffic.entry) ?_ ?_ possible
  · intro before caller value after split
    exact absurd split (by simp)
  · intro events crowd event next reached account step
    cases keeps : event.changesEntry with
    | false =>
        rw [step.entry_eq keeps]
        exact account.concat keeps
    | true =>
        cases step with
        | @finished index run outcome waits =>
            cases outcome with
            | ok value =>
                refine ⟨index, events, [], crowd, rfl, reached, rfl, ?_⟩
                intro later member
                cases member
            | error cause => cases keeps
        | dropped =>
            intro before caller value after split
            rcases split_concat split with ⟨_, impossible, _⟩ | ⟨less, rfl, _⟩
            · cases impossible
            · simp
        | served held serves => cases keeps
        | started refreshes => cases keeps
        | peeked => cases keeps
        | moved ns => cases keeps

/-- What a run has stored is what the cache holds until it is replaced or dropped. -/
theorem KeptBy.entry_eq {events : List (Event α ε)} {crowd : Crowd α ε} {caller : Nat}
    {entry : Entry α} (possible : run terms events = some crowd)
    (kept : KeptBy terms events caller entry) : crowd.traffic.entry = some entry := by
  refine run_induction (motive := fun events crowd =>
    ∀ caller entry, KeptBy terms events caller entry → crowd.traffic.entry = some entry)
    ?_ ?_ possible caller entry kept
  · intro caller entry kept
    obtain ⟨before, after, _, split, _⟩ := kept
    exact absurd split (by simp)
  · intro events crowd event next reached ih step caller entry kept
    obtain ⟨before, after, earlier, split, past, time, quiet⟩ := kept
    rcases split_concat split with ⟨rfl, rfl, rfl⟩ | ⟨less, rfl, within⟩
    · have same : earlier = crowd := Option.some.inj (past.symm.trans reached)
      subst same
      cases step with
      | finished waits =>
          cases entry
          cases time
          rfl
    · have keeps := quiet event (by simp)
      rw [step.entry_eq keeps]
      exact ih caller entry ⟨before, less, earlier, within, past, time,
        fun later member => quiet later (List.mem_append_left _ member)⟩

theorem entry_eq_some_iff {events : List (Event α ε)} {crowd : Crowd α ε}
    (possible : run terms events = some crowd) (entry : Entry α) :
    crowd.traffic.entry = some entry ↔ ∃ caller, KeptBy terms events caller entry := by
  constructor
  · intro held
    have account := entryAccount_of_run possible
    rw [held] at account
    exact account
  · rintro ⟨caller, kept⟩
    exact kept.entry_eq possible

theorem entry_eq_none_iff {events : List (Event α ε)} {crowd : Crowd α ε}
    (possible : run terms events = some crowd) :
    crowd.traffic.entry = none ↔ Dropped events := by
  have account := entryAccount_of_run possible
  constructor
  · intro absent
    rw [absent] at account
    exact account
  · intro dropped
    cases held : crowd.traffic.entry with
    | none => rfl
    | some entry =>
        rw [held] at account
        obtain ⟨caller, kept⟩ := account
        exact absurd dropped kept.not_dropped

end Crowd

end DepositDirectory.Cache
