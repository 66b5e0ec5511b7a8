import DepositDirectory.Proofs.Cache.Outcomes

/-!
# What an invalidation does not hold back

An invalidation drops what a cache holds, but not the runs under way: such a run stores its value
when it ends, and a call that comes after may be served it.  This is the only way past an
invalidation, and it is open exactly when that value is neither replaced nor dropped before the call
comes, and has by then an age at which the policy serves.
-/

namespace DepositDirectory.Cache

variable {α ε : Type}

namespace Crowd

variable {terms : Terms}

/-- The call that comes after an earlier history has ended with a value, and the run that produced
the value was started by the provider. -/
def ReturnsFrom (terms : Terms) (earlier since : List (Event α ε)) (provider : Nat) : Prop :=
  ∃ crowd value, run terms (earlier ++ .get :: since) = some crowd ∧
    ((provider = gets earlier ∧
        ∃ number, crowd.callers[gets earlier]? = some (.ended number (.ok value))) ∨
      (crowd.callers[gets earlier]? = some (.served value) ∧
        ∃ entry, KeptBy terms earlier provider entry ∧ entry.value = value))

def Barrier (α ε : Type) (terms : Terms) : Prop :=
  ∀ (before middle after : List (Event α ε)) (provider : Nat), provider < gets before →
    ¬ ReturnsFrom terms (before ++ .invalidate :: middle) after provider

def oneCall : List (Event String String) := [.get]

def itsEnd : List (Event String String) := [.finish 0 (.ok "old")]

theorem returnsFrom_first_run :
    ReturnsFrom ⟨60, .afterTtl⟩ (oneCall ++ .invalidate :: itsEnd) [] 0 := by
  refine ⟨_, "old", rfl, Or.inr ⟨rfl, ⟨"old", 0⟩, ?_, rfl⟩⟩
  exact ⟨[.get, .invalidate], [], _, rfl, rfl, rfl, fun _ member => nomatch member⟩

/-- An invalidation while a run is under way does not keep the value of that run from the next
call. -/
theorem not_barrier : ¬ ∀ terms, Barrier String String terms := by
  intro barrier
  exact barrier ⟨60, .afterTtl⟩ oneCall itsEnd [] 0 (by decide) returnsFrom_first_run

/-! ## Waiting since an earlier moment -/

theorem Step.waiting_before {crowd next : Crowd α ε} {event : Event α ε} {index number : Nat}
    (step : Step terms crowd event next) (there : index < crowd.callers.length)
    (waits : next.callers[index]? = some (.waiting number)) :
    crowd.callers[index]? = some (.waiting number) := by
  have known := List.getElem?_eq_getElem there
  rcases Classical.em (∃ outcome, event = .finish index outcome) with ⟨outcome, rfl⟩ | other
  · cases step with
    | finished ended =>
        rw [List.getElem?_set_self there] at waits
        exact absurd (Option.some.inj waits) (Caller.ended_ne_waiting _ _ _)
  · have kept := step.caller_eq known fun outcome same => other ⟨outcome, same⟩
    rw [known, ← kept, waits]

theorem waiting_of_run {before more : List (Event α ε)} {past crowd : Crowd α ε}
    {index number : Nat} (reached : run terms before = some past)
    (possible : run terms (before ++ more) = some crowd) (there : index < past.callers.length)
    (waits : crowd.callers[index]? = some (.waiting number)) :
    past.callers[index]? = some (.waiting number) := by
  induction more using List.reverseRecOn generalizing crowd with
  | nil =>
      rw [List.append_nil] at possible
      cases reached.symm.trans possible
      exact waits
  | append_singleton more event ih =>
      rw [← List.append_assoc] at possible
      obtain ⟨middle, upTo, step⟩ := step_of_run possible
      refine ih upTo (step.waiting_before ?_ waits)
      rw [length_callers reached] at there
      rw [length_callers upTo, gets_append]
      omega

theorem waiting_of_finish {before during later : List (Event α ε)} {past crowd : Crowd α ε}
    {index : Nat} {outcome : Except ε α} (reached : run terms before = some past)
    (possible : run terms (before ++ (during ++ .finish index outcome :: later)) = some crowd)
    (there : index < gets before) :
    ∃ number, past.callers[index]? = some (.waiting number) := by
  have shape : before ++ (during ++ .finish index outcome :: later) =
      (before ++ during ++ [.finish index outcome]) ++ later := by simp
  rw [shape] at possible
  obtain ⟨_, ended⟩ := run_prefix possible
  obtain ⟨middle, upTo, step⟩ := step_of_run ended
  rw [← length_callers reached] at there
  cases step with
  | finished waits => exact ⟨_, waiting_of_run reached upTo there waits⟩

/-! ## The way past an invalidation -/

theorem served_iff {before since : List (Event α ε)} {earlier crowd : Crowd α ε} {value : α}
    (past : run terms before = some earlier)
    (possible : run terms (before ++ .get :: since) = some crowd) :
    crowd.callers[gets before]? = some (.served value) ↔
      ∃ entry, earlier.traffic.entry = some entry ∧ entry.value = value ∧
        terms.policy.refreshes (earlier.traffic.now - entry.producedAt) terms.ttl = false := by
  obtain ⟨caller, stands, follows⟩ := follows_of_run past possible
  constructor
  · intro served
    rw [stands] at served
    cases served
    exact follows.of_served
  · rintro ⟨entry, held, rfl, serves⟩
    have decided : terms.consult earlier.traffic.entry earlier.traffic.now ≠ .refresh := by
      rw [held]
      simp [Terms.consult, Terms.judge, serves]
    cases follows with
    | served other _ _ =>
        cases held.symm.trans other
        exact stands
    | waiting refreshes _ => exact absurd refreshes decided
    | ended refreshes _ _ _ => exact absurd refreshes decided

theorem KeptBy.split {before middle : List (Event α ε)} {caller : Nat} {entry : Entry α}
    (kept : KeptBy terms (before ++ .invalidate :: middle) caller entry) :
    ∃ during later stored, middle = during ++ .finish caller (.ok entry.value) :: later ∧
      (∀ event ∈ later, event.changesEntry = false) ∧
      run terms (before ++ .invalidate :: during) = some stored ∧
      entry.producedAt = stored.traffic.now := by
  obtain ⟨first, later, stored, shape, reached, time, quiet⟩ := kept
  rcases List.append_eq_append_iff.mp shape with ⟨between, rfl, rest⟩ | ⟨between, rfl, rest⟩
  · cases between with
    | nil => cases rest
    | cons event during =>
        cases rest
        exact ⟨during, later, stored, rfl, quiet, reached, time⟩
  · cases between with
    | nil => cases rest
    | cons event between =>
        cases rest
        have changed := quiet .invalidate (by simp)
        cases changed

/-- A run was under way at the invalidation, its value was stored afterwards and kept, and has when
the call comes an age at which the policy serves. -/
def Slips (terms : Terms) (before middle : List (Event α ε)) (provider : Nat) : Prop :=
  ∃ past number value during later stored found,
    run terms before = some past ∧ past.callers[provider]? = some (.waiting number) ∧
    middle = during ++ .finish provider (.ok value) :: later ∧
    (∀ event ∈ later, event.changesEntry = false) ∧
    run terms (before ++ .invalidate :: during) = some stored ∧
    run terms (before ++ .invalidate :: middle) = some found ∧
    terms.policy.refreshes (found.traffic.now - stored.traffic.now) terms.ttl = false

/-- A call that comes after an invalidation returns the value of a run started before it exactly
when that run slips past. -/
theorem returnsFrom_iff_slips {before middle after : List (Event α ε)} {crowd : Crowd α ε}
    {provider : Nat}
    (possible : run terms (before ++ .invalidate :: middle ++ .get :: after) = some crowd)
    (began : provider < gets before) :
    ReturnsFrom terms (before ++ .invalidate :: middle) after provider ↔
      Slips terms before middle provider := by
  obtain ⟨found, meets⟩ := run_prefix possible
  obtain ⟨past, reached⟩ := run_prefix meets
  constructor
  · rintro ⟨last, value, ran, own | ⟨served, entry, kept, rfl⟩⟩
    · -- A call that has a run of its own started it after the invalidation.
      obtain ⟨same, _⟩ := own
      rw [gets_append] at same
      omega
    · obtain ⟨held, holds, _, serves⟩ := (served_iff meets ran).mp served
      cases (kept.entry_eq meets).symm.trans holds
      obtain ⟨during, later, stored, rfl, quiet, stores, time⟩ := kept.split
      rw [time] at serves
      have ended : run terms (before ++ ((.invalidate :: during) ++
          .finish provider (.ok entry.value) :: later)) = some found := meets
      obtain ⟨number, waits⟩ := waiting_of_finish reached ended began
      exact ⟨past, number, entry.value, during, later, stored, found, reached, waits, rfl, quiet,
        stores, meets, serves⟩
  · rintro ⟨_, number, value, during, later, stored, met, _, _, rfl, quiet, stores, again, serves⟩
    cases meets.symm.trans again
    have kept : KeptBy terms
        (before ++ .invalidate :: (during ++ .finish provider (.ok value) :: later)) provider
        ⟨value, stored.traffic.now⟩ :=
      ⟨before ++ .invalidate :: during, later, stored, by simp, stores, rfl, quiet⟩
    refine ⟨crowd, value, possible, Or.inr ⟨?_, _, kept, rfl⟩⟩
    exact (served_iff meets possible).mpr ⟨_, kept.entry_eq meets, rfl, serves⟩

/-- The first run slips past an invalidation that comes while it is under way. -/
theorem slips_of_first_run :
    0 < gets oneCall ∧
    ReturnsFrom ⟨60, .afterTtl⟩ (oneCall ++ .invalidate :: itsEnd) [] 0 ∧
    Slips ⟨60, .afterTtl⟩ oneCall itsEnd 0 := by
  have began : 0 < gets oneCall := by decide
  exact ⟨began, returnsFrom_first_run, (returnsFrom_iff_slips rfl began).mp returnsFrom_first_run⟩

end Crowd

end DepositDirectory.Cache
