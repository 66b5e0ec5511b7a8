import DepositDirectory.Dialogue

/-!
# Running dialogues

A host runs a sequence of dialogues by running the first and then, from the state in which it left
the host, what its result calls for.  On top of this stand two ways to speak of a run from all
states of which something holds: the dialogue ends with a result and a state of which something
else holds, or it always gives one outcome and keeps an invariant of the host.
-/

namespace DepositDirectory.Dialogue

variable {I J : Interface} {σ α β ε : Type}

/-- A sequence is run one dialogue after the other, and not beyond an unfinished one. -/
theorem run_bind (host : Host I σ) (first : Dialogue I α) (next : α → Dialogue I β) (state : σ) :
    (first >>= next).run host state =
      match first.run host state with
      | (some result, middle) => (next result).run host middle
      | (none, middle) => (none, middle) := by
  change (first.bind next).run host state = _
  induction first generalizing state with
  | done result => rfl
  | unfinished => rfl
  | ask question rest ih => exact ih _ _
  | sleep ms rest ih => exact ih _
  | note line rest ih => exact ih _

theorem run_bind_of_run {host : Host I σ} {first : Dialogue I α} {next : α → Dialogue I β}
    {state middle : σ} {result : α} (ended : first.run host state = (some result, middle)) :
    (first >>= next).run host state = (next result).run host middle := by
  rw [run_bind, ended]

/-- After the value of its first part, a task does what the value calls for. -/
theorem run_task_bind_of_run {host : Host I σ} {first : Task I ε α} {next : α → Task I ε β}
    {state middle : σ} {value : α} (ended : first.run.run host state = (some (.ok value), middle)) :
    (first >>= next).run.run host state = (next value).run.run host middle := by
  rw [ExceptT.run_bind]
  exact run_bind_of_run ended

theorem run_task_map (host : Host I σ) (first : Task I ε α) (change : α → β) (state : σ) :
    (first >>= fun value => pure (change value)).run.run host state =
      ((first.run.run host state).1.map (Except.map change), (first.run.run host state).2) := by
  rw [ExceptT.run_bind, run_bind]
  rcases first.run.run host state with ⟨_ | (cause | value), after⟩ <;> rfl

/-- A task that only changes its value ends as its first part does, but for this change. -/
theorem run_task_map_of_run {host : Host I σ} {first : Task I ε α} {change : α → β}
    {state final : σ} {outcome : Except ε α}
    (ended : first.run.run host state = (some outcome, final)) :
    (first >>= fun value => pure (change value)).run.run host state =
      (some (outcome.map change), final) := by
  rw [run_task_map, ended]
  rfl

/-- A task that ended with an outcome failed with its first part, or went on after its value. -/
theorem run_task_bind_eq_some {host : Host I σ} {first : Task I ε α} {next : α → Task I ε β}
    {state final : σ} {outcome : Except ε β}
    (run : (first >>= next).run.run host state = (some outcome, final)) :
    (∃ cause, outcome = .error cause ∧ first.run.run host state = (some (.error cause), final)) ∨
      ∃ value middle, first.run.run host state = (some (.ok value), middle) ∧
        (next value).run.run host middle = (some outcome, final) := by
  rw [ExceptT.run_bind, run_bind] at run
  split at run
  · rename_i reached middle begun
    cases reached with
    | ok value => exact Or.inr ⟨value, middle, begun, run⟩
    | error cause =>
        cases run
        exact Or.inl ⟨cause, rfl, begun⟩
  · cases run

theorem run_map (host : Host I σ) (dialogue : Dialogue I α) (change : α → β) (state : σ) :
    (dialogue >>= fun result => pure (change result)).run host state =
      ((dialogue.run host state).1.map change, (dialogue.run host state).2) := by
  rw [run_bind]
  rcases dialogue.run host state with ⟨_ | result, after⟩ <;> rfl

theorem run_lift (host : Host I σ) (dialogue : Dialogue I α) (state : σ) :
    (ExceptT.lift dialogue : Task I ε α).run.run host state =
      ((dialogue.run host state).1.map .ok, (dialogue.run host state).2) :=
  run_map host dialogue (Except.ok : α → Except ε α) state

theorem run_lift_bind_eq_some {host : Host I σ} {first : Dialogue I α} {next : α → Task I ε β}
    {state final : σ} {outcome : Except ε β}
    (run : (ExceptT.lift first >>= next : Task I ε β).run.run host state =
      (some outcome, final)) :
    ∃ result middle, first.run host state = (some result, middle) ∧
      (next result).run.run host middle = (some outcome, final) := by
  rcases run_task_bind_eq_some run with ⟨cause, _, failed⟩ | ⟨value, middle, begun, ended⟩
  · rw [run_lift] at failed
    obtain ⟨_, _, impossible⟩ := Option.map_eq_some_iff.mp (Prod.mk.inj failed).1
    cases impossible
  · rw [run_lift] at begun
    obtain ⟨found, there⟩ := Prod.mk.inj begun
    obtain ⟨result, ran, same⟩ := Option.map_eq_some_iff.mp found
    cases same
    exact ⟨value, middle, Prod.ext ran there, ended⟩

/-- A host that does as another one does, in view of its states, comes to the same. -/
theorem run_view {τ : Type} {host : Host I σ} {image : Host I τ} (view : σ → τ)
    (answers : ∀ question state,
      image.answer question (view state) =
        ((host.answer question state).1, view (host.answer question state).2))
    (waits : ∀ ms state, image.wait ms (view state) = view (host.wait ms state))
    (notes : ∀ line state, image.note line (view state) = view (host.note line state))
    (dialogue : Dialogue I α) (state : σ) :
    dialogue.run image (view state) =
      ((dialogue.run host state).1, view (dialogue.run host state).2) := by
  induction dialogue generalizing state with
  | done result => rfl
  | unfinished => rfl
  | ask question next ih =>
      rw [run, answers]
      exact ih _ _
  | sleep ms next ih =>
      rw [run, waits]
      exact ih _
  | note line next ih =>
      rw [run, notes]
      exact ih _

/-! ## Results from every state with a property -/

/-- From every state of which `before` holds, the dialogue ends, and `after` holds of its result
and the state it leaves. -/
def Ensures (host : Host I σ) (before : σ → Prop) (dialogue : Dialogue I α)
    (after : α → σ → Prop) : Prop :=
  ∀ state, before state →
    ∃ result final, dialogue.run host state = (some result, final) ∧ after result final

namespace Ensures

variable {host : Host I σ} {before : σ → Prop}

theorem pure {after : α → σ → Prop} {result : α}
    (holds : ∀ state, before state → after result state) :
    Ensures host before (Pure.pure result : Dialogue I α) after :=
  fun state start => ⟨result, state, rfl, holds state start⟩

theorem bind {middle : α → σ → Prop} {after : β → σ → Prop} {first : Dialogue I α}
    {next : α → Dialogue I β} (begun : Ensures host before first middle)
    (ended : ∀ result, Ensures host (middle result) (next result) after) :
    Ensures host before (first >>= next) after := by
  intro state start
  obtain ⟨result, between, run, reached⟩ := begun state start
  obtain ⟨last, final, rest, holds⟩ := ended result between reached
  exact ⟨last, final, (run_bind_of_run run).trans rest, holds⟩

theorem bindLift {middle : α → σ → Prop} {after : Except ε β → σ → Prop} {first : Dialogue I α}
    {next : α → Task I ε β} (begun : Ensures host before first middle)
    (ended : ∀ result, Ensures host (middle result) (next result).run after) :
    Ensures host before (ExceptT.lift first >>= next : Task I ε β).run after := by
  have lifted : Ensures host before (ExceptT.lift first : Task I ε α).run
      (fun outcome state => ∃ result, outcome = .ok result ∧ middle result state) :=
    bind begun fun result => pure fun _ reached => ⟨result, rfl, reached⟩
  rw [ExceptT.run_bind]
  refine bind lifted fun outcome => ?_
  rintro state ⟨result, rfl, reached⟩
  exact ended result state reached

end Ensures

/-! ## One outcome from every state with an invariant -/

/-- Whatever state of the invariant it starts from, the dialogue gives the outcome and keeps the
invariant. -/
def Yields (host : Host I σ) (invariant : σ → Prop) (dialogue : Dialogue I α) (outcome : α) :
    Prop :=
  Ensures host invariant dialogue fun result state => result = outcome ∧ invariant state

namespace Yields

variable {host : Host I σ} {invariant : σ → Prop}

theorem pure (result : α) :
    Yields host invariant (Pure.pure result : Dialogue I α) result :=
  Ensures.pure fun _ start => ⟨rfl, start⟩

theorem bind {first : Dialogue I α} {next : α → Dialogue I β} {result : α} {outcome : β}
    (begun : Yields host invariant first result)
    (ended : Yields host invariant (next result) outcome) :
    Yields host invariant (first >>= next) outcome := by
  refine Ensures.bind begun fun found => ?_
  rintro state ⟨rfl, start⟩
  exact ended state start

theorem say (noted : ∀ line state, invariant state → invariant (host.note line state))
    (level : Log.Level) (source : Log.Source) (message : String) :
    Yields host invariant (Dialogue.say level source message) () :=
  fun state start => ⟨(), _, rfl, rfl, noted _ state start⟩

theorem afterValue {first : Task I ε α} {next : α → Task I ε β} {value : α}
    {outcome : Except ε β} (begun : Yields host invariant first.run (.ok value))
    (ended : Yields host invariant (next value).run outcome) :
    Yields host invariant (first >>= next).run outcome := by
  rw [ExceptT.run_bind]
  exact bind begun ended

theorem afterError {first : Task I ε α} {next : α → Task I ε β} {cause : ε}
    (begun : Yields host invariant first.run (.error cause)) :
    Yields host invariant (first >>= next).run (.error cause) := by
  rw [ExceptT.run_bind]
  exact bind begun (pure _)

theorem bindTask {first : Task I ε α} {next : α → Task I ε β} {outcome : Except ε α}
    {further : α → Except ε β} (begun : Yields host invariant first.run outcome)
    (ended : ∀ value, outcome = .ok value →
      Yields host invariant (next value).run (further value)) :
    Yields host invariant (first >>= next).run (outcome >>= further) := by
  cases outcome with
  | ok value => exact afterValue begun (ended value rfl)
  | error cause => exact afterError begun

theorem giveBack {first : Task I ε α} {next : α → Task I ε α} {outcome : Except ε α}
    (begun : Yields host invariant first.run outcome)
    (ended : ∀ value, Yields host invariant (next value).run (.ok value)) :
    Yields host invariant (first >>= next).run outcome := by
  cases outcome with
  | ok value => exact afterValue begun (ended value)
  | error cause => exact afterError begun

/-- A dialogue that cannot fail is a task that ends with its result. -/
theorem lift {dialogue : Dialogue I α} {result : α}
    (yields : Yields host invariant dialogue result) :
    Yields host invariant (ExceptT.lift dialogue : Task I ε α).run (.ok result) :=
  bind yields (pure _)

end Yields

end DepositDirectory.Dialogue
