import DepositDirectory.Proofs.Dialogue.Run
import Mathlib.Data.List.Forall2

/-!
# What a dialogue makes of the replies it gets

Which questions a dialogue asks and what it comes to depends on the replies alone, not on who gives
them or when.  A dialogue reaches a result over a list of exchanges, each a question with its reply;
a sequence of dialogues reaches it over the exchanges of the first and then those of the rest.  A
host can write down every exchange and every reading of its clock, and what it writes down during a
run are exchanges over which the dialogue reaches its result.
-/

namespace DepositDirectory

/-- A question and the reply that it got. -/
structure Exchange (I : Interface) where
  question : I.Ask
  reply : I.Reply question

namespace Dialogue

variable {I : Interface} {σ α β ε : Type}

/-- When its questions get the replies of the exchanges, the dialogue asks these questions and no
others, and comes to the result. -/
inductive Reaches : Dialogue I α → List (Exchange I) → α → Prop where
  | done (result : α) : Reaches (.done result) [] result
  | ask {question : I.Ask} {next : I.Reply question → Dialogue I α} {reply : I.Reply question}
      {later : List (Exchange I)} {result : α} (rest : Reaches (next reply) later result) :
      Reaches (.ask question next) (⟨question, reply⟩ :: later) result
  | sleep {ms : Nat} {next : Dialogue I α} {exchanges : List (Exchange I)} {result : α}
      (rest : Reaches next exchanges result) : Reaches (.sleep ms next) exchanges result
  | note {line : Log.Line} {next : Dialogue I α} {exchanges : List (Exchange I)} {result : α}
      (rest : Reaches next exchanges result) : Reaches (.note line next) exchanges result

section Shapes

variable {exchanges : List (Exchange I)}

theorem reaches_pure_iff {value result : α} :
    Reaches (pure value : Dialogue I α) exchanges result ↔ exchanges = [] ∧ result = value := by
  constructor
  · intro reaches
    cases reaches
    exact ⟨rfl, rfl⟩
  · rintro ⟨rfl, rfl⟩
    exact .done _

theorem reaches_query_iff {question : I.Ask} {reply : I.Reply question} :
    Reaches (query question) exchanges reply ↔ exchanges = [⟨question, reply⟩] := by
  constructor
  · intro reaches
    cases reaches with
    | ask rest =>
        cases rest
        rfl
  · rintro rfl
    exact .ask (.done _)

theorem reaches_sleep_iff {ms : Nat} {next : Dialogue I α} {result : α} :
    Reaches (.sleep ms next) exchanges result ↔ Reaches next exchanges result := by
  constructor
  · intro reaches
    cases reaches with
    | sleep rest => exact rest
  · exact .sleep

theorem reaches_note_iff {line : Log.Line} {next : Dialogue I α} {result : α} :
    Reaches (.note line next) exchanges result ↔ Reaches next exchanges result := by
  constructor
  · intro reaches
    cases reaches with
    | note rest => exact rest
  · exact .note

/-- A sequence reaches a result over the exchanges of its first dialogue and then those of what its
result calls for. -/
theorem reaches_bind_iff {first : Dialogue I α} {next : α → Dialogue I β} {result : β} :
    Reaches (first >>= next) exchanges result ↔
      ∃ earlier middle later, exchanges = earlier ++ later ∧ Reaches first earlier middle ∧
        Reaches (next middle) later result := by
  change Reaches (first.bind next) exchanges result ↔ _
  constructor
  · intro reaches
    induction first generalizing exchanges with
    | done middle => exact ⟨[], middle, exchanges, rfl, .done middle, reaches⟩
    | unfinished => cases reaches
    | ask question rest ih =>
        cases reaches with
        | ask after =>
            obtain ⟨earlier, middle, later, rfl, begun, ended⟩ := ih _ after
            exact ⟨_ :: earlier, middle, later, rfl, .ask begun, ended⟩
    | sleep ms rest ih =>
        obtain ⟨earlier, middle, later, same, begun, ended⟩ := ih (reaches_sleep_iff.mp reaches)
        exact ⟨earlier, middle, later, same, .sleep begun, ended⟩
    | note line rest ih =>
        obtain ⟨earlier, middle, later, same, begun, ended⟩ := ih (reaches_note_iff.mp reaches)
        exact ⟨earlier, middle, later, same, .note begun, ended⟩
  · rintro ⟨earlier, middle, later, rfl, begun, ended⟩
    induction begun with
    | done middle => exact ended
    | ask rest ih => exact .ask (ih ended)
    | sleep rest ih => exact .sleep (ih ended)
    | note rest ih => exact .note (ih ended)

/-- A dialogue whose questions are answered by dialogues reaches a result over what these are told,
one after the other, when it reaches the result with the replies that they come to. -/
theorem reaches_via_iff {J : Interface}
    {answer : (question : I.Ask) → Dialogue J (I.Reply question)}
    {dialogue : Dialogue I α} {told : List (Exchange J)} {result : α} :
    Reaches (dialogue.via answer) told result ↔
      ∃ exchanges tolds, Reaches dialogue exchanges result ∧ told = tolds.flatten ∧
        List.Forall₂ (fun exchange told => Reaches (answer exchange.question) told exchange.reply)
          exchanges tolds := by
  constructor
  · intro reaches
    induction dialogue generalizing told with
    | done value =>
        cases reaches
        exact ⟨[], [], .done _, rfl, .nil⟩
    | unfinished => cases reaches
    | ask question next ih =>
        obtain ⟨first, reply, later, rfl, answered, rest⟩ := reaches_bind_iff.mp reaches
        obtain ⟨exchanges, tolds, reached, rfl, each⟩ := ih reply rest
        exact ⟨⟨question, reply⟩ :: exchanges, first :: tolds, .ask reached, rfl,
          .cons answered each⟩
    | sleep ms next ih =>
        obtain ⟨exchanges, tolds, reached, rest⟩ := ih (reaches_sleep_iff.mp reaches)
        exact ⟨exchanges, tolds, .sleep reached, rest⟩
    | note line next ih =>
        obtain ⟨exchanges, tolds, reached, rest⟩ := ih (reaches_note_iff.mp reaches)
        exact ⟨exchanges, tolds, .note reached, rest⟩
  · rintro ⟨exchanges, tolds, reached, rfl, each⟩
    induction reached generalizing tolds with
    | done value =>
        cases each
        exact .done _
    | ask rest ih =>
        cases each with
        | cons answered later => exact reaches_bind_iff.mpr ⟨_, _, _, rfl, answered, ih _ later⟩
    | sleep rest ih => exact .sleep (ih tolds each)
    | note rest ih => exact .note (ih tolds each)

end Shapes

/-! ## Tasks -/

section Tasks

variable {exchanges : List (Exchange I)}

/-- A task that goes on after its value fails with its first part, or reaches what the rest of it
reaches. -/
theorem reaches_task_bind_iff {first : Task I ε α} {next : α → Task I ε β} {outcome : Except ε β} :
    Reaches (first >>= next).run exchanges outcome ↔
      (∃ cause, outcome = .error cause ∧ Reaches first.run exchanges (.error cause)) ∨
        ∃ earlier value later, exchanges = earlier ++ later ∧
          Reaches first.run earlier (.ok value) ∧ Reaches (next value).run later outcome := by
  rw [ExceptT.run_bind, reaches_bind_iff]
  constructor
  · rintro ⟨earlier, middle, later, rfl, begun, ended⟩
    cases middle with
    | ok value => exact Or.inr ⟨earlier, value, later, rfl, begun, ended⟩
    | error cause =>
        obtain ⟨rfl, rfl⟩ := reaches_pure_iff.mp ended
        rw [List.append_nil]
        exact Or.inl ⟨cause, rfl, begun⟩
  · rintro (⟨cause, rfl, failed⟩ | ⟨earlier, value, later, rfl, begun, ended⟩)
    · exact ⟨exchanges, .error cause, [], (List.append_nil _).symm, failed, .done _⟩
    · exact ⟨earlier, .ok value, later, rfl, begun, ended⟩

theorem reaches_task_bind_ok_iff {first : Task I ε α} {next : α → Task I ε β} {result : β} :
    Reaches (first >>= next).run exchanges (.ok result) ↔
      ∃ earlier value later, exchanges = earlier ++ later ∧ Reaches first.run earlier (.ok value) ∧
        Reaches (next value).run later (.ok result) := by
  rw [reaches_task_bind_iff]
  constructor
  · rintro (⟨cause, impossible, _⟩ | through)
    · cases impossible
    · exact through
  · exact Or.inr

theorem reaches_task_pure_iff {value : α} {outcome : Except ε α} :
    Reaches (pure value : Task I ε α).run exchanges outcome ↔
      exchanges = [] ∧ outcome = .ok value := by
  rw [ExceptT.run_pure]
  exact reaches_pure_iff

/-- A task that only changes its value reaches what its first part reaches, changed. -/
theorem reaches_task_map_iff {first : Task I ε α} {change : α → β} {outcome : Except ε β} :
    Reaches (first >>= fun value => pure (change value)).run exchanges outcome ↔
      ∃ reached, outcome = reached.map change ∧ Reaches first.run exchanges reached := by
  rw [reaches_task_bind_iff]
  constructor
  · rintro (⟨cause, rfl, failed⟩ | ⟨earlier, value, later, rfl, begun, ended⟩)
    · exact ⟨.error cause, rfl, failed⟩
    · obtain ⟨rfl, rfl⟩ := reaches_task_pure_iff.mp ended
      rw [List.append_nil]
      exact ⟨.ok value, rfl, begun⟩
  · rintro ⟨reached, rfl, begun⟩
    cases reached with
    | error cause => exact Or.inl ⟨cause, rfl, begun⟩
    | ok value =>
        exact Or.inr ⟨exchanges, value, [], (List.append_nil _).symm, begun, .done _⟩

theorem reaches_tell_bind_iff {level : Log.Level} {source : Log.Source} {message : String}
    {next : Task I ε α} {outcome : Except ε α} :
    Reaches (ExceptT.lift (say level source message) >>= fun _ => next : Task I ε α).run exchanges
        outcome ↔ Reaches next.run exchanges outcome :=
  reaches_note_iff

end Tasks

end Dialogue

/-! ## A host that keeps a record -/

/-- What a host can write down: an exchange, or what its clock showed when it was read. -/
inductive Event (I : Interface) where
  | told (exchange : Exchange I)
  | read (time : Int)

/-- The exchanges that were written down. -/
def exchangesIn {I : Interface} : List (Event I) → List (Exchange I)
  | [] => []
  | .told exchange :: rest => exchange :: exchangesIn rest
  | .read _ :: rest => exchangesIn rest

section

variable {I : Interface}

@[simp]
theorem exchangesIn_append (earlier later : List (Event I)) :
    exchangesIn (earlier ++ later) = exchangesIn earlier ++ exchangesIn later := by
  induction earlier with
  | nil => rfl
  | cons event rest ih =>
      cases event with
      | told exchange => exact congrArg (exchange :: ·) ih
      | read time => exact ih

@[simp]
theorem exchangesIn_told (exchanges : List (Exchange I)) :
    exchangesIn (exchanges.map .told) = exchanges := by
  induction exchanges with
  | nil => rfl
  | cons exchange rest ih => exact congrArg (exchange :: ·) ih

@[simp]
theorem exchangesIn_read (time : Int) : exchangesIn [(.read time : Event I)] = [] := rfl

end

namespace Host

variable {I : Interface} {σ α : Type}

/-- The host that writes down every exchange. -/
def recorded (host : Host I σ) : Host I (σ × List (Event I)) where
  answer := fun question (state, record) =>
    let (reply, state) := host.answer question state
    (reply, state, record ++ [.told ⟨question, reply⟩])
  wait := fun ms (state, record) => (host.wait ms state, record)
  note := fun line (state, record) => (host.note line state, record)

def recordedClock (I : Interface) (clock : σ → Int × σ) :
    σ × List (Event I) → Int × σ × List (Event I) :=
  fun (state, record) =>
    let (time, state) := clock state
    (time, state, record ++ [.read time])

theorem run_recorded (host : Host I σ) (dialogue : Dialogue I α) (state : σ)
    (record : List (Event I)) :
    dialogue.run host state = ((dialogue.run host.recorded (state, record)).1,
      (dialogue.run host.recorded (state, record)).2.1) :=
  Dialogue.run_view Prod.fst (fun _ _ => rfl) (fun _ _ => rfl) (fun _ _ => rfl) dialogue
    (state, record)

theorem reaches_of_run_recorded (host : Host I σ) {dialogue : Dialogue I α} {result : α}
    {state after : σ} {before record : List (Event I)}
    (run : dialogue.run host.recorded (state, before) = (some result, after, record)) :
    ∃ exchanges, record = before ++ exchanges.map .told ∧ dialogue.Reaches exchanges result := by
  induction dialogue generalizing state before with
  | done value =>
      cases run
      exact ⟨[], (List.append_nil _).symm, .done _⟩
  | unfinished => cases run
  | ask question next ih =>
      obtain ⟨later, rfl, reaches⟩ := ih _ run
      let first : Exchange I := ⟨question, (host.answer question state).1⟩
      exact ⟨first :: later, List.append_assoc _ _ _, .ask reaches⟩
  | sleep ms next ih =>
      obtain ⟨exchanges, same, reaches⟩ := ih run
      exact ⟨exchanges, same, .sleep reaches⟩
  | note line next ih =>
      obtain ⟨exchanges, same, reaches⟩ := ih run
      exact ⟨exchanges, same, .note reaches⟩

end Host

end DepositDirectory
