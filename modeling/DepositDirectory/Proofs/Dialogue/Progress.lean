import DepositDirectory.Proofs.Dialogue.Exchanges

/-!
# How far a dialogue has come

A dialogue whose first questions have got their replies has something left to do.  What it asks next
depends on these replies alone.  A sequence of dialogues asks what its first dialogue asks, and once
this has reached a result it asks what the dialogue that the result calls for asks.
-/

namespace DepositDirectory.Dialogue

variable {I : Interface} {α β ε : Type}

/-- When the first questions of a dialogue have got the replies of the exchanges, `rest` is left of
it. -/
inductive Leads : Dialogue I α → List (Exchange I) → Dialogue I α → Prop where
  | start (dialogue : Dialogue I α) : Leads dialogue [] dialogue
  | ask {question : I.Ask} {next : I.Reply question → Dialogue I α} {reply : I.Reply question}
      {later : List (Exchange I)} {rest : Dialogue I α} (onward : Leads (next reply) later rest) :
      Leads (.ask question next) (⟨question, reply⟩ :: later) rest
  | sleep {ms : Nat} {next rest : Dialogue I α} {exchanges : List (Exchange I)}
      (onward : Leads next exchanges rest) : Leads (.sleep ms next) exchanges rest
  | note {line : Log.Line} {next rest : Dialogue I α} {exchanges : List (Exchange I)}
      (onward : Leads next exchanges rest) : Leads (.note line next) exchanges rest

namespace Leads

variable {dialogue middle rest : Dialogue I α} {earlier later exchanges : List (Exchange I)}

theorem trans (first : Leads dialogue earlier middle) (second : Leads middle later rest) :
    Leads dialogue (earlier ++ later) rest := by
  induction first with
  | start dialogue => exact second
  | ask onward ih => exact .ask (ih second)
  | sleep onward ih => exact .sleep (ih second)
  | note onward ih => exact .note (ih second)

/-- A reply leads on to what it calls for. -/
theorem told {question : I.Ask} {next : I.Reply question → Dialogue I α}
    (leads : Leads dialogue exchanges (.ask question next)) (reply : I.Reply question) :
    Leads dialogue (exchanges ++ [⟨question, reply⟩]) (next reply) :=
  leads.trans (.ask (.start _))

theorem slept {ms : Nat} (leads : Leads dialogue exchanges (.sleep ms rest)) :
    Leads dialogue exchanges rest := by
  have onward := leads.trans (.sleep (.start rest))
  rwa [List.append_nil] at onward

theorem noted {line : Log.Line} (leads : Leads dialogue exchanges (.note line rest)) :
    Leads dialogue exchanges rest := by
  have onward := leads.trans (.note (.start rest))
  rwa [List.append_nil] at onward

end Leads

variable {exchanges : List (Exchange I)}

/-- A dialogue of which nothing is left has reached its result. -/
theorem leads_done_iff {dialogue : Dialogue I α} {result : α} :
    Leads dialogue exchanges (.done result) ↔ Reaches dialogue exchanges result := by
  constructor
  · intro leads
    generalize ended : done result = rest at leads
    induction leads with
    | start dialogue =>
        cases ended
        exact .done result
    | ask onward ih => exact .ask (ih ended)
    | sleep onward ih => exact .sleep (ih ended)
    | note onward ih => exact .note (ih ended)
  · intro reaches
    induction reaches with
    | done result => exact .start _
    | ask onward ih => exact .ask ih
    | sleep onward ih => exact .sleep ih
    | note onward ih => exact .note ih

/-! ## What is asked next -/

/-- After the exchanges, the dialogue asks the question. -/
def Asks (dialogue : Dialogue I α) (exchanges : List (Exchange I)) (question : I.Ask) : Prop :=
  ∃ next, Leads dialogue exchanges (.ask question next)

variable {question : I.Ask}

theorem not_asks_pure {value : α} : ¬ Asks (pure value : Dialogue I α) exchanges question := by
  rintro ⟨next, leads⟩
  cases leads

theorem asks_query_iff {asked : I.Ask} :
    Asks (query asked) exchanges question ↔ exchanges = [] ∧ question = asked := by
  constructor
  · rintro ⟨next, leads⟩
    cases leads with
    | start => exact ⟨rfl, rfl⟩
    | ask onward => cases onward
  · rintro ⟨rfl, rfl⟩
    exact ⟨done, .start _⟩

theorem asks_sleep_iff {ms : Nat} {next : Dialogue I α} :
    Asks (.sleep ms next) exchanges question ↔ Asks next exchanges question := by
  constructor
  · rintro ⟨further, leads⟩
    cases leads with
    | sleep onward => exact ⟨further, onward⟩
  · rintro ⟨further, leads⟩
    exact ⟨further, .sleep leads⟩

theorem asks_note_iff {line : Log.Line} {next : Dialogue I α} :
    Asks (.note line next) exchanges question ↔ Asks next exchanges question := by
  constructor
  · rintro ⟨further, leads⟩
    cases leads with
    | note onward => exact ⟨further, onward⟩
  · rintro ⟨further, leads⟩
    exact ⟨further, .note leads⟩

/-- What a sequence asks is asked by its first dialogue, or by the one that the result of the first
calls for. -/
theorem asks_of_bind {first : Dialogue I α} {next : α → Dialogue I β}
    (asks : Asks (first >>= next) exchanges question) :
    Asks first exchanges question ∨
      ∃ earlier middle later, exchanges = earlier ++ later ∧ Reaches first earlier middle ∧
        Asks (next middle) later question := by
  obtain ⟨further, leads⟩ := asks
  change Leads (first.bind next) exchanges _ at leads
  induction first generalizing exchanges with
  | done middle => exact Or.inr ⟨[], middle, exchanges, rfl, .done middle, further, leads⟩
  | unfinished => cases leads
  | ask asked rest ih =>
      cases leads with
      | start => exact Or.inl ⟨rest, .start _⟩
      | ask onward =>
          rcases ih _ onward with ⟨further, begun⟩ | ⟨earlier, middle, later, rfl, begun, ended⟩
          · exact Or.inl ⟨further, .ask begun⟩
          · exact Or.inr ⟨_ :: earlier, middle, later, rfl, .ask begun, ended⟩
  | sleep ms rest ih =>
      cases leads with
      | sleep onward =>
          rcases ih onward with ⟨further, begun⟩ | ⟨earlier, middle, later, same, begun, ended⟩
          · exact Or.inl ⟨further, .sleep begun⟩
          · exact Or.inr ⟨earlier, middle, later, same, .sleep begun, ended⟩
  | note line rest ih =>
      cases leads with
      | note onward =>
          rcases ih onward with ⟨further, begun⟩ | ⟨earlier, middle, later, same, begun, ended⟩
          · exact Or.inl ⟨further, .note begun⟩
          · exact Or.inr ⟨earlier, middle, later, same, .note begun, ended⟩

/-! ## Tasks -/

theorem asks_of_task_bind {first : Task I ε α} {next : α → Task I ε β}
    (asks : Asks (first >>= next).run exchanges question) :
    Asks first.run exchanges question ∨
      ∃ earlier value later, exchanges = earlier ++ later ∧ Reaches first.run earlier (.ok value) ∧
        Asks (next value).run later question := by
  rw [ExceptT.run_bind] at asks
  rcases asks_of_bind asks with begun | ⟨earlier, middle, later, rfl, begun, ended⟩
  · exact Or.inl begun
  · cases middle with
    | ok value => exact Or.inr ⟨earlier, value, later, rfl, begun, ended⟩
    | error cause => exact absurd ended not_asks_pure

theorem asks_of_task_map {first : Task I ε α} {change : α → β}
    (asks : Asks (first >>= fun value => pure (change value)).run exchanges question) :
    Asks first.run exchanges question := by
  rcases asks_of_task_bind asks with begun | ⟨earlier, value, later, rfl, begun, ended⟩
  · exact begun
  · exact absurd ended not_asks_pure

theorem reaches_lift_iff {dialogue : Dialogue I α} {outcome : Except ε α} :
    Reaches (ExceptT.lift dialogue : Task I ε α).run exchanges outcome ↔
      ∃ result, outcome = .ok result ∧ Reaches dialogue exchanges result := by
  change Reaches (dialogue >>= fun result => (pure (.ok result) : Dialogue I (Except ε α))) _ _ ↔ _
  rw [reaches_bind_iff]
  constructor
  · rintro ⟨earlier, result, later, rfl, begun, ended⟩
    obtain ⟨rfl, rfl⟩ := reaches_pure_iff.mp ended
    rw [List.append_nil]
    exact ⟨result, rfl, begun⟩
  · rintro ⟨result, rfl, begun⟩
    exact ⟨exchanges, result, [], (List.append_nil _).symm, begun, .done _⟩

theorem asks_of_lift {dialogue : Dialogue I α}
    (asks : Asks (ExceptT.lift dialogue : Task I ε α).run exchanges question) :
    Asks dialogue exchanges question := by
  change Asks (dialogue >>= fun result => (pure (.ok result) : Dialogue I (Except ε α))) _ _ at asks
  rcases asks_of_bind asks with begun | ⟨earlier, value, later, rfl, begun, ended⟩
  · exact begun
  · exact absurd ended not_asks_pure

theorem asks_of_lift_bind {first : Dialogue I α} {next : α → Task I ε β}
    (asks : Asks (ExceptT.lift first >>= next : Task I ε β).run exchanges question) :
    Asks first exchanges question ∨
      ∃ earlier result later, exchanges = earlier ++ later ∧ Reaches first earlier result ∧
        Asks (next result).run later question := by
  rcases asks_of_task_bind asks with begun | ⟨earlier, value, later, rfl, begun, ended⟩
  · exact Or.inl (asks_of_lift begun)
  · obtain ⟨result, same, reaches⟩ := reaches_lift_iff.mp begun
    cases same
    exact Or.inr ⟨earlier, value, later, rfl, reaches, ended⟩

/-- What a task reaches that begins with a dialogue that cannot fail. -/
theorem reaches_lift_bind_iff {first : Dialogue I α} {next : α → Task I ε β}
    {outcome : Except ε β} :
    Reaches (ExceptT.lift first >>= next : Task I ε β).run exchanges outcome ↔
      ∃ earlier result later, exchanges = earlier ++ later ∧ Reaches first earlier result ∧
        Reaches (next result).run later outcome := by
  rw [reaches_task_bind_iff]
  constructor
  · rintro (⟨cause, rfl, failed⟩ | ⟨earlier, value, later, rfl, begun, ended⟩)
    · obtain ⟨_, impossible, _⟩ := reaches_lift_iff.mp failed
      cases impossible
    · obtain ⟨result, same, reaches⟩ := reaches_lift_iff.mp begun
      cases same
      exact ⟨earlier, value, later, rfl, reaches, ended⟩
  · rintro ⟨earlier, result, later, rfl, begun, ended⟩
    exact Or.inr ⟨earlier, result, later, rfl, reaches_lift_iff.mpr ⟨result, rfl, begun⟩, ended⟩

/-! ## What sort of questions are asked -/

/-- Whatever the task is told, it asks only questions of one sort. -/
def AsksOnly (sort : I.Ask → Prop) (task : Task I ε α) : Prop :=
  ∀ exchanges question, Asks task.run exchanges question → sort question

namespace AsksOnly

variable {sort : I.Ask → Prop} {first : Task I ε α}

theorem pure (value : α) : AsksOnly sort (Pure.pure value : Task I ε α) :=
  fun _ _ asks => absurd asks not_asks_pure

theorem bind {next : α → Task I ε β} (begun : AsksOnly sort first)
    (ended : ∀ value, AsksOnly sort (next value)) : AsksOnly sort (first >>= next) := by
  intro exchanges question asks
  rcases asks_of_task_bind asks with first | ⟨earlier, value, later, rfl, _, rest⟩
  · exact begun exchanges question first
  · exact ended value later question rest

theorem say {level : Log.Level} {source : Log.Source} {message : String}
    (task : AsksOnly sort first) :
    AsksOnly sort (ExceptT.lift (Dialogue.say level source message) >>= fun _ => first) :=
  fun exchanges question asks => task exchanges question (asks_note_iff.mp asks)

end AsksOnly

end DepositDirectory.Dialogue
