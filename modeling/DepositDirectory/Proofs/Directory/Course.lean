import DepositDirectory.Directory.Request
import DepositDirectory.Proofs.Dialogue.Exchanges
import DepositDirectory.Proofs.Dialogue.Run
import DepositDirectory.Proofs.Directory.Shelves

/-!
# How a query goes

Beside a remote and a clock that write down what they tell, every query follows a course: what is
written down, what the query comes to, and what it leaves on the shelves, from what it finds there.
A course says what is possible and no more; it is put together as the query is, so that whatever is
true of queries is told from their courses, without a host.
-/

namespace DepositDirectory.Directory

open Cache (Entry Terms)
open Custody (CallError VaultAccount service)

variable {α β σ : Type}

/-- What is possible in a query: from what is on the shelves, what is written down and what it comes
to, to what is then on the shelves. -/
abbrev Course (α : Type) : Type :=
  Shelves → List (Event service) → Except CallError α → Shelves → Prop

namespace Course

def value (result : α) : Course α := fun before events outcome after =>
  events = [] ∧ outcome = .ok result ∧ after = before

/-- The outside is asked, and the shelves are left alone. -/
def outside (task : Task service CallError α) : Course α := fun before events outcome after =>
  ∃ told, events = told.map .told ∧ task.run.Reaches told outcome ∧ after = before

/-- The clock is read, and a value is kept with the time that it shows. -/
def keep (shelf : Shelf service α) (result : α) : Course α := fun before events outcome after =>
  ∃ time, events = [.read time] ∧ outcome = .ok result ∧
    after = shelf.put (some ⟨result, time⟩) before

/-- One query and then, if it came to a value, another. -/
def andThen (first : Course α) (next : α → Course β) : Course β :=
  fun before events outcome after =>
    (∃ cause, outcome = .error cause ∧ first before events (.error cause) after) ∨
      ∃ earlier result later middle, events = earlier ++ later ∧
        first before earlier (.ok result) middle ∧ next result middle later outcome after

/-- A look at a shelf that is not served: nothing is there, or the clock is read and the policy
refreshes what is there. -/
inductive Looked (terms : Terms) : Option (Entry α) → List (Event service) → Prop where
  | absent : Looked terms none []
  | refused {entry : Entry α} {time : Int}
      (refreshes : terms.policy.refreshes (time - entry.producedAt) terms.ttl = true) :
      Looked terms (some entry) [.read time]

/-- A call for what a shelf keeps: it is served, or it is produced, and then kept with the time that
the clock shows when it has been. -/
inductive fetched (terms : Terms) (shelf : Shelf service α) (produce : Course α) : Course α where
  | served {before : Shelves} {entry : Entry α} {time : Int} (held : shelf.get before = some entry)
      (serves : terms.policy.refreshes (time - entry.producedAt) terms.ttl = false) :
      fetched terms shelf produce before [.read time] (.ok entry.value) before
  | failed {before after : Shelves} {looks events : List (Event service)} {cause : CallError}
      (looked : Looked terms (shelf.get before) looks)
      (ran : produce before events (.error cause) after) :
      fetched terms shelf produce before (looks ++ events) (.error cause) after
  | renewed {before after : Shelves} {looks events : List (Event service)} {result : α}
      {time : Int} (looked : Looked terms (shelf.get before) looks)
      (ran : produce before events (.ok result) after) :
      fetched terms shelf produce before (looks ++ (events ++ [.read time])) (.ok result)
        (shelf.put (some ⟨result, time⟩) after)

end Course

/-! ## Queries and their courses -/

/-- A directory's outside and its shelves, where all that the service tells and all that the clock
shows is written down. -/
def recording (host : Host service σ) (clock : σ → Int × σ) (terms : Terms) :
    Host (withShelves service) ((σ × List (Event service)) × Shelves) :=
  hostShelves host.recorded (Host.recordedClock service clock) terms

theorem run_recording (host : Host service σ) (clock : σ → Int × σ) (terms : Terms)
    (dialogue : Dialogue (withShelves service) α) (state : σ) (record : List (Event service))
    (shelves : Shelves) :
    dialogue.run (hostShelves host clock terms) (state, shelves) =
      ((dialogue.run (recording host clock terms) ((state, record), shelves)).1,
        (dialogue.run (recording host clock terms) ((state, record), shelves)).2.1.1,
        (dialogue.run (recording host clock terms) ((state, record), shelves)).2.2) := by
  let view : (σ × List (Event service)) × Shelves → σ × Shelves :=
    fun beside => (beside.1.1, beside.2)
  have answers (question : Ask service) (beside : (σ × List (Event service)) × Shelves) :
      (hostShelves host clock terms).answer question (view beside) =
        (((recording host clock terms).answer question beside).1,
          view ((recording host clock terms).answer question beside).2) := by
    obtain ⟨beside, vaults, index⟩ := beside
    cases question with
    | outside question => rfl
    | vaults ask => cases ask <;> cases vaults <;> rfl
    | index ask => cases ask <;> cases index <;> rfl
  exact Dialogue.run_view view answers (fun _ _ => rfl) (fun _ _ => rfl) dialogue
    ((state, record), shelves)

/-- Whenever the query ends, what was written down since it began, what it came to and what became
of the shelves is its course. -/
def Follows (host : Host service σ) (clock : σ → Int × σ) (terms : Terms) (query : Query α)
    (course : Course α) : Prop :=
  ∀ ⦃state : σ⦄ ⦃record : List (Event service)⦄ ⦃before : Shelves⦄ ⦃outcome : Except CallError α⦄
    ⦃final : (σ × List (Event service)) × Shelves⦄,
    query.run.run (recording host clock terms) ((state, record), before) = (some outcome, final) →
      ∃ events, final.1.2 = record ++ events ∧ course before events outcome final.2

namespace Follows

variable {host : Host service σ} {clock : σ → Int × σ} {terms : Terms}

theorem value (result : α) :
    Follows host clock terms (pure result) (.value result) := by
  intro state record before outcome final run
  cases run
  exact ⟨[], (List.append_nil _).symm, rfl, rfl, rfl⟩

theorem outside (task : Task service CallError α) :
    Follows host clock terms (ExceptT.mk (Directory.outside task.run)) (.outside task) := by
  intro state record before outcome final run
  obtain ⟨⟨after, written⟩, shelves⟩ := final
  have beside := (run_outside host.recorded (Host.recordedClock service clock) terms task.run
    (state, record) before).symm.trans run
  obtain ⟨found, rest⟩ := Prod.mk.inj beside
  obtain ⟨left, same⟩ := Prod.mk.inj rest
  obtain ⟨told, grown, reaches⟩ := Host.reaches_of_run_recorded host (Prod.ext found left)
  exact ⟨told.map .told, grown, told, rfl, reaches, same.symm⟩

theorem keep (shelf : Shelf service α) (result : α) :
    Follows host clock terms (ExceptT.lift (shelf.reach (.keep result)) >>= fun _ => pure result)
      (.keep shelf result) := by
  intro state record before outcome final run
  obtain ⟨_, middle, kept, ended⟩ := Dialogue.run_lift_bind_eq_some run
  cases (shelf.run_reach _ _ _ _ _ _).symm.trans kept
  cases ended
  exact ⟨[.read (clock state).1], rfl, (clock state).1, rfl, rfl, rfl⟩

theorem andThen {first : Query α} {next : α → Query β} {course : Course α} {further : α → Course β}
    (begun : Follows host clock terms first course)
    (ended : ∀ result, Follows host clock terms (next result) (further result)) :
    Follows host clock terms (first >>= next) (course.andThen further) := by
  intro state record before outcome final run
  rcases Dialogue.run_task_bind_eq_some run with
    ⟨cause, rfl, failed⟩ | ⟨result, ⟨⟨middle, told⟩, between⟩, ran, rest⟩
  · obtain ⟨events, same, course⟩ := begun failed
    exact ⟨events, same, Or.inl ⟨cause, rfl, course⟩⟩
  · obtain ⟨earlier, rfl, course⟩ := begun ran
    obtain ⟨later, same, further⟩ := ended result rest
    exact ⟨earlier ++ later, same.trans (List.append_assoc _ _ _),
      Or.inr ⟨earlier, result, later, between, rfl, course, further⟩⟩

/-- A line in the log makes no difference to the course. -/
theorem say {query : Query α} {course : Course α} {level : Log.Level} {source : Log.Source}
    {message : String} (follows : Follows host clock terms query course) :
    Follows host clock terms (ExceptT.lift (Dialogue.say level source message) >>= fun _ => query)
      course :=
  fun _ _ _ _ _ run => follows run

/-- A look at a shelf leaves it as it is: what is there is served, or is to be produced. -/
theorem look (shelf : Shelf service α) {state : σ} {record : List (Event service)}
    {before : Shelves} {verdict : Cache.Verdict α} {final : (σ × List (Event service)) × Shelves}
    (run : (shelf.reach .consult).run (recording host clock terms) ((state, record), before) =
      (some verdict, final)) :
    (∃ entry time later, shelf.get before = some entry ∧
        terms.policy.refreshes (time - entry.producedAt) terms.ttl = false ∧
        verdict = .serve entry.value (time - entry.producedAt) ∧
        final = ((later, record ++ [.read time]), before)) ∨
      ∃ looks later, Course.Looked terms (shelf.get before) looks ∧ verdict = .refresh ∧
        final = ((later, record ++ looks), before) := by
  have answered := (shelf.run_reach _ _ _ _ _ _).symm.trans run
  have put_get := shelf.put_get before
  cases held : shelf.get before with
  | none =>
      rw [held] at answered put_get
      cases answered
      exact Or.inr ⟨[], state, .absent, rfl,
        Prod.ext (congrArg (state, ·) (List.append_nil record).symm) put_get⟩
  | some entry =>
      rw [held] at answered put_get
      obtain ⟨judged, there⟩ := Prod.mk.inj answered
      have same : (((clock state).2, record ++ [.read (clock state).1]), before) = final := by
        rw [← there]
        exact Prod.ext rfl put_get.symm
      have decided := Option.some.inj judged
      simp only [answerShelf, Terms.judge] at decided
      split at decided
      · rename_i refreshes
        exact Or.inr ⟨_, _, .refused refreshes, decided.symm, same.symm⟩
      · rename_i serves
        exact Or.inl ⟨entry, _, _, rfl, Bool.eq_false_iff.mpr serves, decided.symm,
          same.symm⟩

theorem fetched (shelf : Shelf service α) {produce : Query α} {course : Course α}
    (follows : Follows host clock terms produce course) :
    Follows host clock terms (Cache.get terms shelf.reach produce)
      (.fetched terms shelf course) := by
  intro state record before outcome final run
  obtain ⟨verdict, middle, consulted, rest⟩ := Dialogue.run_lift_bind_eq_some run
  rcases look shelf consulted with
    ⟨entry, time, later, held, serves, rfl, rfl⟩ | ⟨looks, later, looked, rfl, rfl⟩
  · cases rest
    exact ⟨[.read time], rfl, .served held serves⟩
  · obtain ⟨events, same, course⟩ :=
      (follows.andThen fun result => Follows.keep shelf result) rest
    rcases course with
      ⟨cause, rfl, ran⟩ | ⟨earlier, result, _, middle, rfl, ran, time, rfl, rfl, kept⟩
    · exact ⟨looks ++ events, same.trans (List.append_assoc _ _ _), .failed looked ran⟩
    · rw [kept]
      exact ⟨looks ++ (earlier ++ [.read time]), same.trans (List.append_assoc _ _ _),
        .renewed looked ran⟩

end Follows

/-! ## The courses of the requests -/

def listingCourse (plan : Plan) : Course (List VaultAccount) :=
  .fetched plan.terms vaultShelf (.outside (fetchVaults plan.patience plan.allowance))

def indexCourse (plan : Plan) : Course (List Row) :=
  .fetched plan.terms indexShelf <| (listingCourse plan).andThen fun vaults =>
    .outside (buildIndex plan.patience vaults)

def ownerCourse (plan : Plan) (address : String) : Course (Option String) :=
  (indexCourse plan).andThen fun rows => .value (ownerOf rows address)

def amountCourse (plan : Plan) : Option Row → Course (Option String)
  | none => .value none
  | some row =>
      (Course.outside (plan.patience.execute (Custody.call (.assetBalance row.vaultId
        row.assetId)))).andThen fun amounts => .value (some amounts.available)

def balanceCourse (plan : Plan) (token : String) : Course (Option String) :=
  (indexCourse plan).andThen fun rows => amountCourse plan (rowOfToken rows token)

def Request.course (plan : Plan) : Request → Course Response
  | listVaults => (listingCourse plan).andThen fun vaults => .value (.vaults vaults)
  | addressIndex => (indexCourse plan).andThen fun rows => .value (.rows rows)
  | resolve address => (ownerCourse plan address).andThen fun owner => .value (.found owner)
  | balance _ token => (balanceCourse plan token).andThen fun amount => .value (.found amount)
  | invalidate => fun _ events outcome after =>
      events = [] ∧ outcome = .ok .invalidated ∧ after = Shelves.empty
  | call c => (Course.outside (Custody.call c)).andThen fun result => .value (.ofCall c result)

section Requests

variable (host : Host service σ) (clock : σ → Int × σ) (plan : Plan)

theorem follows_listVaults :
    Follows host clock plan.terms (listVaults plan) (listingCourse plan) :=
  Follows.fetched vaultShelf (Follows.outside _)

theorem follows_addressIndex :
    Follows host clock plan.terms (addressIndex plan) (indexCourse plan) :=
  Follows.fetched indexShelf <|
    (follows_listVaults host clock plan).andThen fun _ => Follows.outside _

theorem follows_resolve (address : String) :
    Follows host clock plan.terms (resolve plan address) (ownerCourse plan address) := by
  refine (follows_addressIndex host clock plan).andThen fun rows => ?_
  cases ownerOf rows address with
  | none => exact (Follows.value none).say
  | some vaultId => exact (Follows.value (some vaultId)).say

theorem follows_balance (deposit token : String) :
    Follows host clock plan.terms (balance plan deposit token) (balanceCourse plan token) := by
  refine (follows_addressIndex host clock plan).andThen fun rows => ?_
  cases rowOfToken rows token with
  | none => exact (Follows.value none).say
  | some row => exact ((Follows.outside _).andThen fun _ => Follows.value _).say

theorem follows_perform (request : Request) :
    Follows host clock plan.terms (request.perform plan) (request.course plan) := by
  cases request with
  | listVaults => exact (follows_listVaults host clock plan).andThen fun _ => Follows.value _
  | addressIndex => exact (follows_addressIndex host clock plan).andThen fun _ => Follows.value _
  | resolve address =>
      exact (follows_resolve host clock plan address).andThen fun _ => Follows.value _
  | balance deposit token =>
      exact (follows_balance host clock plan deposit token).andThen fun _ => Follows.value _
  | invalidate =>
      intro state record before outcome final run
      cases run
      exact ⟨[], (List.append_nil _).symm, rfl, rfl, rfl⟩
  | call c => exact (Follows.outside _).andThen fun _ => Follows.value _

end Requests

end DepositDirectory.Directory
