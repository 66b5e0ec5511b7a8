import DepositDirectory.Listing
import DepositDirectory.Proofs.Retry.Tries
import Mathlib.Data.List.Chain

/-!
# What a drain asks for and what it comes to

A drain is a chain of logical calls: pages that have items and name the cursor of the next, each
asked for at the cursor that the page before it named, and one last call that ends it.  Drained over
any sequence of outcomes, a listing asks for each cursor of the chain as often as its logical call
has attempts, and comes to the items of all its pages, or to the failure of the last call.
-/

namespace DepositDirectory.Listing

open Custody (CallError)
open Dialogue (AsksOnce Reaches)
open Rehearsal (exchange)

variable {I : Interface} {π α : Type}

/-- A page that leads on, with the hints of the throttled attempts before it and the cursor that it
names. -/
structure Turn (π : Type) where
  hints : List (Option String)
  page : π
  cursor : String

def Turn.tries (turn : Turn π) : Tries (Option π) :=
  ⟨turn.hints, .ok (some turn.page)⟩

/-- A chain of pages that lead on, and the last logical call. -/
structure Drain (π : Type) where
  turns : List (Turn π)
  last : Tries (Option π)

namespace Drain

def callsAfter (last : Tries (Option π)) :
    (cursor : Option String) → List (Turn π) → List (Option String × Tries (Option π))
  | cursor, [] => [(cursor, last)]
  | cursor, turn :: turns => (cursor, turn.tries) :: callsAfter last (some turn.cursor) turns

/-- The logical calls of a drain from a cursor on. -/
def callsFrom (drain : Drain π) (cursor : Option String) :
    List (Option String × Tries (Option π)) :=
  callsAfter drain.last cursor drain.turns

/-- What a drain comes to: the items of all its pages in their order, or why its last call
failed. -/
def outcome (items : π → List α) (drain : Drain π) : Except CallError (List α) :=
  let before := drain.turns.flatMap fun turn => items turn.page
  match drain.last.outcome with
  | .ok (some page) => .ok (before ++ items page)
  | .ok none => .ok before
  | .error cause => .error cause

/-- The rule of a drain: its logical calls obey the retry rule, each page but the last has items and
names its cursor, and a last page has no items or no cursor. -/
structure Obeys (drain : Drain π) (listing : Listing I π α) (budget : Nat) : Prop where
  patient : ∀ turn ∈ drain.turns, turn.tries.Within budget
  leads : ∀ turn ∈ drain.turns,
    listing.items turn.page ≠ [] ∧ listing.next turn.page = some turn.cursor
  lastPatient : drain.last.Within budget
  ends : ∀ page, drain.last.outcome = .ok (some page) →
    listing.items page = [] ∨ listing.next page = none

def after (turn : Turn π) (drain : Drain π) : Drain π :=
  ⟨turn :: drain.turns, drain.last⟩

theorem outcome_after (items : π → List α) (turn : Turn π) (drain : Drain π) :
    (drain.after turn).outcome items = (drain.outcome items).map (items turn.page ++ ·) := by
  obtain ⟨turns, hints, outcome⟩ := drain
  rcases outcome with cause | (_ | page)
  · rfl
  · rfl
  · exact congrArg Except.ok (List.append_assoc _ _ _)

theorem obeys_last_iff {listing : Listing I π α} {budget : Nat} {last : Tries (Option π)} :
    Obeys ⟨[], last⟩ listing budget ↔
      last.Within budget ∧ ∀ page, last.outcome = .ok (some page) →
        listing.items page = [] ∨ listing.next page = none := by
  constructor
  · intro obeys
    exact ⟨obeys.lastPatient, obeys.ends⟩
  · rintro ⟨lastPatient, ends⟩
    exact ⟨fun _ member => (nomatch member), fun _ member => (nomatch member), lastPatient, ends⟩

theorem obeys_after_iff {listing : Listing I π α} {budget : Nat} (turn : Turn π)
    (drain : Drain π) :
    (drain.after turn).Obeys listing budget ↔
      turn.tries.Within budget ∧ listing.items turn.page ≠ [] ∧
        listing.next turn.page = some turn.cursor ∧ drain.Obeys listing budget := by
  constructor
  · rintro ⟨patient, leads, lastPatient, ends⟩
    obtain ⟨filled, further⟩ := leads turn List.mem_cons_self
    exact ⟨patient turn List.mem_cons_self, filled, further,
      fun other member => patient other (List.mem_cons_of_mem _ member),
      fun other member => leads other (List.mem_cons_of_mem _ member), lastPatient, ends⟩
  · rintro ⟨first, filled, further, patient, leads, lastPatient, ends⟩
    refine ⟨?_, ?_, lastPatient, ends⟩
    · intro other member
      rcases List.mem_cons.mp member with rfl | member
      · exact first
      · exact patient other member
    · intro other member
      rcases List.mem_cons.mp member with rfl | member
      · exact ⟨filled, further⟩
      · exact leads other member

end Drain

/-! ## Attempts -/

/-- The attempts of logical calls: the cursor that each asks for, and what it comes to. -/
def attemptsOf (calls : List (Option String × Tries (Option π))) :
    List (Option String × Except CallError (Option π)) :=
  calls.flatMap fun call => call.2.outcomes.map (call.1, ·)

/-- How one attempt follows another: one that was throttled is made again, and behind a page with
items the cursor is asked for that the page names. -/
inductive GoesOn (listing : Listing I π α) :
    Option String × Except CallError (Option π) → Option String × Except CallError (Option π) →
      Prop where
  | again {cursor hint : Option String} {outcome : Except CallError (Option π)} :
      GoesOn listing (cursor, .error (.rateLimited hint)) (cursor, outcome)
  | onward {cursor : Option String} {page : π} {next : String}
      {outcome : Except CallError (Option π)} (filled : listing.items page ≠ [])
      (named : listing.next page = some next) :
      GoesOn listing (cursor, .ok (some page)) (some next, outcome)

theorem isChain_outcomes {listing : Listing I π α} {cursor : Option String}
    {tries : Tries (Option π)} {later : List (Option String × Except CallError (Option π))}
    (chain : later.IsChain (GoesOn listing))
    (leads : ∀ next ∈ later.head?, GoesOn listing (cursor, tries.outcome) next) :
    (tries.outcomes.map (cursor, ·) ++ later).IsChain (GoesOn listing) ∧
      ∃ outcome rest, tries.outcomes.map (cursor, ·) ++ later = (cursor, outcome) :: rest := by
  obtain ⟨hints, outcome⟩ := tries
  induction hints with
  | nil => exact ⟨List.isChain_cons.mpr ⟨leads, chain⟩, outcome, later, rfl⟩
  | cons hint hints ih =>
      obtain ⟨following, first, rest, whole⟩ := ih leads
      refine ⟨List.isChain_cons.mpr ⟨?_, following⟩, .error (.rateLimited hint), _, rfl⟩
      intro next head
      change next ∈ ((Tries.outcomes ⟨hints, outcome⟩).map (cursor, ·) ++ later).head? at head
      rw [whole] at head
      cases head
      exact .again

theorem isChain_attemptsOf {listing : Listing I π α} {drain : Drain π} {budget : Nat}
    (obeys : drain.Obeys listing budget) (cursor : Option String) :
    (attemptsOf (drain.callsFrom cursor)).IsChain (GoesOn listing) ∧
      ∃ outcome rest, attemptsOf (drain.callsFrom cursor) = (cursor, outcome) :: rest := by
  obtain ⟨turns, last⟩ := drain
  induction turns generalizing cursor with
  | nil => exact isChain_outcomes .nil fun _ head => nomatch head
  | cons turn turns ih =>
      obtain ⟨_, filled, named, rest⟩ := (Drain.obeys_after_iff turn ⟨turns, last⟩).mp obeys
      obtain ⟨chain, outcome, later, first⟩ := ih (some turn.cursor) rest
      rw [attemptsOf] at chain first ⊢
      refine isChain_outcomes chain fun next head => ?_
      have same := head.symm.trans (congrArg List.head? first)
      cases same
      exact .onward filled named

/-! ## Drains of any listing -/

section

variable {listing : Listing I π α} {patience : Patience}
  {made : Option String → Except CallError (Option π) → Exchange I}
  {exchanges : List (Exchange I)} {outcome : Except CallError (List α)}

def exchangesOf (made : Option String → Except CallError (Option π) → Exchange I)
    (calls : List (Option String × Tries (Option π))) : List (Exchange I) :=
  calls.flatMap fun call => call.2.outcomes.map (made call.1)

theorem exchangesOf_eq (calls : List (Option String × Tries (Option π))) :
    exchangesOf made calls = (attemptsOf calls).map fun attempt => made attempt.1 attempt.2 := by
  rw [attemptsOf, List.map_flatMap, exchangesOf]
  refine List.flatMap_congr fun call _ => ?_
  rw [List.map_map]
  rfl

variable (asks : ∀ cursor, AsksOnce (listing.fetch cursor).run (made cursor))
include asks

theorem drainFrom_cases {allowance page held : Nat} {cursor : Option String}
    (reaches : Reaches
      (listing.drainFrom patience (allowance + 1) cursor page held).run exchanges outcome) :
    (∃ last, Drain.Obeys ⟨[], last⟩ listing patience.maxRetries ∧
      exchanges = last.outcomes.map (made cursor) ∧
      outcome = Drain.outcome listing.items ⟨[], last⟩) ∨
    ∃ (turn : Turn π) (later : List (Exchange I)) (rest : Except CallError (List α)),
      turn.tries.Within patience.maxRetries ∧
      listing.items turn.page ≠ [] ∧ listing.next turn.page = some turn.cursor ∧
      exchanges = turn.tries.outcomes.map (made cursor) ++ later ∧
      Reaches (listing.drainFrom patience allowance (some turn.cursor) (page + 1)
        (held + (listing.items turn.page).length)).run later rest ∧
      outcome = rest.map (listing.items turn.page ++ ·) := by
  rw [drainFrom, Dialogue.reaches_task_bind_iff] at reaches
  rcases reaches with ⟨cause, rfl, failed⟩ | ⟨earlier, value, later, rfl, begun, ended⟩
  · obtain ⟨hints, within, rfl⟩ := (Patience.reaches_execute_iff (asks cursor)).mp failed
    exact Or.inl ⟨⟨hints, .error cause⟩, Drain.obeys_last_iff.mpr ⟨within, nofun⟩, rfl, rfl⟩
  · obtain ⟨hints, within, rfl⟩ := (Patience.reaches_execute_iff (asks cursor)).mp begun
    cases value with
    | none =>
        have finished := Dialogue.reaches_tell_bind_iff.mp ended
        obtain ⟨rfl, rfl⟩ := Dialogue.reaches_task_pure_iff.mp finished
        exact Or.inl ⟨⟨hints, .ok none⟩, Drain.obeys_last_iff.mpr ⟨within, nofun⟩,
          List.append_nil _, rfl⟩
    | some fetched =>
        dsimp only at ended
        split at ended
        · rename_i next head tail further filled
          have onward := Dialogue.reaches_tell_bind_iff.mp ended
          obtain ⟨reached, rfl, rest⟩ := Dialogue.reaches_task_map_iff.mp onward
          exact Or.inr ⟨⟨hints, fetched, next⟩, later, reached, within,
            (fun bare => nomatch filled.symm.trans bare), further, rfl, rest, rfl⟩
        · rename_i otherwise
          have finished := Dialogue.reaches_tell_bind_iff.mp ended
          obtain ⟨rfl, rfl⟩ := Dialogue.reaches_task_pure_iff.mp finished
          refine Or.inl ⟨⟨hints, .ok (some fetched)⟩,
            Drain.obeys_last_iff.mpr ⟨within, ?_⟩, List.append_nil _, rfl⟩
          rintro page ⟨⟩
          cases items : listing.items fetched with
          | nil => exact Or.inl rfl
          | cons head tail =>
              cases further : listing.next fetched with
              | none => exact Or.inr rfl
              | some next => exact absurd items (otherwise next head tail further)

theorem reaches_drainFrom_last {allowance page held : Nat} {cursor : Option String}
    {last : Tries (Option π)} (obeys : Drain.Obeys ⟨[], last⟩ listing patience.maxRetries) :
    Reaches (listing.drainFrom patience (allowance + 1) cursor page held).run
      (last.outcomes.map (made cursor)) (Drain.outcome listing.items ⟨[], last⟩) := by
  obtain ⟨hints, last⟩ := last
  have asked := (Patience.reaches_execute_iff (asks cursor)).mpr ⟨hints, obeys.lastPatient, rfl⟩
  rw [drainFrom, Dialogue.reaches_task_bind_iff]
  rcases last with cause | (_ | fetched)
  · exact Or.inl ⟨cause, rfl, asked⟩
  · exact Or.inr ⟨_, none, [], (List.append_nil _).symm, asked,
      Dialogue.reaches_tell_bind_iff.mpr (.done _)⟩
  · refine Or.inr ⟨_, some fetched, [], (List.append_nil _).symm, asked, ?_⟩
    dsimp only
    split
    · rename_i next head tail further filled
      rcases obeys.ends fetched rfl with bare | final
      · cases filled.symm.trans bare
      · cases further.symm.trans final
    · exact Dialogue.reaches_tell_bind_iff.mpr (.done _)

theorem reaches_drainFrom_more {allowance page held : Nat} {cursor : Option String}
    {turn : Turn π} {later : List (Exchange I)} {rest : Except CallError (List α)}
    (within : turn.tries.Within patience.maxRetries) (filled : listing.items turn.page ≠ [])
    (further : listing.next turn.page = some turn.cursor)
    (reaches : Reaches (listing.drainFrom patience allowance (some turn.cursor) (page + 1)
      (held + (listing.items turn.page).length)).run later rest) :
    Reaches (listing.drainFrom patience (allowance + 1) cursor page held).run
      (turn.tries.outcomes.map (made cursor) ++ later)
      (rest.map (listing.items turn.page ++ ·)) := by
  have asked := (Patience.reaches_execute_iff (asks cursor)).mpr ⟨turn.hints, within, rfl⟩
  rw [drainFrom, Dialogue.reaches_task_bind_iff]
  refine Or.inr ⟨_, some turn.page, later, rfl, asked, ?_⟩
  dsimp only
  split
  · rename_i next head tail onward items
    cases further.symm.trans onward
    refine Dialogue.reaches_tell_bind_iff.mpr ?_
    exact Dialogue.reaches_task_map_iff.mpr ⟨rest, rfl, reaches⟩
  · rename_i otherwise
    obtain ⟨head, tail, items⟩ := List.exists_cons_of_ne_nil filled
    exact absurd items (otherwise turn.cursor head tail further)

/-- A listing reaches an outcome over the exchanges of a drain that obeys the rule, and is as long
as the allowance. -/
theorem reaches_drainFrom_iff {allowance page held : Nat} {cursor : Option String} :
    Reaches (listing.drainFrom patience allowance cursor page held).run exchanges outcome ↔
      ∃ drain : Drain π, drain.Obeys listing patience.maxRetries ∧
        drain.turns.length < allowance ∧ exchanges = exchangesOf made (drain.callsFrom cursor) ∧
        outcome = drain.outcome listing.items := by
  induction allowance generalizing exchanges outcome cursor page held with
  | zero =>
      constructor
      · intro reaches
        cases reaches
      · rintro ⟨drain, _, short, _⟩
        cases short
  | succ allowance ih =>
      constructor
      · intro reaches
        rcases drainFrom_cases asks reaches with ⟨last, obeys, rfl, rfl⟩ |
          ⟨turn, later, rest, within, filled, further, rfl, onward, rfl⟩
        · exact ⟨⟨[], last⟩, obeys, Nat.succ_pos _, (List.append_nil _).symm, rfl⟩
        · obtain ⟨drain, obeys, short, rfl, rfl⟩ := ih.mp onward
          have together := (Drain.obeys_after_iff turn drain).mpr ⟨within, filled, further, obeys⟩
          exact ⟨drain.after turn, together, Nat.succ_lt_succ short, rfl,
            (drain.outcome_after _ _).symm⟩
      · rintro ⟨⟨turns, last⟩, obeys, short, rfl, rfl⟩
        cases turns with
        | nil =>
            have single : exchangesOf made (Drain.callsFrom ⟨[], last⟩ cursor) =
                last.outcomes.map (made cursor) := List.append_nil _
            rw [single]
            exact reaches_drainFrom_last asks obeys
        | cons turn turns =>
            let rest : Drain π := ⟨turns, last⟩
            obtain ⟨within, filled, further, obeys⟩ := (Drain.obeys_after_iff turn rest).mp obeys
            change Reaches _ _ ((rest.after turn).outcome listing.items)
            rw [rest.outcome_after]
            refine reaches_drainFrom_more asks within filled further ?_
            exact ih.mpr ⟨rest, obeys, Nat.lt_of_succ_lt_succ short, rfl, rfl⟩

theorem reaches_drain_iff {allowance : Nat} :
    Reaches (listing.drain patience allowance).run exchanges outcome ↔
      ∃ drain : Drain π, drain.Obeys listing patience.maxRetries ∧
        drain.turns.length < allowance ∧ exchanges = exchangesOf made (drain.callsFrom none) ∧
        outcome = drain.outcome listing.items :=
  reaches_drainFrom_iff asks

end

end DepositDirectory.Listing

/-! ## Outcomes that come in an endless sequence -/

namespace DepositDirectory.Rehearsal

variable {Question Reply α : Type}

/-- An outside whose replies are an endless sequence, whatever it is asked; the state holds what it
has been asked. -/
def reel (replies : Nat → Reply) : Host (exchange Question Reply) (List Question) where
  answer := fun (question : Question) asked => (replies asked.length, asked ++ [question])
  wait := fun _ asked => asked
  note := fun _ asked => asked

def questionOf (told : Exchange (exchange Question Reply)) : Question :=
  told.question

def replyOf (told : Exchange (exchange Question Reply)) : Reply :=
  told.reply

theorem length_reel (replies : Nat → Reply) (question : (exchange Question Reply).Ask)
    (asked : List Question) :
    ((reel replies).answer question asked).2.length = asked.length + 1 :=
  List.length_append

theorem run_reel_iff {replies : Nat → Reply} {dialogue : Dialogue (exchange Question Reply) α}
    {result : α} {before after : List Question} :
    dialogue.run (reel replies) before = (some result, after) ↔
      ∃ exchanges, dialogue.Reaches exchanges result ∧
        after = before ++ exchanges.map questionOf ∧
        exchanges.map replyOf = (List.range' before.length exchanges.length).map replies := by
  constructor
  · intro run
    induction dialogue generalizing before with
    | done value =>
        cases run
        exact ⟨[], .done _, (List.append_nil _).symm, rfl⟩
    | unfinished => cases run
    | ask question next ih =>
        obtain ⟨later, reaches, rfl, told⟩ := ih _ run
        let first : Exchange (exchange Question Reply) := ⟨question, replies before.length⟩
        refine ⟨first :: later, .ask reaches, List.append_assoc _ _ _, ?_⟩
        rw [length_reel] at told
        exact congrArg (replies before.length :: ·) told
    | sleep ms next ih =>
        obtain ⟨exchanges, reaches, same, told⟩ := ih run
        exact ⟨exchanges, .sleep reaches, same, told⟩
    | note line next ih =>
        obtain ⟨exchanges, reaches, same, told⟩ := ih run
        exact ⟨exchanges, .note reaches, same, told⟩
  · rintro ⟨exchanges, reaches, rfl, told⟩
    induction reaches generalizing before with
    | done value => exact congrArg (some value, ·) (List.append_nil before).symm
    | @ask question next reply later value rest ih =>
        obtain ⟨same, told⟩ := List.cons.inj told
        have onward : later.map replyOf =
            (List.range' ((reel replies).answer question before).2.length later.length).map
              replies := by
          rw [length_reel]
          exact told
        -- The reply of the exchange is the one that the outside has for this call.
        cases same
        exact (ih onward).trans (congrArg (some value, ·) (List.append_assoc _ _ _))
    | sleep rest ih => exact ih told
    | note rest ih => exact ih told

end DepositDirectory.Rehearsal

namespace DepositDirectory.Listing

open Custody (CallError)
open Dialogue (AsksOnce)
open Rehearsal (exchange questionOf reel replyOf run_reel_iff)

variable {π α : Type}

/-- A listing whose pages are asked for by their cursors. -/
def byCursor (next : π → Option String) (items : π → List α) :
    Listing (exchange (Option String) (Except CallError (Option π))) π α where
  fetch := fun cursor =>
    ExceptT.mk (Dialogue.query (I := exchange (Option String) (Except CallError (Option π))) cursor)
  next := next
  items := items

/-- Drain a listing against endless outcomes: what it comes to, and the cursor of every call that
it makes. -/
def collect (next : π → Option String) (items : π → List α) (patience : Patience)
    (allowance : Nat) (outcomes : Nat → Except CallError (Option π)) :
    Option (Except CallError (List α)) × List (Option String) :=
  ((byCursor next items).drain patience allowance).run.run (reel outcomes) []

/-- The calls that are made, one for each attempt of each logical call. -/
def Drain.asked (drain : Drain π) : List (Option String) :=
  (drain.callsFrom none).flatMap fun call => List.replicate call.2.outcomes.length call.1

/-- What these calls come to, one after the other. -/
def Drain.outcomes (drain : Drain π) : List (Except CallError (Option π)) :=
  (drain.callsFrom none).flatMap fun call => call.2.outcomes

def made (cursor : Option String) (outcome : Except CallError (Option π)) :
    Exchange (exchange (Option String) (Except CallError (Option π))) :=
  ⟨cursor, outcome⟩

theorem questions_exchangesOf (calls : List (Option String × Tries (Option π))) :
    (exchangesOf made calls).map questionOf =
      calls.flatMap fun call => List.replicate call.2.outcomes.length call.1 := by
  simp [exchangesOf, List.map_flatMap, Function.comp_def, made, questionOf, List.map_const']

theorem replies_exchangesOf (calls : List (Option String × Tries (Option π))) :
    (exchangesOf made calls).map replyOf = calls.flatMap fun call => call.2.outcomes := by
  simp [exchangesOf, List.map_flatMap, Function.comp_def, made, replyOf]

/-- A listing is drained, with some allowance of pages, exactly when the outcomes begin with those
of a drain that obeys the rule: its calls are made and no others, and it comes to what the drain
comes to. -/
theorem collect_eq_iff (next : π → Option String) (items : π → List α) (patience : Patience)
    (outcomes : Nat → Except CallError (Option π)) (result : Except CallError (List α))
    (asked : List (Option String)) :
    (∃ allowance, collect next items patience allowance outcomes = (some result, asked)) ↔
      ∃ drain : Drain π, drain.Obeys (byCursor next items) patience.maxRetries ∧
        drain.outcomes = (List.range asked.length).map outcomes ∧ asked = drain.asked ∧
        result = drain.outcome items := by
  have asks (cursor : Option String) : AsksOnce ((byCursor next items).fetch cursor).run
      (made cursor) := fun _ _ => Dialogue.reaches_query_iff
  constructor
  · rintro ⟨allowance, run⟩
    obtain ⟨exchanges, reaches, rfl, told⟩ := run_reel_iff.mp run
    obtain ⟨drain, obeys, _, rfl, rfl⟩ := (reaches_drain_iff asks).mp reaches
    refine ⟨drain, obeys, ?_, questions_exchangesOf _, rfl⟩
    rw [replies_exchangesOf, List.length_nil, ← List.range_eq_range'] at told
    rw [List.nil_append, List.length_map]
    exact told
  · rintro ⟨drain, obeys, told, rfl, rfl⟩
    have reaches : ((byCursor next items).drain patience (drain.turns.length + 1)).run.Reaches
        (exchangesOf made (drain.callsFrom none)) (drain.outcome items) :=
      (reaches_drain_iff asks).mpr ⟨drain, obeys, Nat.lt_succ_self _, rfl, rfl⟩
    have drawn := questions_exchangesOf (drain.callsFrom none)
    refine ⟨_, run_reel_iff.mpr ⟨_, reaches, drawn.symm, ?_⟩⟩
    have long : (exchangesOf made (drain.callsFrom none)).length = drain.asked.length := by
      rw [← List.length_map questionOf, drawn]
      rfl
    rw [replies_exchangesOf, List.length_nil, ← List.range_eq_range', long]
    exact told

end DepositDirectory.Listing
