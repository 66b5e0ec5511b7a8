import DepositDirectory.Proofs.Directory.Whole

/-!
# A query that fails

A query fails as the first logical call that was given up did, and asks nothing after it.  The index
is left as it was, unless it was come by and only the call for a balance failed.  The listing is
left as it was too, unless the query completed a drain before it failed: then this is kept, with
the time at its end.
-/

namespace DepositDirectory.Directory

open Cache (Entry)
open Custody (Call CallError LogicalCall VaultAccount VaultPage service written)
open Custody.LogicalCall (exchanges)
open Dialogue (Reaches)
open Listing (Drain)

variable {α : Type} {patience : Patience} {budget : Nat} {before after : Shelves}
  {events : List (Event service)} {cause : CallError}

def Pageless (events : List (Event service)) : Prop :=
  ∀ told ∈ exchangesIn events, Call.asksForPage told.question = false

/-- What becomes of the listing in a query that does not fail over it: it is left as it was when no
page was asked for; else it is what a complete drain came to, with what the clock showed at its end,
and no page was asked for after that. -/
inductive Relisted (budget : Nat) (before : Option (Entry (List VaultAccount))) :
    List (Event service) → Option (Entry (List VaultAccount)) → Prop where
  | unasked {events : List (Event service)} (pageless : Pageless events) :
      Relisted budget before events before
  | drained {looks later : List (Event service)} {drain : Drain VaultPage}
      {vaults : List VaultAccount} {time : Int} (silent : exchangesIn looks = [])
      (obeys : drain.Obeys vaultListing budget) (comes : vaultsOf drain = .ok vaults)
      (pageless : Pageless later) :
      Relisted budget before (looks ++ (written (vaultCalls drain) ++ .read time :: later))
        (some ⟨vaults, time⟩)

/-- What a query that fails with a cause asks the service, and what it leaves on the shelves. -/
structure Failed (budget : Nat) (before after : Shelves) (events : List (Event service))
    (cause : CallError) : Prop where
  /-- All logical calls were answered but the last, which was given up with the cause; unless it
  asked for a balance, the index is as before. -/
  calls : ∃ made last, exchangesIn events = (made ++ [last]).flatMap exchanges ∧
    (∀ logical ∈ made, logical.Answered budget) ∧ last.GivenUp budget cause ∧
    ((∀ vaultId assetId, last.call ≠ .assetBalance vaultId assetId) → after.index = before.index)
  /-- A drain failed, which was all that was asked, and the listing is as before; or the query did
  not fail over the listing. -/
  listing : (∃ drain, drain.Obeys vaultListing budget ∧ vaultsOf drain = .error cause ∧
      exchangesIn events = (vaultCalls drain).flatMap exchanges ∧ after.vaults = before.vaults) ∨
    Relisted budget before.vaults events after.vaults

/-! ## What becomes of the listing -/

theorem pageless_read (time : Int) : Pageless [.read time] :=
  fun _ member => nomatch member

theorem Pageless.append {earlier later : List (Event service)} (first : Pageless earlier)
    (rest : Pageless later) : Pageless (earlier ++ later) := by
  intro told member
  rw [exchangesIn_append] at member
  exact (List.mem_append.mp member).elim (first told) (rest told)

theorem pageless_of_calls {logicals : List LogicalCall}
    (others : ∀ logical ∈ logicals, logical.call.asksForPage = false) :
    Pageless (written logicals) := by
  intro told member
  rw [Custody.exchangesIn_written] at member
  obtain ⟨logical, among, attempt⟩ := List.mem_flatMap.mp member
  rw [LogicalCall.question_of_mem_exchanges attempt]
  exact others logical among

theorem pageless_build {vaults : List VaultAccount} {told : List (Exchange service)}
    {outcome : Except CallError (List Row)}
    (reaches : Reaches (buildIndex patience vaults).run told outcome) :
    Pageless (told.map .told) := by
  obtain ⟨logicals, _, others, rfl, _⟩ := orderly_buildIndex vaults told outcome reaches
  exact pageless_of_calls others

namespace Relisted

variable {listing kept : Option (Entry (List VaultAccount))}

theorem append (relisted : Relisted budget listing events kept) {later : List (Event service)}
    (more : Pageless later) : Relisted budget listing (events ++ later) kept := by
  cases relisted with
  | unasked pageless => exact .unasked (pageless.append more)
  | drained silent obeys comes pageless =>
      rw [List.append_assoc, List.append_assoc]
      exact .drained silent obeys comes (pageless.append more)

theorem after_look {looks : List (Event service)} (silent : exchangesIn looks = [])
    (relisted : Relisted budget listing events kept) :
    Relisted budget listing (looks ++ events) kept := by
  cases relisted with
  | unasked pageless =>
      refine .unasked ?_
      intro told member
      rw [exchangesIn_append, silent] at member
      exact pageless told member
  | drained quiet obeys comes pageless =>
      rw [← List.append_assoc]
      refine .drained ?_ obeys comes pageless
      rw [exchangesIn_append, silent, quiet]
      rfl

end Relisted

theorem Listed.relisted {vaults : List VaultAccount}
    (listed : Listed patience before events (.ok vaults) after) :
    Relisted patience.maxRetries before.vaults events after.vaults := by
  cases listed with
  | served held => exact .unasked (pageless_read _)
  | drained silent obeys comes => exact .drained silent obeys comes fun _ member => nomatch member

theorem Listed.index_eq {outcome : Except CallError (List VaultAccount)}
    (listed : Listed patience before events outcome after) : after.index = before.index := by
  cases listed with
  | served held => rfl
  | failed silent obeys fails => rfl
  | drained silent obeys comes => rfl

theorem Indexed.relisted {rows : List Row}
    (indexed : Indexed patience before events (.ok rows) after) :
    Relisted patience.maxRetries before.vaults events after.vaults := by
  cases indexed with
  | served held => exact .unasked (pageless_read _)
  | built silent listed comes =>
      exact (listed.relisted.append ((pageless_build comes).append (pageless_read _))).after_look
        silent

/-! ## Queries that fail -/

/-- A call for the listing fails over one drain, and leaves the listing as it was. -/
theorem Listed.undrained (listed : Listed patience before events (.error cause) after) :
    ∃ drain, drain.Obeys vaultListing patience.maxRetries ∧ vaultsOf drain = .error cause ∧
      exchangesIn events = (vaultCalls drain).flatMap exchanges ∧
      after.vaults = before.vaults := by
  cases listed with
  | @failed looks drain cause silent obeys fails =>
      refine ⟨drain, obeys, fails, ?_, rfl⟩
      rw [exchangesIn_append, silent, Custody.exchangesIn_written]
      rfl

theorem Listed.fails (listed : Listed patience before events (.error cause) after) :
    Failed patience.maxRetries before after events cause := by
  obtain ⟨pages, paged, asked, made, last, rfl, answered, failed⟩ := listed.accountFor
  exact ⟨⟨made, last, asked, answered, failed, fun _ => listed.index_eq⟩, Or.inl listed.undrained⟩

theorem Indexed.fails (indexed : Indexed patience before events (.error cause) after) :
    Failed patience.maxRetries before after events cause := by
  obtain ⟨pages, rest, asks⟩ := indexed.asked
  obtain ⟨made, last, same, answered, failed⟩ := asks.accounts
  have asked := asks.told_eq
  rw [same] at asked
  cases indexed with
  | unlisted silent listed =>
      obtain ⟨drain, obeys, fails, drained, held⟩ := listed.undrained
      refine ⟨⟨made, last, asked, answered, failed, fun _ => listed.index_eq⟩,
        Or.inl ⟨drain, obeys, fails, ?_, held⟩⟩
      rw [exchangesIn_append, silent, drained]
      rfl
  | unbuilt silent listed fails =>
      refine ⟨⟨made, last, asked, answered, failed, fun _ => listed.index_eq⟩, Or.inr ?_⟩
      exact (listed.relisted.append (pageless_build fails)).after_look silent

/-- An index that was come by, and then a call for a balance that was given up. -/
theorem Indexed.fails_balance {rows : List Row} {row : Row} {told : List (Exchange service)}
    (indexed : Indexed patience before events (.ok rows) after)
    (fails : Reaches (patience.execute
      (Custody.call (.assetBalance row.vaultId row.assetId))).run told (.error cause)) :
    Failed patience.maxRetries before after (events ++ told.map .told) cause := by
  obtain ⟨pages, rest, asked, _, _, _, answered⟩ := indexed.asked
  obtain ⟨hints, patient, rfl⟩ := Custody.reaches_execute_call_iff.mp fails
  let last : LogicalCall := ⟨.assetBalance row.vaultId row.assetId, ⟨hints, .error cause⟩⟩
  refine ⟨⟨pages ++ rest, last, ?_, answered, ⟨patient, rfl⟩, ?_⟩, Or.inr ?_⟩
  · have together : ((pages ++ rest) ++ [last]).flatMap exchanges =
        (pages ++ rest).flatMap exchanges ++ last.exchanges := by
      rw [List.flatMap_append, List.flatMap_singleton]
    rw [together, exchangesIn_append, exchangesIn_told, asked]
  · intro other
    exact absurd rfl (other row.vaultId row.assetId)
  · refine indexed.relisted.append ?_
    intro exchange member
    rw [exchangesIn_told] at member
    rw [LogicalCall.question_of_mem_exchanges member]
    rfl

theorem Course.andThen_value_error {course : Course α} {β : Type} {change : α → β}
    (ran : (course.andThen fun result => .value (change result)) before events (.error cause)
      after) : course before events (.error cause) after := by
  rcases ran with ⟨cause, same, failed⟩ | ⟨_, _, _, _, _, _, _, impossible, _⟩
  · cases same
    exact failed
  · cases impossible

theorem failed_of_course {plan : Plan} {request : Request} (own : ∀ c, request ≠ .call c)
    (course : request.course plan before events (.error cause) after) :
    Failed plan.patience.maxRetries before after events cause := by
  cases request with
  | listVaults => exact (listed_of_course (Course.andThen_value_error course)).fails
  | addressIndex => exact (indexed_of_course (Course.andThen_value_error course)).fails
  | resolve address =>
      have ran := Course.andThen_value_error (Course.andThen_value_error course)
      exact (indexed_of_course ran).fails
  | balance deposit token =>
      rcases Course.andThen_value_error course with
        ⟨cause, same, failed⟩ | ⟨earlier, rows, later, middle, rfl, indexed, rest⟩
      · cases same
        exact (indexed_of_course failed).fails
      · cases found : rowOfToken rows token with
        | none =>
            rw [found] at rest
            obtain ⟨_, impossible, _⟩ := rest
            cases impossible
        | some row =>
            rw [found] at rest
            obtain ⟨told, rfl, fails, rfl⟩ := Course.andThen_value_error rest
            exact (indexed_of_course indexed).fails_balance fails
  | invalidate =>
      obtain ⟨_, impossible, _⟩ := course
      cases impossible
  | call c => exact absurd rfl (own c)

/-- Failed queries leave the directory intact, from every state that it can reach: what is on its
shelves is whole, and so it is after a query that fails, which leaves there what it found but for a
listing that it drained completely. -/
theorem Reached.intact {σ : Type} {host : Host service σ} {clock : σ → Int × σ} {plan : Plan}
    {state : (σ × List (Event service)) × Shelves} (reached : Reached host clock plan state) :
    Whole plan.patience.maxRetries state.1.2 state.2 ∧
      ∀ {request : Request} {cause : CallError} {final : (σ × List (Event service)) × Shelves},
        (∀ c, request ≠ .call c) →
        (request.perform plan).run.run (recording host clock plan.terms) state =
          (some (.error cause), final) →
        Whole plan.patience.maxRetries final.1.2 final.2 ∧
          ∃ events, final.1.2 = state.1.2 ++ events ∧
            Failed plan.patience.maxRetries state.2 final.2 events cause := by
  refine ⟨reached.whole, ?_⟩
  intro request cause final own run
  obtain ⟨events, grown, course⟩ := follows_perform host clock plan request run
  exact ⟨(reached.asked request run).whole, events, grown, failed_of_course own course⟩

/-- The twins as long as seven calls are answered, and then an outage. -/
def souring (count : Nat) (c : Call) : Except CallError c.Result :=
  if count < 7 then drifting count c else .error (.status 500 "down")

def restless : Plan := ⟨⟨1, 1000⟩, ⟨60, .withinTtl⟩, 2⟩

/-- The directory is asked for the index, beside the service that sours and a clock that shows how
many calls it has answered. -/
def askForIndex (state : (Nat × List (Event service)) × Shelves) :
    Option (Except CallError Response) × (Nat × List (Event service)) × Shelves :=
  (Request.addressIndex.perform restless).run.run
    (recording (Custody.numbered souring) (fun count => (count, count)) restless.terms) state

def stocked : (Nat × List (Event service)) × Shelves :=
  (askForIndex ((0, []), Shelves.empty)).2

/-- Asked again, it drains the listing anew and then fails over the first lookup: the new listing is
kept, and the index is the old one. -/
theorem stocked_stays_intact :
    Reached (Custody.numbered souring) (fun count => (count, count)) restless stocked ∧
    ∃ final events, askForIndex stocked = (some (.error (.status 500 "down")), final) ∧
      stocked.2 = ⟨some ⟨twins, 1⟩, some ⟨twinRows, 6⟩⟩ ∧
      final.2 = ⟨some ⟨twins, 7⟩, some ⟨twinRows, 6⟩⟩ ∧ final.1.2 = stocked.1.2 ++ events ∧
      Failed 1 stocked.2 final.2 events (.status 500 "down") := by
  have first : askForIndex ((0, []), Shelves.empty) = (some (.ok (.rows twinRows)), stocked) := rfl
  have again : askForIndex stocked =
      (some (.error (.status 500 "down")), (askForIndex stocked).2) := rfl
  have reached : Reached (Custody.numbered souring) (fun count => (count, count)) restless
      stocked := .asked .addressIndex (.opened 0) first
  obtain ⟨_, fails⟩ := reached.intact
  obtain ⟨_, events, grown, failed⟩ := fails (fun c same => Request.noConfusion same) again
  exact ⟨reached, _, events, again, rfl, rfl, grown, failed⟩

end DepositDirectory.Directory
