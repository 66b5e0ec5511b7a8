import DepositDirectory.Proofs.Directory.Indexing

/-!
# What is kept is whole

A directory is opened with empty shelves and asked one query after another, while the service and
the clock may change as they like.  What is then on its shelves is whole: the listing is what one
complete drain came to, the index what the lookups of every holding of a complete listing came to,
and each is stamped with the time that the clock showed right after.  Every query preserves this,
also one that fails.
-/

namespace DepositDirectory.Directory

open Cache (Entry)
open Custody (CallError VaultAccount VaultPage service written)
open Listing (Drain)

variable {α β : Type} {patience : Patience} {budget : Nat} {record : List (Event service)}

/-- A kept listing is what a complete drain came to, and was kept when the clock was read next. -/
def Drained (budget : Nat) (record : List (Event service)) (entry : Entry (List VaultAccount)) :
    Prop :=
  ∃ earlier later drain, drain.Obeys vaultListing budget ∧ vaultsOf drain = .ok entry.value ∧
    record = earlier ++ (written (vaultCalls drain) ++ .read entry.producedAt :: later)

/-- A kept index is what the lookups of all holdings of a complete listing came to, and was kept
when the clock was read next. -/
def Built (budget : Nat) (record : List (Event service)) (lookups : List Lookup)
    (entry : Entry (List Row)) : Prop :=
  ∃ earlier later listing, Drained budget earlier listing ∧
    LookedUp budget (holdings listing.value) lookups ∧ entry.value = lookups.flatMap Lookup.rows ∧
    record = earlier ++
      (written (lookups.flatMap Lookup.calls) ++ .read entry.producedAt :: later)

/-- Nothing on the shelves is only a part of what it should be. -/
structure Whole (budget : Nat) (record : List (Event service)) (shelves : Shelves) : Prop where
  listing : ∀ entry, shelves.vaults = some entry → Drained budget record entry
  index : ∀ entry, shelves.index = some entry → ∃ lookups, Built budget record lookups entry

/-! ## What happens later makes no difference -/

theorem Drained.append {entry : Entry (List VaultAccount)} (drained : Drained budget record entry)
    (events : List (Event service)) : Drained budget (record ++ events) entry := by
  obtain ⟨earlier, later, drain, obeys, comes, rfl⟩ := drained
  refine ⟨earlier, later ++ events, drain, obeys, comes, ?_⟩
  rw [List.append_assoc, List.append_assoc]
  rfl

theorem Built.append {lookups : List Lookup} {entry : Entry (List Row)}
    (built : Built budget record lookups entry) (events : List (Event service)) :
    Built budget (record ++ events) lookups entry := by
  obtain ⟨earlier, later, listing, drained, lookedUp, flat, rfl⟩ := built
  refine ⟨earlier, later ++ events, listing, drained, lookedUp, flat, ?_⟩
  rw [List.append_assoc, List.append_assoc]
  rfl

theorem Whole.append {shelves : Shelves} (whole : Whole budget record shelves)
    (events : List (Event service)) : Whole budget (record ++ events) shelves where
  listing := fun entry held => (whole.listing entry held).append events
  index := fun entry held =>
    (whole.index entry held).imp fun _ built => built.append events

theorem whole_empty : Whole budget record Shelves.empty where
  listing := fun _ held => nomatch held
  index := fun _ held => nomatch held

/-! ## Every query preserves it -/

theorem Listed.whole {before after : Shelves} {events : List (Event service)}
    {outcome : Except CallError (List VaultAccount)}
    (listed : Listed patience before events outcome after)
    (whole : Whole patience.maxRetries record before) :
    Whole patience.maxRetries (record ++ events) after := by
  cases listed with
  | served held => exact whole.append _
  | failed silent obeys fails => exact whole.append _
  | @drained looks drain vaults time silent obeys comes =>
      refine ⟨?_, (whole.append _).index⟩
      intro entry held
      cases held
      exact ⟨record ++ looks, [], drain, obeys, comes, (List.append_assoc _ _ _).symm⟩

theorem Indexed.whole {before after : Shelves} {events : List (Event service)}
    {outcome : Except CallError (List Row)} (indexed : Indexed patience before events outcome after)
    (whole : Whole patience.maxRetries record before) :
    Whole patience.maxRetries (record ++ events) after := by
  cases indexed with
  | served held => exact whole.append _
  | @unlisted looks events cause after silent listed =>
      rw [← List.append_assoc]
      exact listed.whole (whole.append looks)
  | @unbuilt looks events told vaults cause after silent listed fails =>
      rw [← List.append_assoc, ← List.append_assoc]
      exact (listed.whole (whole.append looks)).append _
  | @built looks events told vaults rows time after silent listed comes =>
      have known := listed.whole (whole.append looks)
      obtain ⟨listing, kept, rfl⟩ := listed.kept
      obtain ⟨lookups, lookedUp, rfl, flat⟩ := reaches_buildIndex_iff.mp comes
      rw [← List.append_assoc, ← List.append_assoc]
      refine ⟨(known.append _).listing, ?_⟩
      intro entry held
      cases held
      exact ⟨lookups, record ++ looks ++ events, [], listing, known.listing listing kept, lookedUp,
        flat, rfl⟩

/-- Whatever is on the shelves stays whole on the course. -/
def Preserves (budget : Nat) (course : Course α) : Prop :=
  ∀ ⦃record : List (Event service)⦄ ⦃before after : Shelves⦄ ⦃events : List (Event service)⦄
    ⦃outcome : Except CallError α⦄, course before events outcome after →
      Whole budget record before → Whole budget (record ++ events) after

theorem preserves_value (result : α) : Preserves budget (.value result) := by
  rintro record before after events outcome ⟨rfl, rfl, rfl⟩ whole
  exact whole.append []

theorem preserves_outside (task : Task service CallError α) :
    Preserves budget (.outside task) := by
  rintro record before after events outcome ⟨told, rfl, reaches, rfl⟩ whole
  exact whole.append _

theorem preserves_andThen {first : Course α} {next : α → Course β}
    (begun : Preserves budget first) (ended : ∀ result, Preserves budget (next result)) :
    Preserves budget (first.andThen next) := by
  rintro record before after events outcome
    (⟨cause, rfl, failed⟩ | ⟨earlier, result, later, middle, rfl, ran, rest⟩) whole
  · exact begun failed whole
  · rw [← List.append_assoc]
    exact ended result rest (begun ran whole)

variable {plan : Plan}

theorem preserves_listing : Preserves plan.patience.maxRetries (listingCourse plan) :=
  fun _ _ _ _ _ course whole => (listed_of_course course).whole whole

theorem preserves_index : Preserves plan.patience.maxRetries (indexCourse plan) :=
  fun _ _ _ _ _ course whole => (indexed_of_course course).whole whole

theorem preserves_amount (row : Option Row) :
    Preserves plan.patience.maxRetries (amountCourse plan row) := by
  cases row with
  | none => exact preserves_value none
  | some row => exact preserves_andThen (preserves_outside _) fun _ => preserves_value _

theorem preserves_request (request : Request) :
    Preserves plan.patience.maxRetries (request.course plan) := by
  cases request with
  | listVaults => exact preserves_andThen preserves_listing fun _ => preserves_value _
  | addressIndex => exact preserves_andThen preserves_index fun _ => preserves_value _
  | resolve address =>
      refine preserves_andThen ?_ fun _ => preserves_value _
      exact preserves_andThen preserves_index fun _ => preserves_value _
  | balance deposit token =>
      refine preserves_andThen ?_ fun _ => preserves_value _
      exact preserves_andThen preserves_index fun rows => preserves_amount _
  | invalidate =>
      rintro record before after events outcome ⟨rfl, rfl, rfl⟩ whole
      exact whole_empty
  | call c => exact preserves_andThen (preserves_outside _) fun _ => preserves_value _

/-! ## Every reachable directory -/

/-- The states of a directory that is asked one query after another, with its record: it is opened
with empty shelves, between two queries all but its shelves may change, and a query runs to its
end. -/
inductive Reached {σ : Type} (host : Host service σ) (clock : σ → Int × σ) (plan : Plan) :
    (σ × List (Event service)) × Shelves → Prop where
  | opened (state : σ) : Reached host clock plan ((state, []), Shelves.empty)
  | meanwhile {state : σ} {record : List (Event service)} {shelves : Shelves} (later : σ)
      (reached : Reached host clock plan ((state, record), shelves)) :
      Reached host clock plan ((later, record), shelves)
  | asked {before after : (σ × List (Event service)) × Shelves}
      {outcome : Except CallError Response} (request : Request)
      (reached : Reached host clock plan before)
      (run : (request.perform plan).run.run (recording host clock plan.terms) before =
        (some outcome, after)) : Reached host clock plan after

/-- What is on the shelves of a directory is whole, whatever became of the queries before. -/
theorem Reached.whole {σ : Type} {host : Host service σ} {clock : σ → Int × σ}
    {state : (σ × List (Event service)) × Shelves} (reached : Reached host clock plan state) :
    Whole plan.patience.maxRetries state.1.2 state.2 := by
  induction reached with
  | opened state => exact whole_empty
  | meanwhile later reached ih => exact ih
  | asked request reached run ih =>
      obtain ⟨events, grown, course⟩ := follows_perform host clock plan request run
      rw [grown]
      exact preserves_request request course ih

end DepositDirectory.Directory
