import DepositDirectory.Proofs.Directory.Provenance

/-!
# What follows an invalidation

A query for the index that comes right after the shelves were emptied finds nothing there.  So it
drains the whole listing from its first page on and looks up every holding of it, unless a call is
given up on the way.
-/

namespace DepositDirectory.Directory

open Custody (AccountFor CallError LogicalCall VaultAccount VaultPage service)
open Custody.LogicalCall (exchanges)
open Dialogue (Reaches)
open Listing (Drain)

variable {α : Type} {plan : Plan} {start : Int} {turns : List Turn} {traffic : Traffic}
  {request : Request} {told : List Told} {outcome : Except CallError Response}

/-! ## Looks at a shelf -/

/-- A query looks at a shelf first of all that it does there, and puts nothing there unless it was
refused. -/
structure Governed (view : ShelfView α) : Prop where
  looksFirst : ∀ {plan request told verdict} {deed : Told},
    QueryAsks plan request told deed.question → view.deed? deed = some (.looked verdict) →
      ∀ other ∈ told, view.deed? other = none
  keepsRefused : ∀ {plan request told value} {deed : Told},
    QueryAsks plan request told deed.question → view.deed? deed = some (.kept value) →
      ∃ other ∈ told, view.deed? other = some (.looked .refresh)

theorem governed_listing : Governed listingView where
  looksFirst := by
    intro plan request told verdict deed asks seen
    obtain ⟨call | (_ | vaults | _) | ask, reply⟩ := deed <;> cases seen
    intro other member
    cases asks with
    | listing asks =>
        cases asks
        cases member
    | index uses asks =>
        cases asks with
        | listing asks =>
            cases asks
            cases List.mem_singleton.mp member
            rfl
  keepsRefused := by
    intro plan request told value deed asks seen
    obtain ⟨call | (_ | vaults | _) | ask, reply⟩ := deed <;> cases seen
    obtain ⟨looks, drained, rfl, _⟩ := QueryAsks.keep_listing asks
    exact ⟨listingRefused, List.mem_append_right looks List.mem_cons_self, rfl⟩

theorem governed_index : Governed indexView where
  looksFirst := by
    intro plan request told verdict deed asks seen
    obtain ⟨call | ask | (_ | rows | _), reply⟩ := deed <;> cases seen
    intro other member
    cases asks with
    | listing asks => cases asks
    | index uses asks =>
        cases asks with
        | look => cases member
        | listing asks => cases asks
  keepsRefused := by
    intro plan request told value deed asks seen
    obtain ⟨call | ask | (_ | rows | _), reply⟩ := deed <;> cases seen
    obtain ⟨listed, vaults, looked, rfl, _⟩ := QueryAsks.keep_index asks
    exact ⟨indexRefused, List.mem_cons_self, rfl⟩

/-! ## Making everything anew -/

/-- What a query for the index was told that made everything anew: it was refused both values, and a
complete drain from the first page on and then the lookups of all holdings were answered, or one of
these calls was given up. -/
inductive Renewed (plan : Plan) : List Told → Prop where
  | undrained {drain : Drain VaultPage} {cause : CallError}
      (obeys : drain.Obeys vaultListing plan.patience.maxRetries)
      (gaveUp : ∃ logical ∈ vaultCalls drain, logical.GivenUp plan.patience.maxRetries cause) :
      Renewed plan
        (indexRefused :: listingRefused :: ((vaultCalls drain).flatMap exchanges).map abroad)
  | unbuilt {drain : Drain VaultPage} {vaults : List VaultAccount} {lookups : List LogicalCall}
      {cause : CallError} (obeys : drain.Obeys vaultListing plan.patience.maxRetries)
      (comes : vaultsOf drain = .ok vaults)
      (gaveUp : ∃ logical ∈ lookups, logical.GivenUp plan.patience.maxRetries cause) :
      Renewed plan
        (indexRefused :: listingRefused :: (((vaultCalls drain).flatMap exchanges).map abroad ++
          listingKept vaults :: (lookups.flatMap exchanges).map abroad))
  | built {drain : Drain VaultPage} {vaults : List VaultAccount} {lookups : List Lookup}
      {later : List Told} (obeys : drain.Obeys vaultListing plan.patience.maxRetries)
      (comes : vaultsOf drain = .ok vaults)
      (lookedUp : LookedUp plan.patience.maxRetries (holdings vaults) lookups) :
      Renewed plan
        (indexRefused :: listingRefused :: (((vaultCalls drain).flatMap exchanges).map abroad ++
          listingKept vaults :: (((lookups.flatMap Lookup.calls).flatMap exchanges).map abroad ++
            indexKept (lookups.flatMap Lookup.rows) :: later)))

theorem QueryAsks.drop_listing (asks : QueryAsks plan request told (.vaults .forget)) :
    request = .invalidate := by
  cases asks with
  | listing asks => cases asks
  | index _ asks => cases asks with | listing asks => cases asks
  | dropListing => rfl

theorem exists_givenUp {budget : Nat} {logicals : List LogicalCall} {cause : CallError}
    (accounted : AccountFor budget logicals (.error cause : Except CallError α)) :
    ∃ logical ∈ logicals, logical.GivenUp budget cause := by
  obtain ⟨made, last, rfl, _, gaveUp⟩ := accounted
  exact ⟨last, List.mem_append_right _ (List.mem_singleton.mpr rfl), gaveUp⟩

theorem QueryTells.indexed (tells : QueryTells plan request told outcome)
    (uses : request.usesIndex = true) :
    ∃ indexed result more, told = indexed ++ more ∧ IndexTells plan indexed result ∧
      ((∃ cause, result = .error cause) → more = []) := by
  cases tells with
  | listing tells => cases uses
  | index tells => exact ⟨_, _, [], (List.append_nil _).symm, tells, fun _ => rfl⟩
  | owner tells => exact ⟨_, _, [], (List.append_nil _).symm, tells, fun _ => rfl⟩
  | unindexed tells => exact ⟨_, _, [], (List.append_nil _).symm, tells, fun _ => rfl⟩
  | unheld tells absent => exact ⟨_, _, [], (List.append_nil _).symm, tells, fun _ => rfl⟩
  | amount tells found within =>
      exact ⟨_, _, _, rfl, tells, fun ⟨_, impossible⟩ => nomatch impossible⟩
  | dropped => cases uses
  | call outcome => cases uses

theorem QueryTells.renewed (tells : QueryTells plan request told outcome)
    (uses : request.usesIndex = true)
    (unlisted : ∀ vaults age, listingServed vaults age ∉ told)
    (unindexed : ∀ rows age, indexServed rows age ∉ told) : Renewed plan told := by
  obtain ⟨indexed, result, more, rfl, indexes, ends⟩ := tells.indexed uses
  cases indexes with
  | served rows age => exact absurd List.mem_cons_self (unindexed rows age)
  | unlisted lists =>
      rw [ends ⟨_, rfl⟩, List.append_nil]
      cases lists with
      | failed fails =>
          obtain ⟨drain, obeys, rfl, same⟩ := reaches_fetchVaults fails
          have accounted := accountFor_drain obeys
          rw [← same] at accounted
          exact .undrained obeys (exists_givenUp accounted)
  | @unbuilt listed vaults looked cause lists fails =>
      rw [ends ⟨_, rfl⟩, List.append_nil]
      cases lists with
      | served _ age =>
          refine absurd (List.mem_append_left _ ?_) (unlisted vaults age)
          exact List.mem_cons_of_mem _ List.mem_cons_self
      | drained fetched =>
          obtain ⟨drain, obeys, rfl, comes⟩ := reaches_fetchVaults fetched
          obtain ⟨lookups, _, _, rfl, accounted⟩ := orderly_buildIndex _ _ _ fails
          rw [List.cons_append, List.append_assoc, List.singleton_append]
          exact .unbuilt obeys comes.symm (exists_givenUp accounted)
  | @built listed vaults looked rows lists built =>
      cases lists with
      | served _ age =>
          refine absurd (List.mem_append_left _ ?_) (unlisted vaults age)
          exact List.mem_cons_of_mem _ List.mem_cons_self
      | drained fetched =>
          obtain ⟨drain, obeys, rfl, comes⟩ := reaches_fetchVaults fetched
          obtain ⟨lookups, lookedUp, rfl, rfl⟩ := reaches_buildIndex_iff.mp built
          simp only [List.cons_append, List.append_assoc, List.nil_append]
          exact .built obeys comes.symm lookedUp

section

variable (possible : Traffic.run plan start turns = some traffic)
  (orderly : OneByOne traffic.record)
include possible orderly

/-- Nothing is served from a shelf that was empty when the query came, if queries are made one after
another. -/
theorem not_served_of_empty {view : ShelfView α} (governed : Governed view)
    {before after : List Notice} {first : Notice}
    (split : traffic.record = before ++ first :: after) (empty : view.held before = none) :
    ∀ told ∈ toldOf first.query (first :: after), ∀ value age,
      view.deed? told ≠ some (.looked (.serve value age)) := by
  intro told member value age served
  obtain ⟨notice, place, own, rfl⟩ := exists_notice member
  obtain ⟨middle, rest, same⟩ := List.append_of_mem place
  have there : traffic.record = (before ++ middle) ++ notice :: rest := by
    rw [split, same, List.append_assoc]
  have mine (other : Notice) (among : other ∈ middle) : other.query = notice.query := by
    refine Nat.le_antisymm ((orderly.at there).1 other (List.mem_append_right _ among)) ?_
    rw [own]
    cases middle with
    | nil => cases among
    | cons head tail =>
        cases same
        rcases List.mem_cons.mp among with rfl | further
        · exact Nat.le_refl _
        · exact (orderly.at split).2 other (List.mem_append_left _ further)
  have held : view.held (before ++ middle) = none := by
    refine (view.held_append before fun other among => ?_).trans empty
    obtain ⟨errand, _, asks⟩ := queryAsks_of_run possible there
    have silent := governed.looksFirst asks served other.exchange (List.mem_map_of_mem
      (mem_noticesOf_iff.mpr ⟨List.mem_append_right _ among, mine other among⟩))
    exact ⟨by simp [silent], by simp [silent]⟩
  have law := (Traffic.stocked_of_run view possible).looked there served
  rw [held] at law
  cases law

theorem renewed_of_dropped {before after : List Notice} {keeper : Nat} {early late : Int}
    {first : Notice}
    (split : traffic.record = before ++ ⟨keeper, early, listingDropped⟩ ::
      ⟨keeper, late, indexDropped⟩ :: first :: after)
    (uses : request.usesIndex = true)
    (ended : traffic.errands[first.query]? = some ⟨request, .done outcome⟩) :
    Renewed plan (toldOf first.query traffic.record) := by
  let past : List Notice :=
    (before ++ [⟨keeper, early, listingDropped⟩]) ++ [⟨keeper, late, indexDropped⟩]
  have place : traffic.record = past ++ first :: after := by
    rw [split, List.append_assoc, List.append_assoc]
    rfl
  -- The one who emptied the shelves wanted no index, so the next query came after him.
  have other : keeper ≠ first.query := by
    rintro rfl
    obtain ⟨errand, known, asks⟩ := queryAsks_of_run possible split
    cases known.symm.trans ended
    rw [show request = .invalidate from asks.drop_listing] at uses
    cases uses
  have bound := (orderly.at split).2 first (List.mem_cons_of_mem _ List.mem_cons_self)
  have silent : toldOf first.query past = [] := by
    refine toldOf_eq_nil fun notice member same => ?_
    rcases List.mem_append.mp member with member | last
    · rcases List.mem_append.mp member with past | emptied
      · have earlier := (orderly.at split).1 notice past
        rw [same] at earlier
        exact other (Nat.le_antisymm bound earlier)
      · cases List.mem_singleton.mp emptied
        exact other same
    · cases List.mem_singleton.mp last
      exact other same
  have told : toldOf first.query traffic.record = toldOf first.query (first :: after) := by
    rw [place, toldOf_append, silent, List.nil_append]
  have noListing : listingView.held past = none := by
    rw [ShelfView.held_concat, ShelfView.held_concat]
    rfl
  have noIndex : indexView.held past = none := by
    rw [ShelfView.held_concat]
    rfl
  refine (queryTells_of_run possible ended).renewed uses ?_ ?_
  · intro vaults age served
    rw [told] at served
    exact not_served_of_empty possible orderly governed_listing place noListing _ served _ _ rfl
  · intro rows age served
    rw [told] at served
    exact not_served_of_empty possible orderly governed_index place noIndex _ served _ _ rfl

end

end DepositDirectory.Directory
