import DepositDirectory.Proofs.Directory.Flattening
import DepositDirectory.Proofs.Directory.Record

/-!
# Where listings and indexes come from

Whatever the traffic, a listing that is put on its shelf was drained by the query that puts it
there, and an index was built by the query that puts it there from one listing that this query had
come by.  All that the service told for it stands in one piece in what the query was told.  What is
served was put on the shelf in this way before.
-/

namespace DepositDirectory.Directory

open Cache (Entry)
open Custody (AssetBalance Call CallError VaultAccount VaultPage service)
open Custody.LogicalCall (exchanges)
open Dialogue (Asks Reaches)
open Listing (Drain)

variable {plan : Plan} {start : Int} {turns : List Turn} {traffic : Traffic} {request : Request}
  {told : List Told} {vaults : List VaultAccount} {rows : List Row}
  {outcome : Except CallError Response}

/-! ## Drainings and buildings -/

/-- How a listing was drained, by the record: a query was told all pages of one drain in one piece,
and then it put the listing on its shelf. -/
structure Draining (plan : Plan) (record : List Notice) (vaults : List VaultAccount) where
  query : Nat
  drain : Drain VaultPage
  answers : List Notice
  finished : Int
  obeys : drain.Obeys vaultListing plan.patience.maxRetries
  comes : vaultsOf drain = .ok vaults
  answered : answers.map Notice.exchange = ((vaultCalls drain).flatMap exchanges).map abroad
  told : ∃ earlier later, noticesOf query record =
    earlier ++ (answers ++ ⟨query, finished, listingKept vaults⟩ :: later)

/-- The notice that a drained listing was put on its shelf. -/
def Draining.kept {record : List Notice} (draining : Draining plan record vaults) : Notice :=
  ⟨draining.query, draining.finished, listingKept vaults⟩

/-- How an index was built, by the record: a query was not served an index, came by a listing,
looked up every holding of it, and put the index on its shelf. -/
structure Building (plan : Plan) (record : List Notice) (rows : List Row) where
  query : Nat
  begun : Int
  listing : List Notice
  vaults : List VaultAccount
  lookups : List Lookup
  answers : List Notice
  finished : Int
  listed : ListingTells plan (listing.map Notice.exchange) (.ok vaults)
  lookedUp : LookedUp plan.patience.maxRetries (holdings vaults) lookups
  flat : rows = lookups.flatMap Lookup.rows
  answered : answers.map Notice.exchange =
    ((lookups.flatMap Lookup.calls).flatMap exchanges).map abroad
  told : ∃ later, noticesOf query record =
    ⟨query, begun, indexRefused⟩ ::
      (listing ++ (answers ++ ⟨query, finished, indexKept rows⟩ :: later))

def Building.kept {record : List Notice} (building : Building plan record rows) : Notice :=
  ⟨building.query, building.finished, indexKept rows⟩

/-! ## What is put on a shelf -/

theorem QueryAsks.keep_listing (asks : QueryAsks plan request told (.vaults (.keep vaults))) :
    ∃ looks drained, told = looks ++ listingRefused :: drained.map abroad ∧
      Reaches (fetchVaults plan.patience plan.allowance).run drained (.ok vaults) := by
  have fetched {listed : List Told} (asks : ListingAsks plan listed (.vaults (.keep vaults))) :
      ∃ drained, listed = listingRefused :: drained.map abroad ∧
        Reaches (fetchVaults plan.patience plan.allowance).run drained (.ok vaults) := by
    cases asks with
    | keep reaches => exact ⟨_, rfl, reaches⟩
  cases asks with
  | listing asks =>
      obtain ⟨drained, rfl, reaches⟩ := fetched asks
      exact ⟨[], drained, rfl, reaches⟩
  | index uses asks =>
      cases asks with
      | listing asks =>
          obtain ⟨drained, rfl, reaches⟩ := fetched asks
          exact ⟨[indexRefused], drained, rfl, reaches⟩

theorem QueryAsks.keep_index (asks : QueryAsks plan request told (.index (.keep rows))) :
    ∃ listed vaults looked, told = indexRefused :: (listed ++ looked.map abroad) ∧
      ListingTells plan listed (.ok vaults) ∧
      Reaches (buildIndex plan.patience vaults).run looked (.ok rows) := by
  cases asks with
  | listing asks => cases asks
  | index uses asks =>
      cases asks with
      | listing asks => cases asks
      | keep tells built => exact ⟨_, _, _, rfl, tells, built⟩

theorem queryAsks_of_run (possible : Traffic.run plan start turns = some traffic)
    {before after : List Notice} {notice : Notice}
    (split : traffic.record = before ++ notice :: after) :
    ∃ errand, traffic.errands[notice.query]? = some errand ∧
      QueryAsks plan errand.request (toldOf notice.query before) notice.exchange.question := by
  obtain ⟨errand, known, asks⟩ := (Traffic.traced_of_run possible).asked split
  exact ⟨errand, known, queryAsks_of_asks asks⟩

theorem exists_draining (possible : Traffic.run plan start turns = some traffic)
    {before after : List Notice} {query : Nat} {time : Int}
    (split : traffic.record = before ++ ⟨query, time, listingKept vaults⟩ :: after) :
    ∃ draining : Draining plan traffic.record vaults,
      draining.kept = ⟨query, time, listingKept vaults⟩ := by
  obtain ⟨errand, _, asks⟩ := queryAsks_of_run possible split
  obtain ⟨looks, drained, told, reaches⟩ := asks.keep_listing
  obtain ⟨drain, obeys, rfl, comes⟩ := reaches_fetchVaults reaches
  obtain ⟨earlier, _, own, _, refusal⟩ := List.map_eq_append_iff.mp told
  obtain ⟨refused, answers, rfl, _, answered⟩ := List.map_eq_cons_iff.mp refusal
  refine ⟨⟨query, drain, answers, time, obeys, comes.symm, answered, ?_⟩, rfl⟩
  refine ⟨earlier ++ [refused], noticesOf query after, ?_⟩
  have whole := noticesOf_split before after ⟨query, time, listingKept vaults⟩
  rw [← split] at whole
  rw [own, List.append_assoc] at whole
  rw [List.append_assoc]
  exact whole

theorem exists_building (possible : Traffic.run plan start turns = some traffic)
    {before after : List Notice} {query : Nat} {time : Int}
    (split : traffic.record = before ++ ⟨query, time, indexKept rows⟩ :: after) :
    ∃ building : Building plan traffic.record rows,
      building.kept = ⟨query, time, indexKept rows⟩ := by
  obtain ⟨errand, _, asks⟩ := queryAsks_of_run possible split
  obtain ⟨listed, vaults, looked, told, tells, built⟩ := asks.keep_index
  obtain ⟨lookups, lookedUp, rfl, flat⟩ := reaches_buildIndex_iff.mp built
  obtain ⟨refused, rest, own, first, others⟩ := List.map_eq_cons_iff.mp told
  obtain ⟨listing, answers, rfl, rfl, answered⟩ := List.map_eq_append_iff.mp others
  have among : refused ∈ noticesOf query before := by
    rw [own]
    exact List.mem_cons_self
  have mine := (mem_noticesOf_iff.mp among).2
  refine ⟨⟨query, refused.time, listing, vaults, lookups, answers, time, tells, lookedUp, flat,
    answered, noticesOf query after, ?_⟩, rfl⟩
  have whole := noticesOf_split before after ⟨query, time, indexKept rows⟩
  rw [← split] at whole
  have refusal : refused = ⟨query, refused.time, indexRefused⟩ := by
    rw [← mine, ← first]
  rw [own, List.cons_append, List.append_assoc, refusal] at whole
  exact whole

/-! ## What is used -/

/-- The query has come by the listing: it was served, or has been drained and put on the shelf. -/
inductive UsesListing : Told → List VaultAccount → Prop where
  | served (vaults : List VaultAccount) (age : Int) : UsesListing (listingServed vaults age) vaults
  | kept (vaults : List VaultAccount) : UsesListing (listingKept vaults) vaults

/-- The query has come by the index: it was served, or has been built and put on the shelf. -/
inductive UsesIndex : Told → List Row → Prop where
  | served (rows : List Row) (age : Int) : UsesIndex (indexServed rows age) rows
  | kept (rows : List Row) : UsesIndex (indexKept rows) rows

/-- How the value of a notice was come by: it was put on its shelf just then; or it was put there
earlier, was still there, and was of an age at which the policy serves. -/
inductive ComesBy {α : Type} (view : ShelfView α) (terms : Cache.Terms) (record : List Notice)
    (kept notice : Notice) : Prop where
  | kept (own : notice = kept)
  | served {earlier between after : List Notice}
      (split : record = earlier ++ kept :: (between ++ notice :: after))
      (untouched : ∀ other ∈ between, view.Leaves other.exchange)
      (serves : terms.policy.refreshes (notice.time - kept.time) terms.ttl = false)

theorem comesBy_of_served {α : Type} (view : ShelfView α)
    (possible : Traffic.run plan start turns = some traffic) {before after : List Notice}
    {notice : Notice} {value : α} {age : Int} (split : traffic.record = before ++ notice :: after)
    (seen : view.deed? notice.exchange = some (.looked (.serve value age))) :
    ∃ keeper finished earlier since,
      traffic.record = earlier ++ ⟨keeper, finished, view.kept value⟩ :: since ∧
        ComesBy view plan.terms traffic.record ⟨keeper, finished, view.kept value⟩ notice := by
  have served := (Traffic.stocked_of_run view possible).looked split seen
  rcases Cache.consult_cases plan.terms (view.held before) notice.time with
    refused | ⟨entry, held, serves, decided⟩
  · cases served.trans refused
  · cases served.trans decided
    obtain ⟨earlier, keeper, between, rfl, untouched⟩ := ShelfView.put_of_held held
    rw [List.append_assoc, List.cons_append] at split
    exact ⟨keeper, entry.producedAt, earlier, _, split, .served split untouched serves⟩

/-! ## What a query comes by on its way -/

theorem ListingTells.uses (tells : ListingTells plan told (.ok vaults)) :
    ∃ used ∈ told, UsesListing used vaults := by
  cases tells with
  | served _ age => exact ⟨_, List.mem_singleton.mpr rfl, .served vaults age⟩
  | drained fetched =>
      refine ⟨listingKept vaults, ?_, .kept vaults⟩
      exact List.mem_cons_of_mem _ (List.mem_append_right _ (List.mem_singleton.mpr rfl))

theorem IndexTells.uses (tells : IndexTells plan told (.ok rows)) :
    ∃ used ∈ told, UsesIndex used rows := by
  cases tells with
  | served _ age => exact ⟨_, List.mem_singleton.mpr rfl, .served rows age⟩
  | built tells built =>
      refine ⟨indexKept rows, ?_, .kept rows⟩
      refine List.mem_cons_of_mem _ (List.mem_append_right _ (List.mem_append_right _ ?_))
      exact List.mem_singleton.mpr rfl

/-! ## What stands behind a listing and an index -/

def HasDraining (plan : Plan) (record : List Notice) (vaults : List VaultAccount)
    (notice : Notice) : Prop :=
  ∃ draining : Draining plan record vaults,
    ComesBy listingView plan.terms record draining.kept notice

/-- One building stands behind the index that a notice uses, and one draining behind the listing
that it was built from. -/
def HasBuilding (plan : Plan) (record : List Notice) (rows : List Row) (notice : Notice) : Prop :=
  ∃ building : Building plan record rows,
    ComesBy indexView plan.terms record building.kept notice ∧
      ∃ used ∈ building.listing, HasDraining plan record building.vaults used

theorem hasDraining_of_usesListing (possible : Traffic.run plan start turns = some traffic)
    {notice : Notice} (member : notice ∈ traffic.record)
    (uses : UsesListing notice.exchange vaults) :
    HasDraining plan traffic.record vaults notice := by
  obtain ⟨before, after, split⟩ := List.append_of_mem member
  obtain ⟨query, time, exchange⟩ := notice
  cases uses with
  | kept =>
      obtain ⟨draining, kept⟩ := exists_draining possible split
      exact ⟨draining, .kept kept.symm⟩
  | served _ age =>
      obtain ⟨_, _, _, _, put, comes⟩ := comesBy_of_served listingView possible split rfl
      obtain ⟨draining, kept⟩ := exists_draining possible put
      exact ⟨draining, kept ▸ comes⟩

theorem Building.mem_of_mem_listing {record : List Notice} (building : Building plan record rows)
    {used : Notice} (among : used ∈ building.listing) :
    used ∈ record ∧ used.query = building.query := by
  obtain ⟨later, own⟩ := building.told
  refine mem_noticesOf_iff.mp ?_
  rw [own]
  exact List.mem_cons_of_mem _ (List.mem_append_left _ among)

theorem Building.rests (building : Building plan traffic.record rows)
    (possible : Traffic.run plan start turns = some traffic) :
    ∃ used ∈ building.listing, HasDraining plan traffic.record building.vaults used := by
  obtain ⟨_, member, uses⟩ := building.listed.uses
  obtain ⟨used, among, rfl⟩ := List.mem_map.mp member
  have member := (building.mem_of_mem_listing among).1
  exact ⟨used, among, hasDraining_of_usesListing possible member uses⟩

theorem hasBuilding_of_usesIndex (possible : Traffic.run plan start turns = some traffic)
    {notice : Notice} (member : notice ∈ traffic.record)
    (uses : UsesIndex notice.exchange rows) : HasBuilding plan traffic.record rows notice := by
  obtain ⟨before, after, split⟩ := List.append_of_mem member
  obtain ⟨query, time, exchange⟩ := notice
  cases uses with
  | kept =>
      obtain ⟨building, kept⟩ := exists_building possible split
      exact ⟨building, .kept kept.symm, building.rests possible⟩
  | served _ age =>
      obtain ⟨_, _, _, _, put, comes⟩ := comesBy_of_served indexView possible split rfl
      obtain ⟨building, kept⟩ := exists_building possible put
      exact ⟨building, kept ▸ comes, building.rests possible⟩

/-! ## What an answer rests on -/

/-- What a query was told contains all that its response rests on: one listing, or one index, or
the answer of the service itself. -/
inductive Sourced (told : List Told) : Request → Response → Prop where
  | vaults {used : Told} {vaults : List VaultAccount} (member : used ∈ told)
      (uses : UsesListing used vaults) : Sourced told .listVaults (.vaults vaults)
  | rows {used : Told} {rows : List Row} (member : used ∈ told) (uses : UsesIndex used rows) :
      Sourced told .addressIndex (.rows rows)
  | owner {used : Told} {rows : List Row} {address : String} (member : used ∈ told)
      (uses : UsesIndex used rows) :
      Sourced told (.resolve address) (.found (ownerOf rows address))
  | unheld {used : Told} {rows : List Row} {deposit token : String} (member : used ∈ told)
      (uses : UsesIndex used rows) (absent : rowOfToken rows token = none) :
      Sourced told (.balance deposit token) (.found none)
  | amount {used : Told} {rows : List Row} {deposit token : String} {row : Row}
      {amounts : AssetBalance} (member : used ∈ told) (uses : UsesIndex used rows)
      (found : rowOfToken rows token = some row)
      (answered : abroad
        (Custody.answered (.assetBalance row.vaultId row.assetId) (.ok amounts)) ∈ told) :
      Sourced told (.balance deposit token) (.found (some amounts.available))
  | invalidated : Sourced told .invalidate .invalidated
  | called {c : Call} {result : c.Result}
      (answered : abroad (Custody.answered c (.ok result)) ∈ told) :
      Sourced told (.call c) (.ofCall c result)

theorem answered_mem_exchanges (c : Call) (tries : Tries c.Result) :
    Custody.answered c tries.outcome ∈ exchanges ⟨c, tries⟩ :=
  List.mem_map_of_mem (List.mem_append_right _ (List.mem_singleton.mpr rfl))

theorem QueryTells.sourced {response : Response} (tells : QueryTells plan request told outcome)
    (succeeds : outcome = .ok response) : Sourced told request response := by
  cases tells with
  | listing tells =>
      rename_i reached
      cases reached with
      | error cause => cases succeeds
      | ok vaults =>
          cases succeeds
          obtain ⟨used, member, uses⟩ := tells.uses
          exact .vaults member uses
  | index tells =>
      rename_i reached
      cases reached with
      | error cause => cases succeeds
      | ok rows =>
          cases succeeds
          obtain ⟨used, member, uses⟩ := tells.uses
          exact .rows member uses
  | owner tells =>
      rename_i reached
      cases reached with
      | error cause => cases succeeds
      | ok rows =>
          cases succeeds
          obtain ⟨used, member, uses⟩ := tells.uses
          exact .owner member uses
  | unindexed tells => cases succeeds
  | unheld tells absent =>
      cases succeeds
      obtain ⟨used, member, uses⟩ := tells.uses
      exact .unheld member uses absent
  | @amount _ _ _ _ row tries tells found within =>
      obtain ⟨hints, outcome⟩ := tries
      cases outcome with
      | error cause => cases succeeds
      | ok amounts =>
          cases succeeds
          obtain ⟨used, member, uses⟩ := tells.uses
          refine .amount (List.mem_append_left _ member) uses found (List.mem_append_right _ ?_)
          exact List.mem_map_of_mem
            (answered_mem_exchanges (.assetBalance row.vaultId row.assetId) ⟨hints, .ok amounts⟩)
  | dropped =>
      cases succeeds
      exact .invalidated
  | call outcome =>
      cases outcome with
      | error cause => cases succeeds
      | ok result =>
          cases succeeds
          exact .called (List.mem_singleton.mpr rfl)

theorem queryTells_of_run (possible : Traffic.run plan start turns = some traffic) {query : Nat}
    (ended : traffic.errands[query]? = some ⟨request, .done outcome⟩) :
    QueryTells plan request (toldOf query traffic.record) outcome :=
  queryTells_of_reaches (Dialogue.leads_done_iff.mp ((Traffic.traced_of_run possible).leads ended))

end DepositDirectory.Directory
