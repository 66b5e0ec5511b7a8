import DepositDirectory.Proofs.Directory.Failure
import DepositDirectory.Proofs.Directory.Renewal

/-!
# What is served once is served for ever

While old values are served, the clock never moves backwards, queries are made one after another and
the shelves are not emptied, a value that has been served only grows older.  So every later look at
its shelf is served the same value, nobody is refused there any more, and nobody goes on to what
follows a refusal: no page of the listing is asked for again, or no holding is looked up again.
-/

namespace DepositDirectory.Directory

open Custody (Call CallError VaultAccount)
open Traffic (Steady)

variable {α : Type} {plan : Plan} {start : Int} {turns : List Turn} {traffic : Traffic}

/-! ## A value that was served -/

def ShelfView.Still (view : ShelfView α) (value : α) (told : Told) : Prop :=
  ∀ deed, view.deed? told = some deed → ∃ age, deed = .looked (.serve value age)

theorem ShelfView.Still.leaves {view : ShelfView α} {value : α} {told : Told}
    (still : view.Still value told) : view.Leaves told := by
  constructor
  · intro other seen
    obtain ⟨age, same⟩ := still _ seen
    cases same
  · intro seen
    obtain ⟨age, same⟩ := still _ seen
    cases same

theorem serves_older {terms : Cache.Terms} {held : Option (Cache.Entry α)} {now later age : Int}
    {value : α} (old : terms.policy = .withinTtl) (forward : now ≤ later)
    (serves : terms.consult held now = .serve value age) :
    ∃ age, terms.consult held later = .serve value age := by
  cases held with
  | none => cases serves
  | some entry =>
      simp only [Cache.Terms.consult, Cache.Terms.judge, old, Cache.RefreshPolicy.refreshes,
        decide_eq_true_eq] at serves ⊢
      split at serves
      · cases serves
      · cases serves
        rw [if_neg (by omega)]
        exact ⟨_, rfl⟩

section

variable {view : ShelfView α} {value : α} {age : Int} {before after : List Notice} {notice : Notice}
  (governed : Governed view) (possible : Traffic.run plan start turns = some traffic)
  (orderly : OneByOne traffic.record) (split : traffic.record = before ++ notice :: after)
  (served : view.deed? notice.exchange = some (.looked (.serve value age)))
include governed possible orderly split served

theorem deed_eq_none_of_earlier {earlier : Notice} (member : earlier ∈ before)
    (goesOn : notice.query ≤ earlier.query) : view.deed? earlier.exchange = none := by
  have same := Nat.le_antisymm ((orderly.at split).1 earlier member) goesOn
  obtain ⟨errand, _, asks⟩ := queryAsks_of_run possible split
  refine governed.looksFirst asks served _ (List.mem_map_of_mem ?_)
  exact mem_noticesOf_iff.mpr ⟨member, same⟩

variable (old : plan.terms.policy = .withinTtl) (steady : Steady turns)
  (undisturbed : ∀ later ∈ after, empties later.exchange = false)
include old steady undisturbed

theorem still_of_later {middle rest : List Notice} (further : after = middle ++ rest) :
    ∀ later ∈ middle, view.Still value later.exchange := by
  induction middle using List.reverseRecOn generalizing rest with
  | nil =>
      intro later member
      cases member
  | append_singleton middle last ih =>
      rw [List.append_assoc] at further
      have known := ih further
      have there : traffic.record = (before ++ notice :: middle) ++ last :: rest := by
        rw [split, further, List.append_assoc]
        rfl
      have inAfter : last ∈ after :=
        further ▸ List.mem_append_right _ (List.mem_append_left _ (List.mem_singleton.mpr rfl))
      intro later member
      rcases List.mem_append.mp member with earlier | final
      · exact known later earlier
      rw [List.mem_singleton.mp final]
      intro deed seen
      cases deed with
      | dropped => cases (undisturbed last inAfter).symm.trans (view.drops seen)
      | kept put =>
          -- Whoever puts something there was refused, but since the value was served nobody was.
          obtain ⟨errand, _, asks⟩ := queryAsks_of_run possible there
          obtain ⟨refused, told, sees⟩ := governed.keepsRefused asks seen
          obtain ⟨other, among, rfl⟩ := List.mem_map.mp told
          obtain ⟨place, own⟩ := mem_noticesOf_iff.mp among
          rcases List.mem_append.mp place with early | late
          · have goesOn := (orderly.at split).2 last inAfter
            rw [← own] at goesOn
            cases (deed_eq_none_of_earlier governed possible orderly split served early
              goesOn).symm.trans sees
          · rcases List.mem_cons.mp late with rfl | since
            · cases served.symm.trans sees
            · obtain ⟨_, same⟩ := known other since _ sees
              cases same
      | looked verdict =>
          have stocked := Traffic.stocked_of_run view possible
          have held : view.held (before ++ notice :: middle) = view.held before := by
            refine view.held_append before fun other member => ?_
            rcases List.mem_cons.mp member with rfl | since
            · exact ⟨by simp [served], by simp [served]⟩
            · exact (known other since).leaves
          have forward : notice.time ≤ last.time := by
            have sorted := (Traffic.chronological_of_run steady possible).sorted
            rw [split, List.pairwise_append, List.pairwise_cons] at sorted
            exact sorted.2.1.1 last inAfter
          obtain ⟨older, again⟩ := serves_older old forward (stocked.looked split served).symm
          refine ⟨older, ?_⟩
          rw [stocked.looked there seen, held, again]

theorem still_of_served {query : Nat} (onward : notice.query ≤ query) :
    ∀ told ∈ toldOf query traffic.record, view.Still value told := by
  intro told member
  obtain ⟨other, place, rfl, rfl⟩ := exists_notice member
  rw [split] at place
  rcases List.mem_append.mp place with early | late
  · intro deed seen
    cases (deed_eq_none_of_earlier governed possible orderly split served early
      onward).symm.trans seen
  · rcases List.mem_cons.mp late with rfl | since
    · intro deed seen
      cases served.symm.trans seen
      exact ⟨age, rfl⟩
    · exact still_of_later governed possible orderly split served old steady undisturbed
        (List.append_nil after).symm other since

/-- Whatever a query is told after a value was served, it and all that the query was told before are
still at the shelf. -/
theorem still_at {later : Notice} (member : later ∈ after) :
    view.Still value later.exchange ∧
      ∃ errand told, traffic.errands[later.query]? = some errand ∧
        QueryAsks plan errand.request told later.exchange.question ∧
          ∀ other ∈ told, view.Still value other := by
  have inRecord : later ∈ traffic.record :=
    split ▸ List.mem_append_right _ (List.mem_cons_of_mem _ member)
  have still := still_of_served governed possible orderly split served old steady undisturbed
    ((orderly.at split).2 later member)
  obtain ⟨early, late, place⟩ := List.append_of_mem inRecord
  obtain ⟨errand, known, asks⟩ := queryAsks_of_run possible place
  refine ⟨still _ (mem_toldOf inRecord), errand, _, known, asks, fun other told => still other ?_⟩
  rw [place, toldOf_append]
  exact List.mem_append_left _ told

end

/-! ## The listing -/

section

variable {request : Request} {told : List Told} {vaults : List VaultAccount} {rows : List Row}

/-- A page of the listing is asked for after a refusal only, but for calls past the directory. -/
theorem QueryAsks.page {call : Call} (asks : QueryAsks plan request told (.outside call))
    (page : call.asksForPage = true) : request = .call call ∨ listingRefused ∈ told := by
  cases asks with
  | listing asks =>
      cases asks with
      | page asks => exact Or.inr List.mem_cons_self
  | index uses asks =>
      cases asks with
      | listing asks =>
          cases asks with
          | page asks => exact Or.inr (List.mem_cons_of_mem _ List.mem_cons_self)
      | lookUp tells asks => cases (asksOnly_buildIndex _ _ _ asks).symm.trans page
  | amount tells found asks =>
      have other := asksOnly_execute (fun asked => asked.asksForPage = false) rfl _ _ asks
      cases other.symm.trans page
  | call c => exact Or.inl rfl

theorem ListingTells.eq_of_still {outcome : Except CallError (List VaultAccount)}
    (tells : ListingTells plan told outcome)
    (still : ∀ other ∈ told, listingView.Still vaults other) : outcome = .ok vaults := by
  cases tells with
  | served found age =>
      obtain ⟨_, same⟩ := still _ List.mem_cons_self _ rfl
      cases same
      rfl
  | failed fails =>
      obtain ⟨_, same⟩ := still _ List.mem_cons_self _ rfl
      cases same
  | drained fetched =>
      obtain ⟨_, same⟩ := still _ List.mem_cons_self _ rfl
      cases same

theorem UsesListing.eq_of_still {used : Told} {found : List VaultAccount}
    (uses : UsesListing used found) (still : listingView.Still vaults used) : found = vaults := by
  cases uses with
  | served found age =>
      obtain ⟨_, same⟩ := still _ rfl
      cases same
      rfl
  | kept found =>
      obtain ⟨_, same⟩ := still _ rfl
      cases same

/-- From the query on that was served the listing, nobody asks for a page, and all answers and all
indexes rest on this listing. -/
structure ListingFrozen (plan : Plan) (traffic : Traffic) (vaults : List VaultAccount)
    (query : Nat) (after : List Notice) : Prop where
  unasked : ∀ later ∈ after, ∀ call : Call, later.exchange.question = .outside call →
    call.asksForPage = true → ∃ errand, traffic.errands[later.query]? = some errand ∧
      errand.request = .call call
  used : ∀ later ∈ after, ∀ found, UsesListing later.exchange found → found = vaults
  answered : ∀ later outcome, query ≤ later →
    traffic.errands[later]? = some ⟨.listVaults, .done outcome⟩ → outcome = .ok (.vaults vaults)
  built : ∀ later ∈ after, ∀ rows, later.exchange = indexKept rows →
    ∃ building : Building plan traffic.record rows, building.kept = later ∧
      building.vaults = vaults

/-! ## The index -/

/-- An answer that is had from the rows alone, and, where there is a row of the token, from the one
logical call for the balance there. -/
inductive AnsweredFrom (plan : Plan) (rows : List Row) :
    List Told → Request → Except CallError Response → Prop where
  | rows (age : Int) :
      AnsweredFrom plan rows [indexServed rows age] .addressIndex (.ok (.rows rows))
  | owner (age : Int) (address : String) :
      AnsweredFrom plan rows [indexServed rows age] (.resolve address)
        (.ok (.found (ownerOf rows address)))
  | unheld (age : Int) {deposit token : String} (absent : rowOfToken rows token = none) :
      AnsweredFrom plan rows [indexServed rows age] (.balance deposit token) (.ok (.found none))
  | amount (age : Int) {deposit token : String} {row : Row} {tries : Tries Custody.AssetBalance}
      (found : rowOfToken rows token = some row) (within : tries.Within plan.patience.maxRetries) :
      AnsweredFrom plan rows
        (indexServed rows age ::
          (Custody.LogicalCall.exchanges ⟨.assetBalance row.vaultId row.assetId, tries⟩).map abroad)
        (.balance deposit token) (tries.outcome.map fun amounts => .found (some amounts.available))

theorem QueryAsks.call_of_usesIndex {call : Call} (uses : request.usesIndex = true)
    (asks : QueryAsks plan request told (.outside call)) :
    (∃ vaultId assetId, call = .assetBalance vaultId assetId) ∨ indexRefused ∈ told := by
  cases asks with
  | listing asks => cases uses
  | index _ asks =>
      cases asks with
      | listing asks => exact Or.inr List.mem_cons_self
      | lookUp tells asks => exact Or.inr List.mem_cons_self
  | @amount _ _ _ _ row _ _ tells found asks =>
      exact Or.inl ⟨row.vaultId, row.assetId,
        asksOnly_execute (· = .assetBalance row.vaultId row.assetId) rfl _ _ asks⟩
  | call c => cases uses

theorem IndexTells.eq_of_still {outcome : Except CallError (List Row)}
    (tells : IndexTells plan told outcome)
    (still : ∀ other ∈ told, indexView.Still rows other) :
    ∃ age, told = [indexServed rows age] ∧ outcome = .ok rows := by
  cases tells with
  | served found age =>
      obtain ⟨_, same⟩ := still _ List.mem_cons_self _ rfl
      cases same
      exact ⟨age, rfl, rfl⟩
  | unlisted tells =>
      obtain ⟨_, same⟩ := still _ List.mem_cons_self _ rfl
      cases same
  | unbuilt tells fails =>
      obtain ⟨_, same⟩ := still _ List.mem_cons_self _ rfl
      cases same
  | built tells built =>
      obtain ⟨_, same⟩ := still _ List.mem_cons_self _ rfl
      cases same

theorem UsesIndex.eq_of_still {used : Told} {found : List Row} (uses : UsesIndex used found)
    (still : indexView.Still rows used) : found = rows := by
  cases uses with
  | served found age =>
      obtain ⟨_, same⟩ := still _ rfl
      cases same
      rfl
  | kept found =>
      obtain ⟨_, same⟩ := still _ rfl
      cases same

theorem QueryTells.answeredFrom {outcome : Except CallError Response}
    (tells : QueryTells plan request told outcome) (uses : request.usesIndex = true)
    (still : ∀ other ∈ told, indexView.Still rows other) :
    AnsweredFrom plan rows told request outcome := by
  cases tells with
  | listing tells => cases uses
  | index tells =>
      obtain ⟨age, rfl, rfl⟩ := tells.eq_of_still still
      exact .rows age
  | owner tells =>
      obtain ⟨age, rfl, rfl⟩ := tells.eq_of_still still
      exact .owner age _
  | unindexed tells =>
      obtain ⟨age, _, same⟩ := tells.eq_of_still still
      cases same
  | unheld tells absent =>
      obtain ⟨age, rfl, same⟩ := tells.eq_of_still still
      cases same
      exact .unheld age absent
  | amount tells found within =>
      obtain ⟨age, rfl, same⟩ :=
        tells.eq_of_still fun other member => still other (List.mem_append_left _ member)
      cases same
      exact .amount age found within
  | dropped => cases uses
  | call outcome => cases uses

/-- From the query on that was served the index, every query for an index is answered from it and
makes no call but for a balance. -/
structure IndexFrozen (plan : Plan) (traffic : Traffic) (rows : List Row) (query : Nat)
    (after : List Notice) : Prop where
  unasked : ∀ later ∈ after, ∀ errand, traffic.errands[later.query]? = some errand →
    errand.request.usesIndex = true → ∀ call : Call, later.exchange.question = .outside call →
      ∃ vaultId assetId, call = .assetBalance vaultId assetId
  used : ∀ later ∈ after, ∀ found, UsesIndex later.exchange found → found = rows
  answered : ∀ later request outcome, query ≤ later →
    traffic.errands[later]? = some ⟨request, .done outcome⟩ → request.usesIndex = true →
      AnsweredFrom plan rows (toldOf later traffic.record) request outcome

end

/-! ## All that comes after -/

section

variable {before after : List Notice} {query : Nat} {time age : Int}
  (old : plan.terms.policy = .withinTtl) (steady : Steady turns)
  (possible : Traffic.run plan start turns = some traffic) (orderly : OneByOne traffic.record)
include old steady possible orderly

theorem listingFrozen_of_served {vaults : List VaultAccount}
    (split : traffic.record = before ++ ⟨query, time, listingServed vaults age⟩ :: after)
    (undisturbed : ∀ later ∈ after, empties later.exchange = false) :
    ListingFrozen plan traffic vaults query after := by
  have still {later : Nat} (onward : query ≤ later) :=
    still_of_served governed_listing possible orderly split rfl old steady undisturbed onward
  have at_later {later : Notice} (member : later ∈ after) :=
    still_at governed_listing possible orderly split rfl old steady undisturbed member
  refine ⟨?_, ?_, ?_, ?_⟩
  · intro later member call asked page
    obtain ⟨_, errand, told, known, asks, before⟩ := at_later member
    rw [asked] at asks
    rcases asks.page page with direct | refused
    · exact ⟨errand, known, direct⟩
    · obtain ⟨_, same⟩ := before _ refused _ rfl
      cases same
  · intro later member found uses
    exact uses.eq_of_still (at_later member).1
  · intro later outcome onward ended
    cases queryTells_of_run possible ended with
    | listing tells => rw [tells.eq_of_still (still onward), Except.map]
  · intro later member rows same
    have onward := (orderly.at split).2 later member
    obtain ⟨early, late, place⟩ := List.append_of_mem
      (split ▸ List.mem_append_right _ (List.mem_cons_of_mem _ member) : later ∈ traffic.record)
    obtain ⟨keeper, finished, exchange⟩ := later
    cases same
    obtain ⟨building, kept⟩ := exists_building possible place
    have mine : building.query = keeper := congrArg Notice.query kept
    refine ⟨building, kept, Except.ok.inj (building.listed.eq_of_still fun other told => ?_)⟩
    obtain ⟨used, among, rfl⟩ := List.mem_map.mp told
    obtain ⟨there, own⟩ := building.mem_of_mem_listing among
    refine still onward _ ?_
    rw [← mine, ← own]
    exact mem_toldOf there

theorem indexFrozen_of_served {rows : List Row}
    (split : traffic.record = before ++ ⟨query, time, indexServed rows age⟩ :: after)
    (undisturbed : ∀ later ∈ after, empties later.exchange = false) :
    IndexFrozen plan traffic rows query after := by
  have still {later : Nat} (onward : query ≤ later) :=
    still_of_served governed_index possible orderly split rfl old steady undisturbed onward
  have at_later {later : Notice} (member : later ∈ after) :=
    still_at governed_index possible orderly split rfl old steady undisturbed member
  refine ⟨?_, ?_, ?_⟩
  · intro later member errand known uses call asked
    obtain ⟨_, _, told, same, asks, before⟩ := at_later member
    cases known.symm.trans same
    rw [asked] at asks
    rcases asks.call_of_usesIndex uses with balance | refused
    · exact balance
    · obtain ⟨_, same⟩ := before _ refused _ rfl
      cases same
  · intro later member found uses
    exact uses.eq_of_still (at_later member).1
  · intro later request outcome onward ended uses
    exact (queryTells_of_run possible ended).answeredFrom uses (still onward)

/-- Values that were served are frozen until the shelves are emptied, each on its own; and the query
for the index that comes right after that makes everything anew. -/
theorem frozen_of_run :
    (∀ before query time vaults age after,
      traffic.record = before ++ ⟨query, time, listingServed vaults age⟩ :: after →
        (∀ later ∈ after, empties later.exchange = false) →
          ListingFrozen plan traffic vaults query after) ∧
    (∀ before query time rows age after,
      traffic.record = before ++ ⟨query, time, indexServed rows age⟩ :: after →
        (∀ later ∈ after, empties later.exchange = false) →
          IndexFrozen plan traffic rows query after) ∧
    ∀ before keeper early late first after request outcome,
      traffic.record = before ++ ⟨keeper, early, listingDropped⟩ ::
        ⟨keeper, late, indexDropped⟩ :: first :: after →
        request.usesIndex = true →
          traffic.errands[first.query]? = some ⟨request, .done outcome⟩ →
            Renewed plan (toldOf first.query traffic.record) := by
  refine ⟨?_, ?_, ?_⟩
  · intro before query time vaults age after split undisturbed
    exact listingFrozen_of_served old steady possible orderly split undisturbed
  · intro before query time rows age after split undisturbed
    exact indexFrozen_of_served old steady possible orderly split undisturbed
  · intro before keeper early late first after request outcome split uses ended
    exact renewed_of_dropped possible orderly split uses ended

end

/-- A listing is kept at once and an index when the listing is old; a rebuild of the index, which is
still young, then fails.  In the end both are old. -/
def chilling : List Turn :=
  [.come .listVaults, .go 0] ++ drains 0 lone ++
    [.pass 61, .come .addressIndex, .go 1, .go 1, .go 1] ++ looksUp 1 "A" ++ finishes 1 ++
    [.pass 30, .come .addressIndex, .go 2, .go 2, .go 2,
      .told 2 ⟨.depositAddresses "v1" "usd", .error (.status 500 "down")⟩, .go 2,
      .pass 32, .come (.resolve "a"), .go 3, .go 3, .go 3, .come .listVaults, .go 4, .go 4]

def thawing : List Turn :=
  [.come .invalidate, .go 5, .go 5, .come .addressIndex, .go 6, .go 6] ++ drains 6 lone ++
    looksUp 6 "B" ++ finishes 6

/-- The listing is frozen before the index is, and the failure between makes no difference; after an
invalidation everything is made anew. -/
theorem frozen_chilling :
    (∃ traffic, Traffic.run restless 0 chilling = some traffic ∧
      (∃ before after, traffic.record = before ++ ⟨1, 61, listingServed lone 61⟩ :: after ∧
        ListingFrozen restless traffic lone 1 after) ∧
      ∃ before after, traffic.record =
          before ++ ⟨3, 123, indexServed [Row.of "v1" "usd" "A" none] 62⟩ :: after ∧
        IndexFrozen restless traffic [Row.of "v1" "usd" "A" none] 3 after) ∧
    ∃ traffic, Traffic.run restless 0 (chilling ++ thawing) = some traffic ∧
      Renewed restless (toldOf 6 traffic.record) := by
  constructor
  · have facts : (Traffic.run restless 0 chilling).map (fun traffic =>
        decide (OneByOne traffic.record) &&
          (traffic.record.drop 5).all fun later => !empties later.exchange) = some true := by
      decide +kernel
    have listed : (Traffic.run restless 0 chilling).map Traffic.record =
        (Traffic.run restless 0 chilling).map fun traffic => traffic.record.take 4 ++
          ⟨1, 61, listingServed lone 61⟩ :: traffic.record.drop 5 := rfl
    have indexed : (Traffic.run restless 0 chilling).map Traffic.record =
        (Traffic.run restless 0 chilling).map fun traffic => traffic.record.take 11 ++
          ⟨3, 123, indexServed [Row.of "v1" "usd" "A" none] 62⟩ :: traffic.record.drop 12 := rfl
    obtain ⟨traffic, possible, facts⟩ := Option.map_eq_some_iff.mp facts
    rw [possible] at listed indexed
    obtain ⟨orderly, quiet⟩ := Bool.and_eq_true_iff.mp facts
    have undisturbed (later : Notice) (member : later ∈ traffic.record.drop 5) :
        empties later.exchange = false := by
      simpa using List.all_eq_true.mp quiet later member
    obtain ⟨listing, index, _⟩ :=
      frozen_of_run rfl (by decide : Steady chilling) possible (of_decide_eq_true orderly)
    refine ⟨traffic, possible, ⟨_, _, Option.some.inj listed, ?_⟩,
      ⟨_, _, Option.some.inj indexed, ?_⟩⟩
    · exact listing _ _ _ _ _ _ (Option.some.inj listed) undisturbed
    · refine index _ _ _ _ _ _ (Option.some.inj indexed) fun later member => ?_
      refine undisturbed later ?_
      rw [show 12 = 5 + 7 from rfl, ← List.drop_drop] at member
      exact List.mem_of_mem_drop member
  · have orderly : (Traffic.run restless 0 (chilling ++ thawing)).map (fun traffic =>
        decide (OneByOne traffic.record)) = some true := by decide +kernel
    have dropped : (Traffic.run restless 0 (chilling ++ thawing)).map Traffic.record =
        (Traffic.run restless 0 (chilling ++ thawing)).map fun traffic =>
          traffic.record.take 13 ++ ⟨5, 123, listingDropped⟩ :: ⟨5, 123, indexDropped⟩ ::
            ⟨6, 123, indexRefused⟩ :: traffic.record.drop 16 := rfl
    have ended : (Traffic.run restless 0 (chilling ++ thawing)).map
        (fun traffic => traffic.errands[6]?) = some (some ⟨.addressIndex, .done (.ok (.rows
          [Row.of "v1" "usd" "B" none]))⟩) := rfl
    obtain ⟨traffic, possible, orderly⟩ := Option.map_eq_some_iff.mp orderly
    rw [possible] at dropped ended
    obtain ⟨_, _, renewed⟩ := frozen_of_run rfl (by decide : Steady (chilling ++ thawing)) possible
      (of_decide_eq_true orderly)
    exact ⟨traffic, possible,
      renewed _ _ _ _ _ _ _ _ (Option.some.inj dropped) rfl (Option.some.inj ended)⟩

end DepositDirectory.Directory
