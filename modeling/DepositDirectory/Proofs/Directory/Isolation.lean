import DepositDirectory.Proofs.Directory.Indexing
import DepositDirectory.Proofs.Directory.Provenance

/-!
# Queries do not mix

Queries may take turns in any way, and the service may tell each of them something else.  Still,
what is on the shelves and what is used for an answer is a whole: a listing comes from one draining,
an index from one building and thereby from one listing, and an answer from one index.
-/

namespace DepositDirectory.Directory

open Custody (VaultAccount)

variable {plan : Plan} {start : Int} {turns : List Turn} {traffic : Traffic}

/-- No value that is stored or used mixes two drainings or two buildings or is a part of one, and
every response rests on such values. -/
structure Isolated (plan : Plan) (traffic : Traffic) : Prop where
  listingHeld : ∀ entry, traffic.shelves.vaults = some entry →
    ∃ notice ∈ traffic.record, notice.exchange = listingKept entry.value ∧
      notice.time = entry.producedAt ∧ HasDraining plan traffic.record entry.value notice
  indexHeld : ∀ entry, traffic.shelves.index = some entry →
    ∃ notice ∈ traffic.record, notice.exchange = indexKept entry.value ∧
      notice.time = entry.producedAt ∧ HasBuilding plan traffic.record entry.value notice
  listingUsed : ∀ notice ∈ traffic.record, ∀ vaults, UsesListing notice.exchange vaults →
    HasDraining plan traffic.record vaults notice
  indexUsed : ∀ notice ∈ traffic.record, ∀ rows, UsesIndex notice.exchange rows →
    HasBuilding plan traffic.record rows notice
  answered : ∀ (query : Nat) (request : Request) (response : Response),
    traffic.errands[query]? = some ⟨request, .done (.ok response)⟩ →
      Sourced (toldOf query traffic.record) request response

/-- Whatever turns the queries take and whatever the service tells them, they do not mix. -/
theorem isolated_of_run (possible : Traffic.run plan start turns = some traffic) :
    Isolated plan traffic where
  listingHeld := by
    intro entry held
    obtain ⟨before, query, since, split, _⟩ :=
      ShelfView.put_of_held ((Traffic.stocked_of_run listingView possible).held.symm.trans held)
    have member : (⟨query, entry.producedAt, listingKept entry.value⟩ : Notice) ∈ traffic.record :=
      split ▸ List.mem_append_right before List.mem_cons_self
    exact ⟨_, member, rfl, rfl, hasDraining_of_usesListing possible member (.kept entry.value)⟩
  indexHeld := by
    intro entry held
    obtain ⟨before, query, since, split, _⟩ :=
      ShelfView.put_of_held ((Traffic.stocked_of_run indexView possible).held.symm.trans held)
    have member : (⟨query, entry.producedAt, indexKept entry.value⟩ : Notice) ∈ traffic.record :=
      split ▸ List.mem_append_right before List.mem_cons_self
    exact ⟨_, member, rfl, rfl, hasBuilding_of_usesIndex possible member (.kept entry.value)⟩
  listingUsed := fun _ member _ uses => hasDraining_of_usesListing possible member uses
  indexUsed := fun _ member _ uses => hasBuilding_of_usesIndex possible member uses
  answered := fun _ _ _ ended => (queryTells_of_run possible ended).sourced rfl

/-! ## Two builds that overlap -/

def wide : List VaultAccount := lone ++ [⟨"v2", none, [⟨"eth"⟩]⟩]

def shrinking : List Turn :=
  [.come .addressIndex, .come .addressIndex, .come .invalidate, .go 0, .go 0, .go 1, .go 1] ++
    drains 0 wide ++ [.go 2] ++ drains 1 lone ++ [.pass 5] ++
    looksUp 1 "B" ++ finishes 1 ++ [.go 2, .pass 5] ++ looksUp 0 "A" ++
    [.told 0 ⟨.depositAddresses "v2" "eth", .ok [⟨"C"⟩, ⟨"D"⟩]⟩,
      .told 0 ⟨.assetDetails "eth", .ok ⟨none⟩⟩, .go 0] ++ finishes 0

/-- The query that began first ends last, and its index is of both vaults of its own listing and of
its own addresses, beside the listing that the other has drained. -/
theorem isolated_shrinking :
    ∃ traffic, Traffic.run curt 0 shrinking = some traffic ∧
      traffic.shelves = ⟨some ⟨lone, 0⟩, some ⟨[Row.of "v1" "usd" "A" none,
        Row.of "v2" "eth" "C" none, Row.of "v2" "eth" "D" none], 10⟩⟩ ∧
      Isolated curt traffic := by
  have ends : (Traffic.run curt 0 shrinking).map Traffic.shelves =
      some ⟨some ⟨lone, 0⟩, some ⟨[Row.of "v1" "usd" "A" none,
        Row.of "v2" "eth" "C" none, Row.of "v2" "eth" "D" none], 10⟩⟩ := by decide +kernel
  obtain ⟨traffic, possible, shelves⟩ := Option.map_eq_some_iff.mp ends
  exact ⟨traffic, possible, shelves, isolated_of_run possible⟩

end DepositDirectory.Directory
