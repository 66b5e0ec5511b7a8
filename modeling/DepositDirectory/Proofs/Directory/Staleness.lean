import DepositDirectory.Proofs.Directory.Indexing
import DepositDirectory.Proofs.Directory.Provenance

/-!
# How old an answer can be

While young values are served and the clock never moves backwards, what is used was put on its shelf
by that very query or no longer ago than the time to live.  An index is stamped when it is finished,
and so is the listing that it was built from; so the ages of the two add up, and so does the time
that the build took.
-/

namespace DepositDirectory.Directory

open Custody (VaultAccount)
open Traffic (Chronological Steady)

variable {plan : Plan} {start : Int} {turns : List Turn} {traffic : Traffic}
  {record : List Notice} {rows : List Row} {now : Int}

def Recent (ttl : Int) (kept notice : Notice) : Prop :=
  notice = kept ∨ notice.time - kept.time ≤ ttl

theorem ComesBy.recent {α : Type} {view : ShelfView α} {terms : Cache.Terms} {kept notice : Notice}
    (young : terms.policy = .afterTtl) (comes : ComesBy view terms record kept notice) :
    Recent terms.ttl kept notice := by
  cases comes with
  | kept own => exact Or.inl own
  | served split untouched serves =>
      rw [young] at serves
      exact Or.inr (Int.not_lt.mp (of_decide_eq_false serves))

theorem Building.during (building : Building plan record rows)
    (ordered : Chronological record now) :
    building.begun ≤ building.finished ∧ ∀ told ∈ building.listing ++ building.answers,
      building.begun ≤ told.time ∧ told.time ≤ building.finished := by
  obtain ⟨later, own⟩ := building.told
  have sorted := ordered.noticesOf building.query
  rw [own, ← List.append_assoc, List.pairwise_cons, List.pairwise_append] at sorted
  obtain ⟨after, _, _, before⟩ := sorted
  refine ⟨after _ (List.mem_append_right _ List.mem_cons_self), fun told member => ⟨?_, ?_⟩⟩
  · exact after told (List.mem_append_left _ member)
  · exact before told member _ List.mem_cons_self

/-- How fresh a building is when a notice uses its index: the index is recent, the answers
were fetched while it was built, and the listing was drained no earlier than its time to live before
the building began. -/
structure Building.Fresh (building : Building plan record rows) (notice : Notice) : Prop where
  recent : Recent plan.terms.ttl building.kept notice
  fetched : ∀ answer ∈ building.answers,
    building.begun ≤ answer.time ∧ answer.time ≤ building.finished
  listed : ∃ used ∈ building.listing, ∃ draining : Draining plan record building.vaults,
    ComesBy listingView plan.terms record draining.kept used ∧
      building.begun - plan.terms.ttl ≤ draining.finished ∧
      notice.time - draining.finished ≤
        2 * plan.terms.ttl + (building.finished - building.begun)

theorem Building.fresh (building : Building plan record rows) {notice : Notice}
    (young : plan.terms.policy = .afterTtl) (lasting : 0 ≤ plan.terms.ttl)
    (ordered : Chronological record now)
    (comes : ComesBy indexView plan.terms record building.kept notice)
    (rests : ∃ used ∈ building.listing, HasDraining plan record building.vaults used) :
    building.Fresh notice := by
  obtain ⟨used, among, draining, drained⟩ := rests
  obtain ⟨forward, during⟩ := building.during ordered
  have begun := (during used (List.mem_append_left _ among)).1
  have listed : building.begun - plan.terms.ttl ≤ draining.finished := by
    rcases drained.recent young with own | recent
    · rw [own] at begun
      change building.begun ≤ draining.finished at begun
      omega
    · change used.time - draining.finished ≤ plan.terms.ttl at recent
      omega
  have indexed : notice.time - building.finished ≤ plan.terms.ttl := by
    rcases comes.recent young with own | recent
    · rw [own]
      change building.finished - building.finished ≤ plan.terms.ttl
      omega
    · exact recent
  refine ⟨comes.recent young, fun answer member => during answer (List.mem_append_right _ member),
    used, among, draining, drained, listed, ?_⟩
  omega

/-- Every listing and every index that is used is fresh, and every response rests on such values. -/
structure Fresh (plan : Plan) (traffic : Traffic) : Prop where
  listingUsed : ∀ notice ∈ traffic.record, ∀ vaults, UsesListing notice.exchange vaults →
    ∃ draining : Draining plan traffic.record vaults,
      ComesBy listingView plan.terms traffic.record draining.kept notice ∧
        Recent plan.terms.ttl draining.kept notice
  indexUsed : ∀ notice ∈ traffic.record, ∀ rows, UsesIndex notice.exchange rows →
    ∃ building : Building plan traffic.record rows,
      ComesBy indexView plan.terms traffic.record building.kept notice ∧ building.Fresh notice
  answered : ∀ (query : Nat) (request : Request) (response : Response),
    traffic.errands[query]? = some ⟨request, .done (.ok response)⟩ →
      Sourced (toldOf query traffic.record) request response

/-- Whatever happens while a steady clock runs, nothing is used that is too old. -/
theorem fresh_of_run (young : plan.terms.policy = .afterTtl) (lasting : 0 ≤ plan.terms.ttl)
    (steady : Steady turns) (possible : Traffic.run plan start turns = some traffic) :
    Fresh plan traffic where
  listingUsed := by
    intro notice member vaults uses
    obtain ⟨draining, comes⟩ := hasDraining_of_usesListing possible member uses
    exact ⟨draining, comes, comes.recent young⟩
  indexUsed := by
    intro notice member rows uses
    obtain ⟨building, comes, rests⟩ := hasBuilding_of_usesIndex possible member uses
    have ordered := Traffic.chronological_of_run steady possible
    exact ⟨building, comes, building.fresh young lasting ordered comes rests⟩
  answered := fun _ _ _ ended => (queryTells_of_run possible ended).sourced rfl

def aging : List Turn :=
  [.come .listVaults, .go 0] ++ drains 0 lone ++
    [.pass 60, .come .addressIndex, .go 1, .go 1, .go 1, .pass 10] ++
    looksUp 1 "A" ++ finishes 1 ++ [.pass 60, .come .addressIndex, .go 2, .go 2]

/-- The oldest listing that an index can rest on is as old as the bound says. -/
theorem fresh_aging :
    curt.terms.policy = .afterTtl ∧ 0 ≤ curt.terms.ttl ∧ Steady aging ∧
      ∃ traffic, Traffic.run curt 0 aging = some traffic ∧
        traffic.record.map Notice.time = [0, 0, 0, 60, 60, 70, 70, 70, 130] ∧
        Fresh curt traffic := by
  have steady : Steady aging := by decide
  have times : (Traffic.run curt 0 aging).map (fun traffic => traffic.record.map Notice.time) =
      some [0, 0, 0, 60, 60, 70, 70, 70, 130] := by decide +kernel
  obtain ⟨traffic, possible, told⟩ := Option.map_eq_some_iff.mp times
  exact ⟨rfl, by decide, steady, traffic, possible, told,
    fresh_of_run rfl (by decide) steady possible⟩

end DepositDirectory.Directory
