import DepositDirectory.Directory.Index
import DepositDirectory.Proofs.Custody.LogicalCall
import DepositDirectory.Proofs.Listing.Drain

/-!
# What an index is built from

Fetching the vaults is a drain of their listing.  An index is built from one lookup for each
holding, in the order of the listing: two logical calls, first for the deposit addresses and then
for the details of the asset, and one row for each address.  Both tasks are orderly, also when they
fail.
-/

namespace DepositDirectory.Directory

open Custody
  (AccountFor AssetDetails AssetHolding CallError DepositAddress LogicalCall Orderly VaultAccount
    VaultPage service)
open Custody.LogicalCall (exchanges)
open Dialogue (Reaches)
open Listing (Drain)

variable {patience : Patience} {budget : Nat} {told : List (Exchange service)}

/-! ## Fetching the vaults -/

def vaultCalls (drain : Drain VaultPage) : List LogicalCall :=
  (drain.callsFrom none).map fun asked => ⟨.listVaults asked.1, asked.2⟩

/-- The vaults that a drain of their listing comes to, or why it failed. -/
def vaultsOf (drain : Drain VaultPage) : Except CallError (List VaultAccount) :=
  drain.outcome VaultPage.accounts

theorem flatMap_exchanges_vaultCalls (drain : Drain VaultPage) :
    (vaultCalls drain).flatMap exchanges =
      Listing.exchangesOf (fun cursor => Custody.answered (.listVaults cursor))
        (drain.callsFrom none) := by
  rw [vaultCalls, List.flatMap_map]
  rfl

theorem reaches_fetchVaults {allowance : Nat} {outcome : Except CallError (List VaultAccount)}
    (reaches : Reaches (fetchVaults patience allowance).run told outcome) :
    ∃ drain, drain.Obeys vaultListing patience.maxRetries ∧
      told = (vaultCalls drain).flatMap exchanges ∧ outcome = vaultsOf drain := by
  have drained : Reaches (vaultListing.drain patience allowance).run told outcome := by
    rcases Dialogue.reaches_task_bind_iff.mp reaches with
      ⟨cause, rfl, failed⟩ | ⟨earlier, vaults, later, rfl, begun, ended⟩
    · exact failed
    · have finished := Dialogue.reaches_tell_bind_iff.mp ended
      obtain ⟨rfl, rfl⟩ := Dialogue.reaches_task_pure_iff.mp finished
      rw [List.append_nil]
      exact begun
  obtain ⟨drain, obeys, _, rfl, rfl⟩ :=
    (Listing.reaches_drain_iff fun cursor => Custody.asksOnce_call (.listVaults cursor)).mp drained
  exact ⟨drain, obeys, (flatMap_exchanges_vaultCalls drain).symm, rfl⟩

theorem accountFor_drain {drain : Drain VaultPage} (obeys : drain.Obeys vaultListing budget) :
    AccountFor budget (vaultCalls drain) (vaultsOf drain) := by
  obtain ⟨turns, last⟩ := drain
  suffices from_cursor : ∀ cursor, AccountFor budget
      (((Drain.mk turns last).callsFrom cursor).map fun asked => ⟨.listVaults asked.1, asked.2⟩)
      (vaultsOf ⟨turns, last⟩) from from_cursor none
  induction turns with
  | nil =>
      intro cursor
      have single : AccountFor budget [⟨.listVaults cursor, last⟩] last.outcome :=
        .single obeys.lastPatient rfl
      obtain ⟨hints, outcome⟩ := last
      rcases outcome with cause | (_ | page)
      · exact single
      · exact single
      · exact single
  | cons turn turns ih =>
      intro cursor
      obtain ⟨patient, _, _, rest⟩ := (Drain.obeys_after_iff turn ⟨turns, last⟩).mp obeys
      have first : AccountFor budget [⟨.listVaults cursor, turn.tries⟩]
          (Except.ok (some turn.page)) := .single patient rfl
      have whole := first.append ((ih rest (some turn.cursor)).map
        (turn.page.accounts ++ ·))
      rw [vaultsOf, ← Drain.outcome_after VaultPage.accounts turn ⟨turns, last⟩] at whole
      exact whole

/-! ## Looking up the holdings -/

/-- How a holding was looked up: what the service told of its deposit addresses and of its asset,
and the hints of the throttled attempts before. -/
structure Lookup where
  vault : VaultAccount
  holding : AssetHolding
  addressHints : List (Option String)
  deposits : List DepositAddress
  detailHints : List (Option String)
  details : AssetDetails

namespace Lookup

/-- The holding that was looked up, with its vault. -/
def place (lookup : Lookup) : VaultAccount × AssetHolding :=
  (lookup.vault, lookup.holding)

/-- The two logical calls of a lookup, in their order. -/
def calls (lookup : Lookup) : List LogicalCall :=
  [⟨.depositAddresses lookup.vault.id lookup.holding.assetId,
      ⟨lookup.addressHints, .ok lookup.deposits⟩⟩,
    ⟨.assetDetails lookup.holding.assetId, ⟨lookup.detailHints, .ok lookup.details⟩⟩]

/-- One row for each deposit address, trimmed and lower-cased, with the holding's own contract. -/
def rows (lookup : Lookup) : List Row :=
  lookup.deposits.map fun deposit =>
    ⟨lookup.vault.id, lookup.holding.assetId, Text.lower (Text.trim deposit.address),
      lookup.details.onchain.bind (·.address)⟩

end Lookup

/-- Every holding of every vault, in the order of the listing, each with its vault. -/
def holdings (vaults : List VaultAccount) : List (VaultAccount × AssetHolding) :=
  vaults.flatMap fun vault => vault.assets.map (vault, ·)

theorem holdings_cons (vault : VaultAccount) (rest : List VaultAccount) :
    holdings (vault :: rest) = vault.assets.map (vault, ·) ++ holdings rest :=
  rfl

/-- Some holdings were looked up in their order, each once and as the retry rule says. -/
structure LookedUp (budget : Nat) (places : List (VaultAccount × AssetHolding))
    (lookups : List Lookup) : Prop where
  places_eq : lookups.map Lookup.place = places
  patient : ∀ lookup ∈ lookups, ∀ logical ∈ lookup.calls, logical.tries.Within budget

def ComesTo (budget : Nat) (places : List (VaultAccount × AssetHolding))
    (told : List (Exchange service)) (rows : List Row) : Prop :=
  ∃ lookups, LookedUp budget places lookups ∧
    told = (lookups.flatMap Lookup.calls).flatMap exchanges ∧ rows = lookups.flatMap Lookup.rows

theorem comesTo_nil_iff {rows : List Row} :
    ComesTo budget [] told rows ↔ told = [] ∧ rows = [] := by
  constructor
  · rintro ⟨lookups, lookedUp, rfl, rfl⟩
    rw [List.map_eq_nil_iff.mp lookedUp.places_eq]
    exact ⟨rfl, rfl⟩
  · rintro ⟨rfl, rfl⟩
    exact ⟨[], ⟨rfl, fun _ member => nomatch member⟩, rfl, rfl⟩

/-- What holdings come to is what the first of them come to, and then what the others do. -/
theorem comesTo_append_iff {first second : List (VaultAccount × AssetHolding)} {rows : List Row} :
    ComesTo budget (first ++ second) told rows ↔
      ∃ early late found more, told = early ++ late ∧ rows = found ++ more ∧
        ComesTo budget first early found ∧ ComesTo budget second late more := by
  constructor
  · rintro ⟨lookups, ⟨places_eq, patient⟩, rfl, rfl⟩
    obtain ⟨begun, rest, rfl, here, there⟩ := List.map_eq_append_iff.mp places_eq
    refine ⟨_, _, _, _, ?_, List.flatMap_append, ⟨begun, ⟨here, ?_⟩, rfl, rfl⟩,
      rest, ⟨there, ?_⟩, rfl, rfl⟩
    · rw [List.flatMap_append, List.flatMap_append]
    · intro lookup member
      exact patient lookup (List.mem_append_left rest member)
    · intro lookup member
      exact patient lookup (List.mem_append_right begun member)
  · rintro ⟨_, _, _, _, rfl, rfl, ⟨begun, here, rfl, rfl⟩, rest, there, rfl, rfl⟩
    refine ⟨begun ++ rest, ⟨?_, ?_⟩, ?_, List.flatMap_append.symm⟩
    · rw [List.map_append, here.places_eq, there.places_eq]
    · intro lookup member
      rcases List.mem_append.mp member with early | late
      · exact here.patient lookup early
      · exact there.patient lookup late
    · rw [List.flatMap_append, List.flatMap_append]

theorem reaches_holdingRows_iff {vault : VaultAccount} {holding : AssetHolding} {rows : List Row} :
    Reaches (holdingRows patience vault holding).run told (.ok rows) ↔
      ComesTo patience.maxRetries [(vault, holding)] told rows := by
  constructor
  · intro reaches
    obtain ⟨first, deposits, _, rfl, asked, onward⟩ := Dialogue.reaches_task_bind_ok_iff.mp reaches
    obtain ⟨second, details, _, rfl, inquired, ended⟩ := Dialogue.reaches_task_bind_ok_iff.mp onward
    obtain ⟨addressHints, early, rfl⟩ := Custody.reaches_execute_call_iff.mp asked
    obtain ⟨detailHints, late, rfl⟩ := Custody.reaches_execute_call_iff.mp inquired
    have finished := Dialogue.reaches_tell_bind_iff.mp ended
    obtain ⟨rfl, same⟩ := Dialogue.reaches_task_pure_iff.mp finished
    cases same
    let lookup : Lookup := ⟨vault, holding, addressHints, deposits, detailHints, details⟩
    refine ⟨[lookup], ⟨rfl, ?_⟩, ?_, (List.append_nil _).symm⟩
    · intro only among logical member
      cases List.mem_singleton.mp among
      rcases List.mem_cons.mp member with rfl | member
      · exact early
      · cases List.mem_singleton.mp member
        exact late
    · rfl
  · rintro ⟨lookups, ⟨places_eq, patient⟩, rfl, rfl⟩
    obtain ⟨lookup, rfl, there⟩ := List.map_eq_singleton_iff.mp places_eq
    obtain ⟨rfl, rfl⟩ := Prod.mk.inj there
    have kept := patient lookup List.mem_cons_self
    have early := kept _ List.mem_cons_self
    have late := kept _ (List.mem_cons_of_mem _ List.mem_cons_self)
    have asked := Custody.reaches_execute_call_iff.mpr ⟨lookup.addressHints, early, rfl⟩
    have inquired := Custody.reaches_execute_call_iff.mpr ⟨lookup.detailHints, late, rfl⟩
    rw [List.flatMap_singleton, List.flatMap_singleton]
    refine Dialogue.reaches_task_bind_ok_iff.mpr ⟨_, _, _, rfl, asked, ?_⟩
    refine Dialogue.reaches_task_bind_ok_iff.mpr ⟨_, _, _, rfl, inquired, ?_⟩
    exact Dialogue.reaches_tell_bind_iff.mpr (.done _)

theorem reaches_no_rows_iff {rows : List Row} :
    Reaches (pure [] : Task service CallError (List Row)).run told (.ok rows) ↔
      told = [] ∧ rows = [] := by
  rw [Dialogue.reaches_task_pure_iff, Except.ok.injEq]

theorem reaches_collect_iff {first second : Task service CallError (List Row)} {rows : List Row} :
    Reaches (first >>= fun found => second >>= fun more => pure (found ++ more)).run told
        (.ok rows) ↔
      ∃ early late found more, told = early ++ late ∧ rows = found ++ more ∧
        Reaches first.run early (.ok found) ∧ Reaches second.run late (.ok more) := by
  constructor
  · intro reaches
    obtain ⟨early, found, _, rfl, begun, onward⟩ := Dialogue.reaches_task_bind_ok_iff.mp reaches
    obtain ⟨late, more, _, rfl, followed, ended⟩ := Dialogue.reaches_task_bind_ok_iff.mp onward
    obtain ⟨rfl, same⟩ := Dialogue.reaches_task_pure_iff.mp ended
    cases same
    exact ⟨early, late, found, more, by rw [List.append_nil], rfl, begun, followed⟩
  · rintro ⟨early, late, found, more, rfl, rfl, begun, followed⟩
    refine Dialogue.reaches_task_bind_ok_iff.mpr ⟨early, found, late, rfl, begun, ?_⟩
    exact Dialogue.reaches_task_map_iff.mpr ⟨.ok more, rfl, followed⟩

theorem reaches_vaultRows_iff {vault : VaultAccount} {assets : List AssetHolding}
    {rows : List Row} :
    Reaches (vaultRows patience vault assets).run told (.ok rows) ↔
      ComesTo patience.maxRetries (assets.map (vault, ·)) told rows := by
  induction assets generalizing told rows with
  | nil =>
      rw [List.map_nil, comesTo_nil_iff]
      exact reaches_no_rows_iff
  | cons holding rest ih =>
      have split : (holding :: rest).map (vault, ·) = [(vault, holding)] ++ rest.map (vault, ·) :=
        rfl
      rw [split, comesTo_append_iff]
      refine reaches_collect_iff.trans ?_
      simp only [reaches_holdingRows_iff, ih]

theorem reaches_lookUp_iff {vaults : List VaultAccount} {rows : List Row} :
    Reaches (lookUp patience vaults).run told (.ok rows) ↔
      ComesTo patience.maxRetries (holdings vaults) told rows := by
  induction vaults generalizing told rows with
  | nil =>
      rw [holdings, List.flatMap_nil, comesTo_nil_iff]
      exact reaches_no_rows_iff
  | cons vault rest ih =>
      rw [holdings_cons, comesTo_append_iff]
      refine reaches_collect_iff.trans ?_
      simp only [reaches_vaultRows_iff, ih]

theorem reaches_buildIndex_iff {vaults : List VaultAccount} {rows : List Row} :
    Reaches (buildIndex patience vaults).run told (.ok rows) ↔
      ∃ lookups, LookedUp patience.maxRetries (holdings vaults) lookups ∧
        told = (lookups.flatMap Lookup.calls).flatMap exchanges ∧
        rows = lookups.flatMap Lookup.rows := by
  change _ ↔ ComesTo _ _ _ _
  rw [← reaches_lookUp_iff]
  constructor
  · intro reaches
    obtain ⟨_, found, _, rfl, begun, ended⟩ := Dialogue.reaches_task_bind_ok_iff.mp reaches
    have finished := Dialogue.reaches_tell_bind_iff.mp ended
    obtain ⟨rfl, same⟩ := Dialogue.reaches_task_pure_iff.mp finished
    cases same
    rw [List.append_nil]
    exact begun
  · intro begun
    refine Dialogue.reaches_task_bind_ok_iff.mpr
      ⟨_, rows, [], (List.append_nil _).symm, begun, ?_⟩
    exact Dialogue.reaches_tell_bind_iff.mpr (.done _)

/-! ## No more calls than two for each holding -/

theorem orderly_holdingRows (vault : VaultAccount) (holding : AssetHolding) :
    Orderly patience.maxRetries 2 (·.asksForPage = false) (holdingRows patience vault holding) := by
  change Orderly patience.maxRetries (1 + (1 + 0)) _ (holdingRows patience vault holding)
  refine (Orderly.execute patience ?_).bind fun deposits => ?_
  · rfl
  refine (Orderly.execute patience ?_).bind fun details => ?_
  · rfl
  exact (Orderly.pure _).say

theorem orderly_vaultRows (vault : VaultAccount) (assets : List AssetHolding) :
    Orderly patience.maxRetries (2 * assets.length) (·.asksForPage = false)
      (vaultRows patience vault assets) := by
  induction assets with
  | nil => exact Orderly.pure []
  | cons holding rest ih =>
      rw [List.length_cons, Nat.mul_succ, Nat.add_comm]
      refine (orderly_holdingRows vault holding).bind fun rows => ?_
      exact ih.bind fun more => Orderly.pure _

theorem orderly_lookUp (vaults : List VaultAccount) :
    Orderly patience.maxRetries (2 * (holdings vaults).length) (·.asksForPage = false)
      (lookUp patience vaults) := by
  induction vaults with
  | nil => exact Orderly.pure []
  | cons vault rest ih =>
      rw [holdings_cons, List.length_append, List.length_map, Nat.mul_add]
      refine (orderly_vaultRows vault vault.assets).bind fun rows => ?_
      exact ih.bind fun more => Orderly.pure _

theorem orderly_buildIndex (vaults : List VaultAccount) :
    Orderly patience.maxRetries (2 * (holdings vaults).length) (·.asksForPage = false)
      (buildIndex patience vaults) :=
  (orderly_lookUp vaults).bind fun _ => (Orderly.pure _).say

end DepositDirectory.Directory
