import DepositDirectory.Proofs.Directory.Course
import DepositDirectory.Proofs.Directory.Flattening

/-!
# How the listing and the index are come by

A call for the vault listing is served from its shelf, fails with a drain, or keeps what a drain
came to.  A call for the index is served as well, fails with the call for the listing or with the
lookups of the holdings, or keeps what the lookups came to.  In every case what the service is
asked are logical calls, the pages of one drain first and then no more than two calls for each
holding.
-/

namespace DepositDirectory.Directory

open Cache (Entry)
open Custody (AccountFor CallError LogicalCall VaultAccount VaultPage service written)
open Custody.LogicalCall (exchanges)
open Dialogue (Reaches)
open Listing (Drain)

variable {α β : Type} {patience : Patience} {before after : Shelves} {events : List (Event service)}

inductive Listed (patience : Patience) (before : Shelves) :
    List (Event service) → Except CallError (List VaultAccount) → Shelves → Prop where
  | served {entry : Entry (List VaultAccount)} {time : Int} (held : before.vaults = some entry) :
      Listed patience before [.read time] (.ok entry.value) before
  | failed {looks : List (Event service)} {drain : Drain VaultPage} {cause : CallError}
      (silent : exchangesIn looks = []) (obeys : drain.Obeys vaultListing patience.maxRetries)
      (fails : vaultsOf drain = .error cause) :
      Listed patience before (looks ++ written (vaultCalls drain)) (.error cause) before
  | drained {looks : List (Event service)} {drain : Drain VaultPage} {vaults : List VaultAccount}
      {time : Int} (silent : exchangesIn looks = [])
      (obeys : drain.Obeys vaultListing patience.maxRetries)
      (comes : vaultsOf drain = .ok vaults) :
      Listed patience before (looks ++ (written (vaultCalls drain) ++ [.read time])) (.ok vaults)
        { before with vaults := some ⟨vaults, time⟩ }

inductive Indexed (patience : Patience) (before : Shelves) :
    List (Event service) → Except CallError (List Row) → Shelves → Prop where
  | served {entry : Entry (List Row)} {time : Int} (held : before.index = some entry) :
      Indexed patience before [.read time] (.ok entry.value) before
  | unlisted {looks events : List (Event service)} {cause : CallError} {after : Shelves}
      (silent : exchangesIn looks = [])
      (listed : Listed patience before events (.error cause) after) :
      Indexed patience before (looks ++ events) (.error cause) after
  | unbuilt {looks events : List (Event service)} {told : List (Exchange service)}
      {vaults : List VaultAccount} {cause : CallError} {after : Shelves}
      (silent : exchangesIn looks = []) (listed : Listed patience before events (.ok vaults) after)
      (fails : Reaches (buildIndex patience vaults).run told (.error cause)) :
      Indexed patience before (looks ++ (events ++ told.map .told)) (.error cause) after
  | built {looks events : List (Event service)} {told : List (Exchange service)}
      {vaults : List VaultAccount} {rows : List Row} {time : Int} {after : Shelves}
      (silent : exchangesIn looks = []) (listed : Listed patience before events (.ok vaults) after)
      (comes : Reaches (buildIndex patience vaults).run told (.ok rows)) :
      Indexed patience before (looks ++ (events ++ (told.map .told ++ [.read time]))) (.ok rows)
        { after with index := some ⟨rows, time⟩ }

theorem Course.Looked.silent {terms : Cache.Terms} {entry : Option (Entry α)}
    {looks : List (Event service)} (looked : Course.Looked terms entry looks) :
    exchangesIn looks = [] := by
  cases looked with
  | absent => rfl
  | refused refreshes => rfl

theorem listed_of_course {plan : Plan} {outcome : Except CallError (List VaultAccount)}
    (course : listingCourse plan before events outcome after) :
    Listed plan.patience before events outcome after := by
  cases course with
  | served held serves => exact .served held
  | failed looked ran =>
      obtain ⟨told, rfl, reaches, rfl⟩ := ran
      obtain ⟨drain, obeys, rfl, fails⟩ := reaches_fetchVaults reaches
      exact .failed looked.silent obeys fails.symm
  | renewed looked ran =>
      obtain ⟨told, rfl, reaches, rfl⟩ := ran
      obtain ⟨drain, obeys, rfl, comes⟩ := reaches_fetchVaults reaches
      exact .drained looked.silent obeys comes.symm

theorem indexed_of_course {plan : Plan} {outcome : Except CallError (List Row)}
    (course : indexCourse plan before events outcome after) :
    Indexed plan.patience before events outcome after := by
  cases course with
  | served held serves => exact .served held
  | failed looked ran =>
      rcases ran with ⟨cause, same, failed⟩ |
        ⟨earlier, vaults, later, middle, rfl, listed, told, rfl, reaches, rfl⟩
      · cases same
        exact .unlisted looked.silent (listed_of_course failed)
      · exact .unbuilt looked.silent (listed_of_course listed) reaches
  | renewed looked ran =>
      rcases ran with ⟨cause, impossible, _⟩ |
        ⟨earlier, vaults, later, middle, rfl, listed, told, rfl, reaches, rfl⟩
      · cases impossible
      · rw [List.append_assoc]
        exact .built looked.silent (listed_of_course listed) reaches

/-! ## What the service is asked -/

/-- The vaults of the listing that is kept; none, where none is. -/
def Shelves.listed (shelves : Shelves) : List VaultAccount :=
  (shelves.vaults.map Entry.value).getD []

/-- The pages of one drain of the listing, which comes to the outcome; none where nothing is
drained. -/
def PagesOf (budget : Nat) (outcome : Except CallError (List VaultAccount))
    (pages : List LogicalCall) : Prop :=
  pages = [] ∨ ∃ drain : Drain VaultPage, drain.Obeys vaultListing budget ∧
    vaultsOf drain = outcome ∧ pages = vaultCalls drain

theorem Listed.accountFor {outcome : Except CallError (List VaultAccount)}
    (listed : Listed patience before events outcome after) :
    ∃ pages, PagesOf patience.maxRetries outcome pages ∧
      exchangesIn events = pages.flatMap exchanges ∧
      AccountFor patience.maxRetries pages outcome := by
  cases listed with
  | served held => exact ⟨[], Or.inl rfl, rfl, .nil _⟩
  | @failed looks drain cause silent obeys fails =>
      refine ⟨vaultCalls drain, Or.inr ⟨drain, obeys, fails, rfl⟩, ?_, ?_⟩
      · rw [exchangesIn_append, silent, Custody.exchangesIn_written]
        rfl
      · rw [← fails]
        exact accountFor_drain obeys
  | @drained looks drain vaults time silent obeys comes =>
      refine ⟨vaultCalls drain, Or.inr ⟨drain, obeys, comes, rfl⟩, ?_, ?_⟩
      · rw [exchangesIn_append, silent, exchangesIn_append, Custody.exchangesIn_written,
          exchangesIn_read, List.append_nil]
        rfl
      · rw [← comes]
        exact accountFor_drain obeys

theorem Listed.kept {vaults : List VaultAccount}
    (listed : Listed patience before events (.ok vaults) after) :
    ∃ entry, after.vaults = some entry ∧ entry.value = vaults := by
  cases listed with
  | @served entry time held => exact ⟨entry, held, rfl⟩
  | drained silent obeys comes => exact ⟨_, rfl, rfl⟩

theorem Listed.listed_eq {vaults : List VaultAccount}
    (listed : Listed patience before events (.ok vaults) after) : after.listed = vaults := by
  obtain ⟨entry, held, rfl⟩ := listed.kept
  rw [Shelves.listed, held]
  rfl

/-- What the service is asked for an index: the pages of one drain, unless the listing is served,
and then no more than two calls for each holding of the listing, no page among them. -/
structure Asked (budget : Nat) (vaults : List VaultAccount) (outcome : Except CallError (List Row))
    (told : List (Exchange service)) (pages rest : List LogicalCall) : Prop where
  told_eq : told = (pages ++ rest).flatMap exchanges
  drained : PagesOf budget (.ok vaults) pages ∨
    rest = [] ∧ ∃ cause, outcome = .error cause ∧ PagesOf budget (.error cause) pages
  pageless : ∀ logical ∈ rest, logical.call.asksForPage = false
  few : rest.length ≤ 2 * (holdings vaults).length
  accounts : AccountFor budget (pages ++ rest) outcome

/-- What is asked for an index is no more than one call for each page and two for each holding, each
of them as often as the retries allow. -/
theorem Asked.length_le {budget : Nat} {vaults : List VaultAccount}
    {outcome : Except CallError (List Row)} {told : List (Exchange service)}
    {pages rest : List LogicalCall} (asked : Asked budget vaults outcome told pages rest) :
    told.length ≤ (pages.length + 2 * (holdings vaults).length) * (budget + 1) := by
  have attempts := LogicalCall.length_flatMap_exchanges_le (pages ++ rest) asked.accounts.patient
  have calls : (pages ++ rest).length ≤ pages.length + 2 * (holdings vaults).length := by
    rw [List.length_append]
    exact Nat.add_le_add_left asked.few _
  rw [asked.told_eq]
  exact Nat.le_trans attempts (Nat.mul_le_mul_right _ calls)

theorem Listed.asked_build {vaults : List VaultAccount} {told : List (Exchange service)}
    {outcome : Except CallError (List Row)}
    (listed : Listed patience before events (.ok vaults) after)
    (reaches : Reaches (buildIndex patience vaults).run told outcome) :
    ∃ pages rest, Asked patience.maxRetries after.listed outcome (exchangesIn events ++ told) pages
      rest := by
  obtain ⟨pages, paged, asked, answered⟩ := listed.accountFor
  obtain ⟨rest, short, others, rfl, accounted⟩ := orderly_buildIndex vaults told outcome reaches
  rw [listed.listed_eq, asked, ← List.flatMap_append]
  exact ⟨pages, rest, rfl, Or.inl paged, others, short, answered.append accounted⟩

theorem Indexed.asked {outcome : Except CallError (List Row)}
    (indexed : Indexed patience before events outcome after) :
    ∃ pages rest, Asked patience.maxRetries after.listed outcome (exchangesIn events) pages
      rest := by
  cases indexed with
  | served held =>
      exact ⟨[], [], rfl, Or.inl (Or.inl rfl), fun _ member => (nomatch member), Nat.zero_le _,
        .nil _⟩
  | @unlisted looks events cause after silent listed =>
      obtain ⟨pages, paged, asked, made, last, rfl, answered, failed⟩ := listed.accountFor
      refine ⟨_, [], ?_, Or.inr ⟨rfl, cause, rfl, paged⟩, fun _ member => (nomatch member),
        Nat.zero_le _, made, last, List.append_nil _, answered, failed⟩
      rw [exchangesIn_append, silent, asked, List.append_nil]
      rfl
  | unbuilt silent listed fails =>
      rw [exchangesIn_append, silent, exchangesIn_append, exchangesIn_told]
      exact listed.asked_build fails
  | built silent listed comes =>
      rw [exchangesIn_append, silent, exchangesIn_append, exchangesIn_append, exchangesIn_told,
        exchangesIn_read, List.append_nil]
      exact listed.asked_build comes

/-! ## The index and the calls that it takes -/

/-- An index is built over some exchanges exactly when they are the lookups of all holdings in their
order: for each, the calls for its addresses and then the calls for its asset, and it has one row
for each address and no others.  So it is beside every service, whatever this answers from call to
call.  A query for the index asks for the pages of one drain and then for no more than two things of
each holding, and each of these calls is made as often as the retries allow and no more. -/
theorem index_is_flattening {σ : Type} (host : Host service σ) (clock : σ → Int × σ) (plan : Plan) :
    (∀ (vaults : List VaultAccount) (rows : List Row) (told : List (Exchange service)),
      (buildIndex plan.patience vaults).run.Reaches told (.ok rows) ↔
        ∃ lookups, LookedUp plan.patience.maxRetries (holdings vaults) lookups ∧
          told = (lookups.flatMap Lookup.calls).flatMap exchanges ∧
          rows = lookups.flatMap Lookup.rows) ∧
    (∀ {vaults : List VaultAccount} {rows : List Row} {state final : σ},
      (buildIndex plan.patience vaults).run.run host state = (some (.ok rows), final) →
        ∃ lookups, LookedUp plan.patience.maxRetries (holdings vaults) lookups ∧
          rows = lookups.flatMap Lookup.rows ∧
          (buildIndex plan.patience vaults).run.run host.recorded (state, []) =
            (some (.ok rows), final, written (lookups.flatMap Lookup.calls))) ∧
    ∀ {state final : σ} {before after : Shelves} {outcome : Except CallError (List Row)},
      (addressIndex plan).run.run (hostShelves host clock plan.terms) (state, before) =
          (some outcome, final, after) →
        ∃ events, (addressIndex plan).run.run (recording host clock plan.terms)
            ((state, []), before) = (some outcome, (final, events), after) ∧
          ∃ pages rest,
            Asked plan.patience.maxRetries after.listed outcome (exchangesIn events) pages rest ∧
            (exchangesIn events).length ≤ (pages.length + 2 * (holdings after.listed).length) *
              (plan.patience.maxRetries + 1) := by
  refine ⟨fun _ _ _ => reaches_buildIndex_iff, ?_, ?_⟩
  · intro vaults rows state final run
    rw [host.run_recorded _ _ []] at run
    rcases recorded : (buildIndex plan.patience vaults).run.run host.recorded (state, []) with
      ⟨result, left, record⟩
    rw [recorded] at run
    cases run
    obtain ⟨told, rfl, reaches⟩ := Host.reaches_of_run_recorded host recorded
    obtain ⟨lookups, lookedUp, rfl, flat⟩ := reaches_buildIndex_iff.mp reaches
    exact ⟨lookups, lookedUp, flat, rfl⟩
  · intro state final before after outcome run
    rw [run_recording host clock plan.terms _ state []] at run
    rcases recorded : (addressIndex plan).run.run (recording host clock plan.terms)
      ((state, []), before) with ⟨result, ⟨left, record⟩, kept⟩
    rw [recorded] at run
    cases run
    obtain ⟨events, rfl, course⟩ := follows_addressIndex host clock plan recorded
    obtain ⟨pages, rest, asked⟩ := (indexed_of_course course).asked
    exact ⟨_, rfl, pages, rest, asked, asked.length_le⟩

def neighbours : List VaultAccount :=
  [⟨"v1", none, [⟨"usd"⟩, ⟨"eur"⟩]⟩, ⟨"v2", some "savings", [⟨"usd"⟩]⟩]

/-- The neighbours on a page for each; some calls are throttled, one holding has no address, and
what is told of the asset they share changes meanwhile. -/
def wavering : Nat → (c : Custody.Call) → Except CallError c.Result
  | 0, .listVaults _ => .ok (some ⟨neighbours.take 1, some ⟨some "c"⟩⟩)
  | 1, .listVaults _ => .error (.rateLimited none)
  | _, .listVaults _ => .ok (some ⟨neighbours.drop 1, none⟩)
  | 3, .depositAddresses _ _ => .error (.rateLimited (some "2"))
  | 4, .depositAddresses _ _ => .ok [⟨" A"⟩]
  | 6, .depositAddresses _ _ => .ok []
  | _, .depositAddresses _ _ => .ok [⟨"B"⟩, ⟨"A"⟩]
  | 5, .assetDetails _ => .ok ⟨some ⟨some "0xF", none⟩⟩
  | _, .assetDetails _ => .ok ⟨none⟩
  | _, .assetBalance _ _ => .error (.status 404 "unknown")

def neighbourRows : List Row :=
  [⟨"v1", "usd", "a", some "0xF"⟩, ⟨"v2", "usd", "b", none⟩, ⟨"v2", "usd", "a", none⟩]

def curt : Plan := ⟨⟨1, 1000⟩, ⟨60, .afterTtl⟩, 2⟩

/-- The index of the neighbours is built over seven calls, and a query for it makes three more for
their two pages. -/
theorem index_of_neighbours :
    (buildIndex curt.patience neighbours).run.run (Custody.numbered wavering) 3 =
      (some (.ok neighbourRows), 10) ∧
    (∃ lookups, LookedUp 1 (holdings neighbours) lookups ∧
      neighbourRows = lookups.flatMap Lookup.rows) ∧
    ∃ told pages rest, told.length = 10 ∧ Asked 1 neighbours (.ok neighbourRows) told pages rest ∧
      told.length ≤ (pages.length + 2 * 3) * 2 := by
  obtain ⟨_, built, queried⟩ :=
    index_is_flattening (Custody.numbered wavering) (fun count => (count, count)) curt
  have run : (buildIndex curt.patience neighbours).run.run (Custody.numbered wavering) 3 =
      (some (.ok neighbourRows), 10) := rfl
  have wanted : (addressIndex curt).run.run
      (hostShelves (Custody.numbered wavering) (fun count => (count, count)) curt.terms)
      (0, Shelves.empty) =
      (some (.ok neighbourRows), 10, ⟨some ⟨neighbours, 3⟩, some ⟨neighbourRows, 10⟩⟩) := rfl
  obtain ⟨lookups, lookedUp, flat, _⟩ := built run
  obtain ⟨events, recorded, pages, rest, asked, few⟩ := queried wanted
  have ten : (exchangesIn events).length = 10 :=
    (congrArg (fun ended => (exchangesIn ended.2.1.2).length) recorded).symm
  exact ⟨run, ⟨lookups, lookedUp, flat⟩, _, pages, rest, ten, asked, few⟩

/-! ## A vault with one asset twice -/

def twins : List VaultAccount := [⟨"v1", none, [⟨"usd"⟩, ⟨"usd"⟩]⟩]

/-- The twins on one page; the call after it is throttled, and then there is one address with a
contract, and later there are two without. -/
def drifting : Nat → (c : Custody.Call) → Except CallError c.Result
  | _, .listVaults _ => .ok (some ⟨twins, none⟩)
  | 1, .depositAddresses _ _ => .error (.rateLimited (some "2"))
  | 2, .depositAddresses _ _ => .ok [⟨" A"⟩]
  | _, .depositAddresses _ _ => .ok [⟨"B"⟩, ⟨"A"⟩]
  | 3, .assetDetails _ => .ok ⟨some ⟨some "0xF", none⟩⟩
  | _, .assetDetails _ => .ok ⟨none⟩
  | _, .assetBalance _ _ => .error (.status 404 "unknown")

def twinRows : List Row :=
  [⟨"v1", "usd", "a", some "0xF"⟩, ⟨"v1", "usd", "b", none⟩, ⟨"v1", "usd", "a", none⟩]

end DepositDirectory.Directory
