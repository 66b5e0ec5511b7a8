import DepositDirectory.Proofs.Directory.Shelves
import DepositDirectory.Proofs.Directory.Weather

/-!
# A directory answers as if it had no caches

Two things are kept on the shelves of a directory: the vault listing, and an index built from one.
When every call to the service has one answer, what is kept is always what would be produced anew.
Every query preserves this, also one that fails after the listing was kept and before an index was;
so it makes no difference to an answer whether the policy serves or refreshes, and at what age.
-/

namespace DepositDirectory

open Dialogue (Ensures Yields)

namespace Cache

variable {I : Interface} {σ α ε : Type} {host : Host I σ} {invariant : σ → Prop} {terms : Terms}
  {reach : (ask : Ask α) → Dialogue I ask.Reply} {produce : Task I ε α} {outcome : Except ε α}

/-- A call for the value of a cache yields what a run of the producer would, when the cache serves
nothing else. -/
theorem get_yields (noted : ∀ line state, invariant state → invariant (host.note line state))
    (consulted : Ensures host invariant (reach .consult) fun (verdict : Verdict α) state =>
      invariant state ∧ ∀ value age, verdict = .serve value age → outcome = .ok value)
    (produced : Yields host invariant produce.run outcome)
    (kept : ∀ value, outcome = .ok value → Yields host invariant (reach (.keep value)) ()) :
    Yields host invariant (get terms reach produce).run outcome := by
  refine Ensures.bindLift consulted fun verdict => ?_
  cases verdict with
  | serve value age =>
      rintro state ⟨holds, serves⟩
      rw [serves value age rfl]
      have told : Yields host invariant
          (Dialogue.say .debug .cache (terms.servedText age)) () := Yields.say noted _ _ _
      exact told.lift.afterValue (Yields.pure (Except.ok value)) state holds
  | refresh =>
      rintro state ⟨holds, _⟩
      cases outcome with
      | ok value =>
          exact produced.afterValue ((kept value rfl).lift.afterValue (Yields.pure _)) state holds
      | error cause => exact produced.afterError state holds

end Cache

namespace Directory

open Custody (Call CallError VaultAccount service)

variable {σ : Type}

/-! ## The shelves beside a host -/

def Holds {α : Type} (outcome : Except CallError α) (shelf : Option (Cache.Entry α)) : Prop :=
  ∀ entry, shelf = some entry → outcome = .ok entry.value

section Shelf

variable {α : Type} {clock : σ → Int × σ} {invariant : σ → Prop} {outcome : Except CallError α}
  {shelf : Option (Cache.Entry α)} {state : σ}

theorem holds_none : Holds outcome none := fun _ same => nomatch same

theorem holds_some {entry : Cache.Entry α} (produced : outcome = .ok entry.value) :
    Holds outcome (some entry) := by
  intro other same
  cases same
  exact produced

theorem consult_holds (timed : ∀ state, invariant state → invariant (clock state).2)
    (terms : Cache.Terms) (holds : Holds outcome shelf) (start : invariant state)
    {verdict : Cache.Verdict α} {left : Option (Cache.Entry α)} {after : σ}
    (answered : answerShelf clock terms shelf .consult state = (verdict, left, after)) :
    left = shelf ∧ invariant after ∧
      ∀ value age, verdict = .serve value age → outcome = .ok value := by
  cases shelf with
  | none =>
      cases answered
      exact ⟨rfl, start, fun _ _ served => nomatch served⟩
  | some entry =>
      cases answered
      refine ⟨rfl, timed state start, ?_⟩
      intro value age served
      simp only [Cache.Terms.judge] at served
      split at served
      · cases served
      · cases served
        exact holds entry rfl

end Shelf

/-- Both shelves hold what would be produced, beside a state with the invariant. -/
def Stocked (invariant : σ → Prop) (listing : Except CallError (List VaultAccount))
    (rows : Except CallError (List Row)) (state : σ × Shelves) : Prop :=
  invariant state.1 ∧ Holds listing state.2.vaults ∧ Holds rows state.2.index

section Queries

variable {host : Host service σ} {clock : σ → Int × σ} {plan : Plan} {invariant : σ → Prop}
  {listing : Except CallError (List VaultAccount)} {rows : Except CallError (List Row)}

theorem stocked_noted
    (noted : ∀ line state, invariant state → invariant (host.note line state)) (line : Log.Line)
    (state : σ × Shelves) (stocked : Stocked invariant listing rows state) :
    Stocked invariant listing rows ((hostShelves host clock plan.terms).note line state) :=
  ⟨noted line state.1 stocked.1, stocked.2⟩

theorem say_yields (noted : ∀ line state, invariant state → invariant (host.note line state))
    (level : Log.Level) (source : Log.Source) (message : String) :
    Yields (hostShelves host clock plan.terms) (Stocked invariant listing rows)
      (Dialogue.say level source message) () :=
  Yields.say (stocked_noted noted) level source message

theorem outside_yields {α : Type} {dialogue : Dialogue service α} {result : α}
    (yields : Yields host invariant dialogue result) :
    Yields (hostShelves host clock plan.terms) (Stocked invariant listing rows)
      (outside dialogue) result := by
  rintro ⟨state, shelves⟩ ⟨start, stock⟩
  obtain ⟨found, after, run, same, holds⟩ := yields state start
  refine ⟨found, (after, shelves), ?_, same, holds, stock⟩
  rw [run_outside, run]

/-- A call for what one shelf keeps yields what would be produced, once a run of the producer does:
`get` and `put` find the shelf that is reached. -/
theorem shelf_yields {α : Type} {outcome : Except CallError α} {produce : Query α}
    {reach : (ask : Cache.Ask α) → Dialogue (withShelves service) ask.Reply}
    (get : Shelves → Option (Cache.Entry α)) (put : Option (Cache.Entry α) → Shelves → Shelves)
    (reaches : ∀ ask state shelves,
      (reach ask).run (hostShelves host clock plan.terms) (state, shelves) =
        (some (answerShelf clock plan.terms (get shelves) ask state).1,
          (answerShelf clock plan.terms (get shelves) ask state).2.2,
          put (answerShelf clock plan.terms (get shelves) ask state).2.1 shelves))
    (held : ∀ state, Stocked invariant listing rows state → Holds outcome (get state.2))
    (putting : ∀ state shelf, Stocked invariant listing rows state → Holds outcome shelf →
      Stocked invariant listing rows (state.1, put shelf state.2))
    (noted : ∀ line state, invariant state → invariant (host.note line state))
    (timed : ∀ state, invariant state → invariant (clock state).2)
    (produced : Yields (hostShelves host clock plan.terms) (Stocked invariant listing rows)
      produce.run outcome) :
    Yields (hostShelves host clock plan.terms) (Stocked invariant listing rows)
      (Cache.get plan.terms reach produce).run outcome := by
  refine Cache.get_yields (stocked_noted noted) ?_ produced ?_
  · rintro ⟨state, shelves⟩ stocked
    have run := reaches .consult state shelves
    rcases answered : answerShelf clock plan.terms (get shelves) .consult state with
      ⟨verdict, left, after⟩
    obtain ⟨rfl, holds, serves⟩ :=
      consult_holds timed plan.terms (held _ stocked) stocked.1 answered
    rw [answered] at run
    exact ⟨verdict, _, run, putting (after, shelves) _ ⟨holds, stocked.2⟩ (held _ stocked), serves⟩
  · rintro value produces ⟨state, shelves⟩ stocked
    exact ⟨(), _, reaches (.keep value) state shelves, rfl,
      putting ((clock state).2, shelves) _ ⟨timed state stocked.1, stocked.2⟩ (holds_some produces)⟩

variable {truth : Truth} {pages : Nat}
  (truthful : Truthful host plan.patience invariant truth)
  (timed : ∀ state, invariant state → invariant (clock state).2)
  (drains : truth.Drains none pages listing) (allowed : pages ≤ plan.allowance)
include truthful timed drains allowed

theorem listVaults_yields :
    Yields (hostShelves host clock plan.terms) (Stocked invariant listing rows)
      (listVaults plan).run listing :=
  shelf_yields Shelves.vaults (fun shelf shelves => { shelves with vaults := shelf })
    (fun _ _ _ => rfl) (fun _ stocked => stocked.2.1)
    (fun _ _ stocked holds => ⟨stocked.1, holds, stocked.2.2⟩) truthful.noted timed
    (outside_yields (truthful.fetchVaults drains allowed))

theorem addressIndex_yields :
    Yields (hostShelves host clock plan.terms)
      (Stocked invariant listing (truth.index listing)) (addressIndex plan).run
      (truth.index listing) := by
  refine shelf_yields Shelves.index (fun shelf shelves => { shelves with index := shelf })
    (fun _ _ _ => rfl) (fun _ stocked => stocked.2.2)
    (fun _ _ stocked holds => ⟨stocked.1, stocked.2.1, holds⟩) truthful.noted timed ?_
  refine (listVaults_yields truthful timed drains allowed).bindTask fun vaults _ => ?_
  exact outside_yields (truthful.buildIndex vaults)

theorem resolve_yields (address : String) :
    Yields (hostShelves host clock plan.terms) (Stocked invariant listing (truth.index listing))
      (resolve plan address).run (truth.ownerAt listing address) := by
  refine (addressIndex_yields truthful timed drains allowed).bindTask fun rows _ => ?_
  change Yields _ _ _ (Except.ok (ownerOf rows address))
  cases ownerOf rows address with
  | none =>
      exact (say_yields truthful.noted _ _ _).lift.afterValue (Yields.pure _)
  | some vaultId =>
      exact (say_yields truthful.noted _ _ _).lift.afterValue (Yields.pure _)

theorem balance_yields (deposit token : String) :
    Yields (hostShelves host clock plan.terms) (Stocked invariant listing (truth.index listing))
      (balance plan deposit token).run (truth.amountOf listing token) := by
  refine (addressIndex_yields truthful timed drains allowed).bindTask fun rows _ => ?_
  unfold rowOfToken Row.isOfToken
  cases rows.find? fun row => row.assetAddress.any (Address.agree · token) with
  | none =>
      exact (say_yields truthful.noted _ _ _).lift.afterValue (Yields.pure _)
  | some row =>
      refine (say_yields truthful.noted _ _ _).lift.afterValue ?_
      exact (outside_yields (truthful.told _)).bindTask fun _ _ => Yields.pure _

omit truthful timed drains allowed in
theorem invalidate_yields :
    Yields (hostShelves host clock plan.terms) (Stocked invariant listing rows) invalidate () := by
  rintro ⟨state, shelves⟩ stocked
  exact ⟨(), (state, ⟨none, none⟩), rfl, rfl, stocked.1, holds_none, holds_none⟩

theorem perform_yields (request : Request) (own : ∀ call, request ≠ .call call) :
    Yields (hostShelves host clock plan.terms)
      (Stocked invariant listing (truth.index listing)) (request.perform plan).run
      (truth.answer listing request) := by
  cases request with
  | listVaults =>
      exact (listVaults_yields truthful timed drains allowed).bindTask fun _ _ => Yields.pure _
  | addressIndex =>
      exact (addressIndex_yields truthful timed drains allowed).bindTask fun _ _ => Yields.pure _
  | resolve address =>
      exact (resolve_yields truthful timed drains allowed address).bindTask
        fun _ _ => Yields.pure _
  | balance deposit token =>
      exact (balance_yields truthful timed drains allowed deposit token).bindTask
        fun _ _ => Yields.pure _
  | invalidate => exact invalidate_yields.lift.afterValue (Yields.pure _)
  | call c => exact absurd rfl (own c)

end Queries

/-! ## Requests one after the other -/

def transcript {τ : Type} (host : Host (withShelves service) τ) (plan : Plan) :
    List Request → τ → List (Option (Except CallError Response))
  | [], _ => []
  | request :: rest, state =>
      let ended := (request.perform plan).run.run host state
      ended.1 :: transcript host plan rest ended.2

/-- Requests that all yield what they should, from every state with an invariant, are all answered
as they should be. -/
theorem transcript_of_yields {τ : Type} {host : Host (withShelves service) τ} {plan : Plan}
    {invariant : τ → Prop} {expected : Request → Except CallError Response}
    (requests : List Request)
    (yields : ∀ request ∈ requests,
      Yields host invariant (request.perform plan).run (expected request))
    {state : τ} (start : invariant state) :
    transcript host plan requests state = requests.map fun request => some (expected request) := by
  induction requests generalizing state with
  | nil => rfl
  | cons request rest ih =>
      obtain ⟨_, after, run, rfl, holds⟩ := yields request List.mem_cons_self state start
      have left := ih (fun other member => yields other (List.mem_cons_of_mem _ member)) holds
      rw [transcript, run, List.map_cons, left]

/-- The answers of a new directory to requests that are made one after the other. -/
def Weather.session (weather : Weather) (plan : Plan) (requests : List Request) :
    List (Option (Except CallError Response)) :=
  transcript (hostShelves weather.host weather.clock plan.terms) plan requests
    (⟨0, 0, 0⟩, Shelves.empty)

/-- Whatever the terms of the caches, the readings of the clock and the spells of throttling that
the directory's patience lasts for: every request is answered as from the service alone. -/
theorem session_eq_answers (weather : Weather) (plan : Plan) {pages : Nat}
    {listing : Except CallError (List VaultAccount)}
    (gentle : ∀ n, (weather.throttles n).length ≤ plan.patience.maxRetries)
    (drains : weather.truth.Drains none pages listing) (allowed : pages ≤ plan.allowance)
    (requests : List Request) (own : ∀ call, .call call ∉ requests) :
    weather.session plan requests =
      requests.map fun request => some (weather.truth.answer listing request) := by
  have start : Stocked (fun moment : Moment => moment.refused = 0) listing
      (weather.truth.index listing) (⟨0, 0, 0⟩, Shelves.empty) := ⟨rfl, holds_none, holds_none⟩
  refine transcript_of_yields requests ?_ start
  intro request member
  refine perform_yields (weather.truthful gentle) (fun _ fresh => fresh) drains allowed request ?_
  rintro call rfl
  exact own call member

/-- Two vaults on two pages; deposits go to the vault's own name, and no balance is known. -/
def twoPages : Truth
  | .listVaults none => .ok (some ⟨[⟨"v1", none, [⟨"eth"⟩]⟩], some ⟨some "next"⟩⟩)
  | .listVaults (some _) => .ok (some ⟨[⟨"v2", none, [⟨"usd"⟩]⟩], none⟩)
  | .depositAddresses vaultId _ => .ok [⟨vaultId⟩]
  | .assetDetails assetId => .ok ⟨some ⟨some assetId, none⟩⟩
  | .assetBalance _ _ => .error (.status 404 "unknown")

def gale : Weather where
  truth := twoPages
  settled := by
    intro call
    cases call with
    | listVaults cursor => cases cursor <;> rfl
    | depositAddresses vaultId assetId => rfl
    | assetDetails assetId => rfl
    | assetBalance vaultId assetId => rfl
  throttles := fun _ => [some "5"]
  readings := fun n => -n

def hasty : Plan := ⟨⟨1, 1000⟩, ⟨60, .afterTtl⟩, 2⟩

def visit : List Request :=
  [.resolve "v2", .invalidate, .resolve "v3", .balance "v1" "usd"]

/-- The answers to the visit in the gale. -/
theorem session_gale :
    (∀ n, (gale.throttles n).length ≤ hasty.patience.maxRetries) ∧
    (∃ listing, gale.truth.Drains none 2 listing) ∧ 2 ≤ hasty.allowance ∧
    (∀ call, .call call ∉ visit) ∧
    gale.session hasty visit =
      [some (.ok (.found (some "v2"))), some (.ok .invalidated), some (.ok (.found none)),
        some (.error (.status 404 "unknown"))] := by
  have gentle : ∀ n, (gale.throttles n).length ≤ hasty.patience.maxRetries :=
    fun _ => Nat.le_refl 1
  have own : ∀ call, .call call ∉ visit := by
    intro call member
    simp [visit] at member
  have rest : gale.truth.Drains (some "next") 1 _ := .last rfl (.inr rfl)
  have drains : gale.truth.Drains none 2 _ := .more rfl (by simp) rfl rest
  refine ⟨gentle, ⟨_, drains⟩, Nat.le_refl 2, own, ?_⟩
  rw [session_eq_answers gale hasty gentle drains (Nat.le_refl 2) visit own]
  rfl

end Directory

end DepositDirectory
