import DepositDirectory.Directory.Request
import DepositDirectory.Proofs.Custody.LogicalCall
import DepositDirectory.Proofs.Dialogue.Progress

/-!
# What a query asks, and after what

A query looks at a shelf first.  When it is not served it produces what it wants: it drains the
vault listing, or it comes by a listing and looks up the holdings.  Only then it puts on the shelf
what it has come to.  So whatever a query asks, all that it has been told before is known in full
but for the work in progress; and so is all that a query was told that has ended.
-/

namespace DepositDirectory

open Dialogue (Asks Reaches)

/-! ## The value of a cache -/

namespace Cache

variable {I : Interface} {ε α : Type} {terms : Terms}
  {reach : (ask : Ask α) → Dialogue I ask.Reply} {produce : Task I ε α}
  {exchanges : List (Exchange I)}

/-- A call for the value of a cache looks, produces when it is refused, and keeps the value. -/
theorem asks_of_get {question : I.Ask}
    (asks : Asks (get terms reach produce).run exchanges question) :
    Asks (reach .consult) exchanges question ∨
      ∃ looked later, exchanges = looked ++ later ∧ Reaches (reach .consult) looked .refresh ∧
        (Asks produce.run later question ∨
          ∃ made value kept, later = made ++ kept ∧ Reaches produce.run made (.ok value) ∧
            Asks (reach (.keep value)) kept question) := by
  rcases Dialogue.asks_of_lift_bind asks with
    begun | ⟨looked, verdict, later, rfl, reached, rest⟩
  · exact Or.inl begun
  · cases verdict with
    | serve value age => exact absurd (Dialogue.asks_note_iff.mp rest) Dialogue.not_asks_pure
    | refresh =>
        refine Or.inr ⟨looked, later, rfl, reached, ?_⟩
        rcases Dialogue.asks_of_task_bind rest with begun | ⟨made, value, kept, rfl, ran, ended⟩
        · exact Or.inl begun
        · exact Or.inr ⟨made, value, kept, rfl, ran,
            Dialogue.asks_of_lift (Dialogue.asks_of_task_map ended)⟩

/-- What a call for the value of a cache comes to is served, or produced and kept, or the failure of
producing it. -/
theorem cases_of_reaches_get {outcome : Except ε α}
    (reaches : Reaches (get terms reach produce).run exchanges outcome) :
    (∃ value age, outcome = .ok value ∧ Reaches (reach .consult) exchanges (.serve value age)) ∨
      ∃ looked later, exchanges = looked ++ later ∧ Reaches (reach .consult) looked .refresh ∧
        ((∃ cause, outcome = .error cause ∧ Reaches produce.run later (.error cause)) ∨
          ∃ made value kept, later = made ++ kept ∧ outcome = .ok value ∧
            Reaches produce.run made (.ok value) ∧ Reaches (reach (.keep value)) kept ()) := by
  obtain ⟨looked, verdict, later, rfl, reached, rest⟩ :=
    Dialogue.reaches_lift_bind_iff.mp reaches
  cases verdict with
  | serve value age =>
      have ended := Dialogue.reaches_tell_bind_iff.mp rest
      obtain ⟨rfl, rfl⟩ := Dialogue.reaches_task_pure_iff.mp ended
      rw [List.append_nil]
      exact Or.inl ⟨value, age, rfl, reached⟩
  | refresh =>
      refine Or.inr ⟨looked, later, rfl, reached, ?_⟩
      rcases Dialogue.reaches_task_bind_iff.mp rest with
        failed | ⟨made, value, kept, rfl, ran, ended⟩
      · exact Or.inl failed
      · obtain ⟨stored, _, _, rfl, reached, finished⟩ := Dialogue.reaches_lift_bind_iff.mp ended
        obtain ⟨rfl, rfl⟩ := Dialogue.reaches_task_pure_iff.mp finished
        rw [List.append_nil]
        exact Or.inr ⟨made, value, stored, rfl, rfl, ran, reached⟩

end Cache

namespace Directory

open Custody (AssetHolding Call CallError LogicalCall VaultAccount service)
open Custody.LogicalCall (exchanges)

/-! ## Asking the outside -/

section

variable {I : Interface} {α : Type} {dialogue : Dialogue I α}
  {told : List (Exchange (withShelves I))}

/-- An exchange with the outside, as a query has it. -/
def abroad (exchange : Exchange I) : Exchange (withShelves I) :=
  ⟨.outside exchange.question, exchange.reply⟩

theorem reaches_outside_iff {result : α} :
    Reaches (outside dialogue) told result ↔
      ∃ exchanges, told = exchanges.map abroad ∧ Reaches dialogue exchanges result := by
  constructor
  · intro reaches
    induction dialogue generalizing told with
    | done value =>
        cases reaches
        exact ⟨[], rfl, .done _⟩
    | unfinished => cases reaches
    | ask question next ih =>
        cases reaches with
        | @ask _ _ reply _ _ onward =>
            obtain ⟨exchanges, rfl, rest⟩ := ih _ onward
            exact ⟨⟨question, reply⟩ :: exchanges, rfl, .ask rest⟩
    | sleep ms next ih =>
        obtain ⟨exchanges, same, rest⟩ := ih (Dialogue.reaches_sleep_iff.mp reaches)
        exact ⟨exchanges, same, .sleep rest⟩
    | note line next ih =>
        obtain ⟨exchanges, same, rest⟩ := ih (Dialogue.reaches_note_iff.mp reaches)
        exact ⟨exchanges, same, .note rest⟩
  · rintro ⟨exchanges, rfl, reaches⟩
    induction reaches with
    | done value => exact .done _
    | ask rest ih => exact .ask ih
    | sleep rest ih => exact .sleep ih
    | note rest ih => exact .note ih

theorem asks_of_outside {question : Ask I}
    (asks : Asks (I := withShelves I) (outside dialogue) told question) :
    ∃ exchanges asked, told = exchanges.map abroad ∧ question = .outside asked ∧
      Asks dialogue exchanges asked := by
  obtain ⟨further, leads⟩ := asks
  induction dialogue generalizing told with
  | done value => cases leads
  | unfinished => cases leads
  | ask asked next ih =>
      cases leads with
      | start => exact ⟨[], asked, rfl, rfl, next, .start _⟩
      | @ask _ _ reply _ _ onward =>
          obtain ⟨exchanges, call, rfl, rfl, further, rest⟩ := ih _ onward
          exact ⟨⟨asked, reply⟩ :: exchanges, call, rfl, rfl, further, .ask rest⟩
  | sleep ms next ih =>
      cases leads with
      | sleep onward =>
          obtain ⟨exchanges, call, same, asked, further, rest⟩ := ih onward
          exact ⟨exchanges, call, same, asked, further, .sleep rest⟩
  | note line next ih =>
      cases leads with
      | note onward =>
          obtain ⟨exchanges, call, same, asked, further, rest⟩ := ih onward
          exact ⟨exchanges, call, same, asked, further, .note rest⟩

end

/-! ## What sort of calls are made -/

section

open Dialogue (AsksOnly)

variable {α : Type} {patience : Patience} {c : Call}

theorem not_asks_standing {budget : Nat} {standing : Except CallError α}
    {exchanges : List (Exchange service)} {question : Call} :
    ¬ Asks (I := service) (Patience.tellFinal budget standing >>= fun _ => pure standing)
      exchanges question := by
  intro asks
  cases standing with
  | ok value => exact Dialogue.not_asks_pure asks
  | error error => cases error <;> exact Dialogue.not_asks_pure (Dialogue.asks_note_iff.mp asks)

/-- A call that is made patiently is made again and again, but no other. -/
theorem asksOnly_execute (sort : Call → Prop) (sorted : sort c) :
    AsksOnly (I := service) sort (patience.execute (Custody.call c)) := by
  intro exchanges question asks
  change Asks (I := service)
    (patience.attempt patience.maxRetries (Custody.call c).run patience.maxRetries) _ _ at asks
  revert asks
  generalize patience.maxRetries = budget
  suffices attempts : ∀ left exchanges, Asks (I := service)
      (patience.attempt budget (Custody.call c).run left) exchanges question → sort question from
    attempts budget exchanges
  intro left
  induction left with
  | zero =>
      intro exchanges asks
      rcases Dialogue.asks_of_bind asks with first | ⟨_, outcome, _, _, _, rest⟩
      · obtain ⟨_, rfl⟩ := Dialogue.asks_query_iff.mp first
        exact sorted
      · exact absurd rest not_asks_standing
  | succ left ih =>
      intro exchanges asks
      rcases Dialogue.asks_of_bind asks with first | ⟨_, outcome, later, _, _, rest⟩
      · obtain ⟨_, rfl⟩ := Dialogue.asks_query_iff.mp first
        exact sorted
      · rcases outcome with (hint | ⟨code, body⟩ | text | text) | value
        case error.rateLimited =>
          exact ih later (Dialogue.asks_sleep_iff.mp (Dialogue.asks_note_iff.mp rest))
        all_goals exact absurd rest not_asks_standing

theorem asksOnly_vaultRows (vault : VaultAccount) (assets : List AssetHolding) :
    AsksOnly (I := service) (fun call : Call => call.asksForPage = false)
      (vaultRows patience vault assets) := by
  induction assets with
  | nil => exact .pure []
  | cons holding rest ih =>
      refine .bind ?_ fun rows => ih.bind fun more => .pure _
      refine .bind (asksOnly_execute _ rfl) fun deposits => ?_
      refine .bind (asksOnly_execute _ rfl) fun details => ?_
      exact .say (.pure _)

theorem asksOnly_lookUp (vaults : List VaultAccount) :
    AsksOnly (I := service) (fun call : Call => call.asksForPage = false)
      (lookUp patience vaults) := by
  induction vaults with
  | nil => exact .pure []
  | cons vault rest ih =>
      exact (asksOnly_vaultRows vault vault.assets).bind fun rows => ih.bind fun more => .pure _

theorem asksOnly_buildIndex (vaults : List VaultAccount) :
    AsksOnly (I := service) (fun call : Call => call.asksForPage = false)
      (buildIndex patience vaults) :=
  (asksOnly_lookUp vaults).bind fun _ => .say (.pure _)

end

/-! ## Coming by a listing -/

/-- A question of a query and the reply that it got. -/
abbrev Told := Exchange (withShelves service)

variable {plan : Plan} {told : List Told} {question : Ask service}

def listingRefused : Told := ⟨.vaults .consult, .refresh⟩

def listingServed (vaults : List VaultAccount) (age : Int) : Told :=
  ⟨.vaults .consult, .serve vaults age⟩

def listingKept (vaults : List VaultAccount) : Told := ⟨.vaults (.keep vaults), ()⟩

/-- What a call for the vault listing asks, after what it was told. -/
inductive ListingAsks (plan : Plan) : List Told → Ask service → Prop where
  | look : ListingAsks plan [] (.vaults .consult)
  | page {drained : List (Exchange service)} {call : Call}
      (asks : Asks (fetchVaults plan.patience plan.allowance).run drained call) :
      ListingAsks plan (listingRefused :: drained.map abroad) (.outside call)
  | keep {drained : List (Exchange service)} {vaults : List VaultAccount}
      (fetched : Reaches (fetchVaults plan.patience plan.allowance).run drained (.ok vaults)) :
      ListingAsks plan (listingRefused :: drained.map abroad) (.vaults (.keep vaults))

/-- What a call for the vault listing was told, and what it came to. -/
inductive ListingTells (plan : Plan) :
    List Told → Except CallError (List VaultAccount) → Prop where
  | served (vaults : List VaultAccount) (age : Int) :
      ListingTells plan [listingServed vaults age] (.ok vaults)
  | failed {drained : List (Exchange service)} {cause : CallError}
      (fails : Reaches (fetchVaults plan.patience plan.allowance).run drained (.error cause)) :
      ListingTells plan (listingRefused :: drained.map abroad) (.error cause)
  | drained {drained : List (Exchange service)} {vaults : List VaultAccount}
      (fetched : Reaches (fetchVaults plan.patience plan.allowance).run drained (.ok vaults)) :
      ListingTells plan (listingRefused :: (drained.map abroad ++ [listingKept vaults]))
        (.ok vaults)

theorem listingAsks_of_asks (asks : Asks (I := withShelves service) (listVaults plan).run told
    question) : ListingAsks plan told question := by
  rcases Cache.asks_of_get asks with
    look | ⟨looked, _, rfl, refused, produces | ⟨made, vaults, _, rfl, fetched, kept⟩⟩
  · obtain ⟨rfl, rfl⟩ := Dialogue.asks_query_iff.mp look
    exact .look
  · cases Dialogue.reaches_query_iff.mp refused
    obtain ⟨drained, call, rfl, rfl, paging⟩ := asks_of_outside produces
    exact .page paging
  · cases Dialogue.reaches_query_iff.mp refused
    obtain ⟨rfl, rfl⟩ := Dialogue.asks_query_iff.mp kept
    obtain ⟨drained, rfl, reaches⟩ := reaches_outside_iff.mp fetched
    rw [List.append_nil]
    exact .keep reaches

theorem listingTells_of_reaches {outcome : Except CallError (List VaultAccount)}
    (reaches : Reaches (listVaults plan).run told outcome) : ListingTells plan told outcome := by
  rcases Cache.cases_of_reaches_get reaches with ⟨vaults, age, rfl, served⟩ |
    ⟨looked, _, rfl, refused, ⟨cause, rfl, failed⟩ | ⟨made, vaults, _, rfl, rfl, fetched, kept⟩⟩
  · cases Dialogue.reaches_query_iff.mp served
    exact .served vaults age
  · cases Dialogue.reaches_query_iff.mp refused
    obtain ⟨drained, rfl, fails⟩ := reaches_outside_iff.mp failed
    exact .failed fails
  · cases Dialogue.reaches_query_iff.mp refused
    cases Dialogue.reaches_query_iff.mp kept
    obtain ⟨drained, rfl, drains⟩ := reaches_outside_iff.mp fetched
    exact .drained drains

/-! ## Coming by an index -/

def indexRefused : Told := ⟨.index .consult, .refresh⟩

def indexServed (rows : List Row) (age : Int) : Told := ⟨.index .consult, .serve rows age⟩

def indexKept (rows : List Row) : Told := ⟨.index (.keep rows), ()⟩

/-- What a call for the address index asks, after what it was told. -/
inductive IndexAsks (plan : Plan) : List Told → Ask service → Prop where
  | look : IndexAsks plan [] (.index .consult)
  | listing {listed : List Told} {question : Ask service}
      (asks : ListingAsks plan listed question) : IndexAsks plan (indexRefused :: listed) question
  | lookUp {listed : List Told} {vaults : List VaultAccount} {looked : List (Exchange service)}
      {call : Call} (tells : ListingTells plan listed (.ok vaults))
      (asks : Asks (buildIndex plan.patience vaults).run looked call) :
      IndexAsks plan (indexRefused :: (listed ++ looked.map abroad)) (.outside call)
  | keep {listed : List Told} {vaults : List VaultAccount} {looked : List (Exchange service)}
      {rows : List Row} (tells : ListingTells plan listed (.ok vaults))
      (built : Reaches (buildIndex plan.patience vaults).run looked (.ok rows)) :
      IndexAsks plan (indexRefused :: (listed ++ looked.map abroad)) (.index (.keep rows))

/-- What a call for the address index was told, and what it came to. -/
inductive IndexTells (plan : Plan) : List Told → Except CallError (List Row) → Prop where
  | served (rows : List Row) (age : Int) : IndexTells plan [indexServed rows age] (.ok rows)
  | unlisted {listed : List Told} {cause : CallError}
      (tells : ListingTells plan listed (.error cause)) :
      IndexTells plan (indexRefused :: listed) (.error cause)
  | unbuilt {listed : List Told} {vaults : List VaultAccount} {looked : List (Exchange service)}
      {cause : CallError} (tells : ListingTells plan listed (.ok vaults))
      (fails : Reaches (buildIndex plan.patience vaults).run looked (.error cause)) :
      IndexTells plan (indexRefused :: (listed ++ looked.map abroad)) (.error cause)
  | built {listed : List Told} {vaults : List VaultAccount} {looked : List (Exchange service)}
      {rows : List Row} (tells : ListingTells plan listed (.ok vaults))
      (built : Reaches (buildIndex plan.patience vaults).run looked (.ok rows)) :
      IndexTells plan (indexRefused :: (listed ++ (looked.map abroad ++ [indexKept rows])))
        (.ok rows)

theorem indexAsks_of_asks (asks : Asks (I := withShelves service) (addressIndex plan).run told
    question) : IndexAsks plan told question := by
  rcases Cache.asks_of_get asks with
    look | ⟨looked, _, rfl, refused, produces | ⟨made, rows, _, rfl, produced, kept⟩⟩
  · obtain ⟨rfl, rfl⟩ := Dialogue.asks_query_iff.mp look
    exact .look
  · cases Dialogue.reaches_query_iff.mp refused
    rcases Dialogue.asks_of_task_bind produces with
      listing | ⟨listed, vaults, _, rfl, reached, builds⟩
    · exact .listing (listingAsks_of_asks listing)
    · obtain ⟨looked, call, rfl, rfl, looking⟩ := asks_of_outside builds
      exact .lookUp (listingTells_of_reaches reached) looking
  · cases Dialogue.reaches_query_iff.mp refused
    obtain ⟨rfl, rfl⟩ := Dialogue.asks_query_iff.mp kept
    obtain ⟨listed, vaults, _, rfl, reached, builds⟩ :=
      Dialogue.reaches_task_bind_ok_iff.mp produced
    obtain ⟨looked, rfl, reaches⟩ := reaches_outside_iff.mp builds
    rw [List.append_nil]
    exact .keep (listingTells_of_reaches reached) reaches

theorem indexTells_of_reaches {outcome : Except CallError (List Row)}
    (reaches : Reaches (addressIndex plan).run told outcome) : IndexTells plan told outcome := by
  rcases Cache.cases_of_reaches_get reaches with ⟨rows, age, rfl, served⟩ |
    ⟨looked, _, rfl, refused, ⟨cause, rfl, failed⟩ | ⟨made, rows, _, rfl, rfl, produced, kept⟩⟩
  · cases Dialogue.reaches_query_iff.mp served
    exact .served rows age
  · cases Dialogue.reaches_query_iff.mp refused
    rcases Dialogue.reaches_task_bind_iff.mp failed with
      ⟨cause, same, unlisted⟩ | ⟨listed, vaults, _, rfl, reached, builds⟩
    · cases same
      exact .unlisted (listingTells_of_reaches unlisted)
    · obtain ⟨looked, rfl, fails⟩ := reaches_outside_iff.mp builds
      exact .unbuilt (listingTells_of_reaches reached) fails
  · cases Dialogue.reaches_query_iff.mp refused
    cases Dialogue.reaches_query_iff.mp kept
    obtain ⟨listed, vaults, _, rfl, reached, builds⟩ :=
      Dialogue.reaches_task_bind_ok_iff.mp produced
    obtain ⟨looked, rfl, ended⟩ := reaches_outside_iff.mp builds
    rw [List.append_assoc]
    exact .built (listingTells_of_reaches reached) ended

/-! ## Whole queries -/

def Request.usesIndex : Request → Bool
  | addressIndex => true
  | resolve _ => true
  | balance _ _ => true
  | _ => false

def listingDropped : Told := ⟨.vaults .forget, ()⟩

def indexDropped : Told := ⟨.index .forget, ()⟩

/-- Whether an exchange empties a shelf. -/
def empties : Told → Bool
  | ⟨.vaults .forget, _⟩ => true
  | ⟨.index .forget, _⟩ => true
  | _ => false

/-- What a query asks, after what it was told. -/
inductive QueryAsks (plan : Plan) : Request → List Told → Ask service → Prop where
  | listing {told : List Told} {question : Ask service} (asks : ListingAsks plan told question) :
      QueryAsks plan .listVaults told question
  | index {request : Request} {told : List Told} {question : Ask service}
      (uses : request.usesIndex = true) (asks : IndexAsks plan told question) :
      QueryAsks plan request told question
  | amount {deposit token : String} {indexed : List Told} {rows : List Row} {row : Row}
      {told : List (Exchange service)} {call : Call} (tells : IndexTells plan indexed (.ok rows))
      (found : rowOfToken rows token = some row)
      (asks : Asks (plan.patience.execute
        (Custody.call (.assetBalance row.vaultId row.assetId))).run told call) :
      QueryAsks plan (.balance deposit token) (indexed ++ told.map abroad) (.outside call)
  | dropListing : QueryAsks plan .invalidate [] (.vaults .forget)
  | dropIndex : QueryAsks plan .invalidate [listingDropped] (.index .forget)
  | call (c : Call) : QueryAsks plan (.call c) [] (.outside c)

/-- What a query was told, and what it came to. -/
inductive QueryTells (plan : Plan) : Request → List Told → Except CallError Response → Prop where
  | listing {told : List Told} {outcome : Except CallError (List VaultAccount)}
      (tells : ListingTells plan told outcome) :
      QueryTells plan .listVaults told (outcome.map .vaults)
  | index {told : List Told} {outcome : Except CallError (List Row)}
      (tells : IndexTells plan told outcome) :
      QueryTells plan .addressIndex told (outcome.map .rows)
  | owner {address : String} {told : List Told} {outcome : Except CallError (List Row)}
      (tells : IndexTells plan told outcome) :
      QueryTells plan (.resolve address) told
        (outcome.map fun rows => .found (ownerOf rows address))
  | unindexed {deposit token : String} {told : List Told} {cause : CallError}
      (tells : IndexTells plan told (.error cause)) :
      QueryTells plan (.balance deposit token) told (.error cause)
  | unheld {deposit token : String} {told : List Told} {rows : List Row}
      (tells : IndexTells plan told (.ok rows)) (absent : rowOfToken rows token = none) :
      QueryTells plan (.balance deposit token) told (.ok (.found none))
  | amount {deposit token : String} {indexed : List Told} {rows : List Row} {row : Row}
      {tries : Tries Custody.AssetBalance} (tells : IndexTells plan indexed (.ok rows))
      (found : rowOfToken rows token = some row) (within : tries.Within plan.patience.maxRetries) :
      QueryTells plan (.balance deposit token)
        (indexed ++ (exchanges ⟨.assetBalance row.vaultId row.assetId, tries⟩).map abroad)
        (tries.outcome.map fun amounts => .found (some amounts.available))
  | dropped : QueryTells plan .invalidate [listingDropped, indexDropped] (.ok .invalidated)
  | call {c : Call} (outcome : Except CallError c.Result) :
      QueryTells plan (.call c) [⟨.outside c, outcome⟩] (outcome.map (.ofCall c))

theorem queryAsks_of_asks {request : Request}
    (asks : Asks (I := withShelves service) (request.perform plan).run told question) :
    QueryAsks plan request told question := by
  cases request with
  | listVaults => exact .listing (listingAsks_of_asks (Dialogue.asks_of_task_map asks))
  | addressIndex => exact .index rfl (indexAsks_of_asks (Dialogue.asks_of_task_map asks))
  | resolve address =>
      rcases Dialogue.asks_of_task_bind (Dialogue.asks_of_task_map asks) with
        indexing | ⟨indexed, rows, later, rfl, reached, rest⟩
      · exact .index rfl (indexAsks_of_asks indexing)
      · cases found : ownerOf rows address with
        | none =>
            rw [found] at rest
            exact absurd (Dialogue.asks_note_iff.mp rest) Dialogue.not_asks_pure
        | some vaultId =>
            rw [found] at rest
            exact absurd (Dialogue.asks_note_iff.mp rest) Dialogue.not_asks_pure
  | balance deposit token =>
      rcases Dialogue.asks_of_task_bind (Dialogue.asks_of_task_map asks) with
        indexing | ⟨indexed, rows, later, rfl, reached, rest⟩
      · exact .index rfl (indexAsks_of_asks indexing)
      · cases found : rowOfToken rows token with
        | none =>
            rw [found] at rest
            exact absurd (Dialogue.asks_note_iff.mp rest) Dialogue.not_asks_pure
        | some row =>
            rw [found] at rest
            have calling := Dialogue.asks_of_task_map (Dialogue.asks_note_iff.mp rest)
            obtain ⟨exchanges, call, rfl, rfl, attempting⟩ := asks_of_outside calling
            exact .amount (indexTells_of_reaches reached) found attempting
  | invalidate =>
      have dropping := Dialogue.asks_of_lift (Dialogue.asks_of_task_map asks)
      rcases Dialogue.asks_of_bind dropping with first | ⟨earlier, _, later, rfl, begun, second⟩
      · obtain ⟨rfl, rfl⟩ := Dialogue.asks_query_iff.mp first
        exact .dropListing
      · cases Dialogue.reaches_query_iff.mp begun
        obtain ⟨rfl, rfl⟩ := Dialogue.asks_query_iff.mp second
        exact .dropIndex
  | call c =>
      obtain ⟨exchanges, call, rfl, rfl, calling⟩ :=
        asks_of_outside (Dialogue.asks_of_task_map asks)
      obtain ⟨rfl, rfl⟩ := Dialogue.asks_query_iff.mp calling
      exact .call _

theorem queryTells_of_reaches {request : Request} {outcome : Except CallError Response}
    (reaches : Reaches (request.perform plan).run told outcome) :
    QueryTells plan request told outcome := by
  cases request with
  | listVaults =>
      obtain ⟨reached, rfl, rest⟩ := Dialogue.reaches_task_map_iff.mp reaches
      exact .listing (listingTells_of_reaches rest)
  | addressIndex =>
      obtain ⟨reached, rfl, rest⟩ := Dialogue.reaches_task_map_iff.mp reaches
      exact .index (indexTells_of_reaches rest)
  | resolve address =>
      obtain ⟨reached, rfl, rest⟩ := Dialogue.reaches_task_map_iff.mp reaches
      rcases Dialogue.reaches_task_bind_iff.mp rest with
        ⟨cause, rfl, failed⟩ | ⟨indexed, rows, later, rfl, tells, ended⟩
      · exact .owner (indexTells_of_reaches failed)
      · have owned : later = [] ∧ reached = .ok (ownerOf rows address) := by
          cases found : ownerOf rows address with
          | none =>
              rw [found] at ended
              exact Dialogue.reaches_task_pure_iff.mp (Dialogue.reaches_tell_bind_iff.mp ended)
          | some vaultId =>
              rw [found] at ended
              exact Dialogue.reaches_task_pure_iff.mp (Dialogue.reaches_tell_bind_iff.mp ended)
        obtain ⟨rfl, rfl⟩ := owned
        rw [List.append_nil]
        exact .owner (indexTells_of_reaches tells)
  | balance deposit token =>
      obtain ⟨reached, rfl, rest⟩ := Dialogue.reaches_task_map_iff.mp reaches
      rcases Dialogue.reaches_task_bind_iff.mp rest with
        ⟨cause, rfl, failed⟩ | ⟨indexed, rows, later, rfl, tells, ended⟩
      · exact .unindexed (indexTells_of_reaches failed)
      · cases found : rowOfToken rows token with
        | none =>
            rw [found] at ended
            obtain ⟨rfl, rfl⟩ :=
              Dialogue.reaches_task_pure_iff.mp (Dialogue.reaches_tell_bind_iff.mp ended)
            rw [List.append_nil]
            exact .unheld (indexTells_of_reaches tells) found
        | some row =>
            rw [found] at ended
            obtain ⟨amounts, rfl, called⟩ :=
              Dialogue.reaches_task_map_iff.mp (Dialogue.reaches_tell_bind_iff.mp ended)
            obtain ⟨exchanges, rfl, executed⟩ := reaches_outside_iff.mp called
            obtain ⟨hints, within, rfl⟩ := Custody.reaches_execute_call_iff.mp executed
            rw [show (amounts.map fun amounts => some amounts.available).map Response.found =
              amounts.map fun amounts => .found (some amounts.available) by cases amounts <;> rfl]
            exact .amount (indexTells_of_reaches tells) found within
  | invalidate =>
      obtain ⟨_, rfl, rest⟩ := Dialogue.reaches_task_map_iff.mp reaches
      obtain ⟨_, rfl, dropping⟩ := Dialogue.reaches_lift_iff.mp rest
      obtain ⟨earlier, _, later, rfl, first, second⟩ := Dialogue.reaches_bind_iff.mp dropping
      cases Dialogue.reaches_query_iff.mp first
      cases Dialogue.reaches_query_iff.mp second
      exact .dropped
  | call c =>
      obtain ⟨reached, rfl, rest⟩ := Dialogue.reaches_task_map_iff.mp reaches
      obtain ⟨exchanges, rfl, asked⟩ := reaches_outside_iff.mp rest
      cases Dialogue.reaches_query_iff.mp asked
      exact .call reached

end Directory

end DepositDirectory
