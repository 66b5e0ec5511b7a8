import DepositDirectory.Proofs.Directory.Flattening
import DepositDirectory.Proofs.Http.Perform
import DepositDirectory.Proofs.Http.Requests
import DepositDirectory.Proofs.Url.Form
import DepositDirectory.Proofs.Url.Hosts

/-!
# Cursors in requests

A page of the listing is asked for with its cursor in the query, and reading the query gives the
cursor back, whatever characters are in it.  So in a drain over HTTP each request asks for the
cursor that the page before it named, as it was read from the body of that page.
-/

namespace DepositDirectory.Http

open Custody (Call CallError VaultAccount VaultPage)
open Dialogue (Reaches)
open Listing (Drain)
open Rehearsal (exchange reel replyOf run_reel_iff)
open Url (Orderly)

/-- The query of a URL says the cursor and nothing else; where there is no cursor, there is no
query. -/
def Carries (url : Url) (cursor : Option String) : Prop :=
  url.query.map (fun query => Url.ofFormPairs (String.ofList query)) =
    cursor.map fun cursor => [("after", cursor)]

theorem Carries.unique {url : Url} {cursor other : Option String} (carries : Carries url cursor)
    (too : Carries url other) : cursor = other := by
  have both := carries.symm.trans too
  have injective : Function.Injective fun cursor : String => [("after", cursor)] :=
    fun _ _ same => (Prod.mk.inj (List.cons.inj same).1).2
  exact Option.map_injective injective both

/-! ## Queries of requests -/

namespace Client

variable {client : Client} {url : Url}

/-- The pairs of a request are added to the query of its URL, and only the query and the user are
not as they were. -/
theorem url_of_request (host : url.hasHost = true) (query : List (String × String)) :
    (client.request url query).url =
      { (client.request url []).url with query := (url.addQuery query).query } := by
  unfold request
  rw [host]
  cases basicAuthorization? url <;> rfl

theorem scheme_of_request (query : List (String × String)) :
    (client.request url query).url.scheme = url.scheme := by
  unfold request
  cases url.hasHost <;> cases basicAuthorization? url <;> rfl

theorem query_addQuery (bare : url.query.getD [] = []) (pairs : List (String × String)) :
    (url.addQuery pairs).query =
      if Url.formPairs pairs = [] then none else some (Url.formPairs pairs) := by
  simp [Url.addQuery, bare]

/-- Where there was no query, the cursor is all that is in it. -/
theorem carries_request (host : url.hasHost = true) (bare : url.query.getD [] = [])
    (cursor : Option String) :
    Carries (client.request url (query (.listVaults cursor))).url cursor := by
  rw [url_of_request host, Carries, query_addQuery bare]
  cases cursor with
  | none => rfl
  | some cursor =>
      have filled : Url.formPairs [("after", cursor)] ≠ [] := by
        rw [Url.formPairs, List.map_singleton, List.intercalate_singleton, Url.formPair]
        exact List.append_ne_nil_of_right_ne_nil _ (List.cons_ne_nil _ _)
      have written : query (.listVaults (some cursor)) = [("after", cursor)] := rfl
      rw [written, if_neg filled, Option.map_some, Url.ofFormPairs_formPairs]
      rfl

end Client

theorem queryChars_injective {url : Url} {one other : Option (List Char)}
    (same : ({ url with query := one } : Url).queryChars =
      ({ url with query := other } : Url).queryChars) : one = other := by
  cases one with
  | none =>
      cases other with
      | none => rfl
      | some other => cases same
  | some one =>
      cases other with
      | none => cases same
      | some other => exact congrArg some (List.cons.inj same).2

theorem query_eq_of_text_eq {url : Url} {one other : Option (List Char)}
    (same : ({ url with query := one } : Url).text = ({ url with query := other } : Url).text) :
    one = other := by
  have chars := String.ofList_injective same
  exact queryChars_injective (List.append_cancel_left (List.append_cancel_right chars))

theorem query_eq_of_target_eq {url : Url} {one other : Option (List Char)}
    (same : ({ url with query := one } : Url).target = ({ url with query := other } : Url).target) :
    one = other :=
  queryChars_injective (List.append_cancel_left (String.ofList_injective same))

/-! ## Sending -/

section Sending

variable {proxies : Proxies} {request : Request} {told : List (Exchange network)}
  {result : Except SendError Reply}

theorem reaches_follow_cases {left : Nat}
    (reaches : Reaches (follow proxies left request) told result) :
    ∃ (reply : Except String Reply) (later : List (Exchange network)),
      told = ⟨request, reply⟩ :: later ∧
        ((later = [] ∧ ∀ held, result = .ok held → reply = .ok held) ∨
          ∃ fewer next, left = fewer + 1 ∧ Reaches (follow proxies fewer next) later result) := by
  rw [follow.eq_def] at reaches
  cases reaches with
  | @ask _ _ reply later _ rest =>
      refine ⟨reply, later, rfl, ?_⟩
      cases reply with
      | error cause =>
          cases rest
          refine Or.inl ⟨rfl, ?_⟩
          rintro held ⟨⟩
      | ok first =>
          dsimp only at rest
          split at rest
          · cases rest
            refine Or.inl ⟨rfl, ?_⟩
            rintro held ⟨⟩
            rfl
          · split at rest
            · cases rest
              refine Or.inl ⟨rfl, ?_⟩
              rintro held ⟨⟩
            · split at rest
              · exact Or.inr ⟨_, _, rfl, rest⟩
              · cases rest
                refine Or.inl ⟨rfl, ?_⟩
                rintro held ⟨⟩

/-- A request that is followed is made first, and the reply that this comes to is the last. -/
theorem exchanges_of_follow {left : Nat}
    (reaches : Reaches (follow proxies left request) told result) :
    told.head?.map Exchange.question = some request ∧
      ∀ reply, result = .ok reply →
        ∃ last : Request, told.getLast? = some ⟨last, Except.ok reply⟩ := by
  induction left generalizing request told with
  | zero =>
      obtain ⟨reply, later, rfl, ⟨rfl, known⟩ | ⟨fewer, next, impossible, _⟩⟩ :=
        reaches_follow_cases reaches
      · exact ⟨rfl, fun held comes => ⟨request, known held comes ▸ rfl⟩⟩
      · cases impossible
  | succ left ih =>
      obtain ⟨reply, later, rfl, ⟨rfl, known⟩ | ⟨fewer, next, same, rest⟩⟩ :=
        reaches_follow_cases reaches
      · exact ⟨rfl, fun held comes => ⟨request, known held comes ▸ rfl⟩⟩
      · cases same
        refine ⟨rfl, fun held comes => ?_⟩
        obtain ⟨last, found⟩ := (ih rest).2 held comes
        exact ⟨last, by rw [List.getLast?_cons, found]; rfl⟩

theorem exchanges_of_send (web : isWeb request.url = true)
    (reaches : Reaches (send proxies request) told result) :
    told.head?.map Exchange.question = (if isAskable request.url then some request else none) ∧
      ∀ reply, result = .ok reply →
        ∃ last : Request, told.getLast? = some ⟨last, Except.ok reply⟩ := by
  cases askable : isAskable request.url with
  | false =>
      rw [send_of_not_askable web askable] at reaches
      cases reaches
      exact ⟨rfl, nofun⟩
  | true =>
      have sent : send proxies request = follow proxies redirectLimit request := by
        rw [send, web, askable]
        rfl
      rw [sent] at reaches
      exact exchanges_of_follow reaches

end Sending

/-! ## Fetches -/

/-- One attempt to fetch a page over HTTP: the cursor that it asks for, what is exchanged for it,
and what it comes to. -/
structure Fetch where
  cursor : Option String
  told : List (Exchange network)
  outcome : Except CallError (Option VaultPage)

def Fetch.attempt (fetch : Fetch) : Option String × Except CallError (Option VaultPage) :=
  (fetch.cursor, fetch.outcome)

/-- A client makes a fetch: the call for its cursor comes to its outcome over what is exchanged.
That begins with the request for the cursor, if it can be asked for, and may go on with others that
the replies lead to; the outcome is read from the last reply, unless there is none that can be read
in full. -/
structure Client.Fetches [Json.Locator] (client : Client) (fetch : Fetch) : Prop where
  performed : Reaches (client.perform (.listVaults fetch.cursor)) fetch.told fetch.outcome
  asked : ∃ request, client.requestFor (.listVaults fetch.cursor) = .ok request ∧
    Carries request.url fetch.cursor ∧
    fetch.told.head?.map Exchange.question = if isAskable request.url then some request else none
  read : (∃ (last : Request) (reply : Reply) (body : String),
      fetch.told.getLast? = some ⟨last, Except.ok reply⟩ ∧ reply.bodyText = .ok body ∧
        fetch.outcome =
          Custody.Answer.read VaultPage ⟨reply.status, reply.retryAfter, body⟩) ∨
    ∃ cause, fetch.outcome = .error (.transport cause)

theorem Client.Fetches.carries [Json.Locator] {client : Client} {fetch : Fetch}
    (fetches : client.Fetches fetch) :
    ∀ first ∈ fetch.told.head?, Carries first.question.url fetch.cursor := by
  obtain ⟨request, _, carries, asked⟩ := fetches.asked
  intro first head
  rw [Option.mem_def.mp head, Option.map_some] at asked
  split at asked
  · cases asked
    exact carries
  · cases asked

/-- How a fetch leads to the next.  One that was throttled is made again; behind a page with items
that names a cursor, this cursor is fetched, and the request carries it. -/
inductive LeadsTo : Fetch → Fetch → Prop where
  | again {fetch next : Fetch} {hint : Option String}
      (throttled : fetch.outcome = .error (.rateLimited hint)) (same : next.cursor = fetch.cursor) :
      LeadsTo fetch next
  | onward {fetch next : Fetch} {page : VaultPage} {cursor : String}
      (read : fetch.outcome = .ok (some page)) (filled : page.accounts ≠ [])
      (named : page.nextCursor = some cursor) (asks : next.cursor = some cursor)
      (carries : ∀ first ∈ next.told.head?, Carries first.question.url (some cursor)) :
      LeadsTo fetch next

theorem exists_fetches {attempts : List (Option String × Except CallError (Option VaultPage))}
    {tolds : List (List (Exchange network))}
    {Made : Option String × Except CallError (Option VaultPage) → List (Exchange network) → Prop}
    (each : List.Forall₂ Made attempts tolds) :
    ∃ fetches : List Fetch, fetches.map Fetch.attempt = attempts ∧
      fetches.map Fetch.told = tolds ∧ ∀ fetch ∈ fetches, Made fetch.attempt fetch.told := by
  induction each with
  | nil => exact ⟨[], rfl, rfl, nofun⟩
  | @cons attempt told attempts tolds made _ ih =>
      obtain ⟨fetches, rfl, rfl, all⟩ := ih
      refine ⟨⟨attempt.1, told, attempt.2⟩ :: fetches, rfl, rfl, ?_⟩
      exact List.forall_mem_cons.mpr ⟨made, all⟩

theorem isChain_leadsTo [Json.Locator] {client : Client} {fetches : List Fetch}
    (made : ∀ fetch ∈ fetches, client.Fetches fetch)
    (chain : (fetches.map Fetch.attempt).IsChain Directory.vaultListing.GoesOn) :
    fetches.IsChain LeadsTo := by
  refine ((List.isChain_map Fetch.attempt).mp chain).imp_of_mem_imp ?_
  rintro ⟨cursor, told, outcome⟩ ⟨cursorToo, toldToo, outcomeToo⟩ _ member goesOn
  cases goesOn with
  | again => exact .again rfl rfl
  | onward filled named => exact .onward rfl filled named rfl (made _ member).carries

def listingUrl (client : Client) : Url :=
  { client.base with path := .parts (placed client.base (Client.segments (.listVaults none))) }

section Base

variable {client : Client} (orderly : Orderly client.base)

include orderly

theorem addSegments?_listVaults (cursor : Option String) :
    client.base.addSegments? (Client.segments (.listVaults cursor)) = some (listingUrl client) :=
  addSegments?_eq orderly _

theorem requestFor_listVaults (cursor : Option String) :
    client.requestFor (.listVaults cursor) =
      .ok (client.request (listingUrl client) (Client.query (.listVaults cursor))) :=
  requestFor_eq orderly _

variable (host : client.base.hasHost = true) (bare : client.base.query.getD [] = [])

include host bare

omit orderly bare in
theorem url_of_listVaults (cursor : Option String) :
    (client.request (listingUrl client) (Client.query (.listVaults cursor))).url =
      { (client.request (listingUrl client) []).url with
        query := ((listingUrl client).addQuery (Client.query (.listVaults cursor))).query } := by
  have named : (listingUrl client).hasHost = true := host
  exact Client.url_of_request named _

omit orderly in
theorem carries_listVaults (cursor : Option String) :
    Carries (client.request (listingUrl client) (Client.query (.listVaults cursor))).url
      cursor := by
  have named : (listingUrl client).hasHost = true := host
  have queryless : (listingUrl client).query.getD [] = [] := bare
  exact Client.carries_request named queryless cursor

theorem eq_of_requests_alike {cursor other : Option String} {one two : Request}
    (made : client.requestFor (.listVaults cursor) = .ok one)
    (too : client.requestFor (.listVaults other) = .ok two)
    (alike : one.url.target = two.url.target ∨ one.url.text = two.url.text) : cursor = other := by
  rw [requestFor_listVaults orderly] at made too
  cases made
  cases too
  have same : (client.request (listingUrl client) (Client.query (.listVaults cursor))).url =
      (client.request (listingUrl client) (Client.query (.listVaults other))).url := by
    rw [url_of_listVaults host, url_of_listVaults host] at alike ⊢
    rcases alike with target | text
    · rw [query_eq_of_target_eq target]
    · rw [query_eq_of_text_eq text]
  exact (carries_listVaults host bare cursor).unique (same ▸ carries_listVaults host bare other)

theorem fetches_of_perform [Json.Locator] (web : isWeb client.base) {fetch : Fetch}
    (reaches : Reaches (client.perform (.listVaults fetch.cursor)) fetch.told fetch.outcome) :
    client.Fetches fetch := by
  obtain ⟨cursor, told, outcome⟩ := fetch
  have performed := reaches
  rw [Client.perform_of_base (addSegments?_listVaults orderly cursor)] at reaches
  have asked : Reaches (send client.proxies (client.request (listingUrl client)
      (Client.query (.listVaults cursor))) >>= fun sent =>
        pure (Client.conclude (.listVaults cursor) (listingUrl client) sent)) told outcome :=
    Dialogue.reaches_note_iff.mp reaches
  obtain ⟨earlier, sent, later, rfl, sending, concluded⟩ := Dialogue.reaches_bind_iff.mp asked
  obtain ⟨rfl, rfl⟩ := Dialogue.reaches_pure_iff.mp concluded
  have webToo : isWeb (client.request (listingUrl client)
      (Client.query (.listVaults cursor))).url = true := by
    rw [isWeb, Client.scheme_of_request]
    exact web
  obtain ⟨first, last⟩ := exchanges_of_send webToo sending
  rw [List.append_nil] at performed ⊢
  refine ⟨performed, ⟨_, requestFor_listVaults orderly cursor, carries_listVaults host bare _,
    first⟩, ?_⟩
  cases sent with
  | error error => exact Or.inr ⟨_, rfl⟩
  | ok reply =>
      obtain ⟨request, ending⟩ := last reply rfl
      dsimp only [Client.conclude]
      cases whole : reply.bodyText with
      | error cause => exact Or.inr ⟨_, rfl⟩
      | ok body => exact Or.inl ⟨request, reply, body, ending, whole, rfl⟩

end Base

/-- The requests for the vault listing say where to go on in their queries and nowhere else: reading
the query of a form gives the cursor back, and there is none for the first page.  Requests for
different cursors are different, as they are written and as they are sent.  When the listing is
drained over HTTP, all that is exchanged is a sequence of fetches, the first without a cursor.  They
are the attempts of a drain that obeys the rule and comes to the same; and behind a fetch that read
a page with items comes the fetch whose request carries the cursor of this page. -/
theorem cursor_survives [Json.Locator] {text : String} (client : Client)
    (read : Url.read text = .ok client.base) (web : isWeb client.base)
    (bare : client.base.query.getD [] = []) :
    (∀ cursor, ∃ request, client.requestFor (.listVaults cursor) = .ok request ∧
      Carries request.url cursor) ∧
    (∀ cursor other one two, cursor ≠ other →
      client.requestFor (.listVaults cursor) = .ok one →
      client.requestFor (.listVaults other) = .ok two →
      one.url.target ≠ two.url.target ∧ one.url.text ≠ two.url.text) ∧
    ∀ patience allowance told outcome,
      Reaches ((Directory.fetchVaults patience allowance).run.via client.perform) told outcome →
      ∃ (drain : Drain VaultPage) (fetches : List Fetch),
        drain.Obeys Directory.vaultListing patience.maxRetries ∧
        outcome = Directory.vaultsOf drain ∧ told = fetches.flatMap Fetch.told ∧
        fetches.map Fetch.attempt = Listing.attemptsOf (drain.callsFrom none) ∧
        (∀ fetch ∈ fetches, client.Fetches fetch) ∧ fetches.IsChain LeadsTo ∧
        ∃ first ∈ fetches.head?, first.cursor = none := by
  have orderly := Url.orderly_of_read read web
  have host := Url.hasHost_of_read read web
  refine ⟨fun cursor => ?_, fun cursor other one two different made too => ?_, ?_⟩
  · exact ⟨_, requestFor_listVaults orderly cursor, carries_listVaults host bare cursor⟩
  · exact ⟨fun same => different (eq_of_requests_alike orderly host bare made too (Or.inl same)),
      fun same => different (eq_of_requests_alike orderly host bare made too (Or.inr same))⟩
  · intro patience allowance told outcome reaches
    obtain ⟨exchanges, tolds, reached, rfl, each⟩ := Dialogue.reaches_via_iff.mp reaches
    obtain ⟨drain, obeys, rfl, same⟩ := Directory.reaches_fetchVaults reached
    obtain ⟨chain, comes, rest, whole⟩ := Listing.isChain_attemptsOf obeys none
    rw [Directory.flatMap_exchanges_vaultCalls, Listing.exchangesOf_eq,
      List.forall₂_map_left_iff] at each
    obtain ⟨fetches, attempts, rfl, performed⟩ := exists_fetches each
    have made (fetch : Fetch) (member : fetch ∈ fetches) : client.Fetches fetch :=
      fetches_of_perform orderly host bare web (performed fetch member)
    rw [← attempts] at chain whole
    obtain ⟨first, later, rfl, begins, _⟩ := List.map_eq_cons_iff.mp whole
    exact ⟨drain, _, obeys, same, List.flatMap_def.symm, attempts, made,
      isChain_leadsTo made chain, first, rfl, congrArg Prod.fst begins⟩

/-- A cursor of marks, an escape, a space, a line break and a letter outside ASCII. -/
def markedCursor : String := "a&b=c+d%2F#é \n"

def markedPage : String :=
  "\x7b\"accounts\":[\x7b\"id\":\"V 1\"\x7d],\"paging\":" ++
    "\x7b\"after\":\"a&b=c+d%2F#\\u00e9 \\n\"\x7d\x7d"

/-- A service that tells this page, is busy once and then tells a last page. -/
def markedReplies : Nat → Except String Reply
  | 0 => .ok ⟨200, [], Text.utf8 markedPage.toList, none⟩
  | 1 => .ok ⟨429, [], [], none⟩
  | _ => .ok ⟨200, [], Text.utf8 "\x7b\"accounts\":[\x7b\"id\":\"V 2\"\x7d]\x7d".toList, none⟩

/-- This cursor is in the query of its request, and the first page is asked for elsewhere.  When a
page names it, the drain asks for it, again where that is throttled, and comes to the vaults of both
pages. -/
theorem marked_cursor_survives :
    (∃ request first, custodyClient.requestFor (.listVaults (some markedCursor)) = .ok request ∧
      request.url.query = some "after=a%26b%3Dc%2Bd%252F%23%C3%A9+%0A".toList ∧
      Carries request.url (some markedCursor) ∧
      custodyClient.requestFor (.listVaults none) = .ok first ∧
      request.url.target ≠ first.url.target) ∧
    ∃ (told : List (Exchange network)) (drain : Drain VaultPage) (fetches : List Fetch),
      told.map replyOf = (List.range 3).map markedReplies ∧
      told.map (fun exchange => exchange.question.url.target) =
        ["/custody/v1/vault/accounts_paged",
          "/custody/v1/vault/accounts_paged?after=a%26b%3Dc%2Bd%252F%23%C3%A9+%0A",
          "/custody/v1/vault/accounts_paged?after=a%26b%3Dc%2Bd%252F%23%C3%A9+%0A"] ∧
      drain.Obeys Directory.vaultListing 3 ∧
      Directory.vaultsOf drain = .ok [⟨"V 1", none, []⟩, ⟨"V 2", none, []⟩] ∧
      told = fetches.flatMap Fetch.told ∧
      fetches.map Fetch.attempt = Listing.attemptsOf (drain.callsFrom none) ∧
      (∀ fetch ∈ fetches, custodyClient.Fetches fetch) ∧ fetches.IsChain LeadsTo := by
  obtain ⟨carried, apart, drained⟩ :=
    cursor_survives custodyClient read_custodyBase (by decide) rfl
  constructor
  · obtain ⟨request, made, carries⟩ := carried (some markedCursor)
    obtain ⟨first, madeToo, _⟩ := carried none
    have different : some markedCursor ≠ none := Option.some_ne_none _
    refine ⟨request, first, made, ?_, carries, madeToo, (apart _ _ _ _ different made madeToo).1⟩
    have asked : (custodyClient.request (listingUrl custodyClient)
        (Client.query (.listVaults (some markedCursor)))).url = _ := url_of_listVaults rfl _
    cases made
    exact congrArg Url.query asked
  · let dialogue : Dialogue (exchange Request (Except String Reply))
        (Except CallError (List VaultAccount)) :=
      (Directory.fetchVaults ⟨3, 1000⟩ 2).run.via custodyClient.perform
    have comes : (dialogue.run (reel markedReplies) []).1 =
        some (.ok [⟨"V 1", none, []⟩, ⟨"V 2", none, []⟩]) := by
      decide +kernel
    have targets : (dialogue.run (reel markedReplies) []).2.map (fun asked => asked.url.target) =
        ["/custody/v1/vault/accounts_paged",
          "/custody/v1/vault/accounts_paged?after=a%26b%3Dc%2Bd%252F%23%C3%A9+%0A",
          "/custody/v1/vault/accounts_paged?after=a%26b%3Dc%2Bd%252F%23%C3%A9+%0A"] := by
      decide +kernel
    obtain ⟨told, reaches, asked, replies⟩ := run_reel_iff.mp (Prod.ext comes rfl)
    have named := (congrArg (List.map fun asked : Request => asked.url.target) asked).symm.trans
      targets
    rw [List.nil_append, List.map_map] at named
    have three : told.length = 3 := by
      have same := congrArg List.length named
      rwa [List.length_map] at same
    rw [three] at replies
    obtain ⟨drain, fetches, obeys, same, whole, attempts, made, chain, _⟩ :=
      drained _ _ told _ reaches
    exact ⟨told, drain, fetches, replies, named, obeys, same.symm, whole, attempts, made, chain⟩

end DepositDirectory.Http
