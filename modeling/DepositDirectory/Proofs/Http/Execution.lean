import DepositDirectory.Proofs.Http.Perform
import DepositDirectory.Proofs.Http.Requests
import DepositDirectory.Proofs.Retry.Schedule
import DepositDirectory.Proofs.Text.Utf8

/-!
# Calls over HTTP with retries

Each attempt at a call makes the same request and gets a raw answer: the transport fails, or a
status, a hint and a body come back.  Only the status 429 is waited out, so the raw answers alone
say which of them decides, and the deciding one alone says what the call comes to.
-/

namespace DepositDirectory.Http

open Custody (AssetBalance AssetDetails Call CallError DepositAddress VaultPage)
open Patience (isThrottled)

/-! ## Raw answers -/

/-- What comes back of one attempt: nothing, or a status with a hint and a body. -/
inductive Raw where
  | failed (text : String)
  | replied (status : Nat) (hint : Option String) (body : String)
  deriving DecidableEq

def silence : (call : Call) → Except CallError call.Result
  | .listVaults _ => .ok none
  | .depositAddresses _ _ => .ok []
  | .assetDetails _ => .ok ⟨none⟩
  | .assetBalance vaultId assetId =>
      .error (.decode s!"Empty response from /v1/vault/accounts/{vaultId}/{assetId}")

def decoded (α : Type) [Json.Form α] [Json.Locator] (content : List Char) : Except CallError α :=
  match Json.parseAs α content with
  | .ok record => .ok record
  | .error fault =>
      let spot := Json.Locator.locate (Json.Form.shape α) content
      .error (.decode s!"{fault.message} at line {spot.line} column {spot.column}")

def said [Json.Locator] : (call : Call) → List Char → Except CallError call.Result
  | .listVaults _, content => (decoded VaultPage content).map some
  | .depositAddresses _ _, content => decoded (List DepositAddress) content
  | .assetDetails _, content => decoded AssetDetails content
  | .assetBalance _ _, content => decoded AssetBalance content

namespace Raw

def isThrottled : Raw → Bool
  | failed _ => false
  | replied status _ _ => status = 429

/-- What a call comes to when the raw answer decides. -/
def outcome [Json.Locator] (call : Call) : Raw → Except CallError call.Result
  | failed text => .error (.transport text)
  | replied status hint body =>
      if status = 429 then .error (.rateLimited hint)
      else if status < 200 ∨ 299 < status then .error (.status status (Text.excerpt 512 body))
      else
        let content := Text.trimChars body.toList
        if content = [] ∨ content = ['n', 'u', 'l', 'l'] then silence call else said call content

/-- Whether two raw answers differ only in the hint of one that is not throttled or in the body of
one that is. -/
def Alike : Raw → Raw → Prop
  | failed text, failed other => text = other
  | replied status hint body, replied other otherHint otherBody =>
      status = other ∧ if status = 429 then hint = otherHint else body = otherBody
  | _, _ => False

theorem Alike.outcome_eq [Json.Locator] {raw other : Raw} (alike : Alike raw other) (call : Call) :
    raw.outcome call = other.outcome call := by
  cases raw with
  | failed text =>
      cases other with
      | failed text => exact congrArg (Except.error ∘ CallError.transport) alike
      | replied => exact alike.elim
  | replied status hint body =>
      cases other with
      | failed => exact alike.elim
      | replied =>
          obtain ⟨rfl, rest⟩ := alike
          by_cases throttled : status = 429
          · rw [if_pos throttled] at rest
            rw [outcome, outcome, if_pos throttled, if_pos throttled, rest]
          · rw [if_neg throttled] at rest
            rw [outcome, outcome, if_neg throttled, if_neg throttled, rest]

theorem isThrottled_outcome [Json.Locator] (call : Call) (raw : Raw) :
    Patience.isThrottled (raw.outcome call) = raw.isThrottled := by
  cases raw with
  | failed text => rfl
  | replied status hint body =>
      have settled : Patience.isThrottled (silence call) = false ∧
          ∀ content, Patience.isThrottled (said call content) = false := by
        have read {α : Type} [Json.Form α] (content : List Char) :
            Patience.isThrottled (decoded α content) = false := by
          rw [decoded]
          split <;> rfl
        cases call with
        | listVaults after =>
            refine ⟨rfl, fun content => ?_⟩
            rw [said, decoded]
            split <;> rfl
        | depositAddresses vaultId assetId => exact ⟨rfl, read⟩
        | assetDetails assetId => exact ⟨rfl, read⟩
        | assetBalance vaultId assetId => exact ⟨rfl, read⟩
      rw [outcome, isThrottled]
      split
      next throttled => exact (decide_eq_true throttled).symm
      next other =>
        rw [decide_eq_false other]
        split
        · rfl
        · dsimp only
          split
          · exact settled.1
          · exact settled.2 _

end Raw

theorem read_eq (α : Type) [Json.Form α] [Json.Locator] (status : Nat) (hint : Option String)
    (body : String) :
    (Custody.Answer.mk status hint body).read α =
      if status = 429 then .error (.rateLimited hint)
      else if status < 200 ∨ 299 < status then .error (.status status (Text.excerpt 512 body))
      else
        let content := Text.trimChars body.toList
        if content = [] ∨ content = ['n', 'u', 'l', 'l'] then .ok none
        else (decoded α content).map some := by
  rw [Custody.Answer.read, Custody.Answer.content?]
  dsimp only
  refine ite_congr rfl (fun _ => rfl) fun _ => ite_congr rfl (fun _ => rfl) fun _ => ?_
  split
  next silent =>
    split at silent
    next nothing => rw [if_pos nothing]
    next => cases silent
  next content found =>
    split at found
    next => cases found
    next something =>
      cases found
      rw [if_neg something, decoded]
      cases Json.parseAs α (Text.trimChars body.toList) with
      | ok record => rfl
      | error fault => rfl

theorem outcome_of_cases (call : Call) {α : Type} [Json.Form α] [Json.Locator]
    (next : Except CallError (Option α) → Except CallError call.Result)
    (fails : ∀ error, next (.error error) = .error error) (silent : next (.ok none) = silence call)
    (speaks : ∀ content, next ((decoded α content).map some) = said call content)
    (status : Nat) (hint : Option String) (body : String) :
    next ((Custody.Answer.mk status hint body).read α) =
      (Raw.replied status hint body).outcome call := by
  rw [read_eq, Raw.outcome]
  split
  · exact fails _
  · split
    · exact fails _
    · dsimp only
      split
      · exact silent
      · exact speaks _

theorem interpret_eq_outcome [Json.Locator] (call : Call) (status : Nat) (hint : Option String)
    (body : String) :
    Client.interpret call ⟨status, hint, body⟩ = (Raw.replied status hint body).outcome call := by
  cases call with
  | listVaults after =>
      exact outcome_of_cases (.listVaults after) id (fun _ => rfl) rfl (fun _ => rfl) status hint
        body
  | depositAddresses vaultId assetId =>
      refine outcome_of_cases (.depositAddresses vaultId assetId) (Except.map (·.getD []))
        (fun _ => rfl) rfl (fun content => ?_) status hint body
      rw [said]
      cases decoded (List DepositAddress) content <;> rfl
  | assetDetails assetId =>
      refine outcome_of_cases (.assetDetails assetId) (Except.map (·.getD ⟨none⟩)) (fun _ => rfl)
        rfl (fun content => ?_) status hint body
      rw [said]
      cases decoded AssetDetails content <;> rfl
  | assetBalance vaultId assetId =>
      have path : "/".intercalate (Client.segments (.assetBalance vaultId assetId)) =
          "v1/vault/accounts/" ++ vaultId ++ "/" ++ assetId := by
        apply String.toList_inj.mp
        simp [Client.segments]
      rw [Client.interpret, path]
      refine outcome_of_cases (.assetBalance vaultId assetId) (fun read => read >>= _)
        (fun _ => rfl) ?_ (fun content => ?_) status hint body
      · rfl
      · rw [said]
        cases decoded AssetBalance content <;> rfl

/-! ## One attempt -/

def Raw.received (path : String) : Except String Reply → Raw
  | .error cause => .failed s!"GET {path} failed: {cause}"
  | .ok reply =>
      match reply.bodyText with
      | .error cause => .failed s!"Failed to read body of {path}: {cause}"
      | .ok body => .replied reply.status reply.retryAfter body

theorem byteOrderMark?_utf8 {cs : List Char} (unmarked : cs.head? ≠ some '\uFEFF') :
    Text.byteOrderMark? (Text.utf8 cs) = none := by
  cases cs with
  | nil => rfl
  | cons c rest =>
      obtain ⟨first, more, bytes, read⟩ := Text.readScalar_utf8EncodeChar c (Text.utf8 rest)
      rw [Text.utf8_cons, bytes, List.cons_append]
      unfold Text.byteOrderMark?
      split
      next tail mark =>
        obtain ⟨rfl, more⟩ := List.cons.inj mark
        rw [more] at read
        have same : '\uFEFF' = c := Option.some.inj (Prod.mk.inj read).1
        exact absurd (congrArg some same.symm) unmarked
      next tail mark =>
        obtain ⟨rfl, more⟩ := List.cons.inj mark
        cases (Prod.mk.inj read).1
      next tail mark =>
        obtain ⟨rfl, more⟩ := List.cons.inj mark
        cases (Prod.mk.inj read).1
      next => rfl

/-- A reply tells a text when its whole body is the text in UTF-8. -/
structure Reply.Tells (reply : Reply) (text : String) : Prop where
  whole : reply.cut = none
  charset : reply.charset = .utf8
  body : reply.body = Text.utf8 text.toList
  unmarked : text.toList.head? ≠ some '\uFEFF'

theorem Reply.Tells.received {reply : Reply} {text : String} (tells : reply.Tells text)
    (path : String) :
    Raw.received path (.ok reply) = .replied reply.status reply.retryAfter text := by
  have told : reply.bodyText = .ok text := by
    rw [Reply.bodyText, tells.whole]
    dsimp only
    rw [tells.charset, Text.Charset.decode, tells.body, byteOrderMark?_utf8 tells.unmarked]
    have chars := congrArg String.ofList (Text.ofUtf8_utf8 text.toList)
    exact congrArg Except.ok (chars.trans String.ofList_toList)
  rw [Raw.received, told]

theorem conclude_eq_outcome [Json.Locator] (call : Call) (url : Url) (told : Except String Reply) :
    Client.conclude call url (told.mapError .noReply) =
      (Raw.received url.pathText told).outcome call := by
  cases told with
  | error cause => rfl
  | ok reply =>
      change Client.conclude call url (.ok reply) = _
      rw [Client.conclude, Raw.received]
      cases reply.bodyText with
      | error cause => rfl
      | ok body => exact interpret_eq_outcome call _ _ body

namespace Client

/-- The path and the request of every attempt at a call, or why no request can be made. -/
def sending (client : Client) (call : Call) : Except String (String × Request) :=
  match client.base.addSegments? (segments call) with
  | none => .error s!"Custody API URL {client.base.text} cannot have a path"
  | some url =>
      let request := client.request url (query call)
      if isWeb request.url = false then
        .error s!"GET {url.pathText} failed: {(SendError.notWeb request.url).message}"
      else if isAskable request.url = false then
        .error s!"GET {url.pathText} failed: {(SendError.notAskable request.url).message}"
      else .ok (url.pathText, request)

/-- The requests of one attempt: one, if any can be made. -/
def requests (client : Client) (call : Call) : List Request :=
  match client.sending call with
  | .error _ => []
  | .ok (_, request) => [request]

theorem requestFor_of_mem {client : Client} {call : Call} {request : Request}
    (made : request ∈ client.requests call) : client.requestFor call = .ok request := by
  rw [requests] at made
  split at made
  next => cases made
  next path only sends =>
    rw [List.mem_singleton.mp made]
    rw [sending] at sends
    split at sends
    next => cases sends
    next url base =>
      dsimp only at sends
      split at sends
      next => cases sends
      next =>
        split at sends
        next => cases sends
        next =>
          cases sends
          rw [requestFor, endpoint, base]
          rfl

/-- The raw answer of an attempt, by what is told of its request. -/
def rawOf (client : Client) (call : Call) (told : Except String Reply) : Raw :=
  match client.sending call with
  | .error text => .failed text
  | .ok (path, _) => .received path told

theorem rawOf_of_mem {client : Client} {call : Call} {request : Request}
    (made : request ∈ client.requests call) (told : Except String Reply) :
    ∃ path, client.rawOf call told = .received path told := by
  rw [requests] at made
  rw [rawOf]
  split at made
  next => cases made
  next path _ _ => exact ⟨path, rfl⟩

/-- Whether a reply is not followed to another place. -/
def Stands (client : Client) (call : Call) (told : Except String Reply) : Prop :=
  ∀ request ∈ client.requests call, ∀ reply, told = .ok reply → request.next? reply = none

end Client

section Attempt

variable {σ : Type} {host : Host network σ} (traceless : ∀ line state, host.note line state = state)
  {client : Client} {call : Call} {state : σ}

include traceless

theorem run_perform_of_unsent [Json.Locator] {text : String}
    (sends : client.sending call = .error text) :
    (client.perform call).run host state = (some (.error (.transport text)), state) := by
  rw [Client.sending] at sends
  split at sends
  next base =>
    cases sends
    rw [Client.perform_of_no_base base]
    rfl
  next url base =>
    have noted (message : String) :
        (Dialogue.say .debug .client message).run host state = (some (), state) :=
      congrArg (Prod.mk (some ())) (traceless _ state)
    rw [Client.perform_of_base base, Dialogue.run_bind_of_run (noted _)]
    dsimp only at sends
    split at sends
    next web =>
      cases sends
      rw [send_of_not_web web]
      rfl
    next web =>
      rw [Bool.not_eq_false] at web
      split at sends
      next askable =>
        cases sends
        rw [send_of_not_askable web askable]
        rfl
      next => cases sends

theorem run_perform_of_sent [Json.Locator] {path : String} {request : Request}
    (sends : client.sending call = .ok (path, request))
    (stands : client.Stands call (host.answer request state).1) :
    (client.perform call).run host state =
      (some ((Raw.received path (host.answer request state).1).outcome call),
        (host.answer request state).2) := by
  have made : request ∈ client.requests call := by
    rw [Client.requests, sends]
    exact List.mem_singleton_self request
  rw [Client.sending] at sends
  split at sends
  next => cases sends
  next url base =>
    dsimp only at sends
    split at sends
    next => cases sends
    next web =>
      split at sends
      next => cases sends
      next askable =>
        cases sends
        rw [Bool.not_eq_false] at web askable
        have noted (message : String) :
            (Dialogue.say .debug .client message).run host state = (some (), state) :=
          congrArg (Prod.mk (some ())) (traceless _ state)
        rw [Client.perform_of_base base, Dialogue.run_bind_of_run (noted _),
          Dialogue.run_bind_of_run (run_send_of_stands web askable (stands _ made))]
        exact congrArg (fun outcome => (some outcome, _)) (conclude_eq_outcome call url _)

end Attempt

/-! ## All attempts -/

/-- A network whose replies are an endless sequence; the state holds the requests that were made,
each with its time. -/
def wire (replies : Nat → Except String Reply) : TimedHost network (List (Nat × Request)) where
  answer := fun (request : Request) now asked => (replies asked.length, asked ++ [(now, request)])
  note := fun _ asked => asked

namespace Client

/-- An executed call: what it comes to, when it ends, and which requests it makes at what times. -/
def executed [Json.Locator] (client : Client) (patience : Patience) (retries : Nat) (call : Call)
    (replies : Nat → Except String Reply) (start : Nat) :
    Option (Except CallError call.Result) × Nat × List (Nat × Request) :=
  (patience.executeWith retries (ExceptT.mk (client.perform call))).run.run
    (wire replies).alone (start, [])

/-- The outcomes of the attempts, if each were made. -/
def outcomes [Json.Locator] (client : Client) (call : Call) (replies : Nat → Except String Reply)
    (index : Nat) : Except CallError call.Result :=
  (client.rawOf call (replies index)).outcome call

/-- When an attempt is made: after the waits of those before it. -/
def timeOf [Json.Locator] (client : Client) (patience : Patience) (call : Call)
    (replies : Nat → Except String Reply) (start : Nat) : Nat → Nat :=
  patience.attemptTime (client.outcomes call replies) start

/-- The requests of the first attempts, each with its time. -/
def requestsOf [Json.Locator] (client : Client) (patience : Patience) (call : Call)
    (replies : Nat → Except String Reply) (start count : Nat) : List (Nat × Request) :=
  (List.range count).flatMap fun index =>
    (client.requests call).map fun request =>
      (client.timeOf patience call replies start index, request)

end Client

section Attempts

variable {client : Client} {call : Call} {replies : Nat → Except String Reply}
  (stands : ∀ index, client.Stands call (replies index)) (patience : Patience)

include stands in
theorem run_perform_staged [Json.Locator] (start index : Nat) :
    (client.perform call).run (wire replies).alone
        (client.timeOf patience call replies start index,
          client.requestsOf patience call replies start index) =
      (some (client.outcomes call replies index),
        client.timeOf patience call replies start index,
        client.requestsOf patience call replies start (index + 1)) := by
  cases sends : client.sending call with
  | error text =>
      have nothing (count : Nat) : client.requestsOf patience call replies start count = [] :=
        List.flatMap_eq_nil_iff.mpr fun _ _ => by rw [Client.requests, sends]; rfl
      have failed : client.outcomes call replies index = .error (.transport text) := by
        rw [Client.outcomes, Client.rawOf, sends]
        rfl
      rw [run_perform_of_unsent (fun _ _ => rfl) sends, failed, nothing, nothing]
  | ok sent =>
      obtain ⟨path, request⟩ := sent
      have one : client.requests call = [request] := by rw [Client.requests, sends]
      have counted : (client.requestsOf patience call replies start index).length = index := by
        simp [Client.requestsOf, one]
      have answered : ((wire replies).alone.answer request
          (client.timeOf patience call replies start index,
            client.requestsOf patience call replies start index)).1 = replies index :=
        congrArg replies counted
      have more : client.requestsOf patience call replies start (index + 1) =
          client.requestsOf patience call replies start index ++
            [(client.timeOf patience call replies start index, request)] := by
        simp [Client.requestsOf, one, List.range_succ]
      have outcome : client.outcomes call replies index =
          (Raw.received path (replies index)).outcome call := by
        rw [Client.outcomes, Client.rawOf, sends]
      rw [run_perform_of_sent (fun _ _ => rfl) sends (answered ▸ stands index), more, outcome,
        answered]
      rfl

include stands in
theorem exists_deciding [Json.Locator] (retries start : Nat) :
    ∃ last ≤ retries,
      (∀ earlier < last, (client.rawOf call (replies earlier)).isThrottled = true) ∧
      ((client.rawOf call (replies last)).isThrottled = true → last = retries) ∧
      client.executed patience retries call replies start =
        (some (client.outcomes call replies last), client.timeOf patience call replies start last,
          client.requestsOf patience call replies start (last + 1)) := by
  have told (index : Nat) : isThrottled (client.outcomes call replies index) =
      (client.rawOf call (replies index)).isThrottled :=
    Raw.isThrottled_outcome call _
  have traceless : ∀ line state, (wire replies).alone.note line state = state := fun _ _ => rfl
  have staged := Patience.run_attempt_staged traceless patience
    (run_perform_staged stands patience start)
    (fun index _ => Prod.ext (Patience.attemptTime_succ patience _ start index).symm rfl)
    retries retries
  simp only [told] at staged
  exact staged

end Attempts

theorem deciding_unique (throttled : Nat → Bool) {retries first second : Nat}
    (within : first ≤ retries) (before : ∀ earlier < first, throttled earlier = true)
    (standing : throttled first = true → first = retries)
    (withinToo : second ≤ retries) (beforeToo : ∀ earlier < second, throttled earlier = true)
    (standingToo : throttled second = true → second = retries) : first = second := by
  rcases Nat.lt_trichotomy first second with sooner | same | later
  · have spent := standing (beforeToo first sooner)
    omega
  · exact same
  · have spent := standingToo (before second later)
    omega

theorem executed_of_alike [Json.Locator] {client : Client} {call : Call}
    {replies others : Nat → Except String Reply}
    (stands : ∀ index, client.Stands call (replies index))
    (standsToo : ∀ index, client.Stands call (others index))
    (alike : ∀ index,
      Raw.Alike (client.rawOf call (replies index)) (client.rawOf call (others index)))
    (patience : Patience) (retries start : Nat) :
    client.executed patience retries call others start =
      client.executed patience retries call replies start := by
  obtain ⟨last, within, before, standing, run⟩ :=
    exists_deciding stands patience retries start
  obtain ⟨lastToo, withinToo, beforeToo, standingToo, runToo⟩ :=
    exists_deciding standsToo patience retries start
  have outcomes : client.outcomes call others = client.outcomes call replies :=
    funext fun index => ((alike index).outcome_eq call).symm
  have throttled (index : Nat) : (client.rawOf call (others index)).isThrottled =
      (client.rawOf call (replies index)).isThrottled := by
    rw [← Raw.isThrottled_outcome call, ← (alike index).outcome_eq call, Raw.isThrottled_outcome]
  simp only [throttled] at beforeToo standingToo
  have same :=
    deciding_unique (fun index => (client.rawOf call (replies index)).isThrottled)
      withinToo beforeToo standingToo within before standing
  rw [run, runToo, same, Client.requestsOf, Client.requestsOf, Client.timeOf, Client.timeOf,
    outcomes]

/--
A call that is executed comes to the outcome of the deciding raw answer: the first that is not
throttled, or the last that the budget allows.  The attempts up to it are all that are made, each
with the same request and after the waits of those before.  Neither the hint of an answer that is
not throttled nor the body of one that is makes any difference.  The request is that for the call,
and a raw answer is a failure that tells its cause or has the status, the hint and the text of a
reply.
-/
theorem executed_by_raws [Json.Locator] (client : Client) (patience : Patience) (retries : Nat)
    (call : Call) (replies : Nat → Except String Reply) (start : Nat)
    (stands : ∀ index, client.Stands call (replies index)) :
    (∃ last ≤ retries,
      (∀ earlier < last, (client.rawOf call (replies earlier)).isThrottled = true) ∧
      ((client.rawOf call (replies last)).isThrottled = true → last = retries) ∧
      client.executed patience retries call replies start =
        (some ((client.rawOf call (replies last)).outcome call),
          client.timeOf patience call replies start last,
          client.requestsOf patience call replies start (last + 1))) ∧
    (∀ others : Nat → Except String Reply, (∀ index, client.Stands call (others index)) →
      (∀ index, Raw.Alike (client.rawOf call (replies index)) (client.rawOf call (others index))) →
      client.executed patience retries call others start =
        client.executed patience retries call replies start) ∧
    ∀ request ∈ client.requests call,
      client.requestFor call = .ok request ∧
        (∀ cause : String, ∃ path : String,
          client.rawOf call (.error cause) = .failed s!"GET {path} failed: {cause}") ∧
        ∀ (reply : Reply) (text : String), reply.Tells text →
          client.rawOf call (.ok reply) = .replied reply.status reply.retryAfter text := by
  refine ⟨exists_deciding stands patience retries start, fun others standsToo alike => ?_,
    fun request made => ⟨Client.requestFor_of_mem made, fun cause => ?_,
      fun reply text tells => ?_⟩⟩
  · exact executed_of_alike stands standsToo alike patience retries start
  · exact Client.rawOf_of_mem made (.error cause)
  · obtain ⟨path, raw⟩ := Client.rawOf_of_mem made (.ok reply)
    exact raw.trans (tells.received path)

def hushedReplies : Nat → Except String Reply
  | 0 => .ok ⟨429, [("Retry-After", Text.utf8 "250".toList)], Text.utf8 "slow".toList, none⟩
  | _ => .ok ⟨200, [], Text.utf8 " null\n".toList, none⟩

/-- A balance is asked for again after the hinted wait, and is none when nothing is said. -/
theorem executed_hushed :
    ∃ request, custodyClient.executed .usual 1 (.assetBalance "V1" "A1") hushedReplies 0 =
      (some (.error (.decode "Empty response from /v1/vault/accounts/V1/A1")), 250,
        [(0, request), (250, request)]) := by
  have stands : ∀ index, custodyClient.Stands (.assetBalance "V1" "A1") (hushedReplies index) := by
    rintro (_ | index) request _ reply told <;> cases told <;> rfl
  obtain ⟨⟨last, within, _, standing, run⟩, _⟩ :=
    executed_by_raws custodyClient .usual 1 (.assetBalance "V1" "A1") hushedReplies 0 stands
  have throttled : (custodyClient.rawOf (.assetBalance "V1" "A1") (hushedReplies 0)).isThrottled =
      true := by decide +kernel
  have hushed : custodyClient.rawOf (.assetBalance "V1" "A1") (hushedReplies 1) =
      .replied 200 none " null\n" := by decide +kernel
  have ended : custodyClient.timeOf .usual (.assetBalance "V1" "A1") hushedReplies 0 1 = 250 := by
    decide +kernel
  have single : (custodyClient.requests (.assetBalance "V1" "A1")).length = 1 := by decide +kernel
  obtain ⟨request, one⟩ := List.length_eq_one_iff.mp single
  have second : last = 1 := by
    rcases Nat.eq_zero_or_pos last with rfl | later
    · exact standing throttled
    · omega
  refine ⟨request, ?_⟩
  rw [run, second, hushed, ended, Client.requestsOf, one]
  simp only [List.range_succ, List.range_zero, List.nil_append, List.singleton_append,
    List.flatMap_cons, List.flatMap_nil, List.map_cons, List.map_nil, List.append_nil, ended]
  rfl

end DepositDirectory.Http
