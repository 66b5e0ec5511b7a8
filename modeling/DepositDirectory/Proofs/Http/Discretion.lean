import DepositDirectory.Proofs.Http.Perform

/-!
# Credentials in requests alone

The key and the token of a client are in the headers of its requests and nowhere else: two clients
that have their own credentials make the same of the same replies, and their requests differ in
nothing but the credentials.
-/

namespace DepositDirectory.Http

open Custody (Call CallError)

/-! ## Requests without credentials -/

/-- A request without its credentials; that there is an authorization still shows. -/
def Request.redacted (request : Request) : Request :=
  { request with apiKey := "", authorization := request.authorization.map fun _ => "" }

@[simp]
theorem Request.redacted_redacted (request : Request) :
    request.redacted.redacted = request.redacted := by
  simp [redacted, Function.comp_def]

def discreetly (question : network.Ask) : Dialogue network (network.Reply question) :=
  Dialogue.query (I := network) (Request.redacted question)

/-- A dialogue with the network in which all requests are made without their credentials. -/
def discreet {α : Type} (dialogue : Dialogue network α) : Dialogue network α :=
  dialogue.via discreetly

theorem discreet_bind {α β : Type} (first : Dialogue network α) (next : α → Dialogue network β) :
    discreet (first >>= next) = discreet first >>= fun result => discreet (next result) :=
  Dialogue.via_bind discreetly first next

/-- Requests with the same rest, after whose replies the dialogues go on alike. -/
theorem discreet_ask {α : Type} {request other : Request}
    {next nextToo : Except String Reply → Dialogue network α}
    (same : request.redacted = other.redacted)
    (later : ∀ told, discreet (next told) = discreet (nextToo told)) :
    discreet (.ask request next) = discreet (.ask other nextToo) := by
  change (Dialogue.query (I := network) request.redacted >>= fun told => discreet (next told)) =
    Dialogue.query (I := network) other.redacted >>= fun told => discreet (nextToo told)
  rw [same]
  exact congrArg _ (funext later)

section Sending

variable {request other : Request} (same : request.redacted = other.redacted)

include same

theorem url_of_redacted : request.url = other.url :=
  (Request.mk.inj same).1

theorem redirected_of_redacted (proxies : Proxies) (url : Url) :
    (request.redirected proxies url).redacted = (other.redirected proxies url).redacted := by
  have shown : request.authorization.map (fun _ => "") = other.authorization.map fun _ => "" :=
    (Request.mk.inj same).2.2.1
  simp only [Request.redirected, Request.redacted, url_of_redacted same]
  split
  · rw [shown]
  · rfl

theorem discreet_follow (proxies : Proxies) (left : Nat) :
    discreet (follow proxies left request) = discreet (follow proxies left other) := by
  have next (reply : Reply) : request.next? reply = other.next? reply := by
    rw [Request.next?, Request.next?, url_of_redacted same]
  induction left generalizing request other with
  | zero =>
      rw [follow, follow]
      refine discreet_ask same fun told => ?_
      cases told with
      | error cause => rfl
      | ok reply =>
          dsimp only
          rw [next, url_of_redacted same]
  | succ left ih =>
      rw [follow, follow]
      refine discreet_ask same fun told => ?_
      cases told with
      | error cause => rfl
      | ok reply =>
          dsimp only
          rw [next]
          cases other.next? reply with
          | none => rfl
          | some url =>
              dsimp only
              split
              · have onward := redirected_of_redacted same proxies url
                refine ih onward fun reply => ?_
                rw [Request.next?, Request.next?, url_of_redacted onward]
              · rfl

theorem discreet_send (proxies : Proxies) :
    discreet (send proxies request) = discreet (send proxies other) := by
  rw [send, send, url_of_redacted same]
  split
  · rfl
  · split
    · rfl
    · exact discreet_follow same proxies _

end Sending

/-! ## Clients with other credentials -/

/-- Two clients are alike but for their credentials: the same service in the same way, and both with
a token or both without. -/
structure Client.Akin (client other : Client) : Prop where
  base : client.base = other.base
  proxies : client.proxies = other.proxies
  bearer : client.bearer.isSome = other.bearer.isSome

namespace Client.Akin

variable {client other : Client} (akin : Akin client other)

include akin

theorem redacted_request (url : Url) (query : List (String × String)) :
    (client.request url query).redacted = (other.request url query).redacted := by
  have shown : client.bearer.map (fun _ => "") = other.bearer.map fun _ => "" := by
    have presence := akin.bearer
    revert presence
    cases client.bearer <;> cases other.bearer <;> simp
  simp only [request, akin.proxies]
  split <;> simp [Request.redacted, shown]

theorem discreet_perform [Json.Locator] (call : Call) :
    discreet (client.perform call) = discreet (other.perform call) := by
  cases base : client.base.addSegments? (segments call) with
  | none => rw [perform_of_no_base base, perform_of_no_base (akin.base ▸ base), akin.base]
  | some url =>
      have sent := discreet_send (akin.redacted_request url (query call)) client.proxies
      rw [perform_of_base base, perform_of_base (akin.base ▸ base), ← akin.proxies]
      simp only [discreet_bind, sent]

end Client.Akin

end DepositDirectory.Http
