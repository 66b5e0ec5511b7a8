import DepositDirectory.Http.Client
import DepositDirectory.Proofs.Dialogue.Laws

/-!
# A call as a dialogue

A call writes one line, sends one request and makes something of what comes back; where the base
takes no components, it does nothing but fail.
-/

namespace DepositDirectory.Http

open Custody (Call CallError)

namespace Client

/-- What a call comes to when sending its request has come to something. -/
def conclude [Json.Locator] (call : Call) (url : Url) :
    Except SendError Reply → Except CallError call.Result
  | .error error => .error (.transport s!"GET {url.pathText} failed: {error.message}")
  | .ok reply =>
      match reply.bodyText with
      | .error cause => .error (.transport s!"Failed to read body of {url.pathText}: {cause}")
      | .ok body => interpret call ⟨reply.status, reply.retryAfter, body⟩

variable {client : Client} {call : Call}

theorem perform_of_base [Json.Locator] {url : Url}
    (base : client.base.addSegments? (segments call) = some url) :
    client.perform call = (do
      Dialogue.say .debug .client s!"GET {url.text} {queryText (query call)}"
      let sent ← send client.proxies (client.request url (query call))
      return conclude call url sent) := by
  have found : endpoint client.base (segments call) = .ok url := by rw [endpoint, base]
  rw [perform, get, found]
  refine congrArg (Dialogue.note _) ?_
  change ((send client.proxies (client.request url (query call)) >>= fun sent =>
    pure (Except.ok sent : Except CallError (Except SendError Reply))) >>= _) >>= _ = _
  simp only [bind_assoc, pure_bind]
  refine congrArg _ (funext fun sent => ?_)
  cases sent with
  | error error => rfl
  | ok reply =>
      rw [conclude]
      cases body : reply.bodyText with
      | error cause => simp only [ExceptT.bindCont, body]; rfl
      | ok text => simp only [ExceptT.bindCont, body]; rfl

theorem perform_of_no_base [Json.Locator] (base : client.base.addSegments? (segments call) = none) :
    client.perform call = .done (.error
      (.transport s!"Custody API URL {client.base.text} cannot have a path")) := by
  have refused : endpoint client.base (segments call) =
      .error (.transport s!"Custody API URL {client.base.text} cannot have a path") := by
    rw [endpoint, base]
  rw [perform, get, refused]
  rfl

end Client

/-! ## Sending one request -/

variable {σ : Type} {host : Host network σ} {proxies : Proxies} {request : Request} {state : σ}

/-- A reply that is not followed to another place is what sending comes to. -/
theorem run_send_of_stands (web : isWeb request.url = true) (askable : isAskable request.url = true)
    (stands : ∀ reply, (host.answer request state).1 = .ok reply → request.next? reply = none) :
    (send proxies request).run host state =
      (some ((host.answer request state).1.mapError .noReply), (host.answer request state).2) := by
  have sent : send proxies request = follow proxies redirectLimit request := by
    rw [send, web, askable]
    rfl
  rw [sent, redirectLimit, follow, Dialogue.run.eq_def]
  dsimp only
  cases reply : (host.answer request state).1 with
  | error cause => rfl
  | ok told =>
      dsimp only
      rw [stands told reply]
      rfl

theorem send_of_not_web (web : isWeb request.url = false) :
    send proxies request = .done (.error (.notWeb request.url)) := by
  rw [send, web]
  rfl

theorem send_of_not_askable (web : isWeb request.url = true)
    (askable : isAskable request.url = false) :
    send proxies request = .done (.error (.notAskable request.url)) := by
  rw [send, web, askable]
  rfl

end DepositDirectory.Http
