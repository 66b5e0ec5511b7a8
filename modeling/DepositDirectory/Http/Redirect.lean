import DepositDirectory.Http.Exchange
import DepositDirectory.Http.Proxy

/-!
# Following redirects

A reply can send a request on to another place, named against the place that was asked.  It is
followed with the same headers, except that another host or port is not shown the authorization.
Only so many redirects are followed.  A place that cannot be asked for leaves the reply as it is;
one that can, but is no web address, is refused.
-/

namespace DepositDirectory.Http

def redirectLimit : Nat := 9

/-- Why a request has no reply. -/
inductive SendError where
  | noReply (cause : String)
  | redirectedTooOften (url : Url)
  | notWeb (url : Url)
  | notAskable (url : Url)
  deriving DecidableEq

def SendError.message : SendError → String
  | noReply cause => cause
  | redirectedTooOften url => s!"error following redirect for url ({url.text}): too many redirects"
  | notWeb url => s!"builder error for url ({url.text}): URL scheme is not allowed"
  | notAskable url => s!"builder error for url ({url.text}): Parsed Url is not a valid Uri"

def sameServer (a b : Url) : Bool :=
  (a.authority.map (·.host)) = (b.authority.map (·.host)) && a.effectivePort? = b.effectivePort?

def Request.redirected (proxies : Proxies) (request : Request) (url : Url) : Request :=
  { request with
    url := url
    via := proxies.choose? url
    authorization := if sameServer request.url url then request.authorization else none }

/-! ## Sending -/

/-- Where a reply sends a request on to, if it does and the place can be asked for. -/
def Request.next? (request : Request) (reply : Reply) : Option Url :=
  if reply.redirects then
    (reply.location?.bind fun reference => (request.url.join reference).toOption).filter isAskable
  else none

def follow (proxies : Proxies) : (left : Nat) → Request → Dialogue network (Except SendError Reply)
  | left, request =>
      .ask request fun
        | .error cause => .done (.error (.noReply cause))
        | .ok reply =>
            match request.next? reply with
            | none => .done (.ok reply)
            | some url =>
                match left with
                | 0 => .done (.error (.redirectedTooOften request.url))
                | left + 1 =>
                    if isWeb url then follow proxies left (request.redirected proxies url)
                    else .done (.error (.notWeb url))

/-- Send a request, if its URL is the address of a web service and can be asked for. -/
def send (proxies : Proxies) (request : Request) : Dialogue network (Except SendError Reply) :=
  if !isWeb request.url then .done (.error (.notWeb request.url))
  else if !isAskable request.url then .done (.error (.notAskable request.url))
  else follow proxies redirectLimit request

end DepositDirectory.Http
