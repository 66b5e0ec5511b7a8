import DepositDirectory.Custody.Answer
import DepositDirectory.Custody.Call
import DepositDirectory.Http.Redirect
import DepositDirectory.Settings
import DepositDirectory.Text.Base64
import DepositDirectory.Url.Segments

/-!
# The custody service over HTTP

Each call to the custody service is one request: the ids of the call become components of the path,
the cursor a query.  The key goes with every request, and a token or the user of the base URL
authorizes it.
-/

namespace DepositDirectory.Http

open Custody (Answer AssetBalance AssetDetails Call CallError DepositAddress VaultPage)

/-- How the custody service is reached. -/
structure Client where
  base : Url
  apiKey : String
  bearer : Option String
  proxies : Proxies
  deriving DecidableEq

def tell {I : Interface} (level : Log.Level) (message : String) : Task I CallError Unit :=
  ExceptT.lift (Dialogue.say level .client message)

/-- Whether a text can be the value of a header: no controls but the tab. -/
def isHeaderText (text : String) : Bool :=
  text.toList.all fun c => c = '\t' || (0x20 ≤ c.toNat && c.toNat ≠ 0x7F)

def secondsText (seconds : Nat) : String :=
  if seconds = 0 then "0ns" else seconds.repr ++ "s"

namespace Client

def ofSettings (settings : Settings) : Except CallError Client :=
  match Url.read settings.baseUrl with
  | .error error => .error (.transport s!"Invalid custody API URL: {error.message}")
  | .ok base =>
      let bearer := settings.apiToken.map ("Bearer " ++ ·)
      if !isHeaderText settings.apiKey then
        .error (.transport "Invalid API key header: failed to parse header value")
      else if !bearer.all isHeaderText then
        .error (.transport "Invalid bearer token: failed to parse header value")
      else .ok ⟨base, settings.apiKey, bearer, settings.proxies⟩

def create {I : Interface} (settings : Settings) : Task I CallError Client := do
  let client ← liftExcept (ofSettings settings)
  tell .info "Custody client initialized:"
  tell .info s!"  API: {settings.baseUrl}"
  tell .info s!"  Timeout: {secondsText settings.timeoutSecs}"
  return client
where
  liftExcept (result : Except CallError Client) : Task I CallError Client :=
    ExceptT.mk (.done result)

/-- The URL of an endpoint: the base with components added to its path. -/
def endpoint (base : Url) (segments : List String) : Except CallError Url :=
  match base.addSegments? segments with
  | some url => .ok url
  | none => .error (.transport s!"Custody API URL {base.text} cannot have a path")

/-- Escaped text without its escapes, if it is text then. -/
def unescaped? (cs : List Char) : Option (List Char) :=
  Text.ofUtf8? (Url.percentDecode (Text.utf8 cs))

def basicAuthorization? (url : Url) : Option String := do
  let authority ← url.authority
  let user ← unescaped? authority.user
  let password := authority.password.bind unescaped?
  if user = [] && password.isNone then none
  else
    some ("Basic " ++ String.ofList (Text.base64 (Text.utf8 (user ++ ':' :: password.getD []))))

def withoutUser (url : Url) : Url :=
  { url with authority := url.authority.map fun a => { a with user := [], password := none } }

/-- The request for a URL and a query; where no host is named, there is nothing to ask. -/
def request (client : Client) (url : Url) (query : List (String × String)) : Request :=
  let asked := if url.hasHost then url.addQuery query else url
  let via := client.proxies.choose? asked
  match basicAuthorization? url with
  | some basic => ⟨withoutUser asked, client.apiKey, some basic, via⟩
  | none => ⟨asked, client.apiKey, client.bearer, via⟩

def queryText (query : List (String × String)) : String :=
  let pairs := query.map fun (name, value) => s!"({Text.quoted name}, {Text.quoted value})"
  "[" ++ ", ".intercalate pairs ++ "]"

def get (client : Client) (segments : List String) (query : List (String × String)) :
    Task network CallError Answer := do
  let url ← ExceptT.mk (.done (endpoint client.base segments))
  let path := url.pathText
  tell .debug s!"GET {url.text} {queryText query}"
  match ← ExceptT.lift (send client.proxies (client.request url query)) with
  | .error error => throw (.transport s!"GET {path} failed: {error.message}")
  | .ok reply =>
      match reply.bodyText with
      | .error cause => throw (.transport s!"Failed to read body of {path}: {cause}")
      | .ok body => return ⟨reply.status, reply.retryAfter, body⟩

/-- The components of the path of a call. -/
def segments : Call → List String
  | .listVaults _ => ["v1", "vault", "accounts_paged"]
  | .depositAddresses vaultId assetId => ["v1", "vault", "accounts", vaultId, assetId, "addresses"]
  | .assetDetails assetId => ["v1", "assets", assetId]
  | .assetBalance vaultId assetId => ["v1", "vault", "accounts", vaultId, assetId]

def query : Call → List (String × String)
  | .listVaults (some cursor) => [("after", cursor)]
  | _ => []

def interpret [Json.Locator] : (call : Call) → Answer → Except CallError call.Result
  | .listVaults _, answer => answer.read VaultPage
  | .depositAddresses _ _, answer => (answer.read (List DepositAddress)).map (·.getD [])
  | .assetDetails _, answer => (answer.read AssetDetails).map (·.getD ⟨none⟩)
  | .assetBalance vaultId assetId, answer => do
      match ← answer.read AssetBalance with
      | some balance => .ok balance
      | none =>
          let path := "/".intercalate (segments (.assetBalance vaultId assetId))
          .error (.decode s!"Empty response from /{path}")

/-- Make a call to the custody service over the network. -/
def perform [Json.Locator] (client : Client) (call : Call) :
    Dialogue network (Except CallError call.Result) := do
  match ← (client.get (segments call) (query call)).run with
  | .ok answer => return interpret call answer
  | .error error => return .error error

end Client

end DepositDirectory.Http
