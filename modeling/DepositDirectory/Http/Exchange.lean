import DepositDirectory.Dialogue
import DepositDirectory.Http.MediaType
import DepositDirectory.Http.Place
import DepositDirectory.Text.Blank
import DepositDirectory.Text.Charset

/-!
# Exchanges over HTTP

A request asks for what a URL names and shows its credentials in headers.  It is made to the place
that the URL names, or to another that passes it on; over TLS, that one is first asked to connect.
A reply has a status, headers and a body of bytes, which may break off.  Of a request that gets no
reply at all the network tells what has become.
-/

namespace DepositDirectory.Http

/-- What is sent. -/
structure Request where
  url : Url
  apiKey : String
  authorization : Option String
  /-- The place that passes the request on, if one does. -/
  via : Option Place
  deriving DecidableEq

/-- What the place that a request is made to reads first. -/
structure Head where
  method : String
  target : String
  host : String
  apiKey : Option String
  authorization : Option String
  deriving DecidableEq

namespace Request

def place? (request : Request) : Option Place :=
  request.via.or (Place.ofUrl? request.url)

def isTunnelled (request : Request) : Bool :=
  request.via.isSome && isSecure request.url

def connection (request : Request) : String :=
  let host := (request.url.authority.map (·.host.text)).getD ""
  s!"{host}:{request.url.effectivePort?.getD 443}"

def absolute (url : Url) : String :=
  String.ofList (url.scheme ++ ':' :: url.authorityChars) ++ url.target

def head (request : Request) : Head :=
  if request.isTunnelled then
    ⟨"CONNECT", request.connection, request.connection, none, none⟩
  else
    { method := "GET"
      target := if request.via.isSome then absolute request.url else request.url.target
      host := (request.url.authority.map fun a => String.ofList a.hostChars).getD ""
      apiKey := some request.apiKey
      authorization := request.authorization }

end Request

/-- What comes back. -/
structure Reply where
  status : Nat
  headers : List (String × List UInt8)
  body : List UInt8
  /-- What is told of a body that breaks off before its announced length. -/
  cut : Option String
  deriving DecidableEq

/-- The network as a counterpart of dialogues; it tells why there is no reply. -/
def network : Interface where
  Ask := Request
  Reply := fun _ => Except String Reply

def isHeaderBlank (byte : UInt8) : Bool :=
  byte = 0x20 || byte = 0x09

def trimHeader (bytes : List UInt8) : List UInt8 :=
  ((bytes.dropWhile isHeaderBlank).reverse.dropWhile isHeaderBlank).reverse

namespace Reply

def header? (reply : Reply) (name : String) : Option (List UInt8) :=
  (reply.headers.find? fun header => header.1.toLower = name).map fun header => trimHeader header.2

/-- Whether a byte can be shown: visible ASCII, a space or a tab. -/
def isShown (byte : UInt8) : Bool :=
  (0x20 ≤ byte && byte < 0x7F) || byte = 0x09

/-- The hint how long to wait, if it can be shown. -/
def retryAfter (reply : Reply) : Option String :=
  ((reply.header? "retry-after").filter (·.all isShown)).map fun bytes =>
    String.ofList (bytes.map fun byte => Char.ofNat byte.toNat)

def location? (reply : Reply) : Option String :=
  ((reply.header? "location").bind Text.ofUtf8?).map String.ofList

def redirects (reply : Reply) : Bool :=
  [301, 302, 303, 307, 308].contains reply.status

/-- The character set of the body: the one that its media type names, or UTF-8. -/
def charset (reply : Reply) : Text.Charset :=
  let named := do
    let contentType ← (reply.header? "content-type").filter (·.all isShown)
    let mediaType ← MediaType.read? (Text.ofUtf8 contentType)
    mediaType.parameter? "charset".toList
  match named with
  | some label => .ofLabel (String.ofList (Text.asciiLower (Text.trimChars label)))
  | none => .utf8

def bodyText (reply : Reply) : Except String String :=
  match reply.cut with
  | some cause => .error cause
  | none => .ok (reply.charset.decode reply.body)

end Reply

end DepositDirectory.Http
