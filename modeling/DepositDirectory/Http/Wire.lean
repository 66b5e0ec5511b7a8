import DepositDirectory.Http.Chunked
import DepositDirectory.Text.Numeral

/-!
# Requests and replies as bytes

A request is sent as lines of text with an empty line at the end.  Each request has a connection of
its own, so a reply is all that comes before the connection closes: a status line, headers, an empty
line and a body.  The headers tell where the body ends; one that is shorter than announced breaks
off.  What does not keep to the form is no reply at all.
-/

namespace DepositDirectory.Http

open Text (utf8)

def lineEnd : List UInt8 := [0x0D, 0x0A]

def Request.lines (request : Request) : List String :=
  let head := request.head
  [s!"{head.method} {head.target} HTTP/1.1", s!"Host: {head.host}", "Accept: */*",
    "Connection: close"] ++
      (head.apiKey.map fun value => s!"x-api-key: {value}").toList ++
      (head.authorization.map fun value => s!"Authorization: {value}").toList

def Request.bytes (request : Request) : List UInt8 :=
  (request.lines.flatMap fun line => utf8 line.toList ++ lineEnd) ++ lineEnd

/-! ## Lines -/

/-- The first line and what follows it; a line feed ends a line, also alone. -/
def cutLine? (bytes : List UInt8) : Option (List UInt8 × List UInt8) :=
  let line := bytes.takeWhile (· ≠ 0x0A)
  if line.length = bytes.length then none
  else
    let content := if line.getLast? = some 0x0D then line.dropLast else line
    some (content, bytes.drop (line.length + 1))

/-- Whether a byte may stand in a line of a head: no control but the tab. -/
def isLineByte (byte : UInt8) : Bool :=
  byte = 0x09 || (0x20 ≤ byte && byte ≠ 0x7F)

def isTokenByte (byte : UInt8) : Bool :=
  let c := Char.ofNat byte.toNat
  c.isAlphanum || "!#$%&'*+-.^_\x60|~".toList.contains c

def headerOf? (line : List UInt8) : Option (String × List UInt8) :=
  let name := line.takeWhile (· ≠ 0x3A)
  let value := line.drop (name.length + 1)
  if name = [] ∨ name.length = line.length ∨ !name.all isTokenByte ∨ !value.all isLineByte then none
  else some (String.ofList (Text.ofUtf8 name), trimHeader value)

/-- The headers up to the empty line, and what follows it; there are at most `allowance`. -/
def cutHeaders? : (allowance : Nat) → List UInt8 → Option (List (String × List UInt8) × List UInt8)
  | allowance, bytes => do
      let (line, rest) ← cutLine? bytes
      if line = [] then some ([], rest)
      else
        match allowance with
        | 0 => none
        | allowance + 1 =>
            let header ← headerOf? line
            let (headers, body) ← cutHeaders? allowance rest
            some (header :: headers, body)

def headerLimit : Nat := 100

/-- The minor version and the status of a status line; a phrase may follow the status. -/
def statusOf? (line : List UInt8) : Option (Nat × Nat) :=
  if !line.all isLineByte then none
  else
    match Text.ofUtf8 line with
    | 'H' :: 'T' :: 'T' :: 'P' :: '/' :: '1' :: '.' :: minor :: ' ' :: a :: b :: c :: phrase => do
        let minor ← Url.digitIn? 2 minor
        let status ← Url.digitsIn? 10 [a, b, c]
        if 100 ≤ status ∧ (phrase.head?.all (· = ' ')) then some (minor, status) else none
    | _ => none

/-! ## Bodies -/

/-- The values of the headers of a name, given in lower case. -/
def Reply.values (reply : Reply) (name : String) : List (List UInt8) :=
  (reply.headers.filter fun header => header.1.toLower = name).map (·.2)

def commonLength? (values : List (List UInt8)) : Option Nat := do
  let parts := values.flatMap (Text.splitAt 0x2C)
  guard (parts.all (·.all Reply.isShown))
  let lengths ← parts.mapM fun part =>
    let digits := Text.trimChars (Text.ofUtf8 part)
    if digits = [] then none else Url.digitsIn? 10 digits
  let first ← lengths.head?
  if lengths.all (· = first) ∧ first ≤ Text.maxWord64 - 2 then some first else none

def isChunked (codings : List (List UInt8)) : Bool :=
  let line := codings.getLast?.getD []
  let last := ((Text.splitAt 0x2C line).getLast?).getD []
  line.all Reply.isShown &&
    String.ofList (Text.asciiLower (Text.trimChars (Text.ofUtf8 last))) = "chunked"

def bodyCut : String :=
  "error reading a body from connection: end of file before message length reached"

/-- The reply of a head, a minor version and the bytes that follow; some statuses have no body. -/
def Reply.withBody? (head : Reply) (minor : Nat) (bytes : List UInt8) : Option Reply :=
  let codings := head.values "transfer-encoding"
  let lengths := head.values "content-length"
  if [101, 204, 304].contains head.status then some head
  else if codings ≠ [] then
    if minor = 0 then none
    else if isChunked codings then
      match Chunked.read? bytes with
      | some body => some { head with body }
      | none => some { head with cut := some bodyCut }
    else some { head with body := bytes }
  else if lengths = [] then some { head with body := bytes }
  else
    (commonLength? lengths).map fun length =>
      { head with
        body := bytes.take length
        cut := if bytes.length < length then some bodyCut else none }

def isInterim (status : Nat) : Bool :=
  100 ≤ status && status < 200 && status ≠ 101

def afterEmptyLines : List UInt8 → List UInt8
  | 0x0D :: 0x0A :: rest => afterEmptyLines rest
  | 0x0A :: rest => afterEmptyLines rest
  | bytes => bytes

def readReply? : (allowance : Nat) → List UInt8 → Option Reply
  | 0, _ => none
  | allowance + 1, bytes => do
      let (line, rest) ← cutLine? (afterEmptyLines bytes)
      let (minor, status) ← statusOf? line
      let (headers, rest) ← cutHeaders? headerLimit rest
      if isInterim status then readReply? allowance rest
      else Reply.withBody? ⟨status, headers, [], none⟩ minor rest

def Reply.ofBytes? (bytes : List UInt8) : Option Reply :=
  readReply? (bytes.length + 1) bytes

end DepositDirectory.Http
