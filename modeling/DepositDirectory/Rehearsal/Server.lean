import DepositDirectory.Http.Wire

/-!
# A server with canned replies

The server listens at one place and gives one reply to each request that is made there, in order,
whatever is asked; a missing reply hangs up.  When all replies are given, it says so.  It passes
nothing on to other places, and nobody listens there.  Requests and log lines are written down.  A
reply is sent as bytes and read back from them, so what the server writes need not be a reply.
-/

namespace DepositDirectory.Rehearsal

open Http (Head network Reply Request)
open Text (utf8)

/-- What the server writes; `missing` bytes of the announced length are not sent. -/
structure Canned where
  status : Nat
  headers : List (String × String)
  body : List UInt8
  missing : Nat

def Canned.lines (canned : Canned) : List String :=
  [s!"HTTP/1.1 {canned.status} Canned", s!"Content-Length: {canned.body.length + canned.missing}",
    "Connection: close"] ++ canned.headers.map fun (name, value) => s!"{name}: {value}"

def Canned.bytes (canned : Canned) : List UInt8 :=
  (canned.lines.flatMap fun line => utf8 line.toList ++ Http.lineEnd) ++ Http.lineEnd ++ canned.body

/-- A server: where it listens, the replies to come, and what it has seen. -/
structure Server where
  place : Http.Place
  replies : List (Option Canned)
  requests : Array Head
  log : Array Log.Line

namespace Server

def opening (place : Http.Place) (replies : List (Option Canned)) : Server :=
  ⟨place, replies, #[], #[]⟩

def exhausted : Canned := ⟨599, [], utf8 "no more responses".toList, 0⟩

def unanswered (request : Request) (cause : String) : String :=
  s!"error sending request for url ({request.url.text}): {cause}"

/-- Answer a request, if it is made to the place of the server. -/
def answer (request : Request) (server : Server) : Except String Reply × Server :=
  if request.place? ≠ some server.place then
    (.error (unanswered request "error trying to connect"), server)
  else
    let seen := { server with requests := server.requests.push request.head }
    let (canned, left) :=
      match seen.replies with
      | [] => (some exhausted, [])
      | canned :: rest => (canned, rest)
    let reply? := if request.isTunnelled then none else canned.bind (Reply.ofBytes? ·.bytes)
    let told := reply?.elim (.error (unanswered request "no reply can be read")) .ok
    (told, { seen with replies := left })

def host : Host network Server where
  answer := answer
  wait := fun _ server => server
  note := fun line server => { server with log := server.log.push line }

def clock (server : Server) : Int × Server := (0, server)

end Server

end DepositDirectory.Rehearsal
