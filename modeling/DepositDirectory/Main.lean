import DepositDirectory.Http.Wire
import DepositDirectory.Log.Written
import DepositDirectory.Process
import DepositDirectory.Text.Moment
import Std.Async.DNS
import Std.Async.TCP
import Std.Async.Timer

/-!
# The executable

Runs the program with the arguments and the environment of its process: questions to the network go
over plain TCP connections, log lines and failures to standard error, and the report to standard
output.
-/

namespace DepositDirectory.Main

open Directory (Ask Shelves withShelves)
open Http (Reply Request network)
open Std.Async (Async)
open Std.Net (IPAddr SocketAddress)

def wallClock : IO Nat := do
  return (← Std.Time.Timestamp.now).toNanosecondsSinceUnixEpoch.val.toNat

partial def receive (client : Std.Async.TCP.Socket.Client) (before : ByteArray) :
    Async ByteArray := do
  match ← client.recv? 65536 with
  | some bytes => receive client (before ++ bytes)
  | none => return before

def exchangeWith (address : IPAddr) (service : UInt16) (bytes : List UInt8) : Async ByteArray := do
  let client ← Std.Async.TCP.Socket.Client.mk
  let place : SocketAddress :=
    match address with
    | .v4 v4 => .v4 ⟨v4, service⟩
    | .v6 v6 => .v6 ⟨v6, service⟩
  client.connect place
  client.send ⟨bytes.toArray⟩
  receive client .empty

def lookUpName : Url.Host → String
  | .v6 pieces => ":".intercalate (pieces.map fun piece => String.ofList (Nat.toDigits 16 piece))
  | host => host.text

/-- Send a request over plain TCP; there is none where what comes back cannot be read. -/
def exchange (request : Request) : Async (Option Reply) := do
  match request.place? with
  | some ⟨false, host, service⟩ =>
      match (← Std.Async.DNS.getAddrInfo (lookUpName host) service.repr)[0]? with
      | none => return none
      | some address =>
          let bytes ← exchangeWith address service.toUInt16 request.bytes
          return if request.isTunnelled then none else Reply.ofBytes? bytes.toList
  | _ => return none

/-- Send a request; it is told when that fails or takes too long. -/
def sendWithin (seconds : Nat) (request : Request) : IO (Except String Reply) := do
  let work ← (exchange request).asTask
  let alarm ← (Std.Async.sleep (.ofNat (seconds * 1000))).asTask
  let untold (cause : String) : Except String Reply :=
    .error s!"error sending request for url ({request.url.text}): {cause}"
  let sent := work.map fun reply? => reply?.elim (untold "no reply can be read") .ok
  let late := alarm.map fun _ => untold "operation timed out"
  match ← IO.waitAny [sent, late] with
  | .ok told => return told
  | .error error => return untold (toString error)

def answer (settings : Settings) :
    (question : Ask network) → Shelves → IO (question.Reply × Shelves)
  | .outside request, shelves => do
      let reply : Except String Reply ← sendWithin settings.timeoutSecs request
      return (reply, shelves)
  | .vaults ask, shelves => do
      let now ← IO.monoNanosNow
      let (reply, entry, _) :=
        Directory.answerShelf (fun _ => ((now : Int), ())) settings.terms shelves.vaults ask ()
      return (reply, { shelves with vaults := entry })
  | .index ask, shelves => do
      let now ← IO.monoNanosNow
      let (reply, entry, _) :=
        Directory.answerShelf (fun _ => ((now : Int), ())) settings.terms shelves.index ask ()
      return (reply, { shelves with index := entry })

def converse {α : Type} (settings : Settings) :
    Dialogue (withShelves network) α → Shelves → IO (Option α)
  | .done result, _ => return some result
  | .unfinished, _ => return none
  | .ask question next, shelves => do
      let (reply, shelves) ← answer settings question shelves
      converse settings (next reply) shelves
  | .sleep ms next, shelves => do
      (Std.Async.sleep (.ofNat ms)).block
      converse settings next shelves
  | .note line next, shelves => do
      IO.eprintln (settings.logFormat.write (Text.momentText (← wallClock)) line)
      converse settings next shelves

def variableNames : List String :=
  ["CUSTODY_API_BASE_URL", "CUSTODY_API_KEY", "CUSTODY_API_TOKEN", "CUSTODY_REQUEST_TIMEOUT_SECS",
    "RATE_LIMIT_MAX_RETRIES", "RATE_LIMIT_DEFAULT_WAIT_MS", "VAULT_CACHE_TTL_SECS",
    "VAULT_CACHE_REFRESH_POLICY", "LOG_FORMAT", "LOG_LEVEL", "RUST_LOG", "NO_COLOR",
    "CLICOLOR_FORCE", "TOKIO_WORKER_THREADS", "HTTP_PROXY", "http_proxy", "HTTPS_PROXY",
    "https_proxy", "ALL_PROXY", "all_proxy", "NO_PROXY", "no_proxy", "REQUEST_METHOD"]

def environment : IO Environment := do
  let held ← variableNames.filterMapM fun name => do
    return (← IO.getEnv name).map fun value => (name, value)
  return fun name => held.lookup name

/-- How many pages a listing may have. -/
def allowance : Nat := Nat.pow 2 64

/-- Run the program to its end; no settings file is loaded. -/
def run (arguments : List String) : IO Exit := do
  match (Process.plain (← environment) arguments).setUp with
  | .error exit => return exit
  | .ok program =>
      match ← converse program.settings (program.dialogue allowance) .empty with
      | some outcome => return Exit.ofOutcome (Text.momentText (← wallClock)) outcome
      | none => return ⟨1, "", "error: the listing does not end\n"⟩

end DepositDirectory.Main

def main (arguments : List String) : IO UInt32 := do
  let exit ← DepositDirectory.Main.run arguments
  (← IO.getStdout).putStr exit.output
  (← IO.getStderr).putStr exit.errors
  return exit.code.toUInt32
