import DepositDirectory.CommandLine.Help
import DepositDirectory.CommandLine.Reader
import DepositDirectory.Directory.Query
import DepositDirectory.Http.Client
import DepositDirectory.Json.Printer
import DepositDirectory.Log.Filter
import DepositDirectory.Log.Written
import DepositDirectory.Report

/-!
# The program

A run reads its arguments and then its settings.  It logs how it is set up, makes one query to the
directory over HTTP and prints the report.  Whatever goes wrong after the arguments ends the run
with one line that says what was being done and why it failed.  A report that finds nothing is no
failure.
-/

namespace DepositDirectory

open CommandLine (Command Invocation Stop)
open Custody (CallError)
open Directory (withShelves)
open Http (Client network)

inductive Failure where
  | settings (cause : SettingsError)
  | client (cause : CallError)
  | query (command : Command) (cause : CallError)
  deriving DecidableEq

namespace Failure

def context : Command → String
  | .resolve address => s!"Failed to resolve {address}"
  | .balance _ token => s!"Failed to fetch balance of {token}"
  | .index => "Failed to build address index"

def message : Failure → String
  | settings cause => s!"Failed to load configuration: {cause.message}"
  | client cause => s!"Failed to create custody client: {cause.message}"
  | query command cause => s!"{context command}: {cause.message}"

end Failure

inductive Document where
  | resolved (report : ResolveReport)
  | balance (report : BalanceReport)
  | index (rows : List Directory.Row)
  deriving DecidableEq

def Document.text (time : String) : Document → String
  | resolved report => (Json.toJson report).pretty ++ "\n"
  | balance report => (Json.toJson report).pretty ++ "\n"
  | index rows => (IndexReport.toJson ⟨time, rows⟩).pretty ++ "\n"

/-- How a run ends: with a code, and with what it prints on the two channels. -/
structure Exit where
  code : Nat
  output : String
  errors : String
  deriving DecidableEq

namespace Exit

/-- The end of a run that stops at its arguments; the text keeps its emphasis or loses it. -/
def ofStop (emphatic : Bool) (level : Option String) (stop : Stop) : Exit :=
  let text := if emphatic then stop.text level else Text.streamed (stop.text level)
  if stop.isFailure then ⟨2, "", text⟩ else ⟨0, text, ""⟩

def ofFailure (failure : Failure) : Exit :=
  ⟨1, "", s!"error: {failure.message}\n"⟩

def crashed (reason : String) : Exit :=
  ⟨101, "", reason ++ "\n"⟩

def ofOutcome (time : String) : Except Failure Document → Exit
  | .ok document => ⟨0, document.text time, ""⟩
  | .error failure => ofFailure failure

/-- The end of a run with the log lines that it wrote before. -/
def afterLog (format : Log.Format) (time : String) (lines : List Log.Line) (exit : Exit) : Exit :=
  let log := String.join (lines.map fun line => format.write time line ++ "\n")
  { exit with errors := log ++ exit.errors }

end Exit

/-- A run that is set up. -/
structure Program where
  command : Command
  settings : Settings
  filter : Log.Filter
  deriving DecidableEq

namespace Program

def workerLimit : Nat := Nat.pow 2 60 - 1

def isWorkerCount (text : String) : Bool :=
  match Text.readNumeral workerLimit text.toList with
  | .ok count => count ≠ 0
  | .error _ => false

/-- Whether the environment leaves the number of workers open or sets a usable one. -/
def hasWorkers (environment : Environment) : Bool :=
  (environment "TOKIO_WORKER_THREADS").all isWorkerCount

def unstaffed : Exit :=
  Exit.crashed "The number of workers cannot be used."

def configure (environment : Environment) (invocation : Invocation) : Except Exit Program := do
  let settings ← (Settings.read environment).mapError fun cause => Exit.ofFailure (.settings cause)
  match Log.Filter.choose? (environment "RUST_LOG") invocation.logLevel with
  | some filter => return ⟨invocation.command, settings, filter⟩
  | none => throw (Exit.crashed "The log filter ends a part within a character.")

/-- Set up a run, or end it.  Without workers not even the arguments are read. -/
def setUp (environment : Environment) (arguments : List String) : Except Exit Program := do
  if !hasWorkers environment then throw unstaffed
  let level := environment "LOG_LEVEL"
  let emphatic := CommandLine.Emphasis.isForced environment
  let invocation ← (Invocation.read level arguments).mapError (Exit.ofStop emphatic level)
  configure environment invocation

def perform (plan : Directory.Plan) : Command → Directory.Query Document
  | .resolve address => return .resolved ⟨address, ← Directory.resolve plan address⟩
  | .balance deposit token =>
      return .balance ⟨deposit, token, ← Directory.balance plan deposit token⟩
  | .index => return .index (← Directory.addressIndex plan)

def announce (settings : Settings) : Dialogue (withShelves network) Unit := do
  Dialogue.say .debug .logging s!"logging initialized (format={settings.logFormat.label})"
  Dialogue.say .info .program s!"Custody API: {settings.baseUrl}"
  Dialogue.say .info .program <|
    s!"Cache: ttl {Http.secondsText settings.ttlSecs}, policy {settings.policy.name}"

def task [Json.Locator] (program : Program) (allowance : Nat) :
    Task (withShelves network) Failure Document := do
  ExceptT.lift (announce program.settings)
  let client ← (Client.create program.settings).adapt Failure.client
  let plan := program.settings.plan allowance
  ExceptT.adapt (Failure.query program.command) <| ExceptT.mk <|
    Directory.through client.perform (perform plan program.command).run

/-- The whole run with the log lines that its filter lets through. -/
def dialogue [Json.Locator] (program : Program) (allowance : Nat) :
    Dialogue (withShelves network) (Except Failure Document) :=
  (program.task allowance).run.filterNotes program.filter.admits

end Program

end DepositDirectory
