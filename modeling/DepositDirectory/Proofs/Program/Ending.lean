import DepositDirectory.Proofs.Json.Decoded
import DepositDirectory.Proofs.Program.Credentials
import DepositDirectory.Proofs.Program.Processes
import DepositDirectory.Proofs.Program.Surroundings

/-!
# How a run ends

A run that can be started has three steps: its settings are read, a client is set up and the
directory is asked.  When all of them succeed the run prints one document and nothing else, and when
one fails it prints nothing and says in one line what was being done and why it failed.  What the
directory is asked is what the command asks of one that has just been set up, and what is printed
tells the arguments of the command as they are and the answer as it is.
-/

namespace DepositDirectory

open CommandLine (Command Invocation)
open Custody (CallError)
open Directory (Query Row)
open Http (Client)
open Json (Value)

/-! ## What is to be printed -/

def rowValue (row : Row) : Value :=
  .object [("vaultId", .text row.vaultId), ("assetId", .text row.assetId),
    ("depositAddress", .text row.depositAddress), ("assetAddress", .ofText? row.assetAddress)]

namespace Document

def value (time : String) : Document → Value
  | resolved report =>
      .object [("address", .text report.address), ("vaultId", .ofText? report.vaultId)]
  | balance report =>
      .object [("depositAddress", .text report.depositAddress),
        ("tokenAddress", .text report.tokenAddress), ("available", .ofText? report.available)]
  | index rows =>
      .object [("count", .natural rows.length), ("generatedAt", .text time),
        ("entries", .list (rows.map rowValue))]

theorem toJson_rows (rows : List Row) : Json.toJson rows = .list (rows.map rowValue) := by
  refine congrArg Value.list ((List.map_map ..).trans (List.map_congr_left fun row _ => ?_))
  obtain ⟨vaultId, assetId, depositAddress, assetAddress⟩ := row
  cases assetAddress <;> rfl

theorem text_eq (time : String) (document : Document) :
    document.text time = (document.value time).pretty ++ "\n" := by
  cases document with
  | resolved report =>
      obtain ⟨address, owner⟩ := report
      cases owner <;> rfl
  | balance report =>
      obtain ⟨deposit, token, amount⟩ := report
      cases amount <;> rfl
  | index rows =>
      rw [text, value, IndexReport.toJson, toJson_rows]

end Document

namespace Surroundings

variable {σ : Type} (world : Surroundings σ) (client : Client) (plan : Directory.Plan)
  (time : String) (state : σ)

/-- The value that tells the arguments of a command and the answer to it. -/
def report? [Json.Locator] : Command → Option (Except CallError Value)
  | .resolve address =>
      (world.answer? client plan (Directory.resolve plan address) state).map <| Except.map
        fun owner => Document.value time (.resolved ⟨address, owner⟩)
  | .balance deposit token =>
      (world.answer? client plan (Directory.balance plan deposit token) state).map <| Except.map
        fun amount => Document.value time (.balance ⟨deposit, token, amount⟩)
  | .index =>
      (world.answer? client plan (Directory.addressIndex plan) state).map <| Except.map
        fun rows => Document.value time (.index rows)

theorem answer?_perform [Json.Locator] (command : Command) :
    (world.answer? client plan (Program.perform plan command) state).map
        (Except.map (Document.value time)) =
      world.report? client plan time state command := by
  have told {α : Type} (query : Query α) (change : α → Document) :
      (world.answer? client plan (query >>= fun value => pure (change value)) state).map
          (Except.map (Document.value time)) =
        (world.answer? client plan query state).map
          (Except.map fun value => (change value).value time) := by
    rw [answer?_map, Option.map_map]
    refine congrArg (Option.map · _) (funext fun outcome => ?_)
    cases outcome <;> rfl
  cases command with
  | resolve address => exact told _ _
  | balance deposit token => exact told _ _
  | index => exact told _ _

end Surroundings

/-! ## What is said of a failure -/

/-- The end of a run that fails, by what was being done and why it failed. -/
def Exit.failed (log context cause : String) : Exit :=
  ⟨1, "", log ++ ("error: " ++ context ++ ": " ++ cause ++ "\n")⟩

theorem Exit.ofFailure_eq {failure : Failure} {context cause : String}
    (worded : failure.message = context ++ ": " ++ cause) :
    Exit.ofFailure failure = .failed "" context cause := by
  have line : "error: " ++ (context ++ ": " ++ cause) ++ "\n" =
      "error: " ++ context ++ ": " ++ cause ++ "\n" := by
    simp only [String.append_assoc]
  rw [ofFailure, worded, failed, String.empty_append, ← line]
  rfl

theorem Failure.context_resolve (address : String) :
    context (.resolve address) = "Failed to resolve " ++ address :=
  rfl

theorem Failure.context_balance (deposit token : String) :
    context (.balance deposit token) = "Failed to fetch balance of " ++ token :=
  rfl

theorem Exit.afterLog_failed (format : Log.Format) (time : String) (lines : List Log.Line)
    (context cause : String) :
    (Exit.failed "" context cause).afterLog format time lines =
      .failed (String.join (lines.map fun line => format.write time line ++ "\n")) context
        cause := by
  rw [afterLog, failed, failed, String.empty_append]

/-! ## Programs on their surroundings -/

namespace Program

variable {σ : Type} (program : Program) (allowance : Nat)

theorem exists_lines_of_error [Json.Locator] {cause : CallError}
    (refused : Client.ofSettings program.settings = .error cause) :
    ∃ said, program.dialogue allowance = .lines said (.error (.client cause)) := by
  obtain ⟨said, announced⟩ : ∃ said, announce program.settings = .lines said () :=
    ⟨[_, _, _], rfl⟩
  rw [dialogue, task_run, withClient, create_of_error refused, announced, pure_bind,
    Dialogue.lines_bind_pure, Dialogue.filterNotes_lines]
  exact ⟨_, rfl⟩

theorem carryOut_of_ok [Json.Locator] (world : Surroundings σ) (state : σ) {client : Client}
    (made : Client.ofSettings program.settings = .ok client) :
    (world.carryOut program.settings.terms (program.dialogue allowance) state).1 =
      (world.answer? client (program.settings.plan allowance)
        (perform (program.settings.plan allowance) program.command) state).map
          (Except.mapError (Failure.query program.command)) := by
  let host := Directory.hostShelves world.host world.look program.settings.terms
  have greeted : (greet (Directory.withShelves Http.network) program.settings).run host
      (state, .empty) = (some (), state, .empty) := rfl
  have announced : (announce program.settings).run host (state, .empty) =
      (some (), state, .empty) := rfl
  rw [Surroundings.carryOut_fst, dialogue, (world.deaf_host _).run_filterNotes, task_run,
    Dialogue.run_bind_of_run announced, withClient, create_of_ok made, bind_assoc,
    Dialogue.run_bind_of_run greeted, pure_bind]
  dsimp only
  rw [map_eq_pure_bind, Dialogue.run_map]
  rfl

theorem configure_eq (environment : Environment) (invocation : Invocation) :
    configure environment invocation =
      match Settings.read environment with
      | .error cause => .error (Exit.ofFailure (.settings cause))
      | .ok settings =>
          match Log.Filter.choose? (environment "RUST_LOG") invocation.logLevel with
          | some filter => .ok ⟨invocation.command, settings, filter⟩
          | none => .error (Exit.crashed "The log filter ends a part within a character.") := by
  rw [configure]
  cases Settings.read environment with
  | error cause => rfl
  | ok settings => rfl

end Program

/-! ## Launches -/

/-- A launch of the program with a command line that can be read: what it meets, how many pages it
may drain, and the time that it prints. -/
structure Launch (σ : Type) where
  world : Surroundings σ
  state : σ
  process : Process
  invocation : Invocation
  parsed : process.invocation = .ok invocation
  allowance : Nat
  time : String

namespace Launch

variable {σ : Type} (launch : Launch σ)

def environment : Environment :=
  launch.process.environment

/-- How the run ends, if it does within the allowance, and what it does before. -/
def ending [Json.Locator] : Option Exit × List Act :=
  match launch.process.setUp with
  | .error exit => (some exit, [])
  | .ok program =>
      let (outcome?, acts) := launch.world.carryOut program.settings.terms
        (program.dialogue launch.allowance) launch.state
      (outcome?.map fun outcome => (Exit.ofOutcome launch.time outcome).afterLog
        program.settings.logFormat launch.time (acts.filterMap Act.line?), acts)

/-- The run breaks down before it does anything: it has no workers, or its settings are read and its
log filter cannot be. -/
def Crashes : Prop :=
  (∃ bytes, launch.process.raw "TOKIO_WORKER_THREADS" = some bytes ∧ ¬ TellsWorkers bytes) ∨
    (∃ settings, Settings.read launch.environment = .ok settings) ∧
      Log.Filter.choose? (launch.environment "RUST_LOG") launch.invocation.logLevel = none

/-- The settings are read, and they make a client. -/
def Connects (settings : Settings) (client : Client) : Prop :=
  Settings.read launch.environment = .ok settings ∧ Client.ofSettings settings = .ok client

/-- The report of the command, from a directory that has just been set up. -/
def report? [Json.Locator] (settings : Settings) (client : Client) :
    Option (Except CallError Value) :=
  launch.world.report? client (settings.plan launch.allowance) launch.time launch.state
    launch.invocation.command

/-- All steps succeed, and the value is the report. -/
def Reports [Json.Locator] (value : Value) : Prop :=
  ∃ settings client, launch.Connects settings client ∧
    launch.report? settings client = some (.ok value)

/-- The settings make a client, and the query of the command fails for the cause. -/
def Misses [Json.Locator] (cause : CallError) : Prop :=
  ∃ settings client, launch.Connects settings client ∧
    launch.report? settings client = some (.error cause)

/-- The first step that fails: what was being done, and why it failed. -/
inductive Fails [Json.Locator] : String → String → Prop where
  | settings {cause : SettingsError} (unread : Settings.read launch.environment = .error cause) :
      Fails "Failed to load configuration" cause.message
  | client {settings : Settings} {cause : CallError}
      (read : Settings.read launch.environment = .ok settings)
      (refused : Client.ofSettings settings = .error cause) :
      Fails "Failed to create custody client" cause.message
  | resolve {address : String} {cause : CallError}
      (wanted : launch.invocation.command = .resolve address) (misses : launch.Misses cause) :
      Fails ("Failed to resolve " ++ address) cause.message
  | balance {deposit token : String} {cause : CallError}
      (wanted : launch.invocation.command = .balance deposit token)
      (misses : launch.Misses cause) : Fails ("Failed to fetch balance of " ++ token) cause.message
  | index {cause : CallError} (wanted : launch.invocation.command = .index)
      (misses : launch.Misses cause) : Fails "Failed to build address index" cause.message

/-! ### The ways to end -/

variable {launch}

/-- A query that fails is named by its command. -/
theorem fails_of_misses [Json.Locator] {cause : CallError} (misses : launch.Misses cause) :
    launch.Fails (Failure.context launch.invocation.command) cause.message := by
  cases wanted : launch.invocation.command with
  | resolve address =>
      rw [Failure.context_resolve]
      exact .resolve wanted misses
  | balance deposit token =>
      rw [Failure.context_balance]
      exact .balance wanted misses
  | index => exact .index wanted misses

theorem Crashes.ending_eq [Json.Locator] (crashes : launch.Crashes) :
    ∃ errors, launch.ending = (some ⟨101, "", errors⟩, []) := by
  cases workers : launch.process.hasWorkers with
  | false =>
      rw [ending, Process.setUp, workers]
      exact ⟨_, rfl⟩
  | true =>
      have staffed : launch.process.hasWorkers ≠ false := by rw [workers]; decide
      obtain ⟨⟨settings, read⟩, unreadable⟩ := crashes.resolve_left fun idle =>
        staffed (Process.hasWorkers_eq_false_iff.mpr idle)
      rw [environment] at read unreadable
      rw [ending, Process.setUp_of_hasWorkers workers launch.parsed, Program.configure_eq, read]
      dsimp only
      rw [unreadable]
      exact ⟨_, rfl⟩

section Fit

variable (fit : ¬ launch.Crashes)
include fit

theorem setUp_of_fit :
    launch.process.setUp = Program.configure launch.environment launch.invocation :=
  Process.setUp_of_hasWorkers (Bool.eq_true_of_not_eq_false fun idle =>
    fit (Or.inl (Process.hasWorkers_eq_false_iff.mp idle))) launch.parsed

theorem ending_of_unread [Json.Locator] {cause : SettingsError}
    (unread : Settings.read launch.environment = .error cause) :
    launch.ending = (some (.failed "" "Failed to load configuration" cause.message), []) := by
  have worded : (Failure.settings cause).message =
      "Failed to load configuration" ++ ": " ++ cause.message := rfl
  rw [ending, setUp_of_fit fit, Program.configure_eq, unread]
  dsimp only
  rw [Exit.ofFailure_eq worded]

theorem exists_setUp {settings : Settings}
    (read : Settings.read launch.environment = .ok settings) :
    ∃ filter, launch.process.setUp = .ok ⟨launch.invocation.command, settings, filter⟩ := by
  rw [setUp_of_fit fit, Program.configure_eq, read]
  dsimp only
  cases chosen : Log.Filter.choose? (launch.environment "RUST_LOG") launch.invocation.logLevel with
  | none => exact absurd (Or.inr ⟨⟨settings, read⟩, chosen⟩) fit
  | some filter => exact ⟨filter, rfl⟩

theorem ending_of_refused [Json.Locator] {settings : Settings} {cause : CallError}
    (read : Settings.read launch.environment = .ok settings)
    (refused : Client.ofSettings settings = .error cause) :
    (∃ log, launch.ending.1 = some (.failed log "Failed to create custody client" cause.message)) ∧
      ∀ request, .asked request ∉ launch.ending.2 := by
  obtain ⟨filter, setUp⟩ := exists_setUp fit read
  obtain ⟨said, lines⟩ := Program.exists_lines_of_error
    ⟨launch.invocation.command, settings, filter⟩ launch.allowance refused
  rw [ending, setUp]
  dsimp only
  have worded : (Failure.client cause).message =
      "Failed to create custody client" ++ ": " ++ cause.message := rfl
  rw [lines, Surroundings.carryOut_lines, Option.map_some, Exit.ofOutcome, Exit.ofFailure_eq worded,
    Exit.afterLog_failed]
  refine ⟨⟨_, rfl⟩, fun request asked => ?_⟩
  obtain ⟨line, _, impossible⟩ := List.mem_map.mp asked
  cases impossible

theorem ending_of_connects [Json.Locator] {settings : Settings} {client : Client}
    (connects : launch.Connects settings client) :
    ∃ log, launch.ending.1 = (launch.report? settings client).map fun
      | .ok value => ⟨0, value.pretty ++ "\n", log⟩
      | .error cause => .failed log (Failure.context launch.invocation.command) cause.message := by
  obtain ⟨read, made⟩ := connects
  obtain ⟨filter, setUp⟩ := exists_setUp fit read
  let program : Program := ⟨launch.invocation.command, settings, filter⟩
  let ran := launch.world.carryOut settings.terms (program.dialogue launch.allowance) launch.state
  let log := String.join ((ran.2.filterMap Act.line?).map fun line =>
    settings.logFormat.write launch.time line ++ "\n")
  refine ⟨log, ?_⟩
  have ended : launch.ending.1 = ran.1.map fun outcome =>
      (Exit.ofOutcome launch.time outcome).afterLog settings.logFormat launch.time
        (ran.2.filterMap Act.line?) := by
    rw [ending, setUp]
  have asked : ran.1 = _ := program.carryOut_of_ok launch.allowance launch.world launch.state made
  rw [ended, asked, report?, ← Surroundings.answer?_perform, Option.map_map, Option.map_map]
  refine congrArg (Option.map · _) (funext fun outcome => ?_)
  cases outcome with
  | ok document =>
      change Exit.mk 0 (document.text launch.time) (log ++ "") = ⟨0, _, log⟩
      rw [Document.text_eq, String.append_empty]
  | error cause =>
      have worded : (Failure.query launch.invocation.command cause).message =
          Failure.context launch.invocation.command ++ ": " ++ cause.message := rfl
      change (Exit.ofFailure (.query launch.invocation.command cause)).afterLog _ _ _ = _
      rw [Exit.ofFailure_eq worded, Exit.afterLog_failed]
      rfl

theorem ending_of_reports [Json.Locator] {value : Value} (reports : launch.Reports value) :
    ∃ log, launch.ending.1 = some ⟨0, value.pretty ++ "\n", log⟩ := by
  obtain ⟨settings, client, connects, told⟩ := reports
  obtain ⟨log, ended⟩ := ending_of_connects fit connects
  rw [told] at ended
  exact ⟨log, ended⟩

theorem ending_of_misses [Json.Locator] {cause : CallError} (misses : launch.Misses cause) :
    ∃ log, launch.ending.1 =
      some (.failed log (Failure.context launch.invocation.command) cause.message) := by
  obtain ⟨settings, client, connects, failed⟩ := misses
  obtain ⟨log, ended⟩ := ending_of_connects fit connects
  rw [failed] at ended
  exact ⟨log, ended⟩

theorem ending_of_fails [Json.Locator] {context cause : String}
    (fails : launch.Fails context cause) :
    ∃ log, launch.ending.1 = some (.failed log context cause) := by
  cases fails with
  | settings unread => exact ⟨"", congrArg Prod.fst (ending_of_unread fit unread)⟩
  | client read refused => exact (ending_of_refused fit read refused).1
  | resolve wanted misses =>
      rw [← Failure.context_resolve, ← wanted]
      exact ending_of_misses fit misses
  | balance wanted misses =>
      rw [← Failure.context_balance, ← wanted]
      exact ending_of_misses fit misses
  | index wanted misses =>
      have named : Failure.context launch.invocation.command = "Failed to build address index" := by
        rw [wanted]
        rfl
      rw [← named]
      exact ending_of_misses fit misses

theorem reports_or_fails [Json.Locator] {exit : Exit} (ended : launch.ending.1 = some exit) :
    (∃ value, launch.Reports value) ∨ ∃ context cause, launch.Fails context cause := by
  cases read : Settings.read launch.environment with
  | error cause => exact Or.inr ⟨_, _, .settings read⟩
  | ok settings =>
      cases made : Client.ofSettings settings with
      | error cause => exact Or.inr ⟨_, _, .client read made⟩
      | ok client =>
          obtain ⟨log, same⟩ := ending_of_connects fit ⟨read, made⟩
          cases told : launch.report? settings client with
          | none =>
              rw [told, ended] at same
              cases same
          | some outcome =>
              cases outcome with
              | ok value => exact Or.inl ⟨value, settings, client, ⟨read, made⟩, told⟩
              | error cause =>
                  exact Or.inr ⟨_, _, fails_of_misses ⟨settings, client, ⟨read, made⟩, told⟩⟩

theorem not_asked [Json.Locator] (alone : ∀ settings client, ¬ launch.Connects settings client)
    (request : Http.Request) : .asked request ∉ launch.ending.2 := by
  cases read : Settings.read launch.environment with
  | error cause =>
      rw [ending_of_unread fit read]
      exact List.not_mem_nil
  | ok settings =>
      cases made : Client.ofSettings settings with
      | error cause => exact (ending_of_refused fit read made).2 request
      | ok client => exact absurd ⟨read, made⟩ (alone settings client)

end Fit

/-- The settings are read from what the variables were started with and, where that is no text, from
the settings file.  A run that breaks down has the code 101, prints nothing and does nothing.  Any
other run has the code 0 exactly when its settings are read, they make a client and the query of its
command to a directory that has just been set up succeeds; then it prints one document, which spells
the arguments and the answer.  When one of these steps fails it prints nothing, has the code 1 and
says at last what was being done and why that failed, unchanged.  There is no other way to end, and
no request is sent without settings and a client. -/
theorem all_or_nothing [Json.Locator] (launch : Launch σ) :
    (∀ name text, launch.environment name = some text ↔ launch.process.Holds name text) ∧
    (launch.Crashes → ∃ errors, launch.ending = (some ⟨101, "", errors⟩, [])) ∧
    (¬ launch.Crashes →
      ((∃ exit, launch.ending.1 = some exit ∧ exit.code = 0) ↔ ∃ value, launch.Reports value) ∧
      (∀ value, launch.Reports value →
        Json.decode? (value.pretty ++ "\n") = some value ∧
          ∃ log, launch.ending.1 = some ⟨0, value.pretty ++ "\n", log⟩) ∧
      (∀ context cause, launch.Fails context cause →
        ∃ log, launch.ending.1 =
          some ⟨1, "", log ++ ("error: " ++ context ++ ": " ++ cause ++ "\n")⟩) ∧
      (∀ exit, launch.ending.1 = some exit →
        (∃ value, launch.Reports value) ∨ ∃ context cause, launch.Fails context cause) ∧
      ((∀ settings client, ¬ launch.Connects settings client) →
        ∀ request, .asked request ∉ launch.ending.2)) := by
  refine ⟨fun _ _ => Process.environment_eq_some_iff, Crashes.ending_eq,
    fun fit => ⟨⟨?_, ?_⟩, ?_, ?_, ?_, not_asked fit⟩⟩
  · rintro ⟨exit, ended, success⟩
    refine (reports_or_fails fit ended).resolve_right ?_
    rintro ⟨context, cause, fails⟩
    obtain ⟨log, failed⟩ := ending_of_fails fit fails
    cases ended.symm.trans failed
    cases success
  · rintro ⟨value, reports⟩
    obtain ⟨log, ended⟩ := ending_of_reports fit reports
    exact ⟨_, ended, rfl⟩
  · intro value reports
    exact ⟨Json.decode?_line value, ending_of_reports fit reports⟩
  · intro context cause fails
    exact ending_of_fails fit fails
  · intro exit ended
    exact reports_or_fails fit ended

/-! ### A launch for an index of one row -/

/-- A process that is asked for the index: its variables hold an address and perhaps a number of
workers, and the key is in its settings file. -/
def staffed (workers : Option ByteArray) : Process where
  raw
    | "CUSTODY_API_BASE_URL" => some "http://[::1]:3000".toUTF8
    | "TOKIO_WORKER_THREADS" => workers
    | _ => none
  file := [("CUSTODY_API_BASE_URL", "http://elsewhere"), ("CUSTODY_API_KEY", "k")]
  arguments := ["index"]

def counting (workers : Option ByteArray) : Launch Nat where
  world := .telling [
    "\x7b\"accounts\":[\x7b\"id\":\"V 1\",\"assets\":[\x7b\"id\":\"A\"\x7d]\x7d]\x7d",
    "[\x7b\"address\":\"0xA\"\x7d]", "\x7b\"onchain\":\x7b\"address\":\"0xT\"\x7d\x7d"]
  state := 0
  process := staffed workers
  invocation := ⟨"info", .index⟩
  parsed := rfl
  allowance := 1
  time := "now"

def staffedSettings : Settings :=
  ⟨"http://[::1]:3000", "k", none, 30, 30, 1000, 60, .withinTtl, .pretty, .empty⟩

theorem read_staffed :
    ∀ workers ∈ [none, some "0".toUTF8],
      Settings.read (staffed workers).environment = .ok staffedSettings := by
  decide +kernel

def countedReport : Value :=
  .object [("count", .natural 1), ("generatedAt", .text "now"), ("entries", .list [
    .object [("vaultId", .text "V 1"), ("assetId", .text "A"), ("depositAddress", .text "0xa"),
      ("assetAddress", .text "0xT")]])]

/-- With the number of workers left open or none, the settings are read, they make a client, and the
service tells the index. -/
theorem counting_reports {workers : Option ByteArray}
    (among : workers ∈ [none, some "0".toUTF8]) :
    (counting workers).Reports countedReport := by
  let plan := staffedSettings.plan 1
  let ask (client : Client) :=
    (counting none).world.answer? client plan (Directory.addressIndex plan) 0
  have asked : (Client.ofSettings staffedSettings).toOption.map ask =
      some (some (.ok [⟨"V 1", "A", "0xa", some "0xT"⟩])) := by
    decide +kernel
  cases made : Client.ofSettings staffedSettings with
  | error cause =>
      rw [made] at asked
      cases asked
  | ok client =>
      rw [made] at asked
      have told : ask client = some (.ok [⟨"V 1", "A", "0xa", some "0xT"⟩]) :=
        Option.some.inj asked
      refine ⟨staffedSettings, client, ⟨read_staffed workers among, made⟩, ?_⟩
      change Option.map _ (ask client) = _
      rw [told]
      rfl

/-- The address that the process was started with counts, and not the one in its settings file.
With the number of workers left open the run prints its one document. -/
theorem counting_prints :
    (staffed none).Holds "CUSTODY_API_BASE_URL" "http://[::1]:3000" ∧
      (staffed none).Holds "CUSTODY_API_KEY" "k" ∧
      ¬ (counting none).Crashes ∧ (counting none).Reports countedReport ∧
      Json.decode? (countedReport.pretty ++ "\n") = some countedReport ∧
      ∃ log, (counting none).ending.1 = some ⟨0, countedReport.pretty ++ "\n", log⟩ := by
  have fit : ¬ (counting none).Crashes := by
    have chosen : (Log.Filter.choose? none "info").isSome = true := by decide +kernel
    rintro (⟨_, impossible, _⟩ | ⟨_, unreadable⟩)
    · cases impossible
    · change Log.Filter.choose? none "info" = none at unreadable
      rw [unreadable] at chosen
      cases chosen
  have reports := counting_reports List.mem_cons_self
  obtain ⟨holds, _, ends⟩ := all_or_nothing (counting none)
  obtain ⟨_, prints, _⟩ := ends fit
  exact ⟨(holds _ _).mp (by decide +kernel), (holds _ _).mp (by decide +kernel), fit, reports,
    prints countedReport reports⟩

/-- With no workers the run breaks down, although each of its steps would succeed. -/
theorem counting_unstaffed :
    (counting (some "0".toUTF8)).Reports countedReport ∧
      (∃ errors, (counting (some "0".toUTF8)).ending = (some ⟨101, "", errors⟩, [])) ∧
      ¬ ((∃ exit, (counting (some "0".toUTF8)).ending.1 = some exit ∧ exit.code = 0) ↔
        ∃ value, (counting (some "0".toUTF8)).Reports value) := by
  have reports : (counting (some "0".toUTF8)).Reports countedReport :=
    counting_reports (List.mem_cons_of_mem _ List.mem_cons_self)
  have idle : (staffed (some "0".toUTF8)).hasWorkers = false := by decide +kernel
  have crashes : (counting (some "0".toUTF8)).Crashes :=
    Or.inl (Process.hasWorkers_eq_false_iff.mp idle)
  obtain ⟨errors, broken⟩ := crashes.ending_eq
  refine ⟨reports, ⟨errors, broken⟩, fun same => ?_⟩
  obtain ⟨exit, ended, success⟩ := same.mpr ⟨_, reports⟩
  rw [broken] at ended
  cases ended
  cases success

end Launch

end DepositDirectory
