import DepositDirectory.Directory.Request
import DepositDirectory.Proofs.Program.Visible

/-!
# Credentials do not show

Settings that differ in nothing but their credentials set up clients that cannot be told apart, and
whatever is done with these looks the same: the sessions of a directory over HTTP, and the runs of
the whole program.
-/

namespace DepositDirectory

open Custody (CallError)
open Directory (Response Shelves through withShelves)
open Http (Client isHeaderText network)

/-! ## Results that match -/

/-- The same error, or results that are related. -/
inductive Matched {ε α β : Type} (related : α → β → Prop) : Except ε α → Except ε β → Prop where
  | error (cause : ε) : Matched related (.error cause) (.error cause)
  | ok {result : α} {other : β} : related result other → Matched related (.ok result) (.ok other)

namespace Matched

variable {ε α β γ δ : Type}

theorem self (result : Except ε α) : Matched Eq result result := by
  cases result with
  | error cause => exact error cause
  | ok value => exact ok rfl

theorem bind {related : α → β → Prop} {relatedToo : γ → δ → Prop} {first : Except ε α}
    {other : Except ε β} (matched : Matched related first other) {next : α → Except ε γ}
    {nextToo : β → Except ε δ}
    (later : ∀ result resultToo, related result resultToo →
      Matched relatedToo (next result) (nextToo resultToo)) :
    Matched relatedToo (first >>= next) (other >>= nextToo) := by
  cases matched with
  | error cause => exact error cause
  | ok found => exact later _ _ found

theorem mapError {ε' : Type} {related : α → β → Prop} {first : Except ε α} {other : Except ε β}
    (matched : Matched related first other) (f : ε → ε') :
    Matched related (first.mapError f) (other.mapError f) := by
  cases matched with
  | error cause => exact error (f cause)
  | ok found => exact ok found

end Matched

/-! ## Settings -/

namespace Settings

/-- Whether the credentials can be the values of headers. -/
def hasHeaderTexts (settings : Settings) : Bool :=
  isHeaderText settings.apiKey && (settings.apiToken.map ("Bearer " ++ ·)).all isHeaderText

/-- Settings that differ in nothing but the key and what a token says. -/
structure Akin (settings other : Settings) : Prop where
  rest : { settings with apiKey := other.apiKey, apiToken := other.apiToken } = other
  presence : settings.apiToken.isSome = other.apiToken.isSome
  accepted : settings.hasHeaderTexts = true
  acceptedToo : other.hasHeaderTexts = true

variable {settings other : Settings}

theorem Akin.terms_eq (akin : Akin settings other) : settings.terms = other.terms := by
  rw [← akin.rest]
  rfl

theorem Akin.plan_eq (akin : Akin settings other) (allowance : Nat) :
    settings.plan allowance = other.plan allowance := by
  rw [← akin.rest]
  rfl

theorem ofSettings_of_hasHeaderTexts (accepted : settings.hasHeaderTexts = true) :
    Client.ofSettings settings =
      match Url.read settings.baseUrl with
      | .error error => .error (.transport s!"Invalid custody API URL: {error.message}")
      | .ok base => .ok ⟨base, settings.apiKey, settings.apiToken.map ("Bearer " ++ ·),
          settings.proxies⟩ := by
  obtain ⟨key, bearer⟩ := Bool.and_eq_true_iff.mp accepted
  rw [Client.ofSettings]
  cases Url.read settings.baseUrl with
  | error error => rfl
  | ok base =>
      dsimp only
      rw [key, bearer]
      rfl

/-- Clients of settings that are alike but for their credentials are, and fail alike. -/
theorem Akin.ofSettings (akin : Akin settings other) :
    Matched Client.Akin (Client.ofSettings settings) (Client.ofSettings other) := by
  have base : settings.baseUrl = other.baseUrl := congrArg (·.baseUrl) akin.rest
  have proxies : settings.proxies = other.proxies := congrArg (·.proxies) akin.rest
  rw [ofSettings_of_hasHeaderTexts akin.accepted, ofSettings_of_hasHeaderTexts akin.acceptedToo,
    base]
  cases Url.read other.baseUrl with
  | error error => exact .error _
  | ok url =>
      refine .ok ⟨rfl, proxies, ?_⟩
      rw [Option.isSome_map, Option.isSome_map]
      exact akin.presence

end Settings

/-! ## Setting up a client -/

section Create

variable {settings other : Settings} {α : Type}

def greet (I : Interface) (settings : Settings) : Dialogue I Unit := do
  Dialogue.say .info .client "Custody client initialized:"
  Dialogue.say .info .client s!"  API: {settings.baseUrl}"
  Dialogue.say .info .client s!"  Timeout: {Http.secondsText settings.timeoutSecs}"

theorem create_of_error {I : Interface} {cause : CallError}
    (fails : Client.ofSettings settings = .error cause) :
    (Client.create settings : Task I CallError Client).run = pure (.error cause) := by
  rw [Client.create, fails]
  rfl

theorem create_of_ok {I : Interface} {client : Client}
    (succeeds : Client.ofSettings settings = .ok client) :
    (Client.create settings : Task I CallError Client).run =
      greet I settings >>= fun _ => pure (.ok client) := by
  rw [Client.create, succeeds]
  rfl

def withClient (settings : Settings) (fail : CallError → α)
    (next : Client → Dialogue (withShelves network) α) : Dialogue (withShelves network) α := do
  match ← (Client.create settings).run with
  | .error cause => return fail cause
  | .ok client => next client

/-- Where clients that are alike but for their credentials cannot be told apart, settings cannot. -/
theorem unsigned_withClient (akin : settings.Akin other) {fail : CallError → α}
    {next : Client → Dialogue (withShelves network) α}
    (alike : ∀ client clientToo, Client.Akin client clientToo →
      unsigned (next client) = unsigned (next clientToo)) :
    unsigned (withClient settings fail next) = unsigned (withClient other fail next) := by
  have greeting : greet (withShelves network) settings = greet (withShelves network) other := by
    rw [← akin.rest]
    rfl
  have matched := akin.ofSettings
  rw [withClient, withClient]
  generalize made : Client.ofSettings settings = one, madeToo : Client.ofSettings other = two
    at matched
  cases matched with
  | error cause => rw [create_of_error made, create_of_error madeToo]
  | ok same =>
      rw [create_of_ok made, create_of_ok madeToo, greeting, bind_assoc, bind_assoc, unsigned_bind,
        unsigned_bind]
      exact congrArg _ (funext fun _ => alike _ _ same)

end Create

/-! ## Sessions -/

/-- A session of the directory over HTTP: a client is set up, and then requests are made one after
the other. -/
def session [Json.Locator] (settings : Settings) (allowance : Nat)
    (requests : List Directory.Request) :
    Dialogue (withShelves network) (Except CallError (List (Except CallError Response))) :=
  withClient settings .error fun client =>
    .ok <$> through client.perform
      (requests.mapM fun request => (request.perform (settings.plan allowance)).run)

theorem unsigned_session [Json.Locator] {settings other : Settings}
    (akin : settings.Akin other) (allowance : Nat) (requests : List Directory.Request) :
    unsigned (session settings allowance requests) =
      unsigned (session other allowance requests) := by
  rw [session, session, akin.plan_eq]
  refine unsigned_withClient akin fun client clientToo same => ?_
  rw [map_eq_pure_bind, map_eq_pure_bind, unsigned_bind, unsigned_bind, unsigned_through same]

/-! ## The program -/

namespace Program

/-- The whole run announces its settings, sets up a client and makes its query. -/
theorem task_run [Json.Locator] (program : Program) (allowance : Nat) :
    (program.task allowance).run =
      announce program.settings >>= fun _ =>
        withClient program.settings (fun cause => .error (.client cause)) fun client =>
          Except.mapError (Failure.query program.command) <$> through client.perform
            (perform (program.settings.plan allowance) program.command).run := by
  simp only [task, withClient, ExceptT.run_bind, ExceptT.run_lift, bind_map_left]
  refine congrArg _ (funext fun _ => ?_)
  change (Except.mapError Failure.client <$> (Client.create program.settings).run >>= _) = _
  rw [bind_map_left]
  refine congrArg _ (funext fun created => ?_)
  cases created with
  | error cause => rfl
  | ok client => rfl

/-- Programs that differ in nothing but the credentials of their settings. -/
structure Akin (program other : Program) : Prop where
  command : program.command = other.command
  filter : program.filter = other.filter
  settings : program.settings.Akin other.settings

theorem unsigned_dialogue [Json.Locator] {program other : Program} (akin : Akin program other)
    (allowance : Nat) :
    unsigned (program.dialogue allowance) = unsigned (other.dialogue allowance) := by
  have announced : announce program.settings = announce other.settings := by
    rw [← akin.settings.rest]
    rfl
  rw [dialogue, dialogue, unsigned_filterNotes, unsigned_filterNotes, task_run, task_run,
    akin.filter, announced, unsigned_bind, unsigned_bind, akin.command,
    akin.settings.plan_eq allowance]
  refine congrArg _ (congrArg _ (funext fun _ => ?_))
  refine unsigned_withClient akin.settings fun client clientToo same => ?_
  rw [map_eq_pure_bind, map_eq_pure_bind, unsigned_bind, unsigned_bind, unsigned_through same]

end Program

/-! ## Environments -/

/-- Environments that differ in nothing but the texts of the two variables with credentials, where
the key is set and the token is in both or in neither. -/
structure Environment.Akin (environment other : Environment) : Prop where
  rest : ∀ name, name ≠ "CUSTODY_API_KEY" → name ≠ "CUSTODY_API_TOKEN" →
    environment name = other name
  key : (environment "CUSTODY_API_KEY").any isHeaderText = true
  keyToo : (other "CUSTODY_API_KEY").any isHeaderText = true
  presence : environment.holds "CUSTODY_API_TOKEN" = other.holds "CUSTODY_API_TOKEN"
  token : (environment "CUSTODY_API_TOKEN").all isHeaderText = true
  tokenToo : (other "CUSTODY_API_TOKEN").all isHeaderText = true

namespace Environment.Akin

variable {environment other : Environment} (akin : Akin environment other)

include akin

theorem readBaseUrl : Settings.readBaseUrl other = Settings.readBaseUrl environment := by
  rw [Settings.readBaseUrl, Settings.readBaseUrl, akin.rest _ (by decide) (by decide)]

theorem readNumber {name : String} (noKey : name ≠ "CUSTODY_API_KEY")
    (noToken : name ≠ "CUSTODY_API_TOKEN") (limit default : Nat) :
    Settings.readNumber other name limit default =
      Settings.readNumber environment name limit default := by
  rw [Settings.readNumber, Settings.readNumber, akin.rest name noKey noToken]

theorem readPolicy : Settings.readPolicy other = Settings.readPolicy environment := by
  rw [Settings.readPolicy, Settings.readPolicy, akin.rest _ (by decide) (by decide)]

theorem findProxy (names : List String)
    (own : ∀ name ∈ names, name ≠ "CUSTODY_API_KEY" ∧ name ≠ "CUSTODY_API_TOKEN") :
    (names.findSome? fun name => (other name).bind Http.Place.ofProxy?) =
      names.findSome? fun name => (environment name).bind Http.Place.ofProxy? := by
  induction names with
  | nil => rfl
  | cons name names ih =>
      obtain ⟨noKey, noToken⟩ := own name List.mem_cons_self
      rw [List.findSome?_cons, List.findSome?_cons, akin.rest name noKey noToken,
        ih fun later member => own later (List.mem_cons_of_mem name member)]

theorem readProxies : Http.Proxies.read other = Http.Proxies.read environment := by
  rw [Http.Proxies.read, Http.Proxies.read, ← akin.rest "REQUEST_METHOD" (by decide) (by decide),
    ← akin.rest "NO_PROXY" (by decide) (by decide), ← akin.rest "no_proxy" (by decide) (by decide)]
  dsimp only
  cases (environment "REQUEST_METHOD").isSome with
  | true => rw [akin.findProxy _ (by decide), akin.findProxy _ (by decide)]
  | false => rw [akin.findProxy _ (by decide), akin.findProxy _ (by decide)]

theorem read_eq {key : String} (set : environment "CUSTODY_API_KEY" = some key)
    {keyToo : String} (setToo : other "CUSTODY_API_KEY" = some keyToo) :
    Settings.read other = (fun settings : Settings => { settings with
      apiKey := keyToo
      apiToken := (other "CUSTODY_API_TOKEN").filter (· ≠ "") }) <$> Settings.read environment := by
  have required : Settings.readRequired environment "CUSTODY_API_KEY" = .ok key := by
    rw [Settings.readRequired, set]
  have requiredToo : Settings.readRequired other "CUSTODY_API_KEY" = .ok keyToo := by
    rw [Settings.readRequired, setToo]
  have numbers := @readNumber _ _ akin
  rw [Settings.read, Settings.read, akin.readBaseUrl, required, requiredToo,
    numbers (by decide) (by decide), numbers (by decide) (by decide),
    numbers (by decide) (by decide), numbers (by decide) (by decide), akin.readPolicy,
    akin.readProxies, ← akin.rest "LOG_FORMAT" (by decide) (by decide)]
  simp only [map_bind, map_pure]
  rfl

theorem holds {name : String} (noKey : name ≠ "CUSTODY_API_KEY")
    (noToken : name ≠ "CUSTODY_API_TOKEN") : environment.holds name = other.holds name := by
  rw [Environment.holds, Environment.holds, akin.rest name noKey noToken]

theorem self : environment.Akin environment :=
  ⟨fun _ _ _ => rfl, akin.key, akin.key, rfl, akin.token, akin.token⟩

end Environment.Akin

theorem isHeaderText_bearer (token : String) :
    isHeaderText ("Bearer " ++ token) = isHeaderText token := by
  rw [isHeaderText, String.toList_append, List.all_append]
  rfl

theorem hasHeaderTexts_of_texts {settings : Settings} {token : Option String}
    (key : isHeaderText settings.apiKey = true) (texts : token.all isHeaderText = true)
    (filtered : settings.apiToken = token.filter (· ≠ "")) : settings.hasHeaderTexts = true := by
  rw [Settings.hasHeaderTexts, key, filtered]
  cases token with
  | none => rfl
  | some token =>
      by_cases empty : token = ""
      · rw [Option.filter_some_neg]
        · rfl
        · simpa using empty
      · rw [Option.filter_some_pos]
        · exact (isHeaderText_bearer token).trans texts
        · simpa using empty

theorem isSome_filter_of_holds (environment : Environment) (name : String) :
    ((environment name).filter (· ≠ "")).isSome = environment.holds name := by
  rw [Environment.holds]
  cases environment name with
  | none => rfl
  | some text => by_cases empty : text = "" <;> simp [Option.filter, empty]

/-- Akin environments have the same fault, or akin settings. -/
theorem Environment.Akin.read {environment other : Environment} (akin : environment.Akin other) :
    Matched Settings.Akin (Settings.read environment) (Settings.read other) := by
  obtain ⟨key, set, keyText⟩ := (Option.any_eq_true _ _).mp akin.key
  obtain ⟨keyToo, setToo, keyTextToo⟩ := (Option.any_eq_true _ _).mp akin.keyToo
  -- What is read of the credentials themselves shows when an environment is compared with itself.
  have own := akin.self.read_eq set set
  rw [akin.read_eq set setToo]
  cases read : Settings.read environment with
  | error cause => exact .error cause
  | ok settings =>
      rw [read] at own
      have ownKey : settings.apiKey = key := congrArg (·.apiKey) (Except.ok.inj own)
      have ownToken : settings.apiToken = (environment "CUSTODY_API_TOKEN").filter (· ≠ "") :=
        congrArg (·.apiToken) (Except.ok.inj own)
      refine .ok ⟨rfl, ?_, ?_, ?_⟩
      · rw [ownToken, isSome_filter_of_holds, isSome_filter_of_holds, akin.presence]
      · exact hasHeaderTexts_of_texts (ownKey ▸ keyText) akin.token ownToken
      · exact hasHeaderTexts_of_texts keyTextToo akin.tokenToo rfl

namespace Program

theorem configure_of_akin {environment other : Environment} (akin : environment.Akin other)
    (invocation : CommandLine.Invocation) :
    Matched Akin (configure environment invocation) (configure other invocation) := by
  rw [configure, configure, ← akin.rest "RUST_LOG" (by decide) (by decide)]
  refine (akin.read.mapError _).bind fun settings settingsToo same => ?_
  cases Log.Filter.choose? (environment "RUST_LOG") invocation.logLevel with
  | none => exact .error _
  | some filter => exact .ok ⟨rfl, rfl, same⟩

/-- In akin environments the same arguments set up akin programs, or end alike. -/
theorem setUp_of_akin {environment other : Environment} (akin : environment.Akin other)
    (arguments : List String) :
    Matched Akin (setUp environment arguments) (setUp other arguments) := by
  have workers : hasWorkers other = hasWorkers environment := by
    rw [hasWorkers, hasWorkers, akin.rest _ (by decide) (by decide)]
  have forced :
      CommandLine.Emphasis.isForced other = CommandLine.Emphasis.isForced environment := by
    rw [CommandLine.Emphasis.isForced, CommandLine.Emphasis.isForced,
      akin.holds (by decide) (by decide), akin.holds (by decide) (by decide)]
  rw [setUp, setUp, workers, forced, ← akin.rest "LOG_LEVEL" (by decide) (by decide)]
  cases hasWorkers environment with
  | false => exact .error _
  | true =>
      refine Matched.bind (.self _) fun invocation _ same => ?_
      subst same
      exact configure_of_akin akin invocation

/-- Run the program with its arguments: how it ends and what it does before. -/
def conduct [Json.Locator] (world : Outside) (environment : Environment) (arguments : List String)
    (allowance : Nat) (time : String) : Exit × List Act :=
  match setUp environment arguments with
  | .error exit => (exit, [])
  | .ok program =>
      let (outcome?, acts, _) := world.run program.settings.terms (program.dialogue allowance)
      let exit :=
        match outcome? with
        | some outcome => Exit.ofOutcome time outcome
        | none => ⟨1, "", "error: the listing does not end\n"⟩
      (exit.afterLog program.settings.logFormat time (acts.filterMap Act.line?), acts)

theorem conduct_of_akin [Json.Locator] (world : Outside) {environment other : Environment}
    (akin : environment.Akin other) (arguments : List String) (allowance : Nat) (time : String) :
    (conduct world environment arguments allowance time).1 =
        (conduct world other arguments allowance time).1 ∧
      visible (conduct world environment arguments allowance time).2 =
        visible (conduct world other arguments allowance time).2 := by
  have matched := setUp_of_akin akin arguments
  rw [conduct, conduct]
  generalize setUp environment arguments = one, setUp other arguments = two at matched
  cases matched with
  | error exit => exact ⟨rfl, rfl⟩
  | @ok program programToo same =>
      have format : program.settings.logFormat = programToo.settings.logFormat :=
        congrArg (·.logFormat) same.settings.rest
      obtain ⟨result, acts, -⟩ := world.run_eq_of_unsigned programToo.settings.terms
        (unsigned_dialogue same allowance)
      have lines := congrArg (List.filterMap Act.line?) acts
      rw [lines_visible, lines_visible] at lines
      dsimp only
      rw [same.settings.terms_eq, format, result, lines]
      exact ⟨rfl, acts⟩

end Program

/-! ## No trace of the credentials -/

/-- Whatever the outside does: with other credentials a session has the same results, acts and
shelves, and a run of the program the same end and acts, but for the credentials in the requests. -/
theorem credentials_unseen [Json.Locator] (world : Outside) (allowance : Nat) :
    (∀ {settings other : Settings}, settings.Akin other →
      ∀ requests : List Directory.Request,
        let one := world.run settings.terms (session settings allowance requests)
        let two := world.run other.terms (session other allowance requests)
        one.1 = two.1 ∧ visible one.2.1 = visible two.2.1 ∧ one.2.2 = two.2.2) ∧
    ∀ {environment other : Environment}, environment.Akin other →
      ∀ (arguments : List String) (time : String),
        let one := Program.conduct world environment arguments allowance time
        let two := Program.conduct world other arguments allowance time
        one.1 = two.1 ∧ visible one.2 = visible two.2 := by
  refine ⟨fun {settings other} akin requests => ?_, fun akin arguments time => ?_⟩
  · rw [akin.terms_eq]
    exact world.run_eq_of_unsigned other.terms (unsigned_session akin allowance requests)
  · exact Program.conduct_of_akin world akin arguments allowance time

def served (key token : String) : Settings where
  baseUrl := "http://[::1]:3000/custody"
  apiKey := key
  apiToken := some token
  timeoutSecs := 30
  maxRetries := 1
  defaultWaitMs := 1000
  ttlSecs := 60
  policy := .withinTtl
  logFormat := .json
  proxies := .empty

def serving (key token : String) : Environment
  | "CUSTODY_API_BASE_URL" => some "http://[::1]:3000/custody"
  | "CUSTODY_API_KEY" => some key
  | "CUSTODY_API_TOKEN" => some token
  | _ => none

def forbidding : Outside where
  reply := fun _ => .ok ⟨403, [], Text.utf8 "forbidden".toList, none⟩
  time := fun _ => 0

/-- Exchanged credentials do go out in other requests, and everything else is the same. -/
theorem exchanged_credentials_unseen :
    (let one := forbidding.run (served "key" "token").terms
        (session (served "key" "token") 1 [.addressIndex, .balance "V1" "A1"])
      let two := forbidding.run (served "clef" "jeton").terms
        (session (served "clef" "jeton") 1 [.addressIndex, .balance "V1" "A1"])
      one.2.1 ≠ two.2.1 ∧ one.1 = two.1 ∧ visible one.2.1 = visible two.2.1 ∧ one.2.2 = two.2.2) ∧
    let one := Program.conduct forbidding (serving "key" "token") ["index"] 1 "now"
    let two := Program.conduct forbidding (serving "clef" "jeton") ["index"] 1 "now"
    one.2 ≠ two.2 ∧ one.1 = two.1 ∧ visible one.2 = visible two.2 := by
  have settings : (served "key" "token").Akin (served "clef" "jeton") :=
    ⟨rfl, rfl, by decide, by decide⟩
  have environments : (serving "key" "token").Akin (serving "clef" "jeton") := by
    refine ⟨fun name noKey noToken => ?_, by decide, by decide, by decide, by decide, by decide⟩
    unfold serving
    split <;> simp_all
  obtain ⟨sessions, programs⟩ := credentials_unseen forbidding 1
  refine ⟨⟨by decide +kernel, ?_⟩, by decide +kernel, ?_⟩
  · exact sessions settings [.addressIndex, .balance "V1" "A1"]
  · exact programs environments ["index"] "now"

end DepositDirectory
