import DepositDirectory.Proofs.Results
import DepositDirectory.Proofs.Text.Names
import DepositDirectory.Proofs.Text.Numeral
import DepositDirectory.Settings

/-!
# What settings are read for

Seven variables make demands on their texts.  The settings are read exactly when all demands are
met, and otherwise the first one that is not, in the order of reading, is the cause of failure.
What is read says what the variables say: a number is the one that is written, the root address has
no slash at its end, and no variable has a say in the setting of another.
-/

namespace DepositDirectory

open Text (SpellsName TellsNumber)

/-! ## Variables that hold bytes -/

theorem Environment.ofBytes_eq_some_iff {raw : String → Option ByteArray} {name text : String} :
    ofBytes raw name = some text ↔ raw name = some text.toUTF8 := by
  unfold ofBytes
  cases raw name with
  | none => simp
  | some bytes =>
      rw [Option.bind_some, Option.some.injEq, String.fromUTF8?]
      constructor
      · intro read
        split at read
        · cases read
          rfl
        · cases read
      · rintro rfl
        exact dif_pos text.isValidUTF8

/-! ## The root address -/

/-- The root is the text without the slashes at its end. -/
structure Unslashed (text root : String) : Prop where
  slashes : ∃ count, text.toList = root.toList ++ List.replicate count '/'
  bare : root.toList.getLast? ≠ some '/'

theorem unslashed_dropSlashes (text : String) : Unslashed text (Settings.dropSlashes text) := by
  rw [Settings.dropSlashes]
  generalize same : text.toList.reverse = reversed
  constructor
  · have slashes : reversed.takeWhile (· = '/') =
        List.replicate (reversed.takeWhile (· = '/')).length '/' := by
      apply List.eq_replicate_of_mem
      intro c member
      simpa using List.mem_takeWhile_imp member
    refine ⟨(reversed.takeWhile (· = '/')).length, ?_⟩
    rw [String.toList_ofList, ← List.reverse_replicate, ← slashes, ← List.reverse_append,
      List.takeWhile_append_dropWhile, ← same, List.reverse_reverse]
  · rw [String.toList_ofList, List.getLast?_reverse]
    intro slash
    have stopped := List.head?_dropWhile_not (fun c : Char => decide (c = '/')) reversed
    rw [slash] at stopped
    cases stopped

theorem dropSlashes_of_unslashed {text root : String} (unslashed : Unslashed text root) :
    Settings.dropSlashes text = root := by
  obtain ⟨⟨count, whole⟩, bare⟩ := unslashed
  have slashes : ∀ c ∈ List.replicate count '/', decide (c = '/') = true := by
    intro c member
    simpa using List.eq_of_mem_replicate member
  have kept : root.toList.reverse.dropWhile (· = '/') = root.toList.reverse := by
    rw [← List.head?_reverse] at bare
    cases reversed : root.toList.reverse with
    | nil => rfl
    | cons c rest =>
        rw [reversed] at bare
        rw [List.dropWhile_cons_of_neg (by simpa using bare)]
  rw [Settings.dropSlashes, whole, List.reverse_append, List.reverse_replicate,
    List.dropWhile_append_of_pos slashes, kept, List.reverse_reverse, String.ofList_toList]

theorem unslashed_iff {text root : String} :
    Unslashed text root ↔ Settings.dropSlashes text = root := by
  constructor
  · exact dropSlashes_of_unslashed
  · rintro rfl
    exact unslashed_dropSlashes text

def WebAddress (text : String) : Prop :=
  "http://".toList <+: text.toList ∨ "https://".toList <+: text.toList

theorem isWebAddress_iff {text : String} : Settings.isWebAddress text = true ↔ WebAddress text := by
  simp only [Settings.isWebAddress, WebAddress, Bool.or_eq_true, List.isPrefixOf_iff_prefix]

namespace Settings

variable {environment : Environment}

/-! ## Single settings -/

theorem readBaseUrl_eq_ok_iff {root : String} :
    readBaseUrl environment = .ok root ↔
      Unslashed ((environment "CUSTODY_API_BASE_URL").getD "https://api.fireblocks.io") root ∧
        WebAddress root := by
  rw [unslashed_iff, readBaseUrl, ← isWebAddress_iff]
  split
  · rename_i web
    rw [Except.ok.injEq]
    exact ⟨fun same => ⟨same, same ▸ web⟩, And.left⟩
  · rename_i other
    refine ⟨nofun, ?_⟩
    rintro ⟨same, web⟩
    exact absurd (same ▸ web) other

theorem readRequired_eq_ok_iff {name value : String} :
    readRequired environment name = .ok value ↔ environment name = some value := by
  unfold readRequired
  cases environment name <;> simp

theorem readNumber_eq_ok_iff {name : String} {limit default n : Nat} (within : default ≤ limit) :
    readNumber environment name limit default = .ok n ↔
      TellsNumber ((environment name).getD default.repr) n ∧ n ≤ limit := by
  rw [← Text.readNumeral_trimChars_eq_ok_iff, readNumber]
  cases environment name with
  | none =>
      have own := Text.readNumeral_trimChars_eq_ok_iff.mpr ⟨Text.tellsNumber_repr default, within⟩
      rw [Option.getD_none, own, Except.ok.injEq, Except.ok.injEq]
  | some text =>
      rw [Option.getD_some]
      dsimp only
      cases Text.readNumeral limit (Text.trimChars text.toList) <;> simp

theorem readPolicy_eq_ok_iff {policy : Cache.RefreshPolicy} :
    readPolicy environment = .ok policy ↔
      SpellsName ((environment "VAULT_CACHE_REFRESH_POLICY").getD "within-ttl") policy.name := by
  rw [← Cache.RefreshPolicy.ofName_eq_ok_iff, readPolicy]
  cases environment "VAULT_CACHE_REFRESH_POLICY" with
  | none =>
      have own : Cache.RefreshPolicy.ofName "within-ttl" = .ok .withinTtl := by decide
      rw [Option.getD_none, own, Except.ok.injEq, Except.ok.injEq]
  | some text =>
      rw [Option.getD_some]
      dsimp only
      cases Cache.RefreshPolicy.ofName text <;> simp

end Settings

/-! ## Demands -/

def SettingsError.name : SettingsError → String
  | missing name => name
  | noWebAddress name _ => name
  | noNumeral name _ => name
  | unknownPolicy name _ => name

theorem SettingsError.name_infix_message (error : SettingsError) :
    error.name.toList <:+: error.message.toList := by
  have inside (before own after : String) : own.toList <:+: (before ++ own ++ after).toList := by
    rw [String.toList_append, String.toList_append]
    exact List.infix_append _ _ _
  cases error with
  | missing own =>
      have told := inside "Missing environment variable: " own ""
      rwa [String.append_empty] at told
  | noWebAddress own value =>
      have told := inside "Invalid value for " own (": " ++ value)
      rwa [← String.append_assoc] at told
  | noNumeral own fault =>
      have told := inside "Failed to parse " own (": " ++ fault.message)
      rwa [← String.append_assoc] at told
  | unknownPolicy own plain =>
      have told := inside "Failed to parse " own (": " ++ Cache.RefreshPolicy.unknown plain)
      rwa [← String.append_assoc] at told

/-- What is demanded of a variable: a usable text, which is its own, or the one that stands in for
it when it is not set. -/
structure Demand where
  name : String
  standIn : Option String
  usable : String → Prop

/-- The variable holds, or leaves to what stands in for it, a usable text. -/
def Demand.Met (demand : Demand) (environment : Environment) : Prop :=
  ∃ text, (environment demand.name).or demand.standIn = some text ∧ demand.usable text

namespace Settings

/-- The address of a web service is demanded, slashes at its end apart. -/
def rootDemand : Demand :=
  ⟨"CUSTODY_API_BASE_URL", some "https://api.fireblocks.io",
    fun text => ∃ root, Unslashed text root ∧ WebAddress root⟩

/-- Any text is demanded, and none stands in for it. -/
def textDemand (name : String) : Demand :=
  ⟨name, none, fun _ => True⟩

def numberDemand (name : String) (limit default : Nat) : Demand :=
  ⟨name, some default.repr, fun text => ∃ n ≤ limit, TellsNumber text n⟩

def policyDemand : Demand :=
  ⟨"VAULT_CACHE_REFRESH_POLICY", some "within-ttl",
    fun text => SpellsName text "within-ttl" ∨ SpellsName text "after-ttl"⟩

/-- What is demanded for the settings, in the order in which the variables are read. -/
def demands : List Demand :=
  [rootDemand, textDemand "CUSTODY_API_KEY",
    numberDemand "CUSTODY_REQUEST_TIMEOUT_SECS" (Nat.pow 2 64 - 1) 30,
    numberDemand "RATE_LIMIT_MAX_RETRIES" (Nat.pow 2 32 - 1) 30,
    numberDemand "RATE_LIMIT_DEFAULT_WAIT_MS" (Nat.pow 2 64 - 1) 1000,
    numberDemand "VAULT_CACHE_TTL_SECS" (Nat.pow 2 64 - 1) 60, policyDemand]

variable {environment : Environment} {α β : Type}

/-- A reading heeds demands in their order: it comes to a value when they are all met, and fails for
the first that is not. -/
inductive Heeds (environment : Environment) (demands : List Demand) :
    Except SettingsError α → Prop where
  | met {value : α} (all : ∀ demand ∈ demands, demand.Met environment) :
      Heeds environment demands (.ok value)
  | unmet {before after : List Demand} {demand : Demand} {error : SettingsError}
      (split : demands = before ++ demand :: after)
      (earlier : ∀ other ∈ before, other.Met environment) (unmet : ¬ demand.Met environment)
      (named : error.name = demand.name) : Heeds environment demands (.error error)

theorem Heeds.bind {demands others : List Demand} {first : Except SettingsError α}
    {next : α → Except SettingsError β} (begun : Heeds environment demands first)
    (ended : ∀ a, Heeds environment others (next a)) :
    Heeds environment (demands ++ others) (first >>= next) := by
  cases begun with
  | unmet split earlier unmet named =>
      rw [split, List.append_assoc]
      exact .unmet rfl earlier unmet named
  | @met value all =>
      have later := ended value
      change Heeds environment (demands ++ others) (next value)
      generalize next value = result at later ⊢
      cases later with
      | met more =>
          constructor
          intro demand member
          exact (List.mem_append.mp member).elim (all demand) (more demand)
      | unmet split earlier unmet named =>
          rw [split, ← List.append_assoc]
          refine .unmet rfl ?_ unmet named
          intro other member
          exact (List.mem_append.mp member).elim (all other) (earlier other)

theorem heeds_single {demand : Demand} {result : Except SettingsError α}
    (succeeds : (∃ a, result = .ok a) ↔ demand.Met environment)
    (named : ∀ error, result = .error error → error.name = demand.name) :
    Heeds environment [demand] result := by
  cases result with
  | ok a =>
      have met := succeeds.mp ⟨a, rfl⟩
      exact .met (by simpa using met)
  | error error =>
      have unmet : ¬ demand.Met environment := by simpa using succeeds
      exact .unmet (List.nil_append [demand]).symm (by simp) unmet (named error rfl)

theorem met_iff_of_standIn {name standIn : String} {usable : String → Prop} :
    Demand.Met ⟨name, some standIn, usable⟩ environment ↔
      usable ((environment name).getD standIn) := by
  unfold Demand.Met
  cases environment name <;> simp

theorem heeds_readBaseUrl : Heeds environment [rootDemand] (readBaseUrl environment) := by
  apply heeds_single
  · simp only [rootDemand, met_iff_of_standIn, readBaseUrl_eq_ok_iff]
  · intro error failed
    unfold readBaseUrl at failed
    dsimp only at failed
    split at failed
    · cases failed
    · cases failed
      rfl

theorem heeds_readRequired (name : String) :
    Heeds environment [textDemand name] (readRequired environment name) := by
  apply heeds_single
  · simp [textDemand, Demand.Met, readRequired_eq_ok_iff]
  · intro error failed
    unfold readRequired at failed
    split at failed
    · cases failed
    · cases failed
      rfl

theorem heeds_readNumber (name : String) {limit default : Nat} (within : default ≤ limit) :
    Heeds environment [numberDemand name limit default]
      (readNumber environment name limit default) := by
  apply heeds_single
  · simp only [numberDemand, met_iff_of_standIn, readNumber_eq_ok_iff within, and_comm]
  · intro error failed
    unfold readNumber at failed
    split at failed
    · cases failed
    · split at failed
      · cases failed
      · cases failed
        rfl

theorem heeds_readPolicy : Heeds environment [policyDemand] (readPolicy environment) := by
  apply heeds_single
  · simp only [policyDemand, met_iff_of_standIn, readPolicy_eq_ok_iff]
    constructor
    · rintro ⟨policy, spelled⟩
      cases policy with
      | withinTtl => exact Or.inl spelled
      | afterTtl => exact Or.inr spelled
    · rintro (spelled | spelled)
      · exact ⟨.withinTtl, spelled⟩
      · exact ⟨.afterTtl, spelled⟩
  · intro error failed
    unfold readPolicy at failed
    dsimp only at failed
    split at failed
    · cases failed
    · split at failed
      · cases failed
      · cases failed
        rfl

theorem heeds_read (environment : Environment) : Heeds environment demands (read environment) := by
  refine heeds_readBaseUrl.bind fun baseUrl => ?_
  refine (heeds_readRequired _).bind fun apiKey => ?_
  refine (heeds_readNumber _ (by decide)).bind fun timeoutSecs => ?_
  refine (heeds_readNumber _ (by decide)).bind fun maxRetries => ?_
  refine (heeds_readNumber _ (by decide)).bind fun defaultWaitMs => ?_
  refine (heeds_readNumber _ (by decide)).bind fun ttlSecs => ?_
  refine (heeds_readPolicy.bind fun policy => ?_ : Heeds environment [_] _)
  exact .met (by simp)

/-! ## What the settings are -/

/-- Each setting is what its own variable is read for. -/
structure Fields (environment : Environment) (settings : Settings) : Prop where
  baseUrl : readBaseUrl environment = .ok settings.baseUrl
  apiKey : readRequired environment "CUSTODY_API_KEY" = .ok settings.apiKey
  apiToken : settings.apiToken = (environment "CUSTODY_API_TOKEN").filter (· ≠ "")
  timeoutSecs : readNumber environment "CUSTODY_REQUEST_TIMEOUT_SECS" Text.maxWord64 30 =
    .ok settings.timeoutSecs
  maxRetries : readNumber environment "RATE_LIMIT_MAX_RETRIES" Text.maxWord32 30 =
    .ok settings.maxRetries
  defaultWaitMs : readNumber environment "RATE_LIMIT_DEFAULT_WAIT_MS" Text.maxWord64 1000 =
    .ok settings.defaultWaitMs
  ttlSecs : readNumber environment "VAULT_CACHE_TTL_SECS" Text.maxWord64 60 = .ok settings.ttlSecs
  policy : readPolicy environment = .ok settings.policy
  logFormat : settings.logFormat =
    Log.Format.ofNameOrPretty ((environment "LOG_FORMAT").getD "pretty")

theorem fields_of_read {settings : Settings} (succeeds : read environment = .ok settings) :
    Fields environment settings := by
  obtain ⟨baseUrl, readsBaseUrl, succeeds⟩ := bind_eq_ok_iff.mp succeeds
  obtain ⟨apiKey, readsApiKey, succeeds⟩ := bind_eq_ok_iff.mp succeeds
  obtain ⟨timeoutSecs, readsTimeoutSecs, succeeds⟩ := bind_eq_ok_iff.mp succeeds
  obtain ⟨maxRetries, readsMaxRetries, succeeds⟩ := bind_eq_ok_iff.mp succeeds
  obtain ⟨defaultWaitMs, readsDefaultWaitMs, succeeds⟩ := bind_eq_ok_iff.mp succeeds
  obtain ⟨ttlSecs, readsTtlSecs, succeeds⟩ := bind_eq_ok_iff.mp succeeds
  obtain ⟨policy, readsPolicy, succeeds⟩ := bind_eq_ok_iff.mp succeeds
  cases succeeds
  refine ⟨readsBaseUrl, readsApiKey, ?_, readsTimeoutSecs, readsMaxRetries, readsDefaultWaitMs,
    readsTtlSecs, readsPolicy, ?_⟩
  · simp only
  · simp only

/-- The settings say what the variables say, or what stands in for those that are not set. -/
structure Told (environment : Environment) (settings : Settings) : Prop where
  baseUrl : Unslashed ((environment "CUSTODY_API_BASE_URL").getD "https://api.fireblocks.io")
    settings.baseUrl
  apiKey : environment "CUSTODY_API_KEY" = some settings.apiKey
  apiToken : ∀ token, settings.apiToken = some token ↔
    environment "CUSTODY_API_TOKEN" = some token ∧ token ≠ ""
  timeoutSecs : TellsNumber ((environment "CUSTODY_REQUEST_TIMEOUT_SECS").getD "30")
    settings.timeoutSecs
  maxRetries : TellsNumber ((environment "RATE_LIMIT_MAX_RETRIES").getD "30") settings.maxRetries
  defaultWaitMs : TellsNumber ((environment "RATE_LIMIT_DEFAULT_WAIT_MS").getD "1000")
    settings.defaultWaitMs
  ttlSecs : TellsNumber ((environment "VAULT_CACHE_TTL_SECS").getD "60") settings.ttlSecs
  policy : SpellsName ((environment "VAULT_CACHE_REFRESH_POLICY").getD "within-ttl")
    settings.policy.name
  logFormat : settings.logFormat = .json ↔
    SpellsName ((environment "LOG_FORMAT").getD "pretty") "json"

/-- A number is the one that the text says which is set, or else the one that stands in for it. -/
theorem tellsNumber_of_read {name standIn : String} {limit default n : Nat}
    (read : readNumber environment name limit default = .ok n) (within : default ≤ limit)
    (own : default.repr = standIn) : TellsNumber ((environment name).getD standIn) n := by
  rw [← own]
  exact ((readNumber_eq_ok_iff within).mp read).1

theorem Fields.told {settings : Settings} (fields : Fields environment settings) :
    Told environment settings where
  baseUrl := (readBaseUrl_eq_ok_iff.mp fields.baseUrl).1
  apiKey := readRequired_eq_ok_iff.mp fields.apiKey
  apiToken := by
    intro token
    rw [fields.apiToken, Option.filter_eq_some_iff, decide_eq_true_iff]
  timeoutSecs := tellsNumber_of_read fields.timeoutSecs (by decide) (by decide)
  maxRetries := tellsNumber_of_read fields.maxRetries (by decide) (by decide)
  defaultWaitMs := tellsNumber_of_read fields.defaultWaitMs (by decide) (by decide)
  ttlSecs := tellsNumber_of_read fields.ttlSecs (by decide) (by decide)
  policy := readPolicy_eq_ok_iff.mp fields.policy
  logFormat := by
    rw [fields.logFormat]
    exact Log.Format.ofNameOrPretty_eq_json_iff

/-- Where two environments agree on a variable, the settings agree on what is read from it. -/
structure OwnVariables (environment other : Environment) (settings others : Settings) : Prop where
  baseUrl : environment "CUSTODY_API_BASE_URL" = other "CUSTODY_API_BASE_URL" →
    settings.baseUrl = others.baseUrl
  apiKey : environment "CUSTODY_API_KEY" = other "CUSTODY_API_KEY" →
    settings.apiKey = others.apiKey
  apiToken : environment "CUSTODY_API_TOKEN" = other "CUSTODY_API_TOKEN" →
    settings.apiToken = others.apiToken
  timeoutSecs : environment "CUSTODY_REQUEST_TIMEOUT_SECS" = other "CUSTODY_REQUEST_TIMEOUT_SECS" →
    settings.timeoutSecs = others.timeoutSecs
  maxRetries : environment "RATE_LIMIT_MAX_RETRIES" = other "RATE_LIMIT_MAX_RETRIES" →
    settings.maxRetries = others.maxRetries
  defaultWaitMs : environment "RATE_LIMIT_DEFAULT_WAIT_MS" = other "RATE_LIMIT_DEFAULT_WAIT_MS" →
    settings.defaultWaitMs = others.defaultWaitMs
  ttlSecs : environment "VAULT_CACHE_TTL_SECS" = other "VAULT_CACHE_TTL_SECS" →
    settings.ttlSecs = others.ttlSecs
  policy : environment "VAULT_CACHE_REFRESH_POLICY" = other "VAULT_CACHE_REFRESH_POLICY" →
    settings.policy = others.policy
  logFormat : environment "LOG_FORMAT" = other "LOG_FORMAT" → settings.logFormat = others.logFormat

theorem readNumber_unique {other : Environment} {name : String} {limit default n m : Nat}
    (read : readNumber environment name limit default = .ok n)
    (further : readNumber other name limit default = .ok m)
    (same : environment name = other name) : n = m := by
  unfold readNumber at read further
  rw [same] at read
  exact Except.ok.inj (read.symm.trans further)

theorem Fields.ownVariables {other : Environment} {settings others : Settings}
    (fields : Fields environment settings) (further : Fields other others) :
    OwnVariables environment other settings others where
  baseUrl := by
    intro same
    have read := fields.baseUrl
    rw [readBaseUrl, same] at read
    exact Except.ok.inj (read.symm.trans further.baseUrl)
  apiKey := by
    intro same
    have read := fields.apiKey
    rw [readRequired, same] at read
    exact Except.ok.inj (read.symm.trans further.apiKey)
  apiToken := by
    intro same
    rw [fields.apiToken, same, further.apiToken]
  timeoutSecs := readNumber_unique fields.timeoutSecs further.timeoutSecs
  maxRetries := readNumber_unique fields.maxRetries further.maxRetries
  defaultWaitMs := readNumber_unique fields.defaultWaitMs further.defaultWaitMs
  ttlSecs := readNumber_unique fields.ttlSecs further.ttlSecs
  policy := by
    intro same
    have read := fields.policy
    rw [readPolicy, same] at read
    exact Except.ok.inj (read.symm.trans further.policy)
  logFormat := by
    intro same
    rw [fields.logFormat, same, further.logFormat]

/-- From variables that hold any bytes, of which those that are no text count as not set, the
settings are read exactly when all demands are met.  A failure is for the first that is not, and
tells its variable; settings that are read say what the variables say, each of them its own. -/
theorem read_heeds_demands (raw : String → Option ByteArray) :
    (∀ name text, Environment.ofBytes raw name = some text ↔ raw name = some text.toUTF8) ∧
    ((∃ settings, read (Environment.ofBytes raw) = .ok settings) ↔
      ∀ demand ∈ demands, demand.Met (Environment.ofBytes raw)) ∧
    (∀ error, read (Environment.ofBytes raw) = .error error →
      ∃ before demand after, demands = before ++ demand :: after ∧
        (∀ earlier ∈ before, earlier.Met (Environment.ofBytes raw)) ∧
        ¬ demand.Met (Environment.ofBytes raw) ∧ error.name = demand.name ∧
        demand.name.toList <:+: error.message.toList) ∧
    ∀ settings, read (Environment.ofBytes raw) = .ok settings →
      Told (Environment.ofBytes raw) settings ∧
      ∀ other others, read (Environment.ofBytes other) = .ok others →
        OwnVariables (Environment.ofBytes raw) (Environment.ofBytes other) settings others := by
  have heeds := heeds_read (Environment.ofBytes raw)
  refine ⟨fun name text => Environment.ofBytes_eq_some_iff, ?_, ?_, ?_⟩
  · constructor
    · rintro ⟨settings, succeeds⟩
      rw [succeeds] at heeds
      cases heeds with
      | met all => exact all
    · intro met
      generalize read (Environment.ofBytes raw) = result at heeds
      cases heeds with
      | @met settings all => exact ⟨settings, rfl⟩
      | @unmet before after demand error split earlier unmet named =>
          have member : demand ∈ demands := by simp [split]
          exact absurd (met demand member) unmet
  · intro error fails
    rw [fails] at heeds
    cases heeds with
    | unmet split earlier unmet named =>
        exact ⟨_, _, _, split, earlier, unmet, named, named ▸ error.name_infix_message⟩
  · intro settings succeeds
    have fields := fields_of_read succeeds
    exact ⟨fields.told, fun other others further => fields.ownVariables (fields_of_read further)⟩

/-- Variables that are set in unusual ways: an address that ends with slashes, an empty token, a
number with a sign, zeros and blanks, a policy in capitals, and a format that is no text. -/
def unusual (name : String) : Option ByteArray :=
  [("CUSTODY_API_BASE_URL", "http://a//".toUTF8), ("CUSTODY_API_KEY", "k".toUTF8),
    ("CUSTODY_API_TOKEN", "".toUTF8), ("RATE_LIMIT_MAX_RETRIES", " +007\n".toUTF8),
    ("VAULT_CACHE_REFRESH_POLICY", "AFTER-ttl ".toUTF8), ("LOG_FORMAT", ⟨#[0xFF]⟩)].lookup name

def unusualSettings : Settings :=
  ⟨"http://a", "k", none, 30, 7, 1000, 60, .afterTtl, .pretty, Http.Proxies.read fun _ => none⟩

/-- Unusual variables meet all demands and are told; without any variable the key is missing. -/
theorem unusual_are_told :
    Told (Environment.ofBytes unusual) unusualSettings ∧
      (∀ demand ∈ demands, demand.Met (Environment.ofBytes unusual)) ∧
      ∃ before demand after, demands = before ++ demand :: after ∧
        (∀ earlier ∈ before, earlier.Met (Environment.ofBytes fun _ => none)) ∧
        ¬ demand.Met (Environment.ofBytes fun _ => none) ∧ demand.name = "CUSTODY_API_KEY" := by
  obtain ⟨_, met, _, told⟩ := read_heeds_demands unusual
  have succeeds : read (Environment.ofBytes unusual) = .ok unusualSettings := by
    decide +kernel
  have fails : read (Environment.ofBytes fun _ => none) = .error (.missing "CUSTODY_API_KEY") := by
    decide +kernel
  obtain ⟨before, demand, after, split, earlier, unmet, named, _⟩ :=
    (read_heeds_demands fun _ => none).2.2.1 _ fails
  exact ⟨(told _ succeeds).1, met.mp ⟨_, succeeds⟩, before, demand, after, split, earlier, unmet,
    named.symm⟩

end Settings

end DepositDirectory
