import DepositDirectory.Directory.Query
import DepositDirectory.Environment
import DepositDirectory.Http.Proxy
import DepositDirectory.Log.Format
import DepositDirectory.Text.Numeral

/-!
# Settings from the environment

The program is set up by environment variables.  Those that are not set, or hold no text, have
defaults, apart from the key of the custody service.  The variables are read in a fixed order, and
the first that cannot be used is the cause of failure.
-/

namespace DepositDirectory

open Cache (RefreshPolicy)

/-- Why the settings cannot be used. -/
inductive SettingsError where
  | missing (name : String)
  | noWebAddress (name value : String)
  | noNumeral (name : String) (fault : Text.NumeralFault)
  | unknownPolicy (name plain : String)
  deriving DecidableEq

def SettingsError.message : SettingsError → String
  | .missing name => s!"Missing environment variable: {name}"
  | .noWebAddress name value => s!"Invalid value for {name}: {value}"
  | .noNumeral name fault => s!"Failed to parse {name}: {fault.message}"
  | .unknownPolicy name plain => s!"Failed to parse {name}: {RefreshPolicy.unknown plain}"

/-- How the program is set up. -/
structure Settings where
  baseUrl : String
  apiKey : String
  apiToken : Option String
  timeoutSecs : Nat
  maxRetries : Nat
  defaultWaitMs : Nat
  ttlSecs : Nat
  policy : RefreshPolicy
  logFormat : Log.Format
  proxies : Http.Proxies
  deriving DecidableEq

namespace Settings

def dropSlashes (text : String) : String :=
  String.ofList (text.toList.reverse.dropWhile (· = '/')).reverse

def isWebAddress (text : String) : Bool :=
  "http://".toList.isPrefixOf text.toList || "https://".toList.isPrefixOf text.toList

def readBaseUrl (environment : Environment) : Except SettingsError String :=
  let name := "CUSTODY_API_BASE_URL"
  let value := dropSlashes ((environment name).getD "https://api.fireblocks.io")
  if isWebAddress value then .ok value else .error (.noWebAddress name value)

def readRequired (environment : Environment) (name : String) : Except SettingsError String :=
  match environment name with
  | some value => .ok value
  | none => .error (.missing name)

/-- Read a number up to a limit, blanks around it apart. -/
def readNumber (environment : Environment) (name : String) (limit default : Nat) :
    Except SettingsError Nat :=
  match environment name with
  | none => .ok default
  | some text =>
      match Text.readNumeral limit (Text.trimChars text.toList) with
      | .ok n => .ok n
      | .error fault => .error (.noNumeral name fault)

def readPolicy (environment : Environment) : Except SettingsError RefreshPolicy :=
  let name := "VAULT_CACHE_REFRESH_POLICY"
  match environment name with
  | none => .ok .withinTtl
  | some text =>
      match RefreshPolicy.ofName text with
      | .ok policy => .ok policy
      | .error plain => .error (.unknownPolicy name plain)

/-- Read all settings. -/
def read (environment : Environment) : Except SettingsError Settings := do
  let baseUrl ← readBaseUrl environment
  let apiKey ← readRequired environment "CUSTODY_API_KEY"
  let timeoutSecs ← readNumber environment "CUSTODY_REQUEST_TIMEOUT_SECS" Text.maxWord64 30
  let maxRetries ← readNumber environment "RATE_LIMIT_MAX_RETRIES" Text.maxWord32 30
  let defaultWaitMs ← readNumber environment "RATE_LIMIT_DEFAULT_WAIT_MS" Text.maxWord64 1000
  let ttlSecs ← readNumber environment "VAULT_CACHE_TTL_SECS" Text.maxWord64 60
  let policy ← readPolicy environment
  return {
    baseUrl, apiKey, timeoutSecs, maxRetries, defaultWaitMs, ttlSecs, policy
    proxies := Http.Proxies.read environment
    apiToken := (environment "CUSTODY_API_TOKEN").filter (· ≠ "")
    logFormat := Log.Format.ofNameOrPretty ((environment "LOG_FORMAT").getD "pretty") }

def maxTtlSecs : Nat := 9223372036854775

/-- The time to live that stands for a longer one: a hundred times 52 weeks. -/
def fallbackTtlSecs : Nat := 52 * 100 * 7 * 24 * 3600

def ttl (settings : Settings) : Int :=
  (if maxTtlSecs < settings.ttlSecs then fallbackTtlSecs else settings.ttlSecs) * 1000000000

def patience (settings : Settings) : Patience :=
  ⟨settings.maxRetries, settings.defaultWaitMs⟩

def terms (settings : Settings) : Cache.Terms :=
  ⟨settings.ttl, settings.policy⟩

/-- How the directory works, with an allowance of pages for the listing. -/
def plan (settings : Settings) (allowance : Nat) : Directory.Plan :=
  ⟨settings.patience, settings.terms, allowance⟩

end Settings

end DepositDirectory
