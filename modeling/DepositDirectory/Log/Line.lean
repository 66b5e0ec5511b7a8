/-!
# Log lines

A log line has a level, the part of the program that speaks, and its text.  The parts are written as
the paths by which log filters select them.
-/

namespace DepositDirectory.Log

/-- How much a line matters, from the least to the most. -/
inductive Level where
  | trace
  | debug
  | info
  | warn
  | error
  deriving DecidableEq

def Level.rank : Level → Nat
  | .trace => 0
  | .debug => 1
  | .info => 2
  | .warn => 3
  | .error => 4

def Level.label : Level → String
  | .trace => "TRACE"
  | .debug => "DEBUG"
  | .info => "INFO"
  | .warn => "WARN"
  | .error => "ERROR"

inductive Source where
  | program
  | logging
  | client
  | cache
  | retry
  | listing
  | directory
  | balances
  deriving DecidableEq

/-- The path by which a filter selects the lines of a source. -/
def Source.path : Source → String
  | .program => "vault_directory"
  | .logging => "custody_vault_directory::logging"
  | .client => "custody_vault_directory::custody::http"
  | .cache => "custody_vault_directory::services::ttl_cache"
  | .retry => "custody_vault_directory::services::rate_limit"
  | .listing => "custody_vault_directory::services::paginator"
  | .directory => "custody_vault_directory::services::vault_directory"
  | .balances => "custody_vault_directory::services::balance_resolver"

structure Line where
  level : Level
  source : Source
  message : String
  deriving DecidableEq

end DepositDirectory.Log
