/-!
# Environments

A program is run with variables, each of which has a text or is not set.
-/

namespace DepositDirectory

/-- The texts of the variables that are set. -/
abbrev Environment := String → Option String

/-- The environment of variables that hold bytes; one whose bytes are no text counts as not set. -/
def Environment.ofBytes (raw : String → Option ByteArray) : Environment :=
  fun name => (raw name).bind String.fromUTF8?

def Environment.holds (environment : Environment) (name : String) : Bool :=
  (environment name).any (· ≠ "")

end DepositDirectory
