import DepositDirectory.Text.Blank
import DepositDirectory.Text.Lowercase

/-!
# Formats of the log

The log is written for a reader or, one JSON object a line, for a machine.
-/

namespace DepositDirectory.Log

inductive Format where
  | pretty
  | json
  deriving DecidableEq

namespace Format

def label : Format → String
  | pretty => "Pretty"
  | json => "Json"

/-- The format of a name, case and blanks around it apart; else the name that none has. -/
def ofName (text : String) : Except String Format :=
  let plain := Text.lower (Text.trim text)
  if plain = "json" then .ok json
  else if plain = "pretty" then .ok pretty
  else .error plain

def unknown (plain : String) : String :=
  "unknown log format: " ++ plain

/-- The format of a name; a name that none has stands for `pretty`. -/
def ofNameOrPretty (text : String) : Format :=
  match ofName text with
  | .ok format => format
  | .error _ => pretty

end Format

end DepositDirectory.Log
