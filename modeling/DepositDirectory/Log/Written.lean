import DepositDirectory.Json.Printer
import DepositDirectory.Log.Format
import DepositDirectory.Log.Line

/-!
# Written log lines

A log line is written with the moment at which it was said: for a reader as one line of words, for a
machine as one JSON object.
-/

namespace DepositDirectory.Log

/-- The level of a line, flush right. -/
def Level.column (level : Level) : String :=
  String.ofList (List.replicate (5 - level.label.length) ' ') ++ level.label

def Format.write (moment : String) (line : Line) : Format → String
  | pretty => s!"{moment} {line.level.column} {line.source.path}: {line.message}"
  | json =>
      (Json.Value.object [
        ("timestamp", .text moment),
        ("level", .text line.level.label),
        ("fields", .object [("message", .text line.message)]),
        ("target", .text line.source.path)]).compact

end DepositDirectory.Log
