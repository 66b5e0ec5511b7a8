import DepositDirectory.Environment

/-!
# The command line

The program takes one of three commands, with an option that can stand anywhere: the log filter to
use when none is set.  It also prints help and its version.
-/

namespace DepositDirectory.CommandLine

inductive Command where
  | resolve (address : String)
  | balance (deposit token : String)
  | index
  deriving DecidableEq

/-- A command and the log filter to use when none is set. -/
structure Invocation where
  logLevel : String
  command : Command
  deriving DecidableEq

inductive Topic where
  | program
  | resolve
  | balance
  | index
  | help
  deriving DecidableEq

namespace Topic

/-- The name of the program or of one of its commands. -/
def name : Topic → String
  | program => "vault-directory"
  | resolve => "resolve"
  | balance => "balance"
  | index => "index"
  | help => "help"

def commands : List Topic := [resolve, balance, index, help]

def ofName? (text : String) : Option Topic :=
  commands.find? (·.name = text)

/-- The words that a topic takes, by name, with what they mean. -/
def words : Topic → List (String × String)
  | resolve => [("<ADDRESS>", "Deposit address, any case")]
  | balance =>
      [("<DEPOSIT_ADDRESS>", "Deposit address the query is made for"),
        ("<TOKEN_ADDRESS>", "Token contract address")]
  | _ => []

end Topic

def levelOption : String := "--log-level <LOG_LEVEL>"

/-- How a piece of text stands out on a terminal. -/
inductive Emphasis where
  | plain
  /-- To be typed as it is. -/
  | literal
  | heading
  | failure
  | valid
  | invalid
  deriving DecidableEq

namespace Emphasis

def opening : Emphasis → String
  | plain => ""
  | literal => "\x1b[1m"
  | heading => "\x1b[1m\x1b[4m"
  | failure => "\x1b[1m\x1b[31m"
  | valid => "\x1b[32m"
  | invalid => "\x1b[33m"

def isForced (environment : Environment) : Bool :=
  environment.holds "CLICOLOR_FORCE" && !environment.holds "NO_COLOR"

def dress (emphasis : Emphasis) (text : String) : String :=
  if emphasis = plain then text else emphasis.opening ++ text ++ "\x1b[0m"

end Emphasis

/-- Why the program stops before it has done anything. -/
inductive Stop where
  /-- Help is printed. -/
  | help (topic : Topic) (long : Bool)
  | version (topic : Topic)
  /-- Nothing was asked for; short help is printed. -/
  | nothing
  | noCommand
  | unknownCommand (name : String)
  | unexpected (argument : String)
  /-- A flag was given a value. -/
  | unexpectedValue (flag value : String)
  | valueMissing
  | repeated
  | wordsMissing (words : List String)
  deriving DecidableEq

namespace Stop

def isFailure : Stop → Bool
  | help _ _ => false
  | version _ => false
  | _ => true

/-- What is wrong with the arguments; what was typed stands out. -/
def complaint? : Stop → Option String
  | help _ _ => none
  | version _ => none
  | nothing => none
  | noCommand =>
      some s!"'{wrong Topic.program.name}' requires a subcommand but one was not provided"
  | unknownCommand name => some s!"unrecognized subcommand '{wrong name}'"
  | unexpected argument => some s!"unexpected argument '{wrong argument}' found"
  | unexpectedValue flag value =>
      some <| s!"unexpected value '{wrong value}' for '{Emphasis.literal.dress flag}' found; " ++
        "no more were expected"
  | valueMissing => some s!"a value is required for '{wrong levelOption}' but none was supplied"
  | repeated => some s!"the argument '{wrong levelOption}' cannot be used multiple times"
  | wordsMissing _ => some "the following required arguments were not provided:"
where
  /-- What is not taken, as it stands out. -/
  wrong : String → String := Emphasis.invalid.dress

end Stop

end DepositDirectory.CommandLine
