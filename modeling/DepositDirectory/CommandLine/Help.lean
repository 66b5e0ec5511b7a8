import DepositDirectory.CommandLine.Basic
import DepositDirectory.Text.Terminal

/-!
# Help

The help of a topic says what it is for, how it is called, which words and commands it takes, and
which options.  Help comes short, each option on a line of its own, or long, each option as a
paragraph; only the program as a whole has more to say in long help.  The option for the log filter
shows the value that the environment gives it.  Titles and what is to be typed stand out.
-/

namespace DepositDirectory.CommandLine

def blanks (count : Nat) : String :=
  String.ofList (List.replicate count ' ')

def indented (count : Nat) (text : String) : String :=
  String.ofList (text.toList.flatMap fun c =>
    if c = '\n' then '\n' :: (blanks count).toList else [c])

abbrev Label := List (Emphasis × String)

namespace Label

def width (label : Label) : Nat :=
  label.foldl (fun width piece => width + piece.2.length) 0

def text (label : Label) : String :=
  String.join (label.map fun (emphasis, text) => emphasis.dress text)

end Label

/-- What help says on something that has a label. -/
structure Row where
  label : Label
  text : String

/-- Rows of two columns, two blanks between them. -/
def table (rows : List Row) : String :=
  let width := (rows.map fun row => row.label.width).foldl max 0
  String.join (rows.map fun row =>
    row.label.text ++ blanks (width + 2 - row.label.width) ++ indented (width + 2) row.text ++ "\n")

/-- Paragraphs: a label, and a text below it. -/
def paragraphs (rows : List Row) : String :=
  "\n".intercalate (rows.map fun row =>
    row.label.text ++ "\n" ++ blanks 10 ++ indented 10 row.text ++ "\n")

namespace Topic

def purpose : Topic → String
  | program => "Query the custody vault directory"
  | resolve => "Find the vault owning a deposit address"
  | balance => "Spendable balance of a token held by one of the vaults"
  | index => "Print the full address index"
  | help => "Print this message or the help of the given subcommand(s)"

def longPurpose : Topic → String
  | program =>
      "Query the custody vault directory.\n\n" ++
        "Connection settings come from the environment (or `.env`); " ++
        "see the configuration module for the full list."
  | topic => topic.purpose

/-- How a topic is called, and what may follow. -/
def usage : Topic → Label
  | program => [(.literal, program.name), (.plain, " [OPTIONS] <COMMAND>")]
  | help => [(.literal, program.name ++ " " ++ help.name), (.plain, " [COMMAND]...")]
  | topic =>
      [(.literal, program.name ++ " " ++ topic.name),
        (.plain, " " ++ " ".intercalate ("[OPTIONS]" :: topic.words.map Prod.fst))]

def title (name : String) : String := Emphasis.heading.dress (name ++ ":")

/-- A part of help under a title; without rows there is none. -/
def block (name : String) (rows : List Row) : String :=
  if rows.isEmpty then "" else "\n" ++ title name ++ "\n" ++ table rows

def listed : Topic → List Row
  | program =>
      commands.map fun command => ⟨[(.plain, "  "), (.literal, command.name)], command.purpose⟩
  | _ => []

def listedWords (topic : Topic) : List Row :=
  let words :=
    if topic = help then [("[COMMAND]...", "Print help for the subcommand(s)")] else topic.words
  words.map fun (word, meaning) => ⟨[(.plain, "  " ++ word)], meaning⟩

/-- The options of a topic, where the environment gives the log filter a value or not. -/
def options (level : Option String) (long : Bool) : Topic → List Row
  | help => []
  | topic =>
      let separator := if long then "\n" else " "
      let pointer :=
        if topic = program then
          if long then " (see a summary with '-h')" else " (see more with '--help')"
        else ""
      [⟨[(.plain, blanks 6), (.literal, "--log-level"), (.plain, " <LOG_LEVEL>")],
          "Default log filter when `RUST_LOG` is not set" ++ (if long then "\n\n" else " ") ++
            "[env: LOG_LEVEL=" ++ level.getD "" ++ "]" ++ separator ++ "[default: info]"⟩,
        ⟨flag "-h" "--help", "Print help" ++ pointer⟩,
        ⟨flag "-V" "--version", "Print version"⟩]
where
  /-- The label of a flag by its letter and its name. -/
  flag (letter name : String) : Label :=
    [(.plain, "  "), (.literal, letter), (.plain, ", "), (.literal, name)]

def helpText (topic : Topic) (long : Bool) (level : Option String) : String :=
  let long := long && topic = program
  let rows := topic.options level long
  (if long then topic.longPurpose else topic.purpose) ++ "\n\n" ++ title "Usage" ++ " " ++
    topic.usage.text ++ "\n" ++ block "Commands" topic.listed ++
    block "Arguments" topic.listedWords ++
    if long then "\n" ++ title "Options" ++ "\n" ++ paragraphs rows else block "Options" rows

def versionText : Topic → String
  | program => "vault-directory 0.1.0\n"
  | topic => s!"{program.name}-{topic.name} 0.1.0\n"

end Topic

/-- What is printed on a terminal when the program stops. -/
def Stop.text (level : Option String) (stop : Stop) : String :=
  match stop with
  | help topic long => topic.helpText long level
  | version topic => topic.versionText
  | nothing => Topic.program.helpText false level
  | wordsMissing words =>
      failed ++ String.join (words.map fun word => "\n  " ++ Emphasis.valid.dress word) ++ hint
  | _ => failed ++ hint
where
  /-- What is wrong. -/
  failed : String := Emphasis.failure.dress "error:" ++ " " ++ stop.complaint?.getD ""
  /-- Where to find out more. -/
  hint : String :=
    "\n\nFor more information, try '" ++ Emphasis.literal.dress "--help" ++ "'.\n"

def Stop.plainText (level : Option String) (stop : Stop) : String :=
  Text.withoutSequences (stop.text level)

end DepositDirectory.CommandLine
