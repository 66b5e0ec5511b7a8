import DepositDirectory.CommandLine.Basic

/-!
# Reading the arguments

The arguments are read from left to right, first those of the program and, from the name of a
command on, those of the command.  Two dashes end the options.  A value of the log filter is held
back until the next argument is read, so that what is wrong with it shows there.  The first thing
wrong is the cause.
-/

namespace DepositDirectory.CommandLine

/-- What an argument looks like. -/
inductive Argument where
  /-- Two dashes. -/
  | separator
  /-- An option by its long name, perhaps with a value. -/
  | option (name : List Char) (value : Option (List Char))
  /-- Options by their letters. -/
  | letters (first : Char)
  | word
  deriving DecidableEq

def Argument.ofChars : List Char → Argument
  | ['-', '-'] => separator
  | '-' :: '-' :: named =>
      match named.span (· ≠ '=') with
      | (name, []) => option name none
      | (name, _ :: value) => option name (some value)
  | '-' :: c :: _ => letters c
  | _ => word

/-- An option that still is to be settled. -/
inductive Pending where
  | none
  | awaited
  | held (value : String)
  deriving DecidableEq

/-- What has been read of the arguments of one topic. -/
structure Reading where
  level : Option String
  pending : Pending
  words : List String
  deriving DecidableEq

namespace Reading

def start : Reading := ⟨none, .none, []⟩

/-- Take a value of the log filter; there can be one. -/
def setLevel (value : String) (reading : Reading) : Except Stop Reading :=
  match reading.level with
  | some _ => .error .repeated
  | none => .ok { reading with level := some value }

def settle (reading : Reading) : Except Stop Reading :=
  match reading.pending with
  | .none => .ok reading
  | .awaited => .error .valueMissing
  | .held value => { reading with pending := .none }.setLevel value

def tellsLevel (reading : Reading) : Bool :=
  (reading.settle.toOption.bind Reading.level).isSome

def takeOption (topic : Topic) (name : List Char) (value : Option (List Char))
    (reading : Reading) : Except Stop Reading :=
  match String.ofList name, value with
  | "log-level", some text => do (← reading.settle).setLevel (String.ofList text)
  | "log-level", none => do return { ← reading.settle with pending := .awaited }
  | "help", none => do
      discard reading.settle
      .error (.help topic true)
  | "version", none => do
      discard reading.settle
      .error (.version topic)
  | "help", some text => .error (.unexpectedValue "--help" (String.ofList text))
  | "version", some text => .error (.unexpectedValue "--version" (String.ofList text))
  | unknown, _ => .error (.unexpected ("--" ++ unknown))

def takeLetter (topic : Topic) (letter : Char) (reading : Reading) : Except Stop Reading :=
  match letter with
  | 'h' => do
      discard reading.settle
      .error (.help topic false)
  | 'V' => do
      discard reading.settle
      .error (.version topic)
  | unknown => .error (.unexpected (String.ofList ['-', unknown]))

def takeWord (topic : Topic) (ended : Bool) (word : String) (reading : Reading) :
    Except Stop Reading :=
  if reading.words.length < topic.words.length then do
    let settled ← reading.settle
    return { settled with words := settled.words ++ [word] }
  else if topic = .program && !(ended && (Topic.ofName? word).isSome) then
    .error (.unknownCommand word)
  else .error (.unexpected word)

end Reading

def helpAbout (topic : Topic) : List String → Stop
  | [] => .help topic true
  | word :: rest =>
      match topic, Topic.ofName? word with
      | .program, some command => helpAbout command rest
      | _, _ => .unknownCommand word

/-- Read the arguments of a topic, of the program up to the name of a command. -/
def readFrom (topic : Topic) : (ended : Bool) → Reading → List String →
    Except Stop (Reading × Option (Topic × List String))
  | _, reading, [] => .ok (reading, none)
  | true, reading, argument :: rest => do
      readFrom topic true (← reading.takeWord topic true argument) rest
  | false, reading, argument :: rest =>
      let awaited := reading.pending = .awaited
      match (Topic.ofName? argument).filter fun _ => !awaited && topic = .program with
      | some .help => .error (helpAbout .program rest)
      | some command => .ok (reading, some (command, rest))
      | none =>
          match Argument.ofChars argument.toList with
          | .separator => readFrom topic true reading rest
          | .option name value => do
              readFrom topic false (← reading.takeOption topic name value) rest
          | .letters first => do
              readFrom topic false (← reading.takeLetter topic first) rest
          | .word =>
              if awaited then readFrom topic false { reading with pending := .held argument } rest
              else do readFrom topic false (← reading.takeWord topic false argument) rest

def Command.ofWords (topic : Topic) (words : List String) : Except Stop Command :=
  match topic, words with
  | .resolve, [address] => .ok (.resolve address)
  | .balance, [deposit, token] => .ok (.balance deposit token)
  | .index, [] => .ok .index
  | _, _ => .error (.wordsMissing ((topic.words.drop words.length).map Prod.fst))

def defaultLevel : String := "info"

/-- Read the arguments, where the environment may set the log filter. -/
def Invocation.read (level : Option String) (arguments : List String) :
    Except Stop Invocation := do
  match ← readFrom .program false .start arguments with
  | (outer, some (topic, rest)) =>
      let (inner, _) ← readFrom topic false .start rest
      let inner ← inner.settle
      let command ← Command.ofWords topic inner.words
      let outer ← outer.settle
      let chosen := (inner.level.or outer.level).or level
      return ⟨chosen.getD defaultLevel, command⟩
  | (outer, none) =>
      let outer ← outer.settle
      if outer.level.isNone && level.isNone then .error .nothing else .error .noCommand

/-- Whether both the program and its command are told a log filter, so that neither looks for one in
the environment. -/
def Invocation.tellsLevel (arguments : List String) : Bool :=
  match readFrom .program false .start arguments with
  | .ok (outer, some (topic, rest)) =>
      match readFrom topic false .start rest with
      | .ok (inner, _) => outer.tellsLevel && inner.tellsLevel
      | .error _ => false
  | _ => false

end DepositDirectory.CommandLine
