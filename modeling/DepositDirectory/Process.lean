import DepositDirectory.Program

/-!
# Processes

The program is started as a process, with variables that hold bytes and with a settings file that
may lie about.  Its workers are counted first of all, by the variables as they are.  Then the file
is loaded: it sets variables that hold no text yet.  Only then are the arguments and the settings
read.
-/

namespace DepositDirectory

open CommandLine (Emphasis Invocation)

def Exit.garbled (emphatic : Bool) : Exit :=
  let text :=
    Emphasis.failure.dress "error:" ++ " invalid UTF-8 was detected in one or more arguments" ++
      "\n\nFor more information, try '" ++ Emphasis.literal.dress "--help" ++ "'.\n"
  ⟨2, "", if emphatic then text else Text.streamed text⟩

/-- What a process is started with: the bytes of its variables, the pairs of its settings file as
far as that can be read, and its arguments. -/
structure Process where
  raw : String → Option ByteArray
  file : List (String × String)
  arguments : List String

namespace Process

def plain (environment : Environment) (arguments : List String) : Process where
  raw := fun name => (environment name).map String.toUTF8
  file := []
  arguments := arguments

/-- Whether the number of workers is left open or usable; bytes that are no text are not. -/
def hasWorkers (process : Process) : Bool :=
  (process.raw "TOKIO_WORKER_THREADS").all fun bytes =>
    (String.fromUTF8? bytes).any Program.isWorkerCount

/-- The environment once the settings file is loaded: a variable with a text keeps it, and any other
has the first that the file gives. -/
def environment (process : Process) : Environment := fun name =>
  (Environment.ofBytes process.raw name).or (process.file.lookup name)

def isGarbled (process : Process) (name : String) : Bool :=
  (process.raw name).isSome && (process.environment name).isNone

def invocation (process : Process) : Except Exit Invocation := do
  let level := process.environment "LOG_LEVEL"
  let emphatic := Emphasis.isForced process.environment
  let invocation ← (Invocation.read level process.arguments).mapError (Exit.ofStop emphatic level)
  if process.isGarbled "LOG_LEVEL" && !Invocation.tellsLevel process.arguments then
    throw (Exit.garbled emphatic)
  return invocation

def setUp (process : Process) : Except Exit Program := do
  if !process.hasWorkers then throw Program.unstaffed
  Program.configure process.environment (← process.invocation)

end Process

end DepositDirectory
