import DepositDirectory.Custody.CallError
import DepositDirectory.Dialogue

/-!
# Waiting out throttled calls

A call that is throttled is made again after a wait: the one that the service hints at, or a default
one.  Only throttling is waited out, and only so many times; then the last answer stands.  Every
other outcome stands at once.
-/

namespace DepositDirectory

open Custody (CallError hintedWait)

/-- How often a throttled call is made again, and how long it waits without a hint. -/
structure Patience where
  maxRetries : Nat
  defaultWait : Nat
  deriving DecidableEq

namespace Patience

def usual : Patience := ⟨30, 1000⟩

def waitFor (patience : Patience) (hint : Option String) : Nat :=
  (hintedWait hint).getD patience.defaultWait

variable {I : Interface} {α : Type}

def tellFinal (budget : Nat) : Except CallError α → Dialogue I Unit
  | .ok _ => return ()
  | .error (.rateLimited _) =>
      Dialogue.say .warn .retry s!"Custody API still rate limited after {budget} retries"
  | .error error => Dialogue.say .debug .retry s!"Custody API call failed: {error.message}"

/-- Make a call, and make it again up to `left` more times; `budget` is how many there were. -/
def attempt (patience : Patience) (budget : Nat) (call : Dialogue I (Except CallError α)) :
    (left : Nat) → Dialogue I (Except CallError α)
  | 0 => do
      let outcome ← call
      tellFinal budget outcome
      return outcome
  | left + 1 => do
      match ← call with
      | .error (.rateLimited hint) =>
          let wait := patience.waitFor hint
          Dialogue.say .warn .retry
            s!"Custody API rate limited, retrying in {wait}ms ({left} retries left)"
          Dialogue.pause wait
          patience.attempt budget call left
      | outcome =>
          tellFinal budget outcome
          return outcome

def executeWith (patience : Patience) (retries : Nat) (call : Task I CallError α) :
    Task I CallError α :=
  ExceptT.mk (patience.attempt retries call.run retries)

def execute (patience : Patience) (call : Task I CallError α) : Task I CallError α :=
  patience.executeWith patience.maxRetries call

end Patience

end DepositDirectory
