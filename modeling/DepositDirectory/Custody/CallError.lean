import DepositDirectory.Text.Blank
import DepositDirectory.Text.Numeral
import DepositDirectory.Text.Quoted

/-!
# Why a call to the custody service fails

A call is throttled, answered with a refusal, never answered, or answered with something that cannot
be read.  A throttled call may carry a hint how many milliseconds to wait, as the service wrote it.
-/

namespace DepositDirectory.Custody

/-- Why a call fails. -/
inductive CallError where
  | rateLimited (retryAfter : Option String)
  | status (code : Nat) (body : String)
  | transport (text : String)
  | decode (text : String)
  deriving DecidableEq

namespace CallError

def message : CallError → String
  | rateLimited retryAfter =>
      "Rate limited by custody API (retry-after: " ++ Text.quotedOption retryAfter ++ ")"
  | status code body => "Custody API returned " ++ code.repr ++ ": " ++ body
  | transport text => "Transport error: " ++ text
  | decode text => "Failed to decode response: " ++ text

def isRateLimited : CallError → Bool
  | rateLimited _ => true
  | _ => false

def retryHint : CallError → Option String
  | rateLimited retryAfter => retryAfter
  | _ => none

end CallError

/-- The milliseconds that a hint names: a numeral of up to 64 bits, blanks around it apart. -/
def hintedWait (hint : Option String) : Option Nat :=
  hint.bind fun text =>
    match Text.readNumeral Text.maxWord64 (Text.trimChars text.toList) with
    | .ok ms => some ms
    | .error _ => none

end DepositDirectory.Custody
