import DepositDirectory.Custody.CallError
import DepositDirectory.Json.Locator
import DepositDirectory.Text.Excerpt

/-!
# Reading the answers of the custody service

An answer is a status, an optional hint how long to wait, and a body.  Status 429 means that the
call was throttled; any other status outside 200 to 299 is a refusal, of which an excerpt of the
body is kept.  The body of a success is nothing, `null`, or the record that was asked for; of
one that is none of these it is told what is wrong with it and where.
-/

namespace DepositDirectory.Custody

structure Answer where
  status : Nat
  retryAfter : Option String
  body : String
  deriving DecidableEq

def refusalLimit : Nat := 512

def Answer.content? (answer : Answer) : Option (List Char) :=
  let trimmed := Text.trimChars answer.body.toList
  if trimmed = [] ∨ trimmed = ['n', 'u', 'l', 'l'] then none else some trimmed

/-- What an answer says: a record, nothing, or why the call fails. -/
def Answer.read (α : Type) [Json.Form α] [Json.Locator] (answer : Answer) :
    Except CallError (Option α) :=
  if answer.status = 429 then .error (.rateLimited answer.retryAfter)
  else if answer.status < 200 ∨ 299 < answer.status then
    .error (.status answer.status (Text.excerpt refusalLimit answer.body))
  else
    match answer.content? with
    | none => .ok none
    | some content =>
        match Json.parseAs α content with
        | .ok record => .ok (some record)
        | .error fault =>
            .error (.decode (fault.messageAt (Json.Locator.locate (Json.Form.shape α) content)))

end DepositDirectory.Custody
