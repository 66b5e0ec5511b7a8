/-!
# JSON values that are written

The values that answers and documents are made of: there is no fraction among them, and the members
of an object keep their order.
-/

namespace DepositDirectory.Json

/-- A JSON value. -/
inductive Value where
  | null
  | natural (n : Nat)
  | text (content : String)
  | list (items : List Value)
  | object (members : List (String × Value))

def Value.ofText? : Option String → Value
  | some content => .text content
  | none => .null

end DepositDirectory.Json
