import DepositDirectory.Text.Split
import DepositDirectory.Text.Utf8

/-!
# Media types

A media type names a kind, a slash and a kind within it, and gives parameters after semicolons.  A
value is a name or stands in quotes, which hide whatever is between them; there is no way to write a
quote.  Spaces may stand before a parameter and behind a value in quotes.
-/

namespace DepositDirectory.Http

/-- The parameters of a media type, as they are written. -/
structure MediaType where
  parameters : List (List Char × List Char)

namespace MediaType

def isToken (c : Char) : Bool :=
  c.isAlphanum || "!#$%&'*+-.^_\x60|~".toList.contains c

def cutToken (cs : List Char) : List Char × List Char :=
  (cs.takeWhile isToken, cs.dropWhile isToken)

/-- A value in quotes, from behind the first; a quote that comes at once is part of the value. -/
def cutQuoted? : List Char → Option (List Char × List Char)
  | [] => none
  | first :: rest =>
      let more := rest.takeWhile (· ≠ '"')
      if (first :: more).any (·.toNat < 0x20) ∨ more.length = rest.length then none
      else some (first :: more, rest.drop (more.length + 1))

/-- The value of a parameter, and what follows it; only the last one may be empty. -/
def cutValue? : List Char → Option (List Char × List Char)
  | '"' :: cs => do
      let (value, rest) ← cutQuoted? cs
      return (value, rest.dropWhile (· = ' '))
  | cs =>
      let (value, rest) := cutToken cs
      if value = [] ∧ rest ≠ [] then none else some (value, rest)

def readParameters? : (allowance : Nat) → List Char → Option (List (List Char × List Char))
  | 0, _ => none
  | allowance + 1, cs =>
      let (name, rest) := cutToken (cs.dropWhile (· = ' '))
      match rest with
      | [] => if name = [] then some [] else none
      | '=' :: written => do
          let (value, rest) ← cutValue? written
          if name = [] then none
          else
            match rest with
            | [] => some [(name, value)]
            | ';' :: later => return (name, value) :: (← readParameters? allowance later)
            | _ => none
      | _ => none

def read? (cs : List Char) : Option MediaType :=
  let (kind, afterKind) := cutToken cs
  match afterKind with
  | '/' :: within =>
      let (part, rest) := cutToken within
      if kind = [] then none
      else
        match rest with
        | [] => some ⟨[]⟩
        | ';' :: parameters =>
            if part = [] then none
            else (readParameters? (parameters.length + 1) parameters).map (⟨·⟩)
        | _ => none
  | _ => none

def parameter? (mediaType : MediaType) (name : List Char) : Option (List Char) :=
  (mediaType.parameters.find? fun parameter => parameter.1.map Char.toLower = name).map (·.2)

end MediaType

end DepositDirectory.Http
