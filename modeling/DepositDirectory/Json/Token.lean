/-!
# Tokens of JSON text

A token keeps what is written rather than what it means: a string keeps its escaped UTF-16 units
apart, a number keeps its digits.  Whether a string pairs its surrogates or a number is in range is
asked only where the value is wanted.  A token that breaks off says how.
-/

namespace DepositDirectory.Json

/-- What stands in a place where something else is needed. -/
inductive Instead where
  | theEnd
  | other
  deriving DecidableEq

inductive Piece where
  | char (c : Char)
  | unit (n : Nat)
  deriving DecidableEq

/-- How a string ends: with its quote, or with what breaks it off. -/
inductive TextEnd where
  | closed
  | cut
  | control
  | badEscape
  | badUnit
  deriving DecidableEq

structure TextToken where
  pieces : List Piece
  ending : TextEnd
  deriving DecidableEq

def TextToken.push (piece : Piece) (token : TextToken) : TextToken :=
  ⟨piece :: token.pieces, token.ending⟩

structure ExponentPart where
  negative : Bool
  digits : List Nat
  deriving DecidableEq

/-- A number as it is written, with the values of its digits. -/
structure NumberToken where
  negative : Bool
  whole : List Nat
  fraction : Option (List Nat)
  exponent : Option ExponentPart
  deriving DecidableEq

inductive Token where
  | openList
  | closeList
  | openObject
  | closeObject
  | comma
  | colon
  | null
  | bool (value : Bool)
  | misspelt (found : Instead)
  | text (token : TextToken)
  | number (token : NumberToken)
  | brokenNumber (found : Instead)
  | junk
  deriving DecidableEq

end DepositDirectory.Json
