import DepositDirectory.Text.Quoted

/-!
# Why JSON text gives no value

The causes that end the reading of a JSON text, each with its wording: the text is broken as JSON,
or it is JSON of another form than the one asked for.
-/

namespace DepositDirectory.Json

/-- What kind of value was found where another was asked for. -/
inductive Found where
  | null
  | bool (value : Bool)
  | integer (value : Int)
  | float (digits : String)
  | text (value : String)
  | map
  | sequence

def Found.message : Found → String
  | .null => "null"
  | .bool value => "boolean `" ++ (if value then "true" else "false") ++ "`"
  | .integer value => "integer `" ++ toString value ++ "`"
  | .float digits => "floating point `" ++ digits ++ "`"
  | .text value => "string " ++ Text.quoted value
  | .map => "map"
  | .sequence => "sequence"

inductive Fault where
  | endInValue
  | endInObject
  | endInList
  | endInText
  | expectedColon
  | expectedCommaOrListEnd
  | expectedCommaOrObjectEnd
  | expectedWord
  | expectedValue
  | invalidEscape
  | invalidNumber
  | numberOutOfRange
  | controlCharacter
  | keyNotText
  | loneSurrogate
  | unpairedSurrogate
  | trailingComma
  | trailingCharacters
  | wrongType (found : Found) (wanted : String)
  | wrongInteger (value : Int) (wanted : String)
  | tooFewElements (count : Nat) (record : String) (needed : Nat)
  | missingField (name : String)
  | duplicateField (name : String)

def Fault.message : Fault → String
  | .endInValue => "EOF while parsing a value"
  | .endInObject => "EOF while parsing an object"
  | .endInList => "EOF while parsing a list"
  | .endInText => "EOF while parsing a string"
  | .expectedColon => "expected `:`"
  | .expectedCommaOrListEnd => "expected `,` or `]`"
  | .expectedCommaOrObjectEnd => "expected `,` or `\x7d`"
  | .expectedWord => "expected ident"
  | .expectedValue => "expected value"
  | .invalidEscape => "invalid escape"
  | .invalidNumber => "invalid number"
  | .numberOutOfRange => "number out of range"
  | .controlCharacter => "control character (\\u0000-\\u001F) found while parsing a string"
  | .keyNotText => "key must be a string"
  | .loneSurrogate => "lone leading surrogate in hex escape"
  | .unpairedSurrogate => "unexpected end of hex escape"
  | .trailingComma => "trailing comma"
  | .trailingCharacters => "trailing characters"
  | .wrongType found wanted => "invalid type: " ++ found.message ++ ", expected " ++ wanted
  | .wrongInteger value wanted =>
      "invalid value: integer `" ++ toString value ++ "`, expected " ++ wanted
  | .tooFewElements count record needed =>
      "invalid length " ++ count.repr ++ ", expected struct " ++ record ++ " with " ++
        needed.repr ++ (if needed = 1 then " element" else " elements")
  | .missingField name => "missing field `" ++ name ++ "`"
  | .duplicateField name => "duplicate field `" ++ name ++ "`"

end DepositDirectory.Json
