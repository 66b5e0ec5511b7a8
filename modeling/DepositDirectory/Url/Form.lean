import DepositDirectory.Text.Split
import DepositDirectory.Url.Percent

/-!
# Form-encoded queries

A query is a list of names with values.  Each is written with its letters, digits and four marks as
they are, a space as a plus sign and all else escaped; an equals sign stands between a name and its
value and an ampersand between pairs.
-/

namespace DepositDirectory.Url

open Text (splitAt utf8)

/-- The characters that a form-encoded text shows as they are. -/
def isFormPlain (c : Char) : Bool :=
  c.isAlphanum || c = '*' || c = '-' || c = '.' || c = '_'

def formChar (c : Char) : List Char :=
  if isFormPlain c then [c]
  else if c = ' ' then ['+']
  else (utf8 [c]).flatMap escapedByte

def formText (text : String) : List Char :=
  text.toList.flatMap formChar

def formPair (pair : String × String) : List Char :=
  formText pair.1 ++ '=' :: formText pair.2

def formPairs (pairs : List (String × String)) : List Char :=
  List.intercalate ['&'] (pairs.map formPair)

def ofFormText (bytes : List UInt8) : String :=
  String.ofList (Text.ofUtf8 (percentDecode (bytes.map fun b => if b = 0x2B then 0x20 else b)))

/-- Read one form-encoded pair: the value follows the first equals sign. -/
def ofFormPair (bytes : List UInt8) : String × String :=
  (ofFormText (bytes.takeWhile (· ≠ 0x3D)), ofFormText ((bytes.dropWhile (· ≠ 0x3D)).drop 1))

/-- Read form-encoded pairs; empty ones are passed over. -/
def ofFormPairs (query : String) : List (String × String) :=
  ((splitAt 0x26 (utf8 query.toList)).filter (· ≠ [])).map ofFormPair

end DepositDirectory.Url
