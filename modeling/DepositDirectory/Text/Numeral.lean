import DepositDirectory.Text.Blank

/-!
# Decimal numerals

A numeral is an optional plus sign and one or more ASCII digits, with a value up to a given limit.
Reading one fails for one of three causes: nothing is written, something other than a digit is
written, or the value is past the limit.  The first of these met from the left is the cause.
-/

namespace DepositDirectory.Text

/-- Why a text is no numeral. -/
inductive NumeralFault where
  | empty
  | invalidDigit
  | tooLarge
  deriving DecidableEq

namespace NumeralFault

/-- The wording of the cause. -/
def message : NumeralFault → String
  | .empty => "cannot parse integer from empty string"
  | .invalidDigit => "invalid digit found in string"
  | .tooLarge => "number too large to fit in target type"

end NumeralFault

def digitValue? (c : Char) : Option Nat :=
  if '0' ≤ c ∧ c ≤ '9' then some (c.toNat - '0'.toNat) else none

def readDigits (limit : Nat) (value : Nat) : List Char → Except NumeralFault Nat
  | [] => .ok value
  | c :: rest =>
      match digitValue? c with
      | none => .error .invalidDigit
      | some digit =>
          if value * 10 + digit ≤ limit then readDigits limit (value * 10 + digit) rest
          else .error .tooLarge

def readNumeral (limit : Nat) : List Char → Except NumeralFault Nat
  | [] => .error .empty
  | '+' :: [] => .error .invalidDigit
  | '+' :: digits => readDigits limit 0 digits
  | digits => readDigits limit 0 digits

def maxWord64 : Nat := Nat.pow 2 64 - 1

def maxWord32 : Nat := Nat.pow 2 32 - 1

end DepositDirectory.Text
