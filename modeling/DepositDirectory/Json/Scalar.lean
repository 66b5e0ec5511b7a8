import DepositDirectory.Decimal.Shortest
import DepositDirectory.Json.Fault
import DepositDirectory.Json.Token
import DepositDirectory.Text.Numeral

/-!
# Meaning of strings and numbers

What a string or a number token stands for, or why it stands for nothing.  A string pairs its
escaped surrogates.  A number without fraction and exponent is an integer when it fits in 64 bits;
every other number is a double, reached by one multiplication or division of the leading digits by a
power of ten.
-/

namespace DepositDirectory.Json

open Text (maxWord64)

def isHighSurrogate (n : Nat) : Bool := 0xD800 ≤ n && n ≤ 0xDBFF

def isLowSurrogate (n : Nat) : Bool := 0xDC00 ≤ n && n ≤ 0xDFFF

def pairedChar (high low : Nat) : Char :=
  Char.ofNat (0x10000 + (high - 0xD800) * 0x400 + (low - 0xDC00))

/-- The cause that the end of a string gives, if it is no quote. -/
def TextEnd.fault? : TextEnd → Option Fault
  | .closed => none
  | .cut => some .endInText
  | .control => some .controlCharacter
  | .badEscape => some .invalidEscape
  | .badUnit => some .invalidEscape

def TextEnd.faultAfterHigh : TextEnd → Fault
  | .cut => .endInText
  | .badUnit => .invalidEscape
  | .closed => .unpairedSurrogate
  | .control => .unpairedSurrogate
  | .badEscape => .unpairedSurrogate

def pieceChars (ending : TextEnd) : List Piece → Except Fault (List Char)
  | [] =>
      match ending.fault? with
      | some fault => .error fault
      | none => .ok []
  | .char c :: rest => (pieceChars ending rest).map (c :: ·)
  | .unit n :: rest =>
      if isLowSurrogate n then .error .loneSurrogate
      else if isHighSurrogate n then
        match rest with
        | .unit m :: after =>
            if isLowSurrogate m then (pieceChars ending after).map (pairedChar n m :: ·)
            else .error .loneSurrogate
        | .char _ :: _ => .error .unpairedSurrogate
        | [] => .error ending.faultAfterHigh
      else (pieceChars ending rest).map (Char.ofNat n :: ·)

def TextToken.value (token : TextToken) : Except Fault String :=
  (pieceChars token.ending token.pieces).map String.ofList

inductive Number where
  | integer (value : Int)
  | float (value : Float)

/-- The leading digits of a number, and how many powers of ten they lack. -/
structure Leading where
  significand : Nat
  scale : Int

def appendDigit? (significand digit : Nat) : Option Nat :=
  if significand * 10 + digit ≤ maxWord64 then some (significand * 10 + digit) else none

/-- Take in whole digits; once they do not fit, each further digit is a power of ten. -/
def takeWhole (significand : Nat) : List Nat → Leading
  | [] => ⟨significand, 0⟩
  | digit :: rest =>
      match appendDigit? significand digit with
      | some more => takeWhole more rest
      | none => ⟨significand, (rest.length + 1 : Nat)⟩

def takeFraction (leading : Leading) : List Nat → Leading
  | [] => leading
  | digit :: rest =>
      match appendDigit? leading.significand digit with
      | some more => takeFraction ⟨more, leading.scale - 1⟩ rest
      | none => leading

/-- The largest exponent that is taken in, and the bound for scales. -/
def maxExponent : Int := 2147483647

def exponentValue? : Int → List Nat → Option Int
  | value, [] => some value
  | value, digit :: rest =>
      if value * 10 + digit ≤ maxExponent then exponentValue? (value * 10 + digit) rest else none

def clampScale (scale : Int) : Int :=
  max (-maxExponent - 1) (min maxExponent scale)

def powerOfTen (n : Nat) : Float :=
  Float.ofScientific 1 false n

def divideDown : Nat → Float → Nat → Float
  | 0, x, _ => x
  | steps + 1, x, down =>
      if down ≤ 308 then x / powerOfTen down
      else if x == 0.0 then x
      else divideDown steps (x / powerOfTen 308) (down - 308)

/--
The double nearest to leading digits times their power of ten, reached in one step where possible.
-/
def Leading.toFloat (leading : Leading) : Except Fault Float :=
  let x := leading.significand.toUInt64.toFloat
  if 0 ≤ leading.scale then
    if leading.scale ≤ 308 then
      let scaled := x * powerOfTen leading.scale.toNat
      if scaled.isInf then .error .numberOutOfRange else .ok scaled
    else if leading.significand = 0 then .ok x
    else .error .numberOutOfRange
  else .ok (divideDown 10 x (-leading.scale).toNat)

def signed (negative : Bool) (x : Float) : Number :=
  .float (if negative then -x else x)

/-- The value of a number with a fraction, an exponent or more digits than fit. -/
def NumberToken.floatValue (token : NumberToken) (leading : Leading) : Except Fault Number := do
  match token.exponent with
  | none => return signed token.negative (← leading.toFloat)
  | some part =>
      match exponentValue? 0 part.digits with
      | some exponent =>
          let scale := clampScale (leading.scale + (if part.negative then -exponent else exponent))
          return signed token.negative (← Leading.toFloat ⟨leading.significand, scale⟩)
      | none =>
          if leading.significand ≠ 0 ∧ !part.negative then throw .numberOutOfRange
          else return signed token.negative 0.0

def NumberToken.value (token : NumberToken) : Except Fault Number :=
  let whole := takeWhole 0 token.whole
  match token.fraction with
  | some digits => token.floatValue (takeFraction whole digits)
  | none =>
      if token.exponent.isSome || whole.scale ≠ 0 then token.floatValue whole
      else if !token.negative then .ok (.integer whole.significand)
      else if whole.significand = 0 ∨ Nat.pow 2 63 < whole.significand then
        .ok (signed true whole.significand.toUInt64.toFloat)
      else .ok (.integer (-whole.significand))

/-- How a number is named where another kind of value was asked for. -/
def Number.found : Number → Found
  | .integer value => .integer value
  | .float value => .float (Decimal.floatText value)

end DepositDirectory.Json
