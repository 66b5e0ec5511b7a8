import DepositDirectory.Log.Expression

/-!
# Patterns of field values

A log filter can ask that a field has a value, which it gives as a truth value, a number or a
regular expression.  Here is only decided whether a text can be read as one of these.
-/

namespace DepositDirectory.Log

namespace Pattern

/-- Whether a text is a number with a fraction or an exponent, its sign apart. -/
def isNumber (cs : List Char) : Bool :=
  let lower := cs.map Char.toLower
  let (mantissa, exponent?) :=
    match lower.span (· ≠ 'e') with
    | (mantissa, []) => (mantissa, none)
    | (mantissa, _ :: exponent) => (mantissa, some exponent)
  let unsigned := fun exponent : List Char =>
    match exponent with
    | '+' :: digits => digits
    | '-' :: digits => digits
    | digits => digits
  let digits := mantissa.filter (· ≠ '.')
  ["inf", "infinity", "nan"].contains (String.ofList lower) ||
    (mantissa.count '.' ≤ 1 && digits ≠ [] && digits.all Char.isDigit &&
      exponent?.all fun exponent =>
        unsigned exponent ≠ [] && (unsigned exponent).all Char.isDigit)

end Pattern

def isFieldValue (cs : List Char) : Bool :=
  match cs with
  | '+' :: unsigned => Pattern.isNumber unsigned
  | _ => Expression.isExpression cs

end DepositDirectory.Log
