import DepositDirectory.Proofs.Json.Outlines

/-!
# Values that texts spell

A text that is a JSON value of the kinds that are written spells that value: strings stand for their
characters, digits for their number however large it is, and the members of an object are kept in
their order.  Everything that is written, in either layout and before any gaps, spells what it was
written for and nothing else.
-/

namespace DepositDirectory.Json

/-! ## Reading a value back -/

/-- The number that a token spells, when it has neither sign nor fraction nor exponent. -/
def NumberToken.natural? (token : NumberToken) : Option Nat :=
  if token.negative || token.fraction.isSome || token.exponent.isSome then none
  else some (token.whole.foldl (fun leading digit => 10 * leading + digit) 0)

mutual

/-- The value that an outline spells, if it is whole and of a kind that is written. -/
def Outline.value? : Outline → Option Value
  | .null => some .null
  | .number token => token.natural?.map .natural
  | .text token => token.value.toOption.map .text
  | .list items .closed => (itemValues? items).map .list
  | .object members .closed => (memberValues? members).map .object
  | _ => none

def itemValues? : List Outline → Option (List Value)
  | [] => some []
  | item :: rest => do return (← item.value?) :: (← itemValues? rest)

def memberValues? : List (TextToken × Outline) → Option (List (String × Value))
  | [] => some []
  | (key, value) :: rest => do
      return (← key.value.toOption, ← value.value?) :: (← memberValues? rest)

end

/-- The one value that a text spells. -/
def decode? (text : String) : Option Value :=
  match outline text.toList with
  | (whole, []) => whole.value?
  | (_, _ :: _) => none

/-! ## Reading back what was written -/

theorem foldl_digits (digits : List Char) (leading : Nat) :
    (digits.map fun c => c.toNat - '0'.toNat).foldl (fun leading digit => 10 * leading + digit)
      leading = Nat.ofDigitChars 10 digits leading := by
  induction digits generalizing leading with
  | nil => rfl
  | cons c digits ih =>
      rw [List.map_cons, List.foldl_cons, ih, Nat.ofDigitChars_cons]

theorem numberToken_natural? (n : Nat) : (numberToken n).natural? = some n := by
  refine congrArg some ((foldl_digits _ 0).trans ?_)
  exact Nat.ofDigitChars_ten_toDigits

mutual

theorem outline_value? (value : Value) : value.outline.value? = some value :=
  match value with
  | .null => rfl
  | .natural n => congrArg (Option.map Value.natural) (numberToken_natural? n)
  | .text content => by rw [Value.outline, Outline.value?, textToken_value]; rfl
  | .list items => congrArg (Option.map Value.list) (itemOutlines_values? items)
  | .object members => congrArg (Option.map Value.object) (memberOutlines_values? members)

theorem itemOutlines_values? (items : List Value) :
    itemValues? (itemOutlines items) = some items :=
  match items with
  | [] => rfl
  | item :: rest => by
      rw [itemOutlines, itemValues?, outline_value? item, itemOutlines_values? rest]
      rfl

theorem memberOutlines_values? (members : List (String × Value)) :
    memberValues? (memberOutlines members) = some members :=
  match members with
  | [] => rfl
  | (key, value) :: rest => by
      rw [memberOutlines, memberValues?, textToken_value, outline_value? value,
        memberOutlines_values? rest]
      rfl

end

/-- A value in lines, with a line break after it, spells that value. -/
theorem decode?_line (value : Value) : decode? (value.pretty ++ "\n") = some value := by
  have text : (value.pretty ++ "\n").toList = value.chars .pretty 0 ++ ['\n'] := by
    rw [String.toList_append, Value.pretty, String.toList_ofList]
    rfl
  have tokens : lex (value.chars .pretty 0 ++ ['\n']) = value.tokens ++ [] := by
    rw [lex_chars .pretty 0 value (apart_cons (by decide) []), lex_of_gap (by decide), lex_nil]
  have whole : outline (value.chars .pretty 0 ++ ['\n']) = (value.outline, []) := by
    rw [outline, tokens, Outline.read_tokens value (.value [])]
    rfl
  rw [decode?, text, whole]
  exact outline_value? value

end DepositDirectory.Json
