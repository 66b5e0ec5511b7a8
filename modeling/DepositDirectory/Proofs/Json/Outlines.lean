import DepositDirectory.Json.Outline
import DepositDirectory.Proofs.Json.Scalars

/-!
# Written values

A written value splits into its tokens and nothing else, in either layout and at any depth: line
breaks and blanks fall between the tokens, and no number runs into what follows it.  The tokens
spell the outline of the value with every list and every object closed, so reading what was written
leaves nothing over.
-/

namespace DepositDirectory.Json

/-! ## Tokens of a value -/

mutual

/-- The tokens of a written value. -/
def Value.tokens : Value → List Token
  | .null => [.null]
  | .natural n => [.number (numberToken n)]
  | .text content => [.text (textToken content)]
  | .list [] => [.openList, .closeList]
  | .list (item :: rest) => .openList :: item.tokens ++ restItemTokens rest ++ [.closeList]
  | .object [] => [.openObject, .closeObject]
  | .object ((key, value) :: rest) =>
      .openObject :: .text (textToken key) :: .colon :: value.tokens ++ restMemberTokens rest ++
        [.closeObject]

/-- The tokens of the elements after the first. -/
def restItemTokens : List Value → List Token
  | [] => []
  | item :: rest => .comma :: item.tokens ++ restItemTokens rest

def restMemberTokens : List (String × Value) → List Token
  | [] => []
  | (key, value) :: rest =>
      .comma :: .text (textToken key) :: .colon :: value.tokens ++ restMemberTokens rest

end

theorem lex_mark {c : Char} {token : Token} (noGap : isGap c = false) (mark : mark? c = some token)
    (rest : List Char) : lex (c :: rest) = token :: lex rest := by
  rw [lex_of_token noGap, readToken, mark]

theorem lex_null (rest : List Char) : lex (['n', 'u', 'l', 'l'] ++ rest) = .null :: lex rest := by
  have read : readToken 'n' (['u', 'l', 'l'] ++ rest) = (.null, rest) := rfl
  rw [List.cons_append, lex_of_token (by decide), read]

theorem lex_replicate (n : Nat) (rest : List Char) :
    lex (List.replicate n ' ' ++ rest) = lex rest := by
  induction n with
  | zero => rfl
  | succ n ih => rw [List.replicate_succ, List.cons_append, lex_of_gap (by decide), ih]

theorem lex_lineBreak (layout : Layout) (depth : Nat) (rest : List Char) :
    lex (layout.lineBreak depth ++ rest) = lex rest := by
  cases layout with
  | compact => rfl
  | pretty =>
      rw [Layout.lineBreak, List.cons_append, lex_of_gap (by decide)]
      exact lex_replicate _ rest

theorem lex_colon (layout : Layout) (rest : List Char) :
    lex (layout.colon ++ rest) = .colon :: lex rest := by
  cases layout with
  | compact => exact lex_mark rfl rfl rest
  | pretty =>
      rw [Layout.colon, List.cons_append, lex_mark rfl rfl]
      exact congrArg (Token.colon :: ·) (lex_of_gap (by decide) rest)

/-! A number never runs into what is written after it. -/

theorem apart_lineBreak (layout : Layout) (depth : Nat) {rest : List Char} (apart : Apart rest) :
    Apart (layout.lineBreak depth ++ rest) := by
  cases layout with
  | compact => exact apart
  | pretty => exact apart_cons (by decide) _

theorem apart_restItemChars (layout : Layout) (depth : Nat) (items : List Value)
    {rest : List Char} (apart : Apart rest) : Apart (restItemChars layout depth items ++ rest) := by
  cases items with
  | nil => exact apart
  | cons item items => exact apart_cons (by decide) _

theorem apart_restMemberChars (layout : Layout) (depth : Nat) (members : List (String × Value))
    {rest : List Char} (apart : Apart rest) :
    Apart (restMemberChars layout depth members ++ rest) := by
  cases members with
  | nil => exact apart
  | cons member members => exact apart_cons (by decide) _

mutual

/-- A written value splits into its tokens. -/
theorem lex_chars (layout : Layout) (depth : Nat) (value : Value) {rest : List Char}
    (apart : Apart rest) : lex (value.chars layout depth ++ rest) = value.tokens ++ lex rest :=
  match value with
  | .null => lex_null rest
  | .natural n => lex_repr n apart
  | .text content => lex_textChars content rest
  | .list [] => by
      rw [Value.chars, List.cons_append, List.singleton_append, lex_mark rfl rfl,
        lex_mark rfl rfl]
      rfl
  | .list (item :: items) => by
      -- A comma, a line break or the bracket follows each element, and none goes on with a number.
      have ends : Apart (layout.lineBreak depth ++ ']' :: rest) :=
        apart_lineBreak layout depth (apart_cons (by decide) rest)
      have first := lex_chars layout (depth + 1) item
        (apart_restItemChars layout (depth + 1) items ends)
      have others := lex_restItemChars layout (depth + 1) items ends
      simp only [Value.chars, List.cons_append, List.append_assoc, List.nil_append]
      rw [lex_mark rfl rfl, lex_lineBreak, first, others, lex_lineBreak,
        lex_mark rfl rfl]
      simp only [Value.tokens, List.cons_append, List.append_assoc, List.nil_append]
  | .object [] => by
      rw [Value.chars, List.cons_append, List.singleton_append, lex_mark rfl rfl,
        lex_mark rfl rfl]
      rfl
  | .object ((key, value) :: members) => by
      have ends : Apart (layout.lineBreak depth ++ '\x7d' :: rest) :=
        apart_lineBreak layout depth (apart_cons (by decide) rest)
      have first := lex_chars layout (depth + 1) value
        (apart_restMemberChars layout (depth + 1) members ends)
      have others := lex_restMemberChars layout (depth + 1) members ends
      simp only [Value.chars, List.cons_append, List.append_assoc, List.nil_append]
      rw [lex_mark rfl rfl, lex_lineBreak, lex_textChars, lex_colon, first, others,
        lex_lineBreak, lex_mark rfl rfl]
      simp only [Value.tokens, List.cons_append, List.append_assoc, List.nil_append]

theorem lex_restItemChars (layout : Layout) (depth : Nat) (items : List Value) {rest : List Char}
    (apart : Apart rest) :
    lex (restItemChars layout depth items ++ rest) = restItemTokens items ++ lex rest :=
  match items with
  | [] => rfl
  | item :: items => by
      have first := lex_chars layout depth item (apart_restItemChars layout depth items apart)
      have others := lex_restItemChars layout depth items apart
      simp only [restItemChars, List.cons_append, List.append_assoc]
      rw [lex_mark rfl rfl, lex_lineBreak, first, others]
      simp only [restItemTokens, List.cons_append, List.append_assoc]

theorem lex_restMemberChars (layout : Layout) (depth : Nat) (members : List (String × Value))
    {rest : List Char} (apart : Apart rest) :
    lex (restMemberChars layout depth members ++ rest) = restMemberTokens members ++ lex rest :=
  match members with
  | [] => rfl
  | (key, value) :: members => by
      have first := lex_chars layout depth value (apart_restMemberChars layout depth members apart)
      have others := lex_restMemberChars layout depth members apart
      simp only [restMemberChars, List.cons_append, List.append_assoc]
      rw [lex_mark rfl rfl, lex_lineBreak, lex_textChars, lex_colon, first, others]
      simp only [restMemberTokens, List.cons_append, List.append_assoc]

end

/-! ## The outline of a value -/

mutual

/-- What a written value is read as. -/
def Value.outline : Value → Outline
  | .null => .null
  | .natural n => .number (numberToken n)
  | .text content => .text (textToken content)
  | .list items => .list (itemOutlines items) .closed
  | .object members => .object (memberOutlines members) .closed

/-- What written elements are read as. -/
def itemOutlines : List Value → List Outline
  | [] => []
  | item :: rest => item.outline :: itemOutlines rest

/-- What written members are read as. -/
def memberOutlines : List (String × Value) → List (TextToken × Outline)
  | [] => []
  | (key, value) :: rest => (textToken key, value.outline) :: memberOutlines rest

end

namespace Outline

/-- A value is due in this place, and it is read inside the frames `base`. -/
inductive Opens : List Frame → Due → List Frame → Prop where
  | value (stack : List Frame) : Opens stack .value stack
  | firstItem (stack : List Frame) : Opens stack .firstItem (.list [] :: stack)
  | nextItem (held : List Outline) (stack : List Frame) :
      Opens stack (.nextItem held) (.list held :: stack)

variable {stack base : List Frame} {due : Due} {rest : List Token}

theorem Opens.unfinished (opens : Opens stack due base) : finished? stack due = none := by
  cases opens with
  | value => cases stack <;> rfl
  | firstItem => cases stack <;> rfl
  | nextItem held => cases stack <;> rfl

theorem Opens.step_eq (opens : Opens stack due base) {token : Token} (noEnd : token ≠ .closeList) :
    step stack due token = startValue base token := by
  cases opens with
  | value => rfl
  | firstItem => rw [step]; exact noEnd
  | nextItem held => rw [step]; exact noEnd

/-- Where a value is due, a token that starts one is taken for it. -/
theorem read_start {token : Token} {inner : List Frame} {next : Due}
    (opens : Opens stack due base) (noEnd : token ≠ .closeList)
    (start : startValue base token = .go inner next) :
    read stack due (token :: rest) = read inner next rest := by
  rw [read, opens.unfinished, opens.step_eq noEnd, start]

theorem read_list_start (opens : Opens stack due base) :
    read stack due (.openList :: rest) = read base .firstItem rest :=
  read_start opens nofun rfl

theorem read_object_start (opens : Opens stack due base) :
    read stack due (.openObject :: rest) = read base .firstKey rest :=
  read_start opens nofun rfl

theorem read_next_item (last : Outline) (held : List Outline) :
    read (.list held :: stack) (.more last) (.comma :: rest) =
      read stack (.nextItem (last :: held)) rest :=
  rfl

theorem read_first_key (key : TextToken) :
    read stack .firstKey (.text key :: .colon :: rest) =
      read (.object [] key :: stack) .value rest := by
  cases stack <;> rfl

theorem read_next_key (key last : TextToken) (value : Outline)
    (held : List (TextToken × Outline)) :
    read (.object held last :: stack) (.more value) (.comma :: .text key :: .colon :: rest) =
      read (.object ((last, value) :: held) key :: stack) .value rest := by
  cases stack <;> rfl

mutual

/-- The tokens of a written value are read as its outline. -/
theorem read_tokens (value : Value) {stack base : List Frame} {due : Due}
    (opens : Opens stack due base) (rest : List Token) :
    read stack due (value.tokens ++ rest) = read base (.more value.outline) rest :=
  match value with
  | .null => read_start opens nofun rfl
  | .natural n => read_start opens nofun rfl
  | .text content => read_start opens nofun rfl
  | .list [] => by
      rw [Value.tokens, List.cons_append, List.singleton_append, read_list_start opens]
      cases base <;> rfl
  | .list (item :: items) => by
      simp only [Value.tokens, List.cons_append, List.append_assoc, List.nil_append]
      rw [read_list_start opens, read_tokens item (.firstItem base), read_restItemTokens items]
      rfl
  | .object [] => by
      rw [Value.tokens, List.cons_append, List.singleton_append, read_object_start opens]
      cases base <;> rfl
  | .object ((key, value) :: members) => by
      simp only [Value.tokens, List.cons_append, List.append_assoc, List.nil_append]
      rw [read_object_start opens, read_first_key, read_tokens value (.value _),
        read_restMemberTokens members]
      rfl

theorem read_restItemTokens (items : List Value) (held : List Outline) (last : Outline)
    (stack : List Frame) (rest : List Token) :
    read (.list held :: stack) (.more last) (restItemTokens items ++ .closeList :: rest) =
      read stack (.more (.list ((last :: held).reverse ++ itemOutlines items) .closed)) rest :=
  match items with
  | [] => by
      rw [itemOutlines, List.append_nil]
      rfl
  | item :: items => by
      simp only [restItemTokens, List.cons_append, List.append_assoc]
      rw [read_next_item, read_tokens item (.nextItem _ _), read_restItemTokens items,
        itemOutlines, List.reverse_cons, List.append_assoc]
      rfl

theorem read_restMemberTokens (members : List (String × Value))
    (held : List (TextToken × Outline)) (key : TextToken) (last : Outline) (stack : List Frame)
    (rest : List Token) :
    read (.object held key :: stack) (.more last)
        (restMemberTokens members ++ .closeObject :: rest) =
      read stack
        (.more (.object (((key, last) :: held).reverse ++ memberOutlines members) .closed)) rest :=
  match members with
  | [] => by
      rw [memberOutlines, List.append_nil]
      rfl
  | (next, value) :: members => by
      simp only [restMemberTokens, List.cons_append, List.append_assoc]
      rw [read_next_key, read_tokens value (.value _), read_restMemberTokens members,
        memberOutlines, List.reverse_cons, List.append_assoc]
      rfl

end

end Outline

/-- A written value is read as its outline, and nothing is left over. -/
theorem outline_chars (layout : Layout) (value : Value) :
    outline (value.chars layout 0) = (value.outline, []) := by
  have tokens : lex (value.chars layout 0) = value.tokens := by
    have tokens := lex_chars layout 0 value apart_nil
    rwa [List.append_nil, lex_nil, List.append_nil] at tokens
  have read := Outline.read_tokens value (.value []) []
  rw [List.append_nil] at read
  rw [outline, tokens, read]
  rfl

end DepositDirectory.Json
