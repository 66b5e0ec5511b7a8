import DepositDirectory.Json.Lexer

/-!
# Outlines of JSON text

An outline is the tree of lists and objects that the tokens of a text spell, with the strings and
the numbers as they are written.  Every token list has one: where the text breaks the grammar, the
outline holds the break in that place and nothing after it.  An open list or object is kept on a
stack, so that each token is looked at once.
-/

namespace DepositDirectory.Json

/-- How a list or an object ends: with its bracket, or with what breaks it off. -/
inductive Tail where
  | closed
  /-- The text ends where a comma or the bracket is due, or right after the opening brace. -/
  | cut
  /-- Something other than a comma or the bracket follows an element. -/
  | noComma
  /-- The bracket follows a comma. -/
  | danglingComma
  /-- The text ends after a comma where a key is due. -/
  | danglingCut
  /-- Something other than a string stands where a key is due. -/
  | noKey
  deriving DecidableEq

/-- The tree that a JSON text spells. -/
inductive Outline where
  | null
  | bool (value : Bool)
  | text (token : TextToken)
  | number (token : NumberToken)
  | list (items : List Outline) (tail : Tail)
  | object (members : List (TextToken × Outline)) (tail : Tail)
  /-- A word or a number that breaks off. -/
  | misspelt (found : Instead)
  | brokenNumber (found : Instead)
  /-- A value is due here. -/
  | absent (found : Instead)
  /-- The colon between a key and its value is due here. -/
  | noColon (found : Instead)

namespace Outline

/-- An open list or object: what it holds so far, the latest first. -/
inductive Frame where
  | list (held : List Outline)
  | object (held : List (TextToken × Outline)) (key : TextToken)

def Frame.close (last : Outline) (tail : Tail) : Frame → Outline
  | .list held => .list (last :: held).reverse tail
  | .object held key => .object ((key, last) :: held).reverse tail

def breakAt (last : Outline) (stack : List Frame) : Outline :=
  stack.foldl (fun inner frame => frame.close inner .cut) last

/-- What the next token is read as. -/
inductive Due where
  /-- A value. -/
  | value
  /-- The first element of a list, or its end. -/
  | firstItem
  /-- An element of a list after a comma. -/
  | nextItem (held : List Outline)
  /-- The first key of an object, or its end. -/
  | firstKey
  /-- A key after a comma. -/
  | nextKey (held : List (TextToken × Outline))
  /-- The colon after a key. -/
  | colon (held : List (TextToken × Outline)) (key : TextToken)
  /-- A comma or the end of the innermost list or object, after an element of it. -/
  | more (last : Outline)

/-- Where the reading of an outline stands after a token. -/
inductive Step where
  | go (stack : List Frame) (due : Due)
  | stop (whole : Outline)

def startValue (stack : List Frame) : Token → Step
  | .openList => .go stack .firstItem
  | .openObject => .go stack .firstKey
  | .null => .go stack (.more .null)
  | .bool value => .go stack (.more (.bool value))
  | .text token => .go stack (.more (.text token))
  | .number token => .go stack (.more (.number token))
  | .misspelt found => .stop (breakAt (.misspelt found) stack)
  | .brokenNumber found => .stop (breakAt (.brokenNumber found) stack)
  | .closeList => .stop (breakAt (.absent .other) stack)
  | .closeObject => .stop (breakAt (.absent .other) stack)
  | .comma => .stop (breakAt (.absent .other) stack)
  | .colon => .stop (breakAt (.absent .other) stack)
  | .junk => .stop (breakAt (.absent .other) stack)

def stepAfter (last : Outline) : List Frame → Token → Step
  | [], _ => .stop last
  | .list held :: outer, .comma => .go outer (.nextItem (last :: held))
  | .list held :: outer, .closeList => .go outer (.more (.list (last :: held).reverse .closed))
  | .object held key :: outer, .comma => .go outer (.nextKey ((key, last) :: held))
  | .object held key :: outer, .closeObject =>
      .go outer (.more (.object ((key, last) :: held).reverse .closed))
  | frame :: outer, _ => .stop (breakAt (frame.close last .noComma) outer)

def step (stack : List Frame) : Due → Token → Step
  | .value, token => startValue stack token
  | .firstItem, .closeList => .go stack (.more (.list [] .closed))
  | .firstItem, token => startValue (.list [] :: stack) token
  | .nextItem held, .closeList => .stop (breakAt (.list held.reverse .danglingComma) stack)
  | .nextItem held, token => startValue (.list held :: stack) token
  | .firstKey, .closeObject => .go stack (.more (.object [] .closed))
  | .firstKey, .text key => .go stack (.colon [] key)
  | .firstKey, _ => .stop (breakAt (.object [] .noKey) stack)
  | .nextKey held, .closeObject => .stop (breakAt (.object held.reverse .danglingComma) stack)
  | .nextKey held, .text key => .go stack (.colon held key)
  | .nextKey held, _ => .stop (breakAt (.object held.reverse .noKey) stack)
  | .colon held key, .colon => .go (.object held key :: stack) .value
  | .colon held key, _ => .stop (breakAt (.noColon .other) (.object held key :: stack))
  | .more last, token => stepAfter last stack token

def atEnd (stack : List Frame) : Due → Outline
  | .value => breakAt (.absent .theEnd) stack
  | .firstItem => breakAt (.list [] .cut) stack
  | .nextItem held => breakAt (.absent .theEnd) (.list held :: stack)
  | .firstKey => breakAt (.object [] .cut) stack
  | .nextKey held => breakAt (.object held.reverse .danglingCut) stack
  | .colon held key => breakAt (.noColon .theEnd) (.object held key :: stack)
  | .more last => breakAt last stack

def finished? : List Frame → Due → Option Outline
  | [], .more last => some last
  | _, _ => none

/-- Read tokens as the outline of one value; the tokens after it are left over. -/
def read (stack : List Frame) (due : Due) : List Token → Outline × List Token
  | [] => (atEnd stack due, [])
  | token :: rest =>
      match finished? stack due with
      | some whole => (whole, token :: rest)
      | none =>
          match step stack due token with
          | .go stack due => read stack due rest
          | .stop whole => (whole, [])

end Outline

def outline (cs : List Char) : Outline × List Token :=
  Outline.read [] .value (lex cs)

end DepositDirectory.Json
