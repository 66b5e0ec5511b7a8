import DepositDirectory.Log.Line
import DepositDirectory.Log.Pattern
import DepositDirectory.Text.Alphanumeric
import DepositDirectory.Text.Blank
import DepositDirectory.Text.Lowercase
import DepositDirectory.Text.Numeral
import DepositDirectory.Text.Split

/-!
# Log filters

A filter is written as directives with commas between them.  A directive names the start of the
paths that it is about and the least level that it lets through; it may be narrowed to spans or
fields.  Of the directives about a line the most specific decides, the last of equals, and without
one the line is dropped.  Some directives with blanks in front cannot be read at all: a part of them
would start or end within a character.
-/

namespace DepositDirectory.Log

/-- The least level that is let through, if any is. -/
inductive Threshold where
  | off
  | atLeast (level : Level)
  deriving DecidableEq

namespace Threshold

def admits : Threshold → Level → Bool
  | off, _ => false
  | .atLeast least, level => least.rank ≤ level.rank

def numbered : List Threshold :=
  [off, .atLeast .error, .atLeast .warn, .atLeast .info, .atLeast .debug, .atLeast .trace]

def name : Threshold → String
  | off => "OFF"
  | .atLeast level => level.label

def ofChars? (cs : List Char) : Option Threshold :=
  match Text.readNumeral Text.maxWord64 cs with
  | .ok n => numbered[n]?
  | .error _ =>
      numbered.find? fun threshold => Text.asciiLower threshold.name.toList = Text.asciiLower cs

end Threshold

/-- One directive of a filter. -/
structure Directive where
  /-- The start of the paths that it is about. -/
  target : List Char
  /-- The fields that a line must have. -/
  fields : List (List Char)
  /-- Whether it is only about lines inside certain spans. -/
  inSpan : Bool
  threshold : Threshold
  deriving DecidableEq

namespace Directive

def isStart (c : Char) : Bool :=
  Text.isAlphanumeric c || c = '-' || c = ':' || c = '_'

/-- The directive about all lines, all of which it lets through. -/
def all : Directive := ⟨[], [], false, .atLeast .trace⟩

/-- Why a text is no directive. -/
inductive Fault where
  | malformed
  /-- A part of it would start or end within a character. -/
  | torn
  deriving DecidableEq

def fromByte : Nat → List Char → Except Fault (List Char)
  | 0, cs => .ok cs
  | _ + 1, [] => .error .torn
  | offset + 1, c :: cs =>
      if c.utf8Size ≤ offset + 1 then fromByte (offset + 1 - c.utf8Size) cs else .error .torn

def beforeByte : Nat → List Char → Except Fault (List Char)
  | 0, _ => .ok []
  | _ + 1, [] => .error .torn
  | offset + 1, c :: cs =>
      if c.utf8Size ≤ offset + 1 then
        (beforeByte (offset + 1 - c.utf8Size) cs).map (c :: ·)
      else .error .torn

def between (start stop : Nat) (cs : List Char) : Except Fault (List Char) := do
  beforeByte (stop - start) (← fromByte start cs)

/-- The part of a directive that is being read, with the offset in bytes at which it starts. -/
inductive Part where
  | start
  /-- What the directive is about, or its level alone. -/
  | subject (offset : Nat)
  | span (offset : Nat)
  | field (offset : Nat)
  /-- After a field. -/
  | fields
  /-- After the brackets. -/
  | narrowed
  | level (offset : Nat)
  deriving DecidableEq

def narrow (directive : Directive) (field : List Char) : Except Fault Directive :=
  let name := field.takeWhile (· ≠ '=')
  let named := { directive with fields := directive.fields ++ [name] }
  match field.dropWhile (· ≠ '=') with
  | [] => if field = [] then .error .malformed else .ok named
  | _ :: value =>
      if isFieldValue (value.takeWhile (· ≠ '=')) then .ok { named with inSpan := true }
      else .error .malformed

/-- Read the character at an offset; the parts are cut out of the text `whole`. -/
def step (whole : List Char) (offset : Nat) (c : Char) (part : Part) (directive : Directive) :
    Except Fault (Part × Directive) := do
  match part, c with
  | .start, '[' => return (.span (offset + 1), directive)
  | .start, _ => if isStart c then return (.subject offset, directive) else throw .malformed
  | .subject start, '=' =>
      return (.level (offset + 1), { directive with target := ← between start offset whole })
  | .subject start, '[' =>
      return (.span (offset + 1), { directive with target := ← between start offset whole })
  | .subject start, _ => return (.subject start, directive)
  | .span start, ']' =>
      discard (between start offset whole)
      return (.narrowed, { directive with inSpan := true })
  | .span start, '\x7b' =>
      let name ← between start offset whole
      return (.field (offset + 1), { directive with inSpan := name ≠ [] })
  | .span start, _ => return (.span start, directive)
  | .field start, '\x7d' => return (.fields, ← directive.narrow (← between start offset whole))
  | .field start, _ => return (.field start, directive)
  | .fields, ']' => return (.narrowed, directive)
  | .narrowed, '=' => return (.level (offset + 1), directive)
  | .level start, _ => return (.level start, directive)
  | _, _ => throw .malformed

def readFrom (whole : List Char) : (offset : Nat) → Part → Directive → List Char →
    Except Fault (Part × Directive)
  | _, part, directive, [] => .ok (part, directive)
  | offset, part, directive, c :: rest => do
      let (part, directive) ← step whole offset c part directive
      readFrom whole (offset + c.utf8Size) part directive rest

/--
Read a directive: a level alone, or a subject with or without a level.  Blanks around it are passed
over as it is read, but the offsets of its parts count from the front of the whole text.
-/
def ofChars (cs : List Char) : Except Fault Directive := do
  match ← readFrom cs 0 .start all (Text.trimChars cs) with
  | (.subject start, directive) =>
      let name ← fromByte start cs
      match Threshold.ofChars? name with
      | some threshold => return { directive with threshold := threshold }
      | none => return { directive with target := name }
  | (.level start, directive) =>
      match ← fromByte start cs with
      | [] => return directive
      | name =>
          match Threshold.ofChars? name with
          | some threshold => return { directive with threshold := threshold }
          | none => throw .malformed
  | (.narrowed, directive) => return directive
  | _ => throw .malformed

def isAbout (directive : Directive) (source : Source) : Bool :=
  directive.target.isPrefixOf source.path.toList && !directive.inSpan &&
    directive.fields.all fun field => field = "message".toList

def outranks (a b : Directive) : Bool :=
  b.target.length < a.target.length ||
    (a.target.length = b.target.length && b.fields.length < a.fields.length)

end Directive

abbrev Filter := List Directive

namespace Filter

def pieces (text : String) : List (List Char) :=
  (Text.splitAt ',' text.toList).filter (· ≠ [])

/-- Read a filter; the first directive with a fault decides. -/
def read (text : String) : Except Directive.Fault Filter :=
  (pieces text).mapM Directive.ofChars

/-- Read a filter and pass over malformed directives; there is none where one is torn. -/
def readLeniently? (text : String) : Option Filter :=
  (pieces text).foldrM (fun piece filter =>
    match Directive.ofChars piece with
    | .ok directive => some (directive :: filter)
    | .error .malformed => some filter
    | .error .torn => none) []

def decisive? (filter : Filter) (source : Source) : Option Directive :=
  (filter.filter (·.isAbout source)).foldl (fun best next =>
    match best with
    | none => some next
    | some held => if held.outranks next then some held else some next) none

def admits (filter : Filter) (line : Line) : Bool :=
  match filter.decisive? line.source with
  | some directive => directive.threshold.admits line.level
  | none => false

/--
The filter of a preferred text, if there is one and it is well formed, else of another text.  There
is none where a directive is torn.
-/
def choose? (preferred : Option String) (fallback : String) : Option Filter :=
  match preferred.map read with
  | some (.ok filter) => some filter
  | some (.error .torn) => none
  | _ => readLeniently? fallback

end Filter

end DepositDirectory.Log
