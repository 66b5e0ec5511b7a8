import DepositDirectory.Json.Outline
import DepositDirectory.Json.Scalar
import DepositDirectory.Json.Value

/-!
# Shapes of JSON values

A shape says what a JSON value looks like: a text, a number of 32 bits, a list, or a record with
named fields.  From its shape a value is read and written.  A record is read from an object, in any
order and with members it does not name passed over, or from a list of its fields in order.
-/

namespace DepositDirectory.Json

/-- Whether a field of a record may be left out, and what it holds then. -/
inductive Presence where
  /-- Always there. -/
  | must
  /-- An optional value; absent when left out. -/
  | optional
  /-- An optional value; absent when left out of an object, but due in a list of fields. -/
  | nullable
  /-- A list; empty when left out. -/
  | many
  deriving DecidableEq

mutual

/-- What a JSON value looks like. -/
inductive Shape where
  | text
  | word32
  | list (item : Shape)
  | record (name : String) (fields : Fields)

/-- The fields of a record in order. -/
inductive Fields where
  | nil
  | cons (name : String) (presence : Presence) (shape : Shape) (rest : Fields)

end

/-- What a field of the presence holds, from what its shape holds. -/
def Presence.Content (content : Type) : Presence → Type
  | .must => content
  | .optional => Option content
  | .nullable => Option content
  | .many => List content

mutual

def Shape.Content : Shape → Type
  | .text => String
  | .word32 => UInt32
  | .list item => List item.Content
  | .record _ fields => fields.Content

def Fields.Content : Fields → Type
  | .nil => Unit
  | .cons _ presence shape rest => presence.Content shape.Content × rest.Content

end

def Fields.Slots : Fields → Type
  | .nil => Unit
  | .cons _ presence shape rest => Option (presence.Content shape.Content) × rest.Slots

def Fields.emptySlots : (fields : Fields) → fields.Slots
  | .nil => ()
  | .cons _ _ _ rest => (none, rest.emptySlots)

def Fields.count : Fields → Nat
  | .nil => 0
  | .cons _ _ _ rest => rest.count + 1

def Presence.absent? {content : Type} : (presence : Presence) → Option (presence.Content content)
  | .must => none
  | .optional => some none
  | .nullable => some none
  | .many => some []

def Presence.untold? {content : Type} : (presence : Presence) → Option (presence.Content content)
  | .must => none
  | .optional => some none
  | .nullable => none
  | .many => some []

/-! ## Breaks of the grammar -/

def Instead.noValue : Instead → Fault
  | .theEnd => .endInValue
  | .other => .expectedValue

def Instead.noWord : Instead → Fault
  | .theEnd => .endInValue
  | .other => .expectedWord

def Instead.noNumber : Instead → Fault
  | .theEnd => .endInValue
  | .other => .invalidNumber

def Instead.noColon : Instead → Fault
  | .theEnd => .endInObject
  | .other => .expectedColon

/-- The cause that the end of a list gives, if it is no bracket. -/
def Tail.listFault? : Tail → Option Fault
  | .closed => none
  | .danglingComma => some .trailingComma
  | .noComma => some .expectedCommaOrListEnd
  | .cut => some .endInList
  | .danglingCut => some .endInList
  | .noKey => some .endInList

/-- The cause that the end of an object gives, if it is no brace. -/
def Tail.objectFault? : Tail → Option Fault
  | .closed => none
  | .danglingComma => some .trailingComma
  | .noComma => some .expectedCommaOrObjectEnd
  | .cut => some .endInObject
  | .danglingCut => some .endInValue
  | .noKey => some .keyNotText

/-! ## Values that are passed over -/

def Tail.skippedListFault? : Tail → Option Fault
  | .danglingComma => some .expectedValue
  | tail => tail.listFault?

def Tail.skippedObjectFault? : Tail → Option Fault
  | .danglingComma => some .keyNotText
  | .danglingCut => some .endInObject
  | tail => tail.objectFault?

def refuse : Option Fault → Except Fault Unit
  | some fault => .error fault
  | none => .ok ()

mutual

/-- Check the grammar of a value that nothing asks for. -/
def Outline.skip : Outline → Except Fault Unit
  | .null => .ok ()
  | .bool _ => .ok ()
  | .text token => refuse token.ending.fault?
  | .number _ => .ok ()
  | .list items tail => do
      skipItems items
      refuse tail.skippedListFault?
  | .object members tail => do
      skipMembers members
      refuse tail.skippedObjectFault?
  | .misspelt found => .error found.noWord
  | .brokenNumber _ => .error .invalidNumber
  | .absent found => .error found.noValue
  | .noColon found => .error found.noColon

def skipItems : List Outline → Except Fault Unit
  | [] => .ok ()
  | item :: rest => do
      item.skip
      skipItems rest

def skipMembers : List (TextToken × Outline) → Except Fault Unit
  | [] => .ok ()
  | (key, value) :: rest => do
      refuse key.ending.fault?
      value.skip
      skipMembers rest

end

/-! ## Reading -/

/--
Fail because a value of another kind than `wanted` stands here, unless the value itself is broken.
-/
def Outline.refuse {α : Type} (wanted : String) : Outline → Except Fault α
  | .null => .error (.wrongType .null wanted)
  | .bool value => .error (.wrongType (.bool value) wanted)
  | .text token => do
      let content ← token.value
      .error (.wrongType (.text content) wanted)
  | .number token => do
      let number ← token.value
      .error (.wrongType number.found wanted)
  | .list _ _ => .error (.wrongType .sequence wanted)
  | .object _ _ => .error (.wrongType .map wanted)
  | .misspelt found => .error found.noWord
  | .brokenNumber found => .error found.noNumber
  | .absent found => .error found.noValue
  | .noColon found => .error found.noColon

def readTextValue : Outline → Except Fault String
  | .text token => token.value
  | other => other.refuse "a string"

def readWord32 : Outline → Except Fault UInt32
  | .number token => do
      match ← token.value with
      | .integer value =>
          if 0 ≤ value ∧ value < Nat.pow 2 32 then .ok (UInt32.ofNat value.toNat)
          else .error (.wrongInteger value "u32")
      | .float value => .error (.wrongType (Number.float value).found "u32")
  | other => other.refuse "u32"

def readItems {α : Type} (readItem : Outline → Except Fault α) :
    List Outline → Except Fault (List α)
  | [] => .ok []
  | item :: rest => do
      let first ← readItem item
      return first :: (← readItems readItem rest)

def readList {α : Type} (readItem : Outline → Except Fault α) : Outline → Except Fault (List α)
  | .list items tail => do
      let values ← readItems readItem items
      refuse tail.listFault?
      return values
  | other => other.refuse "a sequence"

def Presence.read {α : Type} (readValue : Outline → Except Fault α) :
    (presence : Presence) → Outline → Except Fault (presence.Content α)
  | .must, value => readValue value
  | .optional, .null => .ok none
  | .optional, value => (readValue value).map some
  | .nullable, .null => .ok none
  | .nullable, value => (readValue value).map some
  | .many, value => readList readValue value

/--
Complete a record from its fields so far; the first field that is due and missing is the cause.
-/
def Fields.complete : (fields : Fields) → fields.Slots → Except Fault fields.Content
  | .nil, () => .ok ()
  | .cons _ _ _ rest, (some value, slots) => do
      return (value, ← rest.complete slots)
  | .cons name presence _ rest, (none, slots) =>
      match presence.absent? with
      | some value => do return (value, ← rest.complete slots)
      | none => .error (.missingField name)

/-- The cause that a list of fields gives when it goes on after the last field. -/
def Tail.recordFault? : Tail → Option Fault
  | .closed => none
  | .danglingComma => some .trailingComma
  | .cut => some .endInList
  | _ => some .trailingCharacters

mutual

def Shape.read : (shape : Shape) → Outline → Except Fault shape.Content
  | .text, value => readTextValue value
  | .word32, value => readWord32 value
  | .list item, value => readList item.read value
  | .record name fields, value =>
      match value with
      | .object members tail => do
          let slots ← members.foldlM (fun slots (key, member) => do
            fields.readMember (← key.value) member slots) fields.emptySlots
          Json.refuse tail.objectFault?
          fields.complete slots
      | .list items tail => fields.readInOrder name fields.count 0 items tail
      | other => other.refuse ("struct " ++ name)

/-- Read one member of an object: into the field of its name, once, or past it. -/
def Fields.readMember : (fields : Fields) → String → Outline → fields.Slots →
    Except Fault fields.Slots
  | .nil, _, value, () => value.skip
  | .cons name presence shape rest, key, value, (slot, slots) =>
      if key = name then
        match slot with
        | some _ => .error (.duplicateField name)
        | none => do return (some (← presence.read shape.read value), slots)
      else do
        return (slot, ← rest.readMember key value slots)

/-- Read the fields in order from the elements of a list, `passed` of them being behind. -/
def Fields.readInOrder (name : String) (needed passed : Nat) :
    (fields : Fields) → List Outline → Tail → Except Fault fields.Content
  | .nil, [], tail => Json.refuse tail.recordFault?
  | .nil, _ :: _, _ => .error .trailingCharacters
  | .cons _ presence shape rest, item :: items, tail => do
      let value ← presence.read shape.read item
      return (value, ← rest.readInOrder name needed (passed + 1) items tail)
  | .cons _ presence _ rest, [], tail => do
      Json.refuse tail.listFault?
      match presence.untold? with
      | some value => return (value, ← rest.readInOrder name needed (passed + 1) [] tail)
      | none => .error (.tooFewElements passed name needed)

end

/-! ## Writing -/

mutual

def Shape.write : (shape : Shape) → shape.Content → Value
  | .text, content => .text content
  | .word32, n => .natural n.toNat
  | .list item, items => .list (items.map item.write)
  | .record _ fields, content => .object (fields.write content)

def Fields.write : (fields : Fields) → fields.Content → List (String × Value)
  | .nil, () => []
  | .cons name .must shape rest, (value, others) =>
      (name, shape.write value) :: rest.write others
  | .cons name .optional shape rest, (value, others) =>
      (name, value.elim .null shape.write) :: rest.write others
  | .cons name .nullable shape rest, (value, others) =>
      (name, value.elim .null shape.write) :: rest.write others
  | .cons name .many shape rest, (values, others) =>
      (name, .list (values.map shape.write)) :: rest.write others

end

def Shape.parse (shape : Shape) (cs : List Char) : Except Fault shape.Content := do
  let content ← shape.read (outline cs).1
  if (outline cs).2.isEmpty then return content else throw .trailingCharacters

/-! ## Types with a JSON form -/

/-- A type whose values are written as, and read from, JSON of one shape. -/
class Form (α : Type) where
  shape : Shape
  content : α → shape.Content
  ofContent : shape.Content → α
  ofContent_content : ∀ value, ofContent (content value) = value

def toJson {α : Type} [Form α] (value : α) : Value :=
  (Form.shape α).write (Form.content value)

/-- Read a text as a value, or say why it is none. -/
def parseAs (α : Type) [Form α] (cs : List Char) : Except Fault α :=
  ((Form.shape α).parse cs).map Form.ofContent

instance {α : Type} [Form α] : Form (List α) where
  shape := .list (Form.shape α)
  content := List.map Form.content
  ofContent := List.map Form.ofContent
  ofContent_content := fun values => by
    simp [Function.comp_def, Form.ofContent_content]

end DepositDirectory.Json
