import DepositDirectory.Json.Shape
import DepositDirectory.Proofs.Json.Outlines

/-!
# Reading what a shape writes

A value that is written by its shape is read back by it, if no record of the shape names two fields
alike: each member then finds the slot of its own field and no other.  An optional value that is
there is never written as `null`, so it is not taken for an absent one.
-/

namespace DepositDirectory.Json

/-! ## Fields that are told apart -/

def Fields.names : Fields → List String
  | .nil => []
  | .cons name _ _ rest => name :: rest.names

mutual

def Shape.Distinct : Shape → Prop
  | .text => True
  | .word32 => True
  | .list item => item.Distinct
  | .record _ fields => fields.names.Nodup ∧ fields.Distinct

/-- No record inside the fields names two fields alike. -/
def Fields.Distinct : Fields → Prop
  | .nil => True
  | .cons _ _ shape rest => shape.Distinct ∧ rest.Distinct

end

/-! ## Values that stand alone -/

theorem Shape.outline_write_ne_null (shape : Shape) (content : shape.Content) :
    (shape.write content).outline ≠ .null := by
  cases shape with
  | text => exact nofun
  | word32 => exact nofun
  | list item => exact nofun
  | record name fields => exact nofun

theorem readWord32_of_integer {token : NumberToken} {value : Int}
    (integer : token.value = .ok (.integer value)) (inRange : 0 ≤ value ∧ value < Nat.pow 2 32) :
    readWord32 (.number token) = .ok (UInt32.ofNat value.toNat) := by
  rw [readWord32, integer]
  exact if_pos inRange

theorem readWord32_written (n : UInt32) :
    readWord32 (Value.natural n.toNat).outline = .ok n := by
  have limit : Nat.pow 2 32 = 4294967296 := rfl
  have widerLimit : Text.maxWord64 = 18446744073709551615 := rfl
  have small : n.toNat < 4294967296 := n.toNat_lt
  have integer : (numberToken n.toNat).value = .ok (.integer n.toNat) :=
    numberToken_value (by omega)
  rw [Value.outline, readWord32_of_integer integer (by omega), Int.toNat_natCast,
    UInt32.ofNat_toNat]

section

variable {α : Type} {readValue : Outline → Except Fault α} {writeValue : α → Value}

theorem readItems_written (each : ∀ value, readValue (writeValue value).outline = .ok value)
    (values : List α) :
    readItems readValue (itemOutlines (values.map writeValue)) = .ok values := by
  induction values with
  | nil => rfl
  | cons value values ih =>
      rw [List.map_cons, itemOutlines, readItems, each, ih]
      rfl

theorem readList_written (each : ∀ value, readValue (writeValue value).outline = .ok value)
    (values : List α) :
    readList readValue (Value.list (values.map writeValue)).outline = .ok values := by
  rw [Value.outline, readList, readItems_written each]
  rfl

/-- What a field is written as, from what its shape is written as. -/
def Presence.write (writeValue : α → Value) : (presence : Presence) → presence.Content α → Value
  | .must, value => writeValue value
  | .optional, value => value.elim .null writeValue
  | .nullable, value => value.elim .null writeValue
  | .many, values => .list (values.map writeValue)

/-- A value that is there and is not written as `null` is read back as one that is there. -/
theorem Presence.read_present {outline : Outline} {value : α}
    (read : readValue outline = .ok value) (filled : outline ≠ .null) :
    Presence.optional.read readValue outline = .ok (some value) ∧
      Presence.nullable.read readValue outline = .ok (some value) := by
  have present : (readValue outline).map some = .ok (some value) := by
    rw [read]
    rfl
  cases outline with
  | null => exact absurd rfl filled
  | _ => exact ⟨present, present⟩

/-- A field is read back if its shape is, and never writes `null`. -/
theorem Presence.read_write (each : ∀ value, readValue (writeValue value).outline = .ok value)
    (filled : ∀ value, (writeValue value).outline ≠ .null) (presence : Presence)
    (value : presence.Content α) :
    presence.read readValue (presence.write writeValue value).outline = .ok value := by
  cases presence with
  | must => exact each value
  | optional =>
      cases value with
      | none => rfl
      | some value => exact (read_present (each value) (filled value)).1
  | nullable =>
      cases value with
      | none => rfl
      | some value => exact (read_present (each value) (filled value)).2
  | many => exact readList_written each value

end

/-! ## Records -/

def Fields.readMembers (fields : Fields) (members : List (TextToken × Outline))
    (slots : fields.Slots) : Except Fault fields.Slots :=
  members.foldlM (fun slots (key, member) => do
    fields.readMember (← key.value) member slots) slots

/-- The slots of a record of which every field has been read. -/
def Fields.filledSlots : (fields : Fields) → fields.Content → fields.Slots
  | .nil, () => ()
  | .cons _ _ _ rest, (value, others) => (some value, rest.filledSlots others)

theorem Fields.complete_filledSlots : (fields : Fields) → (content : fields.Content) →
    fields.complete (fields.filledSlots content) = .ok content
  | .nil, () => rfl
  | .cons _ _ _ rest, (value, others) => by
      rw [filledSlots, complete, rest.complete_filledSlots others]
      rfl

theorem Fields.write_cons (name : String) (presence : Presence) (shape : Shape) (rest : Fields)
    (value : presence.Content shape.Content) (others : rest.Content) :
    (Fields.cons name presence shape rest).write (value, others) =
      (name, presence.write shape.write value) :: rest.write others := by
  cases presence <;> rfl

theorem Fields.names_write : (fields : Fields) → (content : fields.Content) →
    (fields.write content).map Prod.fst = fields.names
  | .nil, () => rfl
  | .cons name presence shape rest, (value, others) => by
      rw [write_cons, List.map_cons, rest.names_write others, names]

theorem Fields.readMembers_cons (fields : Fields) (key : String) (value : Value)
    (members : List (String × Value)) (slots : fields.Slots) :
    fields.readMembers (memberOutlines ((key, value) :: members)) slots =
      (fields.readMember key value.outline slots).bind
        (fields.readMembers (memberOutlines members)) := by
  have first : (do fields.readMember (← (textToken key).value) value.outline slots) =
      fields.readMember key value.outline slots := by
    rw [textToken_value]
    rfl
  rw [← first, readMembers, memberOutlines, List.foldlM_cons]
  rfl

section

variable {name : String} {presence : Presence} {shape : Shape} {rest : Fields}

/-- The slots of a record from that of the first field and those of the others. -/
def Fields.slotsOf (slot : Option (presence.Content shape.Content)) (slots : rest.Slots) :
    (Fields.cons name presence shape rest).Slots :=
  (slot, slots)

theorem Fields.readMember_other {key : String} (other : key ≠ name) (value : Outline)
    (slot : Option (presence.Content shape.Content)) (slots : rest.Slots) :
    (Fields.cons name presence shape rest).readMember key value (slotsOf slot slots) =
      (rest.readMember key value slots).map (slotsOf slot) :=
  (readMember.eq_def _ _ _ _).trans (if_neg other)

variable (name) in
theorem Fields.readMember_own {value : Outline} {content : presence.Content shape.Content}
    (read : presence.read shape.read value = .ok content) (slots : rest.Slots) :
    (Fields.cons name presence shape rest).readMember name value (slotsOf none slots) =
      .ok (slotsOf (some content) slots) := by
  refine (readMember.eq_def _ _ _ _).trans ((if_pos rfl).trans ?_)
  dsimp only [slotsOf]
  rw [read]
  rfl

theorem Fields.readMembers_others {members : List (String × Value)}
    (other : name ∉ members.map Prod.fst) (slot : Option (presence.Content shape.Content))
    (slots : rest.Slots) :
    (Fields.cons name presence shape rest).readMembers (memberOutlines members)
        (slotsOf slot slots) =
      (rest.readMembers (memberOutlines members) slots).map (slotsOf slot) := by
  induction members generalizing slots with
  | nil => rfl
  | cons member members ih =>
      obtain ⟨key, value⟩ := member
      rw [List.map_cons, List.mem_cons, not_or] at other
      rw [readMembers_cons, readMembers_cons, readMember_other (Ne.symm other.1)]
      cases rest.readMember key value.outline slots with
      | error fault => rfl
      | ok slots => exact ih other.2 slots

end

mutual

theorem Shape.read_write (shape : Shape) (distinct : shape.Distinct) (content : shape.Content) :
    shape.read (shape.write content).outline = .ok content :=
  match shape with
  | .text => textToken_value content
  | .word32 => readWord32_written content
  | .list item => readList_written (item.read_write distinct) content
  | .record name fields => by
      have members := fields.readMembers_write distinct.1 distinct.2 content
      have completed := fields.complete_filledSlots content
      change (fields.readMembers (memberOutlines (fields.write content)) fields.emptySlots).bind
        fields.complete = .ok content
      rw [members]
      exact completed

/-- What the fields of a record write fills their slots. -/
theorem Fields.readMembers_write (fields : Fields) (apart : fields.names.Nodup)
    (distinct : fields.Distinct) (content : fields.Content) :
    fields.readMembers (memberOutlines (fields.write content)) fields.emptySlots =
      .ok (fields.filledSlots content) :=
  match fields with
  | .nil => rfl
  | .cons name presence shape rest => by
      obtain ⟨value, others⟩ := content
      obtain ⟨new, apart⟩ := List.nodup_cons.mp apart
      -- The first member fills the slot of this field, and the others pass it by.
      have own : presence.read shape.read (presence.write shape.write value).outline = .ok value :=
        presence.read_write (shape.read_write distinct.1) shape.outline_write_ne_null value
      have members := rest.readMembers_write apart distinct.2 others
      have other : name ∉ (rest.write others).map Prod.fst := by
        rw [rest.names_write]
        exact new
      have first := Fields.readMember_own name own rest.emptySlots
      have further := Fields.readMembers_others other (some value) rest.emptySlots
      rw [members] at further
      rw [Fields.write_cons, Fields.readMembers_cons]
      change ((Fields.cons name presence shape rest).readMember name _
        (Fields.slotsOf none rest.emptySlots)).bind _ = _
      rw [first]
      exact further

end

/-- A written value of a type is read back as that value, in either layout. -/
theorem parseAs_chars {α : Type} [Form α] (distinct : (Form.shape α).Distinct) (layout : Layout)
    (value : α) : parseAs α ((toJson value).chars layout 0) = .ok value := by
  have read := (Form.shape α).read_write distinct (Form.content value)
  rw [parseAs, Shape.parse, outline_chars]
  change (((Form.shape α).read ((Form.shape α).write (Form.content value)).outline).bind
    pure).map Form.ofContent = _
  rw [read]
  exact congrArg Except.ok (Form.ofContent_content value)

end DepositDirectory.Json
