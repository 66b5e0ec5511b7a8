import DepositDirectory.Proofs.Json.Accepted
import Mathlib.Logic.Relation

/-!
# Edits that keep what a tree tells

The members of an object can come in any order; members that no field is named like can be put in
and exchanged; and what says no more than its absence can be left out.  None of this changes what a
shape reads, wherever in the tree it is done and however often.
-/

namespace DepositDirectory.Json

/-! ## Fields by name and by place -/

/-- The first field of the name: whether it may be left out, and its shape. -/
def Fields.find? (key : String) : Fields → Option (Presence × Shape)
  | .nil => none
  | .cons name presence shape rest => if key = name then some (presence, shape) else rest.find? key

def Fields.get? : Fields → Nat → Option (Presence × Shape)
  | .nil, _ => none
  | .cons _ presence shape _, 0 => some (presence, shape)
  | .cons _ _ _ rest, place + 1 => rest.get? place

/-- The shape of what is told for a field; a field that holds many is told as a list. -/
def Presence.told (shape : Shape) : Presence → Shape
  | .must => shape
  | .optional => shape
  | .nullable => shape
  | .many => .list shape

/-- What is told for a field says no more than leaving it out. -/
def Presence.IsSilent : Presence → Outline → Prop
  | .must, _ => False
  | .optional, value => value = .null
  | .nullable, value => value = .null
  | .many, value => value = .list [] .closed

/-! ## Edits -/

/-- One edit of a tree of the shape. -/
inductive Edited : Shape → Outline → Outline → Prop where
  /-- The members of an object come in another order. -/
  | permuted {name : String} {fields : Fields} {members others : List (TextToken × Outline)}
      {tail : Tail} (perm : members.Perm others) :
      Edited (.record name fields) (.object members tail) (.object others tail)
  /-- One more member is put in somewhere, whose key stands for no field; its value is anything
  whole. -/
  | inserted {name : String} {fields : Fields} {before after : List (TextToken × Outline)}
      {tail : Tail} {key : TextToken} {text : String} {value : Outline}
      (meant : key.value = .ok text) (unknown : fields.find? text = none) (whole : value.Whole) :
      Edited (.record name fields) (.object (before ++ after) tail)
        (.object (before ++ (key, value) :: after) tail)
  /-- The value of a member whose key stands for no field is exchanged. -/
  | exchanged {name : String} {fields : Fields} {before after : List (TextToken × Outline)}
      {tail : Tail} {key : TextToken} {text : String} {value other : Outline}
      (meant : key.value = .ok text) (unknown : fields.find? text = none) (whole : other.Whole) :
      Edited (.record name fields) (.object (before ++ (key, value) :: after) tail)
        (.object (before ++ (key, other) :: after) tail)
  /-- A member that says nothing is left out. -/
  | leftOut {name : String} {fields : Fields} {before after : List (TextToken × Outline)}
      {tail : Tail} {key : TextToken} {text : String} {value : Outline} {presence : Presence}
      {shape : Shape} (meant : key.value = .ok text)
      (known : fields.find? text = some (presence, shape)) (silent : presence.IsSilent value) :
      Edited (.record name fields) (.object (before ++ (key, value) :: after) tail)
        (.object (before ++ after) tail)
  /-- The value of a field is edited. -/
  | field {name : String} {fields : Fields} {before after : List (TextToken × Outline)}
      {tail : Tail} {key : TextToken} {text : String} {value other : Outline}
      {presence : Presence} {shape : Shape} (meant : key.value = .ok text)
      (known : fields.find? text = some (presence, shape))
      (inner : Edited (presence.told shape) value other) :
      Edited (.record name fields) (.object (before ++ (key, value) :: after) tail)
        (.object (before ++ (key, other) :: after) tail)
  /-- The value of a field is edited in a record that is told as a list of its fields. -/
  | place {name : String} {fields : Fields} {before after : List Outline} {tail : Tail}
      {value other : Outline} {presence : Presence} {shape : Shape}
      (known : fields.get? before.length = some (presence, shape))
      (inner : Edited (presence.told shape) value other) :
      Edited (.record name fields) (.list (before ++ value :: after) tail)
        (.list (before ++ other :: after) tail)
  /-- An element of a list is edited. -/
  | item {shape : Shape} {before after : List Outline} {tail : Tail} {value other : Outline}
      (inner : Edited shape value other) :
      Edited (.list shape) (.list (before ++ value :: after) tail)
        (.list (before ++ other :: after) tail)

theorem Edited.filled {shape : Shape} {tree other : Outline} (edited : Edited shape tree other) :
    tree ≠ .null ∧ other ≠ .null := by
  cases edited <;> exact ⟨nofun, nofun⟩

/-! ## Members of a record -/

section

variable {key name : String} {value other : Outline} {presence own : Presence}
  {shape inner : Shape} {rest : Fields}

theorem Fields.find?_cons_eq_none_iff :
    (Fields.cons name own inner rest).find? key = none ↔ key ≠ name ∧ rest.find? key = none := by
  rw [find?]
  split
  · rename_i same
    exact ⟨nofun, fun unknown => absurd same unknown.1⟩
  · rename_i alien
    exact ⟨fun unknown => ⟨alien, unknown⟩, fun unknown => unknown.2⟩

theorem Fields.find?_own (same : key = name)
    (known : (Fields.cons name own inner rest).find? key = some (presence, shape)) :
    (own, inner) = (presence, shape) := by
  rw [find?, if_pos same] at known
  exact Option.some.inj known

theorem Fields.find?_other (alien : key ≠ name)
    (known : (Fields.cons name own inner rest).find? key = some (presence, shape)) :
    rest.find? key = some (presence, shape) := by
  rwa [find?, if_neg alien] at known

theorem Fields.readMember_swap (fields : Fields) {first second : String} {one two : Outline}
    {slots middle after : fields.Slots} (former : fields.readMember first one slots = .ok middle)
    (latter : fields.readMember second two middle = .ok after) :
    ∃ between, fields.readMember second two slots = .ok between ∧
      fields.readMember first one between = .ok after :=
  match fields with
  | .nil => ⟨after, latter, former⟩
  | .cons name presence shape rest => by
      obtain ⟨slot, slots⟩ := slots
      -- They cannot both be of this field: the second would find its slot filled.
      obtain ⟨own, rfl, content, read, rfl⟩ | ⟨alien, others, read, rfl⟩ :=
        readMember_cons_eq_ok_iff.mp former
      · obtain ⟨_, filled, _⟩ | ⟨alien, others, passed, rfl⟩ :=
          readMember_cons_eq_ok_iff.mp latter
        · cases filled
        · exact ⟨slotsOf none others,
            readMember_cons_eq_ok_iff.mpr (.inr ⟨alien, others, passed, rfl⟩),
            readMember_cons_eq_ok_iff.mpr (.inl ⟨own, rfl, content, read, rfl⟩)⟩
      · obtain ⟨own, rfl, content, found, rfl⟩ | ⟨foreign, further, passed, rfl⟩ :=
          readMember_cons_eq_ok_iff.mp latter
        · exact ⟨slotsOf (some content) slots,
            readMember_cons_eq_ok_iff.mpr (.inl ⟨own, rfl, content, found, rfl⟩),
            readMember_cons_eq_ok_iff.mpr (.inr ⟨alien, others, read, rfl⟩)⟩
        · obtain ⟨between, passed, read⟩ := rest.readMember_swap read passed
          exact ⟨slotsOf slot between,
            readMember_cons_eq_ok_iff.mpr (.inr ⟨foreign, between, passed, rfl⟩),
            readMember_cons_eq_ok_iff.mpr (.inr ⟨alien, further, read, rfl⟩)⟩

theorem Fields.readMember_unknown (fields : Fields) (unknown : fields.find? key = none)
    (whole : value.Whole) (slots : fields.Slots) :
    fields.readMember key value slots = .ok slots :=
  match fields with
  | .nil => value.skip_eq_ok_iff.mpr whole
  | .cons name presence shape rest => by
      obtain ⟨slot, slots⟩ := slots
      obtain ⟨alien, unknown⟩ := find?_cons_eq_none_iff.mp unknown
      exact readMember_cons_eq_ok_iff.mpr
        (.inr ⟨alien, slots, rest.readMember_unknown unknown whole slots, rfl⟩)

/-- A field is read from another value as from its own, if its shape does so. -/
theorem Fields.readMember_replaced (fields : Fields)
    (known : fields.find? key = some (presence, shape))
    (same : ∀ {content}, presence.read shape.read value = .ok content →
      presence.read shape.read other = .ok content)
    {slots after : fields.Slots} (taken : fields.readMember key value slots = .ok after) :
    fields.readMember key other slots = .ok after :=
  match fields with
  | .nil => nomatch known
  | .cons name _ _ rest => by
      obtain ⟨slot, slots⟩ := slots
      obtain ⟨own, rfl, content, read, rfl⟩ | ⟨alien, others, read, rfl⟩ :=
        readMember_cons_eq_ok_iff.mp taken
      · cases find?_own own known
        exact readMember_cons_eq_ok_iff.mpr (.inl ⟨own, rfl, content, same read, rfl⟩)
      · have known := find?_other alien known
        exact readMember_cons_eq_ok_iff.mpr
          (.inr ⟨alien, others, rest.readMember_replaced known same read, rfl⟩)

theorem Presence.absent?_of_silent {content : presence.Content shape.Content}
    (silent : presence.IsSilent value) (read : presence.read shape.read value = .ok content) :
    presence.absent? = some content := by
  cases presence with
  | must => cases silent
  | optional =>
      cases silent
      cases read
      rfl
  | nullable =>
      cases silent
      cases read
      rfl
  | many =>
      cases silent
      cases read
      rfl

/-- A record is completed in the same way before and after a member that says nothing. -/
theorem Fields.complete_of_silent (fields : Fields)
    (known : fields.find? key = some (presence, shape)) (silent : presence.IsSilent value)
    {slots after : fields.Slots} (taken : fields.readMember key value slots = .ok after) :
    fields.complete after = fields.complete slots :=
  match fields with
  | .nil => nomatch known
  | .cons name _ _ rest => by
      obtain ⟨slot, slots⟩ := slots
      obtain ⟨own, rfl, content, read, rfl⟩ | ⟨alien, others, read, rfl⟩ :=
        readMember_cons_eq_ok_iff.mp taken
      · cases find?_own own known
        have absent := Presence.absent?_of_silent silent read
        rw [slotsOf, complete, complete, absent]
      · have rest := rest.complete_of_silent (find?_other alien known) silent read
        cases slot with
        | none => rw [slotsOf, complete, complete, rest]
        | some content => rw [slotsOf, complete, complete, rest]

end

/-! ## Trees that are read alike -/

section

variable {key : TextToken} {text name : String} {value other : Outline} {presence : Presence}
  {shape : Shape} {fields : Fields} {before after : List (TextToken × Outline)}
  {slots final : fields.Slots}

theorem Fields.readMembers_of_perm {members others : List (TextToken × Outline)}
    (perm : members.Perm others) (taken : fields.readMembers members slots = .ok final) :
    fields.readMembers others slots = .ok final := by
  rw [readMembers_eq_foldlM] at taken ⊢
  refine foldlM_of_perm ?_ perm taken
  intro slots middle after first second former latter
  obtain ⟨key, meant, former⟩ := takeMember_eq_ok_iff.mp former
  obtain ⟨next, means, latter⟩ := takeMember_eq_ok_iff.mp latter
  obtain ⟨between, latter, former⟩ := fields.readMember_swap former latter
  exact ⟨between, takeMember_eq_ok_iff.mpr ⟨next, means, latter⟩,
    takeMember_eq_ok_iff.mpr ⟨key, meant, former⟩⟩

theorem Fields.readMembers_inserted (meant : key.value = .ok text)
    (unknown : fields.find? text = none) (whole : value.Whole)
    (taken : fields.readMembers (before ++ after) slots = .ok final) :
    fields.readMembers (before ++ (key, value) :: after) slots = .ok final := by
  rw [readMembers_eq_foldlM] at taken ⊢
  obtain ⟨middle, first, rest⟩ := foldlM_append_eq_ok_iff.mp taken
  have passed : fields.takeMember middle (key, value) = .ok middle :=
    takeMember_eq_ok_iff.mpr ⟨text, meant, fields.readMember_unknown unknown whole middle⟩
  exact foldlM_append_eq_ok_iff.mpr
    ⟨middle, first, foldlM_cons_eq_ok_iff.mpr ⟨middle, passed, rest⟩⟩

theorem Fields.readMembers_replaced (meant : key.value = .ok text)
    (same : ∀ {slots next : fields.Slots}, fields.readMember text value slots = .ok next →
      fields.readMember text other slots = .ok next)
    (taken : fields.readMembers (before ++ (key, value) :: after) slots = .ok final) :
    fields.readMembers (before ++ (key, other) :: after) slots = .ok final := by
  rw [readMembers_eq_foldlM] at taken ⊢
  refine foldlM_of_replaced ?_ taken
  intro slots next own
  obtain ⟨told, means, read⟩ := takeMember_eq_ok_iff.mp own
  cases meant.symm.trans means
  exact takeMember_eq_ok_iff.mpr ⟨text, meant, same read⟩

/-- Without a member that says nothing, the same record is completed. -/
theorem Fields.readMembers_leftOut (meant : key.value = .ok text)
    (known : fields.find? text = some (presence, shape)) (silent : presence.IsSilent value)
    (taken : fields.readMembers (before ++ (key, value) :: after) slots = .ok final) :
    ∃ others, fields.readMembers (before ++ after) slots = .ok others ∧
      fields.complete others = fields.complete final := by
  -- Members are read in any order, so the one that is left out may be taken to be the last.
  have last : (before ++ (key, value) :: after).Perm (before ++ after ++ [(key, value)]) :=
    List.perm_middle.trans (List.perm_append_singleton _ _).symm
  have moved := readMembers_of_perm last taken
  rw [readMembers_eq_foldlM] at moved
  obtain ⟨others, taken, own⟩ := foldlM_append_eq_ok_iff.mp moved
  obtain ⟨next, own, same⟩ := foldlM_cons_eq_ok_iff.mp own
  cases same
  obtain ⟨told, means, read⟩ := takeMember_eq_ok_iff.mp own
  cases meant.symm.trans means
  exact ⟨others, taken, (fields.complete_of_silent known silent read).symm⟩

theorem Presence.read_of_told {content : presence.Content shape.Content}
    (filled : value ≠ .null ∧ other ≠ .null)
    (same : ∀ {content}, (presence.told shape).read value = .ok content →
      (presence.told shape).read other = .ok content)
    (read : presence.read shape.read value = .ok content) :
    presence.read shape.read other = .ok content := by
  cases presence with
  | must => exact same read
  | optional =>
      rw [(read_filled filled.1).1] at read
      rw [(read_filled filled.2).1]
      obtain ⟨told, found, rfl⟩ := map_eq_ok_iff.mp read
      exact map_eq_ok_iff.mpr ⟨told, same found, rfl⟩
  | nullable =>
      rw [(read_filled filled.1).2] at read
      rw [(read_filled filled.2).2]
      obtain ⟨told, found, rfl⟩ := map_eq_ok_iff.mp read
      exact map_eq_ok_iff.mpr ⟨told, same found, rfl⟩
  | many => exact same read

theorem Fields.readInOrder_replaced {before after : List Outline} {tail : Tail}
    {needed passed : Nat} {content : fields.Content}
    (known : fields.get? before.length = some (presence, shape))
    (same : ∀ {content}, presence.read shape.read value = .ok content →
      presence.read shape.read other = .ok content)
    (read : fields.readInOrder name needed passed (before ++ value :: after) tail =
      .ok content) :
    fields.readInOrder name needed passed (before ++ other :: after) tail = .ok content := by
  induction before generalizing fields passed with
  | nil =>
      cases fields with
      | nil => cases known
      | cons own first inner rest =>
          cases known
          obtain ⟨told, others, found, further, rfl⟩ := readInOrder_cons_eq_ok_iff.mp read
          exact readInOrder_cons_eq_ok_iff.mpr ⟨told, others, same found, further, rfl⟩
  | cons item before ih =>
      cases fields with
      | nil => cases known
      | cons own first inner rest =>
          obtain ⟨told, others, found, further, rfl⟩ := readInOrder_cons_eq_ok_iff.mp read
          exact readInOrder_cons_eq_ok_iff.mpr ⟨told, others, found, ih known further, rfl⟩

theorem forall₂_of_replaced {α β : Type} {related : α → β → Prop} {a other : α}
    (same : ∀ {b}, related a b → related other b) {before after : List α} {bs : List β}
    (each : List.Forall₂ related (before ++ a :: after) bs) :
    List.Forall₂ related (before ++ other :: after) bs := by
  induction before generalizing bs with
  | nil =>
      cases each with
      | cons first others => exact .cons (same first) others
  | cons item before ih =>
      cases each with
      | cons first others => exact .cons first (ih others)

end

theorem Edited.read_eq_ok {shape : Shape} {tree other : Outline}
    (edited : Edited shape tree other) {content : shape.Content}
    (read : shape.read tree = .ok content) : shape.read other = .ok content := by
  induction edited with
  | permuted perm =>
      obtain ⟨closed, slots, taken, completed⟩ := Shape.read_object_eq_ok_iff.mp read
      exact Shape.read_object_eq_ok_iff.mpr
        ⟨closed, slots, Fields.readMembers_of_perm perm taken, completed⟩
  | inserted meant unknown whole =>
      obtain ⟨closed, slots, taken, completed⟩ := Shape.read_object_eq_ok_iff.mp read
      exact Shape.read_object_eq_ok_iff.mpr
        ⟨closed, slots, Fields.readMembers_inserted meant unknown whole taken, completed⟩
  | @exchanged name fields before after tail key text value other meant unknown whole =>
      obtain ⟨closed, slots, taken, completed⟩ := Shape.read_object_eq_ok_iff.mp read
      refine Shape.read_object_eq_ok_iff.mpr
        ⟨closed, slots, Fields.readMembers_replaced meant ?_ taken, completed⟩
      intro slots next passed
      rw [← passed, fields.readMember_unknown unknown whole,
        fields.readMember_unknown unknown (fields.whole_of_readMember passed)]
  | leftOut meant known silent =>
      obtain ⟨closed, slots, taken, completed⟩ := Shape.read_object_eq_ok_iff.mp read
      obtain ⟨others, taken, same⟩ := Fields.readMembers_leftOut meant known silent taken
      exact Shape.read_object_eq_ok_iff.mpr ⟨closed, others, taken, same.trans completed⟩
  | @field name fields before after tail key text value other presence shape meant known inner ih =>
      obtain ⟨closed, slots, taken, completed⟩ := Shape.read_object_eq_ok_iff.mp read
      refine Shape.read_object_eq_ok_iff.mpr
        ⟨closed, slots, Fields.readMembers_replaced meant ?_ taken, completed⟩
      exact fields.readMember_replaced known (Presence.read_of_told inner.filled ih)
  | place known inner ih =>
      exact Fields.readInOrder_replaced known (Presence.read_of_told inner.filled ih) read
  | item inner ih =>
      obtain ⟨items, same, each⟩ := readList_eq_ok_iff.mp read
      cases same
      exact readList_eq_ok_iff.mpr ⟨_, rfl, forall₂_of_replaced ih each⟩

/-- However often a tree is edited, it is read as before. -/
theorem read_of_edits {shape : Shape} {tree other : Outline}
    (edits : Relation.ReflTransGen (Edited shape) tree other) {content : shape.Content}
    (read : shape.read tree = .ok content) : shape.read other = .ok content := by
  induction edits with
  | refl => exact read
  | tail _ edited ih => exact edited.read_eq_ok ih

end DepositDirectory.Json
