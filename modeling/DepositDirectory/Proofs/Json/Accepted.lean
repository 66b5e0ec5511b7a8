import DepositDirectory.Proofs.Json.Grammar
import DepositDirectory.Proofs.Json.Shapes
import DepositDirectory.Proofs.Results
import Mathlib.Data.List.Forall2

/-!
# Trees that a shape accepts

A value is passed over exactly when it is a whole tree, and a shape reads no other trees either.  So
a text is read by a shape if and only if it spells a whole tree that the shape accepts: where gaps
are in the text makes no difference.
-/

namespace DepositDirectory.Json

/-! ## Values that are passed over -/

theorem refuse_eq_ok_iff {cause : Option Fault} : refuse cause = .ok () ↔ cause = none := by
  cases cause with
  | none => exact ⟨fun _ => rfl, fun _ => rfl⟩
  | some fault => exact ⟨nofun, nofun⟩

theorem TextEnd.fault?_eq_none_iff {ending : TextEnd} :
    ending.fault? = none ↔ ending = .closed := by
  cases ending <;> simp [fault?]

theorem Tail.listFault?_eq_none_iff {tail : Tail} : tail.listFault? = none ↔ tail = .closed := by
  cases tail <;> simp [listFault?]

theorem Tail.objectFault?_eq_none_iff {tail : Tail} :
    tail.objectFault? = none ↔ tail = .closed := by
  cases tail <;> simp [objectFault?]

theorem Tail.skippedListFault?_eq_none_iff {tail : Tail} :
    tail.skippedListFault? = none ↔ tail = .closed := by
  cases tail <;> simp [skippedListFault?, listFault?]

theorem Tail.skippedObjectFault?_eq_none_iff {tail : Tail} :
    tail.skippedObjectFault? = none ↔ tail = .closed := by
  cases tail <;> simp [skippedObjectFault?, objectFault?]

theorem Tail.recordFault?_eq_none_iff {tail : Tail} :
    tail.recordFault? = none ↔ tail = .closed := by
  cases tail <;> simp [recordFault?]

theorem Outline.whole_list_iff {items : List Outline} {tail : Tail} :
    (Outline.list items tail).Whole ↔ (∀ item ∈ items, item.Whole) ∧ tail = .closed := by
  constructor
  · rintro ⟨⟩
    exact ⟨‹_›, rfl⟩
  · rintro ⟨each, rfl⟩
    exact .list each

theorem Outline.whole_object_iff {members : List (TextToken × Outline)} {tail : Tail} :
    (Outline.object members tail).Whole ↔
      (∀ member ∈ members, member.1.ending = .closed ∧ member.2.Whole) ∧ tail = .closed := by
  constructor
  · rintro ⟨⟩
    rename_i keys values
    exact ⟨fun member held => ⟨keys member held, values member held⟩, rfl⟩
  · rintro ⟨each, rfl⟩
    exact .object (fun member held => (each member held).1) fun member held => (each member held).2

mutual

/-- A value is passed over exactly when it is whole. -/
theorem Outline.skip_eq_ok_iff (tree : Outline) : tree.skip = .ok () ↔ tree.Whole :=
  match tree with
  | .null => ⟨fun _ => .null, fun _ => rfl⟩
  | .bool value => ⟨fun _ => .bool value, fun _ => rfl⟩
  | .number token => ⟨fun _ => .number token, fun _ => rfl⟩
  | .text token => by
      rw [Outline.skip, refuse_eq_ok_iff, TextEnd.fault?_eq_none_iff]
      exact ⟨.text, fun | .text closed => closed⟩
  | .list items tail => by
      rw [Outline.skip, seq_eq_ok_iff, Outline.whole_list_iff, refuse_eq_ok_iff,
        Tail.skippedListFault?_eq_none_iff, skipItems_eq_ok_iff items]
  | .object members tail => by
      rw [Outline.skip, seq_eq_ok_iff, Outline.whole_object_iff, refuse_eq_ok_iff,
        Tail.skippedObjectFault?_eq_none_iff, skipMembers_eq_ok_iff members]
  | .misspelt found => ⟨nofun, nofun⟩
  | .brokenNumber found => ⟨nofun, nofun⟩
  | .absent found => ⟨nofun, nofun⟩
  | .noColon found => ⟨nofun, nofun⟩

theorem skipItems_eq_ok_iff (items : List Outline) :
    skipItems items = .ok () ↔ ∀ item ∈ items, item.Whole :=
  match items with
  | [] => ⟨fun _ => List.forall_mem_nil _, fun _ => rfl⟩
  | item :: rest => by
      rw [skipItems, seq_eq_ok_iff, List.forall_mem_cons, item.skip_eq_ok_iff,
        skipItems_eq_ok_iff rest]

theorem skipMembers_eq_ok_iff (members : List (TextToken × Outline)) :
    skipMembers members = .ok () ↔
      ∀ member ∈ members, member.1.ending = .closed ∧ member.2.Whole :=
  match members with
  | [] => ⟨fun _ => List.forall_mem_nil _, fun _ => rfl⟩
  | (key, value) :: rest => by
      rw [skipMembers, seq_eq_ok_iff, seq_eq_ok_iff, List.forall_mem_cons, refuse_eq_ok_iff,
        TextEnd.fault?_eq_none_iff, value.skip_eq_ok_iff, skipMembers_eq_ok_iff rest, and_assoc]

end

/-! ## Values that are read -/

theorem closed_of_pieceChars {ending : TextEnd} {pieces : List Piece} {cs : List Char}
    (meant : pieceChars ending pieces = .ok cs) : ending = .closed := by
  fun_induction pieceChars ending pieces generalizing cs with
  | case1 fault broken => cases meant
  | case2 whole => exact TextEnd.fault?_eq_none_iff.mp whole
  | case3 c rest ih =>
      obtain ⟨others, meant, _⟩ := map_eq_ok_iff.mp meant
      exact ih meant
  | case5 =>
      rename_i ih
      obtain ⟨others, meant, _⟩ := map_eq_ok_iff.mp meant
      exact ih meant
  | case9 =>
      rename_i ih
      obtain ⟨others, meant, _⟩ := map_eq_ok_iff.mp meant
      exact ih meant
  | _ => cases meant

/-- A string that stands for a text is closed. -/
theorem TextToken.closed_of_value {token : TextToken} {content : String}
    (meant : token.value = .ok content) : token.ending = .closed := by
  obtain ⟨cs, meant, _⟩ := map_eq_ok_iff.mp meant
  exact closed_of_pieceChars meant

section

variable {α : Type} {readItem : Outline → Except Fault α} {tree : Outline}

theorem Outline.refuse_ne_ok (tree : Outline) (wanted : String) (value : α) :
    tree.refuse wanted ≠ .ok value := by
  intro refused
  cases tree with
  | text token =>
      obtain ⟨content, _, refused⟩ := bind_eq_ok_iff.mp refused
      cases refused
  | number token =>
      obtain ⟨number, _, refused⟩ := bind_eq_ok_iff.mp refused
      cases refused
  | _ => cases refused

theorem exists_of_readTextValue {content : String} (read : readTextValue tree = .ok content) :
    ∃ token, tree = .text token ∧ token.value = .ok content := by
  unfold readTextValue at read
  split at read
  · exact ⟨_, rfl, read⟩
  · exact absurd read (Outline.refuse_ne_ok _ _ _)

theorem exists_of_readWord32 {content : UInt32} (read : readWord32 tree = .ok content) :
    ∃ token, tree = .number token := by
  unfold readWord32 at read
  split at read
  · exact ⟨_, rfl⟩
  · exact absurd read (Outline.refuse_ne_ok _ _ _)

theorem readItems_eq_ok_iff {items : List Outline} {values : List α} :
    readItems readItem items = .ok values ↔
      List.Forall₂ (fun item value => readItem item = .ok value) items values := by
  induction items generalizing values with
  | nil =>
      rw [List.forall₂_nil_left_iff]
      exact ⟨fun | rfl => rfl, fun same => congrArg Except.ok same.symm⟩
  | cons item items ih =>
      rw [readItems, bind_eq_ok_iff, List.forall₂_cons_left_iff]
      constructor
      · rintro ⟨first, read, others⟩
        obtain ⟨rest, others, same⟩ := bind_eq_ok_iff.mp others
        exact ⟨first, rest, read, ih.mp others, (Except.ok.inj same).symm⟩
      · rintro ⟨first, rest, read, others, rfl⟩
        exact ⟨first, read, bind_eq_ok_iff.mpr ⟨rest, ih.mpr others, rfl⟩⟩

theorem readList_eq_ok_iff {values : List α} :
    readList readItem tree = .ok values ↔
      ∃ items, tree = .list items .closed ∧
        List.Forall₂ (fun item value => readItem item = .ok value) items values := by
  constructor
  · intro read
    unfold readList at read
    split at read
    · rename_i items tail
      obtain ⟨values, each, read⟩ := bind_eq_ok_iff.mp read
      obtain ⟨ended, same⟩ := seq_eq_ok_iff.mp read
      cases Tail.listFault?_eq_none_iff.mp (refuse_eq_ok_iff.mp ended)
      cases same
      exact ⟨items, rfl, readItems_eq_ok_iff.mp each⟩
    · exact absurd read (Outline.refuse_ne_ok _ _ _)
  · rintro ⟨items, rfl, each⟩
    rw [readList, readItems_eq_ok_iff.mpr each]
    rfl

theorem whole_of_each {items : List Outline} {values : List α}
    (whole : ∀ {tree content}, readItem tree = .ok content → tree.Whole)
    (each : List.Forall₂ (fun item value => readItem item = .ok value) items values) :
    ∀ item ∈ items, item.Whole := by
  induction each with
  | nil => exact List.forall_mem_nil _
  | cons read others ih => exact List.forall_mem_cons.mpr ⟨whole read, ih⟩

theorem Presence.read_filled (filled : tree ≠ .null) :
    Presence.optional.read readItem tree = (readItem tree).map some ∧
      Presence.nullable.read readItem tree = (readItem tree).map some := by
  cases tree with
  | null => exact absurd rfl filled
  | _ => exact ⟨rfl, rfl⟩

/-- A field is read from whole trees only, if the values of its shape are. -/
theorem Presence.whole_of_read {presence : Presence} {content : presence.Content α}
    (whole : ∀ {tree content}, readItem tree = .ok content → tree.Whole)
    (read : presence.read readItem tree = .ok content) : tree.Whole := by
  by_cases filled : tree = .null
  · rw [filled]
    exact .null
  · cases presence with
    | must => exact whole read
    | optional =>
        rw [(Presence.read_filled filled).1] at read
        obtain ⟨value, read, _⟩ := map_eq_ok_iff.mp read
        exact whole read
    | nullable =>
        rw [(Presence.read_filled filled).2] at read
        obtain ⟨value, read, _⟩ := map_eq_ok_iff.mp read
        exact whole read
    | many =>
        obtain ⟨items, rfl, each⟩ := readList_eq_ok_iff.mp read
        exact .list (whole_of_each whole each)

end

/-! ## Records -/

section

variable {name key : String} {presence : Presence} {shape : Shape} {rest : Fields}
  {value : Outline} {items : List Outline} {tail : Tail}

theorem Fields.readMember_twice (content : presence.Content shape.Content) (slots : rest.Slots) :
    (Fields.cons name presence shape rest).readMember name value (slotsOf (some content) slots) =
      .error (.duplicateField name) :=
  (readMember.eq_def _ _ _ _).trans (if_pos rfl)

theorem Fields.readMember_first (slots : rest.Slots) :
    (Fields.cons name presence shape rest).readMember name value (slotsOf none slots) =
      (presence.read shape.read value).map fun content => slotsOf (some content) slots :=
  (readMember.eq_def _ _ _ _).trans (if_pos rfl)

/-- A member is read into the first field of its name, which is empty before, or past all of
them. -/
theorem Fields.readMember_cons_eq_ok_iff {slot : Option (presence.Content shape.Content)}
    {slots : rest.Slots} {after : (Fields.cons name presence shape rest).Slots} :
    (Fields.cons name presence shape rest).readMember key value (slotsOf slot slots) =
        .ok after ↔
      (key = name ∧ slot = none ∧ ∃ content, presence.read shape.read value = .ok content ∧
        after = slotsOf (some content) slots) ∨
      (key ≠ name ∧ ∃ others, rest.readMember key value slots = .ok others ∧
        after = slotsOf slot others) := by
  by_cases own : key = name
  · refine Iff.trans ?_ (or_iff_left fun other => other.1 own).symm
    subst own
    cases slot with
    | some content =>
        rw [readMember_twice]
        exact ⟨nofun, fun ⟨_, filled, _⟩ => nomatch filled⟩
    | none =>
        rw [readMember_first, map_eq_ok_iff]
        exact ⟨fun ⟨content, read, same⟩ => ⟨rfl, rfl, content, read, same.symm⟩,
          fun ⟨_, _, content, read, same⟩ => ⟨content, read, same.symm⟩⟩
  · rw [readMember_other own, map_eq_ok_iff]
    refine Iff.trans ?_ (or_iff_right fun other => own other.1).symm
    exact ⟨fun ⟨others, read, same⟩ => ⟨own, others, read, same.symm⟩,
      fun ⟨_, others, read, same⟩ => ⟨others, read, same.symm⟩⟩

/-- Take in one member of an object. -/
def Fields.takeMember (fields : Fields) (slots : fields.Slots) (member : TextToken × Outline) :
    Except Fault fields.Slots := do
  fields.readMember (← member.1.value) member.2 slots

theorem Fields.readMembers_eq_foldlM (fields : Fields) (members : List (TextToken × Outline))
    (slots : fields.Slots) :
    fields.readMembers members slots = members.foldlM fields.takeMember slots :=
  rfl

theorem Fields.takeMember_eq_ok_iff {fields : Fields} {slots after : fields.Slots}
    {member : TextToken × Outline} :
    fields.takeMember slots member = .ok after ↔
      ∃ key, member.1.value = .ok key ∧ fields.readMember key member.2 slots = .ok after :=
  bind_eq_ok_iff

theorem Fields.whole_of_readMembers {fields : Fields} {members : List (TextToken × Outline)}
    {slots after : fields.Slots}
    (whole : ∀ {key value slots after}, fields.readMember key value slots = .ok after →
      value.Whole)
    (taken : fields.readMembers members slots = .ok after) :
    ∀ member ∈ members, member.1.ending = .closed ∧ member.2.Whole := by
  induction members generalizing slots with
  | nil => exact List.forall_mem_nil _
  | cons member members ih =>
      obtain ⟨next, first, others⟩ := foldlM_cons_eq_ok_iff.mp taken
      obtain ⟨key, meant, read⟩ := takeMember_eq_ok_iff.mp first
      exact List.forall_mem_cons.mpr ⟨⟨TextToken.closed_of_value meant, whole read⟩, ih others⟩

/-- A record is read from an object or from a list of its fields. -/
theorem Shape.object_or_list_of_read {fields : Fields} {content : fields.Content}
    (read : (Shape.record name fields).read value = .ok content) :
    (∃ members tail, value = .object members tail) ∨ ∃ items tail, value = .list items tail := by
  unfold Shape.read at read
  cases value with
  | object members tail => exact .inl ⟨members, tail, rfl⟩
  | list items tail => exact .inr ⟨items, tail, rfl⟩
  | _ => exact absurd read (Outline.refuse_ne_ok _ _ _)

theorem Shape.read_object_eq_ok_iff {fields : Fields} {members : List (TextToken × Outline)}
    {content : fields.Content} :
    (Shape.record name fields).read (.object members tail) = .ok content ↔
      tail = .closed ∧ ∃ slots, fields.readMembers members fields.emptySlots = .ok slots ∧
        fields.complete slots = .ok content := by
  change (fields.readMembers members fields.emptySlots >>= fun slots =>
    Json.refuse tail.objectFault? >>= fun _ => fields.complete slots) = .ok content ↔ _
  rw [bind_eq_ok_iff]
  simp only [seq_eq_ok_iff, refuse_eq_ok_iff, Tail.objectFault?_eq_none_iff]
  exact ⟨fun ⟨slots, read, ended, completed⟩ => ⟨ended, slots, read, completed⟩,
    fun ⟨ended, slots, read, completed⟩ => ⟨slots, read, ended, completed⟩⟩

theorem Fields.readInOrder_cons_eq_ok_iff {needed passed : Nat} {item : Outline}
    {content : (Fields.cons key presence shape rest).Content} :
    (Fields.cons key presence shape rest).readInOrder name needed passed (item :: items) tail =
        .ok content ↔
      ∃ value others, presence.read shape.read item = .ok value ∧
        rest.readInOrder name needed (passed + 1) items tail = .ok others ∧
        content = (value, others) := by
  change (presence.read shape.read item >>= fun value =>
    rest.readInOrder name needed (passed + 1) items tail >>= fun others =>
      pure (value, others)) = .ok content ↔ _
  constructor
  · intro read
    obtain ⟨value, first, read⟩ := bind_eq_ok_iff.mp read
    obtain ⟨others, further, same⟩ := bind_eq_ok_iff.mp read
    exact ⟨value, others, first, further, (Except.ok.inj same).symm⟩
  · rintro ⟨value, others, first, further, rfl⟩
    exact bind_eq_ok_iff.mpr ⟨value, first, bind_eq_ok_iff.mpr ⟨others, further, rfl⟩⟩

end

mutual

/-- A shape reads whole trees only. -/
theorem Shape.whole_of_read (shape : Shape) {tree : Outline} {content : shape.Content}
    (read : shape.read tree = .ok content) : tree.Whole :=
  match shape with
  | .text => by
      obtain ⟨token, rfl, meant⟩ := exists_of_readTextValue read
      exact .text (TextToken.closed_of_value meant)
  | .word32 => by
      obtain ⟨token, rfl⟩ := exists_of_readWord32 read
      exact .number token
  | .list item => by
      obtain ⟨items, rfl, each⟩ := readList_eq_ok_iff.mp read
      exact .list (whole_of_each item.whole_of_read each)
  | .record name fields => by
      obtain ⟨members, tail, rfl⟩ | ⟨items, tail, rfl⟩ := Shape.object_or_list_of_read read
      · obtain ⟨rfl, slots, taken, _⟩ := Shape.read_object_eq_ok_iff.mp read
        exact Outline.whole_object_iff.mpr
          ⟨Fields.whole_of_readMembers fields.whole_of_readMember taken, rfl⟩
      · exact Outline.whole_list_iff.mpr (fields.whole_of_readInOrder read)

/-- A member that is read has a whole tree. -/
theorem Fields.whole_of_readMember (fields : Fields) {key : String} {value : Outline}
    {slots after : fields.Slots} (read : fields.readMember key value slots = .ok after) :
    value.Whole :=
  match fields with
  | .nil => value.skip_eq_ok_iff.mp read
  | .cons name presence shape rest => by
      obtain ⟨_, _, content, read, _⟩ | ⟨_, others, read, _⟩ :=
        Fields.readMember_cons_eq_ok_iff.mp read
      · exact Presence.whole_of_read shape.whole_of_read read
      · exact rest.whole_of_readMember read

/-- Fields that are read in order have whole trees. -/
theorem Fields.whole_of_readInOrder (fields : Fields) {name : String} {needed passed : Nat}
    {items : List Outline} {tail : Tail} {content : fields.Content}
    (read : fields.readInOrder name needed passed items tail = .ok content) :
    (∀ item ∈ items, item.Whole) ∧ tail = .closed :=
  match fields, items with
  | .nil, [] => ⟨List.forall_mem_nil _, Tail.recordFault?_eq_none_iff.mp (refuse_eq_ok_iff.mp read)⟩
  | .cons own presence shape rest, item :: items => by
      obtain ⟨value, others, first, further, _⟩ :=
        Fields.readInOrder_cons_eq_ok_iff.mp read
      obtain ⟨each, closed⟩ := rest.whole_of_readInOrder further
      exact ⟨List.forall_mem_cons.mpr ⟨Presence.whole_of_read shape.whole_of_read first, each⟩,
        closed⟩
  | .cons own presence shape rest, [] => by
      obtain ⟨ended, _⟩ := seq_eq_ok_iff.mp read
      exact ⟨List.forall_mem_nil _, Tail.listFault?_eq_none_iff.mp (refuse_eq_ok_iff.mp ended)⟩

end

/-- A text is read by a shape if and only if it spells a tree that the shape accepts. -/
theorem Shape.parse_eq_ok_iff {shape : Shape} {cs : List Char} {content : shape.Content} :
    shape.parse cs = .ok content ↔ ∃ tree, Spells cs tree ∧ shape.read tree = .ok content := by
  have whole : shape.parse cs = .ok content ↔
      shape.read (outline cs).1 = .ok content ∧ (outline cs).2 = [] := by
    rw [Shape.parse, bind_eq_ok_iff]
    cases (outline cs).2 with
    | nil =>
        constructor
        · rintro ⟨other, read, same⟩
          cases same
          exact ⟨read, rfl⟩
        · rintro ⟨read, _⟩
          exact ⟨content, read, rfl⟩
    | cons token rest =>
        constructor
        · rintro ⟨other, _, same⟩
          cases same
        · rintro ⟨_, same⟩
          cases same
  rw [whole]
  constructor
  · rintro ⟨read, ended⟩
    exact ⟨_, spells_iff.mpr ⟨Prod.ext rfl ended, shape.whole_of_read read⟩, read⟩
  · rintro ⟨tree, spells, read⟩
    rw [(spells_iff.mp spells).1]
    exact ⟨read, rfl⟩

end DepositDirectory.Json
