import DepositDirectory.Proofs.Json.Tokens

/-!
# The grammar of JSON

A tree is whole if every list, object and string in it is closed and nothing in it broke off.  A
text spells a whole tree if it is spelled with the tokens of that tree.  Reading is exactly the
inverse of spelling: a text is read as a whole tree with nothing left over if and only if it spells
that tree.
-/

namespace DepositDirectory.Json

/-! ## Whole trees -/

/-- Everything in the tree is closed, and nothing broke off. -/
inductive Outline.Whole : Outline → Prop where
  | null : Whole .null
  | bool (value : Bool) : Whole (.bool value)
  | text {token : TextToken} (closed : token.ending = .closed) : Whole (.text token)
  | number (token : NumberToken) : Whole (.number token)
  | list {items : List Outline} (each : ∀ item ∈ items, item.Whole) : Whole (.list items .closed)
  | object {members : List (TextToken × Outline)}
      (keys : ∀ member ∈ members, member.1.ending = .closed)
      (values : ∀ member ∈ members, member.2.Whole) : Whole (.object members .closed)

mutual

/-- The tokens of a whole tree. -/
def Outline.tokens : Outline → List Token
  | .null => [.null]
  | .bool value => [.bool value]
  | .text token => [.text token]
  | .number token => [.number token]
  | .list items _ => .openList :: ([.comma].intercalate (itemTokens items) ++ [.closeList])
  | .object members _ =>
      .openObject :: ([.comma].intercalate (memberTokens members) ++ [.closeObject])
  | .misspelt _ => []
  | .brokenNumber _ => []
  | .absent _ => []
  | .noColon _ => []

/-- The tokens of each element. -/
def itemTokens : List Outline → List (List Token)
  | [] => []
  | item :: rest => item.tokens :: itemTokens rest

def memberTokens : List (TextToken × Outline) → List (List Token)
  | [] => []
  | (key, value) :: rest => (.text key :: .colon :: value.tokens) :: memberTokens rest

end

/-- The text spells the tree, with gaps anywhere between its tokens. -/
def Spells (cs : List Char) (tree : Outline) : Prop :=
  tree.Whole ∧ Spelled tree.tokens cs

theorem itemTokens_eq_map (items : List Outline) :
    itemTokens items = items.map Outline.tokens := by
  induction items with
  | nil => rfl
  | cons item items ih => rw [itemTokens, ih, List.map_cons]

theorem memberTokens_eq_map (members : List (TextToken × Outline)) :
    memberTokens members =
      members.map fun member => .text member.1 :: .colon :: member.2.tokens := by
  induction members with
  | nil => rfl
  | cons member members ih => rw [memberTokens, ih, List.map_cons]

section

variable {tree : Outline} {token mark : Token} {tokens others : List Token}
  {parts : List (List Token)}

/-! No number stands next to another, since a mark stands between any two values. -/

theorem separate_cons (noNumber : mark.isNumber = false) (after : Separate others) :
    Separate (mark :: others) :=
  List.isChain_cons.mpr ⟨fun _ _ => .inl noNumber, after⟩

theorem separate_mark (noNumber : mark.isNumber = false) (before : Separate tokens)
    (after : Separate others) : Separate (tokens ++ mark :: others) := by
  refine List.IsChain.append before (separate_cons noNumber after) ?_
  rintro last _ next ⟨⟩
  exact .inr noNumber

theorem separate_intercalate (each : ∀ part ∈ parts, Separate part) :
    Separate ([.comma].intercalate parts) := by
  induction parts with
  | nil => exact .nil
  | cons part parts ih =>
      have others := ih fun other member => each other (List.mem_cons_of_mem part member)
      cases parts with
      | nil =>
          rw [List.intercalate_singleton]
          exact each part List.mem_cons_self
      | cons next parts =>
          rw [List.intercalate_cons_cons, List.append_assoc]
          exact separate_mark rfl (each part List.mem_cons_self) others

theorem Outline.Whole.separate (whole : tree.Whole) : Separate tree.tokens := by
  induction whole with
  | null => exact .singleton _
  | bool value => exact .singleton _
  | text closed => exact .singleton _
  | number token => exact .singleton _
  | @list items each ih =>
      have inner : Separate ([.comma].intercalate (itemTokens items)) := by
        refine separate_intercalate ?_
        rw [itemTokens_eq_map]
        exact List.forall_mem_map.mpr ih
      exact separate_cons rfl (separate_mark rfl inner .nil)
  | @object members keys values ih =>
      have inner : Separate ([.comma].intercalate (memberTokens members)) := by
        refine separate_intercalate ?_
        rw [memberTokens_eq_map]
        refine List.forall_mem_map.mpr fun member held => ?_
        exact separate_cons rfl (separate_cons rfl (ih member held))
      exact separate_cons rfl (separate_mark rfl inner .nil)

theorem mem_intercalate (member : token ∈ [Token.comma].intercalate parts) :
    token = .comma ∨ ∃ part ∈ parts, token ∈ part := by
  induction parts with
  | nil => cases member
  | cons part parts ih =>
      cases parts with
      | nil =>
          rw [List.intercalate_singleton] at member
          exact .inr ⟨part, List.mem_cons_self, member⟩
      | cons next parts =>
          rw [List.intercalate_cons_cons, List.append_assoc, List.mem_append,
            List.singleton_append, List.mem_cons] at member
          rcases member with inPart | comma | later
          · exact .inr ⟨part, List.mem_cons_self, inPart⟩
          · exact .inl comma
          · refine (ih later).imp_right ?_
            rintro ⟨other, held, inOther⟩
            exact ⟨other, List.mem_cons_of_mem part held, inOther⟩

/-- No token of a whole tree broke off. -/
theorem Outline.Whole.unbroken (whole : tree.Whole) : ∀ token ∈ tree.tokens, token.Unbroken := by
  induction whole with
  | null => exact List.forall_mem_singleton.mpr trivial
  | bool value => exact List.forall_mem_singleton.mpr trivial
  | text closed => exact List.forall_mem_singleton.mpr closed
  | number token => exact List.forall_mem_singleton.mpr trivial
  | @list items each ih =>
      refine List.forall_mem_cons.mpr ⟨trivial, List.forall_mem_append.mpr ⟨?_, ?_⟩⟩
      · intro token member
        rcases mem_intercalate member with rfl | ⟨part, held, inPart⟩
        · trivial
        · rw [itemTokens_eq_map] at held
          obtain ⟨item, member, rfl⟩ := List.mem_map.mp held
          exact ih item member token inPart
      · exact List.forall_mem_singleton.mpr trivial
  | @object members keys values ih =>
      refine List.forall_mem_cons.mpr ⟨trivial, List.forall_mem_append.mpr ⟨?_, ?_⟩⟩
      · intro token member
        rcases mem_intercalate member with rfl | ⟨part, held, inPart⟩
        · trivial
        · rw [memberTokens_eq_map] at held
          obtain ⟨entry, among, rfl⟩ := List.mem_map.mp held
          rw [List.mem_cons, List.mem_cons] at inPart
          rcases inPart with rfl | rfl | inValue
          · exact keys entry among
          · trivial
          · exact ih entry among token inValue
      · exact List.forall_mem_singleton.mpr trivial

end

/-! ## What is spelled is read -/

namespace Outline

/-- Wherever a value is due, the tokens of the tree are read as the tree. -/
def Reads (tree : Outline) : Prop :=
  ∀ {stack base : List Frame} {due : Due}, Opens stack due base → ∀ rest : List Token,
    read stack due (tree.tokens ++ rest) = read base (.more tree) rest

variable {stack : List Frame}

theorem reads_items {due : Due} {held : List Outline} {item : Outline} {items : List Outline}
    (first : item.Reads) (others : ∀ other ∈ items, other.Reads) {base : List Frame}
    (opens : Opens stack due (.list held :: base)) (rest : List Token) :
    read stack due ([.comma].intercalate (itemTokens (item :: items)) ++ .closeList :: rest) =
      read base (.more (.list (held.reverse ++ item :: items) .closed)) rest := by
  induction items generalizing item held stack due with
  | nil =>
      rw [itemTokens, itemTokens, List.intercalate_singleton, first opens,
        List.append_cons, List.append_nil, ← List.reverse_cons]
      rfl
  | cons next items ih =>
      obtain ⟨second, others⟩ := List.forall_mem_cons.mp others
      rw [itemTokens, itemTokens, List.intercalate_cons_cons, ← itemTokens, List.append_assoc,
        List.append_assoc, first opens, List.singleton_append, read_next_item,
        ih second others (.nextItem _ _), List.reverse_cons, List.append_assoc,
        List.singleton_append]

theorem reads_members (key : TextToken) {value : Outline}
    {held members : List (TextToken × Outline)} (first : value.Reads)
    (others : ∀ member ∈ members, member.2.Reads) (rest : List Token) :
    ∃ tokens, [.comma].intercalate (memberTokens ((key, value) :: members)) =
        .text key :: .colon :: tokens ∧
      read (.object held key :: stack) .value (tokens ++ .closeObject :: rest) =
        read stack (.more (.object (held.reverse ++ (key, value) :: members) .closed)) rest := by
  induction members generalizing key value held with
  | nil =>
      refine ⟨value.tokens, ?_, ?_⟩
      · rw [memberTokens, memberTokens, List.intercalate_singleton]
      · rw [first (.value _), List.append_cons, List.append_nil, ← List.reverse_cons]
        rfl
  | cons next members ih =>
      obtain ⟨second, others⟩ := List.forall_mem_cons.mp others
      obtain ⟨tokens, parts, further⟩ := ih next.1 second others
      refine ⟨value.tokens ++ (.comma :: .text next.1 :: .colon :: tokens), ?_, ?_⟩
      · rw [memberTokens, memberTokens, List.intercalate_cons_cons, ← memberTokens, parts,
          List.append_assoc]
        rfl
      · rw [List.append_assoc, first (.value _), List.cons_append, List.cons_append,
          List.cons_append, read_next_key, further, List.reverse_cons, List.append_assoc,
          List.singleton_append]

/-- The tokens of a whole tree are read as the tree. -/
theorem Whole.reads {tree : Outline} (whole : tree.Whole) : tree.Reads := by
  intro stack base due opens rest
  induction whole generalizing stack base due rest with
  | null => exact read_start opens (by rintro ⟨⟩) rfl
  | bool value => exact read_start opens (by rintro ⟨⟩) rfl
  | text closed => exact read_start opens (by rintro ⟨⟩) rfl
  | number token => exact read_start opens (by rintro ⟨⟩) rfl
  | @list items each ih =>
      rw [tokens, List.cons_append, List.append_assoc, read_list_start opens]
      cases items with
      | nil => cases base <;> rfl
      | cons item items =>
          obtain ⟨first, others⟩ := List.forall_mem_cons.mp ih
          exact reads_items first others (.firstItem base) rest
  | @object members keys values ih =>
      rw [tokens, List.cons_append, List.append_assoc, read_object_start opens]
      cases members with
      | nil => cases base <;> rfl
      | cons member members =>
          obtain ⟨first, others⟩ := List.forall_mem_cons.mp ih
          obtain ⟨tokens, parts, further⟩ := reads_members member.1 first others rest
          rw [parts, List.cons_append, List.cons_append, List.singleton_append, read_first_key,
            further]
          rfl

/-! ## What is read is spelled -/

/-- The tokens of elements that a comma follows. -/
def heldTokens (parts : List (List Token)) : List Token :=
  parts.flatMap (· ++ [.comma])

/-- The tokens of what an open list or object holds so far. -/
def Frame.spent : Frame → List Token
  | .list held => .openList :: heldTokens (itemTokens held.reverse)
  | .object held key =>
      .openObject :: (heldTokens (memberTokens held.reverse) ++ [.text key, .colon])

/-- The tokens read since the innermost frame was left open. -/
def Due.spent : Due → List Token
  | .value => []
  | .firstItem => [.openList]
  | .nextItem held => (Frame.list held).spent
  | .firstKey => [.openObject]
  | .nextKey held => .openObject :: heldTokens (memberTokens held.reverse)
  | .colon held key => .openObject :: (heldTokens (memberTokens held.reverse) ++ [.text key])
  | .more last => last.tokens

/-- All tokens read so far. -/
def spent : List Frame → Due → List Token
  | [], due => due.spent
  | frame :: stack, due => spent stack .value ++ frame.spent ++ due.spent

theorem spent_eq (stack : List Frame) (due : Due) :
    spent stack due = spent stack .value ++ due.spent := by
  cases stack with
  | nil => rfl
  | cons frame stack => rw [spent, spent, Due.spent, List.append_nil]

theorem spent_cons (frame : Frame) (stack : List Frame) :
    spent (frame :: stack) .value = spent stack .value ++ frame.spent := by
  rw [spent, Due.spent, List.append_nil]

theorem intercalate_concat (parts : List (List Token)) (part : List Token) :
    [.comma].intercalate (parts ++ [part]) = heldTokens parts ++ part := by
  induction parts with
  | nil => exact List.intercalate_singleton
  | cons first parts ih =>
      have filled : parts ++ [part] ≠ [] :=
        List.append_ne_nil_of_right_ne_nil parts (List.cons_ne_nil part [])
      rw [List.cons_append, List.intercalate_cons_of_ne_nil filled, ih, heldTokens, heldTokens,
        List.flatMap_cons, List.append_assoc, List.append_assoc, List.append_assoc]

theorem heldTokens_concat (parts : List (List Token)) (part : List Token) :
    heldTokens (parts ++ [part]) = heldTokens parts ++ (part ++ [.comma]) := by
  rw [heldTokens, heldTokens, List.flatMap_append, List.flatMap_singleton]

theorem itemTokens_concat (items : List Outline) (item : Outline) :
    itemTokens (items ++ [item]) = itemTokens items ++ [item.tokens] := by
  rw [itemTokens_eq_map, itemTokens_eq_map, List.map_append, List.map_singleton]

theorem memberTokens_concat (members : List (TextToken × Outline)) (key : TextToken)
    (value : Outline) :
    memberTokens (members ++ [(key, value)]) =
      memberTokens members ++ [.text key :: .colon :: value.tokens] := by
  rw [memberTokens_eq_map, memberTokens_eq_map, List.map_append, List.map_singleton]

variable {inner : List Frame} {due next : Due} {token : Token}

theorem spent_of_startValue (start : startValue stack token = .go inner next) :
    spent inner next = spent stack .value ++ [token] := by
  cases token <;> cases start <;> exact spent_eq stack _

theorem spent_of_stepAfter {last : Outline} (after : stepAfter last stack token = .go inner next) :
    spent inner next = spent stack (.more last) ++ [token] := by
  unfold stepAfter at after
  split at after
  · cases after
  · rename_i held outer
    cases after
    rw [spent_eq, spent, Due.spent, Frame.spent, Frame.spent, List.reverse_cons, itemTokens_concat,
      heldTokens_concat]
    simp only [Due.spent, List.append_assoc, List.cons_append]
  · rename_i held outer
    cases after
    rw [spent_eq, spent, Due.spent, tokens, List.reverse_cons, itemTokens_concat,
      intercalate_concat]
    simp only [Due.spent, Frame.spent, List.append_assoc, List.cons_append]
  · rename_i held key outer
    cases after
    rw [spent_eq, spent, Due.spent, Frame.spent, List.reverse_cons, memberTokens_concat,
      heldTokens_concat]
    simp only [Due.spent, List.append_assoc, List.cons_append, List.nil_append]
  · rename_i held key outer
    cases after
    rw [spent_eq, spent, Due.spent, tokens, List.reverse_cons, memberTokens_concat,
      intercalate_concat]
    simp only [Due.spent, Frame.spent, List.append_assoc, List.cons_append, List.nil_append]
  · cases after

/-- The tokens read so far grow by the token that is read. -/
theorem spent_of_step (stepped : step stack due token = .go inner next) :
    spent inner next = spent stack due ++ [token] := by
  unfold step at stepped
  split at stepped
  · exact spent_of_startValue stepped
  · cases stepped
    rw [spent_eq, spent_eq stack .firstItem, List.append_assoc]
    rfl
  · rw [spent_of_startValue stepped, spent_cons, spent_eq stack .firstItem]
    rfl
  · cases stepped
  · rw [spent_of_startValue stepped, spent_cons, spent_eq stack (.nextItem _), Due.spent]
  · cases stepped
    rw [spent_eq, spent_eq stack .firstKey, List.append_assoc]
    rfl
  · cases stepped
    rw [spent_eq, spent_eq stack .firstKey, List.append_assoc]
    rfl
  · cases stepped
  · cases stepped
  · cases stepped
    rw [spent_eq, spent_eq stack (.nextKey _), List.append_assoc]
    rfl
  · cases stepped
  · cases stepped
    rw [spent_cons, spent_eq stack (.colon _ _), List.append_assoc, Frame.spent, Due.spent,
      List.cons_append, List.append_assoc]
    rfl
  · cases stepped
  · exact spent_of_stepAfter stepped

/-! A tree that is broken off somewhere is not whole. -/

theorem Frame.tail_of_whole_close {frame : Frame} {last : Outline} {tail : Tail}
    (whole : (frame.close last tail).Whole) : tail = .closed := by
  cases frame <;> cases whole <;> rfl

theorem of_whole_breakAt {last : Outline} (whole : (breakAt last stack).Whole) :
    stack = [] ∧ last.Whole := by
  induction stack generalizing last with
  | nil => exact ⟨rfl, whole⟩
  | cons frame stack ih => cases Frame.tail_of_whole_close (ih whole).2

theorem finished?_eq_some {tree : Outline} (finished : finished? stack due = some tree) :
    stack = [] ∧ due = .more tree := by
  unfold finished? at finished
  split at finished
  · cases finished
    exact ⟨rfl, rfl⟩
  · cases finished

theorem not_whole_breakAt {last : Outline} (broken : ¬ last.Whole) (stack : List Frame) :
    ¬ (breakAt last stack).Whole :=
  fun whole => broken (of_whole_breakAt whole).2

theorem not_whole_of_startValue {tree : Outline} (stopped : startValue stack token = .stop tree) :
    ¬ tree.Whole := by
  cases token <;> cases stopped <;> exact not_whole_breakAt (by nofun) stack

theorem not_whole_of_stepAfter {last tree : Outline} (unfinished : stack ≠ [])
    (stopped : stepAfter last stack token = .stop tree) : ¬ tree.Whole := by
  unfold stepAfter at stopped
  split at stopped
  · exact absurd rfl unfinished
  · cases stopped
  · cases stopped
  · cases stopped
  · cases stopped
  · cases stopped
    refine not_whole_breakAt (fun whole => ?_) _
    cases Frame.tail_of_whole_close whole

theorem not_whole_of_stop {tree : Outline} (unfinished : finished? stack due = none)
    (stopped : step stack due token = .stop tree) : ¬ tree.Whole := by
  unfold step at stopped
  split at stopped
  · exact not_whole_of_startValue stopped
  · cases stopped
  · exact not_whole_of_startValue stopped
  · cases stopped
    exact not_whole_breakAt (by nofun) stack
  · exact not_whole_of_startValue stopped
  · cases stopped
  · cases stopped
  · cases stopped
    exact not_whole_breakAt (by nofun) stack
  · cases stopped
    exact not_whole_breakAt (by nofun) stack
  · cases stopped
  · cases stopped
    exact not_whole_breakAt (by nofun) stack
  · cases stopped
  · cases stopped
    exact not_whole_breakAt (by nofun) _
  · refine not_whole_of_stepAfter ?_ stopped
    rintro rfl
    cases unfinished

theorem spent_atEnd (whole : (atEnd stack due).Whole) :
    spent stack due = (atEnd stack due).tokens := by
  unfold atEnd at whole ⊢
  cases due with
  | more last =>
      obtain ⟨rfl, _⟩ := of_whole_breakAt whole
      rfl
  | _ => exact absurd whole (not_whole_breakAt (by nofun) _)

/-- What is read as a whole tree is the tokens of that tree. -/
theorem tokens_of_read {tree : Outline} {found rest : List Token}
    (reading : read stack due found = (tree, rest)) (whole : tree.Whole) :
    spent stack due ++ found = tree.tokens ++ rest := by
  -- What was spent and what is still to be read are together the same tokens at every step.
  induction found generalizing stack due with
  | nil =>
      cases reading
      rw [List.append_nil, List.append_nil, spent_atEnd whole]
  | cons token found ih =>
      rw [read] at reading
      split at reading
      · rename_i last finished
        cases reading
        obtain ⟨rfl, rfl⟩ := finished?_eq_some finished
        rfl
      · rename_i unfinished
        split at reading
        · rename_i stepped
          rw [← ih reading, spent_of_step stepped, List.append_assoc, List.singleton_append]
        · rename_i stopped
          cases reading
          exact absurd whole (not_whole_of_stop unfinished stopped)

end Outline

/-- A text spells a whole tree exactly when it is read as that tree and nothing is left over. -/
theorem spells_iff {cs : List Char} {tree : Outline} :
    Spells cs tree ↔ outline cs = (tree, []) ∧ tree.Whole := by
  constructor
  · rintro ⟨whole, spelled⟩
    have read := whole.reads (.value []) []
    rw [List.append_nil] at read
    rw [outline, lex_of_spelledTokens spelled whole.separate, read]
    exact ⟨rfl, whole⟩
  · rintro ⟨read, whole⟩
    have tokens : lex cs = tree.tokens := by
      have tokens := Outline.tokens_of_read read whole
      rwa [Outline.spent, Outline.Due.spent, List.nil_append, List.append_nil] at tokens
    refine ⟨whole, ?_⟩
    rw [← tokens]
    refine spelled_of_lex ?_
    rw [tokens]
    exact whole.unbroken

end DepositDirectory.Json
