import DepositDirectory.Proofs.Custody.WireFormat
import DepositDirectory.Proofs.Json.Edits

/-!
# Bodies that tell the same record

A success is read from the tree that its body tells, and from nothing else.  So a body may be
written anew: with the members of its objects in another order, with further members that the record
has no fields for, and without members that say nothing.  The record that is read stays the same.
-/

namespace DepositDirectory

open Json (Edited Form Layout Outline Shape Spells TextToken outline parseAs spells_iff textToken
  textToken_value toJson)

namespace Json

/-! ## Written values are whole -/

mutual

theorem Value.outline_whole (value : Value) : value.outline.Whole :=
  match value with
  | .null => .null
  | .natural n => .number (numberToken n)
  | .text _ => .text rfl
  | .list items => Outline.whole_list_iff.mpr ⟨itemOutlines_whole items, rfl⟩
  | .object members => Outline.whole_object_iff.mpr ⟨memberOutlines_whole members, rfl⟩

theorem itemOutlines_whole (items : List Value) : ∀ item ∈ itemOutlines items, item.Whole :=
  match items with
  | [] => List.forall_mem_nil _
  | item :: rest => List.forall_mem_cons.mpr ⟨item.outline_whole, itemOutlines_whole rest⟩

theorem memberOutlines_whole (members : List (String × Value)) :
    ∀ member ∈ memberOutlines members, member.1.ending = .closed ∧ member.2.Whole :=
  match members with
  | [] => List.forall_mem_nil _
  | (_, value) :: rest =>
      List.forall_mem_cons.mpr ⟨⟨rfl, value.outline_whole⟩, memberOutlines_whole rest⟩

end

theorem Shape.read_null_ne_ok (shape : Shape) (content : shape.Content) :
    shape.read .null ≠ .ok content := by
  cases shape <;> exact nofun

theorem not_spells_nil (tree : Outline) : ¬ Spells [] tree := by
  intro spells
  obtain ⟨read, whole⟩ := spells_iff.mp spells
  have absent : outline [] = (.absent .theEnd, []) := by
    rw [outline, lex_nil]
    rfl
  cases absent.symm.trans read
  cases whole

theorem eq_null_of_spells {tree : Outline} (spells : Spells ['n', 'u', 'l', 'l'] tree) :
    tree = .null := by
  have null : outline ['n', 'u', 'l', 'l'] = (.null, []) := outline_chars .compact .null
  cases null.symm.trans (spells_iff.mp spells).1
  rfl

end Json

namespace Custody

/-! ## What a body tells -/

/-- The body tells the tree, among blanks. -/
def Tells (body : String) (tree : Outline) : Prop :=
  Spells (Text.trimChars body.toList) tree

theorem tells_chars (layout : Layout) (value : Json.Value) :
    Tells (String.ofList (value.chars layout 0)) value.outline := by
  rw [Tells, String.toList_ofList, Text.trimChars_of_trimmed (Json.trimmed_chars layout 0 value)]
  exact spells_iff.mpr ⟨Json.outline_chars layout value, value.outline_whole⟩

variable {α : Type} [Form α]

theorem content?_eq_some_iff {answer : Answer} {content : List Char} :
    answer.content? = some content ↔
      Text.trimChars answer.body.toList = content ∧ content ≠ [] ∧
        content ≠ ['n', 'u', 'l', 'l'] := by
  unfold Answer.content?
  dsimp only
  split
  · rename_i nothing
    refine ⟨nofun, ?_⟩
    rintro ⟨rfl, filled, told⟩
    exact absurd nothing (not_or.mpr ⟨filled, told⟩)
  · rename_i something
    constructor
    · rintro ⟨⟩
      exact ⟨rfl, not_or.mp something⟩
    · rintro ⟨rfl, _⟩
      rfl

/-- A record is read from a success exactly when its body tells a tree that stands for it. -/
theorem read_eq_ok_some_iff [Json.Locator] {answer : Answer} {value : α} :
    Answer.read α answer = .ok (some value) ↔
      200 ≤ answer.status ∧ answer.status ≤ 299 ∧ ∃ tree, Tells answer.body tree ∧
        ∃ content, (Form.shape α).read tree = .ok content ∧ Form.ofContent content = value := by
  constructor
  · intro told
    unfold Answer.read at told
    split at told
    · cases told
    · split at told
      · cases told
      · rename_i admitted success
        rw [not_or, Nat.not_lt, Nat.not_lt] at success
        refine ⟨success.1, success.2, ?_⟩
        split at told
        · cases told
        · rename_i content found
          split at told
          · rename_i record parsed
            cases told
            obtain ⟨held, parsed, same⟩ := map_eq_ok_iff.mp parsed
            obtain ⟨tree, spells, read⟩ := Shape.parse_eq_ok_iff.mp parsed
            rw [← (content?_eq_some_iff.mp found).1] at spells
            exact ⟨tree, spells, held, read, same⟩
          · cases told
  · rintro ⟨low, high, tree, tells, held, read, same⟩
    have filled : Text.trimChars answer.body.toList ≠ [] := by
      intro nothing
      rw [Tells, nothing] at tells
      exact Json.not_spells_nil tree tells
    have told : Text.trimChars answer.body.toList ≠ ['n', 'u', 'l', 'l'] := by
      intro null
      rw [Tells, null] at tells
      rw [Json.eq_null_of_spells tells] at read
      exact Shape.read_null_ne_ok _ held read
    have parsed : parseAs α (Text.trimChars answer.body.toList) = .ok value :=
      map_eq_ok_iff.mpr ⟨held, Shape.parse_eq_ok_iff.mpr ⟨tree, tells, read⟩, same⟩
    have admitted : ¬answer.status = 429 := by omega
    have success : ¬(answer.status < 200 ∨ 299 < answer.status) := by omega
    rw [Answer.read, if_neg admitted, if_neg success,
      content?_eq_some_iff.mpr ⟨rfl, filled, told⟩]
    simp only [parsed]

/-- A body from which a record is read tells a tree, and the same record is read from every body
that tells an edited tree. -/
theorem edited_body_reads [Json.Locator] {status : Nat} {retryAfter : Option String}
    {body : String} {value : α}
    (told : Answer.read α ⟨status, retryAfter, body⟩ = .ok (some value)) :
    (∃ tree, Tells body tree) ∧ ∀ tree other rewritten, Tells body tree →
      Relation.ReflTransGen (Edited (Form.shape α)) tree other → Tells rewritten other →
      Answer.read α ⟨status, retryAfter, rewritten⟩ = .ok (some value) := by
  obtain ⟨low, high, tree, tells, content, read, same⟩ := read_eq_ok_some_iff.mp told
  refine ⟨⟨tree, tells⟩, fun first other rewritten tellsFirst edits tellsOther => ?_⟩
  -- A body tells one tree at most.
  have unique : first = tree :=
    congrArg Prod.fst ((spells_iff.mp tellsFirst).1.symm.trans (spells_iff.mp tells).1)
  subst unique
  exact read_eq_ok_some_iff.mpr
    ⟨low, high, other, tellsOther, content, Json.read_of_edits edits read, same⟩

/-- A page with nothing in it but a cursor. -/
def plainPage : VaultPage :=
  ⟨[], some ⟨some "next"⟩⟩

/-- The same page with other members about the cursor, and without accounts. -/
def busyPage : Json.Value :=
  .object [("extra", .list [.null, .object []]),
    ("paging", .object [("total", .natural 7), ("after", .text "next")])]

theorem plainPage_edits :
    Relation.ReflTransGen (Edited (Form.shape VaultPage)) (toJson plainPage).outline
      busyPage.outline := by
  let paging : Outline → TextToken × Outline := (textToken "paging", ·)
  let extra : TextToken × Outline :=
    (textToken "extra", (Json.Value.list [.null, .object []]).outline)
  let cursor : Outline := .object ([] ++ [(textToken "after", .text (textToken "next"))]) .closed
  let counted : Outline :=
    .object ([] ++ (textToken "total", .number (Json.numberToken 7)) ::
      [(textToken "after", .text (textToken "next"))]) .closed
  have leftOut : Edited (Form.shape VaultPage)
      (.object ([] ++ (textToken "accounts", .list [] .closed) :: [paging cursor]) .closed)
      (.object ([] ++ [paging cursor]) .closed) :=
    .leftOut (textToken_value "accounts") rfl rfl
  have inserted : Edited (Form.shape VaultPage) (.object ([paging cursor] ++ []) .closed)
      (.object ([paging cursor] ++ extra :: []) .closed) :=
    .inserted (textToken_value "extra") rfl (Json.Value.outline_whole _)
  have permuted : Edited (Form.shape VaultPage) (.object [paging cursor, extra] .closed)
      (.object [extra, paging cursor] .closed) :=
    .permuted (.swap _ _ _)
  have field : Edited (Form.shape VaultPage) (.object ([extra] ++ paging cursor :: []) .closed)
      (.object ([extra] ++ paging counted :: []) .closed) :=
    .field (textToken_value "paging") rfl
      (.inserted (textToken_value "total") rfl (.number (Json.numberToken 7)))
  exact .head leftOut (.head inserted (.head permuted (.single field)))

def busyBody : String :=
  "\x7b\"extra\":[null,\x7b\x7d],\"paging\":\x7b\"total\":7,\"after\":\"next\"\x7d\x7d"

/-- The members of the page come in another order, two of them are ones that no field is named like,
and the empty list of accounts is left out. -/
theorem busyBody_reads : Answer.read VaultPage ⟨200, none, busyBody⟩ = .ok (some plainPage) := by
  have distinct : (Form.shape VaultPage).Distinct := by
    simp [Form.shape, Json.Shape.Distinct, Json.Fields.Distinct, Json.Fields.names]
  have told : Answer.read VaultPage
      ⟨200, none, String.ofList ((toJson plainPage).chars .compact 0)⟩ = .ok (some plainPage) :=
    read_eq_ok_some_iff.mpr ⟨by decide, by decide, _, tells_chars .compact (toJson plainPage),
      Form.content plainPage, Shape.read_write _ distinct _, rfl⟩
  have text : busyBody = String.ofList (busyPage.chars .compact 0) := by
    decide +kernel
  rw [text]
  exact (edited_body_reads told).2 _ _ _ (tells_chars .compact (toJson plainPage)) plainPage_edits
    (tells_chars .compact busyPage)

end Custody

end DepositDirectory
