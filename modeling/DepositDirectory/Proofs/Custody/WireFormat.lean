import DepositDirectory.Custody.Answer
import DepositDirectory.Custody.Wallet
import DepositDirectory.Proofs.Json.Shapes
import DepositDirectory.Proofs.Text.Trimming
import DepositDirectory.Report

/-!
# The wire format

The records that the custody service tells and the documents that the command line prints share one
wire format.  A record that was written in it, compact or in lines, is read back as that record from
the body of a success, whatever characters its texts hold and whatever blanks surround it: it is
never taken for a body that says nothing, and it never fails to be read.
-/

namespace DepositDirectory

open Json (Form Layout Value outline outline_chars parseAs_chars toJson)

/-! ## Blanks around a written value -/

namespace Json

theorem chars_front (layout : Layout) (depth : Nat) (value : Value) :
    ∃ c rest, value.chars layout depth = c :: rest ∧ Text.isBlank c = false := by
  cases value with
  | null => exact ⟨'n', _, rfl, by decide⟩
  | natural n =>
      obtain ⟨c, rest, written⟩ := List.exists_cons_of_ne_nil (Text.repr_ne_nil n)
      have digit : c.isDigit = true :=
        Text.isDigit_of_mem_repr (n := n) (written ▸ List.mem_cons_self)
      exact ⟨c, rest, written, Text.isBlank_of_isDigit digit⟩
  | text content => exact ⟨'"', _, rfl, by decide⟩
  | list items =>
      cases items with
      | nil => exact ⟨'[', _, rfl, by decide⟩
      | cons item items => exact ⟨'[', _, rfl, by decide⟩
  | object members =>
      cases members with
      | nil => exact ⟨'\x7b', _, rfl, by decide⟩
      | cons member members => exact ⟨'\x7b', _, rfl, by decide⟩

theorem chars_back (layout : Layout) (depth : Nat) (value : Value) :
    ∃ front c, value.chars layout depth = front ++ [c] ∧ Text.isBlank c = false := by
  cases value with
  | null => exact ⟨['n', 'u', 'l'], 'l', rfl, by decide⟩
  | natural n =>
      have last := List.dropLast_concat_getLast (Text.repr_ne_nil n)
      have digit := Text.isDigit_of_mem_repr (List.getLast_mem (Text.repr_ne_nil n))
      exact ⟨_, _, last.symm, Text.isBlank_of_isDigit digit⟩
  | text content => exact ⟨_, '"', rfl, by decide⟩
  | list items =>
      cases items with
      | nil => exact ⟨['['], ']', rfl, by decide⟩
      | cons item items => exact ⟨_, ']', rfl, by decide⟩
  | object members =>
      cases members with
      | nil => exact ⟨['\x7b'], '\x7d', rfl, by decide⟩
      | cons member members => exact ⟨_, '\x7d', rfl, by decide⟩

theorem trimmed_chars (layout : Layout) (depth : Nat) (value : Value) :
    Text.Trimmed (value.chars layout depth) := by
  constructor
  · obtain ⟨c, rest, written, other⟩ := chars_front layout depth value
    intro d head
    rw [written] at head
    cases head
    exact other
  · obtain ⟨front, c, written, other⟩ := chars_back layout depth value
    intro d last
    rw [written, List.getLast?_concat] at last
    cases last
    exact other

theorem chars_ne_nil (layout : Layout) (depth : Nat) (value : Value) :
    value.chars layout depth ≠ [] := by
  obtain ⟨c, rest, written, _⟩ := chars_front layout depth value
  rw [written]
  exact List.cons_ne_nil c rest

theorem chars_ne_null {value : Value} (filled : value.outline ≠ .null) (layout : Layout) :
    value.chars layout 0 ≠ ['n', 'u', 'l', 'l'] := by
  intro same
  have null : outline ['n', 'u', 'l', 'l'] = (.null, []) := outline_chars layout .null
  have read := outline_chars layout value
  rw [same, null] at read
  exact filled (congrArg Prod.fst read).symm

end Json

/-! ## Answers that tell a record -/

namespace Custody

variable {α : Type} [Form α]

theorem content?_surrounded (answer : Answer) {before after : List Char} {value : Value}
    {layout : Layout} (body : answer.body.toList = before ++ value.chars layout 0 ++ after)
    (blankBefore : ∀ c ∈ before, Text.isBlank c = true)
    (blankAfter : ∀ c ∈ after, Text.isBlank c = true) (filled : value.outline ≠ .null) :
    answer.content? = some (value.chars layout 0) := by
  have trimmed : Text.trimChars answer.body.toList = value.chars layout 0 := by
    rw [body]
    exact Text.trimChars_surrounded (Json.trimmed_chars layout 0 value)
      (Json.chars_ne_nil layout 0 value) blankBefore blankAfter
  rw [Answer.content?, trimmed]
  exact if_neg (not_or.mpr ⟨Json.chars_ne_nil layout 0 value, Json.chars_ne_null filled layout⟩)

/-- However a value of the type is written, a success that tells it among blanks is read as that
value. -/
def ReadsBack (α : Type) [Form α] [Json.Locator] : Prop :=
  ∀ (value : α) (text before after : String) (status : Nat) (retryAfter : Option String),
    text = (toJson value).compact ∨ text = (toJson value).pretty →
    before.toList.all Text.isBlank = true → after.toList.all Text.isBlank = true →
    200 ≤ status → status ≤ 299 →
    Answer.read α ⟨status, retryAfter, before ++ text ++ after⟩ = .ok (some value)

theorem readsBack_of_distinct [Json.Locator] (distinct : (Form.shape α).Distinct) :
    ReadsBack α := by
  intro value text before after status retryAfter written blankBefore blankAfter low high
  obtain ⟨layout, rfl⟩ : ∃ layout, text = String.ofList ((toJson value).chars layout 0) := by
    rcases written with written | written
    · exact ⟨.compact, written⟩
    · exact ⟨.pretty, written⟩
  have body : (before ++ String.ofList ((toJson value).chars layout 0) ++ after).toList =
      before.toList ++ (toJson value).chars layout 0 ++ after.toList := by
    rw [String.toList_append, String.toList_append, String.toList_ofList]
  have content := content?_surrounded ⟨status, retryAfter, _⟩ body
    (List.all_eq_true.mp blankBefore) (List.all_eq_true.mp blankAfter)
    (Json.Shape.outline_write_ne_null _ _)
  have admitted : ¬status = 429 := by omega
  have success : ¬(status < 200 ∨ 299 < status) := by omega
  rw [Answer.read, if_neg admitted, if_neg success, content]
  simp only [parseAs_chars distinct]

/-- Every record of the wire format is read back as it was written. -/
theorem wireFormat_readsBack [Json.Locator] :
    ReadsBack VaultPage ∧ ReadsBack Paging ∧ ReadsBack VaultAccount ∧ ReadsBack AssetHolding ∧
      ReadsBack DepositAddress ∧ ReadsBack (List DepositAddress) ∧ ReadsBack AssetDetails ∧
      ReadsBack OnchainDetails ∧ ReadsBack AssetBalance ∧ ReadsBack Directory.Row ∧
      ReadsBack ResolveReport ∧ ReadsBack BalanceReport := by
  refine ⟨?_, ?_, ?_, ?_, ?_, ?_, ?_, ?_, ?_, ?_, ?_, ?_⟩
  all_goals
    refine readsBack_of_distinct ?_
    simp [Form.shape, Json.Shape.Distinct, Json.Fields.Distinct, Json.Fields.names]

/-- The cursor of the page holds a control character, a quote and a backslash; the blanks around
the body are wide ones. -/
theorem wireFormat_readsBack_escaped :
    Answer.read VaultPage ⟨206, some "soon", "\u3000\n" ++
        "\x7b\"accounts\":[],\"paging\":\x7b\"after\":\"\\u001f\\\"\\\\\"\x7d\x7d" ++ "\u00a0"⟩ =
      .ok (some ⟨[], some ⟨some "\x1f\"\\"⟩⟩) :=
  wireFormat_readsBack.1 ⟨[], some ⟨some "\x1f\"\\"⟩⟩ _ _ _ 206 (some "soon")
    (.inl (by decide +kernel)) (by decide) (by decide) (by decide) (by decide)

end Custody

end DepositDirectory
