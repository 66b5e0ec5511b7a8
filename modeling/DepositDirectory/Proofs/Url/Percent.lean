import DepositDirectory.Proofs.Text.Lowercase
import DepositDirectory.Proofs.Text.Utf8
import DepositDirectory.Url.Reader
import Mathlib.Data.List.Infix

/-!
# Percent escapes are undone

Escaping writes a character as it is or as the escapes of its bytes.  When the percent sign itself
is escaped, undoing the escapes gives the bytes of the text back.  What has been escaped needs no
escape any more.  No escape spells a dot, so escaping turns nothing into dots that were not dots
before.
-/

namespace DepositDirectory.Url

open Text (utf8)

/-! ## Undoing escapes -/

theorem percentDecode_cons {b : UInt8} (other : b ≠ 0x25) (rest : List UInt8) :
    percentDecode (b :: rest) = b :: percentDecode rest := by
  match rest with
  | [] => rfl
  | [_] => rfl
  | _ :: _ :: _ => rw [percentDecode, if_neg other]

/-- The digits of an escape are ASCII and have their values. -/
theorem hexByte?_upperHexDigit : ∀ n < 16, ∃ b, String.utf8EncodeChar (upperHexDigit n) = [b] ∧
    hexByte? b = some n := by
  intro n small
  refine ⟨UInt8.ofNat (upperHexDigit n).toNat, ?_⟩
  revert n
  decide

theorem percentDecode_escapedByte (byte : UInt8) (rest : List UInt8) :
    percentDecode (utf8 (escapedByte byte) ++ rest) = byte :: percentDecode rest := by
  have bound : byte.toNat < 256 := byte.toNat_lt
  obtain ⟨high, first, highValue⟩ := hexByte?_upperHexDigit (byte.toNat / 16) (by omega)
  obtain ⟨low, second, lowValue⟩ := hexByte?_upperHexDigit (byte.toNat % 16) (by omega)
  have written : utf8 (escapedByte byte) ++ rest = 0x25 :: high :: low :: rest := by
    rw [escapedByte, Text.utf8_cons, Text.utf8_cons, Text.utf8_cons, first, second]
    rfl
  have whole : byte.toNat / 16 * 16 + byte.toNat % 16 = byte.toNat := by omega
  rw [written, percentDecode, if_pos rfl, highValue, lowValue]
  dsimp only
  rw [whole, UInt8.ofNat_toNat]

theorem percentDecode_escapedBytes (bytes rest : List UInt8) :
    percentDecode (utf8 (bytes.flatMap escapedByte) ++ rest) = bytes ++ percentDecode rest := by
  induction bytes with
  | nil => rfl
  | cons byte bytes ih =>
      rw [List.flatMap_cons, Text.utf8_append, List.append_assoc, percentDecode_escapedByte, ih,
        List.cons_append]

theorem utf8EncodeChar_of_shown {c : Char} (shown : isAlwaysEscaped c = false) :
    String.utf8EncodeChar c = [UInt8.ofNat c.toNat] ∧ c.toNat < 0x7F := by
  simp only [isAlwaysEscaped, Bool.or_eq_false_iff, decide_eq_false_iff_not, Nat.not_lt] at shown
  have small : c.val.toNat ≤ 127 := Nat.le_trans shown.2 (by decide)
  refine ⟨?_, Nat.lt_succ_of_le shown.2⟩
  unfold String.utf8EncodeChar
  exact if_pos small

/-- Undoing the escapes of a text in which percent signs are escaped too gives its bytes. -/
theorem percentDecode_percentEncode {set : List Char} (closed : set.contains '%' = true)
    (cs : List Char) : percentDecode (utf8 (percentEncode set cs)) = utf8 cs := by
  induction cs with
  | nil => rfl
  | cons c cs ih =>
      rw [percentEncode, List.flatMap_cons, ← percentEncode, Text.utf8_append]
      split
      · rw [percentDecode_escapedBytes, ih, Text.utf8_cons, Text.utf8_cons, Text.utf8_nil,
          List.append_nil]
      · rename_i plain
        simp only [Bool.or_eq_true, not_or, Bool.not_eq_true] at plain
        obtain ⟨single, small⟩ := utf8EncodeChar_of_shown plain.1
        have other : UInt8.ofNat c.toNat ≠ 0x25 := by
          intro same
          have code : c.toNat = 0x25 := by
            have bytes := congrArg UInt8.toNat same
            rwa [Text.toNat_byte (by omega)] at bytes
          have percent : c = '%' := Char.toNat_inj.mp code
          rw [percent, closed] at plain
          exact Bool.noConfusion plain.2
        rw [Text.utf8_cons, Text.utf8_cons, Text.utf8_nil, List.append_nil, single,
          List.singleton_append, percentDecode_cons other, ih, List.singleton_append]

/-! ## What an escaped text is made of -/

def escapeChars : List Char := "%0123456789ABCDEF".toList

theorem upperHexDigit_mem : ∀ n < 16, upperHexDigit n ∈ escapeChars := by
  decide

theorem mem_escapeChars_of_mem_escapedByte {byte : UInt8} {c : Char}
    (member : c ∈ escapedByte byte) : c ∈ escapeChars := by
  have bound : byte.toNat < 256 := byte.toNat_lt
  rcases List.mem_cons.mp member with rfl | member
  · decide
  · rcases List.mem_cons.mp member with rfl | member
    · exact upperHexDigit_mem _ (by omega)
    · rw [List.mem_singleton.mp member]
      exact upperHexDigit_mem _ (by omega)

/-- A character of an escaped text belongs to an escape, or was there and needs none. -/
theorem mem_percentEncode {set cs : List Char} {c : Char} (member : c ∈ percentEncode set cs) :
    c ∈ escapeChars ∨ c ∈ cs ∧ isAlwaysEscaped c = false ∧ set.contains c = false := by
  obtain ⟨d, among, written⟩ := List.mem_flatMap.mp member
  split at written
  · obtain ⟨byte, _, inside⟩ := List.mem_flatMap.mp written
    exact Or.inl (mem_escapeChars_of_mem_escapedByte inside)
  · rename_i plain
    simp only [Bool.or_eq_true, not_or, Bool.not_eq_true] at plain
    rw [List.mem_singleton.mp written]
    exact Or.inr ⟨among, plain⟩

/-- A text in which nothing of a set is left to escape. -/
def Escaped (set cs : List Char) : Prop :=
  ∀ c ∈ cs, isAlwaysEscaped c = false ∧ set.contains c = false

/-- What is escaped is not left, and an escape is free of most other characters. -/
theorem escaped_percentEncode {set less : List Char} (fewer : less ⊆ set)
    (free : escapeChars.all (!less.contains ·) = true) (cs : List Char) :
    Escaped less (percentEncode set cs) := by
  have shown : escapeChars.all (!isAlwaysEscaped ·) = true := by decide
  intro c member
  rcases mem_percentEncode member with escape | ⟨_, plain, outside⟩
  · have left := List.all_eq_true.mp shown c escape
    have apart := List.all_eq_true.mp free c escape
    rw [Bool.not_eq_true'] at left apart
    exact ⟨left, apart⟩
  · refine ⟨plain, ?_⟩
    rw [List.contains_eq_mem, decide_eq_false_iff_not] at outside ⊢
    exact fun inside => outside (fewer inside)

theorem Escaped.mono {set less cs : List Char} (escaped : Escaped set cs) (fewer : less ⊆ set) :
    Escaped less cs := by
  intro c member
  obtain ⟨shown, outside⟩ := escaped c member
  refine ⟨shown, ?_⟩
  rw [List.contains_eq_mem, decide_eq_false_iff_not] at outside ⊢
  exact fun inside => outside (fewer inside)

theorem percentEncode_of_escaped {set cs : List Char} (escaped : Escaped set cs) :
    percentEncode set cs = cs := by
  induction cs with
  | nil => rfl
  | cons c cs ih =>
      obtain ⟨shown, outside⟩ := escaped c List.mem_cons_self
      rw [percentEncode, List.flatMap_cons, ← percentEncode,
        ih fun d member => escaped d (List.mem_cons_of_mem c member), shown, outside]
      rfl

theorem clean_of_escaped {set cs : List Char} (escaped : Escaped set cs) : clean cs = cs := by
  refine List.filter_eq_self.mpr fun c member => ?_
  have shown := (escaped c member).1
  by_contra dropped
  simp only [isDropped, Bool.not_eq_true', Bool.not_eq_false, Bool.or_eq_true,
    decide_eq_true_eq] at dropped
  rcases dropped with (rfl | rfl) | rfl <;> exact absurd shown (by decide)

/-! ## Dots -/

def dotSpellings : List (List Char) :=
  [".", "%2e", "..", "%2e%2e", "%2e.", ".%2e"].map String.toList

/-- Whether a component is one dot or two, in whatever spelling. -/
def isDots (component : List Char) : Bool :=
  isSingleDot component || isDoubleDot component

theorem lowered_mem_dotSpellings {component : List Char} (dots : isDots component = true) :
    component.map Char.toLower ∈ dotSpellings := by
  simp only [isDots, isSingleDot, isDoubleDot, Bool.or_eq_true, List.contains_eq_mem,
    decide_eq_true_eq] at dots
  rw [← String.toList_ofList (l := component.map Char.toLower)]
  rcases dots with single | double
  · exact List.mem_map_of_mem (List.mem_of_mem_take (i := 2) single)
  · exact List.mem_map_of_mem (List.mem_of_mem_drop (i := 2) double)

theorem escapedByte_not_infix_dots : ∀ n < 256, n ≠ 0x2E → ∀ spelling ∈ dotSpellings,
    ¬ (escapedByte (UInt8.ofNat n)).map Char.toLower <:+: spelling := by
  decide +kernel

theorem eq_dot_of_first {c : Char} {more : List UInt8}
    (bytes : String.utf8EncodeChar c = 0x2E :: more) : c = '.' := by
  obtain ⟨first, rest, same, read⟩ := Text.readScalar_utf8EncodeChar c []
  rw [bytes] at same
  obtain ⟨rfl, rfl⟩ := List.cons.inj same
  have dot : Text.readScalar 0x2E (more ++ []) = (some '.', 0) := rfl
  rw [dot] at read
  exact (Option.some.inj (Prod.mk.inj read).1).symm

/-- Where a character has to be escaped, the escape of a byte other than that of the dot is
found. -/
theorem exists_escape {set cs : List Char} (undotted : set.contains '.' = false)
    (changed : ¬ Escaped set cs) :
    ∃ n < 256, n ≠ 0x2E ∧ escapedByte (UInt8.ofNat n) <:+: percentEncode set cs := by
  have found : ∃ c ∈ cs, (isAlwaysEscaped c || set.contains c) = true := by
    by_contra none
    push Not at none
    exact changed fun c member => Bool.or_eq_false_iff.mp (Bool.eq_false_iff.mpr (none c member))
  obtain ⟨c, member, escaped⟩ := found
  obtain ⟨first, more, bytes, _⟩ := Text.readScalar_utf8EncodeChar c []
  refine ⟨first.toNat, first.toNat_lt, ?_, ?_⟩
  · intro same
    have dot : first = 0x2E := UInt8.toNat_inj.mp same
    rw [dot] at bytes
    rw [eq_dot_of_first bytes, undotted] at escaped
    exact absurd escaped (by decide)
  · obtain ⟨before, after, rfl⟩ := List.append_of_mem member
    refine ⟨percentEncode set before, more.flatMap escapedByte ++ percentEncode set after, ?_⟩
    rw [UInt8.ofNat_toNat]
    simp only [percentEncode, List.flatMap_append, List.flatMap_cons, escaped, if_true,
      Text.utf8_cons, Text.utf8_nil, List.append_nil, bytes, List.append_assoc]

/-- A text whose escaped form is dots, in whatever spelling, has nothing to escape. -/
theorem escaped_of_isDots {set cs : List Char} (undotted : set.contains '.' = false)
    (dots : isDots (percentEncode set cs) = true) : Escaped set cs := by
  by_contra changed
  obtain ⟨n, small, other, found⟩ := exists_escape undotted changed
  exact escapedByte_not_infix_dots n small other _ (lowered_mem_dotSpellings dots) (found.map _)

theorem eq_of_toLower {c d : Char} (mark : d = '.' ∨ d = '%') (lowered : c.toLower = d) :
    c = d := by
  have capitals : ∀ i < 26, (Char.ofNat (65 + i)).toLower ≠ '.' ∧
      (Char.ofNat (65 + i)).toLower ≠ '%' := by decide
  rcases Text.toLower_cases c with same | ⟨i, small, rfl⟩
  · exact same.symm.trans lowered
  · obtain ⟨notDot, notPercent⟩ := capitals i small
    rcases mark with rfl | rfl
    · exact absurd lowered notDot
    · exact absurd lowered notPercent

theorem eq_dots_of_isDots {cs : List Char} (plain : '%' ∉ cs) (dots : isDots cs = true) :
    cs = ['.'] ∨ cs = ['.', '.'] := by
  have unescaped : '%' ∉ cs.map Char.toLower := by
    intro member
    obtain ⟨c, inside, lowered⟩ := List.mem_map.mp member
    exact plain (eq_of_toLower (Or.inr rfl) lowered ▸ inside)
  have spellings : ∀ spelling ∈ dotSpellings, '%' ∉ spelling →
      spelling = ['.'] ∨ spelling = ['.', '.'] := by decide
  have dot {c : Char} : c.toLower = '.' → c = '.' := eq_of_toLower (Or.inl rfl)
  rcases spellings _ (lowered_mem_dotSpellings dots) unescaped with one | two
  · obtain ⟨c, rfl, lowered⟩ := List.map_eq_singleton_iff.mp one
    exact Or.inl (by rw [dot lowered])
  · obtain ⟨c, rest, rfl, first, others⟩ := List.map_eq_cons_iff.mp two
    obtain ⟨d, rfl, second⟩ := List.map_eq_singleton_iff.mp others
    exact Or.inr (by rw [dot first, dot second])

end DepositDirectory.Url
