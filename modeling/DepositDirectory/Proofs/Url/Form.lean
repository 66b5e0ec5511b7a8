import DepositDirectory.Proofs.Text.Split
import DepositDirectory.Proofs.Url.Percent
import DepositDirectory.Url.Form

/-!
# Form-encoded queries are read back

A form-encoded text is made of plain characters, plus signs and escapes.  None of them is a mark
that stands between a name and its value or between pairs, and a plus sign of the text itself is
escaped, so that every plus sign stands for a space.  Reading a text, and pairs of them, undoes the
encoding.
-/

namespace DepositDirectory.Url

open Text (splitAt utf8)

/-- A text of shown characters has a byte for each of them. -/
theorem utf8_of_shown {cs : List Char} (shown : ∀ c ∈ cs, isAlwaysEscaped c = false) :
    utf8 cs = cs.map fun c => UInt8.ofNat c.toNat := by
  induction cs with
  | nil => rfl
  | cons c cs ih =>
      have single := (utf8EncodeChar_of_shown (shown c List.mem_cons_self)).1
      rw [Text.utf8_cons, single, ih fun d member => shown d (List.mem_cons_of_mem c member)]
      rfl

/-- A byte of a text of shown characters is that of one of them. -/
theorem mem_of_mem_utf8 {cs : List Char} (shown : ∀ c ∈ cs, isAlwaysEscaped c = false) {d : Char}
    (ascii : d.toNat < 128) (member : UInt8.ofNat d.toNat ∈ utf8 cs) : d ∈ cs := by
  rw [utf8_of_shown shown] at member
  obtain ⟨c, inside, same⟩ := List.mem_map.mp member
  have small := (utf8EncodeChar_of_shown (shown c inside)).2
  have codes := congrArg UInt8.toNat same
  rw [Text.toNat_byte (by omega), Text.toNat_byte (by omega)] at codes
  rwa [Char.toNat_inj.mp codes] at inside

/-! ## What a form-encoded text is made of -/

theorem toNat_lt_of_isFormPlain {c : Char} (plain : isFormPlain c = true) : c.toNat < 0x7F := by
  delta isFormPlain Char.isAlphanum Char.isAlpha Char.isUpper Char.isLower Char.isDigit at plain
  simp only [Bool.or_eq_true, Bool.and_eq_true, decide_eq_true_eq, UInt32.le_iff_toNat_le,
    ge_iff_le] at plain
  change ((((((65 ≤ c.toNat ∧ c.toNat ≤ 90) ∨ (97 ≤ c.toNat ∧ c.toNat ≤ 122)) ∨
    (48 ≤ c.toNat ∧ c.toNat ≤ 57)) ∨ c = '*') ∨ c = '-') ∨ c = '.') ∨ c = '_' at plain
  rcases plain with (((letter | rfl) | rfl) | rfl) | rfl
  · omega
  all_goals decide

theorem shown_of_isFormPlain {c : Char} (plain : isFormPlain c = true) :
    isAlwaysEscaped c = false := by
  have table : ∀ n < 0x7F, isFormPlain (Char.ofNat n) = true →
      isAlwaysEscaped (Char.ofNat n) = false := by decide
  have known := table c.toNat (toNat_lt_of_isFormPlain plain)
  rw [Char.ofNat_toNat] at known
  exact known plain

/-- The characters that a form-encoded text is made of. -/
def isFormChar (c : Char) : Bool :=
  isFormPlain c || c = '+' || escapeChars.contains c

theorem isFormChar_of_mem {text : String} {c : Char} (member : c ∈ formText text) :
    isFormChar c = true := by
  obtain ⟨d, _, written⟩ := List.mem_flatMap.mp member
  unfold formChar at written
  split at written
  · rename_i plain
    rw [List.mem_singleton.mp written, isFormChar, plain]
    rfl
  · split at written
    · rw [List.mem_singleton.mp written]
      decide
    · obtain ⟨byte, _, inside⟩ := List.mem_flatMap.mp written
      have escape := mem_escapeChars_of_mem_escapedByte inside
      rw [isFormChar, List.contains_eq_mem, decide_eq_true escape, Bool.or_true]

theorem shown_of_isFormChar {c : Char} (written : isFormChar c = true) :
    isAlwaysEscaped c = false := by
  have shown : escapeChars.all (!isAlwaysEscaped ·) = true := by decide
  simp only [isFormChar, Bool.or_eq_true, decide_eq_true_eq, List.contains_eq_mem] at written
  rcases written with (plain | rfl) | escape
  · exact shown_of_isFormPlain plain
  · decide
  · simpa using List.all_eq_true.mp shown c escape

/-- A character that no encoding writes is not found among the bytes. -/
theorem not_mem_formText {text : String} {d : Char} (ascii : d.toNat < 128)
    (unwritten : isFormChar d = false) : UInt8.ofNat d.toNat ∉ utf8 (formText text) := by
  intro member
  have inside := mem_of_mem_utf8 (fun c written => shown_of_isFormChar (isFormChar_of_mem written))
    ascii member
  rw [isFormChar_of_mem inside] at unwritten
  cases unwritten

/-! ## One text -/

def withSpaces (bytes : List UInt8) : List UInt8 :=
  bytes.map fun b => if b = 0x2B then 0x20 else b

theorem withSpaces_append (before after : List UInt8) :
    withSpaces (before ++ after) = withSpaces before ++ withSpaces after :=
  List.map_append

theorem withSpaces_of_not_mem {bytes : List UInt8} (absent : 0x2B ∉ bytes) :
    withSpaces bytes = bytes := by
  refine (List.map_congr_left fun b member => if_neg ?_).trans (List.map_id bytes)
  rintro rfl
  exact absent member

theorem not_mem_escapedBytes (bytes : List UInt8) : 0x2B ∉ utf8 (bytes.flatMap escapedByte) := by
  have shown : escapeChars.all (!isAlwaysEscaped ·) = true := by decide
  have escapes : ∀ c ∈ bytes.flatMap escapedByte, c ∈ escapeChars := by
    intro c member
    obtain ⟨byte, _, inside⟩ := List.mem_flatMap.mp member
    exact mem_escapeChars_of_mem_escapedByte inside
  intro member
  have plus : '+' ∈ bytes.flatMap escapedByte := by
    refine mem_of_mem_utf8 (fun c inside => ?_) (by decide) member
    exact (Bool.not_eq_true' _).mp (List.all_eq_true.mp shown c (escapes c inside))
  exact absurd (escapes '+' plus) (by decide)

/-- A plain character is neither of the two bytes that reading takes for something else. -/
theorem utf8_of_isFormPlain {c : Char} (plain : isFormPlain c = true) :
    ∃ b, utf8 [c] = [b] ∧ b ≠ 0x2B ∧ b ≠ 0x25 := by
  have shown : ∀ d ∈ [c], isAlwaysEscaped d = false := by
    intro d member
    rw [List.mem_singleton.mp member]
    exact shown_of_isFormPlain plain
  have other {d : Char} (ascii : d.toNat < 128) (special : isFormPlain d = false) :
      UInt8.ofNat c.toNat ≠ UInt8.ofNat d.toNat := by
    intro same
    have member : UInt8.ofNat d.toNat ∈ utf8 [c] := by
      rw [utf8_of_shown shown, ← same]
      exact List.mem_singleton_self _
    rw [List.mem_singleton.mp (mem_of_mem_utf8 shown ascii member), plain] at special
    cases special
  exact ⟨_, utf8_of_shown shown, other (d := '+') (by decide) (by decide),
    other (d := '%') (by decide) (by decide)⟩

/-- What is written for a character is read back as its bytes. -/
theorem percentDecode_formChar (c : Char) (rest : List UInt8) :
    percentDecode (withSpaces (utf8 (formChar c) ++ rest)) =
      utf8 [c] ++ percentDecode (withSpaces rest) := by
  rw [withSpaces_append]
  unfold formChar
  split
  · rename_i plain
    obtain ⟨b, single, noPlus, noPercent⟩ := utf8_of_isFormPlain plain
    rw [single, withSpaces_of_not_mem (fun plus => noPlus (List.mem_singleton.mp plus).symm)]
    exact percentDecode_cons noPercent _
  · split
    · rename_i space
      subst space
      exact percentDecode_cons (by decide) _
    · rw [withSpaces_of_not_mem (not_mem_escapedBytes _), percentDecode_escapedBytes]

theorem percentDecode_formText (text : String) :
    percentDecode (withSpaces (utf8 (formText text))) = utf8 text.toList := by
  unfold formText
  induction text.toList with
  | nil => rfl
  | cons c cs ih =>
      rw [List.flatMap_cons, Text.utf8_append, percentDecode_formChar, ih, ← Text.utf8_append]
      rfl

theorem ofFormText_formText (text : String) : ofFormText (utf8 (formText text)) = text := by
  have decoded := percentDecode_formText text
  rw [withSpaces] at decoded
  rw [ofFormText, decoded, Text.ofUtf8_utf8, String.ofList_toList]

/-! ## Pairs -/

/-- A mark stands between a name and its value. -/
theorem utf8_formPair (pair : String × String) :
    utf8 (formPair pair) = utf8 (formText pair.1) ++ 0x3D :: utf8 (formText pair.2) := by
  rw [formPair, Text.utf8_append, Text.utf8_cons]
  rfl

theorem filter_formPair (pair : String × String) (parts : List (List UInt8)) :
    (utf8 (formPair pair) :: parts).filter (· ≠ []) =
      utf8 (formPair pair) :: parts.filter (· ≠ []) := by
  refine List.filter_cons_of_pos (decide_eq_true ?_)
  rw [utf8_formPair]
  exact List.append_ne_nil_of_right_ne_nil _ (List.cons_ne_nil _ _)

theorem not_mem_formPair (pair : String × String) : 0x26 ∉ utf8 (formPair pair) := by
  have free (text : String) : 0x26 ∉ utf8 (formText text) :=
    not_mem_formText (d := '&') (by decide) (by decide)
  rw [utf8_formPair, List.mem_append, List.mem_cons]
  rintro (name | mark | value)
  · exact free pair.1 name
  · exact absurd mark (by decide)
  · exact free pair.2 value

theorem ofFormPair_formPair (pair : String × String) :
    ofFormPair (utf8 (formPair pair)) = pair := by
  have noMark : ∀ b ∈ utf8 (formText pair.1), decide (b ≠ 0x3D) = true := by
    rintro b member
    refine decide_eq_true ?_
    rintro rfl
    exact not_mem_formText (d := '=') (by decide) (by decide) member
  rw [ofFormPair, utf8_formPair, List.takeWhile_append_of_pos noMark,
    List.dropWhile_append_of_pos noMark]
  change (ofFormText (utf8 (formText pair.1) ++ []), ofFormText (utf8 (formText pair.2))) = pair
  rw [List.append_nil, ofFormText_formText, ofFormText_formText]

theorem ofFormPairs_formPairs (pairs : List (String × String)) :
    ofFormPairs (String.ofList (formPairs pairs)) = pairs := by
  rw [ofFormPairs, String.toList_ofList]
  induction pairs with
  | nil => rfl
  | cons pair pairs ih =>
      cases pairs with
      | nil =>
          have single : formPairs [pair] = formPair pair := List.intercalate_singleton
          rw [single, Text.splitAt_of_not_mem (not_mem_formPair pair), filter_formPair]
          exact congrArg ([·]) (ofFormPair_formPair pair)
      | cons next rest =>
          have cons : formPairs (pair :: next :: rest) =
              formPair pair ++ '&' :: formPairs (next :: rest) := by
            rw [formPairs, List.map_cons, List.map_cons, List.intercalate_cons_cons,
              List.append_assoc]
            rfl
          have bytes : utf8 (formPairs (pair :: next :: rest)) =
              utf8 (formPair pair) ++ 0x26 :: utf8 (formPairs (next :: rest)) := by
            rw [cons, Text.utf8_append, Text.utf8_cons]
            rfl
          rw [bytes, Text.splitAt_append_cons (not_mem_formPair pair), filter_formPair,
            List.map_cons, ih, ofFormPair_formPair]

end DepositDirectory.Url
