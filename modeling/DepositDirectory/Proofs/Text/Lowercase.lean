import DepositDirectory.Proofs.Text.Trimming
import DepositDirectory.Text.Lowercase

/-!
# What lower-casing leaves

Lower-casing leaves no character that it would change again: no lower-case form is the capital of
another one, by the table of spans.  So a text that was lower-cased stays as it is when it is
lower-cased once more, in full or in its ASCII letters only, and it makes no difference to the full
lower-case form whether the ASCII letters are lower-cased before.  Blank characters have no case.
-/

namespace DepositDirectory.Text

/-! ## The table of spans -/

namespace CaseSpan

/-- A code point with a lower-case form in the span is at one of its places. -/
theorem exists_place {span : CaseSpan} {n m : Nat} (lowered : span.lower? n = some m) :
    ∃ i < span.count, n = span.first + i * span.step ∧ m = span.image + i * span.step := by
  simp only [lower?, Option.ite_none_right_eq_some, Option.some.injEq] at lowered
  obtain ⟨⟨from_first, short, whole⟩, rfl⟩ := lowered
  have place : (n - span.first) / span.step * span.step = n - span.first :=
    Nat.div_mul_cancel (Nat.dvd_of_mod_eq_zero whole)
  refine ⟨(n - span.first) / span.step, Nat.div_lt_of_lt_mul ?_, ?_, ?_⟩
  · rw [Nat.mul_comm]
    exact short
  · rw [place]
    omega
  · rw [place]

/-- The lower-case forms of a span are no capitals of another: they end before these begin, begin
after these end, or lie between them. -/
def apart (span other : CaseSpan) : Bool :=
  Nat.blt (span.image + (span.count - 1) * span.step) other.first ||
    (Nat.blt (other.first + (other.count - 1) * other.step) span.image ||
      ((Nat.beq (span.step % 2) 0 || Nat.beq span.count 1) &&
        (Nat.beq (other.step % 2) 0 && Nat.beq ((span.image + other.first) % 2) 1)))

theorem lower?_image_of_apart {span other : CaseSpan} (apart : span.apart other = true) {i : Nat}
    (place : i < span.count) : other.lower? (span.image + i * span.step) = none := by
  cases lowered : other.lower? (span.image + i * span.step) with
  | none => rfl
  | some m =>
      obtain ⟨j, there, same, _⟩ := exists_place lowered
      have within : i * span.step ≤ (span.count - 1) * span.step :=
        Nat.mul_le_mul_right _ (Nat.le_pred_of_lt place)
      have beyond : j * other.step ≤ (other.count - 1) * other.step :=
        Nat.mul_le_mul_right _ (Nat.le_pred_of_lt there)
      simp only [CaseSpan.apart, Bool.or_eq_true, Bool.and_eq_true, Nat.blt_eq,
        Nat.beq_eq] at apart
      rcases apart with before | after | ⟨even, evenToo, odd⟩
      · omega
      · omega
      · have first : i * span.step % 2 = 0 := by
          rcases even with even | single
          · rw [Nat.mul_mod, even, Nat.mul_zero]
          · rw [single] at place
            rw [Nat.lt_one_iff.mp place, Nat.zero_mul]
        have second : j * other.step % 2 = 0 := by
          rw [Nat.mul_mod, evenToo, Nat.mul_zero]
        omega

end CaseSpan

theorem caseSpans_apart : (caseSpans.all fun span => caseSpans.all span.apart) = true := by
  decide +kernel

/-- No capital is blank, and no lower-case form is blank or a capital I with a dot. -/
theorem caseSpans_lettered : ∀ span ∈ caseSpans, ∀ i < span.count,
    isBlank (Char.ofNat (span.first + i * span.step)) = false ∧
      (span.image + i * span.step).isValidChar ∧
      isBlank (Char.ofNat (span.image + i * span.step)) = false ∧
      span.image + i * span.step ≠ 'İ'.toNat := by
  decide +kernel

/-- A character of its own lower-case form, or one of the span's places. -/
theorem lowerChar_cases (c : Char) :
    lowerChar c = c ∨ ∃ span ∈ caseSpans, ∃ i < span.count,
      c = Char.ofNat (span.first + i * span.step) ∧
        lowerChar c = Char.ofNat (span.image + i * span.step) := by
  unfold lowerChar
  cases lowered : caseSpans.findSome? (·.lower? c.toNat) with
  | none => exact Or.inl rfl
  | some m =>
      obtain ⟨span, member, found⟩ := List.exists_of_findSome?_eq_some lowered
      obtain ⟨i, place, from_first, rfl⟩ := CaseSpan.exists_place found
      refine Or.inr ⟨span, member, i, place, ?_, rfl⟩
      rw [← from_first, Char.ofNat_toNat]

/-! ## Characters that lower-casing leaves as they are -/

/-- Lower-casing leaves the character as it is, wherever it stands. -/
structure Settled (c : Char) : Prop where
  kept : lowerChar c = c
  undotted : c ≠ 'İ'

theorem Settled.ne_sigma {c : Char} (settled : Settled c) : c ≠ 'Σ' := by
  rintro rfl
  exact absurd settled.kept (by decide)

theorem toNat_ofNat_of_valid {n : Nat} (valid : n.isValidChar) : (Char.ofNat n).toNat = n := by
  rw [Char.ofNat, dif_pos valid]
  rfl

theorem settled_lowerChar {c : Char} (undotted : c ≠ 'İ') : Settled (lowerChar c) := by
  rcases lowerChar_cases c with same | ⟨span, member, i, place, _, same⟩
  · rw [same]
    exact ⟨same, undotted⟩
  · obtain ⟨_, valid, _, other⟩ := caseSpans_lettered span member i place
    have code := toNat_ofNat_of_valid valid
    have none_lowers : caseSpans.findSome? (·.lower? (span.image + i * span.step)) = none := by
      refine List.findSome?_eq_none_iff.mpr fun further among => ?_
      have apart := List.all_eq_true.mp (List.all_eq_true.mp caseSpans_apart span member)
        further among
      exact CaseSpan.lower?_image_of_apart apart place
    rw [same]
    constructor
    · rw [lowerChar, code, none_lowers]
    · intro dotted
      rw [dotted] at code
      exact other code.symm

theorem isBlank_lowerChar (c : Char) : isBlank (lowerChar c) = isBlank c := by
  rcases lowerChar_cases c with same | ⟨span, member, i, place, rfl, same⟩
  · rw [same]
  · obtain ⟨capital, _, small, _⟩ := caseSpans_lettered span member i place
    rw [same, small, capital]

/-- Lower-casing a character makes one or two settled ones of it, which are blank if it is. -/
theorem lowerBetween_spec (before : List Char) (c : Char) (after : List Char) :
    lowerBetween before c after ≠ [] ∧
      ∀ d ∈ lowerBetween before c after, Settled d ∧ isBlank d = isBlank c := by
  have small {d : Char} (kept : lowerChar d = d) (undotted : d ≠ 'İ') : Settled d :=
    ⟨kept, undotted⟩
  unfold lowerBetween
  split
  · rename_i sigma
    subst sigma
    split
    · refine ⟨List.cons_ne_nil _ _, ?_⟩
      simp only [List.mem_singleton, forall_eq]
      exact ⟨small (by decide) (by decide), by decide⟩
    · refine ⟨List.cons_ne_nil _ _, ?_⟩
      simp only [List.mem_singleton, forall_eq]
      exact ⟨small (by decide) (by decide), by decide⟩
  · split
    · rename_i dotted
      subst dotted
      refine ⟨List.cons_ne_nil _ _, ?_⟩
      simp only [List.mem_cons, List.not_mem_nil, or_false, forall_eq_or_imp, forall_eq]
      exact ⟨⟨small (by decide) (by decide), by decide⟩, small (by decide) (by decide), by decide⟩
    · rename_i undotted
      refine ⟨List.cons_ne_nil _ _, ?_⟩
      simp only [List.mem_singleton, forall_eq]
      exact ⟨settled_lowerChar undotted, isBlank_lowerChar c⟩

theorem lowerBetween_of_settled {before after : List Char} {c : Char} (settled : Settled c) :
    lowerBetween before c after = [c] := by
  rw [lowerBetween, if_neg settled.ne_sigma, if_neg settled.undotted, settled.kept]

/-! ## Lower-casing once more -/

theorem settled_of_mem_lowerFrom {before cs : List Char} {d : Char}
    (member : d ∈ lowerFrom before cs) : Settled d := by
  induction cs generalizing before with
  | nil => cases member
  | cons c after ih =>
      rcases List.mem_append.mp member with first | later
      · exact ((lowerBetween_spec before c after).2 d first).1
      · exact ih later

theorem lowerFrom_of_settled {before cs : List Char} (settled : ∀ c ∈ cs, Settled c) :
    lowerFrom before cs = cs := by
  induction cs generalizing before with
  | nil => rfl
  | cons c after ih =>
      rw [lowerFrom, lowerBetween_of_settled (settled c List.mem_cons_self),
        ih fun d member => settled d (List.mem_cons_of_mem c member)]
      rfl

theorem lowerChars_lowerChars (cs : List Char) : lowerChars (lowerChars cs) = lowerChars cs :=
  lowerFrom_of_settled fun _ => settled_of_mem_lowerFrom

/-! ## The ASCII letters -/

/-- Only the ASCII capitals have an ASCII lower-case form of their own. -/
theorem toLower_cases (c : Char) : c.toLower = c ∨ ∃ i < 26, c = Char.ofNat (65 + i) := by
  unfold Char.toLower
  split
  · rename_i capital
    have low : 65 ≤ c.toNat := capital.1
    have high : c.toNat ≤ 90 := capital.2
    refine Or.inr ⟨c.toNat - 65, by omega, ?_⟩
    rw [Nat.add_sub_cancel' low, Char.ofNat_toNat]
  · exact Or.inl rfl

theorem capitals_lowered : ∀ i < 26, lowerChar (Char.ofNat (65 + i)) ≠ Char.ofNat (65 + i) ∧
    lowerChar (Char.ofNat (65 + i)).toLower = lowerChar (Char.ofNat (65 + i)) ∧
    Char.ofNat (65 + i) ≠ 'Σ' ∧ Char.ofNat (65 + i) ≠ 'İ' ∧
    (Char.ofNat (65 + i)).toLower ≠ 'Σ' ∧ (Char.ofNat (65 + i)).toLower ≠ 'İ' := by
  decide +kernel

theorem capitals_cased : ∀ i < 26,
    isCased (Char.ofNat (65 + i)).toLower = isCased (Char.ofNat (65 + i)) ∧
      isCaseIgnorable (Char.ofNat (65 + i)).toLower = isCaseIgnorable (Char.ofNat (65 + i)) := by
  decide +kernel

theorem asciiLower_of_settled {cs : List Char} (settled : ∀ c ∈ cs, Settled c) :
    asciiLower cs = cs := by
  have same : ∀ c ∈ cs, c.toLower = c := by
    intro c member
    rcases toLower_cases c with same | ⟨i, small, rfl⟩
    · exact same
    · exact absurd (settled _ member).kept (capitals_lowered i small).1
  exact (List.map_congr_left same).trans (List.map_id cs)

theorem asciiLower_lowerChars (cs : List Char) : asciiLower (lowerChars cs) = lowerChars cs :=
  asciiLower_of_settled fun _ => settled_of_mem_lowerFrom

theorem isCased_toLower (c : Char) :
    isCased c.toLower = isCased c ∧ isCaseIgnorable c.toLower = isCaseIgnorable c := by
  rcases toLower_cases c with same | ⟨i, small, rfl⟩
  · rw [same]
    exact ⟨rfl, rfl⟩
  · exact capitals_cased i small

theorem meetsCased_asciiLower (cs : List Char) : meetsCased (asciiLower cs) = meetsCased cs := by
  induction cs with
  | nil => rfl
  | cons c cs ih =>
      obtain ⟨cased, ignorable⟩ := isCased_toLower c
      unfold meetsCased asciiLower at *
      rw [List.map_cons, List.dropWhile_cons, List.dropWhile_cons, ignorable]
      cases isCaseIgnorable c with
      | true => exact ih
      | false => exact cased

theorem lowerBetween_asciiLower (before : List Char) (c : Char) (after : List Char) :
    lowerBetween (asciiLower before) c.toLower (asciiLower after) =
      lowerBetween before c after := by
  unfold lowerBetween
  rw [meetsCased_asciiLower, meetsCased_asciiLower]
  rcases toLower_cases c with same | ⟨i, small, rfl⟩
  · rw [same]
  · obtain ⟨_, lowered, sigma, dotted, noSigma, noDot⟩ := capitals_lowered i small
    rw [if_neg sigma, if_neg dotted, if_neg noSigma, if_neg noDot, lowered]

theorem lowerFrom_asciiLower (before cs : List Char) :
    lowerFrom (asciiLower before) (asciiLower cs) = lowerFrom before cs := by
  induction cs generalizing before with
  | nil => rfl
  | cons c after ih =>
      have first := lowerBetween_asciiLower before c after
      have later := ih (c :: before)
      calc
        _ = lowerBetween (asciiLower before) c.toLower (asciiLower after) ++
              lowerFrom (asciiLower (c :: before)) (asciiLower after) := rfl
        _ = lowerFrom before (c :: after) := by rw [first, later, lowerFrom]

/-- It makes no difference to the lower-case form whether the ASCII letters are lower-cased
before. -/
theorem lowerChars_asciiLower (cs : List Char) : lowerChars (asciiLower cs) = lowerChars cs :=
  lowerFrom_asciiLower [] cs

theorem ascii_lowered : ∀ n < 128, lowerChar (Char.ofNat n) = (Char.ofNat n).toLower ∧
    Char.ofNat n ≠ 'Σ' ∧ Char.ofNat n ≠ 'İ' := by
  decide +kernel

/-- In an ASCII text the ASCII letters are all that is lower-cased. -/
theorem lowerFrom_of_ascii {cs : List Char} (ascii : ∀ c ∈ cs, c.toNat < 128)
    (before : List Char) : lowerFrom before cs = asciiLower cs := by
  induction cs generalizing before with
  | nil => rfl
  | cons c after ih =>
      obtain ⟨lowered, sigma, dotted⟩ := ascii_lowered c.toNat (ascii c List.mem_cons_self)
      rw [Char.ofNat_toNat] at lowered sigma dotted
      rw [lowerFrom, lowerBetween, if_neg sigma, if_neg dotted, lowered,
        ih fun d member => ascii d (List.mem_cons_of_mem c member)]
      rfl

/-! ## Trimming -/

/-- The last character of a text is lower-cased after all the others. -/
theorem exists_lowerFrom_concat (before rest : List Char) (c : Char) :
    ∃ front, lowerFrom before (rest ++ [c]) =
      front ++ lowerBetween (rest.reverse ++ before) c [] := by
  induction rest generalizing before with
  | nil => exact ⟨[], List.append_nil _⟩
  | cons e rest ih =>
      obtain ⟨front, same⟩ := ih (e :: before)
      refine ⟨lowerBetween before e (rest ++ [c]) ++ front, ?_⟩
      rw [List.cons_append, lowerFrom, same, List.reverse_cons, List.append_assoc,
        List.append_assoc]
      rfl

theorem trimmed_lowerChars {cs : List Char} (trimmed : Trimmed cs) : Trimmed (lowerChars cs) := by
  constructor
  · intro d head
    cases cs with
    | nil => cases head
    | cons c after =>
        obtain ⟨filled, blanks⟩ := lowerBetween_spec [] c after
        obtain ⟨e, more, same⟩ := List.exists_cons_of_ne_nil filled
        rw [lowerChars, lowerFrom, same] at head
        cases head
        rw [(blanks d (same ▸ List.mem_cons_self)).2]
        exact trimmed.front c rfl
  · intro d last
    rcases List.eq_nil_or_concat cs with rfl | ⟨rest, c, rfl⟩
    · cases last
    · rw [List.concat_eq_append] at last trimmed
      obtain ⟨filled, blanks⟩ := lowerBetween_spec (rest.reverse ++ []) c []
      obtain ⟨front, whole⟩ := exists_lowerFrom_concat [] rest c
      obtain ⟨more, e, same⟩ := (List.eq_nil_or_concat _).resolve_left filled
      rw [lowerChars, whole, same, List.concat_eq_append, ← List.append_assoc,
        List.getLast?_concat] at last
      cases last
      have member : d ∈ more.concat d := by
        rw [List.concat_eq_append]
        exact List.mem_concat_self
      rw [(blanks d (same ▸ member)).2]
      exact trimmed.back c List.getLast?_concat

end DepositDirectory.Text
