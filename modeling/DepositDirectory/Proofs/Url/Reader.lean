import DepositDirectory.Proofs.Results
import DepositDirectory.Proofs.Url.Path

/-!
# Web addresses that are read as they are written

A web address always names an authority, and what follows it is put in order when it is read: from
then on the path, the query and the fragment are read as they are written.
-/

namespace DepositDirectory.Url

open Http (isWeb)

/-! ## Endings -/

/-- A part behind its mark, if there is one. -/
def marked (mark : Char) (part? : Option (List Char)) : List Char :=
  (part?.map (mark :: ·)).getD []

/-- A mark ends what comes before it, and the part behind it is found. -/
theorem split_marked {mark : Char} {before : List Char} (absent : mark ∉ before)
    (part? : Option (List Char)) :
    (before ++ marked mark part?).takeWhile (· ≠ mark) = before ∧
      ((before ++ marked mark part?).dropWhile (· ≠ mark)).tail? = part? := by
  have passed : ∀ c ∈ before, (decide (c ≠ mark)) = true :=
    fun c member => decide_eq_true fun same => absent (same ▸ member)
  rw [List.takeWhile_append_of_pos passed, List.dropWhile_append_of_pos passed]
  cases part? with
  | none => exact ⟨List.append_nil before, rfl⟩
  | some part => simp [marked]

theorem splitEnding_marked {path : List Char} {query? fragment? : Option (List Char)}
    (noQuery : '?' ∉ path) (noFragment : '#' ∉ path)
    (query : ∀ part, query? = some part → Escaped webQuerySet part)
    (fragment : ∀ part, fragment? = some part → Escaped fragmentSet part) :
    splitEnding true (path ++ marked '?' query? ++ marked '#' fragment?) =
      (path, ⟨query?, fragment?⟩) := by
  have absent : '#' ∉ path ++ marked '?' query? := by
    intro member
    rcases List.mem_append.mp member with member | member
    · exact noFragment member
    · cases query? with
      | none => exact absurd member List.not_mem_nil
      | some part =>
          rcases List.mem_cons.mp member with same | inside
          · exact absurd same (by decide)
          · exact absurd (query part rfl '#' inside).2 (by decide)
  obtain ⟨beforeFragment, fragmentFound⟩ := split_marked absent fragment?
  obtain ⟨beforeQuery, queryFound⟩ := split_marked noQuery query?
  have kept {set : List Char} {part? : Option (List Char)}
      (escaped : ∀ part, part? = some part → Escaped set part) :
      part?.map (percentEncode set ∘ clean) = part? := by
    cases part? with
    | none => rfl
    | some part =>
        have written := escaped part rfl
        simp only [Option.map_some, Function.comp_apply, clean_of_escaped written,
          percentEncode_of_escaped written]
  simp only [splitEnding, beforeFragment, fragmentFound, beforeQuery, queryFound, if_true,
    kept query, kept fragment]

theorem escaped_splitEnding (cs : List Char) :
    (∀ part, (splitEnding true cs).2.query = some part → Escaped webQuerySet part) ∧
      ∀ part, (splitEnding true cs).2.fragment = some part → Escaped fragmentSet part := by
  have written {set : List Char} (free : escapeChars.all (!set.contains ·) = true)
      {part? : Option (List Char)} (part : List Char)
      (read : part?.map (percentEncode set ∘ clean) = some part) : Escaped set part := by
    obtain ⟨original, _, rfl⟩ := Option.map_eq_some_iff.mp read
    exact escaped_percentEncode (List.Subset.refl set) free (clean original)
  exact ⟨written (by decide), written (by decide)⟩

/-! ## Whole addresses -/

structure Orderly (url : Url) : Prop where
  path : ∃ components, url.path = .parts components ∧ InOrder components
  query : ∀ part, url.query = some part → Escaped webQuerySet part
  fragment : ∀ part, url.fragment = some part → Escaped fragmentSet part

/-- What follows the authority, as it is written. -/
def tail (url : Url) : List Char :=
  url.path.chars ++ url.queryChars ++ url.fragmentChars

/-- The path, the query and the fragment of what follows an authority. -/
def readTail (cs : List Char) : Path × Ending :=
  let (path, ending) := splitEnding true cs
  (readPath true path, ending)

theorem Orderly.readTail_tail {url : Url} (orderly : Orderly url) :
    readTail url.tail = (url.path, ⟨url.query, url.fragment⟩) := by
  obtain ⟨components, path, ordered⟩ := orderly.path
  have query : url.queryChars = marked '?' url.query := by
    cases held : url.query <;> simp [queryChars, marked, held]
  have fragment : url.fragmentChars = marked '#' url.fragment := by
    cases held : url.fragment <;> simp [fragmentChars, marked, held]
  have ending := splitEnding_marked (ordered.not_mem_chars (c := '?') (by decide) (by decide))
    (ordered.not_mem_chars (c := '#') (by decide) (by decide)) orderly.query orderly.fragment
  simp only [readTail, tail, query, fragment, path, ending, ordered.readPath_chars]

theorem readFromAuthority_eq_ok {scheme cs : List Char} {url : Url}
    (read : readFromAuthority scheme cs = .ok url) :
    url.scheme = scheme ∧ ∃ after,
      readPath (isSpecial scheme) (splitEnding (isSpecial scheme) after).1 = url.path ∧
      (splitEnding (isSpecial scheme) after).2 = ⟨url.query, url.fragment⟩ := by
  obtain ⟨authority, _, rest⟩ := bind_eq_ok_iff.mp read
  cases rest
  exact ⟨rfl, _, rfl, rfl⟩

theorem scheme_of_readFile {cs : List Char} {url : Url} (read : readFile cs = .ok url) :
    url.scheme = ['f', 'i', 'l', 'e'] := by
  unfold readFile at read
  dsimp only at read
  obtain ⟨_, named⟩ | ⟨_, named⟩ := ite_eq_iff.mp read <;>
    obtain ⟨host, _, rest⟩ := bind_eq_ok_iff.mp named <;> cases rest <;> rfl

theorem isSpecial_of_isWeb {url : Url} (web : isWeb url) : isSpecial url.scheme = true := by
  simp only [isWeb, isSpecial, List.contains_cons, Bool.or_eq_true] at web ⊢
  tauto

theorem orderly_of_read {text : String} {url : Url} (read : Url.read text = .ok url)
    (web : isWeb url) : Orderly url := by
  have special := isSpecial_of_isWeb web
  have authorized {scheme cs : List Char} (read : readFromAuthority scheme cs = .ok url) :
      Orderly url := by
    obtain ⟨rfl, after, path, ending⟩ := readFromAuthority_eq_ok read
    rw [special] at path ending
    obtain ⟨components, isPath, ordered⟩ := readPath_inOrder (splitEnding true after).1
    obtain ⟨query, fragment⟩ := escaped_splitEnding after
    rw [ending] at query fragment
    exact ⟨⟨components, path.symm.trans isPath, ordered⟩, query, fragment⟩
  unfold Url.read at read
  split at read
  case h_2 => cases read
  case h_1 scheme cs _ =>
    unfold readAfterScheme at read
    split at read
    · -- The scheme of files is none of web addresses.
      rw [isWeb, scheme_of_readFile read] at web
      exact absurd web (by decide)
    · split at read
      · exact authorized read
      · rename_i plain
        split at read
        · exact authorized read
        · cases read
          exact absurd special plain

end DepositDirectory.Url
