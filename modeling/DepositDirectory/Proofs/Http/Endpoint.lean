import DepositDirectory.Http.Client
import DepositDirectory.Proofs.Url.Segments

/-!
# Ids in the URLs of endpoints

The URL of an endpoint is the base with the ids of the call behind its path, and has everything else
of the base.  Each id adds at most its own component behind those before it, with one exception: two
dots that are kept apart by tabs or line breaks take the component before them away.
-/

namespace DepositDirectory.Http

open Url (Climbs Follows InOrder Orderly Unclimbed component openComponent splitSlashes tail
  readTail withoutSlash)

/-! ## Components -/

/-- The components of the path of a web address, read from what is written; the root has none. -/
def named (url : Url) : List (List Char) :=
  openComponent (splitSlashes true (withoutSlash true url.path.chars))

/-- The components that a base brings: those of its path without a final empty one. -/
def kept (base : Url) : List (List Char) :=
  let components := splitSlashes true (withoutSlash true base.path.chars)
  if components.getLast? = some [] then components.dropLast else components

/-- A URL with texts added to its path, if it takes them. -/
def extended (base : Url) (segments : List String) : Url :=
  (base.addSegments? segments).getD base

/-- Each text adds at most its own component, behind those of the base and of the texts before. -/
structure Confined (base : Url) (segments : List String) : Prop where
  start : named (extended base []) = kept base
  each : ∀ before segment after, segments = before ++ segment :: after →
    Follows (named (extended base before)) segment.toList
      (named (extended base (before ++ [segment])))

theorem Confined.exists_added {base : Url} {segments : List String}
    (confined : Confined base segments) :
    ∃ added, added.Sublist (segments.map fun segment => component segment.toList) ∧
      named (extended base segments) = kept base ++ added := by
  have prefixes : ∀ before after, segments = before ++ after →
      ∃ added, added.Sublist (before.map fun segment => component segment.toList) ∧
        named (extended base before) = kept base ++ added := by
    intro before
    induction before using List.reverseRecOn with
    | nil => exact fun _ _ => ⟨[], List.Sublist.refl _, by rw [confined.start, List.append_nil]⟩
    | append_singleton before segment ih =>
        intro after whole
        rw [List.append_assoc, List.singleton_append] at whole
        obtain ⟨added, among, found⟩ := ih (segment :: after) whole
        rw [List.map_append]
        rcases confined.each before segment after whole with same | more
        · exact ⟨added, among.trans (List.sublist_append_left _ _), same.trans found⟩
        · refine ⟨added ++ [component segment.toList], among.append (List.Sublist.refl _), ?_⟩
          rw [more, found, List.append_assoc]
  exact prefixes segments [] (List.append_nil segments).symm

/-! ## What the components are -/

def placed (base : Url) (segments : List String) : List (List Char) :=
  (segments.map String.toList).foldl (Url.addSegment base.scheme)
    (Url.dropFinalEmpty base.path.components)

theorem placed_concat (base : Url) (before : List String) (segment : String) :
    placed base (before ++ [segment]) =
      Url.addSegment base.scheme (placed base before) segment.toList := by
  rw [placed, List.map_append, List.foldl_append]
  rfl

theorem isFile_of_isWeb {url : Url} (web : isWeb url) : Url.isFile url.scheme = false := by
  by_contra file
  rw [Bool.not_eq_false, Url.isFile, decide_eq_true_eq] at file
  rw [isWeb, file] at web
  exact absurd web (by decide)

theorem named_of_inOrder {url : Url} {components : List (List Char)}
    (path : url.path = .parts components) (ordered : InOrder components) :
    named url = openComponent components := by
  rw [named, path, ordered.splitSlashes_chars]

section Base

variable {base : Url} (orderly : Orderly base) (web : isWeb base) (segments : List String)

include orderly in
theorem addSegments?_eq :
    base.addSegments? segments = some { base with path := .parts (placed base segments) } := by
  obtain ⟨components, path, _⟩ := orderly.path
  rw [Url.addSegments?, path]
  dsimp only
  rw [placed, path]
  rfl

include orderly web

theorem inOrder_placed : InOrder (placed base segments) := by
  obtain ⟨components, path, ordered⟩ := orderly.path
  rw [placed, path]
  exact ordered.dropFinalEmpty.foldl_addSegment (Url.isSpecial_of_isWeb web) (isFile_of_isWeb web) _

theorem named_extended : named (extended base segments) = openComponent (placed base segments) := by
  rw [extended, addSegments?_eq orderly]
  exact named_of_inOrder rfl (inOrder_placed orderly web segments)

theorem named_extended_nil_iff :
    named (extended base []) = kept base ↔ base.path ≠ .parts [[], []] := by
  rw [named_extended orderly web]
  obtain ⟨components, path, ordered⟩ := orderly.path
  rw [kept, placed, path, ordered.splitSlashes_chars]
  refine (Url.openComponent_dropFinalEmpty_iff ordered.nonempty).trans (not_congr ?_)
  exact ⟨congrArg Url.Path.parts, Url.Path.parts.inj⟩

theorem length_placed_nil_le : (openComponent (placed base [])).length ≤ (kept base).length := by
  by_cases twoSlashes : base.path = .parts [[], []]
  · rw [placed, twoSlashes]
    exact Nat.zero_le _
  · have same := (named_extended_nil_iff orderly web).mpr twoSlashes
    rw [← same, named_extended orderly web]

theorem confined_iff :
    Confined base segments ↔ base.path ≠ .parts [[], []] ∧
      ∀ before segment after, segments = before ++ segment :: after → Climbs segment.toList →
        Unclimbed (named (extended base before)) := by
  have step (before : List String) (segment : String) :
      Follows (named (extended base before)) segment.toList
          (named (extended base (before ++ [segment]))) ↔
        (Climbs segment.toList → Unclimbed (named (extended base before))) := by
    rw [named_extended orderly web, named_extended orderly web, placed_concat]
    exact Url.follows_addSegment_iff (Url.isSpecial_of_isWeb web) (isFile_of_isWeb web) _ _
  rw [← named_extended_nil_iff orderly web]
  constructor
  · intro confined
    exact ⟨confined.start, fun before segment after whole =>
      (step before segment).mp (confined.each before segment after whole)⟩
  · rintro ⟨start, unclimbed⟩
    exact ⟨start, fun before segment after whole =>
      (step before segment).mpr (unclimbed before segment after whole)⟩

end Base

/--
The URL of an endpoint has everything of its base but the path, and that path, the query and the
fragment are what is read from what is written.  The components of the base and then at most one for
each text are its components, exactly when the path of the base is not two slashes and no text takes
a component away.
-/
theorem endpoint_confined_iff {text : String} {base : Url} (read : Url.read text = .ok base)
    (web : isWeb base) (segments : List String) :
    ∃ url, Client.endpoint base segments = .ok url ∧ { url with path := base.path } = base ∧
      readTail url.tail = (url.path, ⟨base.query, base.fragment⟩) ∧
      (Confined base segments →
        ∃ added, added.Sublist (segments.map fun segment => component segment.toList) ∧
          named url = kept base ++ added) ∧
      (Confined base segments ↔ base.path ≠ .parts [[], []] ∧
        ∀ before segment after, segments = before ++ segment :: after → Climbs segment.toList →
          Unclimbed (named (extended base before))) := by
  have orderly := Url.orderly_of_read read web
  have added := addSegments?_eq orderly segments
  have ordered := inOrder_placed orderly web segments
  refine ⟨{ base with path := .parts (placed base segments) }, ?_, rfl, ?_, ?_,
    confined_iff orderly web segments⟩
  · rw [Client.endpoint, added]
  · exact Orderly.readTail_tail ⟨⟨_, rfl, ordered⟩, orderly.query, orderly.fragment⟩
  · intro confined
    obtain ⟨components, among, found⟩ := confined.exists_added
    refine ⟨components, among, ?_⟩
    rwa [extended, added] at found

/-! ## A base with ids -/

def custodyBase : Url :=
  ⟨"http".toList, some ⟨[], none, .v6 [0, 0, 0, 0, 0, 0, 0, 1], some 3000⟩, false,
    .parts ["custody".toList], none, none⟩

theorem read_custodyBase : Url.read "http://[::1]:3000/custody" = .ok custodyBase := rfl

/-- Slashes, dots among them and the marks of a query and a fragment do not lead out of a
component. -/
theorem slashed_id_confined : Confined custodyBase ["v1", "assets", "a/../b?c#d"] := by
  obtain ⟨_, _, _, _, _, exactly⟩ := endpoint_confined_iff read_custodyBase (by decide)
    ["v1", "assets", "a/../b?c#d"]
  have plain : ∀ segment ∈ ["v1", "assets", "a/../b?c#d"], ¬ Climbs segment.toList := by
    unfold Climbs
    decide
  refine exactly.mpr ⟨by decide, fun before segment after whole climbs => ?_⟩
  exact absurd climbs (plain segment (whole ▸ List.mem_append_right before List.mem_cons_self))

/-- Two dots around a tab take the component before them away. -/
theorem climbing_id_not_confined :
    Client.endpoint custodyBase ["v1", "assets", ".\t."] =
        .ok { custodyBase with path := .parts ["custody".toList, "v1".toList, []] } ∧
      ¬ Confined custodyBase ["v1", "assets", ".\t."] := by
  refine ⟨rfl, fun confined => ?_⟩
  have last := confined.each ["v1", "assets"] ".\t." [] rfl
  revert last
  unfold Follows
  decide

end DepositDirectory.Http
