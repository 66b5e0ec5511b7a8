import DepositDirectory.Http.Place
import DepositDirectory.Proofs.Text.Split
import DepositDirectory.Proofs.Url.Percent

/-!
# Paths that are read as they are written

Reading a path splits it at its slashes, resolves dots and escapes what may not stand in it.  A path
that has been read has been through this, so that it is read as it is written from then on, and so
are the query and the fragment behind it.
-/

namespace DepositDirectory.Url

open Text (splitAt)

/-! ## Components -/

/-- What does not stand in a component of a path: what is escaped there, and slashes of both
kinds. -/
def outsideComponents : List Char := pathSet ++ ['/', '\\']

/-- A component that is read as it is written. -/
structure Settled (component : List Char) : Prop where
  escaped : Escaped outsideComponents component
  undotted : isDots component = false

namespace Settled

theorem not_mem_of_outside {component : List Char} (settled : Settled component) {c : Char}
    (outside : c ∈ outsideComponents) : c ∉ component := by
  intro inside
  have absent := (settled.escaped c inside).2
  rw [List.contains_eq_mem, decide_eq_false_iff_not] at absent
  exact absent outside

theorem empty : Settled [] :=
  ⟨fun _ member => absurd member List.not_mem_nil, rfl⟩

theorem clean_eq {component : List Char} (settled : Settled component) :
    clean component = component :=
  clean_of_escaped settled.escaped

end Settled

/-- What is written of a part between slashes is settled, unless the part is dots. -/
theorem settled_percentEncode {part : List Char} (slashless : ∀ c ∈ part, isSlash true c = false)
    (undotted : isDots (clean part) = false) : Settled (percentEncode pathSet (clean part)) := by
  refine ⟨fun c member => ?_, ?_⟩
  · have escaped :=
      escaped_percentEncode (List.Subset.refl pathSet) (by decide) (clean part) c member
    refine ⟨escaped.1, ?_⟩
    have noSlash : isSlash true c = false := by
      rcases mem_percentEncode member with escape | ⟨inside, _⟩
      · have apart : escapeChars.all (!isSlash true ·) = true := by decide
        exact (Bool.not_eq_true' _).mp (List.all_eq_true.mp apart c escape)
      · exact slashless c (List.mem_of_mem_filter inside)
    simp only [isSlash, Bool.true_and, Bool.or_eq_false_iff, decide_eq_false_iff_not] at noSlash
    simpa [outsideComponents, noSlash.1, noSlash.2] using escaped.2
  · by_contra dots
    rw [Bool.not_eq_false] at dots
    rw [percentEncode_of_escaped (escaped_of_isDots (by decide) dots), undotted] at dots
    exact Bool.noConfusion dots

/-! ## Paths in order -/

/-- The components of a path that is read as it is written. -/
structure InOrder (components : List (List Char)) : Prop where
  nonempty : components ≠ []
  settled : ∀ component ∈ components, Settled component

namespace InOrder

variable {components : List (List Char)}

theorem splitSlashes_chars (ordered : InOrder components) :
    splitSlashes true (withoutSlash true (Path.parts components).chars) = components := by
  obtain ⟨first, others, rfl⟩ := List.exists_cons_of_ne_nil ordered.nonempty
  have plain : ∀ one ∈ first :: others, ∀ c ∈ outsideComponents, c ∉ one :=
    fun one member _ => (ordered.settled one member).not_mem_of_outside
  have kept : ∀ c ∈ first ++ others.flatMap ('/' :: ·),
      (if isSlash true c then '/' else c) = c := by
    intro c member
    by_cases forward : c = '/'
    · subst forward
      rfl
    · have backward : c ≠ '\\' := by
        rintro rfl
        rcases List.mem_append.mp member with member | member
        · exact plain first List.mem_cons_self _ (by decide) member
        · obtain ⟨one, among, inside⟩ := List.mem_flatMap.mp member
          rcases List.mem_cons.mp inside with same | inside
          · exact absurd same (by decide)
          · exact plain one (List.mem_cons_of_mem first among) _ (by decide) inside
      simp [isSlash, forward, backward]
  change splitAt '/' ((first ++ others.flatMap ('/' :: ·)).map _) = _
  rw [List.map_congr_left kept, List.map_id']
  exact Text.splitAt_flatMap fun one member => plain one member '/' (by decide)

theorem resolveDots_settled {before : List (List Char)}
    (settled : ∀ component ∈ components, Settled component) :
    resolveDots false before components = before ++ components := by
  induction components generalizing before with
  | nil => rw [resolveDots, List.append_nil]
  | cons component rest ih =>
      have here := settled component List.mem_cons_self
      have later : resolveDots false (before ++ [component]) rest = before ++ [component] ++ rest :=
        ih fun other member => settled other (List.mem_cons_of_mem component member)
      obtain ⟨single, double⟩ := Bool.or_eq_false_iff.mp here.undotted
      have written : percentEncode pathSet component = component :=
        percentEncode_of_escaped (here.escaped.mono (by decide))
      have added : addComponent false before component = before ++ [component] := by
        simp [addComponent, here.clean_eq, written]
      rw [resolveDots, here.clean_eq, single, double, if_neg Bool.false_ne_true,
        if_neg Bool.false_ne_true, added, later, List.append_assoc, List.singleton_append]

theorem readPath_chars (ordered : InOrder components) :
    readPath true (Path.parts components).chars = .parts components := by
  have split := ordered.splitSlashes_chars
  obtain ⟨first, others, rfl⟩ := List.exists_cons_of_ne_nil ordered.nonempty
  change Path.parts (resolveDots false [] (splitSlashes true
    (withoutSlash true (Path.parts (first :: others)).chars))) = _
  rw [split, resolveDots_settled ordered.settled, List.nil_append]

theorem not_mem_chars (ordered : InOrder components) {c : Char} (outside : c ∈ outsideComponents)
    (other : c ≠ '/') : c ∉ (Path.parts components).chars := by
  intro member
  obtain ⟨one, among, inside⟩ := List.mem_flatMap.mp member
  rcases List.mem_cons.mp inside with same | inside
  · exact other same
  · exact (ordered.settled one among).not_mem_of_outside outside inside

end InOrder

/-! ## Reading puts a path in order -/

theorem goBack_subset (components : List (List Char)) : goBack components ⊆ components := by
  fun_cases goBack components with
  | case1 => exact List.nil_subset _
  | case2 => exact List.Subset.refl _
  | case3 => exact List.dropLast_subset _

theorem settled_of_mem_resolveDots {before parts : List (List Char)}
    (settled : ∀ component ∈ before, Settled component)
    (slashless : ∀ part ∈ parts, ∀ c ∈ part, isSlash true c = false) :
    ∀ component ∈ resolveDots false before parts, Settled component := by
  have opened {components : List (List Char)} (all : ∀ one ∈ components, Settled one) :
      ∀ one ∈ components ++ [[]], Settled one := by
    intro one member
    rcases List.mem_append.mp member with member | member
    · exact all one member
    · exact List.mem_singleton.mp member ▸ Settled.empty
  induction parts generalizing before with
  | nil => exact settled
  | cons part rest ih =>
      have later := fun other member => slashless other (List.mem_cons_of_mem part member)
      have back : ∀ component ∈ goBack before, Settled component :=
        fun component member => settled component (goBack_subset before member)
      rw [resolveDots]
      split
      next =>
        split
        · exact opened back
        · exact ih back later
      next double =>
        split
        next =>
          split
          · exact opened settled
          · exact ih settled later
        next single =>
          refine ih (fun component member => ?_) later
          rcases List.mem_append.mp member with member | member
          · exact settled component member
          · rw [List.mem_singleton.mp member]
            have undotted := Bool.or_eq_false_iff.mpr
              ⟨Bool.eq_false_iff.mpr single, Bool.eq_false_iff.mpr double⟩
            exact settled_percentEncode (slashless part List.mem_cons_self) undotted

/-- A path that is read has a component, be it an empty one. -/
theorem resolveDots_ne_nil {before parts : List (List Char)} (given : before ≠ [] ∨ parts ≠ []) :
    resolveDots false before parts ≠ [] := by
  induction parts generalizing before with
  | nil => exact given.resolve_right (· rfl)
  | cons part rest ih =>
      rw [resolveDots]
      split
      next =>
        split
        next => exact List.append_ne_nil_of_right_ne_nil _ (List.cons_ne_nil _ _)
        next more => exact ih (Or.inr more)
      next =>
        split
        next =>
          split
          next => exact List.append_ne_nil_of_right_ne_nil _ (List.cons_ne_nil _ _)
          next more => exact ih (Or.inr more)
        next =>
          refine ih (Or.inl ?_)
          exact List.append_ne_nil_of_right_ne_nil _ (List.cons_ne_nil _ _)

theorem readPath_inOrder (cs : List Char) :
    ∃ components, readPath true cs = .parts components ∧ InOrder components := by
  cases cs with
  | nil =>
      refine ⟨[[]], rfl, List.cons_ne_nil _ _, fun component member => ?_⟩
      exact List.mem_singleton.mp member ▸ Settled.empty
  | cons c rest =>
      refine ⟨_, rfl, resolveDots_ne_nil (Or.inr (Text.splitAt_ne_nil _)), ?_⟩
      refine settled_of_mem_resolveDots (fun _ member => absurd member List.not_mem_nil) ?_
      intro part member d inside
      obtain ⟨among, other⟩ := Text.mem_of_mem_splitAt member inside
      obtain ⟨e, _, rfl⟩ := List.mem_map.mp among
      by_contra slash
      split at other
      · exact other rfl
      · rename_i plain
        rw [if_neg plain] at slash
        exact plain (Bool.not_eq_false _ ▸ slash)

end DepositDirectory.Url
