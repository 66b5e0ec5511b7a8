import DepositDirectory.Proofs.Url.Reader
import DepositDirectory.Url.Segments

/-!
# Where added components end up

Texts that are added to the path of a web address become components behind those that are there,
and nothing else of the address changes.  Two spots need care.  A text that is two dots only when
its tabs and line breaks are dropped is no component but goes back over the one before it.  And a
path of one empty component is the root, which has none.
-/

namespace DepositDirectory.Url

/-! ## Single components -/

/-- The component that a text asks for in the path of a web address. -/
def component (segment : List Char) : List Char :=
  if clean segment = ['.'] ∨ clean segment = ['.', '.'] then []
  else percentEncode webSegmentSet (clean segment)

/-- Whether a text is two dots only when its tabs and line breaks are dropped. -/
def Climbs (segment : List Char) : Prop :=
  clean segment = ['.', '.'] ∧ segment ≠ ['.', '.']

theorem settled_component (segment : List Char) : Settled (component segment) := by
  unfold component
  split
  · exact Settled.empty
  · rename_i plain
    refine ⟨escaped_percentEncode (by decide) (by decide) (clean segment), ?_⟩
    -- With percent signs escaped as well, only dots are left to spell dots with.
    by_contra dots
    rw [Bool.not_eq_false] at dots
    have escaped := escaped_of_isDots (by decide) dots
    rw [percentEncode_of_escaped escaped] at dots
    have unescaped : '%' ∉ clean segment :=
      fun inside => absurd (escaped '%' inside).2 (by decide)
    exact plain (eq_dots_of_isDots unescaped dots)

/-! ## The path that components are added to -/

theorem openComponent_ne (components : List (List Char)) : openComponent components ≠ [[]] := by
  unfold openComponent
  split
  · exact List.cons_ne_nil _ _ ∘ Eq.symm
  · assumption

theorem openComponent_of_ne {components : List (List Char)} (other : components ≠ [[]]) :
    openComponent components = components :=
  if_neg other

theorem openComponent_sublist (components : List (List Char)) :
    (openComponent components).Sublist components := by
  unfold openComponent
  split
  · exact List.nil_sublist _
  · exact List.Sublist.refl _

/-- A final empty component is all that is given up, unless another empty one is left alone then. -/
theorem openComponent_dropFinalEmpty_iff {components : List (List Char)}
    (proper : components ≠ []) :
    openComponent (dropFinalEmpty components) =
        (if components.getLast? = some [] then components.dropLast else components) ↔
      components ≠ [[], []] := by
  obtain rfl | ⟨before, last, rfl⟩ := components.eq_nil_or_concat
  · exact absurd rfl proper
  · rw [List.concat_eq_append]
    by_cases empty : last = []
    · subst empty
      rw [List.getLast?_concat, if_pos rfl, List.dropLast_concat]
      by_cases nothing : before = []
      · subst nothing
        simp [dropFinalEmpty, openComponent]
      · have dropped : dropFinalEmpty (before ++ [[]]) = before := by
          have long : 2 ≤ (before ++ [([] : List Char)]).length := by
            rw [List.length_append]
            exact Nat.succ_le_succ (List.length_pos_iff.mpr nothing)
          rw [dropFinalEmpty, if_pos ⟨long, List.getLast?_concat⟩, List.dropLast_concat]
        rw [dropped]
        by_cases root : before = [[]]
        · simp [root, openComponent]
        · rw [openComponent_of_ne root]
          exact iff_of_true rfl fun two => root (List.append_left_injective [[]] two)
    · have same : dropFinalEmpty (before ++ [last]) = before ++ [last] := by
        simp [dropFinalEmpty, empty]
      have proper : before ++ [last] ≠ [[]] := by
        intro root
        have single := (List.append_eq_singleton_iff.mp root).elim And.right
          fun full => absurd full.2 (by simp)
        exact empty (List.singleton_inj.mp single)
      rw [same, openComponent_of_ne proper]
      refine iff_of_true (by simp [empty]) fun two => empty ?_
      simpa using congrArg List.getLast? two

/-! ## Adding one component -/

theorem addSegment_cases {scheme : List Char} (special : isSpecial scheme = true)
    (noFile : isFile scheme = false) (components : List (List Char)) (segment : List Char) :
    (segment = ['.'] ∨ segment = ['.', '.']) ∧
        addSegment scheme components segment = components ∨
      Climbs segment ∧
        addSegment scheme components segment = goBack (openComponent components) ++ [[]] ∨
      ¬ Climbs segment ∧ addSegment scheme components segment =
        openComponent components ++ [component segment] := by
  by_cases dots : segment = ['.'] ∨ segment = ['.', '.']
  · exact Or.inl ⟨dots, if_pos dots⟩
  · right
    obtain ⟨_, notTwo⟩ := not_or.mp dots
    rw [addSegment, if_neg dots]
    by_cases two : clean segment = ['.', '.']
    · exact Or.inl ⟨⟨two, notTwo⟩, if_pos two⟩
    · refine Or.inr ⟨fun climbs => two climbs.1, (if_neg two).trans ?_⟩
      by_cases one : clean segment = ['.']
      · rw [component, if_pos (Or.inl one)]
        exact if_pos one
      · rw [component, if_neg (not_or.mpr ⟨one, two⟩)]
        refine (if_neg one).trans ?_
        -- Only the path of a file can begin with a drive.
        rw [encodeSegment, special, if_pos rfl, noFile, Bool.false_and]
        split <;> rfl

theorem addSegment_tabbed {scheme : List Char} (special : isSpecial scheme = true)
    (noFile : isFile scheme = false) (components : List (List Char)) {segment : List Char}
    (dots : ¬ (segment = ['.'] ∨ segment = ['.', '.'])) :
    addSegment scheme components ('\t' :: segment) = addSegment scheme components segment := by
  have cleaned : clean ('\t' :: segment) = clean segment := rfl
  have climbing : Climbs ('\t' :: segment) ↔ Climbs segment := by
    rw [Climbs, Climbs, cleaned]
    exact and_congr_right fun _ => iff_of_true (by simp) (not_or.mp dots).2
  have same : component ('\t' :: segment) = component segment := by
    rw [component, component, cleaned]
  rcases addSegment_cases special noFile components ('\t' :: segment) with
    ⟨tabbed, _⟩ | ⟨climbs, added⟩ | ⟨plain, added⟩
  · exact absurd tabbed (by simp)
  · rcases addSegment_cases special noFile components segment with
      ⟨given, _⟩ | ⟨_, other⟩ | ⟨plain, _⟩
    · exact absurd given dots
    · rw [added, other]
    · exact absurd (climbing.mp climbs) plain
  · rcases addSegment_cases special noFile components segment with
      ⟨given, _⟩ | ⟨climbs, _⟩ | ⟨_, other⟩
    · exact absurd given dots
    · exact absurd (climbing.mpr climbs) plain
    · rw [added, other, same]

/-- What the next components are when a text has been added to some. -/
def Follows (before : List (List Char)) (segment : List Char) (after : List (List Char)) : Prop :=
  after = before ∨ after = before ++ [component segment]

/-- Whether two dots leave the components before them alone. -/
def Unclimbed (components : List (List Char)) : Prop :=
  ∀ last, components.getLast? = some last → last = [] ∨ isDrive last = true

theorem follows_of_openComponent (components : List (List Char)) (segment : List Char) :
    Follows (openComponent components) segment
      (openComponent (openComponent components ++ [component segment])) := by
  by_cases root : openComponent components ++ [component segment] = [[]]
  · left
    have nothing : openComponent components = [] :=
      (List.append_eq_singleton_iff.mp root).elim And.left
        fun full => absurd full.1 (openComponent_ne components)
    rw [root, nothing]
    rfl
  · exact Or.inr (openComponent_of_ne root)

theorem component_of_climbs {segment : List Char} (climbs : Climbs segment) :
    component segment = [] :=
  if_pos (Or.inr climbs.1)

theorem follows_goBack_iff {components : List (List Char)} (proper : components ≠ [[]])
    {segment : List Char} (climbs : Climbs segment) :
    Follows components segment (openComponent (goBack components ++ [[]])) ↔
      Unclimbed components := by
  rw [Follows, component_of_climbs climbs]
  rcases components.eq_nil_or_concat with rfl | ⟨before, last, rfl⟩
  · exact iff_of_true (Or.inl rfl) fun last found => absurd found (by simp)
  · have unclimbed : Unclimbed (before ++ [last]) ↔ last = [] ∨ isDrive last = true := by
      simp [Unclimbed]
    rw [List.concat_eq_append, unclimbed]
    cases drive : isDrive last with
    | true =>
        have stays : goBack (before ++ [last]) = before ++ [last] := by simp [goBack, drive]
        have two : before ++ [last] ++ [[]] ≠ [[]] := by simp [List.append_eq_singleton_iff]
        rw [stays, openComponent_of_ne two]
        exact iff_of_true (Or.inr rfl) (Or.inr rfl)
    | false =>
        have back : goBack (before ++ [last]) = before := by simp [goBack, drive]
        rw [back]
        cases before with
        | nil =>
            have named : last ≠ [] := fun empty => proper (by rw [empty]; rfl)
            simp [openComponent, named]
        | cons first others =>
            rw [openComponent_of_ne (by simp)]
            simp [eq_comm]

/-- A text adds at most its own component, unless it goes back over another one. -/
theorem follows_addSegment_iff {scheme : List Char} (special : isSpecial scheme = true)
    (noFile : isFile scheme = false) (components : List (List Char)) (segment : List Char) :
    Follows (openComponent components) segment
        (openComponent (addSegment scheme components segment)) ↔
      (Climbs segment → Unclimbed (openComponent components)) := by
  rcases addSegment_cases special noFile components segment with
    ⟨dots, added⟩ | ⟨climbs, added⟩ | ⟨plain, added⟩
  · rw [added]
    refine iff_of_true (Or.inl rfl) fun climbs => ?_
    rcases dots with rfl | rfl
    · exact absurd climbs.1 (by decide)
    · exact absurd rfl climbs.2
  · rw [added, follows_goBack_iff (openComponent_ne components) climbs]
    exact ⟨fun unclimbed _ => unclimbed, fun unclimbed => unclimbed climbs⟩
  · rw [added]
    exact iff_of_true (follows_of_openComponent components segment)
      fun climbs => absurd climbs plain

/-! ## One component for each text -/

/-- A text that becomes a component as it is: without tabs and line breaks, and not dots. -/
structure Plain (segment : List Char) : Prop where
  undropped : clean segment = segment
  notOne : segment ≠ ['.']
  notTwo : segment ≠ ['.', '.']

theorem component_of_plain {segment : List Char} (plain : Plain segment) :
    component segment = percentEncode webSegmentSet segment := by
  rw [component, plain.undropped, if_neg (not_or.mpr ⟨plain.notOne, plain.notTwo⟩)]

section Run

variable {scheme : List Char} (special : isSpecial scheme = true) (noFile : isFile scheme = false)

include special noFile

theorem openComponent_addSegment_of_plain (components : List (List Char)) {segment : List Char}
    (plain : Plain segment) (proper : openComponent components ≠ [] ∨ component segment ≠ []) :
    openComponent (addSegment scheme components segment) =
      openComponent components ++ [component segment] := by
  rcases addSegment_cases special noFile components segment with
    ⟨dots, _⟩ | ⟨climbs, _⟩ | ⟨_, added⟩
  · exact absurd dots (not_or.mpr ⟨plain.notOne, plain.notTwo⟩)
  · exact absurd (plain.undropped.symm.trans climbs.1) plain.notTwo
  · rw [added]
    refine openComponent_of_ne fun root => ?_
    rcases List.append_eq_singleton_iff.mp root with ⟨nothing, empty⟩ | ⟨full, _⟩
    · exact proper.elim (absurd nothing) (absurd (List.singleton_inj.mp empty))
    · exact openComponent_ne components full

theorem openComponent_foldl_of_plain {components : List (List Char)}
    (proper : openComponent components ≠ []) {segments : List (List Char)}
    (plain : ∀ segment ∈ segments, Plain segment) :
    openComponent (segments.foldl (addSegment scheme) components) =
      openComponent components ++ segments.map component := by
  induction segments generalizing components with
  | nil => exact (List.append_nil _).symm
  | cons segment segments ih =>
      have step := openComponent_addSegment_of_plain special noFile components
        (plain segment List.mem_cons_self) (Or.inl proper)
      have more : openComponent (addSegment scheme components segment) ≠ [] := by
        rw [step]
        exact List.append_ne_nil_of_right_ne_nil _ (List.cons_ne_nil _ _)
      rw [List.foldl_cons, ih more fun other member => plain other (List.mem_cons_of_mem _ member),
        step, List.map_cons, List.append_assoc, List.singleton_append]

theorem appended_or_length_le (components : List (List Char)) (segment : List Char) :
    openComponent (addSegment scheme components segment) =
        openComponent components ++ [component segment] ∨
      (openComponent (addSegment scheme components segment)).length ≤
        (openComponent components).length := by
  by_cases follows : Follows (openComponent components) segment
      (openComponent (addSegment scheme components segment))
  · exact follows.elim (fun same => Or.inr (congrArg List.length same).le) Or.inl
  · right
    have slip := (follows_addSegment_iff special noFile components segment).not.mp follows
    obtain ⟨climbs, climbed⟩ := Classical.not_imp.mp slip
    rcases addSegment_cases special noFile components segment with
      ⟨_, added⟩ | ⟨_, added⟩ | ⟨plain, _⟩
    · rw [added]
    · obtain ⟨last, found, named⟩ := not_forall.mp climbed
        |>.imp fun last slip => Classical.not_imp.mp slip
      have back : goBack (openComponent components) = (openComponent components).dropLast := by
        rw [goBack, found]
        exact if_neg fun drive => named (Or.inr drive)
      have some : 0 < (openComponent components).length :=
        List.length_pos_of_mem (List.mem_of_getLast? found)
      have opened := (openComponent_sublist ((openComponent components).dropLast ++ [[]])).length_le
      rw [List.length_append, List.length_dropLast, List.length_singleton] at opened
      rw [added, back]
      omega
    · exact absurd climbs plain

/-- There is at most one component for each text, and exactly one only if each added its own. -/
theorem length_openComponent_foldl (components : List (List Char))
    (segments : List (List Char)) :
    let after := openComponent (segments.foldl (addSegment scheme) components)
    after.length ≤ (openComponent components).length + segments.length ∧
      (after.length = (openComponent components).length + segments.length →
        after = openComponent components ++ segments.map component) := by
  induction segments generalizing components with
  | nil => exact ⟨Nat.le_refl _, fun _ => (List.append_nil _).symm⟩
  | cons segment segments ih =>
      obtain ⟨bounded, exactly⟩ := ih (addSegment scheme components segment)
      have step := appended_or_length_le special noFile components segment
      have atMostOne : (openComponent (addSegment scheme components segment)).length ≤
          (openComponent components).length + 1 := by
        rcases step with appended | short
        · rw [appended, List.length_append, List.length_singleton]
        · exact Nat.le_succ_of_le short
      rw [List.foldl_cons, List.length_cons]
      refine ⟨by omega, fun full => ?_⟩
      have appended := step.resolve_right fun short => by omega
      rw [exactly (by omega), appended, List.map_cons, List.append_assoc, List.singleton_append]

end Run

/-! ## Paths stay in order -/

namespace InOrder

variable {components : List (List Char)}

theorem append (settled : ∀ one ∈ components, Settled one) {last : List Char}
    (ending : Settled last) : InOrder (components ++ [last]) := by
  refine ⟨List.append_ne_nil_of_right_ne_nil _ (List.cons_ne_nil _ _), fun one member => ?_⟩
  rcases List.mem_append.mp member with member | member
  · exact settled one member
  · exact List.mem_singleton.mp member ▸ ending

theorem dropFinalEmpty (ordered : InOrder components) :
    InOrder (dropFinalEmpty components) := by
  unfold Url.dropFinalEmpty
  split
  · rename_i long
    refine ⟨fun empty => ?_, fun one member => ?_⟩
    · have short := congrArg List.length empty
      rw [List.length_dropLast, List.length_nil] at short
      omega
    · exact ordered.settled one (List.dropLast_subset _ member)
  · exact ordered

theorem addSegment {scheme : List Char} (special : isSpecial scheme = true)
    (noFile : isFile scheme = false) (ordered : InOrder components) (segment : List Char) :
    InOrder (addSegment scheme components segment) := by
  have opened : ∀ one ∈ openComponent components, Settled one :=
    fun one member => ordered.settled one ((openComponent_sublist components).subset member)
  rcases addSegment_cases special noFile components segment with
    ⟨_, added⟩ | ⟨_, added⟩ | ⟨_, added⟩
  · exact added.symm ▸ ordered
  · rw [added]
    exact append (fun one member => opened one (goBack_subset _ member)) Settled.empty
  · rw [added]
    exact append opened (settled_component segment)

theorem foldl_addSegment {scheme : List Char} (special : isSpecial scheme = true)
    (noFile : isFile scheme = false) (ordered : InOrder components)
    (segments : List (List Char)) :
    InOrder (segments.foldl (Url.addSegment scheme) components) := by
  induction segments generalizing components with
  | nil => exact ordered
  | cons segment segments ih => exact ih (ordered.addSegment special noFile segment)

end InOrder

end DepositDirectory.Url
