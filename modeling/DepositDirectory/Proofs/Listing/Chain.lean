import DepositDirectory.Proofs.Listing.Drain
import Mathlib.Data.Set.Card

/-!
# Chains of cursors

A listing that does not change has one page, or none, at each place: at its front and behind each
cursor.  From the front a chain of places leads on, each behind the cursor that the page before it
names, until a page is absent, has no items or names no cursor.  A drain goes along this chain and
nowhere else, so it comes to an end exactly when the chain does, and then it has come by no place
twice.  A chain that comes back to a place goes round for ever, and so does the drain.
-/

namespace DepositDirectory

/-! ## An outside that does not change -/

namespace Rehearsal

variable {Question Reply : Type}

/-- An outside that gives the same reply whenever it is asked the same; the state holds what it has
been asked. -/
def constant (reply : Question → Reply) : Host (exchange Question Reply) (List Question) where
  answer := fun (question : Question) asked => (reply question, asked ++ [question])
  wait := fun _ asked => asked
  note := fun _ asked => asked

end Rehearsal

namespace Listing

open Custody (CallError)
open Rehearsal (constant exchange)

/-- A listing that does not change: its pages, the cursor that a page names, and what it holds. -/
structure Catalogue (π α : Type) where
  page : Option String → Option π
  next : π → Option String
  items : π → List α

namespace Catalogue

variable {π α : Type}

/-- Where the listing goes on after a place: behind the cursor that a page with items names. -/
def onward (catalogue : Catalogue π α) (place : Option String) : Option String :=
  (catalogue.page place).bind fun page =>
    if (catalogue.items page).isEmpty then none else catalogue.next page

/-- The places of the chain from the front on, as long as it goes on. -/
def chain (catalogue : Catalogue π α) : Nat → Option (Option String)
  | 0 => some none
  | n + 1 => (catalogue.chain n).bind fun place => (catalogue.onward place).map some

def places (catalogue : Catalogue π α) (count : Nat) : List (Option String) :=
  (List.range count).filterMap catalogue.chain

def itemsAt (catalogue : Catalogue π α) (place : Option String) : List α :=
  ((catalogue.page place).map catalogue.items).getD []

/-- The cursors that the pages at some places name. -/
def handedOut (catalogue : Catalogue π α) (places : List (Option String)) : Set String :=
  {cursor | ∃ place ∈ places, ∃ page, catalogue.page place = some page ∧
    catalogue.next page = some cursor}

def shelf (catalogue : Catalogue π α) :
    Host (exchange (Option String) (Except CallError (Option π))) (List (Option String)) :=
  constant fun place => .ok (catalogue.page place)

/-- Drain the listing with an allowance of pages: what it comes to, and the place of every call that
it makes. -/
def drained (catalogue : Catalogue π α) (patience : Patience) (allowance : Nat) :
    Option (Except CallError (List α)) × List (Option String) :=
  ((byCursor catalogue.next catalogue.items).drain patience allowance).run.run catalogue.shelf []

/-! ## The chain -/

variable {catalogue : Catalogue π α}

theorem chain_add_of_stopped {n : Nat} (stopped : catalogue.chain n = none) (more : Nat) :
    catalogue.chain (n + more) = none := by
  induction more with
  | zero => exact stopped
  | succ more ih =>
      rw [← Nat.add_assoc, chain, ih]
      rfl

theorem chain_add_of_eq {i j : Nat} (same : catalogue.chain i = catalogue.chain j) (more : Nat) :
    catalogue.chain (i + more) = catalogue.chain (j + more) := by
  induction more with
  | zero => exact same
  | succ more ih => rw [← Nat.add_assoc, ← Nat.add_assoc, chain, chain, ih]

theorem chain_ne_none_of_back {i j : Nat} {place : Option String} (before : i < j)
    (first : catalogue.chain i = some place) (again : catalogue.chain j = some place) (n : Nat) :
    catalogue.chain n ≠ none := by
  -- If it stopped, it would have stopped one round earlier too.
  induction n using Nat.strongRecOn with
  | ind n ih =>
      intro stopped
      have beyond : j < n := by
        by_contra short
        obtain ⟨more, rfl⟩ := Nat.exists_eq_add_of_le (Nat.le_of_not_lt short)
        rw [chain_add_of_stopped stopped] at again
        cases again
      obtain ⟨more, rfl⟩ := Nat.exists_eq_add_of_le (Nat.le_of_lt beyond)
      have earlier : catalogue.chain (i + more) = none :=
        (chain_add_of_eq (first.trans again.symm) more).trans stopped
      exact ih (i + more) (by omega) earlier

theorem places_eq_nil_of_stopped {n : Nat} (stopped : catalogue.chain n = none) (count : Nat) :
    (List.range' n count).filterMap catalogue.chain = [] := by
  refine List.filterMap_eq_nil_iff.mpr fun m member => ?_
  obtain ⟨more, _, rfl⟩ := List.mem_range'.mp member
  rw [Nat.one_mul]
  exact chain_add_of_stopped stopped more

theorem nodup_places_of_stops {n : Nat} (stops : catalogue.chain n = none) (count : Nat) :
    (catalogue.places count).Nodup := by
  refine List.Nodup.filterMap (fun i j place first again => ?_) List.nodup_range
  rcases Nat.lt_trichotomy i j with before | same | after
  · exact absurd stops (chain_ne_none_of_back before first again n)
  · exact same
  · exact absurd stops (chain_ne_none_of_back after again first n)

theorem length_places_of_endless (endless : ∀ n, catalogue.chain n ≠ none) (count : Nat) :
    (catalogue.places count).length = count := by
  have all : ∀ n ∈ List.range count, (catalogue.chain n).isSome = true :=
    fun n _ => Option.isSome_iff_ne_none.mpr (endless n)
  rw [places, List.length_filterMap_eq_countP, List.countP_eq_length.mpr all, List.length_range]

theorem handed_of_chain_succ {n : Nat} {place : Option String}
    (later : catalogue.chain (n + 1) = some place) :
    ∃ before page cursor, catalogue.chain n = some before ∧ catalogue.page before = some page ∧
      catalogue.next page = some cursor ∧ place = some cursor := by
  rw [chain] at later
  obtain ⟨before, here, further⟩ := Option.bind_eq_some_iff.mp later
  obtain ⟨cursor, onward, rfl⟩ := Option.map_eq_some_iff.mp further
  obtain ⟨page, fetched, named⟩ := Option.bind_eq_some_iff.mp onward
  split at named
  · cases named
  · exact ⟨before, page, cursor, here, fetched, named, rfl⟩

theorem mem_places_iff {count : Nat} {place : Option String} :
    place ∈ catalogue.places count ↔ ∃ n < count, catalogue.chain n = some place := by
  simp only [places, List.mem_filterMap, List.mem_range]

theorem length_places_le {count : Nat} (apart : (catalogue.places count).Nodup) :
    ((catalogue.places count).length : ℕ∞) ≤
      (catalogue.handedOut (catalogue.places count)).encard + 1 := by
  have reached : {place | place ∈ catalogue.places count} ⊆
      insert none (some '' catalogue.handedOut (catalogue.places count)) := by
    intro place member
    obtain ⟨n, within, here⟩ := mem_places_iff.mp member
    cases n with
    | zero =>
        cases here
        exact Set.mem_insert _ _
    | succ n =>
        obtain ⟨before, page, cursor, there, fetched, named, rfl⟩ := handed_of_chain_succ here
        have earlier : before ∈ catalogue.places count :=
          mem_places_iff.mpr ⟨n, Nat.lt_of_succ_lt within, there⟩
        exact Set.mem_insert_of_mem _ ⟨cursor, ⟨before, earlier, page, fetched, named⟩, rfl⟩
  calc ((catalogue.places count).length : ℕ∞)
      = {place | place ∈ catalogue.places count}.encard := by
        rw [← List.coe_toFinset, Set.encard_coe_eq_coe_finsetCard,
          List.toFinset_card_of_nodup apart]
    _ ≤ (insert none (some '' catalogue.handedOut (catalogue.places count))).encard :=
        Set.encard_le_encard reached
    _ ≤ (some '' catalogue.handedOut (catalogue.places count)).encard + 1 :=
        Set.encard_insert_le _ _
    _ ≤ (catalogue.handedOut (catalogue.places count)).encard + 1 :=
        add_le_add_left (Set.encard_image_le _ _) 1

/-! ## The drain -/

section Runs

variable (catalogue) (patience : Patience)

theorem run_execute_page (place : Option String) (asked : List (Option String)) :
    (patience.execute ((byCursor catalogue.next catalogue.items).fetch place)).run.run
        catalogue.shelf asked =
      (some (.ok (catalogue.page place)), asked ++ [place]) := by
  have fetched : ((byCursor catalogue.next catalogue.items).fetch place).run.run catalogue.shelf
      asked = (some (.ok (catalogue.page place)), asked ++ [place]) := rfl
  rw [Patience.execute, Patience.executeWith, ExceptT.run_mk,
    Patience.run_attempt_of_settled fetched rfl]
  exact Patience.run_standing (fun _ _ => rfl) _ _ _

variable {catalogue} {place : Option String} (page held : Nat) (asked : List (Option String))

theorem run_drainFrom_of_stop (stops : catalogue.onward place = none) (allowance : Nat) :
    ((byCursor catalogue.next catalogue.items).drainFrom patience (allowance + 1) place page
        held).run.run catalogue.shelf asked =
      (some (.ok (catalogue.itemsAt place)), asked ++ [place]) := by
  rw [drainFrom, Dialogue.run_task_bind_of_run (run_execute_page catalogue patience place asked)]
  unfold onward at stops
  unfold itemsAt
  cases fetched : catalogue.page place with
  | none => rfl
  | some told =>
      rw [fetched, Option.bind_some] at stops
      dsimp only
      split
      · rename_i cursor head tail named filled
        change catalogue.next told = some cursor at named
        change catalogue.items told = head :: tail at filled
        rw [filled, named] at stops
        cases stops
      · rfl

theorem run_drainFrom_of_further {cursor : String} (further : catalogue.onward place = some cursor)
    (allowance : Nat) :
    ∃ total,
      ((byCursor catalogue.next catalogue.items).drainFrom patience (allowance + 1) place page
          held).run.run catalogue.shelf asked =
        let rest := ((byCursor catalogue.next catalogue.items).drainFrom patience allowance
          (some cursor) (page + 1) total).run.run catalogue.shelf (asked ++ [place])
        (rest.1.map (Except.map (catalogue.itemsAt place ++ ·)), rest.2) := by
  unfold onward at further
  obtain ⟨told, fetched, named⟩ := Option.bind_eq_some_iff.mp further
  split at named
  · cases named
  · rename_i filled
    refine ⟨held + (catalogue.items told).length, ?_⟩
    rw [drainFrom, Dialogue.run_task_bind_of_run (run_execute_page catalogue patience place asked),
      itemsAt, fetched]
    dsimp only
    split
    · rename_i cursor' head tail named' filled'
      change catalogue.next told = some cursor' at named'
      cases named.symm.trans named'
      exact Dialogue.run_task_map _ _ _ _
    · rename_i otherwise
      obtain ⟨head, tail, items⟩ := List.exists_cons_of_ne_nil fun bare =>
        filled (List.isEmpty_iff.mpr bare)
      exact absurd items (otherwise cursor head tail named)

/-- From a place of the chain on, a drain goes along the chain as far as its allowance lasts, and
comes to the items of all the pages there if the chain stops before that. -/
theorem run_drainFrom {n : Nat} (here : catalogue.chain n = some place) (allowance : Nat) :
    ((byCursor catalogue.next catalogue.items).drainFrom patience allowance place page held).run.run
        catalogue.shelf asked =
      (if (catalogue.chain (n + allowance)).isNone then
          some (.ok (((List.range' n allowance).filterMap catalogue.chain).flatMap
            catalogue.itemsAt))
        else none,
        asked ++ (List.range' n allowance).filterMap catalogue.chain) := by
  induction allowance generalizing n place page held asked with
  | zero =>
      rw [Nat.add_zero, here, List.range'_zero, List.filterMap_nil, List.append_nil]
      rfl
  | succ allowance ih =>
      have link : catalogue.chain (n + 1) = (catalogue.onward place).map some := by
        rw [chain, here]
        rfl
      have next : n + (allowance + 1) = n + 1 + allowance := by omega
      rw [List.range'_succ, List.filterMap_cons_some here, List.flatMap_cons, next]
      cases further : catalogue.onward place with
      | none =>
          rw [further] at link
          rw [run_drainFrom_of_stop patience page held asked further, chain_add_of_stopped link,
            places_eq_nil_of_stopped link, List.flatMap_nil, List.append_nil]
          rfl
      | some cursor =>
          rw [further] at link
          obtain ⟨total, run⟩ := run_drainFrom_of_further patience page held asked further allowance
          rw [run, ih (page + 1) total _ link]
          dsimp only
          rw [List.append_assoc]
          split <;> rfl

/-- A drain asks for the places of the chain, as many as its allowance lets it, and comes to the
items of all their pages exactly when the chain has stopped by then. -/
theorem drained_eq (allowance : Nat) :
    catalogue.drained patience allowance =
      (if (catalogue.chain allowance).isNone then
          some (.ok ((catalogue.places allowance).flatMap catalogue.itemsAt))
        else none,
        catalogue.places allowance) := by
  have run := run_drainFrom patience 1 0 [] (show catalogue.chain 0 = some none from rfl) allowance
  rw [Nat.zero_add, ← List.range_eq_range'] at run
  exact run

theorem drained_eq_some_iff {allowance : Nat} {result : Except CallError (List α)} :
    catalogue.drained patience allowance = (some result, asked) ↔
      catalogue.chain allowance = none ∧ catalogue.places allowance = asked ∧
        .ok (asked.flatMap catalogue.itemsAt) = result := by
  rw [drained_eq, Prod.mk.injEq]
  constructor
  · rintro ⟨ended, rfl⟩
    split at ended
    · rename_i stopped
      exact ⟨Option.isNone_iff_eq_none.mp stopped, rfl, Option.some.inj ended⟩
    · cases ended
  · rintro ⟨stopped, rfl, rfl⟩
    rw [stopped]
    exact ⟨rfl, rfl⟩

end Runs

/-- A drain comes to an end, with some allowance, exactly when the chain of places stops.  Then it
comes to items and to no failure, it has asked for no place twice, and for at most one more than
there are cursors in the pages it got.  If the chain comes back to a place, no allowance is enough:
all of it is spent, and the drain is not over. -/
theorem drain_ends_iff (catalogue : Catalogue π α) (patience : Patience) :
    ((∃ allowance result asked,
        catalogue.drained patience allowance = (some result, asked)) ↔
      ∃ n, catalogue.chain n = none) ∧
    (∀ allowance result asked, catalogue.drained patience allowance = (some result, asked) →
      (∃ items, result = .ok items) ∧ asked.Nodup ∧
        (asked.length : ℕ∞) ≤ (catalogue.handedOut asked).encard + 1) ∧
    (∀ i j place, i < j → catalogue.chain i = some place → catalogue.chain j = some place →
      ∀ allowance, ∃ asked, asked.length = allowance ∧
        catalogue.drained patience allowance = (none, asked)) := by
  refine ⟨⟨?_, ?_⟩, ?_, ?_⟩
  · rintro ⟨allowance, result, asked, ended⟩
    exact ⟨allowance, ((drained_eq_some_iff patience asked).mp ended).1⟩
  · rintro ⟨n, stopped⟩
    exact ⟨n, _, _, (drained_eq_some_iff patience _).mpr ⟨stopped, rfl, rfl⟩⟩
  · intro allowance result asked ended
    obtain ⟨stopped, rfl, rfl⟩ := (drained_eq_some_iff patience asked).mp ended
    have apart := nodup_places_of_stops stopped allowance
    exact ⟨⟨_, rfl⟩, apart, length_places_le apart⟩
  · intro i j place before first again allowance
    have endless := chain_ne_none_of_back before first again
    refine ⟨catalogue.places allowance, length_places_of_endless endless allowance, ?_⟩
    rw [drained_eq, Option.isNone_eq_false_iff.mpr (Option.isSome_iff_ne_none.mpr (endless _))]
    rfl

def circle : Catalogue (List Nat × Option String) Nat where
  page := fun
    | none => some ([1], some "")
    | some _ => some ([2], some "")
  next := Prod.snd
  items := Prod.fst

/-- A million pages are not enough for a listing that goes round. -/
theorem circle_is_never_drained :
    (circle.drained .usual 1000000).1 = none ∧
      (circle.drained .usual 1000000).2.length = 1000000 := by
  obtain ⟨_, _, back⟩ := drain_ends_iff circle .usual
  obtain ⟨asked, long, endless⟩ := back 1 2 (some "") (by decide) rfl rfl 1000000
  exact ⟨congrArg Prod.fst endless, (congrArg (fun run => run.2.length) endless).trans long⟩

end Catalogue

end Listing

end DepositDirectory
