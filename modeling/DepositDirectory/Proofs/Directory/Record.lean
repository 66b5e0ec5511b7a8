import DepositDirectory.Proofs.Cache.History
import DepositDirectory.Proofs.Directory.Traffic

/-!
# What the record of a directory shows

What a query was told is part of the record, and leads its dialogue to what is left of it; so each
reply was asked for by what the query had been told before.  What is on a shelf was put there at the
time that it bears, and what was served had been put there before and was of an age at which the
policy serves.
-/

namespace DepositDirectory.Directory

open Cache (Entry split_concat)
open Custody (CallError VaultAccount service)
open Dialogue (Asks Leads Reaches)

/-! ## What one query was told -/

/-- What a query was told, with the times. -/
def noticesOf (query : Nat) (record : List Notice) : List Notice :=
  record.filter (·.query = query)

/-- What a query was told. -/
def toldOf (query : Nat) (record : List Notice) : List Told :=
  (noticesOf query record).map Notice.exchange

section

variable {query : Nat} {record : List Notice} {notice : Notice}

theorem mem_noticesOf_iff : notice ∈ noticesOf query record ↔ notice ∈ record ∧
    notice.query = query := by
  rw [noticesOf, List.mem_filter, decide_eq_true_iff]

theorem noticesOf_append (earlier later : List Notice) :
    noticesOf query (earlier ++ later) = noticesOf query earlier ++ noticesOf query later :=
  List.filter_append ..

theorem noticesOf_split (before after : List Notice) (notice : Notice) :
    noticesOf notice.query (before ++ notice :: after) =
      noticesOf notice.query before ++ notice :: noticesOf notice.query after := by
  rw [noticesOf_append, noticesOf, noticesOf, List.filter_cons_of_pos (by simp)]
  rfl

theorem toldOf_append (earlier later : List Notice) :
    toldOf query (earlier ++ later) = toldOf query earlier ++ toldOf query later := by
  rw [toldOf, noticesOf_append, List.map_append]
  rfl

theorem toldOf_concat (record : List Notice) (notice : Notice) :
    toldOf notice.query (record ++ [notice]) =
      toldOf notice.query record ++ [notice.exchange] := by
  rw [toldOf, noticesOf_split, List.map_append]
  rfl

theorem toldOf_concat_of_ne (other : notice.query ≠ query) :
    toldOf query (record ++ [notice]) = toldOf query record := by
  rw [toldOf, toldOf, noticesOf_append, noticesOf, noticesOf,
    List.filter_cons_of_neg (by simpa using other), List.filter_nil, List.append_nil]

theorem mem_toldOf (member : notice ∈ record) : notice.exchange ∈ toldOf notice.query record :=
  List.mem_map_of_mem (mem_noticesOf_iff.mpr ⟨member, rfl⟩)

theorem exists_notice {told : Told} (member : told ∈ toldOf query record) :
    ∃ notice ∈ record, notice.query = query ∧ notice.exchange = told := by
  obtain ⟨notice, among, rfl⟩ := List.mem_map.mp member
  obtain ⟨inRecord, own⟩ := mem_noticesOf_iff.mp among
  exact ⟨notice, inRecord, own, rfl⟩

theorem toldOf_eq_nil (none : ∀ notice ∈ record, notice.query ≠ query) :
    toldOf query record = [] := by
  rw [toldOf, noticesOf, List.filter_eq_nil_iff.mpr, List.map_nil]
  intro notice member
  simpa using none notice member

end

namespace Traffic

variable {plan : Plan} {start : Int} {turns : List Turn} {traffic next : Traffic} {turn : Turn}

/-! ## The record and the dialogues -/

/-- What a query was told leads its dialogue to what is left of it, and everything that it was told
it had asked for. -/
structure Traced (plan : Plan) (traffic : Traffic) : Prop where
  leads : ∀ {query : Nat} {errand : Errand}, traffic.errands[query]? = some errand →
    Leads (errand.request.perform plan).run (toldOf query traffic.record) errand.rest
  asked : ∀ {before : List Notice} {notice : Notice} {after : List Notice},
    traffic.record = before ++ notice :: after →
      ∃ errand, traffic.errands[notice.query]? = some errand ∧
        Asks (errand.request.perform plan).run (toldOf notice.query before)
          notice.exchange.question

theorem exists_errand_set {errands : List Errand} {query other : Nat} {errand later found : Errand}
    (there : errands[query]? = some errand) (same : later.request = errand.request)
    (known : errands[other]? = some found) :
    ∃ final, (errands.set query later)[other]? = some final ∧ final.request = found.request := by
  rcases Nat.decEq query other with apart | rfl
  · exact ⟨found, (List.getElem?_set_ne apart).trans known, rfl⟩
  · cases there.symm.trans known
    have bound := (List.getElem?_eq_some_iff.mp there).1
    exact ⟨later, List.getElem?_set_self bound, same⟩

theorem Traced.proceed (traced : Traced plan traffic) {query : Nat} {errand later : Errand}
    (waits : traffic.errands[query]? = some errand) (same : later.request = errand.request)
    (onward : ∀ {dialogue told}, Leads dialogue told errand.rest →
      Leads dialogue told later.rest) :
    Traced plan (traffic.proceed query later) where
  leads := by
    intro other final found
    rcases Nat.decEq query other with apart | rfl
    · exact traced.leads ((List.getElem?_set_ne apart).symm.trans found)
    · have bound := (List.getElem?_eq_some_iff.mp waits).1
      cases (List.getElem?_set_self bound).symm.trans found
      rw [same]
      exact onward (traced.leads waits)
  asked := by
    intro before notice after split
    obtain ⟨found, known, asks⟩ := traced.asked split
    obtain ⟨final, there, kept⟩ := exists_errand_set waits same known
    exact ⟨final, there, kept ▸ asks⟩

theorem Traced.tell (traced : Traced plan traffic) {query : Nat} {request : Request}
    {question : Ask service}
    {next : question.Reply → Dialogue (withShelves service) (Except CallError Response)}
    (waits : traffic.errands[query]? =
      some ⟨request, .ask (I := withShelves service) question next⟩)
    (reply : question.Reply) (shelves : Shelves) :
    Traced plan (traffic.tell query ⟨question, reply⟩ ⟨request, next reply⟩ shelves) where
  leads := by
    intro other final found
    rcases Nat.decEq query other with apart | rfl
    · have told : toldOf other (traffic.record ++ [⟨query, traffic.now, ⟨question, reply⟩⟩]) =
          toldOf other traffic.record := toldOf_concat_of_ne apart
      have leads := traced.leads ((List.getElem?_set_ne apart).symm.trans found)
      rw [← told] at leads
      exact leads
    · have bound := (List.getElem?_eq_some_iff.mp waits).1
      cases (List.getElem?_set_self bound).symm.trans found
      have leads := (traced.leads waits).told reply
      rw [← toldOf_concat traffic.record ⟨query, traffic.now, ⟨question, reply⟩⟩] at leads
      exact leads
  asked := by
    intro before notice after split
    rcases split_concat split with ⟨rfl, rfl, _⟩ | ⟨less, _, earlier⟩
    · have bound := (List.getElem?_eq_some_iff.mp waits).1
      exact ⟨⟨request, next reply⟩, List.getElem?_set_self bound, next, traced.leads waits⟩
    · obtain ⟨found, known, asks⟩ := traced.asked earlier
      have same : (⟨request, next reply⟩ : Errand).request = request := rfl
      obtain ⟨final, there, kept⟩ := exists_errand_set waits same known
      exact ⟨final, there, kept ▸ asks⟩

theorem Traced.told_eq_nil (traced : Traced plan traffic) :
    toldOf traffic.errands.length traffic.record = [] := by
  refine toldOf_eq_nil fun notice member same => ?_
  obtain ⟨before, after, split⟩ := List.append_of_mem member
  obtain ⟨errand, known, _⟩ := traced.asked split
  have bound := (List.getElem?_eq_some_iff.mp known).1
  rw [same] at bound
  exact Nat.lt_irrefl _ bound

theorem Step.traced (step : Step plan traffic turn next) (traced : Traced plan traffic) :
    Traced plan next := by
  cases step with
  | came request =>
      refine ⟨?_, ?_⟩
      · intro query errand found
        rcases Nat.lt_or_ge query traffic.errands.length with old | new
        · rw [List.getElem?_append_left old] at found
          exact traced.leads found
        · rw [List.getElem?_append_right new] at found
          rw [List.getElem?_singleton] at found
          split at found
          · rename_i place
            cases found
            have last : query = traffic.errands.length :=
              Nat.le_antisymm (Nat.sub_eq_zero_iff_le.mp place) new
            rw [last, traced.told_eq_nil]
            exact .start _
          · cases found
      · intro before notice after split
        obtain ⟨errand, known, asks⟩ := traced.asked split
        have bound := (List.getElem?_eq_some_iff.mp known).1
        exact ⟨errand, (List.getElem?_append_left bound).trans known, asks⟩
  | shelved waits replies => exact traced.tell waits _ _
  | rested waits quiet =>
      refine traced.proceed waits rfl fun {dialogue told} leads => ?_
      rcases quiet with ⟨ms, same⟩ | ⟨line, same⟩
      · rw [show _ = _ from same] at leads
        exact leads.slept
      · rw [show _ = _ from same] at leads
        exact leads.noted
  | told reply waits => exact traced.tell waits reply _
  | passed ns => exact ⟨traced.leads, traced.asked⟩

theorem traced_of_run (possible : run plan start turns = some traffic) : Traced plan traffic := by
  refine run_induction (motive := fun _ traffic => Traced plan traffic) ⟨?_, ?_⟩ ?_ possible
  · intro query errand found
    cases found
  · intro before notice after split
    cases before <;> cases split
  · intro turns traffic turn next _ traced step
    exact step.traced traced

end Traffic

/-! ## The record and the shelves -/

/-- What can be done at a shelf: it is looked at, a value is put there, or it is emptied. -/
inductive Deed (α : Type) where
  | looked (verdict : Cache.Verdict α)
  | kept (value : α)
  | dropped

/-- What is on a shelf after a deed at a time; without one, it is left as it is. -/
def shelfAfter {α : Type} (shelf : Option (Entry α)) (time : Int) :
    Option (Deed α) → Option (Entry α)
  | some (.kept value) => some ⟨value, time⟩
  | some .dropped => none
  | _ => shelf

/-- One of the two shelves as it shows in the record: what is on it, how a value is put there, and
which exchanges are deeds at this shelf. -/
structure ShelfView (α : Type) where
  get : Shelves → Option (Entry α)
  kept : α → Told
  deed? : Told → Option (Deed α)
  keeps : ∀ {told value}, deed? told = some (.kept value) → told = kept value
  drops : ∀ {told}, deed? told = some .dropped → empties told = true
  empty : get Shelves.empty = none
  abroad : ∀ call reply, deed? ⟨.outside call, reply⟩ = none
  answers : ∀ {terms : Cache.Terms} {now : Int} {shelves after : Shelves} {question : Ask service}
    {reply : question.Reply}, atOnce terms now shelves question = some (reply, after) →
      get after = shelfAfter (get shelves) now (deed? ⟨question, reply⟩) ∧
        ∀ verdict, deed? ⟨question, reply⟩ = some (.looked verdict) →
          verdict = terms.consult (get shelves) now

def listingView : ShelfView (List VaultAccount) where
  get := Shelves.vaults
  kept := listingKept
  deed? := fun
    | ⟨.vaults .consult, verdict⟩ => some (.looked verdict)
    | ⟨.vaults (.keep vaults), _⟩ => some (.kept vaults)
    | ⟨.vaults .forget, _⟩ => some .dropped
    | _ => none
  keeps := by
    intro told value seen
    obtain ⟨call | (_ | vaults | _) | ask, reply⟩ := told <;> cases seen
    rfl
  drops := by
    intro told seen
    obtain ⟨call | (_ | vaults | _) | ask, reply⟩ := told <;> cases seen
    rfl
  empty := rfl
  abroad := fun _ _ => rfl
  answers := by
    intro terms now shelves after question reply replied
    rcases question with call | (_ | vaults | _) | (_ | rows | _) <;> cases replied
    case vaults.consult =>
      cases shelves.vaults <;>
        exact ⟨rfl, fun verdict same => (Deed.looked.inj (Option.some.inj same)).symm⟩
    all_goals exact ⟨rfl, fun verdict same => nomatch same⟩

def indexView : ShelfView (List Row) where
  get := Shelves.index
  kept := indexKept
  deed? := fun
    | ⟨.index .consult, verdict⟩ => some (.looked verdict)
    | ⟨.index (.keep rows), _⟩ => some (.kept rows)
    | ⟨.index .forget, _⟩ => some .dropped
    | _ => none
  keeps := by
    intro told value seen
    obtain ⟨call | ask | (_ | rows | _), reply⟩ := told <;> cases seen
    rfl
  drops := by
    intro told seen
    obtain ⟨call | ask | (_ | rows | _), reply⟩ := told <;> cases seen
    rfl
  empty := rfl
  abroad := fun _ _ => rfl
  answers := by
    intro terms now shelves after question reply replied
    rcases question with call | (_ | vaults | _) | (_ | rows | _) <;> cases replied
    case index.consult =>
      cases shelves.index <;>
        exact ⟨rfl, fun verdict same => (Deed.looked.inj (Option.some.inj same)).symm⟩
    all_goals exact ⟨rfl, fun verdict same => nomatch same⟩

namespace ShelfView

variable {α : Type} (view : ShelfView α)

def held (record : List Notice) : Option (Entry α) :=
  record.foldl (fun shelf notice => shelfAfter shelf notice.time (view.deed? notice.exchange)) none

/-- The exchange leaves the shelf as it is: it only looks at it, or is not at this shelf at all. -/
def Leaves (told : Told) : Prop :=
  (∀ value, view.deed? told ≠ some (.kept value)) ∧ view.deed? told ≠ some .dropped

variable {view} {record : List Notice} {notice : Notice} {entry : Entry α}

theorem held_concat (record : List Notice) (notice : Notice) :
    view.held (record ++ [notice]) =
      shelfAfter (view.held record) notice.time (view.deed? notice.exchange) := by
  rw [held, List.foldl_append]
  rfl

theorem held_concat_of_leaves (leaves : view.Leaves notice.exchange) :
    view.held (record ++ [notice]) = view.held record := by
  rw [held_concat]
  rcases seen : view.deed? notice.exchange with _ | verdict | value | _
  · rfl
  · rfl
  · exact absurd seen (leaves.1 value)
  · exact absurd seen leaves.2

/-- Exchanges that leave a shelf as it is make no difference to what is on it. -/
theorem held_append (record : List Notice) {later : List Notice}
    (leaves : ∀ notice ∈ later, view.Leaves notice.exchange) :
    view.held (record ++ later) = view.held record := by
  induction later using List.reverseRecOn with
  | nil => rw [List.append_nil]
  | append_singleton later notice ih =>
      rw [← List.append_assoc, held_concat_of_leaves]
      · exact ih fun other member => leaves other (List.mem_append_left _ member)
      · exact leaves notice (List.mem_append_right _ (List.mem_singleton.mpr rfl))

/-- What is on a shelf was put there at the time of the entry, and nothing was put there or dropped
from there since. -/
theorem put_of_held (held : view.held record = some entry) :
    ∃ before query since,
      record = before ++ ⟨query, entry.producedAt, view.kept entry.value⟩ :: since ∧
        ∀ later ∈ since, view.Leaves later.exchange := by
  induction record using List.reverseRecOn with
  | nil => cases held
  | append_singleton record notice ih =>
      have grown (leaves : view.Leaves notice.exchange) : ∃ before query since,
          record ++ [notice] =
              before ++ ⟨query, entry.producedAt, view.kept entry.value⟩ :: since ∧
            ∀ later ∈ since, view.Leaves later.exchange := by
        rw [held_concat_of_leaves leaves] at held
        obtain ⟨before, query, since, rfl, untouched⟩ := ih held
        refine ⟨before, query, since ++ [notice], List.append_assoc _ _ _, ?_⟩
        intro later member
        rcases List.mem_append.mp member with old | new
        · exact untouched later old
        · rw [List.mem_singleton.mp new]
          exact leaves
      rw [held_concat] at held
      rcases seen : view.deed? notice.exchange with _ | verdict | value | _
      · exact grown ⟨by simp [seen], by simp [seen]⟩
      · exact grown ⟨by simp [seen], by simp [seen]⟩
      · rw [seen] at held
        cases held
        refine ⟨record, notice.query, [], ?_, fun _ member => nomatch member⟩
        rw [← view.keeps seen]
      · rw [seen] at held
        cases held

end ShelfView

namespace Traffic

variable {α : Type} {view : ShelfView α}

/-- What is on the shelf is what the record says, and so it was at every look. -/
structure Stocked (plan : Plan) (view : ShelfView α) (traffic : Traffic) : Prop where
  held : view.get traffic.shelves = view.held traffic.record
  looked : ∀ {before : List Notice} {notice : Notice} {after : List Notice}
    {verdict : Cache.Verdict α}, traffic.record = before ++ notice :: after →
      view.deed? notice.exchange = some (.looked verdict) →
        verdict = plan.terms.consult (view.held before) notice.time

/-- An exchange with the service leaves the shelves as they are. -/
theorem Stocked.told (stocked : Stocked plan view traffic) {query : Nat} {call : Custody.Call}
    (reply : service.Reply call) (errand : Errand) :
    Stocked plan view (traffic.tell query ⟨.outside call, reply⟩ errand traffic.shelves) where
  held := by
    refine stocked.held.trans (ShelfView.held_concat_of_leaves ⟨?_, ?_⟩).symm
    · intro value seen
      cases (view.abroad call reply).symm.trans seen
    · intro seen
      cases (view.abroad call reply).symm.trans seen
  looked := by
    intro before notice after verdict split seen
    rcases split_concat split with ⟨rfl, rfl, _⟩ | ⟨less, _, earlier⟩
    · cases (view.abroad call reply).symm.trans seen
    · exact stocked.looked earlier seen

theorem Stocked.shelved (stocked : Stocked plan view traffic) {query : Nat}
    {question : Ask service} {reply : question.Reply} {shelves : Shelves} (errand : Errand)
    (replies : atOnce plan.terms traffic.now traffic.shelves question = some (reply, shelves)) :
    Stocked plan view (traffic.tell query ⟨question, reply⟩ errand shelves) where
  held := by
    rw [tell, ShelfView.held_concat, ← stocked.held]
    exact (view.answers replies).1
  looked := by
    intro before notice after verdict split seen
    rcases split_concat split with ⟨rfl, rfl, _⟩ | ⟨less, _, earlier⟩
    · rw [← stocked.held]
      exact (view.answers replies).2 verdict seen
    · exact stocked.looked earlier seen

theorem Step.stocked (step : Step plan traffic turn next) (stocked : Stocked plan view traffic) :
    Stocked plan view next := by
  cases step with
  | came request => exact ⟨stocked.held, stocked.looked⟩
  | shelved waits replies => exact stocked.shelved _ replies
  | rested waits quiet => exact ⟨stocked.held, stocked.looked⟩
  | told reply waits => exact stocked.told reply _
  | passed ns => exact ⟨stocked.held, stocked.looked⟩

theorem stocked_of_run (view : ShelfView α) (possible : run plan start turns = some traffic) :
    Stocked plan view traffic := by
  refine run_induction (motive := fun _ traffic => Stocked plan view traffic) ⟨?_, ?_⟩ ?_ possible
  · exact view.empty
  · intro before notice after verdict split
    cases before <;> cases split
  · intro turns traffic turn next _ stocked step
    exact step.stocked stocked

end Traffic

/-! ## The record and the order of the queries -/

/-- Queries are made one after another: when one is told something, none that came before it is told
anything any more. -/
def OneByOne (record : List Notice) : Prop :=
  record.Pairwise fun earlier later => earlier.query ≤ later.query

instance (record : List Notice) : Decidable (OneByOne record) :=
  inferInstanceAs (Decidable (record.Pairwise fun earlier later => earlier.query ≤ later.query))

theorem OneByOne.at {record before after : List Notice} {notice : Notice}
    (orderly : OneByOne record) (split : record = before ++ notice :: after) :
    (∀ earlier ∈ before, earlier.query ≤ notice.query) ∧
      ∀ later ∈ after, notice.query ≤ later.query := by
  rw [split, OneByOne, List.pairwise_append, List.pairwise_cons] at orderly
  obtain ⟨_, ⟨afterwards, _⟩, across⟩ := orderly
  exact ⟨fun earlier member => across earlier member notice List.mem_cons_self, afterwards⟩

/-! ## The record and the clock -/

namespace Traffic

/-- The clock never moves backwards. -/
def Steady (turns : List Turn) : Prop :=
  ∀ turn ∈ turns, turn.isForward = true

instance (turns : List Turn) : Decidable (Steady turns) :=
  inferInstanceAs (Decidable (∀ turn ∈ turns, turn.isForward = true))

/-- The notices are in the order of their times, and none is still to come. -/
structure Chronological (record : List Notice) (now : Int) : Prop where
  sorted : record.Pairwise fun earlier later => earlier.time ≤ later.time
  past : ∀ notice ∈ record, notice.time ≤ now

theorem Chronological.concat {record : List Notice} {now : Int}
    (ordered : Chronological record now) (query : Nat) (told : Told) :
    Chronological (record ++ [⟨query, now, told⟩]) now where
  sorted := by
    refine List.pairwise_append.mpr ⟨ordered.sorted, List.pairwise_singleton _ _, ?_⟩
    intro earlier member later new
    rw [List.mem_singleton.mp new]
    exact ordered.past earlier member
  past := by
    intro notice member
    rcases List.mem_append.mp member with old | new
    · exact ordered.past notice old
    · cases List.mem_singleton.mp new
      exact Int.le_refl now

/-- What one query was told is in the order of its times. -/
theorem Chronological.noticesOf {record : List Notice} {now : Int}
    (ordered : Chronological record now) (query : Nat) :
    (noticesOf query record).Pairwise fun earlier later => earlier.time ≤ later.time :=
  ordered.sorted.sublist List.filter_sublist

/-- Beside a steady clock the record is chronological. -/
theorem chronological_of_run (steady : Steady turns)
    (possible : run plan start turns = some traffic) :
    Chronological traffic.record traffic.now := by
  refine run_induction (motive := fun turns traffic => Steady turns →
    Chronological traffic.record traffic.now) ?_ ?_ possible steady
  · intro _
    exact ⟨List.Pairwise.nil, fun _ member => nomatch member⟩
  · intro turns traffic turn next _ ordered step steady
    have before := ordered fun turn member => steady turn (List.mem_append_left _ member)
    cases step with
    | came request => exact before
    | shelved waits replies => exact before.concat _ _
    | rested waits quiet => exact before
    | told reply waits => exact before.concat _ _
    | passed ns =>
        have forward : 0 ≤ ns := of_decide_eq_true
          (steady (.pass ns) (List.mem_append_right _ (List.mem_singleton.mpr rfl)))
        refine ⟨before.sorted, fun notice member => ?_⟩
        have earlier := before.past notice member
        change notice.time ≤ traffic.now + ns
        omega

end Traffic

end DepositDirectory.Directory
