import DepositDirectory.Proofs.Directory.Provenance
import DepositDirectory.Proofs.Directory.Transparency

/-!
# A query that a host runs takes turns

A host with shelves runs a query from end to end.  What it does is one possible history of turns: at
each of them the query goes on by itself, or is answered, or the clock moves to what the host reads.
So what holds after every history holds of the requests that a host answers one after the other.
-/

namespace DepositDirectory.Directory

open Custody (CallError VaultAccount service)

variable {σ : Type} {plan : Plan}

theorem answerShelf_at {α : Type} (clock : σ → Int × σ) (terms : Cache.Terms)
    (shelf : Option (Cache.Entry α)) (ask : Cache.Ask α) (state : σ) :
    (answerShelf clock terms shelf ask state).1 =
        (answerShelf (fun now => (now, now)) terms shelf ask (clock state).1).1 ∧
      (answerShelf clock terms shelf ask state).2.1 =
        (answerShelf (fun now => (now, now)) terms shelf ask (clock state).1).2.1 := by
  cases ask with
  | consult => cases shelf <;> exact ⟨rfl, rfl⟩
  | keep value => exact ⟨rfl, rfl⟩
  | forget => exact ⟨rfl, rfl⟩

/-- At the time that the clock of a host shows, a shelf replies at once what the host replies. -/
theorem exists_atOnce (host : Host service σ) (clock : σ → Int × σ) (terms : Cache.Terms)
    (shelves : Shelves) (question : Ask service) (state : σ) :
    (∃ call, question = .outside call ∧
        ((hostShelves host clock terms).answer question (state, shelves)).2.2 = shelves) ∨
      ∃ time, atOnce terms time shelves question =
        some (((hostShelves host clock terms).answer question (state, shelves)).1,
          ((hostShelves host clock terms).answer question (state, shelves)).2.2) := by
  cases question with
  | outside call => exact Or.inl ⟨call, rfl, rfl⟩
  | vaults ask =>
      obtain ⟨reply, entry⟩ := answerShelf_at clock terms shelves.vaults ask state
      refine Or.inr ⟨(clock state).1, ?_⟩
      change some (_, _) = some (_, _)
      rw [← reply, ← entry]
      rfl
  | index ask =>
      obtain ⟨reply, entry⟩ := answerShelf_at clock terms shelves.index ask state
      refine Or.inr ⟨(clock state).1, ?_⟩
      change some (_, _) = some (_, _)
      rw [← reply, ← entry]
      rfl

namespace Traffic

variable {query : Nat} {errand : Errand} {shelves : Shelves} {before next after : Traffic}

/-- Turns of one query and of the clock lead from one traffic to another, in which the query stands
as said beside what is on the shelves. -/
structure LeadsTo (plan : Plan) (query : Nat) (errand : Errand) (shelves : Shelves)
    (before after : Traffic) : Prop where
  taken : ∃ turns : List Turn, turns.foldlM (step plan) before = some after
  recorded : ∃ own, after.record = before.record ++ own ∧ ∀ notice ∈ own, notice.query = query
  stands : after.errands = before.errands.set query errand
  shelved : after.shelves = shelves

theorem LeadsTo.start (waits : before.errands[query]? = some errand) :
    LeadsTo plan query errand before.shelves before before where
  taken := ⟨[], rfl⟩
  recorded := ⟨[], (List.append_nil _).symm, List.forall_mem_nil _⟩
  stands := by
    obtain ⟨bound, there⟩ := List.getElem?_eq_some_iff.mp waits
    rw [← there, List.set_getElem_self]
  shelved := rfl

theorem LeadsTo.turn {turn : Turn} {own : List Notice}
    (stepped : before.step plan turn = some next)
    (same : next.errands.set query errand = before.errands.set query errand)
    (record : next.record = before.record ++ own) (mine : ∀ notice ∈ own, notice.query = query)
    (onward : LeadsTo plan query errand shelves next after) :
    LeadsTo plan query errand shelves before after where
  taken := by
    obtain ⟨turns, taken⟩ := onward.taken
    refine ⟨turn :: turns, ?_⟩
    rw [List.foldlM_cons, stepped]
    exact taken
  recorded := by
    obtain ⟨later, whole, others⟩ := onward.recorded
    refine ⟨own ++ later, ?_, fun notice member => ?_⟩
    · rw [whole, record, List.append_assoc]
    · exact (List.mem_append.mp member).elim (mine notice) (others notice)
  stands := onward.stands.trans same
  shelved := onward.shelved

theorem stands_proceed (traffic : Traffic) {waiting : Errand}
    (waits : traffic.errands[query]? = some waiting) (later : Errand) :
    (traffic.proceed query later).errands[query]? = some later :=
  List.getElem?_set_self (List.getElem?_eq_some_iff.mp waits).1

theorem stands_tell (traffic : Traffic) {waiting : Errand}
    (waits : traffic.errands[query]? = some waiting) (told : Told) (later : Errand)
    (shelves : Shelves) : (traffic.tell query told later shelves).errands[query]? = some later :=
  List.getElem?_set_self (List.getElem?_eq_some_iff.mp waits).1

theorem LeadsTo.rest {request : Request}
    {waiting rest : Dialogue (withShelves service) (Except CallError Response)}
    (waits : before.errands[query]? = some ⟨request, waiting⟩)
    (quiet : (∃ ms, waiting = .sleep ms rest) ∨ ∃ line, waiting = .note line rest)
    (onward : LeadsTo plan query errand shelves (before.proceed query ⟨request, rest⟩) after) :
    LeadsTo plan query errand shelves before after := by
  have stepped : before.step plan (.go query) = some (before.proceed query ⟨request, rest⟩) := by
    rcases quiet with ⟨ms, rfl⟩ | ⟨line, rfl⟩
    · simp only [step, waits]
    · simp only [step, waits]
  exact .turn stepped (List.set_set ..) (List.append_nil _).symm (List.forall_mem_nil _) onward

/-- A query that is told something goes on by a turn. -/
theorem LeadsTo.tell {turn : Turn} {told : Told} {later : Errand} {put : Shelves}
    (stepped : before.step plan turn = some (before.tell query told later put))
    (onward : LeadsTo plan query errand shelves (before.tell query told later put) after) :
    LeadsTo plan query errand shelves before after := by
  refine .turn stepped (List.set_set ..) rfl (fun notice member => ?_) onward
  rw [List.mem_singleton.mp member]

theorem exists_leadsTo_of_run {host : Host service σ} {clock : σ → Int × σ} {request : Request}
    {dialogue : Dialogue (withShelves service) (Except CallError Response)}
    {outcome : Except CallError Response} {state final : σ}
    (waits : before.errands[query]? = some ⟨request, dialogue⟩)
    (ran : dialogue.run (hostShelves host clock plan.terms) (state, before.shelves) =
      (some outcome, final, shelves)) :
    ∃ after, LeadsTo plan query ⟨request, .done outcome⟩ shelves before after := by
  induction dialogue generalizing before state with
  | done result =>
      cases ran
      exact ⟨before, .start waits⟩
  | unfinished => cases ran
  | sleep ms rest ih =>
      have goesOn := before.stands_proceed waits ⟨request, rest⟩
      obtain ⟨after, onward⟩ := ih goesOn ran
      exact ⟨after, .rest waits (Or.inl ⟨ms, rfl⟩) onward⟩
  | note line rest ih =>
      have goesOn := before.stands_proceed waits ⟨request, rest⟩
      obtain ⟨after, onward⟩ := ih goesOn ran
      exact ⟨after, .rest waits (Or.inr ⟨line, rfl⟩) onward⟩
  | ask question rest ih =>
      rw [Dialogue.run] at ran
      generalize there : (hostShelves host clock plan.terms).answer question
        (state, before.shelves) = replied at ran
      obtain ⟨reply, later, put⟩ := replied
      rcases exists_atOnce host clock plan.terms before.shelves question state with
        ⟨call, rfl, kept⟩ | ⟨time, replies⟩
      · rw [there] at kept
        cases kept
        have goesOn := before.stands_tell waits ⟨.outside call, reply⟩ ⟨request, rest reply⟩
          before.shelves
        obtain ⟨after, onward⟩ := ih reply goesOn ran
        have stepped : before.step plan (.told query ⟨call, reply⟩) = some (before.tell query
            ⟨.outside call, reply⟩ ⟨request, rest reply⟩ before.shelves) := by
          simp only [step, waits]
          rfl
        exact ⟨after, .tell stepped onward⟩
      · rw [there] at replies
        -- First the clock moves to the time that the host reads, then the shelf replies.
        let passed : Traffic := { before with now := time }
        have goesOn := passed.stands_tell waits ⟨question, reply⟩ ⟨request, rest reply⟩ put
        obtain ⟨after, onward⟩ := ih reply goesOn ran
        have moved : before.step plan (.pass (time - before.now)) = some passed := by
          have clocked : before.now + (time - before.now) = time := by omega
          simp only [step, clocked, passed]
        have stepped : passed.step plan (.go query) =
            some (passed.tell query ⟨question, reply⟩ ⟨request, rest reply⟩ put) := by
          simp only [step, show passed.errands = before.errands from rfl, waits,
            show atOnce plan.terms passed.now passed.shelves question = some (reply, put)
              from replies]
          rfl
        exact ⟨after, .turn moved rfl (List.append_nil _).symm (List.forall_mem_nil _)
          (.tell stepped onward)⟩

/-! ## Requests one after the other -/

theorem run_append (plan : Plan) (start : Int) (turns later : List Turn) :
    run plan start (turns ++ later) = (run plan start turns).bind (later.foldlM (step plan)) := by
  rw [run, List.foldlM_append]
  rfl

theorem query_lt_of_run {start : Int} {turns : List Turn} {traffic : Traffic} {notice : Notice}
    (possible : run plan start turns = some traffic) (member : notice ∈ traffic.record) :
    notice.query < traffic.errands.length := by
  obtain ⟨former, latter, split⟩ := List.append_of_mem member
  obtain ⟨errand, known, _⟩ := (traced_of_run possible).asked split
  exact (List.getElem?_eq_some_iff.mp known).1

theorem oneByOne_append {record own : List Notice} {query : Nat} (orderly : OneByOne record)
    (earlier : ∀ notice ∈ record, notice.query ≤ query)
    (mine : ∀ notice ∈ own, notice.query = query) : OneByOne (record ++ own) := by
  refine List.pairwise_append.mpr ⟨orderly, ?_, fun first among second later => ?_⟩
  · refine List.pairwise_of_forall_mem_list fun first among second later => ?_
    exact Nat.le_of_eq ((mine first among).trans (mine second later).symm)
  · rw [mine second later]
    exact earlier first among

/-- The requests that a host answers one after the other are a history, in which they come one by
one and end as they were answered. -/
theorem exists_run_of_transcript {host : Host service σ} {clock : σ → Int × σ} {start : Int}
    {turns : List Turn} {traffic : Traffic} {requests : List Request}
    {outcomes : List (Except CallError Response)} {state : σ}
    (possible : run plan start turns = some traffic) (orderly : OneByOne traffic.record)
    (answered : transcript (hostShelves host clock plan.terms) plan requests
      (state, traffic.shelves) = outcomes.map some) :
    ∃ later final, run plan start (turns ++ later) = some final ∧ OneByOne final.record ∧
      final.errands = traffic.errands ++
        List.zipWith (fun request outcome => ⟨request, .done outcome⟩) requests outcomes := by
  induction requests generalizing turns traffic outcomes state with
  | nil =>
      refine ⟨[], traffic, ?_, orderly, ?_⟩
      · rw [List.append_nil, possible]
      · rw [List.zipWith_nil_left, List.append_nil]
  | cons request requests ih =>
      cases outcomes with
      | nil => cases answered
      | cons outcome outcomes =>
          rw [transcript, List.map_cons] at answered
          obtain ⟨ended, answered⟩ := List.cons.inj answered
          generalize ran : (request.perform plan).run.run (hostShelves host clock plan.terms)
            (state, traffic.shelves) = left at ended answered
          obtain ⟨result, beside, shelves⟩ := left
          cases ended
          let came : Traffic :=
            { traffic with errands := traffic.errands ++ [⟨request, (request.perform plan).run⟩] }
          have arrived : run plan start (turns ++ [.come request]) = some came := by
            rw [run_concat, possible]
            rfl
          have waits : came.errands[traffic.errands.length]? =
              some ⟨request, (request.perform plan).run⟩ := List.getElem?_concat_length
          obtain ⟨after, onward⟩ := exists_leadsTo_of_run waits ran
          obtain ⟨own, taken⟩ := onward.taken
          have reached : run plan start (turns ++ [.come request] ++ own) = some after := by
            rw [run_append, arrived]
            exact taken
          have inOrder : OneByOne after.record := by
            obtain ⟨told, record, mine⟩ := onward.recorded
            rw [record]
            exact oneByOne_append orderly
              (fun notice member => Nat.le_of_lt (query_lt_of_run possible member)) mine
          rw [← onward.shelved] at answered
          obtain ⟨later, final, whole, last, errands⟩ := ih reached inOrder answered
          refine ⟨[.come request] ++ own ++ later, final, ?_, last, ?_⟩
          · rw [← whole, List.append_assoc, List.append_assoc, List.append_assoc]
          · have ended : came.errands.set traffic.errands.length ⟨request, .done outcome⟩ =
                traffic.errands ++ [⟨request, .done outcome⟩] := by
              rw [List.set_append_right _ _ (Nat.le_refl _), Nat.sub_self]
              rfl
            rw [errands, onward.stands, ended, List.append_assoc]
            rfl

/-- What a new directory answers on a host rests on wholes: there is a history in which each answer
rests on one listing or one index that its query was told, the listing from one draining and the
index from one building. -/
theorem sourced_of_transcript {host : Host service σ} {clock : σ → Int × σ}
    {requests : List Request} {outcomes : List (Except CallError Response)} {state : σ}
    (answered : transcript (hostShelves host clock plan.terms) plan requests
      (state, Shelves.empty) = outcomes.map some) (start : Int) :
    ∃ turns traffic, run plan start turns = some traffic ∧ OneByOne traffic.record ∧
      (∀ (query : Nat) (request : Request) (response : Response),
        requests[query]? = some request → outcomes[query]? = some (.ok response) →
          Sourced (toldOf query traffic.record) request response) ∧
      (∀ notice ∈ traffic.record, ∀ vaults, UsesListing notice.exchange vaults →
        HasDraining plan traffic.record vaults notice) ∧
      ∀ notice ∈ traffic.record, ∀ rows, UsesIndex notice.exchange rows →
        HasBuilding plan traffic.record rows notice := by
  have opens : run plan start [] = some (opened start) := rfl
  obtain ⟨turns, traffic, possible, orderly, errands⟩ :=
    exists_run_of_transcript opens List.Pairwise.nil answered
  refine ⟨turns, traffic, possible, orderly, fun query request response asked told => ?_, ?_, ?_⟩
  · have ended : traffic.errands[query]? = some ⟨request, .done (.ok response)⟩ := by
      rw [errands, opened, List.nil_append, List.getElem?_zipWith, asked, told]
    exact (queryTells_of_run possible ended).sourced rfl
  · exact fun _ member _ uses => hasDraining_of_usesListing possible member uses
  · exact fun _ member _ uses => hasBuilding_of_usesIndex possible member uses

end Traffic

end DepositDirectory.Directory
