import DepositDirectory.Proofs.Together.Interleaving

/-!
# Rounds of tasks

A scheduler lets its tasks go on in rounds: in each, every task that is due goes on until it sleeps
or ends, and then the clock moves to the next time at which one is due.  So it comes to the same as
every other order of their steps.  Each round takes at least one step, so it ends when it may take
one more round than the tasks have steps.
-/

namespace DepositDirectory.Together

variable {I : Interface} {σ α : Type} {host : TimedHost I σ}

/-! ## One round -/

theorem alone_goOn (now : Nat) (task : Dialogue I α) (state : σ) :
    (goOn host now task state).alone host = task.run host.alone (now, state) := by
  induction task generalizing state with
  | done result => rfl
  | unfinished => rfl
  | ask question next ih => exact ih _ _
  | sleep ms next ih => rfl
  | note line next ih => exact ih _

theorem stepsLeft_goOn_le (now : Nat) (task : Dialogue I α) (state : σ) :
    (goOn host now task state).stepsLeft host ≤ stepsFrom host task now state := by
  induction task generalizing state with
  | done result => exact Nat.le_refl _
  | unfinished => exact Nat.le_refl _
  | ask question next ih => exact Nat.le_succ_of_le (ih _ _)
  | sleep ms next ih => exact Nat.le_succ _
  | note line next ih => exact Nat.le_succ_of_le (ih _)

namespace Lane

variable {now : Nat} {lane : Lane I σ α}

theorem resume_of_due (goesOn : lane.isOver = false) (due : lane.time ≤ now) :
    lane.resume host now = goOn host now lane.rest lane.state := by
  rw [resume, goesOn, decide_eq_false (Nat.not_lt.mpr due)]
  rfl

theorem resume_of_not_due (still : lane.isOver = true ∨ now < lane.time) :
    lane.resume host now = lane := by
  rw [resume, if_pos]
  simpa using still

theorem waits_or_due (now : Nat) (lane : Lane I σ α) :
    (lane.isOver = true ∨ now < lane.time) ∨ lane.isOver = false ∧ lane.time ≤ now := by
  cases lane.isOver with
  | true => exact Or.inl (Or.inl rfl)
  | false =>
      rcases Nat.lt_or_ge now lane.time with waits | due
      · exact Or.inl (Or.inr waits)
      · exact Or.inr ⟨rfl, due⟩

theorem alone_resume (punctual : lane.isOver = false → now ≤ lane.time) :
    (lane.resume host now).alone host = lane.alone host := by
  rcases waits_or_due now lane with still | ⟨goesOn, due⟩
  · rw [resume_of_not_due still]
  · rw [resume_of_due goesOn due, alone_goOn, alone, Nat.le_antisymm due (punctual goesOn)]

theorem stepsLeft_resume_le (punctual : lane.isOver = false → now ≤ lane.time) :
    (lane.resume host now).stepsLeft host ≤ lane.stepsLeft host := by
  rcases waits_or_due now lane with still | ⟨goesOn, due⟩
  · rw [resume_of_not_due still]
  · rw [resume_of_due goesOn due, stepsLeft, ← Nat.le_antisymm due (punctual goesOn)]
    exact stepsLeft_goOn_le _ lane.rest lane.state

theorem stepsLeft_resume_lt (goesOn : lane.isOver = false) (due : lane.time ≤ now)
    (punctual : now ≤ lane.time) :
    (lane.resume host now).stepsLeft host < lane.stepsLeft host := by
  rw [resume_of_due goesOn due, ← Nat.le_antisymm due punctual]
  obtain ⟨rest, state, time⟩ := lane
  dsimp only [stepsLeft]
  cases rest with
  | done result => cases goesOn
  | unfinished => cases goesOn
  | ask question next =>
      exact Nat.lt_succ_of_le (stepsLeft_goOn_le time (next (host.answer question time state).1) _)
  | sleep ms next => exact Nat.lt_succ_self _
  | note line next => exact Nat.lt_succ_of_le (stepsLeft_goOn_le time next _)

/-- What goes on after a round went on before it. -/
theorem isOver_of_isOver_resume (goesOn : (lane.resume host now).isOver = false) :
    lane.isOver = false := by
  rcases waits_or_due now lane with still | ⟨before, due⟩
  · rwa [resume_of_not_due still] at goesOn
  · exact before

end Lane

/-! ## The next round -/

theorem nextTime?_eq_none {lanes : List (Lane I σ α)} (none : nextTime? lanes = none) :
    ∀ lane ∈ lanes, lane.isOver = true := by
  intro lane member
  have empty := List.map_eq_nil_iff.mp (List.min?_eq_none_iff.mp none)
  simpa using List.filter_eq_nil_iff.mp empty lane member

/-- The next time is that of a task that goes on, and none that goes on is due before. -/
theorem nextTime?_eq_some {lanes : List (Lane I σ α)} {time : Nat}
    (next : nextTime? lanes = some time) :
    (∃ lane ∈ lanes, lane.isOver = false ∧ lane.time = time) ∧
      ∀ lane ∈ lanes, lane.isOver = false → time ≤ lane.time := by
  obtain ⟨member, least⟩ := List.min?_eq_some_iff.mp next
  constructor
  · obtain ⟨lane, among, rfl⟩ := List.mem_map.mp member
    obtain ⟨elsewhere, goesOn⟩ := List.mem_filter.mp among
    exact ⟨lane, elsewhere, by simpa using goesOn, rfl⟩
  · intro lane elsewhere goesOn
    refine least lane.time (List.mem_map_of_mem (List.mem_filter.mpr ⟨elsewhere, ?_⟩))
    rw [goesOn]
    rfl

/-! ## All rounds -/

/-- However many rounds are allowed, every task still comes to what it comes to alone. -/
theorem alone_run (host : TimedHost I σ) (allowance now : Nat) (lanes : List (Lane I σ α))
    (punctual : ∀ lane ∈ lanes, lane.isOver = false → now ≤ lane.time) :
    (run host allowance now lanes).map (Lane.alone host) = lanes.map (Lane.alone host) := by
  induction allowance generalizing now lanes with
  | zero => rfl
  | succ allowance ih =>
      have resumed : (lanes.map (Lane.resume host now)).map (Lane.alone host) =
          lanes.map (Lane.alone host) := by
        rw [List.map_map]
        exact List.map_congr_left fun lane member => Lane.alone_resume (punctual lane member)
      rw [run]
      split
      · exact resumed
      · rename_i time next
        exact (ih time _ (nextTime?_eq_some next).2).trans resumed

/-- Where a task that is due goes on as long as any does, one more round than there are steps is
enough for all to end. -/
theorem isOver_of_run (allowance now : Nat) (lanes : List (Lane I σ α))
    (punctual : ∀ lane ∈ lanes, lane.isOver = false → now ≤ lane.time)
    (stirs : ∀ lane ∈ lanes, lane.isOver = false →
      ∃ due ∈ lanes, due.isOver = false ∧ due.time ≤ now)
    (enough : (lanes.map (Lane.stepsLeft host)).sum < allowance) :
    ∀ lane ∈ run host allowance now lanes, lane.isOver = true := by
  induction allowance generalizing now lanes with
  | zero => exact absurd enough (Nat.not_lt_zero _)
  | succ allowance ih =>
      rw [run]
      split
      · rename_i none
        exact nextTime?_eq_none none
      · rename_i time next
        obtain ⟨⟨first, among, goesOn, rfl⟩, ahead⟩ := nextTime?_eq_some next
        refine ih first.time _ ahead (fun _ _ _ => ⟨first, among, goesOn, Nat.le_refl _⟩) ?_
        obtain ⟨before, member, rfl⟩ := List.mem_map.mp among
        obtain ⟨due, stirring, dueGoesOn, isDue⟩ :=
          stirs before member (Lane.isOver_of_isOver_resume goesOn)
        have fewer : ((lanes.map (Lane.resume host now)).map (Lane.stepsLeft host)).sum <
            (lanes.map (Lane.stepsLeft host)).sum := by
          rw [List.map_map]
          refine List.sum_lt_sum _ _ (fun lane elsewhere => ?_) ⟨due, stirring, ?_⟩
          · exact Lane.stepsLeft_resume_le (punctual lane elsewhere)
          · exact Lane.stepsLeft_resume_lt dueGoesOn isDue (punctual due stirring dueGoesOn)
        exact Nat.lt_of_lt_of_le fewer (Nat.le_of_lt_succ enough)

/-- Tasks that are started together come to what they come to alone, when enough rounds are
allowed. -/
theorem start_eq (host : TimedHost I σ) (tasks : List (Dialogue I α × σ)) :
    ∃ enough, ∀ allowance ≥ enough,
      (start host allowance tasks).map (fun lane => (lane.result?, lane.time, lane.state)) =
        tasks.map fun (task, state) => task.run host.alone (0, state) := by
  have punctual := punctual_opening tasks
  refine ⟨((opening tasks).lanes.map (Lane.stepsLeft host)).sum + 1, ?_⟩
  intro allowance enough
  have ended := isOver_of_run allowance 0 (opening tasks).lanes punctual
    (fun lane member goesOn => ⟨lane, member, goesOn, ?_⟩) enough
  · have alone := alone_run host allowance 0 (opening tasks).lanes punctual
    rw [opening, List.map_map] at alone
    refine Eq.trans (List.map_congr_left fun lane member => ?_) alone
    exact (Lane.alone_of_isOver (ended lane member)).symm
  · obtain ⟨begun, _, rfl⟩ := List.mem_map.mp member
    exact Nat.le_refl 0

end DepositDirectory.Together
