import DepositDirectory.Proofs.Directory.Truthful
import DepositDirectory.Proofs.Retry.Schedule

/-!
# A service that throttles

A service has one answer to each call, but throttles calls as it likes before it answers them, and
its clock shows at each reading what it likes.  A caller whose patience lasts for every such spell
of throttling gets the answers.  Nothing else of a service makes a difference to its callers.
-/

namespace DepositDirectory.Directory

open Custody (Call CallError service)
open Patience (isThrottled)

/-- What the service answers, with which hints it throttles the n-th logical call before it answers
it, and what the clock shows when it is read for the n-th time. -/
structure Weather where
  truth : Truth
  settled : ∀ call, isThrottled (truth call) = false
  throttles : Nat → List (Option String)
  readings : Nat → Int

/-- How many logical calls have been answered, how often the next one has been throttled, and how
often the clock has been read. -/
structure Moment where
  answered : Nat
  refused : Nat
  read : Nat

namespace Weather

def host (weather : Weather) : Host service Moment where
  answer := fun call moment =>
    match (weather.throttles moment.answered)[moment.refused]? with
    | some hint => (.error (.rateLimited hint), { moment with refused := moment.refused + 1 })
    | none =>
        (weather.truth call, { moment with answered := moment.answered + 1, refused := 0 })
  wait := fun _ moment => moment
  note := fun _ moment => moment

def clock (weather : Weather) (moment : Moment) : Int × Moment :=
  (weather.readings moment.read, { moment with read := moment.read + 1 })

variable (weather : Weather) (call : Call) {moment : Moment}

theorem run_call_of_clear (clear : (weather.throttles moment.answered)[moment.refused]? = none) :
    (Custody.call call).run.run weather.host moment =
      (some (weather.truth call),
        { moment with answered := moment.answered + 1, refused := 0 }) := by
  change (some (weather.host.answer call moment).1, (weather.host.answer call moment).2) = _
  simp only [host, clear]
  rfl

theorem run_call_of_throttled {hint : Option String}
    (throttled : (weather.throttles moment.answered)[moment.refused]? = some hint) :
    (Custody.call call).run.run weather.host moment =
      (some (.error (.rateLimited hint)), { moment with refused := moment.refused + 1 }) := by
  change (some (weather.host.answer call moment).1, (weather.host.answer call moment).2) = _
  simp only [host, throttled]
  rfl

theorem run_attempt (patience : Patience) (budget left : Nat)
    (enough : (weather.throttles moment.answered).length ≤ moment.refused + left) :
    ∃ after, (patience.attempt budget (Custody.call call).run left).run weather.host moment =
      (some (weather.truth call), after) ∧ after.refused = 0 := by
  induction left generalizing moment with
  | zero =>
      have clear := List.getElem?_eq_none enough
      refine ⟨{ moment with answered := moment.answered + 1, refused := 0 }, ?_, rfl⟩
      rw [Patience.run_attempt_zero (weather.run_call_of_clear call clear),
        Patience.run_standing fun _ _ => rfl]
  | succ left ih =>
      cases throttled : (weather.throttles moment.answered)[moment.refused]? with
      | none =>
          have asked := weather.run_call_of_clear call throttled
          refine ⟨{ moment with answered := moment.answered + 1, refused := 0 }, ?_, rfl⟩
          rw [Patience.run_attempt_of_settled asked (weather.settled call),
            Patience.run_standing fun _ _ => rfl]
      | some hint =>
          have asked := weather.run_call_of_throttled call throttled
          obtain ⟨_, again⟩ := Patience.run_attempt_of_throttled patience budget left asked
          let next : Moment := { moment with refused := moment.refused + 1 }
          have fewer : (weather.throttles next.answered).length ≤ next.refused + left := by
            change (weather.throttles moment.answered).length ≤ moment.refused + 1 + left
            omega
          obtain ⟨after, run, fresh⟩ := ih fewer
          exact ⟨after, again.trans run, fresh⟩

/-- To a caller patient enough for every spell of throttling, the service is truthful from one
logical call to the next. -/
theorem truthful {patience : Patience}
    (gentle : ∀ n, (weather.throttles n).length ≤ patience.maxRetries) :
    Truthful weather.host patience (fun moment => moment.refused = 0) weather.truth where
  noted := fun _ _ fresh => fresh
  told := by
    intro call moment fresh
    have enough : (weather.throttles moment.answered).length ≤
        moment.refused + patience.maxRetries := by
      rw [fresh, Nat.zero_add]
      exact gentle _
    obtain ⟨after, run, again⟩ := weather.run_attempt call patience patience.maxRetries _ enough
    exact ⟨_, after, run, rfl, again⟩

end Weather

end DepositDirectory.Directory
