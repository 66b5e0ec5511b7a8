import DepositDirectory.Cache

/-!
# Many tasks at one cache

Several tasks may ask one cache for its value at once.  A task decides in one step: it is served, or
it starts a run of its own.  A run that ends with a value stores it with the time of that moment,
whatever happened since it started; a run that fails stores nothing.  Runs are numbered in the order
in which they start.
-/

namespace DepositDirectory.Cache

/--
A cache under traffic: what it holds, the time, how many runs have started, which are under way.
-/
structure Traffic (α : Type) where
  entry : Option (Entry α)
  now : Int
  started : Nat
  underWay : List Nat
  deriving DecidableEq

/-- What a task that asks for the value gets at once. -/
inductive Start (α : Type) where
  | served (value : α) (age : Int)
  | running (run : Nat)

namespace Traffic

variable {α ε : Type}

def quiet : Traffic α := ⟨none, 0, 0, []⟩

def begin (terms : Terms) (traffic : Traffic α) : Start α × Traffic α :=
  match terms.consult traffic.entry traffic.now with
  | .serve value age => (.served value age, traffic)
  | .refresh =>
      let run := traffic.started + 1
      (.running run, { traffic with started := run, underWay := traffic.underWay ++ [run] })

def finish (run : Nat) (outcome : Except ε α) (traffic : Traffic α) : Traffic α :=
  let entry :=
    match outcome with
    | .ok value => some ⟨value, traffic.now⟩
    | .error _ => traffic.entry
  { traffic with entry := entry, underWay := traffic.underWay.filter (· ≠ run) }

def invalidate (traffic : Traffic α) : Traffic α :=
  { traffic with entry := none }

def advance (ns : Int) (traffic : Traffic α) : Traffic α :=
  { traffic with now := traffic.now + ns }

end Traffic

end DepositDirectory.Cache
