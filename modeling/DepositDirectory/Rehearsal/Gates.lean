import DepositDirectory.Cache.Traffic
import DepositDirectory.Log.Line

/-!
# A cache with scripted runs

The runs of a cache follow a script that says how each ends, by how much the clock moves when it
ends, and whether it waits at a gate first.  A run without a gate ends as soon as it has started; a
gate is opened once, after its run has started.  Tasks that asked in the background are collected by
name.
-/

namespace DepositDirectory.Rehearsal

open Cache (Terms Traffic)

structure RunScript (α ε : Type) where
  outcome : Except ε α
  gated : Bool
  advance : Int

/-- What has become of a task in the background. -/
inductive Errand (α ε : Type) where
  | ended (outcome : Except ε α)
  | held (run : Nat)

/-- A cache under rehearsal: the traffic, the tasks in the background by name, and the log. -/
structure Gates (α ε : Type) where
  traffic : Traffic α
  errands : List (String × Errand α ε)
  log : Array Log.Line

namespace Gates

variable {α ε : Type}

def closed : Gates α ε := ⟨Traffic.quiet, [], #[]⟩

def endRun (run : Nat) (script : RunScript α ε) (gates : Gates α ε) : Gates α ε :=
  let settle := fun (name, errand) =>
    match errand with
    | .held waiting => (name, if waiting = run then .ended script.outcome else .held waiting)
    | .ended outcome => (name, .ended outcome)
  { gates with
    traffic := (gates.traffic.advance script.advance).finish run script.outcome
    errands := gates.errands.map settle }

/-- A task asks for the value; its run ends at once unless it has a gate. -/
def ask (terms : Terms) (script : Nat → RunScript α ε) (gates : Gates α ε) :
    Errand α ε × Gates α ε :=
  match gates.traffic.begin terms with
  | (.served value age, traffic) =>
      let line : Log.Line := ⟨.debug, .cache, terms.servedText age⟩
      (.ended (.ok value), { gates with traffic := traffic, log := gates.log.push line })
  | (.running run, traffic) =>
      let begun := { gates with traffic := traffic }
      if (script run).gated then (.held run, begun)
      else (.ended (script run).outcome, begun.endRun run (script run))

def spawn (terms : Terms) (script : Nat → RunScript α ε) (name : String) (gates : Gates α ε) :
    Gates α ε :=
  let (errand, asked) := gates.ask terms script
  { asked with errands := (name, errand) :: asked.errands.filter fun other => other.1 ≠ name }

def release (script : Nat → RunScript α ε) (run : Nat) (gates : Gates α ε) : Bool × Gates α ε :=
  if gates.traffic.underWay.contains run then (true, gates.endRun run (script run))
  else (false, gates)

def join (name : String) (gates : Gates α ε) : Option (Errand α ε) × Gates α ε :=
  match gates.errands.find? fun errand => errand.1 = name with
  | none => (none, gates)
  | some (_, .held run) => (some (.held run), gates)
  | some (_, .ended outcome) =>
      (some (.ended outcome),
        { gates with errands := gates.errands.filter fun other => other.1 ≠ name })

def onTraffic (change : Traffic α → Traffic α) (gates : Gates α ε) : Gates α ε :=
  { gates with traffic := change gates.traffic }

end Gates

end DepositDirectory.Rehearsal
