import DepositDirectory.Dialogue
import DepositDirectory.Text.Blank
import DepositDirectory.Text.Lowercase

/-!
# A cache of one value

A cache holds a value and when it was produced.  Whether the held value is served or a new one is
produced is decided from its age, its time to live and a policy: serve young values and refresh old
ones, or the other way round, so that a value is frozen once it has grown old.  A value produced
exactly as long ago as its time to live counts as young.  Times are in nanoseconds and may run
backwards.
-/

namespace DepositDirectory.Cache

/-- When a held value is produced anew. -/
inductive RefreshPolicy where
  /-- While it is young; an old value is served. -/
  | withinTtl
  /-- Once it is old; a young value is served. -/
  | afterTtl
  deriving DecidableEq

namespace RefreshPolicy

def refreshes (policy : RefreshPolicy) (age ttl : Int) : Bool :=
  match policy with
  | withinTtl => age ≤ ttl
  | afterTtl => ttl < age

def name : RefreshPolicy → String
  | withinTtl => "within-ttl"
  | afterTtl => "after-ttl"

/-- The policy of a name, case and blanks around it apart; else the name that none has. -/
def ofName (text : String) : Except String RefreshPolicy :=
  let plain := Text.lower (Text.trim text)
  if plain = withinTtl.name then .ok withinTtl
  else if plain = afterTtl.name then .ok afterTtl
  else .error plain

def unknown (plain : String) : String :=
  "unknown refresh policy '" ++ plain ++ "', expected 'within-ttl' or 'after-ttl'"

end RefreshPolicy

/-- For how long a value is young, and what that means. -/
structure Terms where
  ttl : Int
  policy : RefreshPolicy
  deriving DecidableEq

structure Entry (α : Type) where
  value : α
  producedAt : Int
  deriving DecidableEq

inductive Verdict (α : Type) where
  | serve (value : α) (age : Int)
  | refresh

def Terms.judge {α : Type} (terms : Terms) (entry : Entry α) (now : Int) : Verdict α :=
  let age := now - entry.producedAt
  if terms.policy.refreshes age terms.ttl then .refresh else .serve entry.value age

/-- Decide on what the cache holds at a time; what is not there is produced. -/
def Terms.consult {α : Type} (terms : Terms) (entry : Option (Entry α)) (now : Int) : Verdict α :=
  match entry with
  | some held => terms.judge held now
  | none => .refresh

/--
What a task asks of the cache: to decide, to hold a value from now on, or to drop what it holds.
-/
inductive Ask (α : Type) where
  | consult
  | keep (value : α)
  | forget

abbrev Ask.Reply {α : Type} : Ask α → Type
  | consult => Verdict α
  | keep _ => Unit
  | forget => Unit

def milliseconds (ns : Int) : Int :=
  ns.tdiv 1000000

def Terms.servedText (terms : Terms) (age : Int) : String :=
  s!"Serving cached value ({milliseconds age}ms old, ttl {milliseconds terms.ttl}ms, " ++
    s!"policy {terms.policy.name})"

/--
The value of a cache that is reached by `reach`: the one it serves, or a new one, which it keeps.
-/
def get {I : Interface} {ε α : Type} (terms : Terms) (reach : (ask : Ask α) → Dialogue I ask.Reply)
    (produce : Task I ε α) : Task I ε α := do
  match ← (reach .consult : Dialogue I (Verdict α)) with
  | .serve value age =>
      ExceptT.lift (Dialogue.say .debug .cache (terms.servedText age))
      return value
  | .refresh =>
      let value ← produce
      ExceptT.lift (reach (.keep value))
      return value

end DepositDirectory.Cache
