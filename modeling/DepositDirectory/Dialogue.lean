import DepositDirectory.Log.Line

/-!
# Dialogues with the outside

A dialogue is what a task says to the outside and how it goes on after each reply: it asks
questions, sleeps, writes log lines, and ends with a result.  The same dialogue can be run from end
to end by a host that answers its questions, be suspended between two questions while others go on,
or have its questions answered by other dialogues.  A task that was cut short because an allowance
ran out is unfinished, which is told apart from every result.
-/

namespace DepositDirectory

/-- What can be asked, and what kind of reply each question gets. -/
structure Interface where
  Ask : Type
  Reply : Ask → Type

/-- A task seen from outside. -/
inductive Dialogue (I : Interface) (α : Type) where
  | done (result : α)
  | unfinished
  | ask (question : I.Ask) (next : I.Reply question → Dialogue I α)
  | sleep (ms : Nat) (next : Dialogue I α)
  | note (line : Log.Line) (next : Dialogue I α)

namespace Dialogue

variable {I J : Interface} {α β : Type}

def bind : Dialogue I α → (α → Dialogue I β) → Dialogue I β
  | done result, f => f result
  | unfinished, _ => unfinished
  | ask question next, f => ask question fun reply => (next reply).bind f
  | sleep ms next, f => sleep ms (next.bind f)
  | note line next, f => note line (next.bind f)

instance : Monad (Dialogue I) where
  pure := done
  bind := bind

def query (question : I.Ask) : Dialogue I (I.Reply question) :=
  ask question done

def pause (ms : Nat) : Dialogue I Unit :=
  sleep ms (done ())

def say (level : Log.Level) (source : Log.Source) (message : String) : Dialogue I Unit :=
  note ⟨level, source, message⟩ (done ())

/-- Answer every question by a dialogue of its own. -/
def via (answer : (question : I.Ask) → Dialogue J (I.Reply question)) :
    Dialogue I α → Dialogue J α
  | done result => done result
  | unfinished => unfinished
  | ask question next => (answer question).bind fun reply => (next reply).via answer
  | sleep ms next => sleep ms (next.via answer)
  | note line next => note line (next.via answer)

def filterNotes (passes : Log.Line → Bool) : Dialogue I α → Dialogue I α
  | done result => done result
  | unfinished => unfinished
  | ask question next => ask question fun reply => (next reply).filterNotes passes
  | sleep ms next => sleep ms (next.filterNotes passes)
  | note line next =>
      if passes line then note line (next.filterNotes passes) else next.filterNotes passes

/-- The longest sleep that a timer can be set for: thirty years of 365 days, in milliseconds. -/
def longestSleep : Nat := 30 * 365 * 24 * 60 * 60 * 1000

def timed : Dialogue I α → Dialogue I α
  | done result => done result
  | unfinished => unfinished
  | ask question next => ask question fun reply => (next reply).timed
  | sleep ms next => sleep (min ms longestSleep) next.timed
  | note line next => note line next.timed

end Dialogue

/--
A host answers questions, lets time pass and takes log lines, each from its state to the next.
-/
structure Host (I : Interface) (σ : Type) where
  answer : (question : I.Ask) → σ → I.Reply question × σ
  wait : Nat → σ → σ
  note : Log.Line → σ → σ

/-- Run a dialogue to its end; an unfinished one has no result. -/
def Dialogue.run {I : Interface} {σ α : Type} (host : Host I σ) : Dialogue I α → σ → Option α × σ
  | done result, state => (some result, state)
  | unfinished, state => (none, state)
  | ask question next, state =>
      let replied := host.answer question state
      (next replied.1).run host replied.2
  | sleep ms next, state => next.run host (host.wait ms state)
  | note line next, state => next.run host (host.note line state)

abbrev Task (I : Interface) (ε α : Type) := ExceptT ε (Dialogue I) α

end DepositDirectory
