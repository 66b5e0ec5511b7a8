import DepositDirectory.Together

/-!
# Scripted replies

A script plays the part of the outside: it has its replies ready in order and goes on giving the
last one.  What it was asked, and when, is written down.
-/

namespace DepositDirectory.Rehearsal

def exchange (Question Reply : Type) : Interface where
  Ask := Question
  Reply := fun _ => Reply

/-- Replies in order; the last one is given for ever. -/
structure Script (Reply : Type) where
  current : Reply
  later : List Reply

def Script.advance {Reply : Type} (script : Script Reply) : Script Reply :=
  match script.later with
  | [] => script
  | next :: later => ⟨next, later⟩

/-- A script under way: what it was asked at what times, and what was logged. -/
structure Scene (Question Reply : Type) where
  script : Script Reply
  asked : Array (Question × Nat)
  log : Array Log.Line

def Scene.opening {Question Reply : Type} (script : Script Reply) : Scene Question Reply :=
  ⟨script, #[], #[]⟩

def prompter (Question Reply : Type) :
    TimedHost (exchange Question Reply) (Scene Question Reply) where
  answer := fun question now scene =>
    (scene.script.current,
      { scene with script := scene.script.advance, asked := scene.asked.push (question, now) })
  note := fun line scene => { scene with log := scene.log.push line }

end DepositDirectory.Rehearsal
