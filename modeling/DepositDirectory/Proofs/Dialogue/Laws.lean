import DepositDirectory.Dialogue

/-!
# Laws of dialogues

A sequence of dialogues does not depend on how it is put in brackets, and what is done to every
question or to every log line of a sequence is done to each of its dialogues.
-/

namespace DepositDirectory.Dialogue

variable {I J K : Interface} {α β γ : Type}

theorem bind_done (dialogue : Dialogue I α) : dialogue.bind done = dialogue := by
  induction dialogue with
  | done result => rfl
  | unfinished => rfl
  | ask question next ih => exact congrArg (ask question) (funext ih)
  | sleep ms next ih => exact congrArg (sleep ms) ih
  | note line next ih => exact congrArg (note line) ih

theorem bind_bind (first : Dialogue I α) (next : α → Dialogue I β) (last : β → Dialogue I γ) :
    (first.bind next).bind last = first.bind fun result => (next result).bind last := by
  induction first with
  | done result => rfl
  | unfinished => rfl
  | ask question rest ih => exact congrArg (ask question) (funext ih)
  | sleep ms rest ih => exact congrArg (sleep ms) ih
  | note line rest ih => exact congrArg (note line) ih

instance : LawfulMonad (Dialogue I) :=
  LawfulMonad.mk' (Dialogue I) bind_done (fun _ _ => rfl) bind_bind

/-! ## Answers by dialogues -/

section Answers

variable (answer : (question : I.Ask) → Dialogue J (I.Reply question))

theorem via_bind (first : Dialogue I α) (next : α → Dialogue I β) :
    (first >>= next).via answer = first.via answer >>= fun result => (next result).via answer := by
  change (first.bind next).via answer = _
  induction first with
  | done result => rfl
  | unfinished => rfl
  | ask question rest ih =>
      change (answer question >>= fun reply => ((rest reply).bind next).via answer) =
        (answer question >>= fun reply => (rest reply).via answer) >>= _
      rw [bind_assoc]
      exact congrArg (answer question >>= ·) (funext ih)
  | sleep ms rest ih => exact congrArg (sleep ms) ih
  | note line rest ih => exact congrArg (note line) ih

/-- Answers that are answered in turn are answers. -/
theorem via_via (further : (question : J.Ask) → Dialogue K (J.Reply question))
    (dialogue : Dialogue I α) :
    (dialogue.via answer).via further =
      dialogue.via fun question => (answer question).via further := by
  induction dialogue with
  | done result => rfl
  | unfinished => rfl
  | ask question next ih =>
      change (answer question >>= fun reply => (next reply).via answer).via further = _
      rw [via_bind]
      exact congrArg ((answer question).via further >>= ·) (funext ih)
  | sleep ms next ih => exact congrArg (sleep ms) ih
  | note line next ih => exact congrArg (note line) ih

end Answers

/-! ## Log lines -/

theorem filterNotes_bind (passes : Log.Line → Bool) (first : Dialogue I α)
    (next : α → Dialogue I β) :
    (first >>= next).filterNotes passes =
      first.filterNotes passes >>= fun result => (next result).filterNotes passes := by
  change (first.bind next).filterNotes passes = _
  induction first with
  | done result => rfl
  | unfinished => rfl
  | ask question rest ih => exact congrArg (ask question) (funext ih)
  | sleep ms rest ih => exact congrArg (sleep ms) ih
  | note line rest ih =>
      change (note line (rest.bind next)).filterNotes passes =
        ((note line rest).filterNotes passes).bind _
      rw [filterNotes, filterNotes]
      split
      · exact congrArg (note line) ih
      · exact ih

/-- Answers without log lines leave it open when the lines are filtered. -/
theorem filterNotes_via {passes : Log.Line → Bool}
    {answer : (question : I.Ask) → Dialogue J (I.Reply question)}
    (quiet : ∀ question, (answer question).filterNotes passes = answer question)
    (dialogue : Dialogue I α) :
    (dialogue.via answer).filterNotes passes = (dialogue.filterNotes passes).via answer := by
  induction dialogue with
  | done result => rfl
  | unfinished => rfl
  | ask question next ih =>
      change (answer question >>= fun reply => (next reply).via answer).filterNotes passes =
        answer question >>= fun reply => ((next reply).filterNotes passes).via answer
      rw [filterNotes_bind, quiet]
      exact congrArg (answer question >>= ·) (funext ih)
  | sleep ms next ih => exact congrArg (sleep ms) ih
  | note line next ih =>
      change (note line (next.via answer)).filterNotes passes =
        ((note line next).filterNotes passes).via answer
      rw [filterNotes, filterNotes]
      split
      · exact congrArg (note line) ih
      · exact ih

end DepositDirectory.Dialogue
