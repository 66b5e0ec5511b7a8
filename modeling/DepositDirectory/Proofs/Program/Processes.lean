import DepositDirectory.Process
import DepositDirectory.Proofs.Program.Settings

/-!
# How a process is set up

What a process is started with decides how many workers it has and, together with the settings file,
which texts its variables have.  A variable that was started with a text keeps it; any other has the
text of the first pair of its name, if there is one.  Without a settings file, and where all
variables are texts, a process is set up as its environment says.
-/

namespace DepositDirectory

open CommandLine (Invocation)

/-- The bytes are the numeral of a number of workers that can be used. -/
def TellsWorkers (bytes : ByteArray) : Prop :=
  ∃ (text : String) (count : Nat), bytes = text.toUTF8 ∧ Text.Numeral text.toList count ∧
    0 < count ∧ count ≤ Program.workerLimit

theorem fromUTF8?_eq_some_iff {bytes : ByteArray} {text : String} :
    String.fromUTF8? bytes = some text ↔ bytes = text.toUTF8 :=
  (@Environment.ofBytes_eq_some_iff (fun _ => some bytes) "" text).trans Option.some_inj

theorem Program.isWorkerCount_iff {text : String} :
    isWorkerCount text = true ↔
      ∃ count, Text.Numeral text.toList count ∧ 0 < count ∧ count ≤ workerLimit := by
  unfold isWorkerCount
  cases read : Text.readNumeral workerLimit text.toList with
  | error fault =>
      refine ⟨nofun, ?_⟩
      rintro ⟨count, numeral, _, within⟩
      cases read.symm.trans (Text.readNumeral_eq_ok_iff.mpr ⟨numeral, within⟩)
  | ok count =>
      obtain ⟨numeral, within⟩ := Text.readNumeral_eq_ok_iff.mp read
      constructor
      · intro filled
        exact ⟨count, numeral, Nat.pos_of_ne_zero (of_decide_eq_true filled), within⟩
      · rintro ⟨other, numeralToo, positive, withinToo⟩
        cases read.symm.trans (Text.readNumeral_eq_ok_iff.mpr ⟨numeralToo, withinToo⟩)
        exact decide_eq_true (Nat.ne_of_gt positive)

namespace Process

variable {process : Process}

/-- The variable has the text once the settings file is loaded: the process was started with it, or
with no text, and then the first pair of the name in the file gives it. -/
def Holds (process : Process) (name text : String) : Prop :=
  process.raw name = some text.toUTF8 ∨
    (∀ other : String, process.raw name ≠ some other.toUTF8) ∧
      ∃ before after, process.file = before ++ (name, text) :: after ∧
        ∀ pair ∈ before, pair.1 ≠ name

theorem environment_eq_some_iff {name text : String} :
    process.environment name = some text ↔ process.Holds name text := by
  rw [environment, Holds]
  cases started : Environment.ofBytes process.raw name with
  | some held =>
      have same := Environment.ofBytes_eq_some_iff.mp started
      rw [Option.some_or, ← started, Environment.ofBytes_eq_some_iff]
      exact ⟨Or.inl, fun holds => holds.resolve_right fun unheld => unheld.1 held same⟩
  | none =>
      have unheld (other : String) : process.raw name ≠ some other.toUTF8 := fun same =>
        nomatch started.symm.trans (Environment.ofBytes_eq_some_iff.mpr same)
      rw [Option.none_or, List.lookup_eq_some_iff]
      constructor
      · rintro ⟨before, after, split, others⟩
        refine Or.inr ⟨unheld, before, after, split, fun pair member same => ?_⟩
        simpa [same] using others pair member
      · rintro (same | ⟨_, before, after, split, others⟩)
        · exact absurd same (unheld text)
        · refine ⟨before, after, split, fun pair member => ?_⟩
          simpa using (others pair member).symm

/-- Bytes that tell no number of workers leave the process without any. -/
theorem hasWorkers_eq_false_iff :
    process.hasWorkers = false ↔
      ∃ bytes, process.raw "TOKIO_WORKER_THREADS" = some bytes ∧ ¬ TellsWorkers bytes := by
  unfold hasWorkers
  cases process.raw "TOKIO_WORKER_THREADS" with
  | none => exact ⟨nofun, nofun⟩
  | some bytes =>
      have tells : (String.fromUTF8? bytes).any Program.isWorkerCount = true ↔
          TellsWorkers bytes := by
        simp only [Option.any_eq_true, fromUTF8?_eq_some_iff, Program.isWorkerCount_iff,
          TellsWorkers, exists_and_left]
      rw [Option.all_some, ← Bool.not_eq_true, tells]
      constructor
      · intro silent
        exact ⟨bytes, rfl, silent⟩
      · rintro ⟨_, ⟨⟩, silent⟩
        exact silent

/-- With workers and arguments that can be read the rest decides. -/
theorem setUp_of_hasWorkers {invocation : Invocation} (workers : process.hasWorkers = true)
    (parsed : process.invocation = .ok invocation) :
    process.setUp = Program.configure process.environment invocation := by
  rw [setUp, workers, parsed]
  generalize Program.configure process.environment = configure
  rfl

/-! ## Processes without a settings file -/

theorem environment_plain (environment : Environment) (arguments : List String) :
    (plain environment arguments).environment = environment := by
  funext name
  change (((environment name).map String.toUTF8).bind String.fromUTF8?).or none = environment name
  cases environment name with
  | none => rfl
  | some text =>
      change (String.fromUTF8? text.toUTF8).or none = some text
      rw [fromUTF8?_eq_some_iff.mpr rfl, Option.or_none]

theorem hasWorkers_plain (environment : Environment) (arguments : List String) :
    (plain environment arguments).hasWorkers = Program.hasWorkers environment := by
  change Option.all _ ((environment "TOKIO_WORKER_THREADS").map String.toUTF8) =
    (environment "TOKIO_WORKER_THREADS").all Program.isWorkerCount
  cases environment "TOKIO_WORKER_THREADS" with
  | none => rfl
  | some text => exact congrArg (Option.any Program.isWorkerCount) (fromUTF8?_eq_some_iff.mpr rfl)

theorem isGarbled_plain (environment : Environment) (arguments : List String) (name : String) :
    (plain environment arguments).isGarbled name = false := by
  rw [isGarbled, environment_plain]
  change (((environment name).map String.toUTF8).isSome && (environment name).isNone) = false
  cases environment name <;> rfl

/-- Where all variables are texts and no settings file lies about, a process is set up as its
environment says. -/
theorem setUp_plain (environment : Environment) (arguments : List String) :
    (plain environment arguments).setUp = Program.setUp environment arguments := by
  rw [setUp, Program.setUp, hasWorkers_plain, invocation, isGarbled_plain, environment_plain]
  cases Program.hasWorkers environment with
  | false => rfl
  | true =>
      change Except.bind (Except.bind (Except.mapError _ (Invocation.read _ arguments)) _) _ =
        Except.bind (Except.mapError _ (Invocation.read _ arguments)) _
      cases Invocation.read (environment "LOG_LEVEL") arguments <;> rfl

end Process

end DepositDirectory
