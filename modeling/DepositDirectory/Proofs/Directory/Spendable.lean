import DepositDirectory.Proofs.Custody.LogicalCall
import DepositDirectory.Proofs.Directory.Indexing
import DepositDirectory.Proofs.Directory.Spelling

/-!
# What a balance is asked of

A balance is told for the first row of the index whose contract is the token.  Where no row has the
contract, nothing more is asked and there is no balance.  Where one has, the service is asked for
the balance of that row's vault and asset, patiently, and what it says stands.  The deposit address
of the query is only written to the log.
-/

namespace DepositDirectory.Directory

open Custody (AssetBalance Call CallError service written)
open Text (asciiLower trimChars)

/-- The row has a contract, and it is the token, up to the blanks around them and the case of their
ASCII letters. -/
def Row.Names (row : Row) (token : String) : Prop :=
  ∃ contract, row.assetAddress = some contract ∧
    asciiLower (trimChars contract.toList) = asciiLower (trimChars token.toList)

theorem Row.isOfToken_iff {row : Row} {token : String} :
    row.isOfToken token = true ↔ row.Names token := by
  unfold isOfToken Names
  simp only [Option.any_eq_true, Address.agree_iff]

theorem rowOfToken_eq_none {rows : List Row} {token : String}
    (unnamed : ∀ row ∈ rows, ¬ row.Names token) : rowOfToken rows token = none :=
  List.find?_eq_none.mpr fun row member named => unnamed row member (Row.isOfToken_iff.mp named)

theorem rowOfToken_eq_some {earlier later : List Row} {row : Row} {token : String}
    (unnamed : ∀ other ∈ earlier, ¬ other.Names token) (names : row.Names token) :
    rowOfToken (earlier ++ row :: later) token = some row := by
  refine List.find?_eq_some_iff_append.mpr ⟨Row.isOfToken_iff.mpr names, earlier, later, rfl, ?_⟩
  intro other member
  rw [Bool.not_eq_true', Bool.eq_false_iff]
  exact fun named => unnamed other member (Row.isOfToken_iff.mp named)

section Runs

variable {σ : Type} (host : Host service σ) (clock : σ → Int × σ) (plan : Plan)

theorem run_execute_call (c : Call) (state : σ) (record : List (Event service))
    (shelves : Shelves) :
    ∃ hints outcome after, Tries.Within ⟨hints, outcome⟩ plan.patience.maxRetries ∧
      (outside (plan.patience.execute (Custody.call c)).run).run
          (recording host clock plan.terms) ((state, record), shelves) =
        (some outcome, (after, record ++ written [⟨c, ⟨hints, outcome⟩⟩]), shelves) := by
  have comesBack : ∀ before, ∃ outcome after,
      (Custody.call c).run.run host.recorded before = (some outcome, after) :=
    fun _ => ⟨_, _, rfl⟩
  obtain ⟨outcome, ⟨after, told⟩, ended⟩ := plan.patience.exists_run_attempt
    plan.patience.maxRetries plan.patience.maxRetries comesBack (state, record)
  obtain ⟨exchanges, rfl, reaches⟩ := host.reaches_of_run_recorded ended
  obtain ⟨hints, patient, rfl⟩ := Custody.reaches_execute_call_iff.mp reaches
  refine ⟨hints, outcome, after, patient, ?_⟩
  have beside := run_outside host.recorded (Host.recordedClock service clock) plan.terms
    (plan.patience.execute (Custody.call c)).run (state, record) shelves
  rw [recording, beside, Patience.execute, Patience.executeWith, ExceptT.run_mk, ended, written,
    List.flatMap_singleton]

end Runs

/-- When the index of a balance has been come by and no row names the token, nothing happens any
more but one line in the log, and there is no balance.  Otherwise one logical call follows, for the
vault and the asset of the first row that names it, and the amount that can be spent is given as it
was told, or the error that stands as it is.  A service that takes no notice of log lines cannot
tell which deposit address was asked for: the answer, the state the service is left in, the record
and the shelves are the same for every other. -/
theorem balance_of_first_row {σ : Type} (host : Host service σ) (clock : σ → Int × σ) (plan : Plan)
    (token : String) (state : (σ × List (Event service)) × Shelves) :
    (∀ rows middle,
      (addressIndex plan).run.run (recording host clock plan.terms) state =
        (some (.ok rows), middle) → ∀ deposit,
      ((∀ row ∈ rows, ¬ row.Names token) →
        ∃ line, (balance plan deposit token).run.run (recording host clock plan.terms) state =
          (some (.ok none), (host.note line middle.1.1, middle.1.2), middle.2)) ∧
      ∀ earlier row later, rows = earlier ++ row :: later →
        (∀ other ∈ earlier, ¬ other.Names token) → row.Names token →
        ∃ hints outcome after, Tries.Within ⟨hints, outcome⟩ plan.patience.maxRetries ∧
          (balance plan deposit token).run.run (recording host clock plan.terms) state =
            (some (outcome.map fun amounts : AssetBalance => some amounts.available),
              (after, middle.1.2 ++
                written [⟨.assetBalance row.vaultId row.assetId, ⟨hints, outcome⟩⟩]),
              middle.2)) ∧
    (host.Deaf → ∀ deposit elsewhere,
      (balance plan deposit token).run.run (recording host clock plan.terms) state =
        (balance plan elsewhere token).run.run (recording host clock plan.terms) state) := by
  refine ⟨fun rows middle indexed deposit => ⟨fun unnamed => ?_, ?_⟩, ?_⟩
  · rw [balance, Dialogue.run_task_bind_of_run indexed, rowOfToken_eq_none unnamed]
    exact ⟨_, rfl⟩
  · rintro earlier row later rfl unnamed names
    let call := plan.patience.execute (Custody.call (.assetBalance row.vaultId row.assetId))
    let told : Query (Option String) := do
      let amounts ← ExceptT.mk (outside call.run)
      return some amounts.available
    obtain ⟨line, goesOn⟩ : ∃ line,
        (balance plan deposit token).run.run (recording host clock plan.terms) state =
          told.run.run (recording host clock plan.terms)
            ((host.note line middle.1.1, middle.1.2), middle.2) := by
      rw [balance, Dialogue.run_task_bind_of_run indexed, rowOfToken_eq_some unnamed names]
      exact ⟨_, rfl⟩
    obtain ⟨hints, outcome, after, patient, called⟩ := run_execute_call host clock plan
      (.assetBalance row.vaultId row.assetId) (host.note line middle.1.1) middle.1.2 middle.2
    exact ⟨hints, outcome, after, patient, goesOn.trans (Dialogue.run_task_map_of_run called)⟩
  · intro deaf deposit elsewhere
    exact (deaf_recording deaf clock plan.terms).run_eq
      (unlogged_balance plan deposit elsewhere fun _ => rfl) state

def solvent : Nat → (c : Call) → Except CallError c.Result
  | 6, .assetBalance _ _ => .error (.rateLimited none)
  | _, .assetBalance _ _ => .ok ⟨" 5.00", some "7"⟩
  | count, c => drifting count c

def solventHost : Host (withShelves service) ((Nat × List (Event service)) × Shelves) :=
  recording (Custody.numbered solvent) (fun count => (count, count)) curt.terms

/-- The first of the twins' rows has the token, and its balance is told at the second attempt, in
the same words wherever it was deposited.  Another token is not held, and not asked for. -/
theorem twins_are_solvent :
    ∃ middle, (addressIndex curt).run.run solventHost ((0, []), Shelves.empty) =
        (some (.ok twinRows), middle) ∧
      (∃ final, (balance curt "A" "0XF ").run.run solventHost ((0, []), Shelves.empty) =
          (some (.ok (some " 5.00")), final) ∧
        (∃ hints outcome, final.1.2 = middle.1.2 ++
          written [⟨.assetBalance "v1" "usd", ⟨hints, outcome⟩⟩]) ∧
        (balance curt "elsewhere" "0XF ").run.run solventHost ((0, []), Shelves.empty) =
          (some (.ok (some " 5.00")), final)) ∧
      (balance curt "A" "0xE").run.run solventHost ((0, []), Shelves.empty) =
        (some (.ok none), middle) := by
  obtain ⟨held, same⟩ := balance_of_first_row (Custody.numbered solvent)
    (fun count => (count, count)) curt "0XF " ((0, []), Shelves.empty)
  obtain ⟨lacked, _⟩ := balance_of_first_row (Custody.numbered solvent)
    (fun count => (count, count)) curt "0xE" ((0, []), Shelves.empty)
  have indexed : (addressIndex curt).run.run solventHost ((0, []), Shelves.empty) =
      (some (.ok twinRows), _) := rfl
  have told : (balance curt "A" "0XF ").run.run solventHost ((0, []), Shelves.empty) =
      (some (.ok (some " 5.00")), _) := rfl
  obtain ⟨hints, outcome, after, _, called⟩ := (held twinRows _ indexed "A").2 [] _ _ rfl
    (fun _ member => nomatch member) ⟨"0xF", rfl, by decide⟩
  have unnamed : ∀ row ∈ twinRows, ¬ row.Names "0xE" := by
    intro row member named
    rw [← Row.isOfToken_iff] at named
    revert row
    decide
  obtain ⟨line, missed⟩ := (lacked twinRows _ indexed "A").1 unnamed
  refine ⟨_, indexed, ⟨_, told, ⟨hints, outcome, ?_⟩, ?_⟩, missed⟩
  · exact congrArg (·.2.1.2) (told.symm.trans called)
  · exact (same (fun _ _ => rfl) "elsewhere" "A").trans told

end DepositDirectory.Directory
