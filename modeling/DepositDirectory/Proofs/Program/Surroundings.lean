import DepositDirectory.Proofs.Dialogue.Silence
import DepositDirectory.Proofs.Program.Visible

/-!
# The surroundings of a run

A run sends requests to a network, waits and reads a clock, and what it writes to the log goes
elsewhere.  Whether its acts are written down makes no difference to what it comes to, and neither
does which of its log lines pass.  What is asked of a directory that has just been set up is a
dialogue with the same surroundings.
-/

namespace DepositDirectory

open Custody (CallError)
open Directory (Query hostShelves through withShelves)
open Http (Client Reply Request network)

/-! ## Lines and a result -/

namespace Dialogue

variable {I : Interface} {α : Type}

/-- Some log lines, and then a result. -/
def lines (said : List Log.Line) (result : α) : Dialogue I α :=
  said.foldr note (done result)

theorem filterNotes_lines (passes : Log.Line → Bool) (said : List Log.Line) (result : α) :
    (lines said result : Dialogue I α).filterNotes passes = lines (said.filter passes) result := by
  induction said with
  | nil => rfl
  | cons line said ih =>
      change (note line (lines said result)).filterNotes passes = _
      rw [filterNotes, ih, List.filter_cons]
      split <;> rfl

theorem lines_bind_pure {β : Type} (said : List Log.Line) (result : α) (change : α → β) :
    ((lines said result : Dialogue I α) >>= fun value => pure (change value)) =
      lines said (change result) := by
  induction said with
  | nil => rfl
  | cons line said ih => exact congrArg (note line) ih

end Dialogue

/-! ## Surroundings -/

/-- What a run meets: a network that replies to its requests, time that passes while it waits, and a
clock.  What it writes to the log goes elsewhere. -/
structure Surroundings (σ : Type) where
  reply : Request → σ → Except String Reply × σ
  pass : Nat → σ → σ
  look : σ → Int × σ

namespace Surroundings

variable {σ α β : Type} (world : Surroundings σ)

def host : Host network σ where
  answer := fun (request : Request) state => world.reply request state
  wait := world.pass
  note := fun _ state => state

def watched : Host network (σ × List Act) where
  answer := fun (request : Request) (state, acts) =>
    let (reply, state) := world.reply request state
    (reply, state, acts ++ [.asked request])
  wait := fun ms (state, acts) => (world.pass ms state, acts ++ [.waited ms])
  note := fun line (state, acts) => (state, acts ++ [.wrote line])

def watchedClock : σ × List Act → Int × σ × List Act := fun (state, acts) =>
  let (time, state) := world.look state
  (time, state, acts ++ [.looked])

/-- Run a dialogue with empty shelves: what it comes to and what it does. -/
def carryOut (terms : Cache.Terms) (dialogue : Dialogue (withShelves network) α) (state : σ) :
    Option α × List Act :=
  let ran := dialogue.run (hostShelves world.watched world.watchedClock terms)
    ((state, []), .empty)
  (ran.1, ran.2.1.2)

/-- What a query comes to at a directory that has just been set up. -/
def answer? [Json.Locator] (client : Client) (plan : Directory.Plan) (query : Query α) (state : σ) :
    Option (Except CallError α) :=
  ((through client.perform query.run).run (hostShelves world.host world.look plan.terms)
    (state, .empty)).1

theorem carryOut_fst (terms : Cache.Terms) (dialogue : Dialogue (withShelves network) α)
    (state : σ) :
    (world.carryOut terms dialogue state).1 =
      (dialogue.run (hostShelves world.host world.look terms) (state, .empty)).1 := by
  let view : (σ × List Act) × Directory.Shelves → σ × Directory.Shelves :=
    fun beside => (beside.1.1, beside.2)
  have answers (question : Directory.Ask network) (beside) :
      (hostShelves world.host world.look terms).answer question (view beside) =
        (((hostShelves world.watched world.watchedClock terms).answer question beside).1,
          view ((hostShelves world.watched world.watchedClock terms).answer question
            beside).2) := by
    obtain ⟨beside, vaults, index⟩ := beside
    cases question with
    | outside question => rfl
    | vaults ask => cases ask <;> cases vaults <;> rfl
    | index ask => cases ask <;> cases index <;> rfl
  have same := Dialogue.run_view view answers (fun _ _ => rfl) (fun _ _ => rfl) dialogue
    ((state, []), .empty)
  exact (congrArg Prod.fst same).symm

theorem deaf_host (terms : Cache.Terms) : (hostShelves world.host world.look terms).Deaf :=
  fun _ _ => rfl

theorem carryOut_lines (terms : Cache.Terms) (said : List Log.Line) (result : α) (state : σ) :
    world.carryOut terms (.lines said result) state = (some result, said.map .wrote) := by
  have ran (acts : List Act) :
      (Dialogue.lines said result : Dialogue (withShelves network) α).run
        (hostShelves world.watched world.watchedClock terms) ((state, acts), .empty) =
      (some result, (state, acts ++ said.map .wrote), .empty) := by
    induction said generalizing acts with
    | nil => rw [List.map_nil, List.append_nil]; rfl
    | cons line said ih =>
        refine (ih (acts ++ [.wrote line])).trans ?_
        rw [List.append_assoc]
        rfl
  rw [carryOut, ran []]
  rfl

theorem answer?_map [Json.Locator] (client : Client) (plan : Directory.Plan) (query : Query α)
    (change : α → β) (state : σ) :
    world.answer? client plan (query >>= fun value => pure (change value)) state =
      (world.answer? client plan query state).map (Except.map change) := by
  have mapped : (query >>= fun value => pure (change value)).run =
      query.run >>= fun outcome => pure (outcome.map change) := by
    rw [bind_pure_comp, ExceptT.run_map, map_eq_pure_bind]
  have parts : through client.perform (query.run >>= fun outcome => pure (outcome.map change)) =
      through client.perform query.run >>= fun outcome => pure (outcome.map change) :=
    Dialogue.via_bind _ query.run _
  rw [answer?, mapped, parts, Dialogue.run_map]
  rfl

/-- A network that tells texts one after the other and then is gone; the state counts them. -/
def telling (texts : List String) : Surroundings Nat where
  reply := fun _ told =>
    (texts[told]?.elim (.error "connection refused") fun text =>
      .ok ⟨200, [], Text.utf8 text.toList, none⟩, told + 1)
  pass := fun _ told => told
  look := fun told => (0, told)

end Surroundings

end DepositDirectory
