import DepositDirectory.Proofs.Http.Discretion
import DepositDirectory.Program

/-!
# What can be seen of a run

Everything that a run does is an act: it makes a request, waits, writes a line or reads the clock.
The outside sees the acts without the credentials of the requests and answers by what it sees.  So
two dialogues that are the same once their requests are made without credentials come to the same
and look the same.
-/

namespace DepositDirectory

open Directory (Shelves hostShelves outside through withShelves)
open Http (Reply Request discreet discreetly network)

/-! ## Acts -/

/-- What a run does to the outside. -/
inductive Act where
  | asked (request : Request)
  | waited (ms : Nat)
  | wrote (line : Log.Line)
  | looked
  deriving DecidableEq

namespace Act

/-- An act as it is seen, without credentials. -/
def visible : Act → Act
  | asked request => asked request.redacted
  | act => act

theorem visible_visible (act : Act) : act.visible.visible = act.visible := by
  cases act with
  | asked request => exact congrArg asked request.redacted_redacted
  | waited ms => rfl
  | wrote line => rfl
  | looked => rfl

def line? : Act → Option Log.Line
  | wrote line => some line
  | _ => none

end Act

def visible (acts : List Act) : List Act :=
  acts.map Act.visible

theorem visible_visible (acts : List Act) : visible (visible acts) = visible acts := by
  simp [visible, Act.visible_visible]

theorem visible_concat (acts : List Act) (act : Act) :
    visible (acts ++ [act]) = visible acts ++ [act.visible] :=
  List.map_append

theorem lines_visible (acts : List Act) :
    (visible acts).filterMap Act.line? = acts.filterMap Act.line? := by
  refine (List.filterMap_map ..).trans (congrArg (acts.filterMap ·) (funext fun act => ?_))
  cases act with
  | asked request => rfl
  | waited ms => rfl
  | wrote line => rfl
  | looked => rfl

/-! ## The outside -/

/-- An outside that replies, and whose clock goes, by what it has seen. -/
structure Outside where
  reply : List Act → Except String Reply
  time : List Act → Int

namespace Outside

/-- The network as a host, which writes down the acts. -/
def host (world : Outside) : Host network (List Act) where
  answer := fun (request : Request) acts =>
    (world.reply (visible (acts ++ [.asked request])), acts ++ [.asked request])
  wait := fun ms acts => acts ++ [.waited ms]
  note := fun line acts => acts ++ [.wrote line]

/-- The clock, which writes down that it is read. -/
def clock (world : Outside) (acts : List Act) : Int × List Act :=
  (world.time (visible acts), acts ++ [.looked])

/-- Run a dialogue with empty shelves: what it comes to, what it does, and what it keeps. -/
def run {α : Type} (world : Outside) (terms : Cache.Terms)
    (dialogue : Dialogue (withShelves network) α) : Option α × List Act × Shelves :=
  dialogue.run (hostShelves world.host world.clock terms) ([], .empty)

end Outside

/-! ## Dialogues without credentials -/

def unsigned {α : Type} (dialogue : Dialogue (withShelves network) α) :
    Dialogue (withShelves network) α :=
  through discreetly dialogue

section Unsigned

variable {α β : Type}

theorem unsigned_bind (first : Dialogue (withShelves network) α)
    (next : α → Dialogue (withShelves network) β) :
    unsigned (first >>= next) = unsigned first >>= fun result => unsigned (next result) :=
  Dialogue.via_bind _ first next

theorem unsigned_outside (dialogue : Dialogue network α) :
    unsigned (outside dialogue) = outside (discreet dialogue) := by
  refine (Dialogue.via_via _ _ dialogue).trans (Eq.trans ?_ (Dialogue.via_via _ _ dialogue).symm)
  refine congrArg (fun answer => dialogue.via answer) (funext fun question => ?_)
  exact Dialogue.bind_done _

theorem unsigned_through [Json.Locator] {client other : Http.Client} (akin : client.Akin other)
    (dialogue : Dialogue (withShelves Custody.service) α) :
    unsigned (through client.perform dialogue) = unsigned (through other.perform dialogue) := by
  refine (Dialogue.via_via _ _ dialogue).trans (Eq.trans ?_ (Dialogue.via_via _ _ dialogue).symm)
  refine congrArg (fun answer => dialogue.via answer) (funext fun question => ?_)
  cases question with
  | outside call =>
      have same := congrArg (outside (I := network)) (akin.discreet_perform call)
      rw [← unsigned_outside, ← unsigned_outside] at same
      exact same
  | vaults ask => rfl
  | index ask => rfl

theorem unsigned_filterNotes (passes : Log.Line → Bool)
    (dialogue : Dialogue (withShelves network) α) :
    unsigned (dialogue.filterNotes passes) = (unsigned dialogue).filterNotes passes := by
  refine (Dialogue.filterNotes_via (fun question => ?_) dialogue).symm
  cases question with
  | outside request => rfl
  | vaults ask => rfl
  | index ask => rfl

end Unsigned

/-! ## Runs without credentials -/

namespace Outside

variable (world : Outside) (terms : Cache.Terms)

theorem answerShelf_visible {α : Type} (shelf : Option (Cache.Entry α)) (ask : Cache.Ask α)
    (acts : List Act) :
    let signed := Directory.answerShelf world.clock terms shelf ask acts
    Directory.answerShelf world.clock terms shelf ask (visible acts) =
      (signed.1, signed.2.1, visible signed.2.2) := by
  have clock : world.clock (visible acts) =
      ((world.clock acts).1, visible (world.clock acts).2) := by
    rw [clock, visible_visible, ← show Act.visible .looked = .looked from rfl, ← visible_concat]
    rfl
  cases ask with
  | consult =>
      cases shelf with
      | none => rfl
      | some entry =>
          simp only [Directory.answerShelf, clock]
  | keep value => simp only [Directory.answerShelf, clock]
  | forget => rfl

/-- A dialogue with credentials is run as the one without them is, and looks as that does. -/
theorem run_unsigned {α : Type} (dialogue : Dialogue (withShelves network) α)
    (acts : List Act) (shelves : Shelves) :
    let host := hostShelves world.host world.clock terms
    let signed := dialogue.run host (acts, shelves)
    (unsigned dialogue).run host (visible acts, shelves) =
      (signed.1, visible signed.2.1, signed.2.2) := by
  induction dialogue generalizing acts shelves with
  | done result => rfl
  | unfinished => rfl
  | ask question next ih =>
      cases question with
      | outside request =>
          have seen : visible acts ++ [.asked (Request.redacted request)] =
              visible (acts ++ [.asked request]) := (visible_concat acts (.asked request)).symm
          change (unsigned (next (world.reply (visible (visible acts ++
            [.asked (Request.redacted request)]))))).run _ (visible acts ++ _, shelves) = _
          rw [seen, visible_visible]
          exact ih _ _ shelves
      | vaults ask =>
          have told := world.answerShelf_visible terms shelves.vaults ask acts
          let reply := Directory.answerShelf world.clock terms shelves.vaults ask (visible acts)
          change (unsigned (next reply.1)).run _
            (reply.2.2, { shelves with vaults := reply.2.1 }) = _
          rw [show reply = _ from told]
          exact ih _ _ _
      | index ask =>
          have told := world.answerShelf_visible terms shelves.index ask acts
          let reply := Directory.answerShelf world.clock terms shelves.index ask (visible acts)
          change (unsigned (next reply.1)).run _
            (reply.2.2, { shelves with index := reply.2.1 }) = _
          rw [show reply = _ from told]
          exact ih _ _ _
  | sleep ms next ih =>
      have seen : visible acts ++ [.waited ms] = visible (acts ++ [.waited ms]) :=
        (visible_concat acts (.waited ms)).symm
      change (unsigned next).run _ (visible acts ++ [.waited ms], shelves) = _
      rw [seen]
      exact ih _ shelves
  | note line next ih =>
      have seen : visible acts ++ [.wrote line] = visible (acts ++ [.wrote line]) :=
        (visible_concat acts (.wrote line)).symm
      change (unsigned next).run _ (visible acts ++ [.wrote line], shelves) = _
      rw [seen]
      exact ih _ shelves

theorem run_eq_of_unsigned {α : Type} {dialogue other : Dialogue (withShelves network) α}
    (same : unsigned dialogue = unsigned other) :
    (world.run terms dialogue).1 = (world.run terms other).1 ∧
      visible (world.run terms dialogue).2.1 = visible (world.run terms other).2.1 ∧
      (world.run terms dialogue).2.2 = (world.run terms other).2.2 := by
  have one := world.run_unsigned terms dialogue [] .empty
  have two := world.run_unsigned terms other [] .empty
  rw [same] at one
  have both := one.symm.trans two
  exact ⟨congrArg (·.1) both, congrArg (·.2.1) both, congrArg (·.2.2) both⟩

end Outside

end DepositDirectory
