import DepositDirectory.Proofs.Directory.Conduct
import Mathlib.Data.List.Induction

/-!
# Many queries at one directory

Many queries are under way at one directory, and each of them is the dialogue of its request.  They
take turns: at each turn a request comes, or one query goes on by a single step, or the service
answers one, or the clock moves; so between any two questions of a query everything else may happen.
A shelf replies at once and as it stands.  The service takes its time and replies what it likes.  A
record keeps every reply, with the query that got it and the time.
-/

namespace DepositDirectory.Directory

open Cache (Entry)
open Custody (Call CallError VaultAccount service)
open Dialogue (Asks Leads Reaches)

instance : DecidableEq service.Ask := inferInstanceAs (DecidableEq Call)

/-- A query: what was requested, and what is left to do. -/
structure Errand where
  request : Request
  rest : Dialogue (withShelves service) (Except CallError Response)

/-- A notice: which query got what reply, and when. -/
structure Notice where
  query : Nat
  time : Int
  exchange : Told

/-- A directory under traffic: what is on its shelves, the time, the queries in the order in which
they came, and a record of all that they were told. -/
structure Traffic where
  shelves : Shelves
  now : Int
  errands : List Errand
  record : List Notice

/-- What can happen at a turn. -/
inductive Turn where
  /-- A request comes. -/
  | come (request : Request)
  /-- A query goes on by itself: it asks a shelf, writes a line in the log, or has slept. -/
  | go (query : Nat)
  /-- The service answers a query. -/
  | told (query : Nat) (answer : Exchange service)
  /-- The clock moves, perhaps backwards. -/
  | pass (ns : Int)

def Turn.isForward : Turn → Bool
  | .pass ns => 0 ≤ ns
  | _ => true

/-- What a shelf replies at a time, and what is on the shelves then; the service takes its time. -/
def atOnce (terms : Cache.Terms) (now : Int) (shelves : Shelves) :
    (question : Ask service) → Option (question.Reply × Shelves)
  | .outside _ => none
  | .vaults ask =>
      let answered := answerShelf (fun now => (now, now)) terms shelves.vaults ask now
      some (answered.1, { shelves with vaults := answered.2.1 })
  | .index ask =>
      let answered := answerShelf (fun now => (now, now)) terms shelves.index ask now
      some (answered.1, { shelves with index := answered.2.1 })

namespace Traffic

def opened (start : Int) : Traffic :=
  ⟨Shelves.empty, start, [], []⟩

def proceed (traffic : Traffic) (query : Nat) (errand : Errand) : Traffic :=
  { traffic with errands := traffic.errands.set query errand }

def tell (traffic : Traffic) (query : Nat) (told : Told) (errand : Errand) (shelves : Shelves) :
    Traffic :=
  { traffic with
    shelves := shelves
    errands := traffic.errands.set query errand
    record := traffic.record ++ [⟨query, traffic.now, told⟩] }

/-- What a turn makes of the traffic, if it can happen. -/
def step (plan : Plan) (traffic : Traffic) : Turn → Option Traffic
  | .come request =>
      some { traffic with
        errands := traffic.errands ++ [⟨request, (request.perform plan).run⟩] }
  | .go query =>
      match traffic.errands[query]? with
      | some ⟨request, .ask question next⟩ =>
          (atOnce plan.terms traffic.now traffic.shelves question).map fun (reply, shelves) =>
            traffic.tell query ⟨question, reply⟩ ⟨request, next reply⟩ shelves
      | some ⟨request, .sleep _ next⟩ => some (traffic.proceed query ⟨request, next⟩)
      | some ⟨request, .note _ next⟩ => some (traffic.proceed query ⟨request, next⟩)
      | _ => none
  | .told query ⟨call, reply⟩ =>
      match traffic.errands[query]? with
      | some ⟨request, .ask (.outside asked) next⟩ =>
          if same : call = asked then
            let rest := next (cast (congrArg service.Reply same) reply)
            some (traffic.tell query ⟨.outside call, reply⟩ ⟨request, rest⟩ traffic.shelves)
          else none
      | _ => none
  | .pass ns => some { traffic with now := traffic.now + ns }

/-- The traffic after a history of turns, if it is possible. -/
def run (plan : Plan) (start : Int) (turns : List Turn) : Option Traffic :=
  turns.foldlM (step plan) (opened start)

/-! ## What one turn can do -/

inductive Step (plan : Plan) (traffic : Traffic) : Turn → Traffic → Prop where
  | came (request : Request) :
      Step plan traffic (.come request)
        { traffic with errands := traffic.errands ++ [⟨request, (request.perform plan).run⟩] }
  | shelved {query : Nat} {request : Request} {question : Ask service}
      {next : question.Reply → Dialogue (withShelves service) (Except CallError Response)}
      {reply : question.Reply} {shelves : Shelves}
      (waits : traffic.errands[query]? =
        some ⟨request, .ask (I := withShelves service) question next⟩)
      (replies : atOnce plan.terms traffic.now traffic.shelves question = some (reply, shelves)) :
      Step plan traffic (.go query)
        (traffic.tell query ⟨question, reply⟩ ⟨request, next reply⟩ shelves)
  | rested {query : Nat} {request : Request}
      {rest next : Dialogue (withShelves service) (Except CallError Response)}
      (waits : traffic.errands[query]? = some ⟨request, rest⟩)
      (quiet : (∃ ms, rest = .sleep ms next) ∨ ∃ line, rest = .note line next) :
      Step plan traffic (.go query) (traffic.proceed query ⟨request, next⟩)
  | told {query : Nat} {request : Request} {call : Call}
      {next : service.Reply call → Dialogue (withShelves service) (Except CallError Response)}
      (reply : service.Reply call)
      (waits : traffic.errands[query]? =
        some ⟨request, .ask (I := withShelves service) (.outside call) next⟩) :
      Step plan traffic (.told query ⟨call, reply⟩)
        (traffic.tell query ⟨.outside call, reply⟩ ⟨request, next reply⟩ traffic.shelves)
  | passed (ns : Int) : Step plan traffic (.pass ns) { traffic with now := traffic.now + ns }

variable {plan : Plan} {start : Int} {traffic next : Traffic} {turn : Turn}

theorem step_cases (stepped : traffic.step plan turn = some next) :
    Step plan traffic turn next := by
  cases turn with
  | come request =>
      cases stepped
      exact .came request
  | go query =>
      simp only [step] at stepped
      split at stepped
      · rename_i request question further waits
        obtain ⟨⟨reply, shelves⟩, replies, same⟩ := Option.map_eq_some_iff.mp stepped
        cases same
        exact .shelved waits replies
      · rename_i request ms further waits
        cases stepped
        exact .rested waits (Or.inl ⟨ms, rfl⟩)
      · rename_i request line further waits
        cases stepped
        exact .rested waits (Or.inr ⟨line, rfl⟩)
      · cases stepped
  | told query answer =>
      obtain ⟨call, reply⟩ := answer
      simp only [step] at stepped
      split at stepped
      · rename_i request asked further waits
        split at stepped
        · rename_i same
          cases same
          cases stepped
          exact .told reply waits
        · cases stepped
      · cases stepped
  | pass ns =>
      cases stepped
      exact .passed ns

/-! ## Histories -/

theorem run_concat (plan : Plan) (start : Int) (turns : List Turn) (turn : Turn) :
    run plan start (turns ++ [turn]) = (run plan start turns).bind (step plan · turn) := by
  simp [run, List.foldlM_append]

/-- What holds when the directory is opened, and is kept by every turn that can happen, holds after
every possible history. -/
theorem run_induction {motive : List Turn → Traffic → Prop} (nil : motive [] (opened start))
    (snoc : ∀ turns traffic turn next, run plan start turns = some traffic → motive turns traffic →
      Step plan traffic turn next → motive (turns ++ [turn]) next)
    {turns : List Turn} (possible : run plan start turns = some traffic) :
    motive turns traffic := by
  induction turns using List.reverseRecOn generalizing traffic with
  | nil =>
      cases possible
      exact nil
  | append_singleton turns turn ih =>
      rw [run_concat] at possible
      obtain ⟨before, reached, stepped⟩ := Option.bind_eq_some_iff.mp possible
      exact snoc _ _ _ _ reached (ih reached) (step_cases stepped)

end Traffic

/-! ## Turns of one query -/

def lone : List VaultAccount := [⟨"v1", none, [⟨"usd"⟩]⟩]

def drains (query : Nat) (vaults : List VaultAccount) : List Turn :=
  [.told query ⟨.listVaults none, .ok (some ⟨vaults, none⟩)⟩, .go query, .go query, .go query]

def looksUp (query : Nat) (address : String) : List Turn :=
  [.told query ⟨.depositAddresses "v1" "usd", .ok [⟨address⟩]⟩,
    .told query ⟨.assetDetails "usd", .ok ⟨none⟩⟩, .go query]

def finishes (query : Nat) : List Turn :=
  [.go query, .go query]

end DepositDirectory.Directory
