import DepositDirectory.Cache
import DepositDirectory.Custody.Wallet
import DepositDirectory.Directory.Row

/-!
# The two caches of the directory

A directory keeps two things on its shelves: the vault listing and the address index built from one.
Its tasks ask the shelves beside whatever else they ask.  A host for the rest becomes a host for
both once it can tell the time, which is read when a held value is judged and when a new one is
kept.
-/

namespace DepositDirectory.Directory

open Cache (Entry Terms)
open Custody (VaultAccount)

/-- What the directory keeps. -/
structure Shelves where
  vaults : Option (Entry (List VaultAccount))
  index : Option (Entry (List Row))
  deriving DecidableEq

def Shelves.empty : Shelves := ⟨none, none⟩

/-- A question to the outside or to one of the shelves. -/
inductive Ask (I : Interface) where
  | outside (question : I.Ask)
  | vaults (ask : Cache.Ask (List VaultAccount))
  | index (ask : Cache.Ask (List Row))

abbrev Ask.Reply {I : Interface} : Ask I → Type
  | outside question => I.Reply question
  | vaults ask => ask.Reply
  | index ask => ask.Reply

def withShelves (I : Interface) : Interface where
  Ask := Ask I
  Reply := Ask.Reply

def outside {I : Interface} {α : Type} (dialogue : Dialogue I α) : Dialogue (withShelves I) α :=
  dialogue.via fun question => Dialogue.query (I := withShelves I) (.outside question)

/-- Have the questions to the outside answered by dialogues, and leave those to the shelves. -/
def through {I J : Interface} {α : Type}
    (answer : (question : I.Ask) → Dialogue J (I.Reply question)) :
    Dialogue (withShelves I) α → Dialogue (withShelves J) α :=
  Dialogue.via fun
    | .outside question => outside (answer question)
    | .vaults ask => Dialogue.query (I := withShelves J) (.vaults ask)
    | .index ask => Dialogue.query (I := withShelves J) (.index ask)

def answerShelf {σ α : Type} (now : σ → Int × σ) (terms : Terms) (shelf : Option (Entry α)) :
    (ask : Cache.Ask α) → σ → ask.Reply × Option (Entry α) × σ
  | .consult, state =>
      match shelf with
      | none => (.refresh, none, state)
      | some entry =>
          let (time, state) := now state
          (terms.judge entry time, some entry, state)
  | .keep value, state =>
      let (time, state) := now state
      ((), some ⟨value, time⟩, state)
  | .forget, state => ((), none, state)

/-- A host with shelves, from a host without and a clock. -/
def hostShelves {I : Interface} {σ : Type} (host : Host I σ) (now : σ → Int × σ) (terms : Terms) :
    Host (withShelves I) (σ × Shelves) where
  answer := fun
    | .outside question, (state, shelves) =>
        let (reply, state) := host.answer question state
        (reply, state, shelves)
    | .vaults ask, (state, shelves) =>
        let (reply, entry, state) := answerShelf now terms shelves.vaults ask state
        (reply, state, { shelves with vaults := entry })
    | .index ask, (state, shelves) =>
        let (reply, entry, state) := answerShelf now terms shelves.index ask state
        (reply, state, { shelves with index := entry })
  wait := fun ms (state, shelves) => (host.wait ms state, shelves)
  note := fun line (state, shelves) => (host.note line state, shelves)

end DepositDirectory.Directory
