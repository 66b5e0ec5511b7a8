import DepositDirectory.Directory.Shelves

/-!
# The shelves beside a host

A host with shelves leaves them alone when the outside is asked, and leaves the outside alone, but
for its clock, when one of them is.  The two shelves are alike: each is found among them and reached
in its own way, and what holds of a call for what one keeps holds of both.
-/

namespace DepositDirectory.Directory

open Cache (Entry Terms)
open Custody (VaultAccount)

variable {I : Interface} {α : Type}

theorem run_outside {σ : Type} (host : Host I σ) (clock : σ → Int × σ) (terms : Terms)
    (dialogue : Dialogue I α) (state : σ) (shelves : Shelves) :
    (outside dialogue).run (hostShelves host clock terms) (state, shelves) =
      ((dialogue.run host state).1, (dialogue.run host state).2, shelves) := by
  unfold outside
  induction dialogue generalizing state with
  | done result => rfl
  | unfinished => rfl
  | ask question next ih => exact ih _ _
  | sleep ms next ih => exact ih _
  | note line next ih => exact ih _

/-- One of the two shelves: how it is found among them and how it is reached. -/
structure Shelf (I : Interface) (α : Type) where
  get : Shelves → Option (Entry α)
  put : Option (Entry α) → Shelves → Shelves
  reach : (ask : Cache.Ask α) → Dialogue (withShelves I) ask.Reply
  put_get : ∀ shelves, put (get shelves) shelves = shelves
  run_reach : ∀ {σ : Type} (host : Host I σ) (clock : σ → Int × σ) (terms : Terms)
    (ask : Cache.Ask α) (state : σ) (shelves : Shelves),
    (reach ask).run (hostShelves host clock terms) (state, shelves) =
      (some (answerShelf clock terms (get shelves) ask state).1,
        (answerShelf clock terms (get shelves) ask state).2.2,
        put (answerShelf clock terms (get shelves) ask state).2.1 shelves)

def vaultShelf : Shelf I (List VaultAccount) where
  get := Shelves.vaults
  put := fun entry shelves => { shelves with vaults := entry }
  reach := fun ask => Dialogue.query (I := withShelves I) (.vaults ask)
  put_get := fun _ => rfl
  run_reach := fun _ _ _ _ _ _ => rfl

def indexShelf : Shelf I (List Row) where
  get := Shelves.index
  put := fun entry shelves => { shelves with index := entry }
  reach := fun ask => Dialogue.query (I := withShelves I) (.index ask)
  put_get := fun _ => rfl
  run_reach := fun _ _ _ _ _ _ => rfl

end DepositDirectory.Directory
