import DepositDirectory.Proofs.Dialogue.Run
import DepositDirectory.Proofs.Directory.Direct

/-!
# Drains and lookups at a truthful service

A service is truthful to a patient caller when every call, made again as often as the caller's
patience goes, comes to its one answer.  Drained through such a service, a listing that ends comes
to what it should; and the index of every list of vaults is built, or fails, as it should.
-/

namespace DepositDirectory.Directory

open Custody (AssetHolding Call CallError VaultAccount service)
open Dialogue (Yields)

/-- From every state with the invariant, every patient call yields its one answer and keeps the
invariant. -/
structure Truthful {σ : Type} (host : Host service σ) (patience : Patience) (invariant : σ → Prop)
    (truth : Truth) : Prop where
  noted : ∀ line state, invariant state → invariant (host.note line state)
  told : ∀ call, Yields host invariant (patience.execute (Custody.call call)).run (truth call)

namespace Truthful

variable {σ : Type} {host : Host service σ} {patience : Patience} {invariant : σ → Prop}
  {truth : Truth} (truthful : Truthful host patience invariant truth)
include truthful

theorem tell (level : Log.Level) (message : String) :
    Yields host invariant (Directory.tell level message).run (.ok ()) :=
  (Yields.say truthful.noted _ _ _).lift

theorem tellListing (level : Log.Level) (message : String) :
    Yields host invariant (Listing.tell level message).run (.ok ()) :=
  (Yields.say truthful.noted _ _ _).lift

theorem answered {call : Call} {outcome : Except CallError call.Result}
    (known : truth call = outcome) :
    Yields host invariant (patience.execute (Custody.call call)).run outcome := by
  rw [← known]
  exact truthful.told call

theorem drainFrom {cursor : Option String} {pages allowance : Nat}
    {listing : Except CallError (List VaultAccount)} (drains : truth.Drains cursor pages listing)
    (allowed : pages ≤ allowance) (page held : Nat) :
    Yields host invariant (vaultListing.drainFrom patience allowance cursor page held).run
      listing := by
  induction drains generalizing allowance page held with
  | failed told =>
      obtain ⟨allowance, rfl⟩ := Nat.exists_eq_add_of_le' allowed
      exact (truthful.answered told).afterError
  | absent told =>
      obtain ⟨allowance, rfl⟩ := Nat.exists_eq_add_of_le' allowed
      exact (truthful.answered told).afterValue
        ((truthful.tellListing _ _).afterValue (Yields.pure _))
  | last told final =>
      obtain ⟨allowance, rfl⟩ := Nat.exists_eq_add_of_le' allowed
      refine (truthful.answered told).afterValue ?_
      dsimp only [vaultListing]
      split
      · rename_i further filled
        rcases final with bare | final
        · cases filled.symm.trans bare
        · cases further.symm.trans final
      · exact (truthful.tellListing _ _).afterValue (Yields.pure _)
  | @more cursor fetched next pages rest told filled further drains ih =>
      have first : 1 ≤ allowance := Nat.le_trans (Nat.le_add_left 1 pages) allowed
      obtain ⟨allowance, rfl⟩ := Nat.exists_eq_add_of_le' first
      refine (truthful.answered told).afterValue ?_
      dsimp only [vaultListing]
      split
      · rename_i onward items
        cases further.symm.trans onward
        refine (truthful.tellListing _ _).afterValue ?_
        have left := ih (Nat.le_of_add_le_add_right allowed) (page + 1)
          (held + fetched.accounts.length)
        cases rest with
        | ok accounts => exact left.afterValue (Yields.pure _)
        | error cause => exact left.afterError
      · rename_i otherwise
        obtain ⟨head, tail, items⟩ := List.exists_cons_of_ne_nil filled
        exact absurd items (otherwise next head tail further)

theorem fetchVaults {pages allowance : Nat} {listing : Except CallError (List VaultAccount)}
    (drains : truth.Drains none pages listing) (allowed : pages ≤ allowance) :
    Yields host invariant (Directory.fetchVaults patience allowance).run listing := by
  refine (truthful.drainFrom drains allowed 1 0).giveBack fun accounts => ?_
  exact (truthful.tell _ _).afterValue (Yields.pure _)

theorem holdingRows (vault : VaultAccount) (holding : AssetHolding) :
    Yields host invariant (Directory.holdingRows patience vault holding).run
      (truth.rowsOf vault holding) := by
  refine (truthful.told _).bindTask fun deposits _ => ?_
  refine (truthful.told _).bindTask fun details _ => ?_
  exact (truthful.tell _ _).afterValue (Yields.pure _)

theorem vaultRows (vault : VaultAccount) (assets : List AssetHolding) :
    Yields host invariant (Directory.vaultRows patience vault assets).run
      (Truth.gather (truth.rowsOf vault) assets) := by
  induction assets with
  | nil => exact Yields.pure _
  | cons holding rest ih =>
      rw [Truth.gather_cons]
      refine (truthful.holdingRows vault holding).bindTask fun rows _ => ?_
      exact ih.bindTask fun more _ => Yields.pure _

/-- Vaults are looked up to the rows of all of them, or to the first failure. -/
theorem lookUp (vaults : List VaultAccount) :
    Yields host invariant (Directory.lookUp patience vaults).run (truth.flatten vaults) := by
  induction vaults with
  | nil => exact Yields.pure _
  | cons vault rest ih =>
      rw [truth.flatten_cons]
      refine (truthful.vaultRows vault vault.assets).bindTask fun rows _ => ?_
      exact ih.bindTask fun more _ => Yields.pure _

/-- The index of a list of vaults is built from their rows, flattened. -/
theorem buildIndex (vaults : List VaultAccount) :
    Yields host invariant (Directory.buildIndex patience vaults).run (truth.flatten vaults) := by
  refine (truthful.lookUp vaults).giveBack fun rows => ?_
  exact (truthful.tell _ _).afterValue (Yields.pure _)

end Truthful

end DepositDirectory.Directory
