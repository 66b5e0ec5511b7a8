import DepositDirectory.Directory.Request

/-!
# Answers computed from the custody service alone

Where every call to the custody service has one answer, what a directory should say can be computed
from these answers without a cache, a retry or an order of requests: drain the listing, flatten
every holding of every vault, find the first row that fits, read the balance.
-/

namespace DepositDirectory.Directory

open Custody (AssetHolding Call CallError VaultAccount VaultPage)

/-- The one answer that the custody service has for each call. -/
abbrev Truth : Type := (call : Call) → Except CallError call.Result

namespace Truth

variable (truth : Truth)

/-- From a cursor on, the vault listing ends after so many pages and comes to an outcome. -/
inductive Drains : Option String → Nat → Except CallError (List VaultAccount) → Prop where
  | failed {cursor : Option String} {cause : CallError}
      (told : truth (.listVaults cursor) = .error cause) : Drains cursor 1 (.error cause)
  | absent {cursor : Option String} (told : truth (.listVaults cursor) = .ok none) :
      Drains cursor 1 (.ok [])
  | last {cursor : Option String} {page : VaultPage}
      (told : truth (.listVaults cursor) = .ok (some page))
      (final : page.accounts = [] ∨ page.nextCursor = none) : Drains cursor 1 (.ok page.accounts)
  | more {cursor : Option String} {page : VaultPage} {next : String} {pages : Nat}
      {rest : Except CallError (List VaultAccount)}
      (told : truth (.listVaults cursor) = .ok (some page)) (filled : page.accounts ≠ [])
      (further : page.nextCursor = some next) (drains : Drains (some next) pages rest) :
      Drains cursor (pages + 1) (rest.map (page.accounts ++ ·))

def rowsOf (vault : VaultAccount) (holding : AssetHolding) : Except CallError (List Row) := do
  let deposits ← truth (.depositAddresses vault.id holding.assetId)
  let details ← truth (.assetDetails holding.assetId)
  return deposits.map fun deposit =>
    Row.of vault.id holding.assetId deposit.address details.contract

def flatten (vaults : List VaultAccount) : Except CallError (List Row) := do
  let rows ← vaults.mapM fun vault => vault.assets.mapM (truth.rowsOf vault)
  return rows.flatten.flatten

/-- The index, from what the vault listing comes to. -/
def index (listing : Except CallError (List VaultAccount)) : Except CallError (List Row) := do
  truth.flatten (← listing)

def ownerAt (listing : Except CallError (List VaultAccount)) (address : String) :
    Except CallError (Option String) := do
  let rows ← truth.index listing
  return (rows.find? fun row => Address.agree row.depositAddress address).map Row.vaultId

def amountOf (listing : Except CallError (List VaultAccount)) (token : String) :
    Except CallError (Option String) := do
  let rows ← truth.index listing
  match rows.find? fun row => row.assetAddress.any (Address.agree · token) with
  | none => return none
  | some row =>
      let amounts ← truth (.assetBalance row.vaultId row.assetId)
      return some amounts.available

/-- What a request should be answered, from what the vault listing comes to. -/
def answer (listing : Except CallError (List VaultAccount)) : Request → Except CallError Response
  | .listVaults => return .vaults (← listing)
  | .addressIndex => return .rows (← truth.index listing)
  | .resolve address => return .found (← truth.ownerAt listing address)
  | .balance _ token => return .found (← truth.amountOf listing token)
  | .invalidate => return .invalidated
  | .call c => return .ofCall c (← truth c)

/-! ## Flattening loop by loop -/

def gather {α : Type} (rowsOf : α → Except CallError (List Row)) (items : List α) :
    Except CallError (List Row) := do
  let rows ← items.mapM rowsOf
  return rows.flatten

theorem gather_cons {α : Type} (rowsOf : α → Except CallError (List Row)) (item : α)
    (rest : List α) :
    gather rowsOf (item :: rest) =
      (rowsOf item >>= fun rows => gather rowsOf rest >>= fun more => .ok (rows ++ more)) := by
  unfold gather
  rw [List.mapM_cons]
  cases rowsOf item with
  | error cause => rfl
  | ok rows =>
      cases rest.mapM rowsOf with
      | error cause => rfl
      | ok more => rfl

theorem flatten_cons (vault : VaultAccount) (rest : List VaultAccount) :
    truth.flatten (vault :: rest) =
      (gather (truth.rowsOf vault) vault.assets >>= fun rows =>
        truth.flatten rest >>= fun more => .ok (rows ++ more)) := by
  unfold flatten gather
  rw [List.mapM_cons]
  cases vault.assets.mapM (truth.rowsOf vault) with
  | error cause => rfl
  | ok rows =>
      cases rest.mapM fun vault => vault.assets.mapM (truth.rowsOf vault) with
      | error cause => rfl
      | ok more => exact congrArg Except.ok List.flatten_append

end Truth

end DepositDirectory.Directory
