import DepositDirectory.Directory.Index
import DepositDirectory.Directory.Shelves

/-!
# Queries to the directory

The listing and the index are served from their shelves as the policy says.  An address is resolved
to the vault of the first row that takes deposits at it.  A balance is asked for the first row of
the token, whatever the deposit address of the query.  Finding nothing is an answer, not a failure.
-/

namespace DepositDirectory.Directory

open Custody (CallError VaultAccount service)

/--
How a directory works: how patient it is, how long its caches last, how many pages it may drain.
-/
structure Plan where
  patience : Patience
  terms : Cache.Terms
  allowance : Nat
  deriving DecidableEq

abbrev Query (α : Type) := Task (withShelves service) CallError α

def listVaults (plan : Plan) : Query (List VaultAccount) :=
  Cache.get plan.terms (fun ask => Dialogue.query (I := withShelves service) (.vaults ask))
    (ExceptT.mk (outside (fetchVaults plan.patience plan.allowance).run))

def addressIndex (plan : Plan) : Query (List Row) :=
  Cache.get plan.terms (fun ask => Dialogue.query (I := withShelves service) (.index ask)) do
    let vaults ← listVaults plan
    ExceptT.mk (outside (buildIndex plan.patience vaults).run)

/-- The vault of the first row that takes deposits at an address. -/
def ownerOf (rows : List Row) (address : String) : Option String :=
  (rows.find? (·.takesDepositsAt address)).map Row.vaultId

def rowOfToken (rows : List Row) (token : String) : Option Row :=
  rows.find? (·.isOfToken token)

/-- Find the vault that takes deposits at an address. -/
def resolve (plan : Plan) (address : String) : Query (Option String) := do
  let rows ← addressIndex plan
  match ownerOf rows address with
  | some vaultId =>
      tell .debug s!"Address {address} belongs to vault {vaultId}"
      return some vaultId
  | none =>
      tell .debug s!"Address {address} not found in {rows.length} index entries"
      return none

/-- Ask for the spendable amount of a token. -/
def balance (plan : Plan) (deposit token : String) : Query (Option String) := do
  let rows ← addressIndex plan
  match rowOfToken rows token with
  | none =>
      ExceptT.lift <| Dialogue.say .debug .balances
        s!"No vault holds token {token} (queried for {deposit})"
      return none
  | some row =>
      ExceptT.lift <| Dialogue.say .debug .balances <|
        s!"Token {token} held by vault {row.vaultId} as {row.assetId} " ++
          s!"(queried for {deposit})"
      let amounts ← ExceptT.mk <| outside <| ExceptT.run <|
        plan.patience.execute (Custody.call (.assetBalance row.vaultId row.assetId))
      return some amounts.available

def invalidate : Dialogue (withShelves service) Unit := do
  Dialogue.query (I := withShelves service) (.vaults .forget)
  Dialogue.query (I := withShelves service) (.index .forget)

end DepositDirectory.Directory
