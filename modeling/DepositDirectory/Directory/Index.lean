import DepositDirectory.Custody.Call
import DepositDirectory.Directory.Row
import DepositDirectory.Listing

/-!
# Building the address index

The vault listing is drained in full.  Then the vaults are gone through in the order of the listing,
and of each vault its holdings: for each holding its deposit addresses are looked up and then the
details of its asset.  Each address becomes one row, and no row is merged, moved or dropped.  The
first call that fails ends the build.
-/

namespace DepositDirectory.Directory

open Custody (CallError VaultAccount VaultPage AssetHolding service)

def tell {I : Interface} (level : Log.Level) (message : String) : Task I CallError Unit :=
  ExceptT.lift (Dialogue.say level .directory message)

def vaultListing : Listing service VaultPage VaultAccount where
  fetch := fun cursor => Custody.call (.listVaults cursor)
  next := VaultPage.nextCursor
  items := VaultPage.accounts

def fetchVaults (patience : Patience) (allowance : Nat) :
    Task service CallError (List VaultAccount) := do
  let vaults ← vaultListing.drain patience allowance
  tell .info s!"Fetched {vaults.length} vault accounts"
  return vaults

/-- Look up one holding: a row for each of its deposit addresses. -/
def holdingRows (patience : Patience) (vault : VaultAccount) (holding : AssetHolding) :
    Task service CallError (List Row) := do
  let addresses ← patience.execute (Custody.call (.depositAddresses vault.id holding.assetId))
  let details ← patience.execute (Custody.call (.assetDetails holding.assetId))
  let contract := Text.quotedOption details.contract
  tell .debug <|
    s!"Vault {vault.id} asset {holding.assetId}: " ++
      s!"{addresses.length} addresses, contract {contract}"
  return addresses.map fun deposit =>
    Row.of vault.id holding.assetId deposit.address details.contract

def vaultRows (patience : Patience) (vault : VaultAccount) :
    List AssetHolding → Task service CallError (List Row)
  | [] => return []
  | holding :: rest => do
      let rows ← holdingRows patience vault holding
      return rows ++ (← vaultRows patience vault rest)

/-- Look up the holdings of all vaults, one vault after the other. -/
def lookUp (patience : Patience) : List VaultAccount → Task service CallError (List Row)
  | [] => return []
  | vault :: rest => do
      let rows ← vaultRows patience vault vault.assets
      return rows ++ (← lookUp patience rest)

/-- Build the address index of a listing. -/
def buildIndex (patience : Patience) (vaults : List VaultAccount) :
    Task service CallError (List Row) := do
  let rows ← lookUp patience vaults
  tell .info s!"Built address index: {rows.length} entries across {vaults.length} vaults"
  return rows

end DepositDirectory.Directory
