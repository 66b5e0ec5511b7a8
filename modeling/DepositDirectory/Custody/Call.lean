import DepositDirectory.Custody.CallError
import DepositDirectory.Custody.Wallet
import DepositDirectory.Dialogue

/-!
# Calls to the custody service

The four questions that the service answers, and what each is answered with.  A page of the listing
may be absent; every other answer is always there.
-/

namespace DepositDirectory.Custody

/-- One call to the custody service. -/
inductive Call where
  | listVaults (after : Option String)
  | depositAddresses (vaultId assetId : String)
  | assetDetails (assetId : String)
  | assetBalance (vaultId assetId : String)
  deriving DecidableEq

abbrev Call.Result : Call → Type
  | listVaults _ => Option VaultPage
  | depositAddresses _ _ => List DepositAddress
  | assetDetails _ => AssetDetails
  | assetBalance _ _ => AssetBalance

/-- The custody service as a counterpart of dialogues. -/
def service : Interface where
  Ask := Call
  Reply := fun call => Except CallError call.Result

def call (c : Call) : Task service CallError c.Result :=
  ExceptT.mk (Dialogue.query (I := service) c)

end DepositDirectory.Custody
