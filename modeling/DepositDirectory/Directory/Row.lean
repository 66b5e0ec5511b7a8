import DepositDirectory.Address
import DepositDirectory.Json.Shape

/-!
# Rows of the address index

The index of deposit addresses is a list of rows: a vault, an asset it holds, one address that takes
deposits for it, and the token contract of the asset.  The deposit address is stored in normal form.
-/

namespace DepositDirectory.Directory

open Json (Form)

/-- One row of the address index. -/
structure Row where
  vaultId : String
  assetId : String
  depositAddress : String
  assetAddress : Option String
  deriving DecidableEq

def Row.of (vaultId assetId depositAddress : String) (assetAddress : Option String) : Row :=
  ⟨vaultId, assetId, Address.normalize depositAddress, assetAddress⟩

def Row.takesDepositsAt (row : Row) (address : String) : Bool :=
  Address.agree row.depositAddress address

/-- Whether the row's asset has the token contract; a native asset has none. -/
def Row.isOfToken (row : Row) (token : String) : Bool :=
  row.assetAddress.any (Address.agree · token)

instance : Form Row where
  shape := .record "FlattenedVaultDetail"
    (.cons "vaultId" .must .text (.cons "assetId" .must .text
      (.cons "depositAddress" .must .text (.cons "assetAddress" .nullable .text .nil))))
  content := fun row => (row.vaultId, row.assetId, row.depositAddress, row.assetAddress, ())
  ofContent := fun (vaultId, assetId, depositAddress, assetAddress, ()) =>
    ⟨vaultId, assetId, depositAddress, assetAddress⟩
  ofContent_content := fun _ => rfl

end DepositDirectory.Directory
