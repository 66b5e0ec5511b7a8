import DepositDirectory.Json.Shape

/-!
# What the custody service tells

The records that the custody service answers with: pages of the vault listing, the deposit addresses
of a holding, the details of an asset, and balances.  Amounts are decimal texts and stay as they are
told.  Each record has its JSON form beside it.
-/

namespace DepositDirectory.Custody

open Json (Form Shape Fields)

/-- One asset that a vault holds. -/
structure AssetHolding where
  assetId : String
  deriving DecidableEq

/-- A vault and the assets it holds. -/
structure VaultAccount where
  id : String
  name : Option String
  assets : List AssetHolding
  deriving DecidableEq

structure Paging where
  after : Option String
  deriving DecidableEq

/-- One page of the vault listing. -/
structure VaultPage where
  accounts : List VaultAccount
  paging : Option Paging
  deriving DecidableEq

def VaultPage.nextCursor (page : VaultPage) : Option String :=
  page.paging.bind Paging.after

/-- An address that takes deposits for one asset of one vault. -/
structure DepositAddress where
  address : String
  deriving DecidableEq

/-- What is known of an asset on its chain. -/
structure OnchainDetails where
  address : Option String
  decimals : Option UInt32
  deriving DecidableEq

/-- What is known of an asset. -/
structure AssetDetails where
  onchain : Option OnchainDetails
  deriving DecidableEq

def AssetDetails.contract (details : AssetDetails) : Option String :=
  details.onchain.bind OnchainDetails.address

/-- The amounts of one asset in one vault. -/
structure AssetBalance where
  available : String
  total : Option String
  deriving DecidableEq

/-! ## JSON forms -/

instance : Form AssetHolding where
  shape := .record "AssetHolding" (.cons "id" .must .text .nil)
  content := fun holding => (holding.assetId, ())
  ofContent := fun (assetId, ()) => ⟨assetId⟩
  ofContent_content := fun _ => rfl

instance : Form VaultAccount where
  shape := .record "VaultAccount"
    (.cons "id" .must .text (.cons "name" .optional .text
      (.cons "assets" .many (Form.shape AssetHolding) .nil)))
  content := fun account => (account.id, account.name, account.assets.map Form.content, ())
  ofContent := fun (id, name, assets, ()) => ⟨id, name, assets.map Form.ofContent⟩
  ofContent_content := fun account => by
    cases account
    simp [Function.comp_def, Form.ofContent_content]

instance : Form Paging where
  shape := .record "Paging" (.cons "after" .optional .text .nil)
  content := fun paging => (paging.after, ())
  ofContent := fun (after, ()) => ⟨after⟩
  ofContent_content := fun _ => rfl

instance : Form VaultPage where
  shape := .record "VaultPage"
    (.cons "accounts" .many (Form.shape VaultAccount)
      (.cons "paging" .optional (Form.shape Paging) .nil))
  content := fun page => (page.accounts.map Form.content, page.paging.map Form.content, ())
  ofContent := fun (accounts, paging, ()) =>
    ⟨accounts.map Form.ofContent, paging.map Form.ofContent⟩
  ofContent_content := fun page => by
    cases page
    simp [Function.comp_def, Form.ofContent_content]

instance : Form DepositAddress where
  shape := .record "DepositAddress" (.cons "address" .must .text .nil)
  content := fun deposit => (deposit.address, ())
  ofContent := fun (address, ()) => ⟨address⟩
  ofContent_content := fun _ => rfl

instance : Form OnchainDetails where
  shape := .record "OnchainDetails"
    (.cons "address" .optional .text (.cons "decimals" .optional .word32 .nil))
  content := fun details => (details.address, details.decimals, ())
  ofContent := fun (address, decimals, ()) => ⟨address, decimals⟩
  ofContent_content := fun _ => rfl

instance : Form AssetDetails where
  shape := .record "AssetDetails" (.cons "onchain" .optional (Form.shape OnchainDetails) .nil)
  content := fun details => (details.onchain.map Form.content, ())
  ofContent := fun (onchain, ()) => ⟨onchain.map Form.ofContent⟩
  ofContent_content := fun details => by
    cases details
    simp [Function.comp_def, Form.ofContent_content]

instance : Form AssetBalance where
  shape := .record "AssetBalance"
    (.cons "available" .must .text (.cons "total" .optional .text .nil))
  content := fun balance => (balance.available, balance.total, ())
  ofContent := fun (available, total, ()) => ⟨available, total⟩
  ofContent_content := fun _ => rfl

end DepositDirectory.Custody
