import DepositDirectory.Directory.Query

/-!
# Requests and responses

Everything that can be asked of a directory or of the custody service behind it, as one type, and
what comes back, with its JSON form.
-/

namespace DepositDirectory.Directory

open Custody
  (AssetBalance AssetDetails Call CallError DepositAddress VaultAccount VaultPage service)
open Json (Value toJson)

/-- One request. -/
inductive Request where
  | listVaults
  | addressIndex
  | resolve (address : String)
  | balance (deposit token : String)
  | invalidate
  /-- A call to the custody service, made once and past the directory. -/
  | call (call : Call)
  deriving DecidableEq

/-- What comes back when a request succeeds. -/
inductive Response where
  | vaults (accounts : List VaultAccount)
  | rows (entries : List Row)
  | found (text : Option String)
  | page (fetched : Option VaultPage)
  | addresses (deposits : List DepositAddress)
  | details (known : AssetDetails)
  | amounts (told : AssetBalance)
  | invalidated
  deriving DecidableEq

def Response.ofCall : (call : Call) → call.Result → Response
  | .listVaults _, fetched => .page fetched
  | .depositAddresses _ _, deposits => .addresses deposits
  | .assetDetails _, known => .details known
  | .assetBalance _ _, told => .amounts told

def Response.toJson : Response → Value
  | vaults accounts => Json.toJson accounts
  | rows entries => Json.toJson entries
  | found text => Value.ofText? text
  | page none => .null
  | page (some present) => Json.toJson present
  | addresses deposits => Json.toJson deposits
  | details known => Json.toJson known
  | amounts told => Json.toJson told
  | invalidated => .null

def Request.perform (plan : Plan) : Request → Query Response
  | listVaults => return .vaults (← Directory.listVaults plan)
  | addressIndex => return .rows (← Directory.addressIndex plan)
  | resolve address => return .found (← Directory.resolve plan address)
  | balance deposit token => return .found (← Directory.balance plan deposit token)
  | invalidate => do
      ExceptT.lift Directory.invalidate
      return .invalidated
  | call c => return .ofCall c (← ExceptT.mk (outside (Custody.call c).run))

end DepositDirectory.Directory
