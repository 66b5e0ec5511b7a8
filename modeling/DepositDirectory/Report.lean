import DepositDirectory.Directory.Row

/-!
# Reports of queries

The documents that answer the queries of the command line.  A query that finds nothing reports
`null`, which is no failure.
-/

namespace DepositDirectory

open Json (Form Value toJson)

/-- Which vault takes deposits at an address. -/
structure ResolveReport where
  address : String
  vaultId : Option String
  deriving DecidableEq

/-- How much of a token can be spent. -/
structure BalanceReport where
  depositAddress : String
  tokenAddress : String
  available : Option String
  deriving DecidableEq

structure IndexReport where
  generatedAt : String
  entries : List Directory.Row
  deriving DecidableEq

instance : Form ResolveReport where
  shape := .record "ResolveResponse"
    (.cons "address" .must .text (.cons "vaultId" .nullable .text .nil))
  content := fun report => (report.address, report.vaultId, ())
  ofContent := fun (address, vaultId, ()) => ⟨address, vaultId⟩
  ofContent_content := fun _ => rfl

instance : Form BalanceReport where
  shape := .record "BalanceResponse"
    (.cons "depositAddress" .must .text (.cons "tokenAddress" .must .text
      (.cons "available" .nullable .text .nil)))
  content := fun report => (report.depositAddress, report.tokenAddress, report.available, ())
  ofContent := fun (depositAddress, tokenAddress, available, ()) =>
    ⟨depositAddress, tokenAddress, available⟩
  ofContent_content := fun _ => rfl

def IndexReport.toJson (report : IndexReport) : Value :=
  .object [
    ("count", .natural report.entries.length),
    ("generatedAt", .text report.generatedAt),
    ("entries", Json.toJson report.entries)]

end DepositDirectory
