import DepositDirectory.Custody.Call

/-!
# A stand-in for the custody service

The stand-in answers calls from tables.  Each call is written down and then meets the next of the
incidents in its queue, which may move the clock and may fail the call.  Waiting is counted and does
not move the clock.
-/

namespace DepositDirectory.Rehearsal

open Custody

abbrev Table (Key Value : Type) := List (Key × Value)

namespace Table

variable {Key Value : Type} [DecidableEq Key]

def find? (table : Table Key Value) (key : Key) : Option Value :=
  (List.find? (fun row => row.1 = key) table).map Prod.snd

def erase (table : Table Key Value) (key : Key) : Table Key Value :=
  List.filter (fun row => row.1 ≠ key) table

def put (table : Table Key Value) (key : Key) (value : Value) : Table Key Value :=
  (key, value) :: erase table key

end Table

/-- What happens at a call: the clock moves, and the call may fail. -/
structure Incident where
  advance : Int
  failure : Option CallError

abbrev Place := String × String

/-- The stand-in: its tables, its queue, its clock, and what it has seen. -/
structure Remote where
  pages : Table (Option String) (Option VaultPage)
  addresses : Table Place (List DepositAddress)
  details : Table String AssetDetails
  balances : Table Place String
  queue : List Incident
  now : Int
  calls : Array Call
  waited : Nat
  log : Array Log.Line

namespace Remote

/-- A stand-in with empty tables, its clock at zero. -/
def empty : Remote := ⟨[], [], [], [], [], 0, #[], 0, #[]⟩

def lookUp (remote : Remote) : (call : Call) → Except CallError call.Result
  | .listVaults after => .ok ((Table.find? remote.pages after).join)
  | .depositAddresses vaultId assetId =>
      .ok ((Table.find? remote.addresses (vaultId, assetId)).getD [])
  | .assetDetails assetId => .ok ((Table.find? remote.details assetId).getD ⟨none⟩)
  | .assetBalance vaultId assetId =>
      match Table.find? remote.balances (vaultId, assetId) with
      | some available => .ok ⟨available, none⟩
      | none => .error (.status 404 s!"no balance for {vaultId}/{assetId}")

/-- Answer a call: write it down, meet the next incident, and look it up. -/
def answer (call : Call) (remote : Remote) : Except CallError call.Result × Remote :=
  let seen := { remote with calls := remote.calls.push call }
  match seen.queue with
  | [] => (seen.lookUp call, seen)
  | incident :: rest =>
      let after := { seen with queue := rest, now := seen.now + incident.advance }
      match incident.failure with
      | some error => (.error error, after)
      | none => (after.lookUp call, after)

def host : Host service Remote where
  answer := answer
  wait := fun ms remote => { remote with waited := remote.waited + ms }
  note := fun line remote => { remote with log := remote.log.push line }

def clock (remote : Remote) : Int × Remote :=
  (remote.now, remote)

def advance (ns : Int) (remote : Remote) : Remote :=
  { remote with now := remote.now + ns }

def enqueue (incidents : List Incident) (remote : Remote) : Remote :=
  { remote with queue := remote.queue ++ incidents }

def failNext (error : CallError) (remote : Remote) : Remote :=
  remote.enqueue [⟨0, some error⟩]

def throttle (times : Nat) (retryAfter : Option String) (remote : Remote) : Remote :=
  remote.enqueue (List.replicate times ⟨0, some (.rateLimited retryAfter)⟩)

/-- Answer the listing at a cursor with a page, or with none. -/
def setPage (cursor : Option String) (page : Option VaultPage) (remote : Remote) : Remote :=
  { remote with pages := Table.put remote.pages cursor page }

def setAddresses (place : Place) (addresses : List String) (remote : Remote) : Remote :=
  { remote with addresses := Table.put remote.addresses place (addresses.map DepositAddress.mk) }

def setDetails (assetId : String) (details : AssetDetails) (remote : Remote) : Remote :=
  { remote with details := Table.put remote.details assetId details }

/-- Answer the balance of a place, or no longer. -/
def setBalance (place : Place) (available : Option String) (remote : Remote) : Remote :=
  match available with
  | some amount => { remote with balances := Table.put remote.balances place amount }
  | none => { remote with balances := Table.erase remote.balances place }

def account (id : String) (assetIds : List String) : VaultAccount :=
  ⟨id, none, assetIds.map AssetHolding.mk⟩

/-- A page of accounts, and where the listing goes on. -/
def page (accounts : List VaultAccount) (after : Option String) : VaultPage :=
  ⟨accounts, after.map fun cursor => ⟨some cursor⟩⟩

/-- Add a vault with one asset to the first page, with its addresses and its contract. -/
def addVault (vaultId assetId : String) (addresses : List String) (contract : Option String)
    (remote : Remote) : Remote :=
  let first := ((Table.find? remote.pages none).join).getD ⟨[], none⟩
  let grown := { first with accounts := first.accounts ++ [account vaultId [assetId]] }
  remote.setPage none (some grown)
    |>.setAddresses (vaultId, assetId) addresses
    |>.setDetails assetId ⟨some ⟨contract, none⟩⟩

end Remote

end DepositDirectory.Rehearsal
