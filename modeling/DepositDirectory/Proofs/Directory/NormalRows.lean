import DepositDirectory.Proofs.Directory.Failure
import DepositDirectory.Proofs.Directory.Findable
import DepositDirectory.Proofs.Directory.Isolation

/-!
# Rows are kept in normal form

To normalize an address once more changes nothing: lower-casing leaves no capital, and it neither
makes nor takes away blanks at an end.  Rows come from lookups only, so every row of an index that
is kept is the row that is made of its own fields, whether the queries came one after another or
took turns.
-/

namespace DepositDirectory

namespace Address

theorem trimmed_normalize (address : String) : Text.Trimmed (normalize address).toList := by
  rw [toList_normalize]
  apply Text.trimmed_lowerChars
  exact Text.trimmed_trimChars address.toList

theorem normalize_normalize (address : String) :
    normalize (normalize address) = normalize address := by
  have trimmed := trimmed_normalize address
  rw [toList_normalize] at trimmed
  rw [normalize_eq_iff, toList_normalize, Text.trimChars_of_trimmed trimmed,
    Text.lowerChars_lowerChars]

end Address

namespace Directory

open Custody (VaultAccount service)

/-- The address of the row is in normal form, and the row is the one made of its own fields. -/
structure Row.Normal (row : Row) : Prop where
  fixed : Address.normalize row.depositAddress = row.depositAddress
  remade : Row.of row.vaultId row.assetId row.depositAddress row.assetAddress = row

theorem Row.normal_of (vaultId assetId depositAddress : String) (assetAddress : Option String) :
    (Row.of vaultId assetId depositAddress assetAddress).Normal := by
  have fixed := Address.normalize_normalize depositAddress
  constructor
  · exact fixed
  · unfold Row.of
    rw [fixed]

theorem normal_of_mem_rows {lookups : List Lookup} {row : Row}
    (member : row ∈ lookups.flatMap Lookup.rows) : row.Normal := by
  obtain ⟨lookup, _, own⟩ := List.mem_flatMap.mp member
  obtain ⟨deposit, _, rfl⟩ := List.mem_map.mp own
  exact Row.normal_of lookup.vault.id lookup.holding.assetId deposit.address lookup.details.contract

theorem Whole.normal {budget : Nat} {record : List (Event service)} {shelves : Shelves}
    (whole : Whole budget record shelves) {entry : Cache.Entry (List Row)}
    (held : shelves.index = some entry) : ∀ row ∈ entry.value, row.Normal := by
  obtain ⟨lookups, _, _, _, _, _, flat, _⟩ := whole.index entry held
  rw [flat]
  exact fun row member => normal_of_mem_rows member

theorem Traffic.normal_of_run {plan : Plan} {start : Int} {turns : List Turn} {traffic : Traffic}
    (possible : Traffic.run plan start turns = some traffic) {entry : Cache.Entry (List Row)}
    (held : traffic.shelves.index = some entry) : ∀ row ∈ entry.value, row.Normal := by
  have recorded := (Traffic.stocked_of_run indexView possible).held.symm.trans held
  obtain ⟨before, query, since, put, _⟩ := ShelfView.put_of_held recorded
  obtain ⟨building, _⟩ := exists_building possible put
  rw [building.flat]
  exact fun row member => normal_of_mem_rows member

/-- Normal forms are trimmed and normal, and in every state that a directory can reach, its queries
one after another or in turns, every row of the index that it keeps is normal. -/
theorem kept_rows_normal :
    (∀ address, Address.normalize (Address.normalize address) = Address.normalize address ∧
      Text.Trimmed (Address.normalize address).toList) ∧
    (∀ (σ : Type) (host : Host service σ) (clock : σ → Int × σ) (plan : Plan)
      (state : (σ × List (Event service)) × Shelves), Reached host clock plan state →
        ∀ entry, state.2.index = some entry → ∀ row ∈ entry.value, row.Normal) ∧
    ∀ (plan : Plan) (start : Int) (turns : List Turn) (traffic : Traffic),
      Traffic.run plan start turns = some traffic →
        ∀ entry, traffic.shelves.index = some entry → ∀ row ∈ entry.value, row.Normal := by
  refine ⟨fun address => ?_, ?_, ?_⟩
  · exact ⟨Address.normalize_normalize address, Address.trimmed_normalize address⟩
  · intro σ host clock plan state reached entry held
    exact reached.whole.normal held
  · intro plan start turns traffic possible entry held
    exact Traffic.normal_of_run possible held

/-! ## Rows of two queries that overlap -/

def grown : List VaultAccount := lone ++ [⟨"v2", none, []⟩]

/-- Two queries want the index at once.  The listing and the address change between what the one is
told and what the other is told, and somebody empties the shelves meanwhile. -/
def crossing : List Turn :=
  [.come .addressIndex, .come .addressIndex, .come .invalidate, .go 0, .go 0, .go 1, .go 1] ++
    drains 0 lone ++ [.go 2] ++ drains 1 grown ++ [.pass 5] ++
    looksUp 1 "B" ++ finishes 1 ++ [.go 2, .pass 5] ++
    looksUp 0 "A" ++ finishes 0

/-- The rows of the twins are normal, and so is the row of the query that ends last. -/
theorem twin_rows_normal :
    (∀ row ∈ twinRows, row.Normal) ∧
      ∃ traffic, Traffic.run curt 0 crossing = some traffic ∧
        traffic.shelves.index = some ⟨[Row.of "v1" "usd" "A" none], 10⟩ ∧
        ∀ row ∈ [Row.of "v1" "usd" "A" none], row.Normal := by
  obtain ⟨_, reachedNormal, runNormal⟩ := kept_rows_normal
  constructor
  · have first : askForIndex ((0, []), Shelves.empty) =
        (some (.ok (.rows twinRows)), stocked) := rfl
    have reached : Reached (Custody.numbered souring) (fun count => (count, count)) restless
        stocked := .asked .addressIndex (.opened 0) first
    exact reachedNormal _ _ _ restless stocked reached ⟨twinRows, 6⟩ rfl
  · have ends : (Traffic.run curt 0 crossing).map (·.shelves.index) =
        some (some ⟨[Row.of "v1" "usd" "A" none], 10⟩) := by decide +kernel
    obtain ⟨traffic, possible, held⟩ := Option.map_eq_some_iff.mp ends
    exact ⟨traffic, possible, held, runNormal curt 0 crossing traffic possible _ held⟩

end Directory

end DepositDirectory
