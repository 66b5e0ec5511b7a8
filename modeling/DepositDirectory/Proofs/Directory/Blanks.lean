import DepositDirectory.Proofs.Directory.Spendable

/-!
# Blank addresses

An address or a token of nothing but blanks is compared like any other, so it matches every address
that is blank too.  A query that is blank finds nothing exactly when nothing blank was told.  An
asset without a contract is never found, for there is nothing to compare; but one whose contract was
told as a blank text has a contract, and a blank query finds it.
-/

namespace DepositDirectory

namespace Address

open Text (asciiLower lowerChars trimChars)

/-- There is nothing in the address but blanks. -/
def Blank (address : String) : Prop :=
  trimChars address.toList = []

instance (address : String) : Decidable (Blank address) :=
  inferInstanceAs (Decidable (_ = _))

theorem blank_iff_asciiLower {address : String} :
    Blank address ↔ asciiLower (trimChars address.toList) = [] :=
  List.map_eq_nil_iff.symm

theorem blank_iff_lowerChars {address : String} :
    Blank address ↔ lowerChars (trimChars address.toList) = [] := by
  unfold Blank
  cases trimChars address.toList with
  | nil => exact iff_of_true rfl rfl
  | cons c after =>
      have lowered := (Text.lowerBetween_spec [] c after).1
      exact iff_of_false (List.cons_ne_nil _ _) fun nothing =>
        lowered (List.append_eq_nil_iff.mp nothing).1

theorem Blank.plain {address : String} (blank : Blank address) : Plain address :=
  (blank_iff_lowerChars.mp blank).trans (blank_iff_asciiLower.mp blank).symm

/-- The addresses that are stored as a blank one is are the blank ones. -/
theorem Blank.normalize_eq_iff {query : String} (blank : Blank query) (stored : String) :
    normalize stored = normalize query ↔ Blank stored := by
  rw [Address.normalize_eq_iff, blank_iff_lowerChars.mp blank, ← blank_iff_lowerChars]

end Address

namespace Directory

open Custody (AssetBalance Call CallError service written)

/-! ## Rows that name a blank -/

theorem Row.Names.blank_iff {row : Row} {token : String} (names : row.Names token) :
    ∃ contract, row.assetAddress = some contract ∧
      (Address.Blank contract ↔ Address.Blank token) := by
  obtain ⟨contract, told, same⟩ := names
  refine ⟨contract, told, ?_⟩
  rw [Address.blank_iff_asciiLower, Address.blank_iff_asciiLower, same]

/-- The holding takes deposits at a blank address. -/
def Lookup.TakesAtBlank (lookup : Lookup) : Prop :=
  ∃ deposit ∈ lookup.deposits, Address.Blank deposit.address

/-- The holding takes deposits, and its asset has a contract that is blank. -/
def Lookup.HasBlankContract (lookup : Lookup) : Prop :=
  lookup.deposits ≠ [] ∧
    ∃ contract, lookup.details.onchain.bind (·.address) = some contract ∧ Address.Blank contract

theorem ownerAmong_eq_none_iff {lookups : List Lookup} {query : String}
    (blank : Address.Blank query) :
    ownerAmong lookups query = none ↔ ∀ lookup ∈ lookups, ¬ lookup.TakesAtBlank := by
  have lists (lookup : Lookup) : lookup.lists query = true ↔ lookup.TakesAtBlank := by
    simp only [Lookup.lists, List.any_eq_true, decide_eq_true_iff, blank.normalize_eq_iff,
      Lookup.TakesAtBlank]
  simp only [ownerAmong, Option.map_eq_none_iff, List.find?_eq_none, lists]

theorem Lookup.names_iff {lookup : Lookup} {token : String} (blank : Address.Blank token) :
    (∃ row ∈ lookup.rows, row.Names token) ↔ lookup.HasBlankContract := by
  constructor
  · rintro ⟨row, member, names⟩
    obtain ⟨deposit, listed, rfl⟩ := List.mem_map.mp member
    obtain ⟨contract, told, both⟩ := names.blank_iff
    exact ⟨List.ne_nil_of_mem listed, contract, told, both.mpr blank⟩
  · rintro ⟨filled, contract, told, hollow⟩
    obtain ⟨deposit, listed⟩ := List.exists_mem_of_ne_nil _ filled
    refine ⟨_, List.mem_map.mpr ⟨deposit, listed, rfl⟩, contract, told, ?_⟩
    rw [Address.blank_iff_asciiLower.mp hollow, Address.blank_iff_asciiLower.mp blank]

theorem rowOfToken_blank_eq_none {lookups : List Lookup} {token : String}
    (blank : Address.Blank token) (filled : ∀ lookup ∈ lookups, ¬ lookup.HasBlankContract) :
    rowOfToken (lookups.flatMap Lookup.rows) token = none := by
  refine rowOfToken_eq_none fun row member names => ?_
  obtain ⟨lookup, among, own⟩ := List.mem_flatMap.mp member
  exact filled lookup among ((Lookup.names_iff blank).mp ⟨row, own, names⟩)

theorem rowOfToken_blank_eq_some {earlier : List Lookup} {lookup : Lookup} {token : String}
    (blank : Address.Blank token) (filled : ∀ other ∈ earlier, ¬ other.HasBlankContract)
    (hollow : lookup.HasBlankContract) (later : List Lookup) :
    ∃ row ∈ lookup.rows,
      rowOfToken ((earlier ++ lookup :: later).flatMap Lookup.rows) token = some row := by
  have before := rowOfToken_blank_eq_none blank filled
  obtain ⟨row, own, names⟩ := (Lookup.names_iff blank).mpr hollow
  unfold rowOfToken at before ⊢
  rw [List.flatMap_append, List.flatMap_cons, List.find?_append, before, Option.none_or,
    List.find?_append]
  cases found : lookup.rows.find? (·.isOfToken token) with
  | none => exact absurd (Row.isOfToken_iff.mpr names) (List.find?_eq_none.mp found row own)
  | some first => exact ⟨first, List.mem_of_find?_eq_some found, rfl⟩

/-! ## Queries -/

section Runs

variable {σ : Type} (host : Host service σ) (clock : σ → Int × σ) (plan : Plan)
  {state middle : (σ × List (Event service)) × Shelves} {rows : List Row}
  (indexed : (addressIndex plan).run.run (recording host clock plan.terms) state =
    (some (.ok rows), middle))

include indexed

theorem run_resolve (address : String) :
    ∃ line, (resolve plan address).run.run (recording host clock plan.terms) state =
      (some (.ok (ownerOf rows address)), (host.note line middle.1.1, middle.1.2), middle.2) := by
  rw [resolve, Dialogue.run_task_bind_of_run indexed]
  cases ownerOf rows address with
  | none => exact ⟨_, rfl⟩
  | some vaultId => exact ⟨_, rfl⟩

theorem run_balance_of_none {token : String} (missing : rowOfToken rows token = none)
    (deposit : String) :
    ∃ line, (balance plan deposit token).run.run (recording host clock plan.terms) state =
      (some (.ok none), (host.note line middle.1.1, middle.1.2), middle.2) := by
  rw [balance, Dialogue.run_task_bind_of_run indexed, missing]
  exact ⟨_, rfl⟩

/-- Once there is an index and a row is of the token, one logical call is made for its balance. -/
theorem run_balance_of_some {token : String} {row : Row} (found : rowOfToken rows token = some row)
    (deposit : String) :
    ∃ hints outcome after, Tries.Within ⟨hints, outcome⟩ plan.patience.maxRetries ∧
      (balance plan deposit token).run.run (recording host clock plan.terms) state =
        (some (outcome.map fun amounts : AssetBalance => some amounts.available),
          (after, middle.1.2 ++
            written [⟨.assetBalance row.vaultId row.assetId, ⟨hints, outcome⟩⟩]),
          middle.2) := by
  let told : Query (Option String) := do
    let amounts ← ExceptT.mk (outside (plan.patience.execute
      (Custody.call (.assetBalance row.vaultId row.assetId))).run)
    return some amounts.available
  obtain ⟨line, goesOn⟩ : ∃ line,
      (balance plan deposit token).run.run (recording host clock plan.terms) state =
        told.run.run (recording host clock plan.terms)
          ((host.note line middle.1.1, middle.1.2), middle.2) := by
    rw [balance, Dialogue.run_task_bind_of_run indexed, found]
    exact ⟨_, rfl⟩
  obtain ⟨hints, outcome, after, patient, called⟩ := run_execute_call host clock plan
    (.assetBalance row.vaultId row.assetId) (host.note line middle.1.1) middle.1.2 middle.2
  exact ⟨hints, outcome, after, patient, goesOn.trans (Dialogue.run_task_map_of_run called)⟩

end Runs

variable {σ : Type} {host : Host service σ} {clock : σ → Int × σ} {plan : Plan}

theorem Reached.index_eq {state middle : (σ × List (Event service)) × Shelves} {rows : List Row}
    (reached : Reached host clock plan state)
    (indexed : (addressIndex plan).run.run (recording host clock plan.terms) state =
      (some (.ok rows), middle)) :
    ∃ entry lookups, middle.2.index = some entry ∧
      Built plan.patience.maxRetries middle.1.2 lookups entry ∧ entry.value = rows ∧
      rows = lookups.flatMap Lookup.rows := by
  obtain ⟨events, grown, course⟩ := follows_addressIndex host clock plan indexed
  have came := indexed_of_course course
  obtain ⟨entry, held, rfl⟩ := came.kept
  obtain ⟨lookups, built⟩ := (came.whole reached.whole).index entry held
  obtain ⟨_, _, _, _, _, flat, _⟩ := id built
  exact ⟨entry, lookups, held, grown ▸ built, rfl, flat⟩

/-- When the index of a blank query has been come by, it was built from lookups, and the query finds
what is blank in them.  An address is resolved without a call, to no vault exactly when no holding
takes deposits at a blank address.  There is no balance, and none is asked for, as long as no
contract is blank; else one logical call is made for the first holding with a blank contract.  A row
without a contract is not found for any token, and one with a blank contract only for a blank
one. -/
theorem Reached.blank_finds_blanks {state middle : (σ × List (Event service)) × Shelves}
    {rows : List Row} {query : String} (reached : Reached host clock plan state)
    (indexed : (addressIndex plan).run.run (recording host clock plan.terms) state =
      (some (.ok rows), middle)) (blank : Address.Blank query) :
    ∃ entry lookups, middle.2.index = some entry ∧
      Built plan.patience.maxRetries middle.1.2 lookups entry ∧ entry.value = rows ∧
      (∃ line, (resolve plan query).run.run (recording host clock plan.terms) state =
        (some (.ok (ownerAmong lookups query)), (host.note line middle.1.1, middle.1.2),
          middle.2)) ∧
      (ownerAmong lookups query = none ↔ ∀ lookup ∈ lookups, ¬ lookup.TakesAtBlank) ∧
      (∀ deposit,
        ((∀ lookup ∈ lookups, ¬ lookup.HasBlankContract) →
          ∃ line, (balance plan deposit query).run.run (recording host clock plan.terms) state =
            (some (.ok none), (host.note line middle.1.1, middle.1.2), middle.2)) ∧
        ∀ earlier lookup later, lookups = earlier ++ lookup :: later →
          (∀ other ∈ earlier, ¬ other.HasBlankContract) → lookup.HasBlankContract →
          ∃ hints outcome after, Tries.Within ⟨hints, outcome⟩ plan.patience.maxRetries ∧
            (balance plan deposit query).run.run (recording host clock plan.terms) state =
              (some (outcome.map fun amounts : AssetBalance => some amounts.available),
                (after, middle.1.2 ++ written
                  [⟨.assetBalance lookup.vault.id lookup.holding.assetId, ⟨hints, outcome⟩⟩]),
                middle.2)) ∧
      ∀ token row, rowOfToken rows token = some row →
        ∃ contract, row.assetAddress = some contract ∧
          (Address.Blank contract ↔ Address.Blank token) := by
  obtain ⟨entry, lookups, held, built, same, rfl⟩ := reached.index_eq indexed
  refine ⟨entry, lookups, held, built, same, ?_, ownerAmong_eq_none_iff blank,
    fun deposit => ⟨fun filled => ?_, ?_⟩, fun token row found => ?_⟩
  · have resolved := run_resolve host clock plan indexed query
    rw [ownerOf_rows, if_pos blank.plain] at resolved
    exact resolved
  · have missed := rowOfToken_blank_eq_none blank filled
    exact run_balance_of_none host clock plan indexed missed deposit
  · rintro earlier lookup later rfl filled hollow
    obtain ⟨row, own, found⟩ := rowOfToken_blank_eq_some blank filled hollow later
    obtain ⟨taken, _, rfl⟩ := List.mem_map.mp own
    exact run_balance_of_some host clock plan indexed found deposit
  · have named : row.isOfToken token = true :=
      List.find?_some (p := fun row : Row => row.isOfToken token) found
    exact (Row.isOfToken_iff.mp named).blank_iff

/-- One vault that holds a native asset, whose contract is told as an empty text. -/
def hollow : Nat → (c : Call) → Except CallError c.Result
  | _, .listVaults _ => .ok (some ⟨[⟨"V1", none, [⟨"A1"⟩]⟩], none⟩)
  | _, .depositAddresses _ _ => .ok [⟨"0xAAA"⟩]
  | _, .assetDetails _ => .ok ⟨some ⟨some "", none⟩⟩
  | _, .assetBalance _ _ => .ok ⟨"3", none⟩

def hollowHost : Host (withShelves service) ((Nat × List (Event service)) × Shelves) :=
  recording (Custody.numbered hollow) (fun count => (count, count)) curt.terms

/-- A blank address belongs to no vault here, for no holding takes deposits at one. -/
theorem hollow_takes_at_no_blank :
    ∃ lookups final, (resolve curt "\t ").run.run hollowHost ((0, []), Shelves.empty) =
        (some (.ok none), final) ∧
      (∃ entry, final.2.index = some entry ∧ Built 1 final.1.2 lookups entry) ∧
      ∀ lookup ∈ lookups, ¬ lookup.TakesAtBlank := by
  have indexed : (addressIndex curt).run.run hollowHost ((0, []), Shelves.empty) =
      (some (.ok [⟨"V1", "A1", "0xaaa", some ""⟩]), _) := rfl
  obtain ⟨entry, lookups, held, built, _, ⟨line, resolved⟩, unowned, _⟩ :=
    (Reached.opened 0).blank_finds_blanks indexed (show Address.Blank "\t " by decide)
  have run : (resolve curt "\t ").run.run hollowHost ((0, []), Shelves.empty) =
      (some (.ok none), _) := rfl
  have ownerless : ownerAmong lookups "\t " = none :=
    Except.ok.inj (Option.some.inj (congrArg Prod.fst (resolved.symm.trans run)))
  exact ⟨lookups, _, run, ⟨entry, held, built⟩, unowned.mp ownerless⟩

/-- The contract is told as an empty text, and the empty token finds it: its balance is asked for
and told. -/
theorem hollow_token_is_told :
    hollow 2 (.assetDetails "A1") = .ok ⟨some ⟨some "", none⟩⟩ ∧ Address.Blank "" ∧
    ∃ middle final,
      (addressIndex curt).run.run hollowHost ((0, []), Shelves.empty) =
        (some (.ok [⟨"V1", "A1", "0xaaa", some ""⟩]), middle) ∧
      (balance curt "0xAAA" "").run.run hollowHost ((0, []), Shelves.empty) =
        (some (.ok (some "3")), final) ∧
      final.1.2 = middle.1.2 ++ written [⟨.assetBalance "V1" "A1", ⟨[], .ok ⟨"3", none⟩⟩⟩] :=
  ⟨rfl, by decide, _, _, rfl, rfl, rfl⟩

end Directory

end DepositDirectory
