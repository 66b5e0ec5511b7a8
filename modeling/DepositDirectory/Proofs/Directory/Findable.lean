import DepositDirectory.Proofs.Directory.Whole
import DepositDirectory.Proofs.Text.Lowercase

/-!
# Which listed addresses are found

The index keeps deposit addresses in full lower case, and they are matched up to the case of their
ASCII letters only.  So an address is found exactly when it was listed in some spelling and full
lower-casing does to it no more than to lower-case its ASCII letters.  Every other address is lost,
also when it is asked for in the very spelling in which it was listed.
-/

namespace DepositDirectory.Address

open Text (asciiLower lowerChars trimChars)

/-- Full lower-casing does no more to the address than to lower-case its ASCII letters. -/
def Plain (address : String) : Prop :=
  lowerChars (trimChars address.toList) = asciiLower (trimChars address.toList)

instance (address : String) : Decidable (Plain address) :=
  inferInstanceAs (Decidable (_ = _))

theorem toList_normalize (address : String) :
    (normalize address).toList = lowerChars (trimChars address.toList) := by
  rw [normalize, Text.lower, Text.trim, String.toList_ofList, String.toList_ofList]

theorem normalize_eq_iff {a b : String} :
    normalize a = normalize b ↔
      lowerChars (trimChars a.toList) = lowerChars (trimChars b.toList) := by
  rw [← String.toList_inj, toList_normalize, toList_normalize]

theorem agree_normalize_iff {stored query : String} :
    agree (normalize stored) query = true ↔ normalize stored = normalize query ∧ Plain query := by
  have trimmed := Text.trimmed_lowerChars (Text.trimmed_trimChars stored.toList)
  have kept : asciiLower (trimChars (normalize stored).toList) =
      lowerChars (trimChars stored.toList) := by
    rw [toList_normalize, Text.trimChars_of_trimmed trimmed, Text.asciiLower_lowerChars]
  rw [agree, decide_eq_true_iff, kept, normalize_eq_iff, Plain]
  constructor
  · intro same
    have again : lowerChars (trimChars stored.toList) = lowerChars (trimChars query.toList) := by
      rw [← Text.lowerChars_lowerChars (trimChars stored.toList), same, Text.lowerChars_asciiLower]
    exact ⟨again, again.symm.trans same⟩
  · rintro ⟨same, plain⟩
    exact same.trans plain

end DepositDirectory.Address

namespace DepositDirectory.Directory

open Custody (Call CallError DepositAddress service)

def Lookup.lists (lookup : Lookup) (address : String) : Bool :=
  lookup.deposits.any fun deposit => Address.normalize deposit.address = Address.normalize address

/-- The first vault in the listing that the address, in some spelling, belongs to. -/
def ownerAmong (lookups : List Lookup) (address : String) : Option String :=
  (lookups.find? (·.lists address)).map (·.vault.id)

theorem find?_rows (lookup : Lookup) (address : String) :
    (lookup.rows.find? (·.takesDepositsAt address)).map Row.vaultId =
      if Address.Plain address ∧ lookup.lists address = true then some lookup.vault.id
      else none := by
  have takes (deposit : DepositAddress) (asset : String) (contract : Option String) :
      (Row.mk lookup.vault.id asset (Address.normalize deposit.address) contract).takesDepositsAt
          address = true ↔
        Address.normalize deposit.address = Address.normalize address ∧ Address.Plain address :=
    Address.agree_normalize_iff
  cases found : lookup.rows.find? (·.takesDepositsAt address) with
  | none =>
      have absent : ¬ (Address.Plain address ∧ lookup.lists address = true) := by
        rintro ⟨plain, listed⟩
        obtain ⟨deposit, member, same⟩ := List.any_eq_true.mp listed
        have unmatched := List.find?_eq_none.mp found _ (List.mem_map.mpr ⟨deposit, member, rfl⟩)
        exact unmatched ((takes deposit _ _).mpr ⟨of_decide_eq_true same, plain⟩)
      rw [if_neg absent]
      rfl
  | some row =>
      have matched := List.find?_some found
      obtain ⟨deposit, member, rfl⟩ := List.mem_map.mp (List.mem_of_find?_eq_some found)
      obtain ⟨same, plain⟩ := (takes deposit _ _).mp matched
      have listed : lookup.lists address = true :=
        List.any_eq_true.mpr ⟨deposit, member, decide_eq_true same⟩
      rw [if_pos ⟨plain, listed⟩]
      rfl

theorem ownerOf_rows (lookups : List Lookup) (address : String) :
    ownerOf (lookups.flatMap Lookup.rows) address =
      if Address.Plain address then ownerAmong lookups address else none := by
  induction lookups with
  | nil => exact (ite_self none).symm
  | cons lookup lookups ih =>
      have first := find?_rows lookup address
      rw [ownerOf] at ih
      rw [ownerOf, List.flatMap_cons, List.find?_append, Option.map_or, first, ih]
      unfold ownerAmong
      rw [List.find?_cons]
      by_cases plain : Address.Plain address
      · rw [if_pos plain, if_pos plain]
        cases listed : lookup.lists address with
        | true =>
            rw [if_pos ⟨plain, rfl⟩]
            rfl
        | false =>
            rw [if_neg fun both => nomatch both.2]
            rfl
      · rw [if_neg plain, if_neg plain, if_neg fun both => plain both.1]
        rfl

theorem Indexed.kept {patience : Patience} {before after : Shelves} {events : List (Event service)}
    {rows : List Row} (indexed : Indexed patience before events (.ok rows) after) :
    ∃ entry, after.index = some entry ∧ entry.value = rows := by
  cases indexed with
  | @served entry time held => exact ⟨entry, held, rfl⟩
  | built silent listed comes => exact ⟨_, rfl, rfl⟩

theorem exists_ownerAmong {lookups : List Lookup} {lookup : Lookup} {deposit : DepositAddress}
    (among : lookup ∈ lookups) (listed : deposit ∈ lookup.deposits) :
    ∃ vaultId, ownerAmong lookups deposit.address = some vaultId := by
  have lists : lookup.lists deposit.address = true :=
    List.any_eq_true.mpr ⟨deposit, listed, decide_eq_true rfl⟩
  cases found : lookups.find? (·.lists deposit.address) with
  | none => exact absurd lists (List.find?_eq_none.mp found lookup among)
  | some first => exact ⟨first.vault.id, by rw [ownerAmong, found]; rfl⟩

variable {σ : Type} {host : Host service σ} {clock : σ → Int × σ} {plan : Plan}

/-- Whenever a directory resolves an address, it has an index that was built from lookups, and the
answer is the first vault that the address was listed for, in some spelling, if the address is
plain, and no vault if it is not.  So a listed address is found exactly when it is plain, and a
stored address matches its own spelling exactly then. -/
theorem Reached.resolve_eq {state final : (σ × List (Event service)) × Shelves} {address : String}
    {answer : Option String} (reached : Reached host clock plan state)
    (run : (resolve plan address).run.run (recording host clock plan.terms) state =
      (some (.ok answer), final)) :
    (∃ entry lookups, final.2.index = some entry ∧
      Built plan.patience.maxRetries final.1.2 lookups entry ∧
      answer = (if Address.Plain address then ownerAmong lookups address else none) ∧
      ∀ lookup ∈ lookups, ∀ deposit ∈ lookup.deposits, deposit.address = address →
        ((∃ vaultId, answer = some vaultId) ↔ Address.Plain address)) ∧
    (Address.agree (Address.normalize address) address = true ↔ Address.Plain address) := by
  refine ⟨?_, Address.agree_normalize_iff.trans (and_iff_right rfl)⟩
  obtain ⟨events, grown, course⟩ := follows_resolve host clock plan address run
  rcases course with ⟨cause, impossible, _⟩ |
    ⟨earlier, rows, later, middle, rfl, indexed, rfl, found, rfl⟩
  · cases impossible
  · cases found
    have came := indexed_of_course indexed
    obtain ⟨entry, held, rfl⟩ := came.kept
    have whole := came.whole reached.whole
    obtain ⟨lookups, built⟩ := whole.index entry held
    have flat : entry.value = lookups.flatMap Lookup.rows := by
      obtain ⟨_, _, _, _, _, flat, _⟩ := built
      exact flat
    have answered := ownerOf_rows lookups address
    rw [← flat] at answered
    rw [List.append_nil] at grown
    refine ⟨entry, lookups, held, grown ▸ built, answered, ?_⟩
    rintro lookup among deposit listed rfl
    obtain ⟨vaultId, owner⟩ := exists_ownerAmong among listed
    rw [answered]
    by_cases plain : Address.Plain deposit.address
    · rw [if_pos plain]
      exact iff_of_true ⟨vaultId, owner⟩ plain
    · rw [if_neg plain]
      exact iff_of_false nofun plain

/-- The twins' first address is plain, and asked for in another spelling it belongs to their
vault. -/
theorem resolve_twin :
    ∃ final, (resolve curt "a ").run.run
        (recording (Custody.numbered drifting) (fun count => (count, count)) curt.terms)
        ((0, []), Shelves.empty) = (some (.ok (some "v1")), final) ∧
      ∃ entry lookups, final.2.index = some entry ∧ Built 1 final.1.2 lookups entry ∧
        some "v1" = (if Address.Plain "a " then ownerAmong lookups "a " else none) := by
  have run : (resolve curt "a ").run.run
      (recording (Custody.numbered drifting) (fun count => (count, count)) curt.terms)
      ((0, []), Shelves.empty) = (some (.ok (some "v1")), _) := rfl
  obtain ⟨⟨entry, lookups, held, built, answered, _⟩, _⟩ := (Reached.opened 0).resolve_eq run
  exact ⟨_, run, entry, lookups, held, built, answered⟩

def accented : Nat → (c : Call) → Except CallError c.Result
  | _, .listVaults _ => .ok (some ⟨[⟨"V1", none, [⟨"A1"⟩]⟩], none⟩)
  | _, .depositAddresses _ _ => .ok [⟨"É"⟩]
  | _, .assetDetails _ => .ok ⟨none⟩
  | _, .assetBalance _ _ => .error (.status 404 "unknown")

/-- The address is listed and kept, and a query for the very same address does not find it. -/
theorem accented_is_lost :
    accented 1 (.depositAddresses "V1" "A1") = .ok [⟨"É"⟩] ∧
    (∃ final, (resolve curt "É").run.run
        (recording (Custody.numbered accented) (fun count => (count, count)) curt.terms)
        ((0, []), Shelves.empty) = (some (.ok none), final) ∧
      final.2.index = some ⟨[⟨"V1", "A1", "é", none⟩], 3⟩) ∧
    Address.agree (Address.normalize "É") "É" = false := by
  refine ⟨rfl, ⟨_, rfl, rfl⟩, ?_⟩
  decide

end DepositDirectory.Directory
