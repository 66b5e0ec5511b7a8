import DepositDirectory.Proofs.Dialogue.Silence
import DepositDirectory.Proofs.Directory.Course
import DepositDirectory.Proofs.Directory.Findable

/-!
# Spellings of an address

Addresses match when they are the same up to the blanks around them and the case of their ASCII
letters.  Matching addresses have one normal form, and addresses of ASCII characters match exactly
when they have.  No row tells one spelling from another: whatever is on the shelves, a query that
asks for a matching address or token asks the service the same and has the same answer.
-/

namespace DepositDirectory

namespace Address

open Text (asciiLower lowerChars trimChars)

/-- The address is made of ASCII characters. -/
def Ascii (address : String) : Prop :=
  ∀ c ∈ address.toList, c.toNat < 128

instance (address : String) : Decidable (Ascii address) :=
  inferInstanceAs (Decidable (∀ c ∈ address.toList, c.toNat < 128))

theorem agree_iff {a b : String} :
    agree a b = true ↔ asciiLower (trimChars a.toList) = asciiLower (trimChars b.toList) :=
  decide_eq_true_iff

theorem agree_equivalence : Equivalence fun a b => agree a b = true where
  refl _ := agree_iff.mpr rfl
  symm agree := agree_iff.mpr (agree_iff.mp agree).symm
  trans first second := agree_iff.mpr ((agree_iff.mp first).trans (agree_iff.mp second))

theorem agree_eq_of_agree {a b : String} (spelled : agree a b = true) (stored : String) :
    agree stored a = agree stored b := by
  unfold agree
  rw [agree_iff.mp spelled]

/-- Full lower-casing does to two spellings the same, wherever they have a capital sigma or a dotted
capital I: its first step could as well be to lower-case the ASCII letters, which makes them one. -/
theorem normalize_eq_of_agree {a b : String} (spelled : agree a b = true) :
    normalize a = normalize b := by
  rw [normalize_eq_iff, ← Text.lowerChars_asciiLower (trimChars a.toList), agree_iff.mp spelled,
    Text.lowerChars_asciiLower]

theorem Ascii.plain {address : String} (ascii : Ascii address) : Plain address :=
  Text.lowerFrom_of_ascii (fun c member => ascii c (Text.mem_of_mem_trimChars member)) []

theorem agree_iff_normalize_eq {a b : String} (first : Ascii a) (second : Ascii b) :
    agree a b = true ↔ normalize a = normalize b := by
  rw [agree_iff, normalize_eq_iff, first.plain, second.plain]

end Address

namespace Directory

open Custody (Call CallError service)

variable {query other : String}

theorem ownerOf_of_agree (spelled : Address.agree query other = true) (rows : List Row) :
    ownerOf rows query = ownerOf rows other := by
  have same : (fun row : Row => row.takesDepositsAt query) = (·.takesDepositsAt other) :=
    funext fun row => Address.agree_eq_of_agree spelled row.depositAddress
  unfold ownerOf
  rw [same]

theorem rowOfToken_of_agree (spelled : Address.agree query other = true) (rows : List Row) :
    rowOfToken rows query = rowOfToken rows other := by
  have contracts : (fun contract => Address.agree contract query) = (Address.agree · other) :=
    funext (Address.agree_eq_of_agree spelled)
  unfold rowOfToken Row.isOfToken
  rw [contracts]

/-- To resolve an address is the same as to resolve it in another spelling, but for the log. -/
theorem unlogged_resolve (plan : Plan) (spelled : Address.agree query other = true) :
    (resolve plan query).run.unlogged = (resolve plan other).run.unlogged := by
  refine Dialogue.unlogged_task_bind _ fun rows => ?_
  rw [ownerOf_of_agree spelled rows]
  cases ownerOf rows other <;> rfl

/-- A balance depends on the row of the token and on nothing else in the query, but for the log. -/
theorem unlogged_balance (plan : Plan) {token : String} (deposit elsewhere : String)
    (same : ∀ rows, rowOfToken rows query = rowOfToken rows token) :
    (balance plan deposit query).run.unlogged = (balance plan elsewhere token).run.unlogged := by
  refine Dialogue.unlogged_task_bind _ fun rows => ?_
  rw [same rows]
  cases rowOfToken rows token <;> rfl

variable {σ : Type} {host : Host service σ}

theorem deaf_recording (deaf : host.Deaf) (clock : σ → Int × σ) (terms : Cache.Terms) :
    (recording host clock terms).Deaf := by
  rintro line ⟨⟨state, record⟩, shelves⟩
  change ((host.note line state, record), shelves) = _
  rw [deaf]

/-- Matching is an equivalence.  Addresses that match have the same normal form, and where they are
of ASCII characters, no others have.  In every index, queries that match find the same owner and the
same row of a token; and a directory that takes them up in one state, at any service, has the same
answers and is left in the same state, with the same calls made. -/
theorem spellings_interchangeable :
    (Equivalence fun a b => Address.agree a b = true) ∧
    (∀ a b, Address.agree a b = true → Address.normalize a = Address.normalize b) ∧
    (∀ a b, Address.Ascii a → Address.Ascii b →
      (Address.agree a b = true ↔ Address.normalize a = Address.normalize b)) ∧
    ∀ query other, Address.agree query other = true →
      (∀ rows, ownerOf rows query = ownerOf rows other ∧
        rowOfToken rows query = rowOfToken rows other) ∧
      ∀ (σ : Type) (host : Host service σ) (clock : σ → Int × σ) (plan : Plan) (deposit : String),
        host.Deaf → ∀ state,
          (resolve plan query).run.run (recording host clock plan.terms) state =
            (resolve plan other).run.run (recording host clock plan.terms) state ∧
          (balance plan deposit query).run.run (recording host clock plan.terms) state =
            (balance plan deposit other).run.run (recording host clock plan.terms) state := by
  refine ⟨Address.agree_equivalence, fun _ _ => Address.normalize_eq_of_agree,
    fun _ _ => Address.agree_iff_normalize_eq, fun query other spelled => ⟨fun rows => ?_, ?_⟩⟩
  · exact ⟨ownerOf_of_agree spelled rows, rowOfToken_of_agree spelled rows⟩
  · intro σ host clock plan deposit deaf state
    have beside := deaf_recording deaf clock plan.terms
    constructor
    · exact beside.run_eq (unlogged_resolve plan spelled) state
    · exact beside.run_eq (unlogged_balance plan deposit deposit (rowOfToken_of_agree spelled))
        state

/-- The twins' token in two spellings, and an address that ends in a capital sigma.  At a service
whose listing is the twins, both spellings of the token come to the one error that the live call
meets, over the same calls. -/
theorem twin_spellings :
    Address.agree " 0XF" "0xf\u3000" = true ∧
    Address.agree "0xAΣ" "0XaΣ\t" = true ∧
    Address.normalize "0xAΣ" = "0xaς" ∧ Address.normalize "0XaΣ\t" = "0xaς" ∧
    rowOfToken twinRows "0xf\u3000" = some ⟨"v1", "usd", "a", some "0xF"⟩ ∧
    ∃ final, final.1.1 = 7 ∧
      (balance curt "d" " 0XF").run.run
        (recording (Custody.numbered drifting) (fun count => (count, count)) curt.terms)
        ((0, []), Shelves.empty) = (some (.error (.status 404 "unknown")), final) ∧
      (balance curt "d" "0xf\u3000").run.run
        (recording (Custody.numbered drifting) (fun count => (count, count)) curt.terms)
        ((0, []), Shelves.empty) = (some (.error (.status 404 "unknown")), final) := by
  obtain ⟨_, normal, _, interchangeable⟩ := spellings_interchangeable
  have token : Address.agree " 0XF" "0xf\u3000" = true := by decide
  have sigma : Address.agree "0xAΣ" "0XaΣ\t" = true := by decide
  have final : Address.normalize "0xAΣ" = "0xaς" := by decide +kernel
  obtain ⟨rows, runs⟩ := interchangeable _ _ token
  have queried : (balance curt "d" " 0XF").run.run
      (recording (Custody.numbered drifting) (fun count => (count, count)) curt.terms)
      ((0, []), Shelves.empty) = (some (.error (.status 404 "unknown")), _) := rfl
  obtain ⟨_, same⟩ := runs Nat (Custody.numbered drifting) (fun count => (count, count)) curt "d"
    (fun _ _ => rfl) ((0, []), Shelves.empty)
  exact ⟨token, sigma, final, (normal _ _ sigma).symm.trans final, (rows twinRows).2.symm, _, rfl,
    queried, same.symm.trans queried⟩

end Directory

end DepositDirectory
