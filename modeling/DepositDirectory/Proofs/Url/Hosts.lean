import DepositDirectory.Proofs.Url.Reader

/-!
# Web addresses name a host

A host of a web address that is read is never written as nothing, so the address names a host.
-/

namespace DepositDirectory.Url

open Http (isWeb)

/-- The dots of an address of version 4 are always written. -/
theorem v4Text_ne_nil (address : Nat) : (v4Text address).toList ≠ [] := by
  simp [v4Text]

theorem exists_of_readV6 {cs : List Char} {host : Host} (read : readV6 cs = .ok host) :
    ∃ pieces, host = .v6 pieces := by
  unfold readV6 at read
  split at read
  · cases read
    exact ⟨_, rfl⟩
  · cases read

theorem exists_of_readV4 {cs : List Char} {host : Host} (read : readV4 cs = .ok host) :
    ∃ address, host = .v4 address := by
  unfold readV4 at read
  split at read
  · cases read
    exact ⟨_, rfl⟩
  · cases read

theorem text_ne_nil_of_readWebHost {cs : List Char} {host : Host}
    (read : readWebHost cs = .ok host) : host.text.toList ≠ [] := by
  unfold readWebHost at read
  split at read
  · cases read
  · split at read
    · obtain ⟨pieces, rfl⟩ := exists_of_readV6 read
      simp [Host.text]
    · cases read
  · split at read
    · cases read
    · cases read
    · rename_i domain filled _
      split at read
      · obtain ⟨address, rfl⟩ := exists_of_readV4 read
        exact v4Text_ne_nil address
      · cases read
        intro bare
        rw [Host.text, String.toList_ofList] at bare
        exact filled bare

/-- A web address's authority has a host that is written as something. -/
theorem text_ne_nil_of_readAuthority {scheme cs : List Char} {isLast : Bool}
    {authority : Authority} (special : isSpecial scheme = true)
    (read : readAuthority scheme cs isLast = .ok authority) :
    authority.host.text.toList ≠ [] := by
  unfold readAuthority at read
  rw [special] at read
  dsimp only at read
  split at read
  · cases read
  · split at read
    · cases read
    · obtain ⟨host, named, rest⟩ := bind_eq_ok_iff.mp read
      split at rest
      · obtain ⟨port, _, whole⟩ := bind_eq_ok_iff.mp rest
        cases whole
        exact text_ne_nil_of_readWebHost named
      · cases rest
        exact text_ne_nil_of_readWebHost named

theorem hasHost_of_readFromAuthority {scheme cs : List Char} {url : Url}
    (special : isSpecial scheme = true) (read : readFromAuthority scheme cs = .ok url) :
    url.hasHost = true := by
  obtain ⟨authority, named, rest⟩ := bind_eq_ok_iff.mp read
  cases rest
  have written := text_ne_nil_of_readAuthority special named
  refine decide_eq_true fun bare => ?_
  exact written (List.append_eq_nil_iff.mp bare).1

theorem hasHost_of_read {text : String} {url : Url} (read : Url.read text = .ok url)
    (web : isWeb url) : url.hasHost = true := by
  have special := isSpecial_of_isWeb web
  unfold Url.read at read
  split at read
  case h_2 => cases read
  case h_1 scheme cs _ =>
    unfold readAfterScheme at read
    split at read
    · rw [isWeb, scheme_of_readFile read] at web
      exact absurd web (by decide)
    · split at read
      · rename_i kind
        exact hasHost_of_readFromAuthority kind read
      · rename_i plain
        split at read
        · have same := (readFromAuthority_eq_ok read).1
          rw [same] at special
          exact absurd special plain
        · cases read
          exact absurd special plain

end DepositDirectory.Url
