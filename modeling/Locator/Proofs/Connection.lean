import Locator.Connection
import Locator.Proofs.Net.HostName.Reading
import Locator.Proofs.Net.Ipv6.Canonical
import Locator.Provisioner

namespace Locator

inductive ConfigError.AboutHost : ConfigError → Prop
  | hostName (error : Net.HostNameError) : AboutHost (.hostName error)
  | noHost : AboutHost .noHost

namespace Connection

/-- A text that names a host: that of an address, or a name with a label or more. -/
inductive NamesHost (host : String) : Prop
  | address (ip : Net.Ip) (h : ip.Literal host.toList)
  | name (labels : List Net.Label) (h : Net.HostName.Names host.toList labels)

theorem checkHost_of_namesHost {host : String} (h : NamesHost host) : checkHost host = .ok () := by
  by_cases hp : (Net.Ip.parse? host.toList).isSome
  · exact if_pos hp
  · rw [checkHost, if_neg hp]
    cases h with
    | address ip h => exact absurd (Net.Ip.exists_literal_iff.mpr ⟨ip, h⟩) hp
    | name labels h =>
      rw [(Net.HostName.labels_eq_ok_iff h.ne_nil).mpr h]
      cases labels with
      | nil => exact absurd rfl h.ne_nil
      | cons label labels => rfl

theorem exists_checkHost_eq_error {host : String} (h : ¬NamesHost host) :
    ∃ error, error.AboutHost ∧ checkHost host = .error error := by
  have hp : ¬(Net.Ip.parse? host.toList).isSome := by
    intro hs
    obtain ⟨ip, hi⟩ := Net.Ip.exists_literal_iff.mp hs
    exact h (.address ip hi)
  rw [checkHost, if_neg hp]
  cases hl : Net.HostName.labels host with
  | error error => exact ⟨_, .hostName error, rfl⟩
  | ok labels =>
    cases labels with
    | nil => exact ⟨_, .noHost, rfl⟩
    | cons label labels =>
      have hn := (Net.HostName.labels_eq_ok_iff (List.cons_ne_nil label labels)).mp hl
      exact absurd (.name _ hn) h

theorem ofParts_eq_ok_iff {host : String} {port : UInt16} {c : Connection} :
    ofParts host port = .ok c ↔ NamesHost host ∧ port ≠ 0 ∧ c = ⟨host, port, none⟩ := by
  by_cases hn : NamesHost host
  · rw [ofParts, checkHost_of_namesHost hn]
    by_cases hp : port = 0
    · simp [hp]
    · simp [hn, hp, eq_comm]
  · obtain ⟨error, -, he⟩ := exists_checkHost_eq_error hn
    rw [ofParts, he]
    simp [hn]

/-- A connection is made for a text that names a host and a port that is not zero. -/
theorem ofParts_accepts (host : String) :
    (∀ port, (∃ c, ofParts host port = .ok c) ↔ port ≠ 0 ∧ NamesHost host) ∧
      (∀ port c, ofParts host port = .ok c →
        c.hostName = host ∧ c.port = port ∧ c.credentials = none) ∧
      (NamesHost host → ofParts host 0 = .error .zeroPort) ∧
      (¬NamesHost host →
        ∃ error, error.AboutHost ∧ ∀ port, ofParts host port = .error error) := by
  refine ⟨?_, ?_, ?_, ?_⟩
  · intro port
    apply Iff.intro
    · intro h
      obtain ⟨c, h⟩ := h
      obtain ⟨hn, hp, -⟩ := ofParts_eq_ok_iff.mp h
      exact ⟨hp, hn⟩
    · intro h
      obtain ⟨hp, hn⟩ := h
      exact ⟨_, ofParts_eq_ok_iff.mpr ⟨hn, hp, rfl⟩⟩
  · intro port c h
    obtain ⟨-, -, he⟩ := ofParts_eq_ok_iff.mp h
    cases he
    exact ⟨rfl, rfl, rfl⟩
  · intro hn
    rw [ofParts, checkHost_of_namesHost hn]
    rfl
  · intro hn
    obtain ⟨error, ha, he⟩ := exists_checkHost_eq_error hn
    refine ⟨error, ha, ?_⟩
    intro port
    rw [ofParts, he]

end Connection
end Locator

namespace Locator.Net.Uri

/-- A URI that is made of a scheme, an authority and what stands behind it. -/
structure Splits (uri scheme authority rest : List Char) : Prop where
  uri_eq : uri = scheme ++ ':' :: '/' :: '/' :: (authority ++ rest)
  scheme_ne : scheme ≠ []
  scheme_char : ∀ c ∈ scheme, isSchemeChar c
  authority_char : ∀ c ∈ authority, c ≠ '/' ∧ endsPath c = false
  rest_head : ∀ c ∈ rest.head?, c = '/' ∨ endsPath c

theorem dropWhile_append_of_head {p : Char → Bool} {front rest : List Char}
    (hf : ∀ c ∈ front, p c) (hr : ∀ c ∈ rest.head?, p c = false) :
    (front ++ rest).dropWhile p = rest := by
  rw [List.dropWhile_append_of_pos hf]
  cases rest with
  | nil => rfl
  | cons c rest => exact List.dropWhile_cons_of_neg (by simp [hr c rfl])

theorem Splits.afterAuthority_eq {uri scheme authority rest : List Char}
    (h : Splits uri scheme authority rest) : afterAuthority uri = rest := by
  have hh : uri.head? ≠ some '/' := by
    intro he
    obtain ⟨c, more, rfl⟩ := List.exists_cons_of_ne_nil h.scheme_ne
    rw [h.uri_eq] at he
    cases he
    cases h.scheme_char '/' (.head more)
  have hs : uri.dropWhile isSchemeChar = ':' :: '/' :: '/' :: (authority ++ rest) := by
    rw [h.uri_eq]
    apply dropWhile_append_of_head h.scheme_char
    intro c hc
    cases hc
    rfl
  rw [afterAuthority, if_neg hh, hs]
  apply dropWhile_append_of_head
  · intro c hc
    obtain ⟨hn, he⟩ := h.authority_char c hc
    simp [hn, he]
  · intro c hc
    rcases h.rest_head c hc with hs | he
    · simp [hs]
    · simp [he]

end Locator.Net.Uri

namespace Locator.Provisioner

variable {p : Provisioner} {conditions : Conditions} {c : Connection}

theorem provision_of_fault {fault : ChannelFault} (h : fault? c = some fault) :
    p.provision conditions c = (.error (.channel c.address fault), []) := by
  rw [provision, h]

theorem provision_of_plaintext (h : fault? c = none) (hc : c.credentials = none) :
    p.provision conditions c =
      (.ok ⟨.notChecked, conditions.link⟩, [.plaintextChannel]) := by
  simp only [provision, h, hc]
  rfl

theorem provision_of_encrypted (h : fault? c = none) (hc : c.credentials.isSome) :
    p.provision conditions c =
      (.ok ⟨p.readiness conditions.attempt, conditions.link⟩,
        [event c.hostName (p.readiness conditions.attempt)]) := by
  simp only [provision, h, if_pos hc]

theorem fault_of_plaintext (hc : c.credentials = none) :
    fault? c = if Net.Uri.isAuthority c.address then none else some .uri := by
  rw [fault?, hc]
  rfl

end Locator.Provisioner
