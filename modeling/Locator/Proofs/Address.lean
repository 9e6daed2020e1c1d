import Locator.Proofs.Connection

namespace Locator

open Net (Ipv6)
open Net.HostName (IsHostChar)

/-- Characters that part an address or a URI, or do not belong into a line of ASCII. -/
def IsForeign (c : Char) : Prop :=
  c ∈ ":/?#@%[]".toList ∨ Text.isBlank c ∨ Text.isControl c ∨ 128 ≤ c.toNat

instance (c : Char) : Decidable (IsForeign c) :=
  inferInstanceAs (Decidable (_ ∨ _))

def IsAddressChar (c : Char) : Prop :=
  IsHostChar c ∨ c = ':' ∨ c = '[' ∨ c = ']'

instance (c : Char) : Decidable (IsAddressChar c) :=
  inferInstanceAs (Decidable (_ ∨ _))

theorem not_isForeign {c : Char} (h : IsHostChar c) : ¬IsForeign c :=
  Text.forall_ascii (P := fun c => IsHostChar c → ¬IsForeign c) (by decide +kernel)
    h.toNat_lt h

theorem IsAddressChar.toNat_lt {c : Char} (h : IsAddressChar c) : c.toNat < 128 := by
  rcases h with h | rfl | rfl | rfl
  · exact h.toNat_lt
  · decide
  · decide
  · decide

theorem IsAddressChar.isAuthorityChar_iff {c : Char} (h : IsAddressChar c) :
    Net.Uri.isAuthorityChar c = false ↔ c = '\\' :=
  Text.forall_ascii
    (P := fun c => IsAddressChar c → (Net.Uri.isAuthorityChar c = false ↔ c = '\\'))
    (by decide +kernel) h.toNat_lt h

theorem IsAddressChar.not_end {c : Char} (h : IsAddressChar c) :
    c ≠ '/' ∧ Net.Uri.endsPath c = false :=
  Text.forall_ascii (P := fun c => IsAddressChar c → c ≠ '/' ∧ Net.Uri.endsPath c = false)
    (by decide +kernel) h.toNat_lt h

theorem Net.Ipv6.Literal.isAddressChar {ip : Ipv6} {text : List Char} (h : Ipv6.Literal ip text) :
    ∀ c ∈ text, IsAddressChar c ∧ c ≠ '\\' := by
  intro c hc
  rcases h.mem hc with rfl | rfl | ⟨d, hd⟩
  · decide
  · decide
  · have ha := Ipv6.isAlphanum_of_digit hd
    refine ⟨.inl (.inl (.inl ha)), ?_⟩
    intro he
    rw [he] at ha
    cases ha

theorem Net.Ipv6.Literal.bracket_not_mem {ip : Ipv6} {text : List Char} (h : Ipv6.Literal ip text) :
    '[' ∉ text := by
  intro hm
  rcases h.mem hm with hc | hc | ⟨d, hd⟩
  · cases hc
  · cases hc
  · cases hd

namespace Connection

inductive Obtainable : Connection → Prop
  | ofParts {host : String} {port : UInt16} {c : Connection} (h : ofParts host port = .ok c) :
      Obtainable c
  | withCredentials {c : Connection} (hc : Obtainable c) (credentials : Credentials) :
      Obtainable (c.withCredentials credentials)

theorem Obtainable.namesHost {c : Connection} (h : Obtainable c) : NamesHost c.hostName := by
  induction h with
  | ofParts h =>
    obtain ⟨hn, -, he⟩ := ofParts_eq_ok_iff.mp h
    rw [he]
    exact hn
  | withCredentials _ _ ih => exact ih

/-- What stands in front of the port. -/
inductive HostPart (host : String) : List Char → Prop
  | ipv6 {ip : Ipv6} (h : Ipv6.Literal ip host.toList) : HostPart host ('[' :: (ip.render ++ [']']))
  | verbatim (h : ∀ ip, ¬Ipv6.Literal ip host.toList) : HostPart host host.toList

/-- The same text, or two texts of one address of version 6. -/
def SameHost (host host' : String) : Prop :=
  host = host' ∨ ∃ ip, Ipv6.Literal ip host.toList ∧ Ipv6.Literal ip host'.toList

theorem hostPart_hostText (host : String) : HostPart host (hostText host).toList := by
  unfold hostText
  split
  · next ip hp =>
    cases Net.Ip.parse_eq_some_iff.mp hp with
    | v6 h => simpa using HostPart.ipv6 h
  · next hn =>
    apply HostPart.verbatim
    intro ip h
    exact hn ip (Net.Ip.parse_eq_some_iff.mpr (.v6 h))

theorem HostPart.not_literal {host : String} {part : List Char} (h : HostPart host part)
    (ip : Ipv6) : ¬Ipv6.Literal ip part := by
  intro hi
  cases h with
  | ipv6 _ => exact hi.bracket_not_mem (.head _)
  | verbatim hn => exact hn ip hi

theorem NamesHost.hostChars {host : String} (h : NamesHost host)
    (hn : ∀ ip, ¬Ipv6.Literal ip host.toList) :
    host ≠ "" ∧ ∀ c ∈ host.toList, IsHostChar c := by
  cases h with
  | address ip h =>
    cases ip with
    | v4 ip =>
      generalize ht : host.toList = text at h
      cases h
      apply And.intro
      · intro he
        have hd := ht ▸ Net.Ipv4.dot_mem_render ip
        rw [he] at hd
        cases hd
      · intro c hc
        rcases Net.Ipv4.mem_render hc with rfl | hd
        · decide
        · exact Net.HostName.isHostChar_of_isDigit hd
    | v6 ip =>
      cases h with
      | v6 h => exact absurd h (hn ip)
  | name labels h =>
    refine ⟨?_, h.isHostChar⟩
    intro he
    exact h.text_ne_nil (by rw [he]; rfl)

theorem toList_address (c : Connection) :
    c.address.toList = (hostText c.hostName).toList ++ ':' :: Nat.toDigits 10 c.port.toNat := by
  simp [address, toString]

theorem toList_address_of_verbatim {c : Connection}
    (h : ∀ ip, ¬Ipv6.Literal ip c.hostName.toList) :
    c.address.toList = c.hostName.toList ++ ':' :: Nat.toDigits 10 c.port.toNat := by
  rw [toList_address]
  generalize hp : (hostText c.hostName).toList = part
  cases hp ▸ hostPart_hostText c.hostName with
  | ipv6 hi => exact absurd hi (h _)
  | verbatim _ => rfl

theorem NamesHost.isAddressChar {host : String} (h : NamesHost host) :
    ∀ c ∈ host.toList, IsAddressChar c := by
  intro c hc
  by_cases hi : ∃ ip, Ipv6.Literal ip host.toList
  · obtain ⟨ip, hi⟩ := hi
    exact (hi.isAddressChar c hc).1
  · exact .inl ((h.hostChars (not_exists.mp hi)).2 c hc)

theorem HostPart.isAddressChar {host : String} {part : List Char} (h : HostPart host part)
    (hn : NamesHost host) :
    (∀ c ∈ part, IsAddressChar c) ∧ ('\\' ∈ part ↔ '\\' ∈ host.toList) := by
  cases h with
  | @ipv6 ip h =>
    have hr := ip.literal_render.isAddressChar
    apply And.intro
    · intro c hc
      rcases List.mem_cons.mp hc with rfl | hc
      · decide
      · rcases List.mem_append.mp hc with hc | hc
        · exact (hr c hc).1
        · rw [List.mem_singleton.mp hc]
          decide
    · have hb : '\\' ∉ ip.render := fun hc => (hr _ hc).2 rfl
      have hh : '\\' ∉ host.toList := fun hc => (h.isAddressChar _ hc).2 rfl
      simp [hb, hh]
  | verbatim h => exact ⟨hn.isAddressChar, Iff.rfl⟩

theorem digits_isAddressChar (n : Nat) : ∀ c ∈ Nat.toDigits 10 n, IsAddressChar c ∧ c ≠ '\\' := by
  intro c hc
  have hd : c.isDigit := Nat.isDigit_of_mem_toDigits (by decide) (by decide) hc
  refine ⟨.inl (Net.HostName.isHostChar_of_isDigit hd), ?_⟩
  intro he
  rw [he] at hd
  cases hd

theorem address_isAddressChar {c : Connection} (hn : NamesHost c.hostName) :
    (∀ ch ∈ c.address.toList, IsAddressChar ch) ∧
      ('\\' ∈ c.address.toList ↔ '\\' ∈ c.hostName.toList) := by
  obtain ⟨hp, hb⟩ := (hostPart_hostText c.hostName).isAddressChar hn
  have hd := digits_isAddressChar c.port.toNat
  rw [toList_address]
  apply And.intro
  · intro ch hc
    rcases List.mem_append.mp hc with hc | hc
    · exact hp ch hc
    · rcases List.mem_cons.mp hc with rfl | hc
      · decide
      · exact (hd ch hc).1
  · have hn : '\\' ∉ Nat.toDigits 10 c.port.toNat := fun hc => (hd _ hc).2 rfl
    simp [hb, hn]

theorem isAuthority_address_iff {c : Connection} (hn : NamesHost c.hostName) :
    Net.Uri.isAuthority c.address = true ↔ '\\' ∉ c.hostName.toList := by
  obtain ⟨ha, hb⟩ := address_isAddressChar hn
  rw [← hb, Net.Uri.isAuthority, List.all_eq_true]
  apply Iff.intro
  · intro h hm
    cases h _ hm
  · intro h ch hc
    cases hf : Net.Uri.isAuthorityChar ch with
    | true => rfl
    | false =>
      rw [(ha ch hc).isAuthorityChar_iff] at hf
      exact absurd (hf ▸ hc) h

/-- What stands in front of a port is parted from it at the last colon. -/
theorem splitLast_port (part : List Char) (port : UInt16) :
    Text.splitLast? ':' (part ++ ':' :: Nat.toDigits 10 port.toNat) =
      some (part, Nat.toDigits 10 port.toNat) :=
  Text.splitLast_append (Net.Ipv4.not_mem_toDigits (by decide) port.toNat) part

theorem splitLast_address (c : Connection) :
    Text.splitLast? ':' c.address.toList =
      some ((hostText c.hostName).toList, Nat.toDigits 10 c.port.toNat) := by
  rw [toList_address, splitLast_port]

theorem scheme_cases (c : Connection) :
    c.scheme = "https" ∧ c.credentials.isSome ∨ c.scheme = "http" ∧ c.credentials = none := by
  rw [scheme]
  cases c.credentials with
  | none => exact .inr ⟨rfl, rfl⟩
  | some credentials => exact .inl ⟨rfl, rfl⟩

theorem splits_uri {c : Connection} (hn : NamesHost c.hostName) :
    Net.Uri.Splits c.uri.toList c.scheme.toList c.address.toList [] := by
  have hs : c.scheme.toList ≠ [] ∧ c.scheme.toList.all Net.Uri.isSchemeChar = true := by
    rcases scheme_cases c with ⟨he, -⟩ | ⟨he, -⟩
    · rw [he]
      exact ⟨by decide, rfl⟩
    · rw [he]
      exact ⟨by decide, rfl⟩
  refine ⟨?_, hs.1, List.all_eq_true.mp hs.2, ?_, nofun⟩
  · simp [uri]
  · intro ch hc
    exact ((address_isAddressChar hn).1 ch hc).not_end

theorem toDigits_injective {m n : Nat} (h : Nat.toDigits 10 m = Nat.toDigits 10 n) : m = n := by
  have ho (n : Nat) : Nat.ofDigitChars 10 (Nat.toDigits 10 n) 0 = n :=
    Nat.ofDigitChars_toDigits (by decide) (by decide)
  rw [← ho m, h, ho n]

theorem append_port_inj {part part' : List Char} {port port' : UInt16} :
    part ++ ':' :: Nat.toDigits 10 port.toNat = part' ++ ':' :: Nat.toDigits 10 port'.toNat ↔
      part = part' ∧ port = port' := by
  apply Iff.intro
  · intro he
    have hs := splitLast_port part port
    rw [he, splitLast_port, Option.some.injEq, Prod.mk.injEq] at hs
    exact ⟨hs.1.symm, (UInt16.toNat_inj.mp (toDigits_injective hs.2)).symm⟩
  · intro h
    rw [h.1, h.2]

theorem NamesHost.ne_bracket {host : String} (hn : NamesHost host)
    (hv : ∀ ip, ¬Ipv6.Literal ip host.toList) (rest : List Char) : host.toList ≠ '[' :: rest := by
  intro he
  have hc := (hn.hostChars hv).2 '[' (he ▸ .head rest)
  revert hc
  decide

theorem sameHost_iff {host host' : String} {ip ip' : Ipv6} (h : Ipv6.Literal ip host.toList)
    (h' : Ipv6.Literal ip' host'.toList) : SameHost host host' ↔ ip = ip' := by
  apply Iff.intro
  · intro hs
    rcases hs with rfl | ⟨w, hw, hw'⟩
    · exact h.eq h'
    · exact (h.eq hw).trans (hw'.eq h')
  · intro he
    exact .inr ⟨ip, h, he ▸ h'⟩

theorem HostPart.eq_iff {host host' : String} {part part' : List Char} (h : HostPart host part)
    (h' : HostPart host' part') (hn : NamesHost host) (hn' : NamesHost host') :
    part = part' ↔ SameHost host host' := by
  cases h with
  | @ipv6 ip h =>
    cases h' with
    | @ipv6 ip' h' =>
      rw [sameHost_iff h h']
      apply Iff.intro
      · intro he
        exact Ipv6.render_injective (by simpa using he)
      · intro he
        rw [he]
    | verbatim hv =>
      refine ⟨fun he => absurd he.symm (hn'.ne_bracket hv _), ?_⟩
      intro hs
      rcases hs with rfl | ⟨w, -, hw⟩
      · exact absurd h (hv ip)
      · exact absurd hw (hv w)
  | verbatim hv =>
    cases h' with
    | @ipv6 ip' h' =>
      refine ⟨fun he => absurd he (hn.ne_bracket hv _), ?_⟩
      intro hs
      rcases hs with rfl | ⟨w, hw, -⟩
      · exact absurd h' (hv ip')
      · exact absurd hw (hv w)
    | verbatim hv' =>
      apply Iff.intro
      · intro he
        exact .inl (String.toList_inj.mp he)
      · intro hs
        rcases hs with rfl | ⟨w, hw, -⟩
        · rfl
        · exact absurd hw (hv w)

theorem address_eq_iff {c c' : Connection} (hn : NamesHost c.hostName)
    (hn' : NamesHost c'.hostName) :
    c.address = c'.address ↔ c.port = c'.port ∧ SameHost c.hostName c'.hostName := by
  rw [← (hostPart_hostText c.hostName).eq_iff (hostPart_hostText c'.hostName) hn hn',
    ← String.toList_inj, toList_address, toList_address, append_port_inj, and_comm]

/-- What can be relied on in the address and the URI of a connection. -/
structure Addressed (c : Connection) : Prop where
  host : (∃ ip, Ipv6.Literal ip c.hostName.toList) ∨
    c.hostName ≠ "" ∧ ∀ ch ∈ c.hostName.toList, IsHostChar ch ∧ ¬IsForeign ch
  unfit_iff : ∀ ch ∈ c.hostName.toList, Net.Uri.isAuthorityChar ch = false ↔ ch = '\\'
  provision_of_backslash : c.credentials = none → '\\' ∈ c.hostName.toList →
    ∀ (p : Provisioner) (conditions : Conditions),
      (p.provision conditions c).1 = .error (.channel c.address .uri)
  provision_of_no_backslash : c.credentials = none → '\\' ∉ c.hostName.toList →
    ∀ (p : Provisioner) (conditions : Conditions),
      ∃ channel, (p.provision conditions c).1 = .ok channel
  split : ∃ part, HostPart c.hostName part ∧
    Text.splitLast? ':' c.address.toList = some (part, Nat.toDigits 10 c.port.toNat)
  scheme_https_iff : c.scheme = "https" ↔ c.credentials.isSome
  scheme_http_iff : c.scheme = "http" ↔ c.credentials = none
  uri : Net.Uri.Splits c.uri.toList c.scheme.toList c.address.toList []
  afterAuthority_uri : Net.Uri.afterAuthority c.uri.toList = []

theorem NamesHost.addressed {c : Connection} (hn : NamesHost c.hostName) : Addressed c := by
  have hb := isAuthority_address_iff hn
  constructor
  case host =>
    by_cases hi : ∃ ip, Ipv6.Literal ip c.hostName.toList
    · exact .inl hi
    · obtain ⟨he, hc⟩ := hn.hostChars (not_exists.mp hi)
      exact .inr ⟨he, fun ch hm => ⟨hc ch hm, not_isForeign (hc ch hm)⟩⟩
  case unfit_iff =>
    intro ch hc
    exact (hn.isAddressChar ch hc).isAuthorityChar_iff
  case provision_of_backslash =>
    intro hc hm p conditions
    have hf := Provisioner.fault_of_plaintext hc
    rw [if_neg (fun ha => hb.mp ha hm)] at hf
    rw [Provisioner.provision_of_fault hf]
  case provision_of_no_backslash =>
    intro hc hm p conditions
    have hf := Provisioner.fault_of_plaintext hc
    rw [if_pos (hb.mpr hm)] at hf
    rw [Provisioner.provision_of_plaintext hf hc]
    exact ⟨_, rfl⟩
  case split => exact ⟨_, hostPart_hostText c.hostName, splitLast_address c⟩
  case scheme_https_iff =>
    rcases scheme_cases c with ⟨he, hc⟩ | ⟨he, hc⟩
    · simp [he, hc]
    · simp [he, hc]
  case scheme_http_iff =>
    rcases scheme_cases c with ⟨he, hc⟩ | ⟨he, hc⟩
    · simp [he, Option.isSome_iff_ne_none.mp hc]
    · simp [he, hc]
  case uri => exact splits_uri hn
  case afterAuthority_uri => exact (splits_uri hn).afterAuthority_eq

/-- No character of a host parts the address, so equal addresses have one port and the same host. -/
theorem Obtainable.addressed_and_address_eq_iff {c c' : Connection} (h : Obtainable c)
    (h' : Obtainable c') :
    Addressed c ∧ (c.address = c'.address ↔ c.port = c'.port ∧ SameHost c.hostName c'.hostName) :=
  ⟨h.namesHost.addressed, address_eq_iff h.namesHost h'.namesHost⟩

/-- A host with an escape has no plaintext channel, and one address may be written in two ways. -/
theorem addressed_and_address_eq_iff_escaped :
    (Provisioner.provision {} ⟨.established, .live⟩ ⟨"a\\b", 80, none⟩).1 =
        .error (.channel "a\\b:80" .uri) ∧
      address ⟨"0:0::1", 80, none⟩ = address ⟨"::1", 80, some {}⟩ := by
  have hp : ofParts "a\\b" 80 = .ok ⟨"a\\b", 80, none⟩ := by decide +kernel
  have hlp : ofParts "0:0::1" 80 = .ok ⟨"0:0::1", 80, none⟩ := rfl
  have hsp : ofParts "::1" 80 = .ok ⟨"::1", 80, none⟩ := rfl
  have h := Obtainable.ofParts hp
  have hl := Obtainable.ofParts hlp
  have hs := Obtainable.ofParts hsp
  have ha := (h.addressed_and_address_eq_iff h).1
  have he := (hl.addressed_and_address_eq_iff (hs.withCredentials {})).2
  let ip : Ipv6 := ⟨[0, 0, 0, 0, 0, 0, 0, 1], rfl⟩
  have hr : SameHost "0:0::1" "::1" :=
    .inr ⟨ip, Ipv6.parse_eq_some_iff.mp (by decide), Ipv6.parse_eq_some_iff.mp (by decide)⟩
  exact ⟨ha.provision_of_backslash rfl (by decide) _ _, he.mpr ⟨rfl, hr⟩⟩

end Connection
end Locator
