import Locator.Proofs.Address.Canonical
import Locator.Proofs.Location

namespace Locator

open Net (Ipv6)

namespace Location

theorem toList_authority (l : Location) :
    l.authority.toList = l.hostName.toList ++ ':' :: Nat.toDigits 10 l.port.toNat := by
  simp [authority, toString]

theorem authority_ne_address {l : Location} {ip : Ipv6} (h : Ipv6.Literal ip l.hostName.toList)
    (c : Connection) : l.authority ≠ c.address := by
  intro he
  rw [← String.toList_inj, toList_authority, Connection.toList_address,
    Connection.append_port_inj] at he
  exact (Connection.hostPart_hostText c.hostName).not_literal ip (he.1 ▸ h)

structure Endpoint (e : Entry) (l : Location) (c : Connection) : Prop where
  authority_eq : l.authority.toList = e.hostName.toList ++ ':' :: Nat.toDigits 10 e.port.toInt.toNat
  address_eq : ∀ ip, Ipv6.Literal ip e.hostName.toList → ∀ text, ip.Canonical text →
    c.address.toList = '[' :: (text ++ ']' :: ':' :: Nat.toDigits 10 e.port.toInt.toNat)
  authority_eq_iff : l.authority = c.address ↔ ∀ ip, ¬Ipv6.Literal ip e.hostName.toList
  authority_ne : ∀ ip, Ipv6.Literal ip e.hostName.toList →
    ∀ c' : Connection, l.authority ≠ c'.address

/-- The two are equal exactly when the host is no address of version 6. -/
theorem endpoint_of_entry {e : Entry} {l : Location} {c : Connection} (h : ofEntry e = .ok l)
    (hc : Connection.ofParts l.hostName l.port = .ok c) : Endpoint e l c := by
  obtain ⟨-, -, rfl⟩ := Connection.ofParts_eq_ok_iff.mp hc
  have hl := carries_of_ofEntry h
  have hp : e.port.toInt.toNat = l.port.toNat := by
    rw [← hl.port_eq, Int.toNat_natCast]
  constructor
  case authority_eq => rw [toList_authority, hl.hostName_eq, hp]
  case address_eq =>
    intro ip hi text ht
    rw [Ipv6.canonical_iff.mp ht, hp]
    exact Connection.toList_address_of_literal (hl.hostName_eq ▸ hi)
  case authority_eq_iff =>
    apply Iff.intro
    · intro he ip hi
      exact authority_ne_address (hl.hostName_eq ▸ hi) _ he
    · intro hn
      apply String.toList_inj.mp
      rw [toList_authority, Connection.toList_address_of_verbatim (hl.hostName_eq ▸ hn)]
  case authority_ne =>
    intro ip hi c'
    exact authority_ne_address (hl.hostName_eq ▸ hi) c'

theorem endpoint_of_entry_name_and_ipv6 :
    authority ⟨"Quality", "h1", 8080, ""⟩ = Connection.address ⟨"h1", 8080, none⟩ ∧
      authority ⟨"Quality", "2001:DB8::01", 443, ""⟩ ≠
        Connection.address ⟨"2001:DB8::01", 443, none⟩ := by
  let name : Entry := { serviceName := "Quality", hostName := "h1", port := 8080 }
  let literal : Entry := { serviceName := "Quality", hostName := "2001:DB8::01", port := 443 }
  let ip : Ipv6 := ⟨[0x2001, 0xDB8, 0, 0, 0, 0, 0, 1], rfl⟩
  have hn : ofEntry name = .ok ⟨"Quality", "h1", 8080, ""⟩ := by decide
  have hl : ofEntry literal = .ok ⟨"Quality", "2001:DB8::01", 443, ""⟩ := by decide
  have hnc : Connection.ofParts "h1" 8080 = .ok ⟨"h1", 8080, none⟩ := by decide +kernel
  have hlc : Connection.ofParts "2001:DB8::01" 443 = .ok ⟨"2001:DB8::01", 443, none⟩ := by
    decide +kernel
  have hi : Ipv6.Literal ip "2001:DB8::01".toList := Ipv6.parse_eq_some_iff.mp (by decide +kernel)
  have hv : ∀ ip, ¬Ipv6.Literal ip "h1".toList := by
    intro ip h
    have hp : Ipv6.parse? "h1".toList = none := by decide +kernel
    cases hp.symm.trans (Ipv6.parse_eq_some_iff.mpr h)
  exact ⟨(endpoint_of_entry hn hnc).authority_eq_iff.mpr hv,
    (endpoint_of_entry hl hlc).authority_ne ip hi _⟩

/-- A host of version 6 and the port run into each other in an authority. -/
theorem authority_ne_address_loopback :
    ¬∀ (e : Entry) (l : Location) (c : Connection), ofEntry e = .ok l →
      Connection.ofParts l.hostName l.port = .ok c → l.authority = c.address := by
  intro h
  let loopback : Entry := { serviceName := "Quality", hostName := "::1", port := 8080 }
  have hl : ofEntry loopback = .ok ⟨"Quality", "::1", 8080, ""⟩ := by decide
  have hc : Connection.ofParts "::1" 8080 = .ok ⟨"::1", 8080, none⟩ := by decide +kernel
  have ha := h _ _ _ hl hc
  have hne : authority ⟨"Quality", "::1", 8080, ""⟩ ≠ Connection.address ⟨"::1", 8080, none⟩ := by
    decide +kernel
  exact hne ha

end Location
end Locator
