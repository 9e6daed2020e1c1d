import Locator.Proofs.Address
import Locator.Proofs.Net.Ipv6.Compression

namespace Locator.Connection

open Net (Ipv6)

theorem namesHost_of_literal {host : String} {ip : Ipv6} (h : Ipv6.Literal ip host.toList) :
    NamesHost host :=
  .address (.v6 ip) (.v6 h)

theorem ofParts_of_literal {host : String} {ip : Ipv6} {port : UInt16}
    (h : Ipv6.Literal ip host.toList) (hp : port ≠ 0) :
    ofParts host port = .ok ⟨host, port, none⟩ :=
  ofParts_eq_ok_iff.mpr ⟨namesHost_of_literal h, hp, rfl⟩

theorem toList_address_of_literal {c : Connection} {ip : Ipv6}
    (h : Ipv6.Literal ip c.hostName.toList) :
    c.address.toList = '[' :: (ip.render ++ ']' :: ':' :: Nat.toDigits 10 c.port.toNat) := by
  have ht : (hostText c.hostName).toList = '[' :: (ip.render ++ [']']) := by
    simp [hostText, Net.Ip.parse_eq_some_iff.mpr (.v6 h)]
  simp [toList_address, ht]

theorem literal_ofList_render (ip : Ipv6) : Ipv6.Literal ip (String.ofList ip.render).toList := by
  rw [String.toList_ofList]
  exact ip.literal_render

theorem address_eq_iff_of_literal {c c' : Connection} {ip ip' : Ipv6}
    (h : Ipv6.Literal ip c.hostName.toList) (h' : Ipv6.Literal ip' c'.hostName.toList) :
    c.address = c'.address ↔ ip = ip' ∧ c.port = c'.port := by
  rw [address_eq_iff (namesHost_of_literal h) (namesHost_of_literal h'), sameHost_iff h h',
    and_comm]

/-- The address of a connection whose host means `ip`, by the canonical text of `ip`. -/
structure Canonicalised (c : Connection) (ip : Ipv6) (text : List Char) : Prop where
  canonical_iff : ∀ other, ip.Canonical other ↔ other = text
  address_eq : c.address.toList = '[' :: (text ++ ']' :: ':' :: Nat.toDigits 10 c.port.toNat)
  parse_eq : Net.Ip.parse? text = some (.v6 ip)
  -- the canonical text is a host too, and stays as it is
  again : ∃ c', ofParts (String.ofList text) c.port = .ok c' ∧ c'.address = c.address
  address_eq_iff : ∀ (host : String) (ip' : Ipv6) (port : UInt16) (c' : Connection),
    Net.Ip.parse? host.toList = some (.v6 ip') → ofParts host port = .ok c' →
      (c.address = c'.address ↔ ip = ip' ∧ c.port = port)

theorem canonicalised {c : Connection} {ip : Ipv6} (h : Ipv6.Literal ip c.hostName.toList)
    (hp : c.port ≠ 0) : Canonicalised c ip ip.render where
  canonical_iff _ := Ipv6.canonical_iff
  address_eq := toList_address_of_literal h
  parse_eq := Net.Ip.parse_eq_some_iff.mpr (.v6 ip.literal_render)
  again := by
    have hr := literal_ofList_render ip
    exact ⟨_, ofParts_of_literal hr hp, (address_eq_iff_of_literal hr h).mpr ⟨rfl, rfl⟩⟩
  address_eq_iff host ip' port c' hi hc := by
    obtain ⟨-, -, he⟩ := ofParts_eq_ok_iff.mp hc
    cases Net.Ip.parse_eq_some_iff.mp hi with
    | v6 h' =>
      rw [he]
      exact address_eq_iff_of_literal h h'

/-- The text is kept as the host, and the address has the canonical text of what it means. -/
theorem ofParts_canonicalised {host : String} {ip : Ipv6} {port : UInt16}
    (h : Net.Ip.parse? host.toList = some (.v6 ip)) (hp : port ≠ 0) :
    ∃ c text, ofParts host port = .ok c ∧ c.hostName = host ∧ c.port = port ∧
      Canonicalised c ip text := by
  cases Net.Ip.parse_eq_some_iff.mp h with
  | v6 h => exact ⟨⟨host, port, none⟩, _, ofParts_of_literal h hp, rfl, rfl, canonicalised h hp⟩

theorem ofParts_canonicalised_two_runs :
    ∃ c, ofParts "2001:DB8:0:0:1::01" 80 = .ok c ∧ c.address = "[2001:db8::1:0:0:1]:80" ∧
      ∃ c', ofParts "2001:db8::1:0:0.0.0.1" 80 = .ok c' ∧ c.address = c'.address := by
  let ip : Ipv6 := ⟨[0x2001, 0xDB8, 0, 0, 1, 0, 0, 1], rfl⟩
  have hi : Net.Ip.parse? "2001:DB8:0:0:1::01".toList = some (.v6 ip) := by decide +kernel
  have hi' : Net.Ip.parse? "2001:db8::1:0:0.0.0.1".toList = some (.v6 ip) := by decide +kernel
  have hp : (80 : UInt16) ≠ 0 := by decide
  obtain ⟨c, text, hc, -, hport, h⟩ := ofParts_canonicalised hi hp
  obtain ⟨c', -, hc', -⟩ := ofParts_canonicalised hi' hp
  have ht : "2001:db8::1:0:0:1".toList = text :=
    (h.canonical_iff _).mp (Ipv6.canonical_iff.mpr (by decide +kernel))
  refine ⟨c, hc, ?_, c', hc', (h.address_eq_iff _ _ _ _ hi' hc').mpr ⟨rfl, hport⟩⟩
  apply String.toList_inj.mp
  rw [h.address_eq, ← ht, hport]
  decide +kernel

end Locator.Connection
