import Locator.Net.Ip
import Locator.Proofs.Text

namespace Locator.Net.Ipv4

theorem digitChar_of_isDigit {c : Char} (h : c.isDigit) :
    Nat.digitChar (c.toNat - '0'.toNat) = c ∧ c.toNat - '0'.toNat < 10 := by
  have hr := Text.isDigit_iff.mp h
  have hl : c.toNat - '0'.toNat < 10 := by
    change c.toNat - 48 < 10
    omega
  refine ⟨Char.toNat_inj.mp ?_, hl⟩
  rw [Nat.toNat_digitChar_of_lt_ten hl]
  change 48 + (c.toNat - 48) = c.toNat
  omega

theorem toDigits_ofDigitChars {n : Nat} (hn : 0 < n) {digits : List Char}
    (h : ∀ c ∈ digits, c.isDigit) :
    Nat.toDigits 10 (Nat.ofDigitChars 10 digits n) = Nat.toDigits 10 n ++ digits := by
  have hm : (digits.map fun c => c.toNat - '0'.toNat).map Nat.digitChar = digits := by
    rw [List.map_map]
    refine (List.map_congr_left ?_).trans (List.map_id digits)
    intro c hc
    exact (digitChar_of_isDigit (h c hc)).1
  have hl : ∀ d ∈ digits.map fun c => c.toNat - '0'.toNat, d < 10 := by
    intro d hd
    obtain ⟨c, hc, rfl⟩ := List.mem_map.mp hd
    exact (digitChar_of_isDigit (h c hc)).2
  have hf := Text.toDigits_foldl (b := 10) (by decide) hn hl
  rwa [List.foldl_map, hm, ← Nat.ofDigitChars_eq_foldl] at hf

theorem octet_toDigits {n : Nat} (h : n < 256) : octet? (Nat.toDigits 10 n) = some n.toUInt8 := by
  revert n
  decide +kernel

theorem octet_eq_some_iff {digits : List Char} {b : UInt8} :
    octet? digits = some b ↔ digits = Nat.toDigits 10 b.toNat := by
  apply Iff.intro
  · intro h
    unfold octet? at h
    split at h
    · next hd =>
      obtain ⟨hn, _, hdigits, hzero, hle⟩ := hd
      cases h
      have hb : (Nat.ofDigitChars 10 digits 0).toUInt8.toNat = Nat.ofDigitChars 10 digits 0 := by
        rw [Nat.toUInt8_eq, UInt8.toNat_ofNat']
        omega
      rw [hb]
      cases digits with
      | nil => exact absurd rfl hn
      | cons c digits =>
        obtain ⟨hc, hr⟩ := List.forall_mem_cons.mp (List.all_eq_true.mp hdigits)
        obtain ⟨hd, hl⟩ := digitChar_of_isDigit hc
        rw [Nat.ofDigitChars_cons, Nat.mul_zero, Nat.zero_add]
        by_cases hz : c.toNat - '0'.toNat = 0
        · rw [hz] at hd ⊢
          have hlen := hzero (congrArg some hd.symm)
          rw [List.length_cons] at hlen
          have hnil : digits = [] := List.length_eq_zero_iff.mp (by omega)
          rw [hnil, Nat.ofDigitChars_nil, Nat.toDigits_zero, ← hd]
          rfl
        · rw [toDigits_ofDigitChars (Nat.pos_of_ne_zero hz) hr, Nat.toDigits_of_lt_base hl, hd]
          rfl
    · cases h
  · intro h
    rw [h, octet_toDigits b.toNat_lt]
    simp

theorem not_mem_toDigits {c : Char} (hc : c.isDigit = false) (n : Nat) :
    c ∉ Nat.toDigits 10 n := by
  intro h
  cases hc.symm.trans (Nat.isDigit_of_mem_toDigits (by decide) (by decide) h)

def fields (ip : Ipv4) : List (List Char) :=
  [ip.a, ip.b, ip.c, ip.d].map fun b => Nat.toDigits 10 b.toNat

theorem render_eq (ip : Ipv4) : ip.render = ['.'].intercalate ip.fields := by
  simp [render, fields, List.intercalate]

theorem mem_render {c : Char} {ip : Ipv4} (h : c ∈ ip.render) : c = '.' ∨ c.isDigit := by
  rw [render_eq] at h
  rcases Text.mem_intercalate h with hd | ⟨field, hf, hc⟩
  · exact .inl hd
  · obtain ⟨b, _, rfl⟩ := List.mem_map.mp hf
    exact .inr (Nat.isDigit_of_mem_toDigits (by decide) (by decide) hc)

theorem dot_mem_render (ip : Ipv4) : '.' ∈ ip.render := by
  simp [render]

theorem splitOn_render (ip : Ipv4) : ip.render.splitOn '.' = ip.fields := by
  rw [render_eq]
  apply List.splitOn_intercalate
  · intro field hf
    obtain ⟨b, _, rfl⟩ := List.mem_map.mp hf
    exact not_mem_toDigits (by decide) b.toNat
  · exact List.cons_ne_nil _ _

/-- An address is read from the text that it is written as, and from no other. -/
theorem parse_eq_some_iff {text : List Char} {ip : Ipv4} :
    parse? text = some ip ↔ text = ip.render := by
  have ho {b : UInt8} : octet? (Nat.toDigits 10 b.toNat) = some b := octet_eq_some_iff.mpr rfl
  apply Iff.intro
  · intro h
    unfold parse? at h
    split at h
    · next a b c d hs =>
      split at h
      · next a' b' c' d' ha hb hc hd =>
        cases h
        have ht : ['.'].intercalate (text.splitOn '.') = text := List.intercalate_splitOn '.'
        rw [← ht, hs, octet_eq_some_iff.mp ha,
          octet_eq_some_iff.mp hb, octet_eq_some_iff.mp hc, octet_eq_some_iff.mp hd, render_eq]
        rfl
      · cases h
    · cases h
  · intro h
    rw [h, parse?, splitOn_render]
    simp only [fields, List.map_cons, List.map_nil, ho]

end Locator.Net.Ipv4
