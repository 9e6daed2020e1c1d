import Locator.Proofs.Net.Ipv6

namespace Locator.Net.Ipv6

theorem hexadecimal_append (high : Nat) (a b : List Char) :
    hexadecimal? high (a ++ b) = (hexadecimal? high a).bind fun n => hexadecimal? n b := by
  induction a generalizing high with
  | nil => rfl
  | cons c a ih =>
    rw [List.cons_append, hexadecimal?, hexadecimal?]
    cases digit? c with
    | none => rfl
    | some d => exact ih (16 * high + d)

theorem digit_digitChar {d : Nat} (h : d < 16) : digit? (Nat.digitChar d) = some d := by
  revert d
  decide

theorem hexadecimal_toDigits (n : Nat) : hexadecimal? 0 (Nat.toDigits 16 n) = some n := by
  induction n using Nat.strongRecOn with
  | ind n ih =>
    by_cases hn : n < 16
    · rw [Nat.toDigits_of_lt_base hn, hexadecimal?, digit_digitChar hn]
      simp only [hexadecimal?, Nat.mul_zero, Nat.zero_add]
    · have hm : n % 16 < 16 := Nat.mod_lt n (by decide)
      rw [Nat.toDigits_of_base_le (by decide) (Nat.not_lt.mp hn), hexadecimal_append,
        ih (n / 16) (by omega), Option.bind_some, hexadecimal?, digit_digitChar hm]
      simp only [hexadecimal?, Nat.div_add_mod]

theorem group_toDigits (group : UInt16) : Group (Nat.toDigits 16 group.toNat) group := by
  have hl : (Nat.toDigits 16 group.toNat).length ≤ 4 :=
    (Nat.length_toDigits_le_iff (by decide) (by decide)).mpr group.toNat_lt
  have hf : ¬(Nat.toDigits 16 group.toNat = [] ∨ 4 < (Nat.toDigits 16 group.toNat).length) :=
    not_or.mpr ⟨Nat.toDigits_ne_nil, Nat.not_lt.mpr hl⟩
  apply group_eq_some_iff.mp
  rw [group?, if_neg hf, hexadecimal_toDigits, Option.map_some]
  simp

def hexFields (groups : List UInt16) : List (List Char) :=
  groups.map fun group => Nat.toDigits 16 group.toNat

theorem fields_hexFields (dots : Bool) (groups : List UInt16) :
    Fields dots (hexFields groups) groups := by
  induction groups with
  | nil => exact .nil
  | cons group groups ih => exact .group (group_toDigits group) ih

theorem join_eq (groups : List UInt16) : join groups = [':'].intercalate (hexFields groups) := rfl

theorem eq_replicate_append_drop {groups : List UInt16} {n : Nat} (h : n ≤ zeros groups) :
    groups = List.replicate n 0 ++ groups.drop n := by
  induction groups generalizing n with
  | nil =>
    have hn : n = 0 := Nat.le_zero.mp h
    rw [hn]
    rfl
  | cons group groups ih =>
    cases n with
    | zero => rfl
    | succ n =>
      by_cases hg : group = 0
      · have hz : zeros (group :: groups) = zeros groups + 1 := by
          simp [zeros, hg]
        rw [List.replicate_succ, List.cons_append, List.drop_succ_cons, ← ih (by omega), hg]
      · have hz : zeros (group :: groups) = 0 := by
          simp [zeros, hg]
        omega

/-- A run that was found is no longer than the zeros from its place on. -/
theorem longestRun_le (groups : List UInt16) :
    (longestRun groups).2 ≤ zeros (groups.drop (longestRun groups).1) := by
  refine List.foldlRecOn (motive := fun best : Nat × Nat => best.2 ≤ zeros (groups.drop best.1))
    _ _ (Nat.zero_le _) ?_
  intro best hb start _
  split
  · exact Nat.le_refl _
  · exact hb

theorem toNat_eq_octets (group : UInt16) :
    group.toNat = 256 * (group >>> 8).toUInt8.toNat + group.toUInt8.toNat := by
  have hs : (group >>> 8).toNat = group.toNat / 256 := by
    rw [UInt16.toNat_shiftRight]
    exact Nat.shiftRight_eq_div_pow group.toNat 8
  have hd : group.toNat / 256 < 256 := Nat.div_lt_of_lt_mul group.toNat_lt
  rw [UInt16.toNat_toUInt8, UInt16.toNat_toUInt8, hs, Nat.mod_eq_of_lt hd]
  exact (Nat.div_add_mod group.toNat 256).symm

theorem mapped_eq_some {ip : Ipv6} {v4 : Ipv4} (h : ip.mapped? = some v4) :
    ∃ high low : UInt16, ip.groups = [0, 0, 0, 0, 0, 0xFFFF, high, low] ∧
      high.toNat = 256 * v4.a.toNat + v4.b.toNat ∧ low.toNat = 256 * v4.c.toNat + v4.d.toNat := by
  unfold mapped? at h
  split at h
  · next high low hg =>
    cases h
    exact ⟨high, low, hg, toNat_eq_octets high, toNat_eq_octets low⟩
  · cases h

theorem literal_render (ip : Ipv6) : Literal ip ip.render := by
  unfold render
  split
  · next v4 hm =>
    obtain ⟨high, low, hg, hh, hl⟩ := mapped_eq_some hm
    have hf : Group ['f', 'f', 'f', 'f'] 0xFFFF := group_eq_some_iff.mp (by decide)
    have ht : "::ffff:".toList ++ v4.render = [':'].intercalate [] ++ ':' :: ':' ::
        [':'].intercalate [['f', 'f', 'f', 'f'], v4.render] := by
      rw [List.intercalate_cons_cons, List.intercalate_singleton]
      rfl
    rw [ht]
    exact .gap .nil (.group hf (.dotted rfl v4 hh hl)) (by decide : 0 < 5) hg
  · simp only
    split
    · next hr =>
      have hle := longestRun_le ip.groups
      have hp : 0 < (longestRun ip.groups).2 := Nat.lt_of_lt_of_le Nat.two_pos hr
      rw [join_eq, join_eq]
      refine .gap (fields_hexFields false _) (fields_hexFields true _) hp ?_
      rw [List.append_assoc, ← List.drop_drop, ← eq_replicate_append_drop hle,
        List.take_append_drop]
    · rw [join_eq]
      exact .full (fields_hexFields true ip.groups)

theorem parse_render (ip : Ipv6) : parse? ip.render = some ip :=
  parse_eq_some_iff.mpr ip.literal_render

theorem render_injective {ip ip' : Ipv6} (h : ip.render = ip'.render) : ip = ip' := by
  have hp := ip.parse_render
  rw [h, ip'.parse_render] at hp
  exact (Option.some.inj hp).symm

end Locator.Net.Ipv6

namespace Locator.Net

/-- An address of version 4 has a single text, one of version 6 has many. -/
inductive Ip.Literal : Ip → List Char → Prop
  | v4 (ip : Ipv4) : Literal (.v4 ip) ip.render
  | v6 {ip : Ipv6} {text : List Char} (h : Ipv6.Literal ip text) : Literal (.v6 ip) text

theorem Ipv6.Literal.parse_v4 {ip : Ipv6} {text : List Char} (h : Literal ip text) :
    Ipv4.parse? text = none := by
  cases hp : Ipv4.parse? text with
  | none => rfl
  | some v4 =>
    have hc := h.colon_mem
    rw [Ipv4.parse_eq_some_iff.mp hp] at hc
    exact absurd hc (colon_not_mem_render v4)

theorem Ip.parse_eq_some_iff {text : List Char} {ip : Ip} :
    parse? text = some ip ↔ ip.Literal text := by
  apply Iff.intro
  · intro h
    unfold parse? at h
    split at h
    · next v4 hp =>
      cases h
      rw [Ipv4.parse_eq_some_iff.mp hp]
      exact .v4 v4
    · obtain ⟨v6, hp, he⟩ := Option.map_eq_some_iff.mp h
      cases he
      exact .v6 (Ipv6.parse_eq_some_iff.mp hp)
  · intro h
    cases h with
    | v4 ip => rw [parse?, Ipv4.parse_eq_some_iff.mpr rfl]
    | v6 h => rw [parse?, h.parse_v4, Ipv6.parse_eq_some_iff.mpr h, Option.map_some]

theorem Ip.exists_literal_iff {text : List Char} :
    (parse? text).isSome ↔ ∃ ip : Ip, ip.Literal text := by
  rw [Option.isSome_iff_exists]
  exact exists_congr fun _ => parse_eq_some_iff

end Locator.Net
