import Locator.Proofs.Net.Ipv6.Canonical

namespace Locator.Net.Ipv6

/-- The shortest spelling of a group: no zero in front of another digit, and all in lower case. -/
structure Spelled (field : List Char) (group : UInt16) : Prop where
  group : Group field group
  lower : ∀ c ∈ field, ¬c.isUpper
  head : field.head? = some '0' → field.length = 1

/-- As many zero groups as in any other run, and more than in any run in front of it. -/
structure LeftOut (groups high low : List UInt16) (missing : Nat) : Prop where
  groups_eq : groups = high ++ List.replicate missing 0 ++ low
  two_le : 2 ≤ missing
  longest : ∀ before n after, groups = before ++ List.replicate n 0 ++ after → n ≤ missing
  first : ∀ before n after, groups = before ++ List.replicate n 0 ++ after →
    before.length < high.length → n < missing

def Mapped (ip : Ipv6) (v4 : Ipv4) : Prop :=
  ∃ high low : UInt16, ip.groups = [0, 0, 0, 0, 0, 0xFFFF, high, low] ∧
    high.toNat = 256 * v4.a.toNat + v4.b.toNat ∧ low.toNat = 256 * v4.c.toNat + v4.d.toNat

inductive Canonical (ip : Ipv6) : List Char → Prop
  | mapped {v4 : Ipv4} (h : ip.Mapped v4) : Canonical ip ("::ffff:".toList ++ v4.render)
  | gap {before after : List (List Char)} {high low : List UInt16} {missing : Nat}
      (hm : ∀ v4, ¬ip.Mapped v4) (hg : LeftOut ip.groups high low missing)
      (hb : List.Forall₂ Spelled before high) (ha : List.Forall₂ Spelled after low) :
      Canonical ip ([':'].intercalate before ++ ':' :: ':' :: [':'].intercalate after)
  | full {fields : List (List Char)} (hm : ∀ v4, ¬ip.Mapped v4)
      (hn : ∀ before n after, ip.groups = before ++ List.replicate n 0 ++ after → n < 2)
      (hf : List.Forall₂ Spelled fields ip.groups) : Canonical ip ([':'].intercalate fields)

theorem lower_toDigits (n : Nat) :
    (∀ c ∈ Nat.toDigits 16 n, ¬c.isUpper) ∧ ((Nat.toDigits 16 n).head? = some '0' → n = 0) := by
  have hd : ∀ d < 16, ¬(Nat.digitChar d).isUpper ∧ (Nat.digitChar d = '0' → d = 0) := by decide
  induction n using Nat.strongRecOn with
  | ind n ih =>
    by_cases hn : n < 16
    · rw [Nat.toDigits_of_lt_base hn]
      simpa using hd n hn
    · obtain ⟨hl, hh⟩ := ih (n / 16) (by omega)
      have hm : n % 16 < 16 := Nat.mod_lt n (by decide)
      rw [Nat.toDigits_of_base_le (by decide) (Nat.not_lt.mp hn),
        List.head?_append_of_ne_nil _ Nat.toDigits_ne_nil]
      apply And.intro
      · intro c hc
        rcases List.mem_append.mp hc with hc | hc
        · exact hl c hc
        · rw [List.mem_singleton.mp hc]
          exact (hd _ hm).1
      · intro h
        have hz := hh h
        omega

theorem spelled_toDigits (group : UInt16) : Spelled (Nat.toDigits 16 group.toNat) group where
  group := group_toDigits group
  lower := (lower_toDigits group.toNat).1
  head h := by
    rw [(lower_toDigits group.toNat).2 h]
    rfl

theorem digitChar_of_lower {c : Char} {d : Nat} (h : digit? c = some d) (hl : ¬c.isUpper) :
    Nat.digitChar d = c := by
  have hc : c.toNat < 128 := by
    have := digit_cases h
    omega
  have hd : c.isUpper = false → (digit? c).map Nat.digitChar = (digit? c).map fun _ => c :=
    Text.forall_ascii
      (P := fun c => c.isUpper = false →
        (digit? c).map Nat.digitChar = (digit? c).map fun _ => c)
      (by decide +kernel) hc
  rw [h] at hd
  simpa using hd (by simpa using hl)

theorem map_digitChar {field : List Char} {digits : List Nat}
    (h : List.Forall₂ (fun c d => digit? c = some d) field digits) (hl : ∀ c ∈ field, ¬c.isUpper) :
    (∀ d ∈ digits, d < 16) ∧ digits.map Nat.digitChar = field := by
  induction h with
  | nil => exact ⟨nofun, rfl⟩
  | cons hd _ ih =>
    obtain ⟨hc, hr⟩ := List.forall_mem_cons.mp hl
    obtain ⟨hlt, hm⟩ := ih hr
    rw [List.map_cons, digitChar_of_lower hd hc, hm]
    exact ⟨List.forall_mem_cons.mpr ⟨digit_lt hd, hlt⟩, rfl⟩

theorem Spelled.eq_toDigits {field : List Char} {group : UInt16} (h : Spelled field group) :
    field = Nat.toDigits 16 group.toNat := by
  obtain ⟨digits, hd, hv⟩ := h.group.value
  obtain ⟨hlt, hm⟩ := map_digitChar hd h.lower
  rw [hv]
  cases digits with
  | nil => exact absurd hm.symm h.group.ne_nil
  | cons d digits =>
    obtain ⟨hdlt, hlt⟩ := List.forall_mem_cons.mp hlt
    rw [List.foldl_cons, Nat.mul_zero, Nat.zero_add, ← hm]
    by_cases hz : d = 0
    · -- a zero in front is the only digit
      have hlen := h.head (by rw [← hm, hz]; rfl)
      rw [← hm, List.length_map] at hlen
      rw [List.length_eq_zero_iff.mp (Nat.succ.inj hlen), hz]
      rfl
    · rw [Text.toDigits_foldl (by decide) (Nat.pos_of_ne_zero hz) hlt,
        Nat.toDigits_of_lt_base hdlt]
      rfl

theorem forall_spelled_iff {fields : List (List Char)} {groups : List UInt16} :
    List.Forall₂ Spelled fields groups ↔ fields = hexFields groups := by
  apply Iff.intro
  · intro h
    induction h with
    | nil => rfl
    | cons hs _ ih => rw [hs.eq_toDigits, ih, hexFields, hexFields, List.map_cons]
  · intro h
    rw [h]
    induction groups generalizing fields with
    | nil => exact .nil
    | cons group groups ih => exact .cons (spelled_toDigits group) (ih rfl)

theorem le_zeros (n : Nat) (groups : List UInt16) : n ≤ zeros (List.replicate n 0 ++ groups) := by
  rw [zeros, List.takeWhile_append_of_pos (by simp), List.length_append, List.length_replicate]
  exact Nat.le_add_right ..

/-- No other place has a higher score, and those in front have a lower one. -/
theorem foldl_first_best (score : Nat → Nat) (k : Nat) :
    let best := (List.range k).foldl
      (fun best start => if best.2 < score start then (start, score start) else best) (0, 0)
    (∀ i < k, score i ≤ best.2) ∧ ∀ i < best.1, score i < best.2 := by
  induction k with
  | zero => exact ⟨nofun, nofun⟩
  | succ k ih =>
    obtain ⟨hle, hlt⟩ := ih
    rw [List.range_succ, List.foldl_append, List.foldl_cons, List.foldl_nil]
    generalize (List.range k).foldl
      (fun best start => if best.2 < score start then (start, score start) else best) (0, 0) =
      best at hle hlt
    by_cases hk : best.2 < score k
    · rw [if_pos hk]
      refine ⟨?_, fun i hi => Nat.lt_of_le_of_lt (hle i hi) hk⟩
      intro i hi
      rcases Nat.lt_succ_iff_lt_or_eq.mp hi with hi | rfl
      · exact Nat.le_of_lt (Nat.lt_of_le_of_lt (hle i hi) hk)
      · exact Nat.le_refl _
    · rw [if_neg hk]
      refine ⟨?_, hlt⟩
      intro i hi
      rcases Nat.lt_succ_iff_lt_or_eq.mp hi with hi | rfl
      · exact hle i hi
      · exact Nat.not_lt.mp hk

theorem longestRun_best {groups before after : List UInt16} {n : Nat}
    (h : groups = before ++ List.replicate n 0 ++ after) :
    n ≤ (longestRun groups).2 ∧
      (before.length < (longestRun groups).1 → n < (longestRun groups).2) := by
  obtain ⟨hle, hlt⟩ := foldl_first_best (fun start => zeros (groups.drop start)) groups.length
  have hz : n ≤ zeros (groups.drop before.length) := by
    rw [h, List.append_assoc, List.drop_left]
    exact le_zeros n after
  refine ⟨?_, fun hb => Nat.lt_of_le_of_lt hz (hlt _ hb)⟩
  by_cases hb : before.length < groups.length
  · exact Nat.le_trans hz (hle _ hb)
  · -- a run that begins behind the last group is empty
    rw [List.drop_eq_nil_of_le (Nat.not_lt.mp hb)] at hz
    exact Nat.le_trans hz (Nat.zero_le _)

theorem leftOut_longestRun {groups : List UInt16} (h : 2 ≤ (longestRun groups).2) :
    LeftOut groups (groups.take (longestRun groups).1)
      (groups.drop ((longestRun groups).1 + (longestRun groups).2)) (longestRun groups).2 where
  groups_eq := by
    have hle := longestRun_le groups
    rw [List.append_assoc, ← List.drop_drop, ← eq_replicate_append_drop hle,
      List.take_append_drop]
  two_le := h
  longest _ _ _ he := (longestRun_best he).1
  first _ _ _ he hb := by
    apply (longestRun_best he).2
    exact Nat.lt_of_lt_of_le hb (List.length_take_le ..)

theorem LeftOut.unique {groups high low high' low' : List UInt16} {missing missing' : Nat}
    (h : LeftOut groups high low missing) (h' : LeftOut groups high' low' missing') :
    high = high' ∧ low = low' := by
  have hn : missing = missing' :=
    Nat.le_antisymm (h'.longest _ _ _ h.groups_eq) (h.longest _ _ _ h'.groups_eq)
  subst hn
  have hl : high.length = high'.length := by
    apply Nat.le_antisymm
    · exact Nat.not_lt.mp fun hlt => Nat.lt_irrefl _ (h.first _ _ _ h'.groups_eq hlt)
    · exact Nat.not_lt.mp fun hlt => Nat.lt_irrefl _ (h'.first _ _ _ h.groups_eq hlt)
  have he := h.groups_eq.symm.trans h'.groups_eq
  rw [List.append_assoc, List.append_assoc] at he
  obtain ⟨hh, ht⟩ := List.append_inj he hl
  exact ⟨hh, List.append_cancel_left ht⟩

theorem Mapped.mapped_ne_none {ip : Ipv6} {v4 : Ipv4} (h : ip.Mapped v4) : ip.mapped? ≠ none := by
  obtain ⟨high, low, hg, -, -⟩ := h
  simp [mapped?, hg]

theorem Mapped.unique {ip : Ipv6} {v4 v4' : Ipv4} (h : ip.Mapped v4) (h' : ip.Mapped v4') :
    v4 = v4' := by
  obtain ⟨high, low, hg, hh, hl⟩ := h
  obtain ⟨high', low', hg', hh', hl'⟩ := h'
  rw [hg] at hg'
  cases hg'
  obtain ⟨a, b, c, d⟩ := v4
  obtain ⟨a', b', c', d'⟩ := v4'
  have hb := b.toNat_lt
  have hb' := b'.toNat_lt
  have hd := d.toNat_lt
  have hd' := d'.toNat_lt
  simp only [Ipv4.mk.injEq, ← UInt8.toNat_inj]
  simp only at hh hl hh' hl'
  omega

theorem canonical_render (ip : Ipv6) : Canonical ip ip.render := by
  unfold render
  split
  · next v4 hm => exact .mapped (mapped_eq_some hm)
  · next hm =>
    have hn : ∀ v4, ¬ip.Mapped v4 := fun v4 h => h.mapped_ne_none hm
    simp only
    split
    · next hr =>
      rw [join_eq, join_eq]
      exact .gap hn (leftOut_longestRun hr) (forall_spelled_iff.mpr rfl)
        (forall_spelled_iff.mpr rfl)
    · next hr =>
      rw [join_eq]
      refine .full hn ?_ (forall_spelled_iff.mpr rfl)
      intro before n after he
      exact Nat.lt_of_le_of_lt (longestRun_best he).1 (Nat.not_le.mp hr)

theorem Canonical.unique {ip : Ipv6} {text text' : List Char} (h : Canonical ip text)
    (h' : Canonical ip text') : text = text' := by
  cases h with
  | mapped hm =>
    cases h' with
    | mapped hm' => rw [hm.unique hm']
    | gap hn => exact absurd hm (hn _)
    | full hn => exact absurd hm (hn _)
  | gap hn hg hb ha =>
    cases h' with
    | mapped hm => exact absurd hm (hn _)
    | gap _ hg' hb' ha' =>
      obtain ⟨rfl, rfl⟩ := hg.unique hg'
      rw [forall_spelled_iff.mp hb, forall_spelled_iff.mp ha, forall_spelled_iff.mp hb',
        forall_spelled_iff.mp ha']
    | full _ hs => exact absurd hg.two_le (Nat.not_le.mpr (hs _ _ _ hg.groups_eq))
  | full hn hs hf =>
    cases h' with
    | mapped hm => exact absurd hm (hn _)
    | gap _ hg => exact absurd hg.two_le (Nat.not_le.mpr (hs _ _ _ hg.groups_eq))
    | full _ _ hf' => rw [forall_spelled_iff.mp hf, forall_spelled_iff.mp hf']

/-- An address has one canonical text, the one that it is written as. -/
theorem canonical_iff {ip : Ipv6} {text : List Char} : Canonical ip text ↔ text = ip.render :=
  ⟨fun h => h.unique ip.canonical_render, fun h => h ▸ ip.canonical_render⟩

example : render ⟨[0x2001, 0xDB8, 0, 0, 1, 0, 0, 1], rfl⟩ = "2001:db8::1:0:0:1".toList ∧
    render ⟨[0x2001, 0xDB8, 0, 1, 1, 1, 1, 1], rfl⟩ = "2001:db8:0:1:1:1:1:1".toList := by
  decide +kernel

end Locator.Net.Ipv6
