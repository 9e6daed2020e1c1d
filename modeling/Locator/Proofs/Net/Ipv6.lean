import Mathlib.Data.List.Forall2
import Locator.Net.Ip
import Locator.Proofs.Net.Ipv4

namespace Locator.Net.Ipv6

/-- A group of one to four hexadecimal digits of either case. -/
structure Group (field : List Char) (group : UInt16) : Prop where
  ne_nil : field ≠ []
  length_le : field.length ≤ 4
  value : ∃ digits, List.Forall₂ (fun c d => digit? c = some d) field digits ∧
    group.toNat = digits.foldl (fun n d => 16 * n + d) 0

/-- Where `dots` allows it, the last field may be dotted, and writes two groups. -/
inductive Fields (dots : Bool) : List (List Char) → List UInt16 → Prop
  | nil : Fields dots [] []
  | group {field : List Char} {group : UInt16} {fields : List (List Char)} {groups : List UInt16}
      (hg : Group field group) (h : Fields dots fields groups) :
      Fields dots (field :: fields) (group :: groups)
  | dotted (hd : dots = true) (ip : Ipv4) {high low : UInt16}
      (hh : high.toNat = 256 * ip.a.toNat + ip.b.toNat)
      (hl : low.toNat = 256 * ip.c.toNat + ip.d.toNat) : Fields dots [ip.render] [high, low]

/-- The texts of an address: eight groups, or fewer around a gap that stands for zeros. -/
inductive Literal (ip : Ipv6) : List Char → Prop
  | full {fields : List (List Char)} (h : Fields true fields ip.groups) :
      Literal ip ([':'].intercalate fields)
  | gap {before after : List (List Char)} {high low : List UInt16} {missing : Nat}
      (hb : Fields false before high) (ha : Fields true after low) (hm : 0 < missing)
      (he : ip.groups = high ++ List.replicate missing 0 ++ low) :
      Literal ip ([':'].intercalate before ++ ':' :: ':' :: [':'].intercalate after)

theorem digit_cases {c : Char} {d : Nat} (h : digit? c = some d) :
    (48 ≤ c.toNat ∧ c.toNat ≤ 57 ∧ d = c.toNat - 48) ∨
      (97 ≤ c.toNat ∧ c.toNat ≤ 102 ∧ d = c.toNat - 97 + 10) ∨
      (65 ≤ c.toNat ∧ c.toNat ≤ 70 ∧ d = c.toNat - 65 + 10) := by
  unfold digit? at h
  split at h
  · next hc =>
    obtain ⟨hl, hh⟩ := Text.isDigit_iff.mp hc
    cases h
    exact .inl ⟨hl, hh, rfl⟩
  · split at h
    · next hc =>
      cases h
      exact .inr (.inl ⟨UInt32.le_iff_toNat_le.mp hc.1, UInt32.le_iff_toNat_le.mp hc.2, rfl⟩)
    · split at h
      · next hc =>
        cases h
        exact .inr (.inr ⟨UInt32.le_iff_toNat_le.mp hc.1, UInt32.le_iff_toNat_le.mp hc.2, rfl⟩)
      · cases h

theorem digit_lt {c : Char} {d : Nat} (h : digit? c = some d) : d < 16 := by
  have hd := digit_cases h
  omega

theorem isAlphanum_of_digit {c : Char} {d : Nat} (h : digit? c = some d) : c.isAlphanum := by
  have hd := digit_cases h
  apply Text.isAlphanum_iff.mpr
  omega

theorem exists_digit_of_isDigit {c : Char} (h : c.isDigit) : ∃ d, digit? c = some d :=
  ⟨_, if_pos h⟩

theorem hexadecimal_eq_some_iff {high n : Nat} {field : List Char} :
    hexadecimal? high field = some n ↔
      ∃ digits, List.Forall₂ (fun c d => digit? c = some d) field digits ∧
        n = digits.foldl (fun n d => 16 * n + d) high := by
  induction field generalizing high with
  | nil => simp [hexadecimal?, eq_comm]
  | cons c field ih =>
    rw [hexadecimal?]
    cases hc : digit? c with
    | none => simp [List.forall₂_cons_left_iff, hc]
    | some d => simp [List.forall₂_cons_left_iff, hc, ih]

theorem foldl_digits_lt {field : List Char} {digits : List Nat}
    (h : List.Forall₂ (fun c d => digit? c = some d) field digits) (n : Nat) :
    digits.foldl (fun n d => 16 * n + d) n < Nat.pow 16 field.length * (n + 1) := by
  induction h generalizing n with
  | nil => simp
  | @cons c d field digits hd _ ih =>
    have hl := digit_lt hd
    have hp : Nat.pow 16 (c :: field).length = Nat.pow 16 field.length * 16 := rfl
    have hm : Nat.pow 16 field.length * (16 * n + d + 1) ≤
        Nat.pow 16 field.length * (16 * (n + 1)) := Nat.mul_le_mul_left _ (by omega)
    rw [List.foldl_cons, hp, Nat.mul_assoc]
    exact Nat.lt_of_lt_of_le (ih _) hm

theorem group_eq_some_iff {field : List Char} {group : UInt16} :
    group? field = some group ↔ Group field group := by
  by_cases hf : field = [] ∨ 4 < field.length
  · rw [group?, if_pos hf]
    refine ⟨nofun, ?_⟩
    intro h
    rcases hf with hn | hl
    · exact absurd hn h.ne_nil
    · exact absurd h.length_le (Nat.not_le.mpr hl)
  · obtain ⟨hn, hl⟩ := not_or.mp hf
    rw [group?, if_neg hf, Option.map_eq_some_iff]
    have hl4 := Nat.not_lt.mp hl
    apply Iff.intro
    · intro h
      obtain ⟨n, hh, he⟩ := h
      obtain ⟨digits, hd, hv⟩ := hexadecimal_eq_some_iff.mp hh
      refine ⟨hn, hl4, digits, hd, ?_⟩
      have hlt := foldl_digits_lt hd 0
      have hp : Nat.pow 16 field.length ≤ Nat.pow 16 4 := Nat.pow_le_pow_right (by decide) hl4
      change Nat.pow 16 field.length ≤ 65536 at hp
      rw [← he, Nat.toUInt16_eq, UInt16.toNat_ofNat', hv]
      omega
    · intro h
      obtain ⟨digits, hd, hv⟩ := h.value
      refine ⟨_, hexadecimal_eq_some_iff.mpr ⟨digits, hd, rfl⟩, ?_⟩
      rw [← hv]
      exact UInt16.ofNat_toNat

theorem Group.exists_digit {field : List Char} {group : UInt16} (h : Group field group) :
    ∀ c ∈ field, ∃ d, digit? c = some d := by
  obtain ⟨digits, hd, -⟩ := h.value
  clear h
  induction hd with
  | nil => exact nofun
  | cons hc _ ih => exact List.forall_mem_cons.mpr ⟨⟨_, hc⟩, ih⟩

theorem Group.not_mem {field : List Char} {group : UInt16} {c : Char} (h : Group field group)
    (hc : digit? c = none) : c ∉ field := by
  intro hm
  obtain ⟨d, hd⟩ := h.exists_digit c hm
  cases hc.symm.trans hd

theorem dotted_eq_some_iff {text : List Char} {groups : List UInt16} :
    dotted? text = some groups ↔ ∃ (ip : Ipv4) (high low : UInt16), text = ip.render ∧
      high.toNat = 256 * ip.a.toNat + ip.b.toNat ∧ low.toNat = 256 * ip.c.toNat + ip.d.toNat ∧
      groups = [high, low] := by
  have hv {a b : UInt8} {group : UInt16} : group.toNat = 256 * a.toNat + b.toNat ↔
      group = (256 * a.toNat + b.toNat).toUInt16 := by
    have ha := a.toNat_lt
    have hb := b.toNat_lt
    rw [← UInt16.toNat_inj, Nat.toUInt16_eq, UInt16.toNat_ofNat',
      Nat.mod_eq_of_lt (by omega)]
  simp only [dotted?, Option.map_eq_some_iff, Ipv4.parse_eq_some_iff, hv]
  apply Iff.intro
  · intro h
    obtain ⟨ip, ht, hg⟩ := h
    exact ⟨ip, _, _, ht, rfl, rfl, hg.symm⟩
  · intro h
    obtain ⟨ip, high, low, ht, hh, hl, hg⟩ := h
    exact ⟨ip, ht, by rw [hg, hh, hl]⟩

theorem groups_eq_some_iff {dots : Bool} {fields : List (List Char)} {groups : List UInt16} :
    groups? dots fields = some groups ↔ Fields dots fields groups := by
  apply Iff.intro
  · intro h
    induction fields generalizing groups with
    | nil =>
      cases h
      exact .nil
    | cons field fields ih =>
      cases fields with
      | nil =>
        rw [groups?] at h
        cases hg : group? field with
        | some group =>
          simp only [hg] at h
          cases h
          exact .group (group_eq_some_iff.mp hg) .nil
        | none =>
          simp only [hg] at h
          split at h
          · next hd =>
            obtain ⟨ip, high, low, ht, hh, hl, hgs⟩ := dotted_eq_some_iff.mp h
            rw [ht, hgs]
            exact .dotted hd ip hh hl
          · cases h
      | cons next fields =>
        rw [groups?] at h
        · split at h
          · next hg hgs =>
            cases h
            exact .group (group_eq_some_iff.mp hg) (ih hgs)
          · cases h
        · exact List.cons_ne_nil next fields
  · intro h
    induction h with
    | nil => rfl
    | @group field group fields groups hg _ ih =>
      have hg' := group_eq_some_iff.mpr hg
      cases fields with
      | nil =>
        cases ih
        simp only [groups?, hg']
      | cons next fields =>
        rw [groups?]
        · simp only [hg', ih]
        · exact List.cons_ne_nil next fields
    | dotted hd ip hh hl =>
      have hg : group? ip.render = none := by
        cases hg : group? ip.render with
        | none => rfl
        | some group =>
          exact absurd ip.dot_mem_render ((group_eq_some_iff.mp hg).not_mem rfl)
      simp only [groups?, hg, if_pos hd]
      exact dotted_eq_some_iff.mpr ⟨ip, _, _, rfl, hh, hl, rfl⟩

theorem colon_not_mem_render (ip : Ipv4) : ':' ∉ ip.render := by
  intro h
  rcases Ipv4.mem_render h with h | h
  · cases h
  · cases h

theorem Fields.field {dots : Bool} {fields : List (List Char)} {groups : List UInt16}
    (h : Fields dots fields groups) : ∀ field ∈ fields, field ≠ [] ∧ ':' ∉ field := by
  induction h with
  | nil => exact nofun
  | group hg _ ih => exact List.forall_mem_cons.mpr ⟨⟨hg.ne_nil, hg.not_mem rfl⟩, ih⟩
  | dotted _ ip _ _ =>
    have hn : ip.render ≠ [] := List.ne_nil_of_mem ip.dot_mem_render
    exact List.forall_mem_cons.mpr ⟨⟨hn, colon_not_mem_render ip⟩, nofun⟩

theorem Fields.length_le {dots : Bool} {fields : List (List Char)} {groups : List UInt16}
    (h : Fields dots fields groups) :
    fields.length ≤ groups.length ∧ groups.length ≤ fields.length + 1 := by
  induction h with
  | nil => exact ⟨Nat.le_refl 0, Nat.zero_le 1⟩
  | group _ _ ih => exact ⟨Nat.succ_le_succ ih.1, Nat.succ_le_succ ih.2⟩
  | dotted => exact ⟨Nat.le_succ 1, Nat.le_refl 2⟩

theorem fields_of_side {dots : Bool} {text : List Char} {groups : List UInt16}
    (h : side? dots text = some groups) :
    ∃ fields, Fields dots fields groups ∧ text = [':'].intercalate fields := by
  unfold side? at h
  split at h
  · next ht =>
    cases h
    exact ⟨[], .nil, ht⟩
  · simp only at h
    split at h
    · exact ⟨_, groups_eq_some_iff.mp h, (List.intercalate_splitOn ':').symm⟩
    · cases h

theorem Fields.side_eq {dots : Bool} {fields : List (List Char)} {groups : List UInt16}
    (h : Fields dots fields groups) (hl : groups.length ≤ 8) :
    side? dots ([':'].intercalate fields) = some groups := by
  by_cases hn : fields = []
  · subst hn
    cases h
    rfl
  · have hs := List.splitOn_intercalate ':' (fun field hf => (h.field field hf).2) hn
    have ht : [':'].intercalate fields ≠ [] := by
      intro he
      rw [he] at hs
      have hf := h.field [] (hs ▸ .head _)
      exact hf.1 rfl
    rw [side?, if_neg ht, hs]
    exact (if_pos (Nat.le_trans h.length_le.1 hl)).trans (groups_eq_some_iff.mpr h)

theorem Fields.mem {dots : Bool} {fields : List (List Char)} {groups : List UInt16}
    (h : Fields dots fields groups) :
    ∀ field ∈ fields, ∀ c ∈ field, c = '.' ∨ ∃ d, digit? c = some d := by
  induction h with
  | nil => exact nofun
  | group hg _ ih =>
    have hf := hg.exists_digit
    exact List.forall_mem_cons.mpr ⟨fun c hc => .inr (hf c hc), ih⟩
  | dotted _ ip _ _ =>
    refine List.forall_mem_cons.mpr ⟨?_, nofun⟩
    intro c hc
    rcases Ipv4.mem_render hc with hd | hd
    · exact .inl hd
    · exact .inr (exists_digit_of_isDigit hd)

theorem eq_of_splitGap {seen text before after : List Char}
    (h : splitGap seen text = some (before, after)) :
    seen.reverse ++ text = before ++ ':' :: ':' :: after := by
  fun_induction splitGap seen text with
  | case1 seen after' =>
    cases h
    rfl
  | case2 seen c text _ ih =>
    have hi := ih h
    rwa [List.reverse_cons, List.append_assoc, List.singleton_append] at hi
  | case3 seen => cases h

theorem splitGap_append {field : List Char} (h : ':' ∉ field) (seen rest : List Char) :
    splitGap seen (field ++ rest) = splitGap (field.reverse ++ seen) rest := by
  induction field generalizing seen with
  | nil => rfl
  | cons c field ih =>
    have hc : c ≠ ':' := fun he => h (he ▸ .head _)
    have hr : ':' ∉ field := fun hm => h (.tail _ hm)
    rw [List.cons_append, splitGap, ih hr, List.reverse_cons, List.append_assoc,
      List.singleton_append]
    intro after he
    cases he
    exact absurd rfl hc

theorem splitGap_colon {c : Char} (h : c ≠ ':') (seen rest : List Char) :
    splitGap seen (':' :: c :: rest) = splitGap (':' :: seen) (c :: rest) := by
  rw [splitGap]
  intro after _ he
  cases he
  exact h rfl

theorem exists_intercalate_cons {field : List Char} (h : field ≠ [] ∧ ':' ∉ field)
    (fields : List (List Char)) :
    ∃ c more, [':'].intercalate (field :: fields) = c :: more ∧ c ≠ ':' := by
  cases field with
  | nil => exact absurd rfl h.1
  | cons c field =>
    have hc : c ≠ ':' := fun he => h.2 (he ▸ .head _)
    exact ⟨c, _, List.intercalate_cons_cons_left, hc⟩

/-- No gap begins among fields that are not empty. -/
theorem splitGap_intercalate {fields : List (List Char)}
    (h : ∀ field ∈ fields, field ≠ [] ∧ ':' ∉ field) (seen rest : List Char) :
    splitGap seen ([':'].intercalate fields ++ rest) =
      splitGap (([':'].intercalate fields).reverse ++ seen) rest := by
  induction fields generalizing seen with
  | nil => rfl
  | cons field fields ih =>
    obtain ⟨hf, hr⟩ := List.forall_mem_cons.mp h
    cases fields with
    | nil =>
      rw [List.intercalate_singleton]
      exact splitGap_append hf.2 seen rest
    | cons next fields =>
      obtain ⟨c, more, hj, hc⟩ := exists_intercalate_cons (hr next (.head _)) fields
      have hi := ih hr (':' :: (field.reverse ++ seen))
      rw [List.intercalate_cons_of_ne_nil (List.cons_ne_nil next fields), List.append_assoc,
        List.append_assoc, splitGap_append hf.2, List.singleton_append]
      rw [hj, List.cons_append] at hi ⊢
      rw [splitGap_colon hc, hi]
      simp

theorem Fields.splitGap_eq_none {dots : Bool} {fields : List (List Char)} {groups : List UInt16}
    (h : Fields dots fields groups) : splitGap [] ([':'].intercalate fields) = none := by
  have hs := splitGap_intercalate h.field [] []
  rw [List.append_nil] at hs
  rw [hs, splitGap]

theorem Fields.splitGap_eq_some {dots : Bool} {fields : List (List Char)} {groups : List UInt16}
    (h : Fields dots fields groups) (after : List Char) :
    splitGap [] ([':'].intercalate fields ++ ':' :: ':' :: after) =
      some ([':'].intercalate fields, after) := by
  rw [splitGap_intercalate h.field, splitGap, List.append_nil, List.reverse_reverse]

theorem ofGroups_eq_some_iff {groups : List UInt16} {ip : Ipv6} :
    ofGroups? groups = some ip ↔ ip.groups = groups := by
  unfold ofGroups?
  apply Iff.intro
  · intro h
    split at h
    · cases h
      rfl
    · cases h
  · intro h
    subst h
    exact dif_pos ip.length_groups

/-- An address is read from each of its texts, and from no other. -/
theorem parse_eq_some_iff {text : List Char} {ip : Ipv6} :
    parse? text = some ip ↔ Literal ip text := by
  apply Iff.intro
  · intro h
    unfold parse? at h
    split at h
    · obtain ⟨groups, hs, hg⟩ := Option.bind_eq_some_iff.mp h
      obtain ⟨fields, hf, ht⟩ := fields_of_side hs
      rw [ht]
      exact .full (ofGroups_eq_some_iff.mp hg ▸ hf)
    · next before after hgap =>
      split at h
      · next high low hb ha =>
        simp only at h
        split at h
        · cases h
        · next hm =>
          obtain ⟨before', hb', rfl⟩ := fields_of_side hb
          obtain ⟨after', ha', rfl⟩ := fields_of_side ha
          have ht := eq_of_splitGap hgap
          rw [List.reverse_nil, List.nil_append] at ht
          rw [ht]
          exact .gap hb' ha' (Nat.pos_of_ne_zero hm) (ofGroups_eq_some_iff.mp h)
      · cases h
  · intro h
    have hl := ip.length_groups
    cases h with
    | full hf =>
      rw [parse?, hf.splitGap_eq_none]
      simp only [hf.side_eq (Nat.le_of_eq hl), Option.bind_some]
      exact ofGroups_eq_some_iff.mpr rfl
    | @gap before after high low missing hb ha hm he =>
      rw [he, List.length_append, List.length_append, List.length_replicate] at hl
      have hn : 8 - (high.length + low.length) = missing := by omega
      rw [parse?, hb.splitGap_eq_some]
      simp only [hb.side_eq (by omega), ha.side_eq (by omega), hn]
      rw [if_neg (Nat.ne_of_gt hm)]
      exact ofGroups_eq_some_iff.mpr he

theorem Literal.colon_mem {text : List Char} {ip : Ipv6} (h : Literal ip text) : ':' ∈ text := by
  cases h with
  | @full fields hf =>
    have hl := hf.length_le.2
    rw [ip.length_groups] at hl
    cases fields with
    | nil => exact absurd hl (by decide)
    | cons field fields =>
      have hn : fields ≠ [] := by
        intro he
        rw [he, List.length_singleton] at hl
        exact absurd hl (by decide)
      rw [List.intercalate_cons_of_ne_nil hn, List.append_assoc]
      exact List.mem_append_right field (.head _)
  | gap => exact List.mem_append_right _ (.head _)

theorem Literal.eq {text : List Char} {ip ip' : Ipv6} (h : Literal ip text)
    (h' : Literal ip' text) : ip = ip' :=
  Option.some.inj ((parse_eq_some_iff.mpr h).symm.trans (parse_eq_some_iff.mpr h'))

theorem Literal.mem {c : Char} {text : List Char} {ip : Ipv6} (h : Literal ip text)
    (hc : c ∈ text) : c = ':' ∨ c = '.' ∨ ∃ d, digit? c = some d := by
  have hj {dots : Bool} {fields : List (List Char)} {groups : List UInt16}
      (hf : Fields dots fields groups) (hm : c ∈ [':'].intercalate fields) :
      c = ':' ∨ c = '.' ∨ ∃ d, digit? c = some d := by
    rcases Text.mem_intercalate hm with he | ⟨field, hfield, hcf⟩
    · exact .inl he
    · exact .inr (hf.mem field hfield c hcf)
  cases h with
  | full hf => exact hj hf hc
  | gap hb ha =>
    rcases List.mem_append.mp hc with hl | hr
    · exact hj hb hl
    · rcases List.mem_cons.mp hr with he | hr
      · exact .inl he
      · rcases List.mem_cons.mp hr with he | hr
        · exact .inl he
        · exact hj ha hr

end Locator.Net.Ipv6
