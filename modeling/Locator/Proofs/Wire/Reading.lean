import Locator.Proofs.Wire.Grammar

namespace Locator.Wire

namespace Input

theorem size_eq (input : Input) : input.size = input.bytes.length :=
  input.length_bytes.symm

theorem size_of_append {input rest : Input} {bytes : Bytes}
    (h : input.bytes = bytes ++ rest.bytes) : input.size = bytes.length + rest.size := by
  rw [size_eq, size_eq, h, List.length_append]

theorem ofBytes_bytes (input : Input) : ofBytes input.bytes = input :=
  ext rfl

theorem next_eq_some_iff {input rest : Input} {b : UInt8} :
    input.next? = some (b, rest) ↔ input.bytes = b :: rest.bytes := by
  constructor
  · intro h
    obtain ⟨bytes, size, hs⟩ := input
    cases bytes with
    | nil => cases h
    | cons c bytes =>
      cases h
      rfl
  · intro h
    rw [← ofBytes_bytes input, ← ofBytes_bytes rest, h]
    exact next_cons b rest.bytes

theorem advance_eq_some_iff {input rest : Input} {n : Nat} :
    input.advance? n = some rest ↔
      ∃ bytes, bytes.length = n ∧ input.bytes = bytes ++ rest.bytes := by
  constructor
  · intro h
    unfold advance? at h
    split at h
    · next hn =>
      cases h
      refine ⟨input.bytes.take n, ?_, (List.take_append_drop n _).symm⟩
      rw [List.length_take, ← size_eq, Nat.min_eq_left hn]
    · cases h
  · rintro ⟨bytes, rfl, hb⟩
    have hs := size_of_append hb
    rw [advance?, if_pos (by omega)]
    congr 1
    apply ext
    simp only [hb, List.drop_left]

theorem take_eq_some_iff {input rest : Input} {n : Nat} {bytes : Bytes} :
    input.take? n = some (bytes, rest) ↔
      bytes.length = n ∧ input.bytes = bytes ++ rest.bytes := by
  simp only [take?, Option.map_eq_some_iff, Prod.mk.injEq]
  constructor
  · rintro ⟨after, ha, rfl, rfl⟩
    obtain ⟨bytes, rfl, hb⟩ := advance_eq_some_iff.mp ha
    rw [hb, List.take_left]
    exact ⟨rfl, rfl⟩
  · rintro ⟨rfl, hb⟩
    refine ⟨rest, advance_eq_some_iff.mpr ⟨bytes, rfl, hb⟩, ?_, rfl⟩
    rw [hb, List.take_left]

end Input

namespace Varint

theorem value_append (a b : Bytes) :
    value (a ++ b) = value a + Nat.pow 128 a.length * value b := by
  induction a with
  | nil => simp [value]
  | cons c a ih =>
    have hp : Nat.pow 128 (c :: a).length = Nat.pow 128 a.length * 128 := rfl
    rw [List.cons_append, value, value, ih, hp, Nat.mul_add, Nat.add_assoc,
      Nat.mul_comm (Nat.pow 128 a.length) 128, Nat.mul_assoc]

theorem value_lt (bytes : Bytes) : value bytes < Nat.pow 128 bytes.length := by
  induction bytes with
  | nil => exact Nat.zero_lt_one
  | cons b bytes ih =>
    have hp : Nat.pow 128 (b :: bytes).length = Nat.pow 128 bytes.length * 128 := rfl
    rw [value, hp]
    omega

theorem Terminated.exists_last {bytes : Bytes} (h : Terminated bytes) :
    ∃ init b, bytes = init ++ [b] ∧ b < 128 := by
  induction h with
  | @last b hb => exact ⟨[], b, rfl, hb⟩
  | @more c bytes _ _ ih =>
    obtain ⟨init, b, rfl, hb⟩ := ih
    exact ⟨c :: init, b, rfl, hb⟩

/-- A form of a number ends at its first byte below 128. -/
theorem Terminated.append_inj {a b x y : Bytes} (ha : Terminated a) (hb : Terminated b)
    (h : a ++ x = b ++ y) : a = b ∧ x = y := by
  induction ha generalizing b with
  | @last c hc =>
    cases hb with
    | last _ =>
      cases h
      exact ⟨rfl, rfl⟩
    | more hd _ =>
      cases h
      exact absurd hc (UInt8.not_lt.mpr hd)
  | @more c a hc _ ih =>
    cases hb with
    | last hd =>
      cases h
      exact absurd hd (UInt8.not_lt.mpr hc)
    | @more d b _ hb =>
      obtain ⟨rfl, ht⟩ := List.cons.inj h
      obtain ⟨rfl, rfl⟩ := ih hb ht
      exact ⟨rfl, rfl⟩

theorem value_last {b : UInt8} (h : b < 128) : value [b] = b.toNat :=
  Nat.mod_eq_of_lt h

theorem value_more {b : UInt8} (h : 128 ≤ b) (bytes : Bytes) :
    b.toNat - 128 + 128 * value bytes = value (b :: bytes) := by
  have hb := b.toNat_lt
  rw [UInt8.le_iff_toNat_le] at h
  change 128 ≤ b.toNat at h
  rw [value]
  omega

/-- Ten bytes hold a 64-bit number when the tenth adds no more than one bit to the other nine. -/
theorem value_lt_bound_iff {bytes : Bytes} (ht : Terminated bytes) (hl : bytes.length ≤ 10) :
    value bytes < bound ↔ ∀ b, bytes[9]? = some b → b ≤ 1 := by
  by_cases h9 : bytes.length ≤ 9
  · have hv : value bytes < bound := by
      have hp : Nat.pow 128 bytes.length ≤ Nat.pow 128 9 := Nat.pow_le_pow_right (by decide) h9
      exact Nat.lt_of_lt_of_le (value_lt bytes) (Nat.le_trans hp (by decide))
    have hn : bytes[9]? = none := List.getElem?_eq_none h9
    simp [hv, hn]
  · obtain ⟨init, b, rfl, hb⟩ := ht.exists_last
    have hi : init.length = 9 := by
      rw [List.length_append, List.length_singleton] at hl h9
      omega
    have hg : (init ++ [b])[9]? = some b := by
      rw [List.getElem?_append_right (by omega), hi]
      rfl
    have hv := value_lt init
    change b.toNat < 128 at hb
    rw [value_append, hi]
    rw [hi] at hv
    change value init < 0x8000000000000000 at hv
    change value init + 0x8000000000000000 * (b.toNat % 128 + 128 * 0) < 0x10000000000000000 ↔ _
    simp only [hg, Option.some.injEq, forall_eq', UInt8.le_iff_toNat_le]
    change _ ↔ b.toNat ≤ 1
    omega

theorem readGroups_eq_some_iff {count n : Nat} {input rest : Input} :
    readGroups count input = some (n, rest) ↔
      ∃ bytes, Terminated bytes ∧ bytes.length ≤ count ∧ value bytes = n ∧
        input.bytes = bytes ++ rest.bytes := by
  constructor
  · intro h
    induction count generalizing input n rest with
    | zero => cases h
    | succ count ih =>
      rw [readGroups] at h
      split at h
      · cases h
      · next b after hb =>
        have hi := Input.next_eq_some_iff.mp hb
        split at h
        · next hlt =>
          cases h
          exact ⟨[b], .last hlt, by simp, value_last hlt, hi⟩
        · next hge =>
          split at h
          · cases h
          · next high last hr =>
            cases h
            obtain ⟨bytes, ht, hl, rfl, he⟩ := ih hr
            rw [UInt8.not_lt] at hge
            refine ⟨b :: bytes, .more hge ht, by simpa using hl, (value_more hge bytes).symm, ?_⟩
            rw [hi, he, List.cons_append]
  · rintro ⟨bytes, ht, hl, rfl, he⟩
    induction ht generalizing count input with
    | @last b hb =>
      obtain ⟨count, rfl⟩ : ∃ k, count = k + 1 := ⟨count - 1, by simp at hl; omega⟩
      simp only [readGroups, Input.next_eq_some_iff.mpr he, if_pos hb, value_last hb]
    | @more b bytes hb ht ih =>
      obtain ⟨count, rfl⟩ : ∃ k, count = k + 1 := ⟨count - 1, by simp at hl; omega⟩
      have hr : readGroups count (.ofBytes (bytes ++ rest.bytes)) = some (value bytes, rest) :=
        ih (Nat.le_of_succ_le_succ hl) rfl
      have hn : input.next? = some (b, .ofBytes (bytes ++ rest.bytes)) :=
        Input.next_eq_some_iff.mpr he
      simp only [readGroups, hn, if_neg (UInt8.not_lt.mpr hb), hr, value_more hb]

theorem read_eq_some_iff {n : Nat} {input rest : Input} :
    read? input = some (n, rest) ↔ ∃ bytes, Form bytes n ∧ input.bytes = bytes ++ rest.bytes := by
  constructor
  · intro h
    unfold read? at h
    split at h
    · next hr =>
      split at h
      · next hlt =>
        cases h
        obtain ⟨bytes, ht, hl, rfl, he⟩ := readGroups_eq_some_iff.mp hr
        exact ⟨bytes, ⟨ht, hl, (value_lt_bound_iff ht hl).mp hlt, rfl⟩, he⟩
      · cases h
    · cases h
  · rintro ⟨bytes, ⟨ht, hl, htenth, rfl⟩, he⟩
    have hr := readGroups_eq_some_iff.mpr ⟨bytes, ht, hl, rfl, he⟩
    simp only [read?, hr, if_pos ((value_lt_bound_iff ht hl).mpr htenth)]

end Varint

theorem WireType.code_of_ofCode {c : Nat} {w : WireType} (h : ofCode? c = some w) : c = w.code := by
  unfold ofCode? at h
  split at h <;> cases h <;> rfl

namespace Key

theorem ofNat_eq_ok_iff {n : Nat} {key : Key} :
    ofNat n = .ok key ↔ n = key.toNat ∧ key.toNat ≤ limit ∧ key.tag ≠ 0 := by
  constructor
  · intro h
    unfold ofNat at h
    split at h
    · cases h
    · next hl =>
      split at h
      · cases h
      · next w hw =>
        split at h
        · cases h
        · next ht =>
          cases h
          have hc := WireType.code_of_ofCode hw
          have hn : n = toNat ⟨n / 8, w⟩ := by
            simp only [toNat]
            omega
          exact ⟨hn, hn ▸ Nat.not_lt.mp hl, ht⟩
  · rintro ⟨rfl, hl, ht⟩
    exact ofNat_toNat ht hl

theorem read_eq_ok_iff {key : Key} {input rest : Input} :
    read input = .ok (key, rest) ↔ ∃ bytes, Form bytes key ∧ input.bytes = bytes ++ rest.bytes := by
  constructor
  · intro h
    unfold read at h
    split at h
    · cases h
    · next n after hr =>
      split at h
      · next hk =>
        cases h
        obtain ⟨rfl, hl, ht⟩ := ofNat_eq_ok_iff.mp hk
        obtain ⟨bytes, hf, he⟩ := Varint.read_eq_some_iff.mp hr
        exact ⟨bytes, ⟨hf, hl, ht⟩, he⟩
      · cases h
  · rintro ⟨bytes, ⟨hf, hl, ht⟩, he⟩
    simp only [read, Varint.read_eq_some_iff.mpr ⟨bytes, hf, he⟩, ofNat_toNat ht hl]

end Key

theorem exists_take_iff {input rest : Input} {payload : Bytes} :
    (∃ n after, Varint.read? input = some (n, after) ∧ after.take? n = some (payload, rest)) ↔
      ∃ bytes, Delimited bytes payload ∧ input.bytes = bytes ++ rest.bytes := by
  constructor
  · rintro ⟨n, after, hr, ht⟩
    obtain ⟨bytes, hf, he⟩ := Varint.read_eq_some_iff.mp hr
    obtain ⟨rfl, he'⟩ := Input.take_eq_some_iff.mp ht
    refine ⟨bytes ++ payload, ⟨bytes, hf, rfl⟩, ?_⟩
    rw [he, he', List.append_assoc]
  · rintro ⟨_, ⟨bytes, hf, rfl⟩, he⟩
    refine ⟨payload.length, .ofBytes (payload ++ rest.bytes), ?_, ?_⟩
    · exact Varint.read_eq_some_iff.mpr ⟨bytes, hf, by rw [he, List.append_assoc]; rfl⟩
    · exact Input.take_eq_some_iff.mpr ⟨rfl, rfl⟩

theorem skipBytes_eq_ok_iff {n : Nat} {input rest : Input} :
    skipBytes n input = .ok rest ↔
      ∃ bytes, bytes.length = n ∧ input.bytes = bytes ++ rest.bytes := by
  rw [← Input.advance_eq_some_iff, skipBytes]
  cases input.advance? n <;> simp

theorem skipGroup_eq_ok_iff {skipInner : Key → Input → Except Fault Input}
    {Inner : Key → Bytes → Prop} {tag fuel : Nat} {input rest : Input}
    (hi : ∀ key input rest, skipInner key input = .ok rest ↔
      ∃ bytes, Inner key bytes ∧ input.bytes = bytes ++ rest.bytes)
    (hf : input.size ≤ fuel) :
    skipGroup skipInner tag fuel input = .ok rest ↔
      ∃ bytes, Group Inner tag bytes ∧ input.bytes = bytes ++ rest.bytes := by
  constructor
  · intro h
    -- a group that was skipped did not run out of fuel, so the bound on it is not needed
    clear hf
    induction fuel generalizing input with
    | zero => cases h
    | succ fuel ih =>
      rw [skipGroup] at h
      split at h
      · cases h
      · next key after hr =>
        obtain ⟨keyBytes, hk, he⟩ := Key.read_eq_ok_iff.mp hr
        split at h
        · next hw =>
          split at h
          · next ht =>
            cases h
            rw [← ht]
            exact ⟨keyBytes, .stop (hw ▸ hk), he⟩
          · cases h
        · next hw =>
          split at h
          · cases h
          · next last hs =>
            obtain ⟨bytes, hb, he'⟩ := (hi _ _ _).mp hs
            obtain ⟨more, hg, he''⟩ := ih h
            refine ⟨keyBytes ++ bytes ++ more, .field hk hw hb hg, ?_⟩
            rw [he, he', he'', List.append_assoc, List.append_assoc]
  · rintro ⟨bytes, hg, he⟩
    -- every field of the group takes a byte or more, so fuel for all bytes is fuel for all fields
    have hs := Input.size_of_append he
    induction hg generalizing fuel input with
    | @stop bytes hk =>
      have hp := List.length_pos_iff.mpr hk.ne_nil
      obtain ⟨fuel, rfl⟩ : ∃ k, fuel = k + 1 := ⟨fuel - 1, by omega⟩
      simp [skipGroup, Key.read_eq_ok_iff.mpr ⟨_, hk, he⟩]
    | @field key keyBytes bytes more hk hw hb _ ih =>
      have hp := List.length_pos_iff.mpr hk.ne_nil
      simp only [List.length_append] at hs
      obtain ⟨fuel, rfl⟩ : ∃ k, fuel = k + 1 := ⟨fuel - 1, by omega⟩
      have hr : Key.read input = .ok (key, .ofBytes (bytes ++ more ++ rest.bytes)) :=
        Key.read_eq_ok_iff.mpr ⟨keyBytes, hk, by simp [he]⟩
      have hb' : skipInner key (.ofBytes (bytes ++ more ++ rest.bytes)) =
          .ok (.ofBytes (more ++ rest.bytes)) :=
        (hi _ _ _).mpr ⟨bytes, hb, by simp⟩
      have hm : (Input.ofBytes (more ++ rest.bytes)).size = more.length + rest.size :=
        Input.size_of_append rfl
      simp only [skipGroup, hr, if_neg hw, hb']
      exact ih (by omega) rfl hm

theorem skipDelimited_eq_ok_iff {input rest : Input} :
    (match Varint.read? input with
      | some (n, after) => skipBytes n after
      | none => .error .varint) = .ok rest ↔
      ∃ bytes, (∃ payload, Delimited bytes payload) ∧ input.bytes = bytes ++ rest.bytes := by
  constructor
  · intro h
    split at h
    · next n after hr =>
      obtain ⟨payload, hn, he⟩ := skipBytes_eq_ok_iff.mp h
      have ht : after.take? n = some (payload, rest) := Input.take_eq_some_iff.mpr ⟨hn, he⟩
      obtain ⟨bytes, hd, he'⟩ := exists_take_iff.mp ⟨n, after, hr, ht⟩
      exact ⟨bytes, ⟨payload, hd⟩, he'⟩
    · cases h
  · rintro ⟨bytes, ⟨payload, hd⟩, he⟩
    obtain ⟨n, after, hr, ht⟩ := exists_take_iff.mpr ⟨bytes, hd, he⟩
    simp only [hr]
    exact skipBytes_eq_ok_iff.mpr ⟨payload, Input.take_eq_some_iff.mp ht⟩

/-- Any field that may be skipped is skipped to its end, and nothing else is. -/
theorem skipField_eq_ok_iff {budget : Nat} {key : Key} {input rest : Input} :
    skipField budget key input = .ok rest ↔
      ∃ bytes, Skippable budget key bytes ∧ input.bytes = bytes ++ rest.bytes := by
  induction budget generalizing key input rest with
  | zero => simp [skipField, Skippable]
  | succ budget ih =>
    obtain ⟨tag, w⟩ := key
    cases w with
    | varint =>
      simp only [skipField, Skippable]
      constructor
      · intro h
        split at h
        · next n after hr =>
          cases h
          obtain ⟨bytes, hf, he⟩ := Varint.read_eq_some_iff.mp hr
          exact ⟨bytes, ⟨n, hf⟩, he⟩
        · cases h
      · rintro ⟨bytes, ⟨n, hf⟩, he⟩
        rw [Varint.read_eq_some_iff.mpr ⟨bytes, hf, he⟩]
    | fixed64 => exact skipBytes_eq_ok_iff
    | lengthDelimited => exact skipDelimited_eq_ok_iff
    | startGroup => exact skipGroup_eq_ok_iff (fun _ _ _ => ih) (Nat.le_refl _)
    | endGroup => simp [skipField, Skippable]
    | fixed32 => exact skipBytes_eq_ok_iff

/-- A reader of content that takes exactly the bytes of one form, whatever follows them. -/
def Reader.Reads {φ : Type} (read : Reader φ) (form : ContentForm φ) : Prop :=
  ∀ budget wireType input content rest, read budget wireType input = .ok content rest ↔
    ∃ bytes x, content = some x ∧ form budget wireType bytes x ∧ input.bytes = bytes ++ rest.bytes

theorem readText_eq_ok_iff {wireType : WireType} {input rest : Input} {s : String} :
    readText wireType input = .ok (s, rest) ↔ wireType = .lengthDelimited ∧
      ∃ bytes, Delimited bytes (Text.utf8 s) ∧ input.bytes = bytes ++ rest.bytes := by
  rw [← exists_take_iff]
  constructor
  · intro h
    unfold readText at h
    split at h
    · cases h
    · next hw =>
      split at h
      · cases h
      · next n after hr =>
        split at h
        · cases h
        · next bytes last ht =>
          split at h
          · cases h
          · next hs =>
            cases h
            rw [Text.ofUtf8_eq_some_iff] at hs
            exact ⟨Classical.not_not.mp hw, n, after, hr, hs ▸ ht⟩
  · rintro ⟨rfl, n, after, hr, ht⟩
    simp only [readText, ne_eq, not_true_eq_false, if_false, hr, ht, Text.ofUtf8_utf8]

theorem toInt_ofNat (n : Nat) : (Int32.ofNat n).toInt = (n : Int).bmod 4294967296 :=
  Int32.toInt_ofNat

theorem readInt32_eq_ok_iff {wireType : WireType} {input rest : Input} {v : Int32} :
    readInt32 wireType input = .ok (v, rest) ↔ wireType = .varint ∧
      ∃ bytes n, Varint.Form bytes n ∧ v.toInt = (n : Int).bmod 4294967296 ∧
        input.bytes = bytes ++ rest.bytes := by
  constructor
  · intro h
    unfold readInt32 at h
    split at h
    · cases h
    · next hw =>
      split at h
      · cases h
      · next n after hr =>
        cases h
        obtain ⟨bytes, hf, he⟩ := Varint.read_eq_some_iff.mp hr
        exact ⟨Classical.not_not.mp hw, bytes, n, hf, toInt_ofNat n, he⟩
  · rintro ⟨rfl, bytes, n, hf, hv, he⟩
    have hn : Int32.ofNat n = v := Int32.toInt_inj.mp ((toInt_ofNat n).trans hv.symm)
    simp only [readInt32, ne_eq, not_true_eq_false, if_false,
      Varint.read_eq_some_iff.mpr ⟨bytes, hf, he⟩, hn]

theorem textReader_reads {φ : Type} (put : String → φ) : (textReader put).Reads (textForm put) := by
  intro budget wireType input content rest
  constructor
  · intro h
    unfold textReader at h
    split at h
    · next s after hr =>
      cases h
      obtain ⟨hw, bytes, hd, he⟩ := readText_eq_ok_iff.mp hr
      exact ⟨bytes, put s, rfl, ⟨hw, s, hd, rfl⟩, he⟩
    · cases h
  · rintro ⟨bytes, _, rfl, ⟨hw, s, hd, rfl⟩, he⟩
    simp only [textReader, readText_eq_ok_iff.mpr ⟨hw, bytes, hd, he⟩]

theorem int32Reader_reads {φ : Type} (put : Int32 → φ) :
    (int32Reader put).Reads (int32Form put) := by
  intro budget wireType input content rest
  constructor
  · intro h
    unfold int32Reader at h
    split at h
    · next v after hr =>
      cases h
      obtain ⟨hw, bytes, n, hf, hv, he⟩ := readInt32_eq_ok_iff.mp hr
      exact ⟨bytes, put v, rfl, ⟨hw, n, v, hf, hv, rfl⟩, he⟩
    · cases h
  · rintro ⟨bytes, _, rfl, ⟨hw, n, v, hf, hv, rfl⟩, he⟩
    simp only [int32Reader, readInt32_eq_ok_iff.mpr ⟨hw, bytes, n, hf, hv, he⟩]

end Locator.Wire
