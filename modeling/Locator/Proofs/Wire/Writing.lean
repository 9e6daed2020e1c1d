import Locator.Proofs.Wire.Grammar
import Locator.Proofs.Wire.Reading
import Locator.Wire.Message

namespace Locator.Wire

namespace Varint

theorem form_encode {n : Nat} (h : n < bound) : Form (encode n) n := by
  obtain ⟨bytes, hf, he⟩ := read_eq_some_iff.mp (read_encode [] h)
  simp only [Input.bytes_ofBytes, List.append_nil] at he
  rwa [he]

theorem terminated_encode (n : Nat) : Terminated (encode n) ∧ value (encode n) = n := by
  induction n using Nat.strongRecOn with
  | ind n ih =>
    by_cases hn : n < 128
    · have hb : n.toUInt8.toNat = n := by
        rw [Nat.toUInt8_eq, UInt8.toNat_ofNat']
        omega
      have hl : n.toUInt8 < 128 := by
        rw [UInt8.lt_iff_toNat_lt, hb]
        exact hn
      rw [encode_of_lt hn, value_last hl]
      exact ⟨.last hl, hb⟩
    · rw [Nat.not_lt] at hn
      obtain ⟨ht, hv⟩ := ih (n / 128) (by omega)
      have hb : (n % 128 + 128).toUInt8.toNat = n % 128 + 128 := by
        rw [Nat.toUInt8_eq, UInt8.toNat_ofNat']
        omega
      have hl : 128 ≤ (n % 128 + 128).toUInt8 := by
        rw [UInt8.le_iff_toNat_le, hb]
        exact Nat.le_add_left 128 _
      rw [encode_of_ge hn, ← value_more hl, hb, hv]
      exact ⟨.more hl ht, by omega⟩

/-- The shortest form of a number: every other one is longer. -/
structure Shortest (bytes : Bytes) (n : Nat) : Prop where
  form : Form bytes n
  length_lt : ∀ other, Form other n → other ≠ bytes → bytes.length < other.length

theorem Terminated.eq_encode_or_length_lt {bytes : Bytes} (h : Terminated bytes) :
    bytes = encode (value bytes) ∨ (encode (value bytes)).length < bytes.length := by
  induction h with
  | @last b hb =>
    have hl : b.toNat < 128 := hb
    rw [value_last hb, encode_of_lt hl, Nat.toUInt8_eq, UInt8.ofNat_toNat]
    exact .inl rfl
  | @more b bytes hb h ih =>
    have hv := value_more hb bytes
    have hlt := b.toNat_lt
    rw [UInt8.le_iff_toNat_le] at hb
    change 128 ≤ b.toNat at hb
    -- a form is longer than it need be when the bytes behind one of its bytes add nothing to it
    by_cases hz : value bytes = 0
    · have hp := List.length_pos_iff.mpr h.ne_nil
      rw [encode_of_lt (by omega), List.length_singleton, List.length_cons]
      exact .inr (by omega)
    · have hd : value (b :: bytes) / 128 = value bytes := by omega
      have hm : value (b :: bytes) % 128 + 128 = b.toNat := by omega
      rw [encode_of_ge (by omega), hd, hm, Nat.toUInt8_eq, UInt8.ofNat_toNat]
      obtain he | hl := ih
      · rw [← he]
        exact .inl rfl
      · exact .inr (Nat.succ_lt_succ hl)

theorem shortest_encode {n : Nat} (h : n < bound) : Shortest (encode n) n where
  form := form_encode h
  length_lt other ho hne := by
    have hl := ho.terminated.eq_encode_or_length_lt
    rw [ho.value_eq] at hl
    exact hl.resolve_left hne

theorem log2_half {n : Nat} (h : 2 ≤ n) : n.log2 = (n / 2).log2 + 1 := by
  rw [Nat.log2_def, if_pos h]

theorem log2_shift {n : Nat} (h : 128 ≤ n) : n.log2 = (n / 128).log2 + 7 := by
  rw [log2_half (by omega), log2_half (by omega), log2_half (by omega), log2_half (by omega),
    log2_half (by omega), log2_half (by omega), log2_half (by omega)]
  simp only [Nat.div_div_eq_div_mul]

theorem log2_or_one (n : Nat) : (n ||| 1).log2 = n.log2 := by
  by_cases h : 2 ≤ n
  · rw [log2_half h, log2_half (Nat.le_trans h Nat.left_le_or), Nat.or_div_two]
    congr 2
    exact Nat.or_zero _
  · obtain rfl | rfl : n = 0 ∨ n = 1 := by omega
    · rfl
    · rfl

theorem log2_lt_of_lt {n k : Nat} (hk : 0 < k) (h : n < Nat.pow 2 k) : n.log2 < k := by
  by_cases hn : n = 0
  · rwa [hn, Nat.log2_zero]
  · exact (Nat.log2_lt hn).mpr h

/-- A number takes a byte for each seven bits up to its top one. -/
theorem length_encode (n : Nat) : (encode n).length = n.log2 / 7 + 1 := by
  induction n using Nat.strongRecOn with
  | ind n ih =>
    by_cases hn : n < 128
    · have hl : n.log2 < 7 := log2_lt_of_lt (by decide) hn
      rw [encode_of_lt hn, List.length_singleton]
      omega
    · rw [Nat.not_lt] at hn
      rw [encode_of_ge hn, List.length_cons, ih _ (by omega), log2_shift hn]
      omega

theorem size_eq {n : Nat} (h : n < bound) : size n = (encode n).length := by
  have hl : n.log2 < 64 := log2_lt_of_lt (by decide) h
  have hs : ∀ k < 64, (k * 9 + 73) / 64 = k / 7 + 1 := by decide
  rw [size, log2_or_one, length_encode, hs _ hl]

end Varint

namespace Key

theorem form_encode {key : Key} (ht : key.tag ≠ 0) (hl : key.toNat ≤ limit) :
    Form (encode key) key :=
  ⟨Varint.form_encode (Nat.lt_of_le_of_lt hl (by decide)), hl, ht⟩

theorem size_eq {key : Key} (hl : key.toNat ≤ limit) : key.size = (encode key).length :=
  Varint.size_eq (Nat.lt_of_le_of_lt hl (by decide))

end Key

theorem length_utf8 (s : String) : (Text.utf8 s).length = s.utf8ByteSize :=
  Array.length_toList

theorem int32Varint_lt (n : Int32) : int32Varint n < Varint.bound :=
  n.toInt64.toUInt64.toNat_lt

/-- The varint of a signed number is the number when it is cut down to 32 bits again. -/
theorem toInt_int32Varint (n : Int32) : n.toInt = (int32Varint n : Int).bmod 4294967296 := by
  have hw : n.toInt = (int32Varint n : Int).bmod 18446744073709551616 :=
    (Int32.toInt_toInt64 n).symm.trans (BitVec.toInt_eq_toNat_bmod _)
  have hlo := n.le_toInt
  have hhi := n.toInt_lt
  simp only [Int.bmod_def] at hw ⊢
  split at hw <;> split <;> omega

theorem delimited_encode {payload : Bytes} (h : payload.length < Varint.bound) :
    Delimited (Varint.encode payload.length ++ payload) payload :=
  ⟨_, Varint.form_encode h, rfl⟩

/-- Behind the length of a payload nothing but the payload is read. -/
theorem Delimited.eq_of_encode {bytes payload payload' rest rest' : Bytes}
    (h : Delimited bytes payload')
    (he : Varint.encode payload.length ++ (payload ++ rest) = bytes ++ rest') :
    payload.length < Varint.bound ∧ payload' = payload ∧ rest' = rest := by
  obtain ⟨form, hf, rfl⟩ := h
  obtain ⟨ht, hv⟩ := Varint.terminated_encode payload.length
  rw [List.append_assoc] at he
  obtain ⟨rfl, hp⟩ := ht.append_inj hf.terminated he
  have hl : payload.length = payload'.length := hv.symm.trans hf.value_eq
  obtain ⟨rfl, rfl⟩ := List.append_inj hp hl
  refine ⟨?_, rfl, rfl⟩
  have hb := (Varint.value_lt_bound_iff hf.terminated hf.length_le).mpr hf.tenth_le
  rwa [hf.value_eq] at hb

section
variable {φ : Type} {g : Grammar φ} {budget tag : Nat}

theorem utf8ByteSize_lt {s : String} (h : (encodeText tag s).length < Varint.bound) :
    s.utf8ByteSize < Varint.bound := by
  simp only [encodeText, List.length_append, length_utf8] at h
  omega

theorem field_encodeText {put : String → φ} {s : String} (ht : tag ≠ 0)
    (hk : Key.toNat ⟨tag, .lengthDelimited⟩ ≤ Key.limit)
    (hg : g.content? tag = some (textForm put)) (hs : s.utf8ByteSize < Varint.bound) :
    g.Field budget (encodeText tag s) (some (put s)) := by
  rw [← length_utf8] at hs
  rw [encodeText, List.append_assoc, ← length_utf8]
  exact .known (Key.form_encode ht hk) hg ⟨rfl, s, delimited_encode hs, rfl⟩

theorem field_encodeInt32 {put : Int32 → φ} (n : Int32) (ht : tag ≠ 0)
    (hk : Key.toNat ⟨tag, .varint⟩ ≤ Key.limit) (hg : g.content? tag = some (int32Form put)) :
    g.Field budget (encodeInt32 tag n) (some (put n)) := by
  have hf := Varint.form_encode (int32Varint_lt n)
  exact .known (Key.form_encode ht hk) hg ⟨rfl, _, n, hf, toInt_int32Varint n, rfl⟩

theorem textSize_eq {s : String} (hk : Key.toNat ⟨tag, .lengthDelimited⟩ ≤ Key.limit)
    (hs : (encodeText tag s).length < Varint.bound) :
    textSize tag s = (encodeText tag s).length := by
  rw [textSize, Key.size_eq hk, Varint.size_eq (utf8ByteSize_lt hs)]
  simp only [encodeText, List.length_append, length_utf8]

theorem int32Size_eq (n : Int32) (hk : Key.toNat ⟨tag, .varint⟩ ≤ Key.limit) :
    int32Size tag n = (encodeInt32 tag n).length := by
  rw [int32Size, Key.size_eq hk, Varint.size_eq (int32Varint_lt n), encodeInt32,
    List.length_append]

end
end Locator.Wire
