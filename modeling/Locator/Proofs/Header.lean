import Mathlib.Algebra.Order.BigOperators.Group.List
import Mathlib.Algebra.Order.Ring.Nat
import Locator.Header
import Locator.Proofs.Wire.Writing

namespace Locator

open Wire

namespace Header

/-- What stands for a byte in a written message takes at most 19 bits a character. -/
theorem bits_percentByte (b : UInt8) : ∀ c ∈ Text.percentByte b, bits c ≤ 19 := by
  have h : (List.range 256).all (fun n =>
      (Text.percentByte (UInt8.ofNat n)).all fun c => bits c ≤ 19) = true := by
    decide +kernel
  have hb := List.all_eq_true.mp h b.toNat (List.mem_range.mpr b.toNat_lt)
  rw [UInt8.ofNat_toNat] at hb
  exact fun c hc => of_decide_eq_true (List.all_eq_true.mp hb c hc)

theorem numberSize_le {n : Nat} (h : n < Varint.bound) : numberSize n ≤ 11 := by
  rw [numberSize]
  split
  · decide
  · have hn : n - 127 < Varint.bound := Nat.lt_of_le_of_lt (Nat.sub_le _ _) h
    have hl : (n - 127).log2 < 64 := Varint.log2_lt_of_lt (by decide) hn
    rw [Varint.size, Varint.log2_or_one]
    omega

/-- Packed, a message takes less than three bytes for each character of it. -/
theorem packedText_percentEncode_le {s : String}
    (h : (Text.percentEncode s).length < sizeLimit) :
    packedText (Text.percentEncode s) ≤ 3 * (Text.percentEncode s).length + 12 := by
  have hc : ∀ c ∈ (Text.percentEncode s).toList, bits c ≤ 19 := by
    intro c hc
    rw [Text.percentEncode, String.toList_ofList, List.mem_flatMap] at hc
    obtain ⟨b, -, hb⟩ := hc
    exact bits_percentByte b c hb
  have hb := List.sum_le_card_nsmul _ 19 (List.forall_mem_map.mpr hc)
  rw [List.length_map, String.length_toList, Nat.nsmul_eq_mul] at hb
  rw [packedText, ← List.sum_eq_foldr]
  generalize ((Text.percentEncode s).toList.map bits).sum = total at hb ⊢
  have ht : (total + 7) / 8 < Varint.bound := by
    rw [sizeLimit] at h
    rw [Varint.bound]
    omega
  have hn := numberSize_le ht
  omega

theorem totalSize_eq_sum (headers : List Header) : totalSize headers = (headers.map size).sum :=
  List.sum_eq_foldr.symm

theorem totalPackedSize_eq_sum (headers : List Header) :
    totalPackedSize headers = (headers.map packedSize).sum :=
  List.sum_eq_foldr.symm

end Header

namespace Status

open Header

def messageHeader (s : Status) : List Header :=
  if s.message = "" then [] else [⟨"grpc-message", Text.percentEncode s.message⟩]

theorem headers_eq (s : Status) :
    s.headers = [⟨":status", "200"⟩, ⟨"content-type", "application/grpc"⟩,
        ⟨"grpc-status", Nat.repr s.code.number⟩] ++ s.messageHeader ++
      [⟨"content-length", "0"⟩, ⟨"date", "Thu, 01 Jan 1970 00:00:00 GMT"⟩] :=
  rfl

theorem totalSize_headers (s : Status) :
    totalSize s.headers =
      totalSize s.messageHeader + (Nat.repr s.code.number).length + 257 := by
  have h : totalSize [⟨":status", "200"⟩, ⟨"content-type", "application/grpc"⟩] +
      "grpc-status".length + totalSize [⟨"content-length", "0"⟩,
        ⟨"date", "Thu, 01 Jan 1970 00:00:00 GMT"⟩] = 225 := by
    decide +kernel
  rw [headers_eq]
  simp only [totalSize_eq_sum, List.map_append, List.sum_append, List.map_cons, List.map_nil,
    List.sum_cons, List.sum_nil] at h ⊢
  have hs : size ⟨"grpc-status", Nat.repr s.code.number⟩ =
      "grpc-status".length + (Nat.repr s.code.number).length + 32 :=
    rfl
  omega

theorem packedText_number (code : Code) : packedText (Nat.repr code.number) ≤ 3 := by
  cases code <;> decide +kernel

theorem totalPackedSize_headers_le (s : Status) :
    totalPackedSize s.headers ≤ totalPackedSize s.messageHeader + 100 := by
  have h : totalPackedSize [⟨":status", "200"⟩, ⟨"content-type", "application/grpc"⟩] +
      packedName "grpc-status" + totalPackedSize [⟨"content-length", "0"⟩,
        ⟨"date", "Thu, 01 Jan 1970 00:00:00 GMT"⟩] ≤ 97 := by
    decide +kernel
  have hc := packedText_number s.code
  rw [headers_eq]
  simp only [totalPackedSize_eq_sum, List.map_append, List.sum_append, List.map_cons, List.map_nil,
    List.sum_cons, List.sum_nil] at h ⊢
  have hs : packedSize ⟨"grpc-status", Nat.repr s.code.number⟩ =
      packedName "grpc-status" + packedText (Nat.repr s.code.number) := by
    rw [packedSize, if_neg (by simp)]
  omega

theorem packedSize_messageHeader_le {s : Status} (h : totalSize s.messageHeader < sizeLimit) :
    totalPackedSize s.messageHeader ≤ 3 * totalSize s.messageHeader := by
  by_cases hm : s.message = ""
  · rw [messageHeader, if_pos hm]
    exact Nat.zero_le _
  · have hn : "grpc-message".length = 12 := rfl
    have hp : packedName "grpc-message" ≤ 12 := by decide +kernel
    have hs : packedSize ⟨"grpc-message", Text.percentEncode s.message⟩ =
        packedName "grpc-message" + packedText (Text.percentEncode s.message) := by
      rw [packedSize, if_neg (by simp)]
    rw [messageHeader, if_neg hm] at h ⊢
    simp only [totalSize_eq_sum, totalPackedSize_eq_sum, List.map_cons, List.map_nil,
      List.sum_cons, List.sum_nil, size, hn, hs] at h ⊢
    have ht := packedText_percentEncode_le (s := s.message) (by omega)
    omega

theorem totalPackedSize_le {s : Status} (h : totalSize s.headers < sizeLimit) :
    totalPackedSize s.headers ≤ packedLimit := by
  have hs := totalSize_headers s
  have hp := totalPackedSize_headers_le s
  have hm := packedSize_messageHeader_le (s := s) (by omega)
  rw [sizeLimit] at h
  rw [packedLimit]
  omega

theorem fault_headers_eq_none_iff {s : Status} :
    fault? s.headers = none ↔ totalSize s.headers < sizeLimit := by
  constructor
  · intro h
    unfold fault? at h
    split at h
    · cases h
    · split at h
      · cases h
      · omega
  · intro h
    rw [fault?, if_neg (Nat.not_lt.mpr (totalPackedSize_le h)), if_neg (Nat.not_le.mpr h)]

theorem exists_fault_headers_iff {s : Status} :
    (∃ fault, fault? s.headers = some fault) ↔ sizeLimit ≤ totalSize s.headers := by
  rw [← Option.ne_none_iff_exists', ne_eq, fault_headers_eq_none_iff, Nat.not_lt]

theorem length_le_utf8ByteSize (chars : List Char) :
    chars.length ≤ (String.ofList chars).utf8ByteSize := by
  induction chars with
  | nil => exact Nat.zero_le _
  | cons c chars ih =>
    have hc := c.utf8Size_pos
    rw [String.ofList_cons, String.utf8ByteSize_append, String.utf8ByteSize_singleton,
      List.length_cons]
    omega

theorem length_le_percentEncode (s : String) :
    s.length ≤ (Text.percentEncode s).length := by
  have hs := length_le_utf8ByteSize s.toList
  rw [String.ofList_toList, String.length_toList, ← length_utf8] at hs
  rw [Text.percentEncode, String.length_ofList]
  refine Nat.le_trans hs ?_
  generalize Text.utf8 s = bytes
  induction bytes with
  | nil => exact Nat.le_refl _
  | cons b bytes ih =>
    have hb : 0 < (Text.percentByte b).length := by
      unfold Text.percentByte
      split <;> exact Nat.succ_pos _
    rw [List.flatMap_cons, List.length_append, List.length_cons]
    omega

theorem sizeLimit_le_of_long {s : Status} (h : sizeLimit ≤ s.message.length) :
    sizeLimit ≤ totalSize s.headers := by
  have hm : s.message ≠ "" := by
    intro he
    rw [he] at h
    exact absurd h (by decide)
  have hp := length_le_percentEncode s.message
  have ht := totalSize_headers s
  rw [messageHeader, if_neg hm] at ht
  simp only [totalSize_eq_sum, List.map_cons, List.map_nil, List.sum_cons, List.sum_nil,
    size] at ht ⊢
  omega

end Status
end Locator
