import Locator.Proofs.Message.Grammar
import Locator.Proofs.Wire.Writing

namespace Locator.Wire

/-- A type of message with a grammar that its reader and its writer keep to. -/
class LawfulMessage (α : Type) [Message α] where
  grammar : Grammar (Message.Content α)
  reads : (Message.layout (α := α)).Reads grammar
  field_encodeContent : ∀ {budget : Nat} {x : Message.Content α}, 0 < budget →
    (Message.encodeContent x).length < Varint.bound →
    grammar.Field budget (Message.encodeContent x) (some x)
  contentSize_eq : ∀ {x : Message.Content α},
    (Message.encodeContent x).length < Varint.bound →
    Message.contentSize x = (Message.encodeContent x).length
  replay_append : ∀ (m : α) (xs ys : List (Message.Content α)),
    Message.replay m (xs ++ ys) = Message.replay (Message.replay m xs) ys
  replay_contents : ∀ m : α, Message.replay default (Message.contents m) = m

theorem Merged.toExcept_eq_ok_iff {α : Type} {merged : Merged α} {m : α} :
    merged.toExcept = .ok m ↔ merged = ⟨m, none⟩ := by
  obtain ⟨message, failure⟩ := merged
  cases failure <;> simp [toExcept]

variable {α : Type} [Message α] [LawfulMessage α]

open LawfulMessage (grammar)

/-- Fields at the front of the bytes are laid over a message before all that follows them. -/
theorem merge_append {bytes : Bytes} {xs : List (Message.Content α)}
    (h : (grammar (α := α)).Fields recursionBudget bytes xs) (m : α) (more : Bytes) :
    merge m (bytes ++ more) = merge (Message.replay m xs) more := by
  have hs : Message.layout.scan (.ofBytes (bytes ++ more)) =
      (Message.layout.scan (.ofBytes more)).after xs :=
    LawfulMessage.reads.scanUntil_append h rfl (Nat.zero_le _)
  rw [merge, merge, hs, Merged.ofScan, Merged.ofScan, Scan.after,
    LawfulMessage.replay_append]

def mergeWithin (budget : Nat) (m : α) (bytes : Bytes) : Merged α :=
  .ofScan m (Message.layout.scanUntil budget 0 (.ofBytes bytes))

def decodeWithin (budget : Nat) (bytes : Bytes) : Except ReadError α :=
  (mergeWithin budget default bytes).toExcept

/-- A merge succeeds on fields one after another, and on nothing else. -/
theorem mergeWithin_eq_iff {budget : Nat} {bytes : Bytes} {m m' : α} :
    mergeWithin budget m bytes = ⟨m', none⟩ ↔
      ∃ xs, (grammar (α := α)).Fields budget bytes xs ∧ m' = Message.replay m xs := by
  apply Iff.intro
  · intro h
    cases hs : (Message.layout (α := α)).scanUntil budget 0 (.ofBytes bytes) with
    | mk xs outcome =>
      rw [mergeWithin, hs] at h
      cases outcome with
      | error error => cases h
      | ok last =>
        cases h
        exact ⟨xs, LawfulMessage.reads.scanUntil_zero_eq_ok_iff.mp ⟨last, hs⟩, rfl⟩
  · rintro ⟨xs, h, rfl⟩
    obtain ⟨last, hs⟩ := LawfulMessage.reads.scanUntil_zero_eq_ok_iff.mpr h
    rw [mergeWithin, hs]
    rfl

theorem merge_of_fields {bytes : Bytes} {xs : List (Message.Content α)}
    (h : (grammar (α := α)).Fields recursionBudget bytes xs) (m : α) :
    merge m bytes = ⟨Message.replay m xs, none⟩ :=
  mergeWithin_eq_iff.mpr ⟨xs, h, rfl⟩

theorem decodeWithin_eq_ok_iff {budget : Nat} {bytes : Bytes} {m : α} :
    decodeWithin budget bytes = .ok m ↔
      ∃ xs, (grammar (α := α)).Fields budget bytes xs ∧ m = Message.replay default xs := by
  rw [decodeWithin, Merged.toExcept_eq_ok_iff, mergeWithin_eq_iff]

theorem decode_eq_ok_iff {bytes : Bytes} {m : α} :
    decode bytes = .ok m ↔ ∃ xs, (grammar (α := α)).Fields recursionBudget bytes xs ∧
      m = Message.replay default xs :=
  decodeWithin_eq_ok_iff

theorem length_le_of_mem {φ : Type} {write : φ → Bytes} {x : φ} {xs : List φ} (h : x ∈ xs) :
    (write x).length ≤ (xs.flatMap write).length := by
  obtain ⟨before, after, rfl⟩ := List.append_of_mem h
  simp only [List.flatMap_append, List.flatMap_cons, List.length_append]
  omega

theorem fields_encode {budget : Nat} {m : α} (hb : 0 < budget)
    (h : (encode m).length < Varint.bound) :
    (grammar (α := α)).Fields budget (encode m) (Message.contents m) := by
  apply Grammar.Fields.flatMap
  intro x hx
  have hx' : (Message.encodeContent x).length ≤ (encode m).length := length_le_of_mem hx
  exact LawfulMessage.field_encodeContent hb (Nat.lt_of_le_of_lt hx' h)

theorem encodedSize_eq {m : α} (h : (encode m).length < Varint.bound) :
    encodedSize m = (encode m).length := by
  unfold encode at h ⊢
  unfold encodedSize
  generalize Message.contents m = xs at h
  induction xs with
  | nil => rfl
  | cons x xs ih =>
    rw [List.flatMap_cons, List.length_append] at h
    rw [List.map_cons, List.foldr_cons, List.flatMap_cons, List.length_append, ih (by omega),
      LawfulMessage.contentSize_eq (by omega)]

theorem merge_encode_append {m : α} (h : (encode m).length < Varint.bound) (m₀ : α)
    (more : Bytes) :
    merge m₀ (encode m ++ more) = merge (Message.replay m₀ (Message.contents m)) more :=
  merge_append (fields_encode (by decide) h) m₀ more

theorem merge_encode {m : α} (h : (encode m).length < Varint.bound) (m₀ : α) :
    merge m₀ (encode m) = ⟨Message.replay m₀ (Message.contents m), none⟩ :=
  merge_of_fields (fields_encode (by decide) h) m₀

theorem decode_of_contents {bytes : Bytes} {m : α}
    (h : (grammar (α := α)).Fields recursionBudget bytes (Message.contents m)) :
    decode bytes = .ok m :=
  decode_eq_ok_iff.mpr ⟨_, h, (LawfulMessage.replay_contents m).symm⟩

theorem decode_encode {m : α} (h : (encode m).length < Varint.bound) :
    decode (encode m) = .ok m :=
  decode_of_contents (fields_encode (by decide) h)

end Locator.Wire

namespace Locator

open Wire

namespace Request

theorem field_encode {budget : Nat} {x : Field} (h : x.encode.length < Varint.bound) :
    grammar.Field budget x.encode (some x) := by
  cases x with
  | serviceName s => exact field_encodeText (by decide) (by decide) rfl (utf8ByteSize_lt h)
  | scope s => exact field_encodeText (by decide) (by decide) rfl (utf8ByteSize_lt h)
  | maxCount n => exact field_encodeInt32 n (by decide) (by decide) rfl

theorem size_eq {x : Field} (h : x.encode.length < Varint.bound) : x.size = x.encode.length := by
  cases x with
  | serviceName s => exact textSize_eq (by decide) h
  | scope s => exact textSize_eq (by decide) h
  | maxCount n => exact int32Size_eq n (by decide)

instance : LawfulMessage Request where
  grammar := grammar
  reads := layout_reads
  field_encodeContent _ h := field_encode h
  contentSize_eq h := size_eq h
  replay_append _ _ _ := List.foldl_append
  replay_contents r := (foldl_put_fields default r).trans (overlay_default r)

end Request

namespace Entry

theorem field_encode {budget : Nat} {x : Field} (h : x.encode.length < Varint.bound) :
    grammar.Field budget x.encode (some x) := by
  cases x with
  | scope s => exact field_encodeText (by decide) (by decide) rfl (utf8ByteSize_lt h)
  | serviceName s => exact field_encodeText (by decide) (by decide) rfl (utf8ByteSize_lt h)
  | hostName s => exact field_encodeText (by decide) (by decide) rfl (utf8ByteSize_lt h)
  | port n => exact field_encodeInt32 n (by decide) (by decide) rfl

theorem size_eq {x : Field} (h : x.encode.length < Varint.bound) : x.size = x.encode.length := by
  cases x with
  | scope s => exact textSize_eq (by decide) h
  | serviceName s => exact textSize_eq (by decide) h
  | hostName s => exact textSize_eq (by decide) h
  | port n => exact int32Size_eq n (by decide)

theorem ofLast_fields (e : Entry) : ofLast e.fields = e := by
  rw [← ofFields_eq_ofLast]
  exact (foldl_put_fields default e).trans (overlay_default e)

instance : LawfulMessage Entry where
  grammar := grammar
  reads := layout_reads
  field_encodeContent _ h := field_encode h
  contentSize_eq h := size_eq h
  replay_append _ _ _ := List.foldl_append
  replay_contents e := (foldl_put_fields default e).trans (overlay_default e)

end Entry

namespace Response

theorem length_encode_lt {e : Entry} (h : (encodeNested 1 e).length < Varint.bound) :
    (encode e).length < Varint.bound := by
  simp only [encodeNested, encodeDelimited, List.length_append] at h
  omega

/-- An entry is written behind its own length, and its fields need no level of nesting. -/
theorem field_encodeNested {budget : Nat} {e : Entry} (hb : 0 < budget)
    (h : (encodeNested 1 e).length < Varint.bound) :
    grammar.Field budget (encodeNested 1 e) (some e) := by
  have he := length_encode_lt h
  obtain ⟨left, rfl⟩ : ∃ k, budget = k + 1 := ⟨budget - 1, by omega⟩
  have hf : Entry.grammar.Fields left (encode e) e.fields := by
    apply Grammar.Fields.flatMap
    intro x hx
    have hx' : x.encode.length ≤ (encode e).length := length_le_of_mem hx
    exact Entry.field_encode (Nat.lt_of_le_of_lt hx' he)
  rw [encodeNested, encodeDelimited, encodedSize_eq he]
  exact .known (Key.form_encode (by decide) (by decide)) rfl
    ⟨rfl, left, _, _, rfl, delimited_encode he, hf, (Entry.ofLast_fields e).symm⟩

theorem nestedSize_eq {e : Entry} (h : (encodeNested 1 e).length < Varint.bound) :
    nestedSize 1 e = (encodeNested 1 e).length := by
  have he := length_encode_lt h
  have hk : Key.toNat ⟨1, .lengthDelimited⟩ ≤ Key.limit := by decide
  simp only [nestedSize, encodeNested, encodeDelimited, encodedSize_eq he, List.length_append,
    Key.size_eq hk, Varint.size_eq he, Nat.add_assoc]

instance : LawfulMessage Response where
  grammar := grammar
  reads := layout_reads
  field_encodeContent := field_encodeNested
  contentSize_eq := nestedSize_eq
  replay_append _ _ _ := congrArg Response.mk (List.append_assoc ..).symm
  replay_contents _ := rfl

end Response
end Locator
