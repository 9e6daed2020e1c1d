import Locator.Proofs.Message.Lawful

namespace Locator

open Wire

/-- A field that is not known makes no difference, not even to the error that is met behind it. -/
structure DecodesBy (α : Type) [Message α] (g : Grammar (Message.Content α))
    (ofContents : List (Message.Content α) → α) : Prop where
  decode_eq_ok_iff : ∀ (bytes : Bytes) (m : α), decode bytes = .ok m ↔
    ∃ xs, g.Fields recursionBudget bytes xs ∧ m = ofContents xs
  decode_unknown : ∀ (before unknown after : Bytes) (xs : List (Message.Content α)),
    g.Fields recursionBudget before xs → g.Field recursionBudget unknown none →
    (decode (before ++ unknown ++ after) : Except ReadError α) = decode (before ++ after)

theorem decodesBy_grammar {α : Type} [Message α] [LawfulMessage α] :
    DecodesBy α LawfulMessage.grammar (Message.replay default) where
  decode_eq_ok_iff _ _ := Wire.decode_eq_ok_iff
  decode_unknown before unknown after xs hb hu := by
    have hf := hb.append hu.fields
    rw [Option.toList_none, List.append_nil] at hf
    rw [decode, decode, merge_append hf, merge_append hb]

theorem decode_grammar :
    DecodesBy Request Request.grammar Request.ofLast ∧
      DecodesBy Entry Entry.grammar Entry.ofLast ∧
      DecodesBy Response Response.grammar Response.mk := by
  have hr : List.foldl Request.put default = Request.ofLast :=
    funext (Request.foldl_put default)
  have he : List.foldl Entry.put default = Entry.ofLast := funext (Entry.foldl_put default)
  exact ⟨hr ▸ decodesBy_grammar, he ▸ decodesBy_grammar, decodesBy_grammar⟩

example : decode [0x0A, 1, 0x61, 0x2B, 0x08, 0x01, 0x2C, 0x0A, 1, 0x62] =
    .ok (⟨"b", "", 0⟩ : Request) := by
  rfl

structure MergesBy (α : Type) [Message α] (overlay : α → α → α) : Prop where
  merge_encode : ∀ m₁ m₂ : α, (encode m₂).length < Varint.bound →
    merge m₁ (encode m₂) = ⟨overlay m₁ m₂, none⟩
  decode_encode : ∀ m : α, (encode m).length < Varint.bound → decode (encode m) = .ok m
  decode_append : ∀ m₁ m₂ : α, (encode m₁).length < Varint.bound →
    (encode m₂).length < Varint.bound →
    decode (encode m₁ ++ encode m₂) = .ok (overlay m₁ m₂)
  encode_injective : ∀ m₁ m₂ : α, (encode m₁).length < Varint.bound →
    (encode m₂).length < Varint.bound → encode m₁ = encode m₂ → m₁ = m₂

theorem mergesBy_replay {α : Type} [Message α] [LawfulMessage α] {overlay : α → α → α}
    (ho : ∀ m₁ m₂, Message.replay m₁ (Message.contents m₂) = overlay m₁ m₂) :
    MergesBy α overlay where
  merge_encode m₁ m₂ h := by rw [Wire.merge_encode h, ho]
  decode_encode _ h := Wire.decode_encode h
  decode_append m₁ m₂ h₁ h₂ := by
    rw [decode, merge_encode_append h₁, LawfulMessage.replay_contents, Wire.merge_encode h₂, ho]
    rfl
  encode_injective m₁ m₂ h₁ h₂ he := by
    have hd : (.ok m₁ : Except ReadError α) = .ok m₂ := by
      rw [← Wire.decode_encode h₁, he, Wire.decode_encode h₂]
    cases hd
    rfl

/-- Each message is read back as it was written, and laid field by field over an earlier one. -/
theorem merge_overlay :
    MergesBy Request Request.overlay ∧ MergesBy Entry Entry.overlay ∧
      MergesBy Response Response.overlay :=
  ⟨mergesBy_replay Request.foldl_put_fields, mergesBy_replay Entry.foldl_put_fields,
    mergesBy_replay fun _ _ => rfl⟩

end Locator
