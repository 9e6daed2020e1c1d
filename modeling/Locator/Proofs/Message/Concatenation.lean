import Locator.Proofs.Message.Lawful

namespace Locator

open Wire

/-- Bytes that are merged leave nothing behind but the message. -/
structure MergesInTurn (α : Type) [Message α] : Prop where
  merge_append : ∀ (m m' : α) (front rest : Bytes), merge m front = ⟨m', none⟩ →
    merge m (front ++ rest) = merge m' rest
  decode_append : ∀ (m : α) (front rest : Bytes), decode front = .ok m →
    decode (front ++ rest) = (merge m rest).toExcept

theorem mergesInTurn {α : Type} [Message α] [LawfulMessage α] : MergesInTurn α where
  merge_append m m' front rest h := by
    obtain ⟨xs, hf, rfl⟩ := mergeWithin_eq_iff.mp h
    exact Wire.merge_append hf m rest
  decode_append m front rest h := by
    obtain ⟨xs, hf, rfl⟩ := decode_eq_ok_iff.mp h
    exact congrArg Merged.toExcept (Wire.merge_append hf default rest)

theorem merge_in_turn : MergesInTurn Request ∧ MergesInTurn Entry ∧ MergesInTurn Response :=
  ⟨mergesInTurn, mergesInTurn, mergesInTurn⟩

example : merge (default : Entry) ([0x20, 80] ++ [0x1A, 1, 0x61, 0x20, 0x80]) =
    ⟨{ hostName := "a", port := 80 }, some ⟨[⟨"ServiceLocationMsg", "port"⟩], .varint⟩⟩ := by
  rfl

theorem scanDelimited_encode_eq_ok_iff {φ : Type} {layout : Layout φ} {g : Grammar φ}
    (hl : layout.Reads g) {budget : Nat} (payload rest : Bytes) {xs : List φ} {last : Input} :
    layout.scanDelimited budget (.ofBytes (Varint.encode payload.length ++ (payload ++ rest))) =
        ⟨xs, .ok last⟩ ↔
      payload.length < Varint.bound ∧ g.Fields budget payload xs ∧ last = .ofBytes rest := by
  rw [hl.scanDelimited_eq_ok_iff]
  apply Iff.intro
  · intro h
    obtain ⟨bytes, payload', hd, hf, he⟩ := h
    obtain ⟨hb, rfl, hr⟩ := hd.eq_of_encode he
    exact ⟨hb, hf, Input.ext hr⟩
  · intro h
    obtain ⟨hb, hf, rfl⟩ := h
    exact ⟨_, payload, delimited_encode hb, hf, (List.append_assoc ..).symm⟩

theorem merge_of_failed {α : Type} [Message α] {bytes : Bytes} {left : Option (Message.Content α)}
    {error : ReadError} (hn : bytes ≠ [])
    (h : (Message.layout (α := α)).readField recursionBudget (.ofBytes bytes) = .failed left error)
    (m : α) : merge m bytes = ⟨Message.replay m left.toList, some error⟩ := by
  have hs : Message.layout.scan (.ofBytes bytes) = ⟨left.toList, .error error⟩ :=
    Layout.scanUntil_of_failed (List.length_pos_iff.mpr hn) h
  rw [merge, hs]
  rfl

theorem messageReader_of_error {φ ψ : Type} {inner : Layout ψ} {put : List ψ → φ} {budget : Nat}
    {input : Input} {xs : List ψ} {error : ReadError}
    (h : inner.scanDelimited budget input = ⟨xs, .error error⟩) :
    messageReader inner put (budget + 1) .lengthDelimited input = .failed none error := by
  simp only [messageReader, Layout.scanNested, ne_eq, not_true_eq_false, if_false, h]

def ReadsDelimited (α : Type) [Message α] : Prop :=
  ∀ (m : α) (rest : Bytes), (encode m).length < Varint.bound →
    decodeDelimited (encodeDelimited m ++ rest) = .ok m

theorem readsDelimited {α : Type} [Message α] [LawfulMessage α] : ReadsDelimited α := by
  intro m rest h
  have hf : LawfulMessage.grammar.Fields (recursionBudget - 1) (encode m) (Message.contents m) :=
    fields_encode (by decide) h
  have hs := (scanDelimited_encode_eq_ok_iff LawfulMessage.reads _ rest).mpr ⟨h, hf, rfl⟩
  have hn : Message.layout.scanNested recursionBudget .lengthDelimited
      (.ofBytes (encodeDelimited m ++ rest)) = ⟨Message.contents m, .ok (.ofBytes rest)⟩ := by
    rw [encodeDelimited, encodedSize_eq h, List.append_assoc]
    exact hs
  rw [decodeDelimited, mergeDelimited, hn, Merged.toExcept_eq_ok_iff]
  exact congrArg (Merged.mk · none) (LawfulMessage.replay_contents m)

namespace Response

def entryField (payload : Bytes) : Bytes :=
  Key.encode ⟨1, .lengthDelimited⟩ ++ Varint.encode payload.length ++ payload

/-- If `payload` is no entry, nothing that follows can make it one, and `r` is what is left. -/
structure ReadsEntry (r : Response) (front payload : Bytes) : Prop where
  merge_eq : ∀ e : Entry, decodeWithin (recursionBudget - 1) payload = .ok e →
    payload.length < Varint.bound → ∀ rest,
      (merge default (front ++ entryField payload ++ rest) : Merged Response) =
        merge ⟨r.entries ++ [e]⟩ rest
  merge_fails : (∀ e : Entry, decodeWithin (recursionBudget - 1) payload ≠ .ok e) → ∀ rest,
    ∃ error, (merge default (front ++ entryField payload ++ rest) : Merged Response) =
      ⟨r, some error⟩

theorem form_entryKey : Key.Form (Key.encode ⟨1, .lengthDelimited⟩) ⟨1, .lengthDelimited⟩ :=
  Key.form_encode (by decide) (by decide)

theorem fields_entryField {payload : Bytes} {e : Entry}
    (h : decodeWithin (recursionBudget - 1) payload = .ok e) (hb : payload.length < Varint.bound) :
    grammar.Fields recursionBudget (entryField payload) [e] := by
  obtain ⟨xs, hf, rfl⟩ := decodeWithin_eq_ok_iff.mp h
  have hx : nestedForm Entry.grammar Entry.ofLast recursionBudget .lengthDelimited
      (Varint.encode payload.length ++ payload) (Message.replay default xs) :=
    ⟨rfl, _, payload, xs, rfl, delimited_encode hb, hf, Entry.foldl_put default xs⟩
  rw [entryField, List.append_assoc]
  exact (Grammar.Field.known form_entryKey rfl hx).fields

theorem readField_entryField {payload : Bytes}
    (h : ∀ e : Entry, decodeWithin (recursionBudget - 1) payload ≠ .ok e) (rest : Bytes) :
    ∃ error, layout.readField recursionBudget (.ofBytes (entryField payload ++ rest)) =
      .failed none error := by
  have hk : Key.read (.ofBytes (entryField payload ++ rest)) =
      .ok (⟨1, .lengthDelimited⟩,
        .ofBytes (Varint.encode payload.length ++ (payload ++ rest))) := by
    rw [entryField, List.append_assoc, List.append_assoc]
    exact Key.read_encode _ (by decide) (by decide)
  cases hs : Entry.layout.scanDelimited (recursionBudget - 1)
      (.ofBytes (Varint.encode payload.length ++ (payload ++ rest))) with
  | mk xs outcome =>
    cases outcome with
    | ok last =>
      obtain ⟨-, hf, -⟩ := (scanDelimited_encode_eq_ok_iff Entry.layout_reads payload rest).mp hs
      exact absurd (decodeWithin_eq_ok_iff.mpr ⟨xs, hf, rfl⟩) (h _)
    | error error =>
      have hn : messageReader Entry.layout Entry.ofFields recursionBudget .lengthDelimited
          (.ofBytes (Varint.encode payload.length ++ (payload ++ rest))) = .failed none error :=
        messageReader_of_error hs
      refine ⟨error.within ⟨layout.message, "service_locations"⟩, ?_⟩
      simp only [Layout.readField, hk, layout, hn, FieldRead.within]

theorem readsEntry {r : Response} {front : Bytes} (h : decode front = .ok r) (payload : Bytes) :
    ReadsEntry r front payload where
  merge_eq e he hb rest := by
    obtain ⟨xs, hf, rfl⟩ := decode_eq_ok_iff.mp h
    rw [merge_append (hf.append (fields_entryField he hb)), LawfulMessage.replay_append]
    rfl
  merge_fails he rest := by
    obtain ⟨xs, hf, hr⟩ := decode_eq_ok_iff.mp h
    obtain ⟨error, hfail⟩ := readField_entryField he rest
    have hn : entryField payload ++ rest ≠ [] := by
      rw [entryField, List.append_assoc, List.append_assoc]
      exact List.append_ne_nil_of_left_ne_nil form_entryKey.ne_nil _
    have hl : Message.replay r [] = r := congrArg Response.mk (List.append_nil r.entries)
    refine ⟨error, ?_⟩
    rw [List.append_assoc, merge_append hf, ← hr, merge_of_failed hn hfail r, Option.toList_none,
      hl]

end Response

/-- An entry is read from its own bytes, whatever stands in front of it and behind it. -/
theorem entry_isolated :
    (∀ (front payload : Bytes) (r : Response), decode front = .ok r →
        r.ReadsEntry front payload) ∧
      ReadsDelimited Request ∧ ReadsDelimited Entry ∧ ReadsDelimited Response :=
  ⟨fun _ payload _ h => Response.readsEntry h payload, readsDelimited, readsDelimited,
    readsDelimited⟩

theorem entry_isolated_cut :
    decode [0x0A, 0] = .ok (⟨[{}]⟩ : Response) ∧
      decodeWithin (recursionBudget - 1) [0x20, 80] = .ok ({ port := 80 } : Entry) ∧
      (∀ rest, (merge default ([0x0A, 0] ++ Response.entryField [0x20, 80] ++ rest) :
        Merged Response) = merge ⟨[{}, { port := 80 }]⟩ rest) ∧
      (∀ e : Entry, decodeWithin (recursionBudget - 1) [0x0A, 3, 0x61] ≠ .ok e) ∧
      ∀ rest, ∃ error,
        (merge default ([0x0A, 0] ++ Response.entryField [0x0A, 3, 0x61] ++ rest) :
          Merged Response) = ⟨⟨[{}]⟩, some error⟩ := by
  have hd : decode [0x0A, 0] = .ok (⟨[{}]⟩ : Response) := rfl
  have hp : decodeWithin (recursionBudget - 1) [0x20, 80] = .ok ({ port := 80 } : Entry) := rfl
  have hs : decodeWithin (recursionBudget - 1) [0x0A, 3, 0x61] =
      (.error ⟨[⟨"ServiceLocationMsg", "scope"⟩], .underflow⟩ : Except ReadError Entry) := rfl
  have hn : ∀ e : Entry, decodeWithin (recursionBudget - 1) [0x0A, 3, 0x61] ≠ .ok e := by
    intro e h
    cases hs.symm.trans h
  have hr (payload : Bytes) : Response.ReadsEntry ⟨[{}]⟩ [0x0A, 0] payload :=
    entry_isolated.1 _ payload _ hd
  exact ⟨hd, hp, (hr _).merge_eq _ hp (by decide), hn, (hr _).merge_fails hn⟩

end Locator
