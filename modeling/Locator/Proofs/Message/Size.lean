import Mathlib.Data.List.Basic
import Locator.Proofs.Message.Concatenation

namespace Locator

namespace Wire

/-- The bytes written to a buffer, and the number of those that it still takes. -/
structure Buffer where
  written : Bytes
  room : Nat
  deriving DecidableEq

namespace Buffer

def put? : Buffer → UInt8 → Option Buffer
  | ⟨_, 0⟩, _ => none
  | ⟨written, room + 1⟩, b => some ⟨written ++ [b], room⟩

def write? (buffer : Buffer) (bytes : Bytes) : Option Buffer :=
  bytes.foldlM put? buffer

theorem write_cons (buffer : Buffer) (b : UInt8) (bytes : Bytes) :
    buffer.write? (b :: bytes) = (buffer.put? b).bind (write? · bytes) := rfl

theorem write_append (buffer : Buffer) (bytes more : Bytes) :
    buffer.write? (bytes ++ more) = (buffer.write? bytes).bind (write? · more) :=
  List.foldlM_append

theorem write_eq (buffer : Buffer) (bytes : Bytes) :
    buffer.write? bytes =
      if bytes.length ≤ buffer.room then
        some ⟨buffer.written ++ bytes, buffer.room - bytes.length⟩
      else none := by
  induction bytes generalizing buffer with
  | nil => simp [write?]
  | cons b bytes ih =>
    obtain ⟨written, room⟩ := buffer
    cases room with
    | zero => rfl
    | succ room =>
      rw [write_cons, put?, Option.bind_some, ih]
      simp

section
variable {α : Type} [Message α]

def writeContents? (buffer : Buffer) (xs : List (Message.Content α)) : Option Buffer :=
  xs.foldlM (fun buffer x => buffer.write? (Message.encodeContent x)) buffer

theorem writeContents_eq (buffer : Buffer) (xs : List (Message.Content α)) :
    buffer.writeContents? xs = buffer.write? (xs.flatMap Message.encodeContent) := by
  induction xs generalizing buffer with
  | nil => rfl
  | cons x xs ih =>
    rw [List.flatMap_cons, write_append]
    exact congrArg _ (funext ih)

theorem writeContents_contents (m : α) (buffer : Buffer) :
    buffer.writeContents? (Message.contents m) =
      if (encode m).length ≤ buffer.room then
        some ⟨buffer.written ++ encode m, buffer.room - (encode m).length⟩
      else none :=
  (writeContents_eq buffer _).trans (write_eq buffer (encode m))

/-- There is no outcome if the room runs out on the way. -/
def encode? (buffer : Buffer) (m : α) : Option (Except CapacityError Unit × Buffer) :=
  if encodedSize m ≤ buffer.room then
    (buffer.writeContents? (Message.contents m)).map fun after => (.ok (), after)
  else some (.error ⟨encodedSize m, buffer.room⟩, buffer)

end
end Buffer

structure Sized {α : Type} [Message α] (m : α) : Prop where
  encodedSize_eq : encodedSize m = (encode m).length
  encodeDelimited_eq :
    ∃ size, Varint.Shortest size (encode m).length ∧ encodeDelimited m = size ++ encode m
  encodeInto_eq_ok_iff : ∀ (capacity : Nat) (bytes : Bytes),
    encodeInto capacity m = .ok bytes ↔ (encode m).length ≤ capacity ∧ bytes = encode m
  encodeInto_eq_error_iff : ∀ (capacity : Nat) (error : CapacityError),
    encodeInto capacity m = .error error ↔
      capacity < (encode m).length ∧ error = ⟨(encode m).length, capacity⟩
  writeContents_eq : ∀ buffer : Buffer,
    buffer.writeContents? (Message.contents m) =
      if (encode m).length ≤ buffer.room then
        some ⟨buffer.written ++ encode m, buffer.room - (encode m).length⟩
      else none
  encode_eq : ∀ buffer : Buffer,
    buffer.encode? m =
      match encodeInto buffer.room m with
      | .ok bytes => some (.ok (), ⟨buffer.written ++ bytes, buffer.room - bytes.length⟩)
      | .error error => some (.error error, buffer)

section
variable {α : Type} [Message α] [LawfulMessage α] {m : α}

theorem sized_of_length_lt (h : (encode m).length < Varint.bound) : Sized m where
  encodedSize_eq := encodedSize_eq h
  encodeDelimited_eq := by
    rw [encodeDelimited, encodedSize_eq h]
    exact ⟨_, Varint.shortest_encode h, rfl⟩
  encodeInto_eq_ok_iff capacity bytes := by
    rw [encodeInto, encodedSize_eq h]
    split
    · next hc => simp [hc, eq_comm]
    · next hc => simp [hc]
  encodeInto_eq_error_iff capacity error := by
    rw [encodeInto, encodedSize_eq h]
    split
    · next hc => simp [Nat.not_lt.mpr hc]
    · next hc => simp [Nat.lt_of_not_le hc, eq_comm]
  writeContents_eq := Buffer.writeContents_contents m
  encode_eq buffer := by
    rw [Buffer.encode?, Buffer.writeContents_contents, encodeInto, encodedSize_eq h]
    split
    · rfl
    · rfl

theorem encode_eq_nil_iff (hd : Message.contents (default : α) = []) :
    encode m = [] ↔ m = default := by
  have hn : encode (default : α) = [] := congrArg (List.flatMap Message.encodeContent) hd
  apply Iff.intro
  · intro h
    have hm : decode (encode m) = .ok m := decode_encode (by rw [h]; decide)
    have hdef : decode (encode default) = .ok (default : α) := decode_encode (by rw [hn]; decide)
    rw [h, ← hn, hdef] at hm
    cases hm
    rfl
  · intro h
    rw [h, hn]

end
end Wire

open Wire

namespace Response

theorem encodeNested_eq {e : Entry} (h : (encodeNested 1 e).length < Varint.bound) :
    encodeNested 1 e = entryField (encode e) := by
  rw [encodeNested, encodeDelimited, encodedSize_eq (length_encode_lt h), entryField,
    List.append_assoc]

theorem encode_eq {r : Response} (h : (encode r).length < Varint.bound) :
    encode r = r.entries.flatMap fun e => entryField (encode e) := by
  apply List.flatMap_congr
  intro (e : Entry) he
  have hl : (encodeNested 1 e).length ≤ (encode r).length := length_le_of_mem he
  exact encodeNested_eq (Nat.lt_of_le_of_lt hl h)

end Response

structure SizedExactly (α : Type) [Message α] : Prop where
  sized : ∀ m : α, (encode m).length < Varint.bound → Sized m
  encode_eq_nil_iff : ∀ m : α, encode m = [] ↔ m = default

theorem sizedExactly {α : Type} [Message α] [LawfulMessage α]
    (hd : Message.contents (default : α) = []) : SizedExactly α :=
  ⟨fun _ => sized_of_length_lt, fun _ => Wire.encode_eq_nil_iff hd⟩

/-- Each message is as long as was counted, and so is each entry of a response. -/
theorem encode_sized :
    SizedExactly Request ∧ SizedExactly Entry ∧ SizedExactly Response ∧
      ∀ r : Response, (encode r).length < Varint.bound →
        encode r = r.entries.flatMap fun e => Response.entryField (encode e) :=
  ⟨sizedExactly rfl, sizedExactly rfl, sizedExactly rfl, fun _ => Response.encode_eq⟩

/-- A port below zero takes ten bytes; a buffer for twelve does not hold a response with it. -/
theorem encode_sized_negative_port :
    encodedSize (⟨[⟨"", "", "", -1⟩]⟩ : Response) = 13 ∧
      Buffer.encode? ⟨[7], 12⟩ (⟨[⟨"", "", "", -1⟩]⟩ : Response) =
        some (.error ⟨13, 12⟩, ⟨[7], 12⟩) ∧
      encode (⟨[⟨"", "", "", -1⟩]⟩ : Response) = [0x0A, 11] ++ encode (⟨"", "", "", -1⟩ : Entry) ∧
      encode (⟨[⟨"", "", "", -1⟩]⟩ : Response) ≠ [] := by
  have hn : (encode (⟨[⟨"", "", "", -1⟩]⟩ : Response)).length = 13 := by decide +kernel
  have hl : (encode (⟨[⟨"", "", "", -1⟩]⟩ : Response)).length < Varint.bound := by
    rw [hn]
    decide
  obtain ⟨-, -, ⟨hs, he⟩, hr⟩ := encode_sized
  have hc := (hs _ hl).encodeInto_eq_error_iff 12 ⟨13, 12⟩
  rw [hn] at hc
  refine ⟨(hs _ hl).encodedSize_eq.trans hn, ?_, (hr _ hl).trans (by decide +kernel), ?_⟩
  · rw [(hs _ hl).encode_eq, hc.mpr ⟨by decide, rfl⟩]
  · exact mt (he _).mp (by decide)

end Locator
