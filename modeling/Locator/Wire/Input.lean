namespace Locator

abbrev Bytes := List UInt8

namespace Text

def utf8 (s : String) : Bytes :=
  s.toUTF8.data.toList

def ofUtf8? (bytes : Bytes) : Option String :=
  String.fromUTF8? ⟨bytes.toArray⟩

@[simp]
theorem ofUtf8_utf8 (s : String) : ofUtf8? (utf8 s) = some s := by
  have h : (⟨s.toByteArray.data.toList.toArray⟩ : ByteArray) = s.toByteArray := by simp
  have hv : (⟨s.toByteArray.data.toList.toArray⟩ : ByteArray).IsValidUTF8 := h ▸ s.isValidUTF8
  rw [ofUtf8?, utf8, String.toUTF8, String.fromUTF8?, dif_pos hv]
  rfl

theorem utf8_ofUtf8 {bytes : Bytes} {s : String} (h : ofUtf8? bytes = some s) :
    utf8 s = bytes := by
  simp only [ofUtf8?, String.fromUTF8?] at h
  split at h
  · cases h
    rfl
  · cases h

/-- Bytes are read as a text exactly when they are that text's bytes. -/
theorem ofUtf8_eq_some_iff {bytes : Bytes} {s : String} :
    ofUtf8? bytes = some s ↔ bytes = utf8 s :=
  ⟨fun h => (utf8_ofUtf8 h).symm, fun h => h ▸ ofUtf8_utf8 s⟩

end Text
end Locator

namespace Locator.Wire

/-- The number of bytes left is kept beside the bytes, so that comparing it costs nothing. -/
structure Input where
  bytes : Bytes
  size : Nat
  length_bytes : bytes.length = size

namespace Input

def ofBytes (bytes : Bytes) : Input :=
  ⟨bytes, bytes.length, rfl⟩

def next? : Input → Option (UInt8 × Input)
  | ⟨[], _, _⟩ => none
  | ⟨b :: bytes, size, h⟩ => some (b, ⟨bytes, size - 1, by simp at h; omega⟩)

def advance? (input : Input) (n : Nat) : Option Input :=
  if n ≤ input.size then
    some ⟨input.bytes.drop n, input.size - n, by simp [input.length_bytes]⟩
  else none

def take? (input : Input) (n : Nat) : Option (Bytes × Input) :=
  (input.advance? n).map fun rest => (input.bytes.take n, rest)

theorem ext {a b : Input} (h : a.bytes = b.bytes) : a = b := by
  obtain ⟨bytes, size, ha⟩ := a
  obtain ⟨bytes', size', hb⟩ := b
  cases h
  cases ha
  cases hb
  rfl

@[simp]
theorem bytes_ofBytes (bytes : Bytes) : (ofBytes bytes).bytes = bytes := rfl

theorem size_next {input rest : Input} {b : UInt8} (h : input.next? = some (b, rest)) :
    input.size = rest.size + 1 := by
  obtain ⟨bytes, size, hs⟩ := input
  cases bytes with
  | nil => cases h
  | cons c bytes =>
    simp only [next?, Option.some.injEq, Prod.mk.injEq] at h
    obtain ⟨-, rfl⟩ := h
    simp only [List.length_cons] at hs
    simp only
    omega

theorem next_cons (b : UInt8) (bytes : Bytes) :
    (ofBytes (b :: bytes)).next? = some (b, ofBytes bytes) := rfl

end Input
end Locator.Wire
