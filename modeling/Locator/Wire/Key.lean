import Locator.Wire.Varint
import Locator.Wire.ReadError

namespace Locator.Wire

structure Key where
  tag : Nat
  wireType : WireType
  deriving DecidableEq

namespace Key

def limit : Nat := 0xFFFFFFFF

def toNat (key : Key) : Nat :=
  8 * key.tag + key.wireType.code

/-- A number's size is looked at first, then its form, then its tag. -/
def ofNat (n : Nat) : Except Fault Key :=
  if n > limit then .error (.keyTooLarge n)
  else
    match WireType.ofCode? (n % 8) with
    | none => .error (.unknownWireType (n % 8))
    | some wireType => if n / 8 = 0 then .error .zeroTag else .ok ⟨n / 8, wireType⟩

def encode (key : Key) : Bytes :=
  Varint.encode key.toNat

def size (key : Key) : Nat :=
  Varint.size key.toNat

def read (input : Input) : Except Fault (Key × Input) :=
  match Varint.read? input with
  | none => .error .varint
  | some (n, rest) =>
    match ofNat n with
    | .ok key => .ok (key, rest)
    | .error fault => .error fault

theorem code_lt (w : WireType) : w.code < 8 := by
  cases w <;> decide

theorem ofNat_toNat {key : Key} (h : key.tag ≠ 0) (hl : key.toNat ≤ limit) :
    ofNat key.toNat = .ok key := by
  obtain ⟨tag, w⟩ := key
  have hw := code_lt w
  have hm : (8 * tag + w.code) % 8 = w.code := by omega
  have hd : (8 * tag + w.code) / 8 = tag := by omega
  simp only [toNat] at hl
  simp only [ofNat, toNat, hm, hd, WireType.ofCode_code, if_neg h]
  rw [if_neg (by omega)]

theorem size_read {key : Key} {input rest : Input} (h : read input = .ok (key, rest)) :
    rest.size < input.size := by
  unfold read at h
  split at h
  · cases h
  · next hr =>
    split at h
    · cases h
      exact Varint.size_read hr
    · cases h

theorem read_encode {key : Key} (rest : Bytes) (h : key.tag ≠ 0) (hl : key.toNat ≤ limit) :
    read (.ofBytes (encode key ++ rest)) = .ok (key, .ofBytes rest) := by
  have hn : key.toNat < Varint.bound := Nat.lt_of_le_of_lt hl (by decide)
  rw [read, encode, Varint.read_encode rest hn]
  simp only [ofNat_toNat h hl]

end Key

/-- Every field takes a byte or more, so `fuel` need not exceed the size of the input. -/
def skipGroup (skipInner : Key → Input → Except Fault Input) (tag : Nat) :
    (fuel : Nat) → Input → Except Fault Input
  | 0, _ => .error .varint
  | fuel + 1, input =>
    match Key.read input with
    | .error fault => .error fault
    | .ok (key, rest) =>
      if key.wireType = .endGroup then
        if key.tag = tag then .ok rest else .error .unexpectedEndGroup
      else
        match skipInner key rest with
        | .error fault => .error fault
        | .ok rest => skipGroup skipInner tag fuel rest

def skipBytes (n : Nat) (input : Input) : Except Fault Input :=
  match input.advance? n with
  | some rest => .ok rest
  | none => .error .underflow

/-- Each level of nesting takes one level of `budget`. -/
def skipField : (budget : Nat) → Key → Input → Except Fault Input
  | 0, _, _ => .error .recursionLimit
  | budget + 1, key, input =>
    match key.wireType with
    | .varint =>
      match Varint.read? input with
      | some (_, rest) => .ok rest
      | none => .error .varint
    | .fixed64 => skipBytes 8 input
    | .lengthDelimited =>
      match Varint.read? input with
      | some (n, rest) => skipBytes n rest
      | none => .error .varint
    | .startGroup => skipGroup (skipField budget) key.tag input.size input
    | .endGroup => .error .unexpectedEndGroup
    | .fixed32 => skipBytes 4 input

end Locator.Wire
