import Locator.Wire.Layout

namespace Locator.Wire

def Varint.value : Bytes → Nat
  | [] => 0
  | b :: bytes => b.toNat % 128 + 128 * value bytes

inductive Varint.Terminated : Bytes → Prop
  | last {b : UInt8} (hb : b < 128) : Terminated [b]
  | more {b : UInt8} {bytes : Bytes} (hb : 128 ≤ b) (h : Terminated bytes) :
      Terminated (b :: bytes)

/-- The forms of a 64-bit number, the shortest and all longer ones of at most ten bytes. -/
structure Varint.Form (bytes : Bytes) (n : Nat) : Prop where
  terminated : Terminated bytes
  length_le : bytes.length ≤ 10
  tenth_le : ∀ b, bytes[9]? = some b → b ≤ 1
  value_eq : value bytes = n

structure Key.Form (bytes : Bytes) (key : Key) : Prop where
  number : Varint.Form bytes key.toNat
  toNat_le : key.toNat ≤ limit
  tag_ne : key.tag ≠ 0

def Delimited (bytes payload : Bytes) : Prop :=
  ∃ prefixed, Varint.Form prefixed payload.length ∧ bytes = prefixed ++ payload

/-- `Inner` says what may follow the key of a field in the group. -/
inductive Group (Inner : Key → Bytes → Prop) (tag : Nat) : Bytes → Prop
  | stop {bytes : Bytes} (hk : Key.Form bytes ⟨tag, .endGroup⟩) : Group Inner tag bytes
  | field {key : Key} {keyBytes bytes rest : Bytes} (hk : Key.Form keyBytes key)
      (he : key.wireType ≠ .endGroup) (hi : Inner key bytes) (hr : Group Inner tag rest) :
      Group Inner tag (keyBytes ++ bytes ++ rest)

/-- What may follow the key of a field that is not known, with `budget` levels of nesting left. -/
def Skippable : (budget : Nat) → Key → Bytes → Prop
  | 0, _, _ => False
  | budget + 1, key, bytes =>
    match key.wireType with
    | .varint => ∃ n, Varint.Form bytes n
    | .fixed64 => bytes.length = 8
    | .lengthDelimited => ∃ payload, Delimited bytes payload
    | .startGroup => Group (Skippable budget) key.tag bytes
    | .endGroup => False
    | .fixed32 => bytes.length = 4

abbrev ContentForm (φ : Type) := (budget : Nat) → WireType → Bytes → φ → Prop

def textForm {φ : Type} (put : String → φ) : ContentForm φ := fun _ wireType bytes x =>
  wireType = .lengthDelimited ∧ ∃ s, Delimited bytes (Text.utf8 s) ∧ x = put s

/-- Any form of a number, cut down to 32 bits and then read as a signed number. -/
def int32Form {φ : Type} (put : Int32 → φ) : ContentForm φ := fun _ wireType bytes x =>
  wireType = .varint ∧
    ∃ n v, Varint.Form bytes n ∧ v.toInt = (n : Int).bmod 4294967296 ∧ x = put v

structure Grammar (φ : Type) where
  content? : Nat → Option (ContentForm φ)

namespace Grammar

variable {φ : Type} {g : Grammar φ} {budget : Nat}

inductive Field (g : Grammar φ) (budget : Nat) : Bytes → Option φ → Prop
  | known {key : Key} {form : ContentForm φ} {keyBytes bytes : Bytes} {x : φ}
      (hk : Key.Form keyBytes key) (hf : g.content? key.tag = some form)
      (hx : form budget key.wireType bytes x) : Field g budget (keyBytes ++ bytes) (some x)
  | unknown {key : Key} {keyBytes bytes : Bytes} (hk : Key.Form keyBytes key)
      (hf : g.content? key.tag = none) (hs : Skippable budget key bytes) :
      Field g budget (keyBytes ++ bytes) none

inductive Fields (g : Grammar φ) (budget : Nat) : Bytes → List φ → Prop
  | nil : Fields g budget [] []
  | cons {bytes rest : Bytes} {x : Option φ} {xs : List φ} (hf : g.Field budget bytes x)
      (hr : Fields g budget rest xs) : Fields g budget (bytes ++ rest) (x.toList ++ xs)

end Grammar

def nestedForm {φ ψ : Type} (inner : Grammar ψ) (put : List ψ → φ) : ContentForm φ :=
  fun budget wireType bytes x =>
    wireType = .lengthDelimited ∧ ∃ left payload xs, budget = left + 1 ∧
      Delimited bytes payload ∧ inner.Fields left payload xs ∧ x = put xs

theorem Varint.Terminated.ne_nil {bytes : Bytes} (h : Terminated bytes) : bytes ≠ [] := by
  cases h <;> simp

theorem Key.Form.ne_nil {bytes : Bytes} {key : Key} (h : Form bytes key) : bytes ≠ [] :=
  h.number.terminated.ne_nil

namespace Grammar

variable {φ : Type} {g : Grammar φ} {budget : Nat}

theorem Field.ne_nil {bytes : Bytes} {x : Option φ} (h : g.Field budget bytes x) : bytes ≠ [] := by
  cases h with
  | known hk _ _ => exact List.append_ne_nil_of_left_ne_nil hk.ne_nil _
  | unknown hk _ _ => exact List.append_ne_nil_of_left_ne_nil hk.ne_nil _

theorem Fields.append {a b : Bytes} {xs ys : List φ} (ha : g.Fields budget a xs)
    (hb : g.Fields budget b ys) : g.Fields budget (a ++ b) (xs ++ ys) := by
  induction ha with
  | nil => exact hb
  | cons hf _ ih =>
    rw [List.append_assoc, List.append_assoc]
    exact .cons hf ih

theorem Field.fields {bytes : Bytes} {x : Option φ} (h : g.Field budget bytes x) :
    g.Fields budget bytes x.toList := by
  have hs := Fields.cons h .nil
  rwa [List.append_nil, List.append_nil] at hs

theorem Fields.flatMap {write : φ → Bytes} {xs : List φ}
    (h : ∀ x ∈ xs, g.Field budget (write x) (some x)) :
    g.Fields budget (xs.flatMap write) xs := by
  induction xs with
  | nil => exact .nil
  | cons x xs ih =>
    obtain ⟨hx, hxs⟩ := List.forall_mem_cons.mp h
    rw [List.flatMap_cons]
    exact .cons hx (ih hxs)

end Grammar
end Locator.Wire
