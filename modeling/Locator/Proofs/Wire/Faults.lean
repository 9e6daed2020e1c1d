import Locator.Proofs.Wire.Grammar

namespace Locator.Wire

def Varint.Absent (bytes : Bytes) : Prop :=
  ∀ form rest n, bytes = form ++ rest → ¬Form form n

namespace Key

inductive Refused (n : Nat) : Fault → Prop
  | tooLarge (h : limit < n) : Refused n (.keyTooLarge n)
  | wireType (hl : n ≤ limit) (h : 6 ≤ n % 8) : Refused n (.unknownWireType (n % 8))
  | tag (hl : n ≤ limit) (hw : n % 8 < 6) (h : n / 8 = 0) : Refused n .zeroTag

inductive Broken (bytes : Bytes) : Fault → Prop
  | absent (h : Varint.Absent bytes) : Broken bytes .varint
  | refused {form rest : Bytes} {n : Nat} {fault : Fault} (he : bytes = form ++ rest)
      (hn : Varint.Form form n) (h : Refused n fault) : Broken bytes fault

end Key

inductive Undelimited (bytes : Bytes) : Fault → Prop
  | absent (h : Varint.Absent bytes) : Undelimited bytes .varint
  | underflow {form rest : Bytes} {n : Nat} (he : bytes = form ++ rest) (hn : Varint.Form form n)
      (h : rest.length < n) : Undelimited bytes .underflow

inductive GroupFault (Inner : Key → Bytes → Prop) (InnerFault : Key → Bytes → Fault → Prop)
    (tag : Nat) : Bytes → Fault → Prop
  | key {bytes : Bytes} {fault : Fault} (h : Key.Broken bytes fault) :
      GroupFault Inner InnerFault tag bytes fault
  | stop {keyBytes rest : Bytes} {other : Nat} (hk : Key.Form keyBytes ⟨other, .endGroup⟩)
      (h : other ≠ tag) :
      GroupFault Inner InnerFault tag (keyBytes ++ rest) .unexpectedEndGroup
  | inner {key : Key} {keyBytes rest : Bytes} {fault : Fault} (hk : Key.Form keyBytes key)
      (he : key.wireType ≠ .endGroup) (h : InnerFault key rest fault) :
      GroupFault Inner InnerFault tag (keyBytes ++ rest) fault
  | field {key : Key} {keyBytes bytes rest : Bytes} {fault : Fault} (hk : Key.Form keyBytes key)
      (he : key.wireType ≠ .endGroup) (hi : Inner key bytes)
      (hr : GroupFault Inner InnerFault tag rest fault) :
      GroupFault Inner InnerFault tag (keyBytes ++ bytes ++ rest) fault

def SkipFault : (budget : Nat) → Key → Bytes → Fault → Prop
  | 0, _, _, fault => fault = .recursionLimit
  | budget + 1, key, bytes, fault =>
    match key.wireType with
    | .varint => Varint.Absent bytes ∧ fault = .varint
    | .fixed64 => bytes.length < 8 ∧ fault = .underflow
    | .lengthDelimited => Undelimited bytes fault
    | .startGroup => GroupFault (Skippable budget) (SkipFault budget) key.tag bytes fault
    | .endGroup => fault = .unexpectedEndGroup
    | .fixed32 => bytes.length < 4 ∧ fault = .underflow

/-- What is left of a known field that fails, and its error, by the bytes behind its key. -/
abbrev ContentFault (φ : Type) :=
  (budget : Nat) → WireType → Bytes → Option φ → ReadError → Prop

inductive TextFault (wireType : WireType) (bytes : Bytes) : Fault → Prop
  | wireType (h : wireType ≠ .lengthDelimited) :
      TextFault wireType bytes (.wireTypeMismatch wireType .lengthDelimited)
  | length {fault : Fault} (hw : wireType = .lengthDelimited) (h : Undelimited bytes fault) :
      TextFault wireType bytes fault
  | notUtf8 {front rest payload : Bytes} (hw : wireType = .lengthDelimited)
      (he : bytes = front ++ rest) (hd : Delimited front payload)
      (h : ∀ s, payload ≠ Text.utf8 s) : TextFault wireType bytes .notUtf8

def textFault {φ : Type} (put : String → φ) : ContentFault φ := fun _ wireType bytes left error =>
  left = some (put "") ∧ ∃ fault, TextFault wireType bytes fault ∧ error = ⟨[], fault⟩

inductive Int32Fault (wireType : WireType) (bytes : Bytes) : Fault → Prop
  | wireType (h : wireType ≠ .varint) :
      Int32Fault wireType bytes (.wireTypeMismatch wireType .varint)
  | absent (hw : wireType = .varint) (h : Varint.Absent bytes) : Int32Fault wireType bytes .varint

def int32Fault {φ : Type} : ContentFault φ := fun _ wireType bytes left error =>
  left = none ∧ ∃ fault, Int32Fault wireType bytes fault ∧ error = ⟨[], fault⟩

structure FaultTable (φ : Type) where
  message : String
  content? : Nat → Option (String × ContentFault φ)

/-- An error behind the key of a known field names the field; any other names nothing. -/
inductive FaultTable.FieldFault {φ : Type} (t : FaultTable φ) (budget : Nat) (bytes : Bytes) :
    Option φ → ReadError → Prop
  | key {fault : Fault} (h : Key.Broken bytes fault) : FieldFault t budget bytes none ⟨[], fault⟩
  | unknown {key : Key} {keyBytes rest : Bytes} {fault : Fault} (he : bytes = keyBytes ++ rest)
      (hk : Key.Form keyBytes key) (ht : t.content? key.tag = none)
      (hs : SkipFault budget key rest fault) : FieldFault t budget bytes none ⟨[], fault⟩
  | known {key : Key} {name : String} {fails : ContentFault φ} {keyBytes rest : Bytes}
      {left : Option φ} {error : ReadError} (he : bytes = keyBytes ++ rest)
      (hk : Key.Form keyBytes key) (ht : t.content? key.tag = some (name, fails))
      (hx : fails budget key.wireType rest left error) :
      FieldFault t budget bytes left ⟨error.path ++ [⟨t.message, name⟩], error.fault⟩

/-- Bytes that break off being fields: `front` is fields, with a field behind it that fails. -/
def FaultTable.Breaks {φ : Type} (t : FaultTable φ) (g : Grammar φ) (budget : Nat)
    (bytes front : Bytes) (left : Option φ) (error : ReadError) : Prop :=
  ∃ rest xs, bytes = front ++ rest ∧ rest ≠ [] ∧ g.Fields budget front xs ∧
    t.FieldFault budget rest left error

/-- A field that fails begins before the end, and one that is read may run past it. -/
inductive DelimitedFault {ψ : Type} (g : Grammar ψ) (t : FaultTable ψ) (budget : Nat)
    (bytes : Bytes) : ReadError → Prop
  | length {fault : Fault} (h : Undelimited bytes fault) :
      DelimitedFault g t budget bytes ⟨[], fault⟩
  | field {form front rest : Bytes} {n : Nat} {xs : List ψ} {left : Option ψ} {error : ReadError}
      (he : bytes = form ++ (front ++ rest)) (hn : Varint.Form form n)
      (hl : n ≤ (front ++ rest).length) (hlt : front.length < n) (hf : g.Fields budget front xs)
      (hx : t.FieldFault budget rest left error) : DelimitedFault g t budget bytes error
  | overrun {form front field rest : Bytes} {n : Nat} {xs : List ψ} {x : Option ψ}
      (he : bytes = form ++ (front ++ (field ++ rest))) (hn : Varint.Form form n)
      (hlt : front.length < n) (hgt : n < (front ++ field).length) (hf : g.Fields budget front xs)
      (hx : g.Field budget field x) : DelimitedFault g t budget bytes ⟨[], .lengthExceeded⟩

inductive NestedFault {ψ : Type} (g : Grammar ψ) (t : FaultTable ψ) (wireType : WireType)
    (bytes : Bytes) : (budget : Nat) → ReadError → Prop
  | wireType {budget : Nat} (h : wireType ≠ .lengthDelimited) :
      NestedFault g t wireType bytes budget ⟨[], .wireTypeMismatch wireType .lengthDelimited⟩
  | recursionLimit (hw : wireType = .lengthDelimited) :
      NestedFault g t wireType bytes 0 ⟨[], .recursionLimit⟩
  | content {budget : Nat} {error : ReadError} (hw : wireType = .lengthDelimited)
      (h : DelimitedFault g t budget bytes error) :
      NestedFault g t wireType bytes (budget + 1) error

def nestedFault {φ ψ : Type} (g : Grammar ψ) (t : FaultTable ψ) : ContentFault φ :=
  fun budget wireType bytes left error => left = none ∧ NestedFault g t wireType bytes budget error

/-- What an error says: the known fields on the way to a fault, innermost first, and the fault. -/
inductive PathText (fault : Fault) : List FieldName → String → Prop
  | fault : PathText fault [] fault.message
  | field {f : FieldName} {path : List FieldName} {text : String} (h : PathText fault path text) :
      PathText fault (f :: path) (f.message ++ "." ++ f.field ++ ": " ++ text)

theorem PathText.eq_join {fault : Fault} {path : List FieldName} {text : String}
    (h : PathText fault path text) :
    text = String.join (path.map fun f => f.message ++ "." ++ f.field ++ ": ") ++
      fault.message := by
  induction h with
  | fault => rw [List.map_nil, String.join_nil, String.empty_append]
  | field _ ih => simp only [List.map_cons, String.join_cons, ih, String.append_assoc]

theorem exists_pathText (fault : Fault) (path : List FieldName) :
    ∃ text, PathText fault path text := by
  induction path with
  | nil => exact ⟨_, .fault⟩
  | cons f path ih =>
    obtain ⟨text, h⟩ := ih
    exact ⟨_, .field h⟩

theorem PathText.message_eq {error : ReadError} {text : String}
    (h : PathText error.fault error.path text) :
    error.message = "failed to decode Protobuf message: " ++ text := by
  unfold ReadError.message
  rw [h.eq_join, String.append_assoc]

theorem message_eq_iff {error : ReadError} {text : String} :
    error.message = text ↔ ∃ rest, PathText error.fault error.path rest ∧
      text = "failed to decode Protobuf message: " ++ rest := by
  apply Iff.intro
  · intro h
    obtain ⟨rest, hp⟩ := exists_pathText error.fault error.path
    exact ⟨rest, hp, h.symm.trans hp.message_eq⟩
  · intro h
    obtain ⟨rest, hp, he⟩ := h
    exact hp.message_eq.trans he.symm

end Locator.Wire
