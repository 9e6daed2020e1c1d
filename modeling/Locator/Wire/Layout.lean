import Locator.Wire.Key

namespace Locator.Wire

def recursionBudget : Nat := 100

/-- A failed read says what is left in the place of the field. -/
inductive FieldRead (φ : Type) where
  | ok (content : Option φ) (rest : Input)
  | failed (left : Option φ) (error : ReadError)

abbrev Reader (φ : Type) := (budget : Nat) → WireType → Input → FieldRead φ

structure Layout (φ : Type) where
  message : String
  field? : Nat → Option (String × Reader φ)

structure Scan (φ : Type) where
  contents : List φ
  outcome : Except ReadError Input

def readText (wireType : WireType) (input : Input) : Except Fault (String × Input) :=
  if wireType ≠ .lengthDelimited then .error (.wireTypeMismatch wireType .lengthDelimited)
  else
    match Varint.read? input with
    | none => .error .varint
    | some (n, rest) =>
      match rest.take? n with
      | none => .error .underflow
      | some (bytes, rest) =>
        match Text.ofUtf8? bytes with
        | none => .error .notUtf8
        | some s => .ok (s, rest)

def readInt32 (wireType : WireType) (input : Input) : Except Fault (Int32 × Input) :=
  if wireType ≠ .varint then .error (.wireTypeMismatch wireType .varint)
  else
    match Varint.read? input with
    | none => .error .varint
    | some (n, rest) => .ok (Int32.ofNat n, rest)

/-- A field that holds a text. A failure leaves it empty. -/
def textReader {φ : Type} (put : String → φ) : Reader φ := fun _ wireType input =>
  match readText wireType input with
  | .ok (s, rest) => .ok (some (put s)) rest
  | .error fault => .failed (some (put "")) (.ofFault fault)

def int32Reader {φ : Type} (put : Int32 → φ) : Reader φ := fun _ wireType input =>
  match readInt32 wireType input with
  | .ok (n, rest) => .ok (some (put n)) rest
  | .error fault => .failed none (.ofFault fault)

def FieldRead.within {φ : Type} (field : FieldName) : FieldRead φ → FieldRead φ
  | .ok content rest => .ok content rest
  | .failed left error => .failed left (error.within field)

namespace Layout

variable {φ : Type} (layout : Layout φ)

def readField (budget : Nat) (input : Input) : FieldRead φ :=
  match Key.read input with
  | .error fault => .failed none (.ofFault fault)
  | .ok (key, rest) =>
    match layout.field? key.tag with
    | some (name, read) => (read budget key.wireType rest).within ⟨layout.message, name⟩
    | none =>
      match skipField budget key rest with
      | .ok rest => .ok none rest
      | .error fault => .failed none (.ofFault fault)

/-- Reads fields until at most `stop` bytes are left; `before` has what they brought, last first. -/
def scanFields (budget stop : Nat) : (fuel : Nat) → (before : List φ) → Input → Scan φ
  | 0, before, input => ⟨before.reverse, .ok input⟩
  | fuel + 1, before, input =>
    if input.size ≤ stop then ⟨before.reverse, .ok input⟩
    else
      match layout.readField budget input with
      | .ok none rest => scanFields budget stop fuel before rest
      | .ok (some content) rest => scanFields budget stop fuel (content :: before) rest
      | .failed none error => ⟨before.reverse, .error error⟩
      | .failed (some left) error => ⟨(left :: before).reverse, .error error⟩

def scanUntil (budget stop : Nat) (input : Input) : Scan φ :=
  layout.scanFields budget stop input.size [] input

def scan (input : Input) : Scan φ :=
  layout.scanUntil recursionBudget 0 input

/-- The last field of the message must end where the message does. -/
def scanDelimited (budget : Nat) (input : Input) : Scan φ :=
  match Varint.read? input with
  | none => ⟨[], .error (.ofFault .varint)⟩
  | some (n, rest) =>
    if n > rest.size then ⟨[], .error (.ofFault .underflow)⟩
    else
      let inner := layout.scanUntil budget (rest.size - n) rest
      match inner.outcome with
      | .error _ => inner
      | .ok last =>
        if last.size = rest.size - n then inner
        else ⟨inner.contents, .error (.ofFault .lengthExceeded)⟩

def scanNested (budget : Nat) (wireType : WireType) (input : Input) : Scan φ :=
  if wireType ≠ .lengthDelimited then
    ⟨[], .error (.ofFault (.wireTypeMismatch wireType .lengthDelimited))⟩
  else
    match budget with
    | 0 => ⟨[], .error (.ofFault .recursionLimit)⟩
    | budget + 1 => layout.scanDelimited budget input

end Layout

def messageReader {φ ψ : Type} (inner : Layout ψ) (put : List ψ → φ) : Reader φ :=
  fun budget wireType input =>
    match inner.scanNested budget wireType input with
    | ⟨contents, .ok rest⟩ => .ok (some (put contents)) rest
    | ⟨_, .error error⟩ => .failed none error

end Locator.Wire
