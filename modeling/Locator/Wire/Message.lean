import Locator.Wire.Layout

namespace Locator.Wire

class Message (α : Type) extends Inhabited α where
  /-- What one occurrence of a field can bring. -/
  Content : Type
  layout : Layout Content
  contents : α → List Content
  replay : α → List Content → α
  encodeContent : Content → Bytes
  contentSize : Content → Nat

structure CapacityError where
  required : Nat
  remaining : Nat
  deriving DecidableEq

def CapacityError.message (error : CapacityError) : String :=
  "failed to encode Protobuf message; insufficient buffer capacity " ++
    s!"(required: {error.required}, remaining: {error.remaining})"

structure Merged (α : Type) where
  message : α
  failure : Option ReadError

section
variable {α : Type} [Message α]

def encode (m : α) : Bytes :=
  (Message.contents m).flatMap Message.encodeContent

/-- The number of bytes of a message, counted without writing it. -/
def encodedSize (m : α) : Nat :=
  ((Message.contents m).map Message.contentSize).foldr (· + ·) 0

def encodeDelimited (m : α) : Bytes :=
  Varint.encode (encodedSize m) ++ encode m

def encodeInto (capacity : Nat) (m : α) : Except CapacityError Bytes :=
  if encodedSize m ≤ capacity then .ok (encode m)
  else .error ⟨encodedSize m, capacity⟩

def Merged.ofScan (m : α) (scan : Scan (Message.Content α)) : Merged α where
  message := Message.replay m scan.contents
  failure :=
    match scan.outcome with
    | .ok _ => none
    | .error error => some error

def merge (m : α) (bytes : Bytes) : Merged α :=
  .ofScan m (Message.layout.scan (.ofBytes bytes))

/-- A message of announced length; bytes after it are not looked at. -/
def mergeDelimited (m : α) (bytes : Bytes) : Merged α :=
  .ofScan m (Message.layout.scanNested recursionBudget .lengthDelimited (.ofBytes bytes))

def Merged.toExcept (merged : Merged α) : Except ReadError α :=
  match merged.failure with
  | none => .ok merged.message
  | some error => .error error

def decode (bytes : Bytes) : Except ReadError α :=
  (merge default bytes).toExcept

def decodeDelimited (bytes : Bytes) : Except ReadError α :=
  (mergeDelimited default bytes).toExcept

end

/-- The number whose varint stands for a signed number: a negative one counts down from 2⁶⁴. -/
def int32Varint (n : Int32) : Nat :=
  n.toInt64.toUInt64.toNat

def encodeText (tag : Nat) (s : String) : Bytes :=
  Key.encode ⟨tag, .lengthDelimited⟩ ++ Varint.encode s.utf8ByteSize ++ Text.utf8 s

def encodeInt32 (tag : Nat) (n : Int32) : Bytes :=
  Key.encode ⟨tag, .varint⟩ ++ Varint.encode (int32Varint n)

def encodeNested {α : Type} [Message α] (tag : Nat) (m : α) : Bytes :=
  Key.encode ⟨tag, .lengthDelimited⟩ ++ encodeDelimited m

def textSize (tag : Nat) (s : String) : Nat :=
  Key.size ⟨tag, .lengthDelimited⟩ + Varint.size s.utf8ByteSize + s.utf8ByteSize

def int32Size (tag : Nat) (n : Int32) : Nat :=
  Key.size ⟨tag, .varint⟩ + Varint.size (int32Varint n)

def nestedSize {α : Type} [Message α] (tag : Nat) (m : α) : Nat :=
  Key.size ⟨tag, .lengthDelimited⟩ + Varint.size (encodedSize m) + encodedSize m

end Locator.Wire
