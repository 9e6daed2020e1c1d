namespace Locator.Wire

inductive WireType where
  | varint
  | fixed64
  | lengthDelimited
  | startGroup
  | endGroup
  | fixed32
  deriving DecidableEq

namespace WireType

def code : WireType → Nat
  | varint => 0
  | fixed64 => 1
  | lengthDelimited => 2
  | startGroup => 3
  | endGroup => 4
  | fixed32 => 5

/-- The form of a number; six and seven are the number of none. -/
def ofCode? : Nat → Option WireType
  | 0 => some varint
  | 1 => some fixed64
  | 2 => some lengthDelimited
  | 3 => some startGroup
  | 4 => some endGroup
  | 5 => some fixed32
  | _ => none

def name : WireType → String
  | varint => "Varint"
  | fixed64 => "SixtyFourBit"
  | lengthDelimited => "LengthDelimited"
  | startGroup => "StartGroup"
  | endGroup => "EndGroup"
  | fixed32 => "ThirtyTwoBit"

@[simp]
theorem ofCode_code (w : WireType) : ofCode? w.code = some w := by
  cases w <;> rfl

end WireType

inductive Fault where
  | varint
  | keyTooLarge (key : Nat)
  | unknownWireType (code : Nat)
  | zeroTag
  | wireTypeMismatch (actual expected : WireType)
  | underflow
  | lengthExceeded
  | unexpectedEndGroup
  | recursionLimit
  | notUtf8
  deriving DecidableEq

def Fault.message : Fault → String
  | varint => "invalid varint"
  | keyTooLarge key => s!"invalid key value: {key}"
  | unknownWireType code => s!"invalid wire type value: {code}"
  | zeroTag => "invalid tag value: 0"
  | wireTypeMismatch actual expected =>
    s!"invalid wire type: {actual.name} (expected {expected.name})"
  | underflow => "buffer underflow"
  | lengthExceeded => "delimited length exceeded"
  | unexpectedEndGroup => "unexpected end group tag"
  | recursionLimit => "recursion limit reached"
  | notUtf8 => "invalid string value: data is not UTF-8 encoded"

structure FieldName where
  message : String
  field : String
  deriving DecidableEq

/-- A fault and the known fields on the way to it, innermost first. -/
structure ReadError where
  path : List FieldName
  fault : Fault
  deriving DecidableEq

namespace ReadError

def ofFault (fault : Fault) : ReadError :=
  ⟨[], fault⟩

def within (field : FieldName) (error : ReadError) : ReadError :=
  { error with path := error.path ++ [field] }

def message (error : ReadError) : String :=
  let path := String.join (error.path.map fun f => f.message ++ "." ++ f.field ++ ": ")
  "failed to decode Protobuf message: " ++ path ++ error.fault.message

end ReadError
end Locator.Wire
