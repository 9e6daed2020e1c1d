import Locator.Wire.Input
import Locator.Wire.Varint
import Locator.Status

namespace Locator.Text

def reserved : List Char :=
  "\"#%<>?\x60\x7b\x7d".toList

def isBare (b : UInt8) : Bool :=
  0x20 < b && b < 0x7F && !reserved.contains (Char.ofNat b.toNat)

def percentByte (b : UInt8) : List Char :=
  if isBare b then [Char.ofNat b.toNat]
  else ['%', (Nat.digitChar (b.toNat / 16)).toUpper, (Nat.digitChar (b.toNat % 16)).toUpper]

def percentEncode (s : String) : String :=
  String.ofList ((utf8 s).flatMap percentByte)

end Locator.Text

namespace Locator.Header

open Wire

/-- The characters that take fewer than 30 bits, by the bits that they take. -/
def frequent : List (Nat × List Char) :=
  [(5, "012aceiost".toList),
    (6, " %-./3456789=A_bdfghlmnpru".toList),
    (7, ":BCDEFGHIJKLMNOPQRSTUVWYjkqvwxyz".toList),
    (8, "&*,;XZ".toList),
    (10, "!\"()?".toList),
    (11, "'+|".toList),
    (12, "#>".toList),
    (13, "$@[]~".toList),
    (14, "^\x7d".toList),
    (15, "<\x60\x7b".toList),
    (19, "\\".toList)]

def bits (c : Char) : Nat :=
  match frequent.find? fun (_, chars) => chars.contains c with
  | some (n, _) => n
  | none => 30

def numberSize (n : Nat) : Nat :=
  if n < 127 then 1 else 1 + Varint.size (n - 127)

def packedText (s : String) : Nat :=
  let bytes := ((s.toList.map bits).foldr (· + ·) 0 + 7) / 8
  numberSize bytes + bytes

end Locator.Header

namespace Locator

structure Header where
  name : String
  value : String
  deriving DecidableEq

inductive HeaderFault where
  | tooManyFrames
  | tooLarge
  deriving DecidableEq

def HeaderFault.code : HeaderFault → Code
  | tooManyFrames => .resourceExhausted
  | tooLarge => .internal

namespace Header

/-- The size of a header that is read: a receiver counts 32 bytes beside its text. -/
def size (h : Header) : Nat :=
  h.name.length + h.value.length + 32

def packedName : String → Nat
  | "content-type" => 1
  | "date" => 1
  | "content-length" => 2
  | name => 1 + packedText name

/-- The header that says that a reply came is well known as a whole. -/
def packedSize (h : Header) : Nat :=
  if h = ⟨":status", "200"⟩ then 1 else packedName h.name + packedText h.value

def totalSize (headers : List Header) : Nat :=
  (headers.map size).foldr (· + ·) 0

def totalPackedSize (headers : List Header) : Nat :=
  (headers.map packedSize).foldr (· + ·) 0

def sizeLimit : Nat := 16384

/-- The most bytes of packed headers that a receiver collects: three frames. -/
def packedLimit : Nat := 3 * 16384

def fault? (headers : List Header) : Option HeaderFault :=
  if packedLimit < totalPackedSize headers then some .tooManyFrames
  else if sizeLimit ≤ totalSize headers then some .tooLarge
  else none

end Header

/-- An empty message has no header, and every date is as long as this one. -/
def Status.headers (s : Status) : List Header :=
  [⟨":status", "200"⟩, ⟨"content-type", "application/grpc"⟩,
      ⟨"grpc-status", Nat.repr s.code.number⟩] ++
    (if s.message = "" then [] else [⟨"grpc-message", Text.percentEncode s.message⟩]) ++
    [⟨"content-length", "0"⟩, ⟨"date", "Thu, 01 Jan 1970 00:00:00 GMT"⟩]

end Locator
