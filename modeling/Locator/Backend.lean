import Locator.Status
import Locator.Wire.Input
import Locator.Message.Request
import Locator.Message.Response
import Locator.Error
import Locator.Connection

namespace Locator

open Wire

def receiveLimit : Nat := 4194304

/-- Why a body is no sequence of frames. -/
inductive FrameError where
  | truncated
  | compressed
  | unknownFlag (flag : UInt8)
  | tooLarge (size : Nat)
  deriving DecidableEq

def FrameError.status : FrameError → Status
  | truncated => ⟨.internal, "Unexpected EOF decoding stream."⟩
  | compressed =>
    ⟨.internal, "protocol error: received message with compressed-flag " ++
      "but no grpc-encoding was specified"⟩
  | unknownFlag flag =>
    ⟨.internal, s!"protocol error: received message with invalid compression flag: {flag} " ++
      "(valid flags are 0 and 1), while sending request"⟩
  | tooLarge size =>
    ⟨.outOfRange, s!"Error, decoded message length too large: found {size} bytes, " ++
      s!"the limit is: {receiveLimit} bytes"⟩

namespace Frame

def length32 (n : Nat) : Bytes :=
  [(n / 0x1000000).toUInt8, (n / 0x10000).toUInt8, (n / 0x100).toUInt8, n.toUInt8]

def encode (message : Bytes) : Bytes :=
  0 :: length32 message.length ++ message

/-- The first message in a body and the body after it. The flag is looked at before the length. -/
def next? (body : Input) : Except FrameError (Option (Bytes × Input)) :=
  if body.size = 0 then .ok none
  else
    match body.take? 5 with
    | some ([flag, a, b, c, d], rest) =>
      if flag = 1 then .error .compressed
      else if flag ≠ 0 then .error (.unknownFlag flag)
      else
        let size := 0x1000000 * a.toNat + 0x10000 * b.toNat + 0x100 * c.toNat + d.toNat
        if receiveLimit < size then .error (.tooLarge size)
        else if size ≠ 0 ∧ rest.size = 0 then .ok none
        else
          match rest.take? size with
          | some (message, rest) => .ok (some (message, rest))
          | none => .error .truncated
    | _ => .error .truncated

end Frame

def discoveryService : String := "Quaestor.ServiceDiscovery.ServiceDiscoveryGrpc"

def Mode.path (mode : Mode) : String :=
  "/" ++ discoveryService ++ "/" ++ mode.methodName

def Mode.ofPath? (path : String) : Option Mode :=
  if path = Mode.unordered.path then some .unordered
  else if path = Mode.ranked.path then some .ranked
  else none

def readMessage {α : Type} [Message α] (bytes : Bytes) : Except Status α :=
  match decode bytes with
  | .ok m => .ok m
  | .error error => .error ⟨.internal, error.message⟩

structure Stub where
  entries : List Entry
  capped : Bool := true
  failure : Option Status := none

/-- A request for no entry or fewer asks for all of them. -/
def Stub.answer (stub : Stub) (request : Request) : Except Status Response :=
  match stub.failure with
  | some status => .error status
  | none =>
    if stub.capped ∧ 0 < request.maxCount then
      .ok ⟨stub.entries.take request.maxCount.toInt.toNat⟩
    else .ok ⟨stub.entries⟩

inductive Received where
  | request (mode : Mode) (request : Request)
  | call (path : String) (body : Bytes)
  deriving DecidableEq

structure Reply where
  status : Status
  body : Bytes := []
  received : List Received := []

namespace Server

/-- Every frame takes five bytes or more, so `fuel` need not exceed the size of the body. -/
def readTrailing : (fuel : Nat) → Input → Except Status Unit
  | 0, _ => .ok ()
  | fuel + 1, body =>
    match Frame.next? body with
    | .error error => .error error.status
    | .ok none => .ok ()
    | .ok (some (bytes, rest)) =>
      match (readMessage bytes : Except Status Request) with
      | .error status => .error status
      | .ok _ => readTrailing fuel rest

def readRequest (body : Bytes) : Except Status Request :=
  match Frame.next? (.ofBytes body) with
  | .error error => .error error.status
  | .ok none => .error ⟨.internal, "Missing request message."⟩
  | .ok (some (bytes, rest)) =>
    match readMessage bytes with
    | .error status => .error status
    | .ok request =>
      match readTrailing rest.size rest with
      | .error status => .error status
      | .ok () => .ok request

def handle (stub : Stub) (uri : String) (body : Bytes) : Reply :=
  match Mode.ofPath? (Net.Uri.path uri) with
  | none => { status := ⟨.unimplemented, ""⟩ }
  | some mode =>
    match readRequest body with
    | .error status => { status }
    | .ok request =>
      match stub.answer request with
      | .error status => { status, received := [.request mode request] }
      | .ok response =>
        { status := ⟨.ok, ""⟩
          body := Frame.encode (encode response)
          received := [.request mode request] }

end Server

inductive Backend where
  | stub (s : Stub)
  | canned (response : Bytes)

def Backend.handle (backend : Backend) (path : String) (body : Bytes) : Reply :=
  match backend with
  | .stub s => Server.handle s path body
  | .canned response =>
    { status := ⟨.ok, ""⟩
      body := Frame.encode response
      received := [.call path body] }

end Locator
