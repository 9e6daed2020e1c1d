import Locator.Error
import Locator.Backend
import Locator.Connection
import Locator.Header

namespace Locator

open Wire

inductive Event where
  | plaintextChannel
  | channelReady (host : String)
  | channelFailed (host reason : String)
  | unverifiedCall (mode : Mode)
  | returned (mode : Mode) (count : Nat)
  deriving DecidableEq

namespace Event

def level : Event → String
  | plaintextChannel => "DEBUG"
  | channelReady _ => "INFO"
  | channelFailed _ _ => "ERROR"
  | unverifiedCall _ => "WARN"
  | returned _ _ => "DEBUG"

def target : Event → String
  | plaintextChannel => "quaestor::provisioner"
  | channelReady _ => "quaestor::provisioner"
  | channelFailed _ _ => "quaestor::provisioner"
  | unverifiedCall _ => "quaestor::discovery"
  | returned _ _ => "quaestor::discovery"

def message : Event → String
  | plaintextChannel => "creating plaintext channel"
  | channelReady host => "successfully established secure channel to " ++ host
  | channelFailed host _ => "failed to establish secure channel to " ++ host
  | unverifiedCall mode => s!"calling {mode.methodName} over an unverified channel"
  | returned mode count => s!"{mode.methodName} returned {count} location(s)"

def fields : Event → List (String × String)
  | channelFailed _ reason => [("reason", reason)]
  | _ => []

end Event

inductive Readiness where
  | notChecked
  | ready
  /-- An encrypted channel that was not ready in time; a call on it tries again. -/
  | unverified (reason : String)
  deriving DecidableEq

namespace Readiness

def isReady (r : Readiness) : Bool :=
  r = ready

def describe : Readiness → String
  | notChecked => "NotChecked"
  | ready => "Ready"
  | unverified reason => Text.record "Unverified" [("reason", Text.quote reason)]

end Readiness

inductive Link where
  | live
  | broken
  | stalled
  deriving DecidableEq

structure Channel where
  readiness : Readiness
  link : Link
  deriving DecidableEq

namespace Channel

def readBody (body : Bytes) : Except Status Response :=
  match Frame.next? (.ofBytes body) with
  | .error error => .error error.status
  | .ok none => .error ⟨.internal, "Missing response message."⟩
  | .ok (some (bytes, _)) => readMessage bytes

/-- The headers come before the body, and a status is read from them. -/
def readReply (reply : Reply) : Except CallFailure Response :=
  match Header.fault? reply.status.headers with
  | some fault => .error (.transport fault.code)
  | none =>
    if reply.status.code ≠ .ok then .error (.answered reply.status)
    else
      match readBody reply.body with
      | .ok response => .ok response
      | .error status => .error (.answered status)

def call (channel : Channel) (backend : Backend) (mode : Mode) (request : Request) :
    Except CallFailure Response × List Received :=
  match channel.link with
  | .broken => (.error (.transport .unavailable), [])
  | .stalled => (.error (.transport .cancelled), [])
  | .live =>
    let reply := backend.handle mode.path (Frame.encode (encode request))
    (readReply reply, reply.received)

end Channel

structure Provided (P : Type) where
  provider : P
  events : List Event := []
  channel : Except DiscoveryError Channel

/-- Hands out channels. `Conditions` is what its surroundings decide each time. -/
class ChannelProvider (P : Type) (Conditions : outParam Type) where
  provide : P → Conditions → Connection → Provided P

/-- A provider with one answer for each connection, which counts how often it is asked. -/
structure FixedProvider where
  answer : Connection → Except DiscoveryError Readiness
  calls : Nat := 0

instance : ChannelProvider FixedProvider Unit where
  provide p _ connection :=
    { provider := { p with calls := p.calls + 1 }
      channel :=
        match p.answer connection with
        | .ok readiness => .ok ⟨readiness, .live⟩
        | .error error => .error error }

end Locator
