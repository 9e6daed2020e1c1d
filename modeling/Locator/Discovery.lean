import Locator.Channel
import Locator.Location
import Locator.Query

namespace Locator

structure Discovery (P : Type) where
  connection : Connection
  defaultQuery : Query
  provider : P
  requireReady : Bool

/-- What a call leads to, with the provider after it. -/
structure Outcome (P ρ : Type) where
  result : ρ
  events : List Event
  received : List Received
  provider : P

namespace Discovery

variable {P C : Type} [ChannelProvider P C]

def locate (mode : Mode) (answer : Except CallFailure Response) :
    Except DiscoveryError Locations :=
  match answer with
  | .error failure => .error (.rpc mode failure)
  | .ok response =>
    match Location.ofResponse response with
    | .error (index, error) => .error (.decode index error)
    | .ok locations => .ok ⟨locations⟩

def warnings (mode : Mode) : Readiness → List Event
  | .unverified _ => [.unverifiedCall mode]
  | _ => []

def report (mode : Mode) : Except DiscoveryError Locations → List Event
  | .ok locations => [.returned mode locations.remaining.length]
  | .error _ => []

def refusal? (d : Discovery P) : Readiness → Option DiscoveryError
  | .unverified reason =>
    if d.requireReady then some (.channelNotReady d.connection.address reason) else none
  | _ => none

def discover (d : Discovery P) (conditions : C) (backend : Backend) (mode : Mode) (q : Query) :
    Outcome P (Except DiscoveryError Locations) :=
  let provided := ChannelProvider.provide d.provider conditions d.connection
  match provided.channel with
  | .error error => ⟨.error error, provided.events, [], provided.provider⟩
  | .ok channel =>
    match d.refusal? channel.readiness with
    | some error => ⟨.error error, provided.events, [], provided.provider⟩
    | none =>
      let (answer, received) := channel.call backend mode q.request
      let result := locate mode answer
      ⟨result, provided.events ++ warnings mode channel.readiness ++ report mode result, received,
        provided.provider⟩

end Discovery
end Locator
