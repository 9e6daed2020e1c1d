import Locator.Net.HostName
import Locator.Credentials
import Locator.Location
import Locator.Status

namespace Locator

inductive Mode where
  | unordered
  /-- The instances ranked by their load, best first. -/
  | ranked
  deriving DecidableEq

namespace Mode

def methodName : Mode → String
  | unordered => "DiscoverServices"
  | ranked => "DiscoverTopServices"

def describe : Mode → String
  | unordered => "Unordered"
  | ranked => "Ranked"

end Mode

inductive ConfigError where
  | hostName (error : Net.HostNameError)
  | noHost
  | zeroPort
  | emptyServiceName
  | maxCount (n : UInt32)
  | backendAddress (error : ConfigError)
  | other (text : String) (causes : List String)
  deriving DecidableEq

namespace ConfigError

def chain : ConfigError → List String
  | hostName error => ["invalid 'host_name'", error.message]
  | noHost => ["invalid 'host_name': must name a host"]
  | zeroPort => ["invalid 'port': must be in the range 1-65535"]
  | emptyServiceName => ["invalid 'service_name': must not be empty"]
  | maxCount n => [s!"invalid 'max_count' {n}: must be in the range 1-2147483647"]
  | backendAddress error => "invalid backend address" :: error.chain
  | other text causes => text :: causes

def message (error : ConfigError) : String :=
  String.intercalate ": " error.chain

end ConfigError

/-- A call is answered with a status, or fails on the way to the backend and back. -/
inductive CallFailure where
  | answered (status : Status)
  | transport (code : Code)
  deriving DecidableEq

def CallFailure.code : CallFailure → Code
  | answered status => status.code
  | transport code => code

inductive DiscoveryError where
  | channel (address : String) (fault : ChannelFault)
  /-- The channel is not known to be ready, and calls require it to be. -/
  | channelNotReady (address reason : String)
  | rpc (mode : Mode) (failure : CallFailure)
  | decode (index : Nat) (error : EntryError)
  deriving DecidableEq

namespace DiscoveryError

def message : DiscoveryError → String
  | channel address _ => s!"failed to create channel to '{address}'"
  | channelNotReady address reason => s!"channel to '{address}' is not ready: {reason}"
  | rpc mode _ => mode.methodName ++ " call failed"
  | decode index _ => s!"malformed service location at index {index}"

def causes : DiscoveryError → List String
  | channel _ fault => fault.chain
  | channelNotReady _ _ => []
  | rpc _ (.answered status) => [status.render]
  | rpc _ (.transport code) => [code.description]
  | decode _ error => [error.message]

def chain (error : DiscoveryError) : List String :=
  error.message :: error.causes

def status? : DiscoveryError → Option Status
  | rpc _ (.answered status) => some status
  | _ => none

end DiscoveryError
end Locator
