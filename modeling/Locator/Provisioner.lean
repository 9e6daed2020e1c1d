import Locator.Channel
import Locator.Connection

namespace Locator

structure Duration where
  nanoseconds : Nat
  deriving DecidableEq

namespace Duration

def ofSeconds (n : Nat) : Duration :=
  ⟨n * 1000000000⟩

/-- What follows the decimal point, without the zeros at its end. -/
def fraction (digits n : Nat) : List Char :=
  let written := Nat.toDigits 10 n
  let padded := List.replicate (digits - written.length) '0' ++ written
  (padded.reverse.dropWhile (· = '0')).reverse

def inUnit (size digits : Nat) (unit : String) (n : Nat) : String :=
  let after := fraction digits (n % size)
  toString (n / size) ++ (if after = [] then "" else "." ++ String.ofList after) ++ unit

def render (d : Duration) : String :=
  let n := d.nanoseconds
  if 1000000000 ≤ n then inUnit 1000000000 9 "s" n
  else if 1000000 ≤ n then inUnit 1000000 6 "ms" n
  else if 1000 ≤ n then inUnit 1000 3 "µs" n
  else inUnit 1 0 "ns" n

end Duration

structure Provisioner where
  readinessTimeout : Duration := .ofSeconds 5
  timeout : Option Duration := none
  connectTimeout : Option Duration := none
  deriving DecidableEq

inductive Attempt where
  | established
  | failed (reason : String)
  | timedOut
  deriving DecidableEq

/-- How the surroundings of a provisioner behave during one call. -/
structure Conditions where
  attempt : Attempt
  link : Link
  deriving DecidableEq

namespace Provisioner

def connectLimit (p : Provisioner) : Option Duration :=
  p.connectTimeout.or p.timeout

def fault? (c : Connection) : Option ChannelFault :=
  if Net.Uri.isAuthority c.address then
    c.credentials.bind (·.fault? (Connection.hostText c.hostName))
  else some .uri

def readiness (p : Provisioner) : Attempt → Readiness
  | .established => .ready
  | .failed reason => .unverified reason
  | .timedOut => .unverified ("timed out after " ++ p.readinessTimeout.render)

def event (host : String) : Readiness → Event
  | .notChecked => .plaintextChannel
  | .ready => .channelReady host
  | .unverified reason => .channelFailed host reason

def provision (p : Provisioner) (conditions : Conditions) (c : Connection) :
    Except DiscoveryError Channel × List Event :=
  match fault? c with
  | some fault => (.error (.channel c.address fault), [])
  | none =>
    let readiness := if c.credentials.isSome then p.readiness conditions.attempt else .notChecked
    (.ok ⟨readiness, conditions.link⟩, [event c.hostName readiness])

end Provisioner

instance : ChannelProvider Provisioner Conditions where
  provide p conditions c :=
    let (channel, events) := p.provision conditions c
    { provider := p, events, channel }

end Locator
