import Locator.Provisioner

namespace Locator

/-- Whether a machine can connect to itself. -/
inductive Loopback where
  | up
  | down
  deriving DecidableEq

inductive Peer where
  | closed
  | silent
  | plaintext
  | encrypted (twoSided : Bool)
  deriving DecidableEq

namespace Peer

def authority : String := "a"

def names : List String := ["localhost", "127.0.0.1"]

def acceptsHandshake (twoSided : Bool) (credentials : Credentials) (host : String) : Bool :=
  credentials.trust = some (.authority authority) &&
    names.contains (credentials.verifiedName host) &&
    (!twoSided || credentials.identity = some (.issuedBy authority))

def starts (loopback : Loopback) : Peer → Bool
  | closed => true
  | silent => true
  | plaintext => loopback = .up
  | encrypted _ => loopback = .up

def turnedDown : Conditions :=
  ⟨.failed "connect error", .broken⟩

/-- The shorter time limit is reached first. -/
def unanswered (p : Provisioner) : Conditions :=
  let connectFirst := p.connectLimit.any (·.nanoseconds < p.readinessTimeout.nanoseconds)
  ⟨if connectFirst then .failed "connect error" else .timedOut, .stalled⟩

def conditions (loopback : Loopback) (peer : Peer) (p : Provisioner) (c : Connection) :
    Conditions :=
  match loopback, peer, c.credentials with
  | .down, _, _ => turnedDown
  | .up, closed, _ => turnedDown
  | .up, silent, _ => unanswered p
  | .up, plaintext, none => ⟨.established, .live⟩
  | .up, plaintext, some _ => turnedDown
  | .up, encrypted _, none => turnedDown
  | .up, encrypted twoSided, some credentials =>
    if acceptsHandshake twoSided credentials (Connection.hostText c.hostName) then
      ⟨.established, .live⟩
    else turnedDown

end Peer
end Locator
