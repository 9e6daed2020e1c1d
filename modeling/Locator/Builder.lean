import Locator.Discovery
import Locator.Provisioner

namespace Locator

/-- Where a connection comes from; `other` has a way of its own to become one. -/
inductive Source where
  | parts (host : String) (port : UInt16)
  | connection (c : Connection)
  | other (outcome : Except ConfigError Connection)

def Source.convert : Source → Except ConfigError Connection
  | parts host port => Connection.ofParts host port
  | connection c => .ok c
  | other outcome => outcome

/-- If there is no connection, it is told that the backend's address is meant. -/
def Source.connect (source : Source) : Except ConfigError Connection :=
  match source.convert with
  | .ok c => .ok c
  | .error error => .error (.backendAddress error)

structure Builder (P : Type) where
  source : Source
  query : Query.Draft
  credentials : Option Credentials := none
  requireReady : Bool := false
  provider : P

inductive Setting where
  | scope (scope : String)
  | maxCount (n : UInt32)
  | credentials (credentials : Credentials)
  | requireReady (required : Bool)
  deriving DecidableEq

inductive Timeout where
  | readiness (d : Duration)
  | call (d : Duration)
  | connect (d : Duration)
  deriving DecidableEq

def Provisioner.set (p : Provisioner) : Timeout → Provisioner
  | .readiness d => { p with readinessTimeout := d }
  | .call d => { p with timeout := some d }
  | .connect d => { p with connectTimeout := some d }

namespace Builder

def new (source : Source) (serviceName : String) : Builder Provisioner :=
  { source, query := { serviceName }, provider := {} }

variable {P : Type}

def set (b : Builder P) : Setting → Builder P
  | .scope scope => { b with query := { b.query with scope } }
  | .maxCount n => { b with query := { b.query with maxCount := n } }
  | .credentials credentials => { b with credentials := some credentials }
  | .requireReady required => { b with requireReady := required }

def setAll (b : Builder P) (settings : List Setting) : Builder P :=
  settings.foldl set b

def setTimeout (b : Builder Provisioner) (t : Timeout) : Builder Provisioner :=
  { b with provider := b.provider.set t }

/-- The same client with another provider; timeouts set before are lost. -/
def channelProvider {Q : Type} (b : Builder P) (provider : Q) : Builder Q :=
  { b with provider }

def build (b : Builder P) : Except ConfigError (Discovery P) :=
  match b.source.connect with
  | .error error => .error error
  | .ok c =>
    match b.query.check with
    | .error error => .error error
    | .ok defaultQuery =>
      .ok
        { connection := b.credentials.elim c c.withCredentials
          defaultQuery
          provider := b.provider
          requireReady := b.requireReady }

end Builder

inductive Builder.Step where
  | setting (s : Setting)
  | timeout (t : Timeout)
  deriving DecidableEq

def Builder.step (b : Builder Provisioner) : Builder.Step → Builder Provisioner
  | .setting s => b.set s
  | .timeout t => b.setTimeout t

def Builder.run (b : Builder Provisioner) (steps : List Builder.Step) : Builder Provisioner :=
  steps.foldl step b

end Locator
