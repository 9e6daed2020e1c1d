import Locator.Error
import Locator.Message.Request
import Locator.Text.Quoted

namespace Locator

structure Query where
  serviceName : String
  scope : String
  maxCount : UInt32
  deriving DecidableEq

namespace Query

def maxCountLimit : UInt32 := 2147483647

def ofService (serviceName : String) : Except ConfigError Query :=
  if serviceName = "" then .error .emptyServiceName else .ok ⟨serviceName, "", 1⟩

def withScope (q : Query) (scope : String) : Query :=
  { q with scope := scope }

def withMaxCount (q : Query) (n : UInt32) : Except ConfigError Query :=
  if n = 0 ∨ maxCountLimit < n then .error (.maxCount n) else .ok { q with maxCount := n }

def request (q : Query) : Request :=
  ⟨q.serviceName, q.scope, q.maxCount.toInt32⟩

def describe (q : Query) : String :=
  Text.record "DiscoveryQuery"
    [("service_name", Text.quote q.serviceName), ("scope", Text.quote q.scope),
      ("max_count", toString q.maxCount)]

structure Draft where
  serviceName : String
  scope : String := ""
  maxCount : UInt32 := 1
  deriving DecidableEq

/-- The service name is looked at before the count. -/
def Draft.check (draft : Draft) : Except ConfigError Query :=
  match ofService draft.serviceName with
  | .error error => .error error
  | .ok q => (q.withScope draft.scope).withMaxCount draft.maxCount

inductive Step where
  | ofService (serviceName : String)
  | scope (scope : String)
  | maxCount (n : UInt32)
  deriving DecidableEq

def step (q : Query) : Step → Except ConfigError Query
  | .ofService serviceName => ofService serviceName
  | .scope scope => .ok (q.withScope scope)
  | .maxCount n => q.withMaxCount n

/-- A step that fails changes nothing. -/
def run (q : Query) (steps : List Step) : Query :=
  steps.foldl (fun q s => (q.step s).toOption.getD q) q

end Query
end Locator
