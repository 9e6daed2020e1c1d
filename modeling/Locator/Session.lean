import Locator.Discovery

namespace Locator

inductive Step where
  | discover (mode : Mode) (query : Option Query.Draft)
  | provision (use : Option (Mode × Request))

inductive StepResult where
  /-- The query made for the call was refused, and nothing was called. -/
  | refused (error : ConfigError)
  | discovered (result : Except DiscoveryError Locations)
  | provisioned (result : Except DiscoveryError Readiness)
      (used : Option (Except CallFailure Response))

namespace Discovery

variable {P C : Type} [ChannelProvider P C]

def provision (d : Discovery P) (conditions : C) (backend : Backend)
    (use : Option (Mode × Request)) : Outcome P StepResult :=
  let provided := ChannelProvider.provide d.provider conditions d.connection
  let (result, received) :=
    match provided.channel, use with
    | .error error, _ => (.provisioned (.error error) none, [])
    | .ok channel, none => (.provisioned (.ok channel.readiness) none, [])
    | .ok channel, some (mode, request) =>
      let (answer, received) := channel.call backend mode request
      (.provisioned (.ok channel.readiness) (some answer), received)
  ⟨result, provided.events, received, provided.provider⟩

def queryFor (d : Discovery P) : Option Query.Draft → Except ConfigError Query
  | none => .ok d.defaultQuery
  | some draft => draft.check

def step (d : Discovery P) (conditions : C) (backend : Backend) : Step → Outcome P StepResult
  | .discover mode draft =>
    match d.queryFor draft with
    | .error error => ⟨.refused error, [], [], d.provider⟩
    | .ok q =>
      let outcome := d.discover conditions backend mode q
      { outcome with result := .discovered outcome.result }
  | .provision use => d.provision conditions backend use

def run (d : Discovery P) (backend : Backend) : List (Step × C) → List (Outcome P StepResult)
  | [] => []
  | (step, conditions) :: steps =>
    let outcome := d.step conditions backend step
    outcome :: run { d with provider := outcome.provider } backend steps

end Discovery
end Locator
