import Locator.Builder
import Locator.Proofs.Query
import Mathlib.Data.List.Induction

namespace Locator

def lastOf {α β : Type} (value? : α → Option β) (l : List α) : Option β :=
  (l.filterMap value?).getLast?

@[simp] theorem lastOf_concat {α β : Type} (value? : α → Option β) (l : List α) (a : α) :
    lastOf value? (l ++ [a]) = (value? a).or (lastOf value? l) := by
  rw [lastOf, List.filterMap_append]
  cases h : value? a with
  | none => simp [h, lastOf]
  | some b => simp [h]

namespace Setting

def scope? : Setting → Option String
  | .scope s => some s
  | _ => none

def maxCount? : Setting → Option UInt32
  | .maxCount n => some n
  | _ => none

def credentials? : Setting → Option Credentials
  | .credentials c => some c
  | _ => none

def requireReady? : Setting → Option Bool
  | .requireReady required => some required
  | _ => none

end Setting

namespace Timeout

def readiness? : Timeout → Option Duration
  | .readiness d => some d
  | _ => none

def call? : Timeout → Option Duration
  | .call d => some d
  | _ => none

def connect? : Timeout → Option Duration
  | .connect d => some d
  | _ => none

end Timeout

/-- `q` is `p` with timeouts set, of which the last of a kind counts. -/
structure Provisioner.Timed (p : Provisioner) (timeouts : List Timeout) (q : Provisioner) :
    Prop where
  readinessTimeout_eq :
    q.readinessTimeout = (lastOf Timeout.readiness? timeouts).getD p.readinessTimeout
  timeout_eq : q.timeout = (lastOf Timeout.call? timeouts).or p.timeout
  connectTimeout_eq : q.connectTimeout = (lastOf Timeout.connect? timeouts).or p.connectTimeout
  connectLimit_eq :
    q.connectLimit =
      ((lastOf Timeout.connect? timeouts).or p.connectTimeout).or
        ((lastOf Timeout.call? timeouts).or p.timeout)

theorem Provisioner.Timed.refl (p : Provisioner) : p.Timed [] p :=
  ⟨rfl, rfl, rfl, rfl⟩

theorem Provisioner.Timed.set {p q : Provisioner} {timeouts : List Timeout}
    (h : p.Timed timeouts q) (t : Timeout) : p.Timed (timeouts ++ [t]) (q.set t) := by
  obtain ⟨hr, ht, hc, hl⟩ := h
  rw [connectLimit] at hl
  cases t <;> constructor <;>
    simp [Provisioner.set, connectLimit, Timeout.readiness?, Timeout.call?, Timeout.connect?, *]

namespace Builder

section

variable {P : Type} (b : Builder P) (s : Setting)

@[simp] theorem source_set : (b.set s).source = b.source := by
  cases s <;> rfl

theorem query_set :
    (b.set s).query =
      ⟨b.query.serviceName, s.scope?.getD b.query.scope, s.maxCount?.getD b.query.maxCount⟩ := by
  cases s <;> rfl

theorem credentials_set : (b.set s).credentials = s.credentials?.or b.credentials := by
  cases s <;> rfl

theorem requireReady_set : (b.set s).requireReady = s.requireReady?.getD b.requireReady := by
  cases s <;> rfl

@[simp] theorem provider_set : (b.set s).provider = b.provider := by
  cases s <;> rfl

end

section

variable {P : Type} {b : Builder P}

theorem build_of_unconverted {error : ConfigError} (h : b.source.convert = .error error) :
    b.build = .error (.backendAddress error) := by
  simp only [build, Source.connect, h]

theorem build_of_converted {c : Connection} (h : b.source.convert = .ok c) :
    b.build =
      b.query.check.map fun q =>
        ⟨⟨c.hostName, c.port, b.credentials.or c.credentials⟩, q, b.provider, b.requireReady⟩ := by
  have hc : b.credentials.elim c c.withCredentials =
      ⟨c.hostName, c.port, b.credentials.or c.credentials⟩ := by
    cases b.credentials <;> rfl
  simp only [build, Source.connect, h, hc]
  cases b.query.check <;> rfl

theorem build_of_refused {c : Connection} {error : ConfigError} (hc : b.source.convert = .ok c)
    (h : b.query.check = .error error) : b.build = .error error := by
  rw [build_of_converted hc, h]
  rfl

theorem build_eq_ok_iff {d : Discovery P} :
    b.build = .ok d ↔
      ∃ c q, b.source.convert = .ok c ∧ b.query.check = .ok q ∧
        d = ⟨⟨c.hostName, c.port, b.credentials.or c.credentials⟩, q, b.provider,
          b.requireReady⟩ := by
  cases hc : b.source.convert with
  | error error => simp [build_of_unconverted hc]
  | ok c => cases hq : b.query.check <;> simp [build_of_converted hc, hq, Except.map, eq_comm]

end

/-- Calls that configure a client, by the type of the provider that it has after them. -/
inductive Chain : Type → Type 1 where
  | new : Chain Provisioner
  | set {P : Type} (chain : Chain P) (s : Setting) : Chain P
  | setTimeout (chain : Chain Provisioner) (t : Timeout) : Chain Provisioner
  | channelProvider {Q : Type} (chain : Chain Provisioner) (provider : Q) : Chain Q

/-- A provider that is no provisioner is kept as it was given. -/
inductive Provides : {P : Type} → P → List Timeout → P → Prop
  | untimed {P : Type} (provider : P) : Provides provider [] provider
  | timed {p q : Provisioner} {timeouts : List Timeout} (h : p.Timed timeouts q) :
      Provides p timeouts q

theorem Provides.timed_of {p q : Provisioner} {timeouts : List Timeout}
    (h : Provides p timeouts q) : p.Timed timeouts q := by
  cases h with
  | untimed => exact .refl p
  | timed h => exact h

namespace Chain

def builder (source : Source) (serviceName : String) : {P : Type} → Chain P → Builder P
  | _, new => Builder.new source serviceName
  | _, set chain s => (chain.builder source serviceName).set s
  | _, setTimeout chain t => (chain.builder source serviceName).setTimeout t
  | _, channelProvider chain provider =>
    (chain.builder source serviceName).channelProvider provider

def settings : {P : Type} → Chain P → List Setting
  | _, new => []
  | _, set chain s => chain.settings ++ [s]
  | _, setTimeout chain _ => chain.settings
  | _, channelProvider chain _ => chain.settings

def given : {P : Type} → Chain P → P
  | _, new => {}
  | _, set chain _ => chain.given
  | _, setTimeout chain _ => chain.given
  | _, channelProvider _ provider => provider

def timeouts : {P : Type} → Chain P → List Timeout
  | _, new => []
  | _, set chain _ => chain.timeouts
  | _, setTimeout chain t => chain.timeouts ++ [t]
  | _, channelProvider _ _ => []

variable {P : Type}

def scope (chain : Chain P) : String :=
  (lastOf Setting.scope? chain.settings).getD ""

def maxCount (chain : Chain P) : UInt32 :=
  (lastOf Setting.maxCount? chain.settings).getD 1

def credentials (chain : Chain P) : Option Credentials :=
  lastOf Setting.credentials? chain.settings

def requireReady (chain : Chain P) : Bool :=
  (lastOf Setting.requireReady? chain.settings).getD false

section

variable (chain : Chain P) (s : Setting)

theorem scope_set : (chain.set s).scope = s.scope?.getD chain.scope := by
  rw [scope, settings, lastOf_concat, Option.getD_or, ← scope]

theorem maxCount_set : (chain.set s).maxCount = s.maxCount?.getD chain.maxCount := by
  rw [maxCount, settings, lastOf_concat, Option.getD_or, ← maxCount]

theorem credentials_set : (chain.set s).credentials = s.credentials?.or chain.credentials := by
  rw [credentials, settings, lastOf_concat, ← credentials]

theorem requireReady_set :
    (chain.set s).requireReady = s.requireReady?.getD chain.requireReady := by
  rw [requireReady, settings, lastOf_concat, Option.getD_or, ← requireReady]

end

structure Holds (chain : Chain P) (source : Source) (serviceName : String) (b : Builder P) :
    Prop where
  source_eq : b.source = source
  query_eq : b.query = ⟨serviceName, chain.scope, chain.maxCount⟩
  credentials_eq : b.credentials = chain.credentials
  requireReady_eq : b.requireReady = chain.requireReady
  provides : Provides chain.given chain.timeouts b.provider

variable {source : Source} {serviceName : String}

theorem holds_new : new.Holds source serviceName (Builder.new source serviceName) :=
  ⟨rfl, rfl, rfl, rfl, .timed (.refl {})⟩

theorem Holds.set {chain : Chain P} {b : Builder P} (h : chain.Holds source serviceName b)
    (s : Setting) : (chain.set s).Holds source serviceName (b.set s) where
  source_eq := by rw [source_set, h.source_eq]
  query_eq := by rw [query_set, h.query_eq, scope_set, maxCount_set]
  credentials_eq := by rw [Builder.credentials_set, h.credentials_eq, credentials_set]
  requireReady_eq := by rw [Builder.requireReady_set, h.requireReady_eq, requireReady_set]
  provides := by rw [provider_set]; exact h.provides

theorem Holds.setTimeout {chain : Chain Provisioner} {b : Builder Provisioner}
    (h : chain.Holds source serviceName b) (t : Timeout) :
    (chain.setTimeout t).Holds source serviceName (b.setTimeout t) :=
  { h with provides := .timed (h.provides.timed_of.set t) }

theorem Holds.channelProvider {Q : Type} {chain : Chain Provisioner} {b : Builder Provisioner}
    (h : chain.Holds source serviceName b) (provider : Q) :
    (chain.channelProvider provider).Holds source serviceName (b.channelProvider provider) :=
  { h with provides := .untimed provider }

theorem holds_builder (chain : Chain P) :
    chain.Holds source serviceName (chain.builder source serviceName) := by
  induction chain with
  | new => exact holds_new
  | set chain s ih => exact ih.set s
  | setTimeout chain t ih => exact ih.setTimeout t
  | channelProvider chain provider ih => exact ih.channelProvider provider

/-- Each run of steps is such a chain. -/
theorem exists_builder_eq_run (source : Source) (serviceName : String)
    (steps : List Builder.Step) :
    ∃ chain : Chain Provisioner,
      chain.builder source serviceName = (Builder.new source serviceName).run steps := by
  induction steps using List.reverseRecOn with
  | nil => exact ⟨new, rfl⟩
  | append_singleton steps step ih =>
    obtain ⟨chain, ih⟩ := ih
    have hstep : (Builder.new source serviceName).run (steps ++ [step]) =
        (chain.builder source serviceName).step step := by
      rw [ih]
      exact List.foldl_append
    rw [hstep]
    cases step with
    | setting s => exact ⟨chain.set s, rfl⟩
    | timeout t => exact ⟨chain.setTimeout t, rfl⟩

structure Makes (chain : Chain P) (serviceName : String) (c : Connection) (d : Discovery P) :
    Prop where
  connection_eq : d.connection = ⟨c.hostName, c.port, chain.credentials.or c.credentials⟩
  defaultQuery_eq :
    (do
      let q ← Query.ofService serviceName
      (q.withScope chain.scope).withMaxCount chain.maxCount) = .ok d.defaultQuery
  requireReady_eq : d.requireReady = chain.requireReady
  provides : Provides chain.given chain.timeouts d.provider

/-- Of three things that can be wrong, the first is told: connection, service name, count. -/
structure Ends (chain : Chain P) (source : Source) (serviceName : String)
    (result : Except ConfigError (Discovery P)) : Prop where
  exists_iff :
    (∃ d, result = .ok d) ↔
      (∃ c, source.convert = .ok c) ∧ serviceName ≠ "" ∧
        (1 ≤ chain.maxCount.toNat ∧ chain.maxCount.toNat ≤ 2147483647)
  unconverted :
    ∀ {cause}, source.convert = .error cause →
      ∃ error, result = .error error ∧ error.chain = "invalid backend address" :: cause.chain
  unnamed :
    ∀ {c error}, source.convert = .ok c → Query.ofService serviceName = .error error →
      result = .error error
  miscounted :
    ∀ {c q error}, source.convert = .ok c → Query.ofService serviceName = .ok q →
      (q.withScope chain.scope).withMaxCount chain.maxCount = .error error →
      result = .error error
  makes :
    ∀ {d}, result = .ok d →
      ∃ c, source.convert = .ok c ∧ chain.Makes serviceName c d

theorem Holds.ends {chain : Chain P} {b : Builder P} (h : chain.Holds source serviceName b) :
    chain.Ends source serviceName b.build := by
  obtain ⟨rfl, hq, hcredentials, hr, hp⟩ := h
  have hcheck : b.query.check =
      (do
        let q ← Query.ofService serviceName
        (q.withScope chain.scope).withMaxCount chain.maxCount) := by
    rw [hq]
    exact Query.Draft.check_eq _
  have hexists : (∃ q, b.query.check = .ok q) ↔
      serviceName ≠ "" ∧ 1 ≤ chain.maxCount.toNat ∧ chain.maxCount.toNat ≤ 2147483647 := by
    rw [hq]
    exact Query.exists_check_eq_ok_iff
  constructor
  case exists_iff =>
    apply Iff.intro
    · rintro ⟨d, hd⟩
      obtain ⟨c, q, hc, hquery, -⟩ := build_eq_ok_iff.mp hd
      exact ⟨⟨c, hc⟩, hexists.mp ⟨q, hquery⟩⟩
    · rintro ⟨⟨c, hc⟩, hv⟩
      obtain ⟨q, hquery⟩ := hexists.mpr hv
      exact ⟨_, build_eq_ok_iff.mpr ⟨c, q, hc, hquery, rfl⟩⟩
  case unconverted =>
    intro cause hc
    exact ⟨_, build_of_unconverted hc, rfl⟩
  case unnamed =>
    intro c error hc he
    apply build_of_refused hc
    rw [hcheck, he]
    rfl
  case miscounted =>
    intro c q error hc hs he
    apply build_of_refused hc
    rw [hcheck, hs]
    exact he
  case makes =>
    intro d hd
    obtain ⟨c, q, hc, hquery, rfl⟩ := build_eq_ok_iff.mp hd
    exact ⟨c, hc, by rw [hcredentials], hcheck ▸ hquery, hr, hp⟩

/-- A client is made, or refused, by the last value of each setting, whatever the order. -/
theorem build_ends (chain : Chain P) (source : Source) (serviceName : String) :
    chain.Ends source serviceName (chain.builder source serviceName).build :=
  chain.holds_builder.ends

example :
    let chain := ((new.setTimeout (.call (.ofSeconds 5))).channelProvider ({} : Provisioner)).set
      (.scope "a")
    (chain.builder (.connection ⟨"h", 1, none⟩) "q").build =
      .ok ⟨⟨"h", 1, none⟩, ⟨"q", "a", 1⟩, {}, false⟩ :=
  rfl

end Chain
end Builder
end Locator
