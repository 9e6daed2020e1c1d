import Locator.Proofs.Connection
import Locator.Proofs.Session

namespace Locator

open Wire

theorem Builder.requireReady_of_build {P : Type} {b : Builder P} {d : Discovery P}
    (h : b.build = .ok d) : d.requireReady = b.requireReady := by
  unfold Builder.build at h
  split at h
  · cases h
  · split at h
    · cases h
    · cases h
      rfl

theorem Provisioner.exists_unverified {attempt : Attempt} (h : attempt ≠ .established)
    (p : Provisioner) : ∃ reason, p.readiness attempt = .unverified reason := by
  cases attempt with
  | established => exact absurd rfl h
  | failed reason => exact ⟨reason, rfl⟩
  | timedOut => exact ⟨_, rfl⟩

theorem Channel.call_of_not_live {link : Link} (h : link ≠ .live) (readiness : Readiness)
    (backend : Backend) (mode : Mode) (r : Request) :
    ∃ code, call ⟨readiness, link⟩ backend mode r = (.error (.transport code), []) := by
  cases link with
  | live => exact absurd rfl h
  | broken => exact ⟨_, rfl⟩
  | stalled => exact ⟨_, rfl⟩

namespace Discovery

theorem locate_ne_channelNotReady (mode : Mode) (answer : Except CallFailure Response)
    (address reason : String) : locate mode answer ≠ .error (.channelNotReady address reason) := by
  intro h
  cases answer with
  | error failure => cases h
  | ok response =>
    rw [locate] at h
    cases hr : Location.ofResponse response with
    | error failure =>
      rw [hr] at h
      cases h
    | ok locations =>
      rw [hr] at h
      cases h

section
variable {d : Discovery Provisioner}

theorem discover_of_fault {fault : ChannelFault}
    (h : Provisioner.fault? d.connection = some fault) (conditions : Conditions)
    (backend : Backend) (mode : Mode) (q : Query) :
    d.discover conditions backend mode q =
      ⟨.error (.channel d.connection.address fault), [], [], d.provider⟩ := by
  have hp : d.provider.provision conditions d.connection =
      (.error (.channel d.connection.address fault), []) := Provisioner.provision_of_fault h
  have hc : (d.provided conditions).channel = .error (.channel d.connection.address fault) :=
    congrArg Prod.fst hp
  have he : (d.provided conditions).events = [] := congrArg Prod.snd hp
  rw [discover_of_error hc, he]
  rfl

variable (h : Provisioner.fault? d.connection = none) (hc : d.connection.credentials.isSome)
  (conditions : Conditions)
include h hc

theorem channel_provided : (d.provided conditions).channel =
    .ok ⟨d.provider.readiness conditions.attempt, conditions.link⟩ :=
  congrArg Prod.fst (Provisioner.provision_of_encrypted h hc)

theorem events_provided : (d.provided conditions).events =
    [Provisioner.event d.connection.hostName (d.provider.readiness conditions.attempt)] :=
  congrArg Prod.snd (Provisioner.provision_of_encrypted h hc)

variable (backend : Backend) (mode : Mode) (q : Query)

theorem discover_of_unready (hr : d.requireReady = true) (ha : conditions.attempt ≠ .established) :
    ∃ reason, d.provider.readiness conditions.attempt = .unverified reason ∧
      d.discover conditions backend mode q =
        ⟨.error (.channelNotReady d.connection.address reason),
          [.channelFailed d.connection.hostName reason], [], d.provider⟩ := by
  obtain ⟨reason, hu⟩ := Provisioner.exists_unverified ha d.provider
  have hp := channel_provided h hc conditions
  have he := events_provided h hc conditions
  rw [hu] at hp he
  refine ⟨reason, hu, ?_⟩
  rw [discover_of_refusal hp (refusal_unverified hr reason), he]
  rfl

theorem discover_of_issued (hr : d.requireReady = true → conditions.attempt = .established) :
    (d.discover conditions backend mode q).result =
        locate mode (Channel.call ⟨d.provider.readiness conditions.attempt, conditions.link⟩
          backend mode q.request).1 ∧
      (d.discover conditions backend mode q).received =
        (Channel.call ⟨d.provider.readiness conditions.attempt, conditions.link⟩
          backend mode q.request).2 := by
  apply discover_of_call (channel_provided h hc conditions)
  apply refusal_eq_none_iff.mpr
  intro hq reason
  rw [hr hq]
  exact nofun

end

/-- A backend that the link gets through to receives the request; else the call ends on the way. -/
structure Issued (backend : Backend) (link : Link) (mode : Mode) (q : Query)
    (o : Outcome Provisioner StepResult) : Prop where
  of_live : link = .live →
    o.received = (backend.handle mode.path (Frame.encode (encode q.request))).received
  of_stub : ∀ stub, link = .live → backend = .stub stub →
    (encode q.request).length ≤ receiveLimit →
    ∃ r, o.received = [.request mode r] ∧ q.Carries r
  of_not_live : link ≠ .live →
    ∃ code, o.result = .discovered (.error (.rpc mode (.transport code))) ∧ o.received = []

/-- What a call leads to, by the attempt to establish a channel for it. -/
structure Gated (d : Discovery Provisioner) (backend : Backend) (call : Call)
    (conditions : Conditions) (o : Outcome Provisioner StepResult) : Prop where
  established_of_received : d.requireReady = true → o.received ≠ [] →
    conditions.attempt = .established
  of_fault : ∀ fault, Provisioner.fault? d.connection = some fault →
    o.result = .discovered (.error (.channel d.connection.address fault)) ∧ o.received = []
  of_unready : d.requireReady = true → Provisioner.fault? d.connection = none →
    conditions.attempt ≠ .established →
    ∃ reason event, d.provider.readiness conditions.attempt = .unverified reason ∧
      o.result = .discovered (.error (.channelNotReady d.connection.address reason)) ∧
      o.events.filter (fun e => e.level = "ERROR") = [event] ∧
      event.fields = [("reason", reason)] ∧ o.received = []
  ne_channelNotReady : d.requireReady = false → ∀ address reason,
    o.result ≠ .discovered (.error (.channelNotReady address reason))
  issued : Provisioner.fault? d.connection = none →
    (d.requireReady = true → conditions.attempt = .established) →
    Issued backend conditions.link call.mode (call.asked d.defaultQuery) o

variable {d : Discovery Provisioner} {backend : Backend}

theorem issued_step (h : Provisioner.fault? d.connection = none)
    (hc : d.connection.credentials.isSome) (hq : d.defaultQuery.Valid) (call : Call)
    (conditions : Conditions) (hr : d.requireReady = true → conditions.attempt = .established) :
    Issued backend conditions.link call.mode (call.asked d.defaultQuery)
      (d.step conditions backend call.step) := by
  rw [step_call]
  obtain ⟨hresult, hreceived⟩ :=
    discover_of_issued h hc conditions backend call.mode (call.asked d.defaultQuery) hr
  constructor
  case of_live =>
    intro hl
    rw [hreceived, Channel.call, hl]
  case of_stub =>
    intro stub hl hb hs
    subst hb
    have hv := call.valid_asked hq
    exact ⟨_, hreceived.trans (Channel.received_call hl hs), hv.carries_request⟩
  case of_not_live =>
    intro hl
    obtain ⟨code, he⟩ := Channel.call_of_not_live hl (d.provider.readiness conditions.attempt)
      backend call.mode (call.asked d.defaultQuery).request
    rw [he] at hresult hreceived
    rw [hresult]
    exact ⟨code, rfl, hreceived⟩

theorem gated_step (hc : d.connection.credentials.isSome) (hq : d.defaultQuery.Valid)
    (call : Call) (conditions : Conditions) :
    Gated d backend call conditions (d.step conditions backend call.step) := by
  constructor
  case established_of_received =>
    intro hr hn
    by_contra ha
    apply hn
    rw [step_call]
    cases h : Provisioner.fault? d.connection with
    | some fault => rw [discover_of_fault h]
    | none =>
      obtain ⟨reason, -, hd⟩ := discover_of_unready h hc conditions backend call.mode _ hr ha
      rw [hd]
  case of_fault =>
    intro fault h
    rw [step_call, discover_of_fault h]
    exact ⟨rfl, rfl⟩
  case of_unready =>
    intro hr h ha
    obtain ⟨reason, hu, hd⟩ := discover_of_unready h hc conditions backend call.mode _ hr ha
    rw [step_call, hd]
    exact ⟨reason, _, hu, rfl, rfl, rfl, rfl⟩
  case ne_channelNotReady =>
    intro hr address reason he
    rw [step_call] at he
    have hn := StepResult.discovered.inj he
    cases h : Provisioner.fault? d.connection with
    | some fault =>
      rw [discover_of_fault h] at hn
      cases hn
    | none =>
      have hf : d.requireReady = true → conditions.attempt = .established := by
        rw [hr]
        exact nofun
      rw [(discover_of_issued h hc conditions backend call.mode _ hf).1] at hn
      exact locate_ne_channelNotReady _ _ address reason hn
  case issued =>
    intro h hr
    exact issued_step h hc hq call conditions hr

/-- A call leaves its client as it was: nothing is remembered of an attempt. -/
theorem provider_step (call : Call) (conditions : Conditions) :
    (d.step conditions backend call.step).provider = d.provider := by
  rw [step_call]
  exact provider_discover d conditions backend _ _

theorem gated_run (hc : d.connection.credentials.isSome) (hq : d.defaultQuery.Valid)
    (calls : List (Call × Conditions)) :
    List.Forall₂ (fun call o => Gated d backend call.1 call.2 o) calls
      (d.run backend (calls.map (Prod.map Call.step id))) := by
  induction calls with
  | nil => exact .nil
  | cons call calls ih =>
    -- the client behind the first call is the one before it, so the others are judged alike
    rw [List.map_cons, Prod.map, run]
    simp only [provider_step]
    exact .cons (gated_step hc hq call.1 call.2) ih

/-- Each call is treated by the attempt to establish a channel for that call. -/
theorem run_gated (b : Builder Provisioner) (d : Discovery Provisioner) (hb : b.build = .ok d)
    (hc : d.connection.credentials.isSome) (backend : Backend) (calls : List (Call × Conditions)) :
    d.requireReady = b.requireReady ∧
      List.Forall₂ (fun call o => Gated d backend call.1 call.2 o) calls
        (d.run backend (calls.map (Prod.map Call.step id))) :=
  ⟨Builder.requireReady_of_build hb, gated_run hc (Builder.valid_of_build hb) calls⟩

theorem run_gated_failed :
    let b := (Builder.new (.connection ⟨"h", 1, none⟩) "q").run
      [.setting (.credentials {}), .setting (.requireReady true)]
    let calls : List (Call × Conditions) :=
      [(⟨.ranked, none, nofun⟩, ⟨.failed "late", .live⟩),
        (⟨.unordered, none, nofun⟩, ⟨.established, .live⟩)]
    ∃ d, b.build = .ok d ∧ d.requireReady = true ∧ Provisioner.fault? d.connection = none ∧
      List.Forall₂ (fun call o => Gated d (.stub ⟨[], true, none⟩) call.1 call.2 o) calls
        (d.run (.stub ⟨[], true, none⟩) (calls.map (Prod.map Call.step id))) := by
  intro b calls
  have hb : b.build = .ok ⟨⟨"h", 1, some {}⟩, ⟨"q", "", 1⟩, {}, true⟩ := rfl
  have hf : Provisioner.fault? ⟨"h", 1, some {}⟩ = none := by decide
  obtain ⟨hr, hg⟩ := run_gated b _ hb rfl (.stub ⟨[], true, none⟩) calls
  exact ⟨_, hb, hr, hf, hg⟩

end Discovery
end Locator
