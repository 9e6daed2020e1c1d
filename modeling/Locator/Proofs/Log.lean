import Mathlib.Data.List.Forall2
import Locator.Proofs.Independence
import Locator.Proofs.Readiness

namespace Locator

/-- What is logged of a channel: nothing if none can be constructed, else one event. -/
inductive Announced (c : Connection) (attempt : Attempt) :
    Except DiscoveryError Channel → List Event → Prop
  | unavailable {fault : ChannelFault} (h : Provisioner.fault? c = some fault) :
      Announced c attempt (.error (.channel c.address fault)) []
  | plaintext {link : Link} {e : Event} (h : Provisioner.fault? c = none)
      (hc : c.credentials = none) (hl : e.level = "DEBUG")
      (hm : e.message = "creating plaintext channel") :
      Announced c attempt (.ok ⟨.notChecked, link⟩) [e]
  | ready {link : Link} {e : Event} (h : Provisioner.fault? c = none)
      (hc : c.credentials.isSome) (ha : attempt = .established) (hl : e.level = "INFO") :
      Announced c attempt (.ok ⟨.ready, link⟩) [e]
  | unverified {link : Link} {reason : String} {e : Event} (h : Provisioner.fault? c = none)
      (hc : c.credentials.isSome) (ha : attempt ≠ .established) (hl : e.level = "ERROR")
      (hf : e.fields = [("reason", reason)]) :
      Announced c attempt (.ok ⟨.unverified reason, link⟩) [e]

def isUnverified : Except DiscoveryError Channel → Bool
  | .ok ⟨.unverified _, _⟩ => true
  | _ => false

theorem Announced.countP_error {c : Connection} {attempt : Attempt}
    {channel : Except DiscoveryError Channel} {events : List Event}
    (h : Announced c attempt channel events) :
    events.countP (fun e => e.level = "ERROR") = (isUnverified channel).toNat := by
  cases h with
  | unavailable h => rfl
  | plaintext h hc hl hm => simp [hl, isUnverified]
  | ready h hc ha hl => simp [hl, isUnverified]
  | unverified h hc ha hl hf => simp [hl, isUnverified]

theorem Announced.level_ne_warn {c : Connection} {attempt : Attempt}
    {channel : Except DiscoveryError Channel} {events : List Event}
    (h : Announced c attempt channel events) : ∀ e ∈ events, e.level ≠ "WARN" := by
  cases h with
  | unavailable h => exact nofun
  | plaintext h hc hl hm => simp [hl]
  | ready h hc ha hl => simp [hl]
  | unverified h hc ha hl hf => simp [hl]

theorem Announced.level_of_plaintext {c : Connection} {attempt : Attempt}
    {channel : Except DiscoveryError Channel} {events : List Event}
    (h : Announced c attempt channel events) (hn : c.credentials = none) :
    ∀ e ∈ events, e.level = "DEBUG" := by
  cases h with
  | unavailable h => exact nofun
  | plaintext h hc hl hm => simp [hl]
  | ready h hc ha hl => simp [hn] at hc
  | unverified h hc ha hl hf => simp [hn] at hc

namespace Provisioner

theorem announced_provision (p : Provisioner) (conditions : Conditions) (c : Connection) :
    Announced c conditions.attempt (p.provision conditions c).1 (p.provision conditions c).2 := by
  cases hf : fault? c with
  | some fault =>
    rw [provision_of_fault hf]
    exact .unavailable hf
  | none =>
    cases hc : c.credentials with
    | none =>
      rw [provision_of_plaintext hf hc]
      exact .plaintext hf hc rfl rfl
    | some credentials =>
      have hs : c.credentials.isSome := by
        rw [hc]
        rfl
      rw [provision_of_encrypted hf hs]
      cases ha : conditions.attempt with
      | established => exact .ready hf hs rfl rfl
      | failed reason => exact .unverified hf hs nofun rfl rfl
      | timedOut => exact .unverified hf hs nofun rfl rfl

end Provisioner

namespace Discovery

inductive Warned (d : Discovery Provisioner) (mode : Mode) :
    Except DiscoveryError Channel → List Event → Prop
  | unverified {channel : Channel} {reason : String} {e : Event}
      (hu : channel.readiness = .unverified reason) (ha : d.Admits channel.readiness)
      (hl : e.level = "WARN")
      (hm : e.message = "calling " ++ mode.methodName ++ " over an unverified channel") :
      Warned d mode (.ok channel) [e]
  | quiet {provided : Except DiscoveryError Channel}
      (h : ∀ channel reason, provided = .ok channel → channel.readiness = .unverified reason →
        ¬d.Admits channel.readiness) : Warned d mode provided []

inductive Reported (mode : Mode) : StepResult → List Event → Prop
  | returned {ls : Locations} {e : Event} (hl : e.level = "DEBUG")
      (hm : e.message =
        mode.methodName ++ " returned " ++ toString ls.remaining.length ++ " location(s)") :
      Reported mode (.discovered (.ok ls)) [e]
  | quiet {result : StepResult} (h : ∀ ls, result ≠ .discovered (.ok ls)) :
      Reported mode result []

/-- What is logged of a call, in order. Only a call that goes ahead over its channel returns. -/
inductive Logged (d : Discovery Provisioner) (conditions : Conditions) (mode : Mode)
    (result : StepResult) : List Event → Prop
  | intro {announced warned reported : List Event}
      (ha : Announced d.connection conditions.attempt (d.provided conditions).channel announced)
      (hw : Warned d mode (d.provided conditions).channel warned)
      (hr : Reported mode result reported)
      (hs : ∀ ls, result = .discovered (.ok ls) →
        ∃ channel, (d.provided conditions).channel = .ok channel ∧ d.Admits channel.readiness) :
      Logged d conditions mode result (announced ++ warned ++ reported)

variable {d : Discovery Provisioner} {mode : Mode}

theorem Warned.level_eq {provided : Except DiscoveryError Channel} {events : List Event}
    (h : Warned d mode provided events) : ∀ e ∈ events, e.level = "WARN" := by
  cases h with
  | unverified hu ha hl hm => simp [hl]
  | quiet h => exact nofun

theorem Warned.eq_nil {provided : Except DiscoveryError Channel} {events : List Event}
    (h : Warned d mode provided events)
    (hn : ∀ channel reason, provided = .ok channel → channel.readiness = .unverified reason →
      ¬d.Admits channel.readiness) : events = [] := by
  cases h with
  | unverified hu ha hl hm => exact absurd ha (hn _ _ rfl hu)
  | quiet h => rfl

theorem Reported.level_eq {result : StepResult} {events : List Event}
    (h : Reported mode result events) : ∀ e ∈ events, e.level = "DEBUG" := by
  cases h with
  | returned hl hm => simp [hl]
  | quiet h => exact nofun

theorem countP_error_eq_zero {events : List Event} {level : String} (hl : level ≠ "ERROR")
    (h : ∀ e ∈ events, e.level = level) : events.countP (fun e => e.level = "ERROR") = 0 := by
  rw [List.countP_eq_zero]
  intro e he
  simp [h e he, hl]

section
variable {conditions : Conditions} {result : StepResult} {events : List Event}

theorem Logged.countP_error (h : Logged d conditions mode result events) :
    events.countP (fun e => e.level = "ERROR") =
      (isUnverified (d.provided conditions).channel).toNat := by
  obtain ⟨ha, hw, hr, -⟩ := h
  rw [List.countP_append, List.countP_append, ha.countP_error,
    countP_error_eq_zero (by decide) hw.level_eq, countP_error_eq_zero (by decide) hr.level_eq,
    Nat.add_zero]

theorem Logged.level_ne_warn (h : Logged d conditions mode result events)
    (hd : d.requireReady = true) : ∀ e ∈ events, e.level ≠ "WARN" := by
  obtain ⟨ha, hw, hr, -⟩ := h
  -- no call goes ahead over a channel that is not known to be ready, so none is warned of
  have hn := hw.eq_nil fun channel reason _ hu had => had hd reason hu
  subst hn
  intro e he
  rw [List.append_nil] at he
  rcases List.mem_append.mp he with he | he
  · exact ha.level_ne_warn e he
  · rw [hr.level_eq e he]
    decide

theorem Logged.level_of_plaintext (h : Logged d conditions mode result events)
    (hc : d.connection.credentials = none) : ∀ e ∈ events, e.level = "DEBUG" := by
  obtain ⟨ha, hw, hr, -⟩ := h
  have hn : _ = [] := hw.eq_nil <| by
    intro channel reason hp hu
    rw [hp] at ha
    obtain ⟨readiness, link⟩ := channel
    cases hu
    cases ha with
    | unverified h hs => simp [hc] at hs
  subst hn
  intro e he
  rw [List.append_nil] at he
  rcases List.mem_append.mp he with he | he
  · exact ha.level_of_plaintext hc e he
  · exact hr.level_eq e he

end

theorem announced_provided (d : Discovery Provisioner) (conditions : Conditions) :
    Announced d.connection conditions.attempt (d.provided conditions).channel
      (d.provided conditions).events :=
  d.provider.announced_provision conditions d.connection

theorem warned_warnings {channel : Channel} (ha : d.Admits channel.readiness) :
    Warned d mode (.ok channel) (warnings mode channel.readiness) := by
  cases hr : channel.readiness with
  | unverified reason => exact .unverified hr ha rfl rfl
  | notChecked =>
    refine .quiet fun channel' reason he hu => ?_
    cases he
    cases hr.symm.trans hu
  | ready =>
    refine .quiet fun channel' reason he hu => ?_
    cases he
    cases hr.symm.trans hu

theorem reported_report (result : Except DiscoveryError Locations) :
    Reported mode (.discovered result) (report mode result) := by
  cases result with
  | ok ls => exact .returned rfl rfl
  | error error => exact .quiet nofun

theorem logged_discover (d : Discovery Provisioner) (conditions : Conditions) (backend : Backend)
    (mode : Mode) (q : Query) :
    Logged d conditions mode (.discovered (d.discover conditions backend mode q).result)
      (d.discover conditions backend mode q).events := by
  have ha := announced_provided d conditions
  have hstop {error : DiscoveryError} (hw : Warned d mode (d.provided conditions).channel []) :
      Logged d conditions mode (.discovered (.error error)) (d.provided conditions).events := by
    have hr : Reported mode (.discovered (.error error)) [] := .quiet nofun
    have hl := Logged.intro ha hw hr nofun
    rwa [List.append_nil, List.append_nil] at hl
  cases hc : (d.provided conditions).channel with
  | error error =>
    rw [discover_of_error hc]
    apply hstop
    rw [hc]
    exact .quiet nofun
  | ok channel =>
    cases hr : d.refusal? channel.readiness with
    | some error =>
      rw [discover_of_refusal hc hr]
      apply hstop
      rw [hc]
      refine .quiet fun channel' reason he _ had => ?_
      cases he
      cases hr.symm.trans (refusal_eq_none_iff.mpr had)
    | none =>
      have had := refusal_eq_none_iff.mp hr
      rw [discover_of_admitted hc hr]
      refine .intro ha ?_ (reported_report _) fun _ _ => ⟨channel, hc, had⟩
      rw [hc]
      exact warned_warnings had

theorem logged_step (d : Discovery Provisioner) (conditions : Conditions) (backend : Backend)
    (call : Call) :
    Logged d conditions call.mode (d.step conditions backend call.step).result
      (d.step conditions backend call.step).events := by
  rw [step_call]
  exact logged_discover d conditions backend call.mode _

theorem logged_session (d : Discovery Provisioner) (backend : Backend)
    (calls : List (Call × Conditions)) :
    List.Forall₂ (fun call o => Logged d call.2 call.1.mode o.result o.events) calls
      (d.session backend calls) := by
  induction calls with
  | nil => exact .nil
  | cons call calls ih =>
    rw [session_cons]
    exact .cons (logged_step d call.2 backend call.1) ih

theorem countP_error_eq {calls : List (Call × Conditions)}
    {outcomes : List (Outcome Provisioner StepResult)}
    (h : List.Forall₂ (fun call o => Logged d call.2 call.1.mode o.result o.events) calls
      outcomes) :
    (outcomes.flatMap Outcome.events).countP (fun e => e.level = "ERROR") =
      calls.countP fun call => isUnverified (d.provided call.2).channel := by
  induction h with
  | nil => rfl
  | cons hl _ ih =>
    rw [List.flatMap_cons, List.countP_append, ih, hl.countP_error, List.countP_cons, Nat.add_comm]
    cases isUnverified _ <;> rfl

theorem logged_of_mem {calls : List (Call × Conditions)}
    {outcomes : List (Outcome Provisioner StepResult)}
    (h : List.Forall₂ (fun call o => Logged d call.2 call.1.mode o.result o.events) calls outcomes)
    {e : Event} (he : e ∈ outcomes.flatMap Outcome.events) :
    ∃ conditions mode result events,
      Logged d conditions mode result events ∧ e ∈ events := by
  induction h with
  | nil => cases he
  | cons hl _ ih =>
    rw [List.flatMap_cons] at he
    rcases List.mem_append.mp he with he | he
    · exact ⟨_, _, _, _, hl, he⟩
    · exact ih he

/-- There are as many errors as channels that could not be verified, one for each such call. -/
theorem session_logged (d : Discovery Provisioner) (backend : Backend)
    (calls : List (Call × Conditions)) :
    List.Forall₂ (fun call o => Logged d call.2 call.1.mode o.result o.events) calls
        (d.session backend calls) ∧
      ((d.session backend calls).flatMap Outcome.events).countP (fun e => e.level = "ERROR") =
        calls.countP (fun call => isUnverified (d.provided call.2).channel) ∧
      (d.requireReady = true → ∀ e ∈ (d.session backend calls).flatMap Outcome.events,
        e.level ≠ "WARN") ∧
      (d.connection.credentials = none → ∀ e ∈ (d.session backend calls).flatMap Outcome.events,
        e.level = "DEBUG") := by
  have h := logged_session d backend calls
  refine ⟨h, countP_error_eq h, ?_, ?_⟩
  · intro hd e he
    obtain ⟨_, _, _, _, hl, he⟩ := logged_of_mem h he
    exact hl.level_ne_warn hd e he
  · intro hc e he
    obtain ⟨_, _, _, _, hl, he⟩ := logged_of_mem h he
    exact hl.level_of_plaintext hc e he

end Discovery
end Locator
