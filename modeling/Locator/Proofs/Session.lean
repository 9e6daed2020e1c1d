import Locator.Builder
import Locator.Session
import Locator.Proofs.Discovery

namespace Locator

open Wire

/-- A provider that counts how often it is asked. -/
structure Counted (P : Type) where
  inner : P
  calls : Nat := 0

instance {P C : Type} [ChannelProvider P C] : ChannelProvider (Counted P) C where
  provide p conditions connection :=
    let provided := ChannelProvider.provide p.inner conditions connection
    { provider := ⟨provided.provider, p.calls + 1⟩
      events := provided.events
      channel := provided.channel }

/-- Every channel that is handed out gets through to the backend. -/
def ChannelProvider.Live (P : Type) {C : Type} [ChannelProvider P C] : Prop :=
  ∀ (p : P) (conditions : C) (connection : Connection) (channel : Channel),
    (provide p conditions connection).channel = .ok channel → channel.link = .live

theorem ChannelProvider.Live.counted {P C : Type} [ChannelProvider P C] (h : Live P) :
    Live (Counted P) := by
  intro p conditions connection channel hc
  exact h p.inner conditions connection channel hc

theorem FixedProvider.live : ChannelProvider.Live FixedProvider := by
  intro p conditions connection channel h
  cases ha : p.answer connection with
  | error error =>
    simp only [ChannelProvider.provide, ha] at h
    cases h
  | ok readiness =>
    simp only [ChannelProvider.provide, ha] at h
    cases h
    rfl

theorem Builder.valid_of_build {P : Type} {b : Builder P} {d : Discovery P}
    (h : b.build = .ok d) : d.defaultQuery.Valid := by
  unfold Builder.build at h
  split at h
  · cases h
  · split at h
    · cases h
    · next hq =>
      cases h
      exact (Query.obtainable_of_check hq).valid

theorem Builder.build_draft {P : Type} {q : Query} (hq : q.Valid) (c : Connection) (provider : P) :
    build ⟨.connection c, q.draft, none, false, provider⟩ = .ok ⟨c, q, provider, false⟩ := by
  simp only [build, Source.connect, Source.convert, hq.check_draft, Option.elim]

structure Call where
  mode : Mode
  query : Option Query
  obtainable : ∀ q ∈ query, q.Obtainable

namespace Call

def step (call : Call) : Step :=
  .discover call.mode (call.query.map Query.draft)

def asked (call : Call) (defaultQuery : Query) : Query :=
  call.query.getD defaultQuery

theorem valid_asked {defaultQuery : Query} (call : Call) (hq : defaultQuery.Valid) :
    (call.asked defaultQuery).Valid := by
  obtain ⟨mode, query, ho⟩ := call
  cases query with
  | none => exact hq
  | some q => exact (ho q rfl).valid

end Call

namespace Discovery

variable {P C : Type} [ChannelProvider P C]

theorem queryFor_asked (d : Discovery P) (call : Call) :
    d.queryFor (call.query.map Query.draft) = .ok (call.asked d.defaultQuery) := by
  obtain ⟨mode, query, ho⟩ := call
  cases query with
  | none => rfl
  | some q => exact (ho q rfl).valid.check_draft

theorem step_call (d : Discovery P) (conditions : C) (backend : Backend) (call : Call) :
    d.step conditions backend call.step =
      { d.discover conditions backend call.mode (call.asked d.defaultQuery) with
        result := .discovered
          (d.discover conditions backend call.mode (call.asked d.defaultQuery)).result } := by
  rw [Call.step, step, queryFor_asked]

structure Accounted (d : Discovery (Counted P)) (stub : Stub) (call : Call) (conditions : C)
    (o : Outcome (Counted P) StepResult) : Prop where
  provider_eq : o.provider = (d.provided conditions).provider
  calls_eq : o.provider.calls = d.provider.calls + 1
  of_error : ∀ error, (d.provided conditions).channel = .error error →
    o.result = .discovered (.error error) ∧ o.received = []
  of_unverified : ∀ channel reason, (d.provided conditions).channel = .ok channel →
    channel.readiness = .unverified reason → d.requireReady = true →
    o.result = .discovered (.error (.channelNotReady d.connection.address reason)) ∧
      o.received = []
  of_tooLarge : ∀ channel, (d.provided conditions).channel = .ok channel →
    d.Admits channel.readiness →
    receiveLimit < (encode (call.asked d.defaultQuery).request).length →
    (encode (call.asked d.defaultQuery).request).length < 0x100000000 → o.received = []
  of_admitted : ∀ channel, (d.provided conditions).channel = .ok channel →
    d.Admits channel.readiness →
    (encode (call.asked d.defaultQuery).request).length ≤ receiveLimit →
    (∃ r, o.received = [.request call.mode r] ∧ (call.asked d.defaultQuery).Carries r) ∧
      ∀ status, stub.failure = some status → status.code ≠ .ok →
        (Header.totalSize status.headers < Header.sizeLimit →
          o.result = .discovered (.error (.rpc call.mode (.answered status)))) ∧
        (Header.sizeLimit ≤ Header.totalSize status.headers →
          ∃ fault : HeaderFault,
            o.result = .discovered (.error (.rpc call.mode (.transport fault.code))))

theorem accounted_step {d : Discovery (Counted P)} (hl : ChannelProvider.Live P)
    (hq : d.defaultQuery.Valid) (stub : Stub) (call : Call) (conditions : C) :
    Accounted d stub call conditions (d.step conditions (.stub stub) call.step) := by
  rw [step_call]
  constructor
  case provider_eq => exact provider_discover _ _ _ _ _
  case calls_eq => exact congrArg Counted.calls (provider_discover _ _ _ _ _)
  case of_error =>
    intro error h
    rw [discover_of_error h]
    exact ⟨rfl, rfl⟩
  case of_unverified =>
    intro channel reason h hu hd
    rw [discover_of_refusal h (hu ▸ refusal_unverified hd reason)]
    exact ⟨rfl, rfl⟩
  case of_tooLarge =>
    intro channel h ha hs hb
    have hr := refusal_eq_none_iff.mpr ha
    exact received_discover_of_tooLarge h hr (hl.counted _ _ _ _ h) hs hb _
  case of_admitted =>
    intro channel h ha hs
    have hr := refusal_eq_none_iff.mpr ha
    have hk : channel.link = .live := hl.counted _ _ _ _ h
    have hv := call.valid_asked hq
    refine ⟨⟨_, received_discover h hr hk hs _, hv.carries_request⟩, ?_⟩
    intro status hf hc
    constructor
    · intro ht
      exact congrArg StepResult.discovered (discover_of_status h hr hk hs hf hc ht _)
    · intro ht
      obtain ⟨fault, hd⟩ := discover_of_largeStatus h hr hk hs hf hc ht call.mode
      exact ⟨fault, congrArg StepResult.discovered hd⟩

/-- A session, call by call: what each leads to, and the client behind it. -/
inductive Trace (stub : Stub) : Discovery (Counted P) → List (Call × C) →
    List (Outcome (Counted P) StepResult) → Prop
  | nil (d : Discovery (Counted P)) : Trace stub d [] []
  | cons {d : Discovery (Counted P)} {call : Call} {conditions : C}
      {o : Outcome (Counted P) StepResult} {calls : List (Call × C)}
      {outcomes : List (Outcome (Counted P) StepResult)} (h : Accounted d stub call conditions o)
      (ht : Trace stub { d with provider := o.provider } calls outcomes) :
      Trace stub d ((call, conditions) :: calls) (o :: outcomes)

theorem trace_run {d : Discovery (Counted P)} (hl : ChannelProvider.Live P)
    (hq : d.defaultQuery.Valid) (stub : Stub) (calls : List (Call × C)) :
    Trace stub d calls (d.run (.stub stub) (calls.map (Prod.map Call.step id))) := by
  induction calls generalizing d with
  | nil => exact .nil d
  | cons c calls ih => exact .cons (accounted_step hl hq stub c.1 c.2) (ih hq)

theorem Trace.calls_eq {stub : Stub} {d : Discovery (Counted P)} {calls : List (Call × C)}
    {outcomes : List (Outcome (Counted P) StepResult)} (h : Trace stub d calls outcomes) :
    outcomes.map (fun o => o.provider.calls) =
      List.range' (d.provider.calls + 1) calls.length := by
  induction h with
  | nil d => rfl
  | cons h _ ih =>
    rw [List.map_cons, ih, List.length_cons, List.range'_succ, h.calls_eq]

/-- Each call asks for a channel once, and the backend receives one request or none. -/
theorem run_accounted (b : Builder (Counted P)) (d : Discovery (Counted P)) (hb : b.build = .ok d)
    (hl : ChannelProvider.Live P) (stub : Stub) (calls : List (Call × C)) :
    Trace stub d calls (d.run (.stub stub) (calls.map (Prod.map Call.step id))) ∧
      (d.run (.stub stub) (calls.map (Prod.map Call.step id))).map (fun o => o.provider.calls) =
        List.range' (d.provider.calls + 1) calls.length := by
  have ht := trace_run hl (Builder.valid_of_build hb) stub calls
  exact ⟨ht, ht.calls_eq⟩

theorem run_accounted_unverified :
    let b : Builder (Counted FixedProvider) :=
      { source := .connection ⟨"h", 1, none⟩
        query := { serviceName := "q" }
        requireReady := true
        provider := ⟨{ answer := fun _ => .ok (.unverified "late") }, 0⟩ }
    let stub : Stub := { entries := [] }
    let calls : List (Call × Unit) :=
      [(⟨.unordered, none, nofun⟩, ()), (⟨.ranked, none, nofun⟩, ())]
    ∃ d, b.build = .ok d ∧
      Trace stub d calls (d.run (.stub stub) (calls.map (Prod.map Call.step id))) ∧
      (d.run (.stub stub) (calls.map (Prod.map Call.step id))).map (fun o => o.provider.calls) =
        [1, 2] := by
  intro b stub calls
  exact ⟨_, rfl, run_accounted b _ rfl FixedProvider.live stub calls⟩

theorem utf8ByteSize_replicate (n : Nat) (c : Char) :
    (String.ofList (List.replicate n c)).utf8ByteSize = n * c.utf8Size := by
  induction n with
  | zero => exact (Nat.zero_mul _).symm
  | succ n ih =>
    rw [List.replicate_succ, String.ofList_cons, String.utf8ByteSize_append,
      String.utf8ByteSize_singleton, ih, Nat.succ_mul, Nat.add_comm]

theorem length_encode_ofName {s : String} (hs : s ≠ "") :
    (encode (Query.request ⟨s, "", 1⟩)).length =
      s.utf8ByteSize.log2 / 7 + s.utf8ByteSize + 4 := by
  have hf : Request.fields (Query.request ⟨s, "", 1⟩) = [.serviceName s, .maxCount 1] := by
    rw [Request.fields, Query.request, if_neg hs]
    rfl
  have hk : (Key.encode ⟨1, .lengthDelimited⟩).length = 1 := by decide +kernel
  have hm : (encodeInt32 3 1).length = 2 := by decide +kernel
  change ((Request.fields (Query.request ⟨s, "", 1⟩)).flatMap Request.Field.encode).length = _
  rw [hf]
  simp only [List.flatMap_cons, List.flatMap_nil, List.append_nil, List.length_append,
    Request.Field.encode, encodeText, hk, hm, Varint.length_encode, length_utf8]
  omega

/-- A status with a message of 17000 letters does not come back from the call that it ends. -/
theorem discover_large_lost :
    let c : Connection := ⟨"h", 1, none⟩
    let provider : FixedProvider := { answer := fun _ => .ok .notChecked }
    let long : Status := ⟨.notFound, String.ofList (List.replicate 17000 'x')⟩
    let large : Query := ⟨String.ofList (List.replicate 4194304 'x'), "", 1⟩
    (∃ code, code ≠ long.code ∧
      (discover ⟨c, ⟨"q", "", 1⟩, provider, false⟩ () (.stub ⟨[], true, some long⟩) .unordered
        ⟨"q", "", 1⟩).result = .error (.rpc .unordered (.transport code))) ∧
      Builder.build ⟨.connection c, large.draft, none, false, provider⟩ =
        .ok ⟨c, large, provider, false⟩ ∧
      (discover ⟨c, large, provider, false⟩ () (.stub ⟨[], true, none⟩) .unordered
        large).received = [] := by
  intro c provider long large
  have hp : (ChannelProvider.provide provider () c).channel = .ok ⟨.notChecked, .live⟩ := rfl
  have hn : large.serviceName ≠ "" := by
    intro he
    have hl := congrArg String.length he
    rw [String.length_ofList, List.length_replicate] at hl
    exact absurd hl (by decide)
  refine ⟨?_, ?_, ?_⟩
  · have ht : Header.sizeLimit ≤ Header.totalSize long.headers := by
      apply Status.sizeLimit_le_of_long
      rw [String.length_ofList, List.length_replicate]
      decide
    have hs : (encode (Query.request ⟨"q", "", 1⟩)).length ≤ receiveLimit := by decide +kernel
    have hf : (⟨[], true, some long⟩ : Stub).failure = some long := rfl
    obtain ⟨fault, hd⟩ := discover_of_largeStatus
      (d := ⟨c, ⟨"q", "", 1⟩, provider, false⟩) hp rfl rfl hs hf (by decide) ht .unordered
    exact ⟨fault.code, by cases fault <;> decide, hd⟩
  · exact Builder.build_draft ⟨hn, by decide, by decide⟩ c provider
  · -- four bytes for the length of the name, three for the keys and the count
    have hs := length_encode_ofName hn
    rw [utf8ByteSize_replicate] at hs
    have hl : (4194304 * 'x'.utf8Size).log2 / 7 + 4194304 * 'x'.utf8Size + 4 = 4194311 := by
      decide +kernel
    rw [hl] at hs
    have hlo : receiveLimit < (encode large.request).length := by
      rw [hs]
      decide
    have hhi : (encode large.request).length < 0x100000000 := by
      rw [hs]
      decide
    exact received_discover_of_tooLarge (d := ⟨c, large, provider, false⟩) hp rfl rfl hlo hhi
      .unordered

end Discovery
end Locator
