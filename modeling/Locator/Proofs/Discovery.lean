import Locator.Discovery
import Locator.Proofs.Exchange
import Locator.Proofs.Header
import Locator.Proofs.Location

namespace Locator.Discovery

open Wire

variable {P C : Type} [ChannelProvider P C]

abbrev provided (d : Discovery P) (conditions : C) : Provided P :=
  ChannelProvider.provide d.provider conditions d.connection

/-- A call goes ahead unless it requires a ready channel and has an unverified one. -/
def Admits (d : Discovery P) (readiness : Readiness) : Prop :=
  d.requireReady = true → ∀ reason, readiness ≠ .unverified reason

theorem refusal_eq_none_iff {d : Discovery P} {readiness : Readiness} :
    d.refusal? readiness = none ↔ d.Admits readiness := by
  cases readiness with
  | notChecked => simp [refusal?, Admits]
  | ready => simp [refusal?, Admits]
  | unverified reason => simp [refusal?, Admits]

theorem refusal_unverified {d : Discovery P} (h : d.requireReady = true) (reason : String) :
    d.refusal? (.unverified reason) = some (.channelNotReady d.connection.address reason) :=
  if_pos h

theorem provider_discover (d : Discovery P) (conditions : C) (backend : Backend) (mode : Mode)
    (q : Query) :
    (d.discover conditions backend mode q).provider =
      (d.provided conditions).provider := by
  rw [discover]
  cases (d.provided conditions).channel with
  | error error => rfl
  | ok channel =>
    simp only
    cases d.refusal? channel.readiness with
    | none => rfl
    | some error => rfl

theorem discover_of_error {d : Discovery P} {conditions : C} {error : DiscoveryError}
    (h : (d.provided conditions).channel = .error error)
    (backend : Backend) (mode : Mode) (q : Query) :
    d.discover conditions backend mode q =
      ⟨.error error, (d.provided conditions).events, [],
        (d.provided conditions).provider⟩ := by
  simp only [discover, h]

theorem discover_of_refusal {d : Discovery P} {conditions : C} {channel : Channel}
    {error : DiscoveryError}
    (h : (d.provided conditions).channel = .ok channel)
    (hr : d.refusal? channel.readiness = some error) (backend : Backend) (mode : Mode) (q : Query) :
    d.discover conditions backend mode q =
      ⟨.error error, (d.provided conditions).events, [],
        (d.provided conditions).provider⟩ := by
  simp only [discover, h, hr]

theorem discover_of_admitted {d : Discovery P} {conditions : C} {channel : Channel}
    (h : (d.provided conditions).channel = .ok channel)
    (hr : d.refusal? channel.readiness = none) (backend : Backend) (mode : Mode) (q : Query) :
    d.discover conditions backend mode q =
      ⟨locate mode (channel.call backend mode q.request).1,
        (d.provided conditions).events ++ warnings mode channel.readiness ++
          report mode (locate mode (channel.call backend mode q.request).1),
        (channel.call backend mode q.request).2, (d.provided conditions).provider⟩ := by
  simp only [discover, h, hr]

theorem discover_of_call {d : Discovery P} {conditions : C} {channel : Channel}
    (h : (d.provided conditions).channel = .ok channel)
    (hr : d.refusal? channel.readiness = none) (backend : Backend) (mode : Mode) (q : Query) :
    (d.discover conditions backend mode q).result =
        locate mode (channel.call backend mode q.request).1 ∧
      (d.discover conditions backend mode q).received =
        (channel.call backend mode q.request).2 := by
  rw [discover_of_admitted h hr]
  exact ⟨rfl, rfl⟩

section
variable {d : Discovery P} {conditions : C} {channel : Channel} {stub : Stub} {q : Query}
  (h : (d.provided conditions).channel = .ok channel)
  (hr : d.refusal? channel.readiness = none) (hl : channel.link = .live)
include h hr hl

theorem received_discover (hs : (encode q.request).length ≤ receiveLimit) (mode : Mode) :
    (d.discover conditions (.stub stub) mode q).received = [.request mode q.request] :=
  (discover_of_call h hr _ _ _).2.trans (Channel.received_call hl hs)

theorem received_discover_of_tooLarge (hs : receiveLimit < (encode q.request).length)
    (hb : (encode q.request).length < 0x100000000) (mode : Mode) :
    (d.discover conditions (.stub stub) mode q).received = [] :=
  (discover_of_call h hr _ _ _).2.trans (Channel.received_call_of_tooLarge hl hs hb)

theorem discover_of_failure {status : Status} (hs : (encode q.request).length ≤ receiveLimit)
    (hf : stub.failure = some status) (hc : status.code ≠ .ok) (mode : Mode) :
    (d.discover conditions (.stub stub) mode q).result =
      .error (.rpc mode (match Header.fault? status.headers with
        | none => .answered status
        | some fault => .transport fault.code)) := by
  rw [(discover_of_call h hr _ _ _).1, Channel.call_of_failure hl hs hf hc]
  rfl

theorem discover_of_status {status : Status} (hs : (encode q.request).length ≤ receiveLimit)
    (hf : stub.failure = some status) (hc : status.code ≠ .ok)
    (ht : Header.totalSize status.headers < Header.sizeLimit) (mode : Mode) :
    (d.discover conditions (.stub stub) mode q).result =
      .error (.rpc mode (.answered status)) := by
  have hd := discover_of_failure h hr hl hs hf hc mode
  rwa [Status.fault_headers_eq_none_iff.mpr ht] at hd

theorem discover_of_largeStatus {status : Status}
    (hs : (encode q.request).length ≤ receiveLimit) (hf : stub.failure = some status)
    (hc : status.code ≠ .ok) (ht : Header.sizeLimit ≤ Header.totalSize status.headers)
    (mode : Mode) :
    ∃ fault : HeaderFault, (d.discover conditions (.stub stub) mode q).result =
      .error (.rpc mode (.transport fault.code)) := by
  obtain ⟨fault, hfault⟩ := Status.exists_fault_headers_iff.mpr ht
  have hd := discover_of_failure h hr hl hs hf hc mode
  rw [hfault] at hd
  exact ⟨fault, hd⟩

end

theorem locate_ok_iff {mode : Mode} {r : Response} {ls : Locations} :
    locate mode (.ok r) = .ok ls ↔ Location.ofResponse r = .ok ls.remaining := by
  rw [locate]
  cases Location.ofResponse r with
  | error failure => simp
  | ok locations =>
    cases ls
    simp

theorem locate_of_malformed {mode : Mode} {r : Response} {index : Nat} {source : EntryError}
    (h : Location.FirstMalformed r.entries index source) :
    locate mode (.ok r) = .error (.decode index source) := by
  simp only [locate, Location.ofResponse_eq_error_iff.mpr h]

theorem exists_firstMalformed {entries : List Entry}
    (h : ¬∀ e ∈ entries, ∃ l, Location.ofEntry e = .ok l) :
    ∃ index source, Location.FirstMalformed entries index source := by
  rw [← Location.exists_ofResponse_iff (r := ⟨entries⟩)] at h
  cases hr : Location.ofResponse ⟨entries⟩ with
  | ok ls => exact absurd ⟨ls, hr⟩ h
  | error failure => exact ⟨_, _, Location.ofResponse_eq_error_iff.mp hr⟩

/-- Locations are returned exactly when every entry that the backend has for the query makes one. -/
theorem discover_offered {d : Discovery P} {conditions : C} {stub : Stub} {channel : Channel}
    {q : Query} (mode : Mode) (hf : stub.failure = none) (hq : q.Obtainable)
    (hc : (d.provided conditions).channel = .ok channel)
    (hl : channel.link = .live) (hr : d.refusal? channel.readiness = none)
    (hreq : (encode q.request).length ≤ receiveLimit)
    (hres : (encode (⟨stub.offered q⟩ : Response)).length ≤ receiveLimit) :
    ((∃ ls, (d.discover conditions (.stub stub) mode q).result = .ok ls) ↔
        ∀ e ∈ stub.offered q, ∃ l, Location.ofEntry e = .ok l) ∧
      (∀ ls, (d.discover conditions (.stub stub) mode q).result = .ok ls →
        ∃ locations, ls.Yields locations ∧
          List.Forall₂ Location.Carries (stub.offered q) locations) ∧
      ((¬∀ e ∈ stub.offered q, ∃ l, Location.ofEntry e = .ok l) →
        ∃ index source, Location.FirstMalformed (stub.offered q) index source ∧
          (d.discover conditions (.stub stub) mode q).result = .error (.decode index source)) := by
  have ha := Stub.answer_request hf hq.valid
  have hd : (d.discover conditions (.stub stub) mode q).result =
      locate mode (.ok ⟨stub.offered q⟩) := by
    rw [(discover_of_call hc hr _ _ _).1, Channel.call_of_response hl hreq ha hres]
  rw [hd]
  refine ⟨?_, ?_, ?_⟩
  · rw [← Location.exists_ofResponse_iff (r := ⟨stub.offered q⟩)]
    apply Iff.intro
    · intro h
      obtain ⟨ls, h⟩ := h
      exact ⟨ls.remaining, locate_ok_iff.mp h⟩
    · intro h
      obtain ⟨ls, h⟩ := h
      exact ⟨⟨ls⟩, locate_ok_iff.mpr h⟩
  · intro ls h
    have hls := Location.ofResponse_eq_ok_iff.mp (locate_ok_iff.mp h)
    refine ⟨ls.remaining, Locations.yields_remaining _, hls.imp ?_⟩
    intro e l he
    exact Location.carries_of_ofEntry he
  · intro h
    obtain ⟨index, source, hm⟩ := exists_firstMalformed h
    exact ⟨index, source, hm, locate_of_malformed hm⟩

/-- The second of two entries that a backend with room for two returns has no host. -/
theorem discover_offered_noHost :
    let d : Discovery FixedProvider :=
      ⟨⟨"h", 1, none⟩, ⟨"q", "", 1⟩, { answer := fun _ => .ok .notChecked }, true⟩
    let stub : Stub := { entries := [⟨"", "q", "a", 1⟩, ⟨"", "q", "", 2⟩, ⟨"", "q", "b", 3⟩] }
    ∃ index source,
      Location.FirstMalformed [⟨"", "q", "a", 1⟩, ⟨"", "q", "", 2⟩] index source ∧
        (d.discover () (.stub stub) .ranked ⟨"q", "", 2⟩).result =
          .error (.decode index source) := by
  intro d stub
  have hf : stub.failure = none := rfl
  have hq : Query.Obtainable ⟨"q", "", 2⟩ :=
    Query.obtainable_iff_valid.mpr ⟨by decide, by decide, by decide⟩
  have hc : (d.provided ()).channel =
      .ok ⟨.notChecked, .live⟩ := rfl
  have hreq : (encode (Query.request ⟨"q", "", 2⟩)).length ≤ receiveLimit := by decide +kernel
  have hres : (encode (⟨stub.offered ⟨"q", "", 2⟩⟩ : Response)).length ≤ receiveLimit := by
    decide +kernel
  have hn : ¬∀ e ∈ stub.offered ⟨"q", "", 2⟩, ∃ l, Location.ofEntry e = .ok l := by
    intro h
    obtain ⟨l, hl⟩ := h ⟨"", "q", "", 2⟩ (by decide)
    cases hl
  exact (discover_offered .ranked hf hq hc rfl rfl hreq hres).2.2 hn

end Locator.Discovery
