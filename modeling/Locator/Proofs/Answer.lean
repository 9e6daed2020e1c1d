import Locator.Proofs.Discovery

namespace Locator

open Wire

namespace Location

structure FirstFaulty (entries : List Entry) (index : Nat) (error : EntryError) : Prop where
  faulty : ∃ e, entries[index]? = some e ∧ Faulty e error
  before : ∀ i < index, ∀ e, entries[i]? = some e → ∀ error, ¬Faulty e error

theorem firstFaulty_iff {entries : List Entry} {index : Nat} {error : EntryError} :
    FirstFaulty entries index error ↔ FirstMalformed entries index error := by
  apply Iff.intro
  · intro h
    obtain ⟨e, he, hf⟩ := h.faulty
    refine ⟨⟨e, he, ofEntry_eq_error_iff.mpr hf⟩, ?_⟩
    intro i hi e he
    exact exists_ofEntry_iff.mpr (h.before i hi e he)
  · intro h
    obtain ⟨e, he, hm⟩ := h.malformed
    refine ⟨⟨e, he, ofEntry_eq_error_iff.mp hm⟩, ?_⟩
    intro i hi e he
    exact exists_ofEntry_iff.mp (h.before i hi e he)

theorem forall₂_ofEntry_iff {entries : List Entry} {ls : List Location} :
    List.Forall₂ (fun e l => ofEntry e = .ok l) entries ls ↔
      (∀ l ∈ ls, l.Valid) ∧ ls.map entry = entries := by
  apply Iff.intro
  · intro h
    induction h with
    | nil => exact ⟨nofun, rfl⟩
    | cons he _ ih =>
      obtain ⟨hv, he⟩ := ofEntry_eq_ok_iff.mp he
      rw [List.map_cons, he, ih.2]
      exact ⟨List.forall_mem_cons.mpr ⟨hv, ih.1⟩, rfl⟩
  · intro h
    obtain ⟨hv, rfl⟩ := h
    induction ls with
    | nil => exact .nil
    | cons l ls ih =>
      obtain ⟨hl, hr⟩ := List.forall_mem_cons.mp hv
      exact .cons (ofEntry_eq_ok_iff.mpr ⟨hl, rfl⟩) (ih hr)

end Location

namespace Locations

def Answer.locations : Answer → List Location
  | .location l => l.toList
  | .number _ => []
  | .bounds _ _ => []
  | .all ls => ls

theorem ask_mem (ls : Locations) (q : Question) :
    (∀ l ∈ (ls.ask q).1.locations, l ∈ ls.remaining) ∧
      ∀ l ∈ (ls.ask q).2.remaining, l ∈ ls.remaining := by
  cases q with
  | next =>
    refine ⟨?_, fun l => List.mem_of_mem_tail⟩
    intro l h
    exact List.mem_of_head? (Option.mem_toList.mp h)
  | nth n =>
    refine ⟨?_, fun l => List.mem_of_mem_drop⟩
    intro l h
    exact List.mem_of_getElem? (Option.mem_toList.mp h)
  | last =>
    refine ⟨?_, nofun⟩
    intro l h
    exact List.mem_of_getLast? (Option.mem_toList.mp h)
  | count => exact ⟨nofun, nofun⟩
  | len => exact ⟨nofun, fun l => id⟩
  | sizeHint => exact ⟨nofun, fun l => id⟩
  | rest => exact ⟨fun l => id, nofun⟩

/-- Whatever is asked, no location is handed out but those that were there. -/
theorem mem_of_mem_askAll {ls : Locations} {questions : List Question} {l : Location}
    (h : l ∈ (ls.askAll questions).flatMap Answer.locations) : l ∈ ls.remaining := by
  induction questions generalizing ls with
  | nil => cases h
  | cons q questions ih =>
    rw [askAll, List.flatMap_cons] at h
    obtain ⟨ha, hl⟩ := ask_mem ls q
    rcases List.mem_append.mp h with h | h
    · exact ha l h
    · exact hl l (ih h)

end Locations

theorem Channel.call_of_bytes {channel : Channel} {bytes : Bytes} (hl : channel.link = .live)
    (hb : bytes.length ≤ receiveLimit) (mode : Mode) (r : Request) :
    (channel.call (.canned bytes) mode r).1 =
      match (decode bytes : Except ReadError Response) with
      | .ok response => .ok response
      | .error error => .error (.answered ⟨.internal, error.message⟩) := by
  have hn := Frame.next_encode hb []
  rw [List.append_nil] at hn
  simp only [call, hl, Backend.handle, readReply, Header.fault_ok, readBody, hn]
  rw [readMessage]
  cases (decode bytes : Except ReadError Response) with
  | ok response => rfl
  | error error => rfl

namespace Discovery

/-- How a call ends to which bytes are answered. -/
inductive Ends (mode : Mode) (bytes : Bytes) : Except DiscoveryError Locations → Prop
  | unreadable {error : ReadError} (h : (decode bytes : Except ReadError Response) = .error error) :
      Ends mode bytes (.error (.rpc mode (.answered ⟨.internal, error.message⟩)))
  | malformed {entries : List Entry} {index : Nat} {error : EntryError}
      (h : decode bytes = .ok (⟨entries⟩ : Response))
      (hf : Location.FirstFaulty entries index error) :
      Ends mode bytes (.error (.decode index error))
  | located {locations : List Location}
      (h : decode bytes = .ok (⟨locations.map Location.entry⟩ : Response))
      (hv : ∀ l ∈ locations, l.Valid) : Ends mode bytes (.ok ⟨locations⟩)

theorem locate_ok_iff_valid {mode : Mode} {r : Response} {ls : Locations} :
    locate mode (.ok r) = .ok ls ↔
      (∀ l ∈ ls.remaining, l.Valid) ∧ ls.remaining.map Location.entry = r.entries :=
  locate_ok_iff.trans (Location.ofResponse_eq_ok_iff.trans Location.forall₂_ofEntry_iff)

theorem locate_error_iff {mode : Mode} {r : Response} {error : DiscoveryError} :
    locate mode (.ok r) = .error error ↔
      ∃ index source, Location.FirstFaulty r.entries index source ∧
        error = .decode index source := by
  apply Iff.intro
  · intro h
    rw [locate] at h
    cases hr : Location.ofResponse r with
    | error failure =>
      rw [hr] at h
      cases h
      have hm := Location.ofResponse_eq_error_iff.mp hr
      exact ⟨_, _, Location.firstFaulty_iff.mpr hm, rfl⟩
    | ok locations =>
      rw [hr] at h
      cases h
  · intro h
    obtain ⟨index, source, hf, rfl⟩ := h
    exact locate_of_malformed (Location.firstFaulty_iff.mp hf)

theorem locate_eq_iff_ends {channel : Channel} {bytes : Bytes} (hl : channel.link = .live)
    (hb : bytes.length ≤ receiveLimit) {mode : Mode} {r : Request}
    {result : Except DiscoveryError Locations} :
    locate mode (channel.call (.canned bytes) mode r).1 = result ↔ Ends mode bytes result := by
  rw [Channel.call_of_bytes hl hb]
  apply Iff.intro
  · rintro rfl
    cases hd : (decode bytes : Except ReadError Response) with
    | error error => exact .unreadable hd
    | ok response =>
      cases hr : locate mode (.ok response) with
      | ok ls =>
        obtain ⟨hv, he⟩ := locate_ok_iff_valid.mp hr
        apply Ends.located _ hv
        rw [hd, he]
      | error error =>
        obtain ⟨index, source, hf, rfl⟩ := locate_error_iff.mp hr
        exact .malformed hd hf
  · intro h
    cases h with
    | unreadable h => simp only [h, locate]
    | malformed h hf =>
      rw [h]
      exact locate_error_iff.mpr ⟨_, _, hf, rfl⟩
    | located h hv =>
      rw [h]
      exact locate_ok_iff_valid.mpr ⟨hv, rfl⟩

variable {P C : Type} [ChannelProvider P C]

theorem valid_of_discover {d : Discovery P} {conditions : C} {backend : Backend} {mode : Mode}
    {q : Query} {ls : Locations} (h : (d.discover conditions backend mode q).result = .ok ls) :
    ∀ l ∈ ls.remaining, l.Valid := by
  cases hc : (d.provided conditions).channel with
  | error error =>
    rw [discover_of_error hc] at h
    cases h
  | ok channel =>
    cases hr : d.refusal? channel.readiness with
    | some error =>
      rw [discover_of_refusal hc hr] at h
      cases h
    | none =>
      rw [(discover_of_call hc hr backend mode q).1] at h
      cases ha : (channel.call backend mode q.request).1 with
      | error failure =>
        rw [ha] at h
        cases h
      | ok response =>
        rw [ha] at h
        exact (locate_ok_iff_valid.mp h).1

/-- A call ends in the one way that the bytes decide, and hands out no malformed location. -/
theorem discover_ends {d : Discovery P} {conditions : C} {channel : Channel} {bytes : Bytes}
    (mode : Mode) (q : Query) (hc : (d.provided conditions).channel = .ok channel)
    (hr : d.refusal? channel.readiness = none) (hl : channel.link = .live)
    (hb : bytes.length ≤ receiveLimit) :
    (∀ result, (d.discover conditions (.canned bytes) mode q).result = result ↔
        Ends mode bytes result) ∧
      ∀ ls, (d.discover conditions (.canned bytes) mode q).result = .ok ls →
        ls.Yields ls.remaining ∧
          ∀ questions, ∀ l ∈ (ls.askAll questions).flatMap Locations.Answer.locations, l.Valid := by
  apply And.intro
  · intro result
    rw [(discover_of_call hc hr _ mode q).1]
    exact locate_eq_iff_ends hl hb
  · intro ls h
    refine ⟨Locations.yields_remaining ls.remaining, ?_⟩
    intro questions l hm
    exact valid_of_discover h l (Locations.mem_of_mem_askAll hm)

/-- Bytes that break off, and bytes of one entry. -/
theorem discover_ends_cut :
    let d : Discovery FixedProvider :=
      ⟨⟨"h", 1, none⟩, ⟨"q", "", 1⟩, { answer := fun _ => .ok .notChecked }, true⟩
    (∃ text, (d.discover () (.canned [0x0A]) .ranked d.defaultQuery).result =
        .error (.rpc .ranked (.answered ⟨.internal, text⟩))) ∧
      (d.discover () (.canned [0x0A, 8, 0x12, 1, 0x71, 0x1A, 1, 0x61, 0x20, 1]) .unordered
        d.defaultQuery).result = .ok ⟨[⟨"q", "a", 1, ""⟩]⟩ := by
  intro d
  have hc : (d.provided ()).channel = .ok ⟨.notChecked, .live⟩ := rfl
  apply And.intro
  · have hb : [(0x0A : UInt8)].length ≤ receiveLimit := by decide
    exact ⟨_, ((discover_ends .ranked d.defaultQuery hc rfl rfl hb).1 _).mpr (.unreadable rfl)⟩
  · have hb : [(0x0A : UInt8), 8, 0x12, 1, 0x71, 0x1A, 1, 0x61, 0x20, 1].length ≤ receiveLimit := by
      decide
    have hv : ∀ l ∈ [(⟨"q", "a", 1, ""⟩ : Location)], l.Valid := by
      intro l h
      rw [List.mem_singleton.mp h]
      exact ⟨by decide, by decide, by decide, by decide⟩
    exact ((discover_ends .unordered d.defaultQuery hc rfl rfl hb).1 _).mpr (.located rfl hv)

end Discovery
end Locator
