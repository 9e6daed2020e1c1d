import Mathlib.Data.List.Forall2
import Locator.Location

namespace Locator

namespace Location

structure Carries (e : Entry) (l : Location) : Prop where
  serviceName_eq : l.serviceName = e.serviceName
  hostName_eq : l.hostName = e.hostName
  port_eq : (l.port.toNat : Int) = e.port.toInt
  scope_eq : l.scope = e.scope

theorem toNat_of_port {n : Int32} {port : UInt16} (h : port? n = some port) :
    (port.toNat : Int) = n.toInt := by
  unfold port? at h
  split at h
  · next hn =>
    cases h
    rw [UInt16.toNat_ofNat']
    omega
  · cases h

theorem carries_of_ofEntry {e : Entry} {l : Location} (h : ofEntry e = .ok l) : Carries e l := by
  unfold ofEntry at h
  split at h
  · cases h
  · split at h
    · cases h
    · split at h
      · cases h
      · next hp =>
        cases h
        exact ⟨rfl, rfl, toNat_of_port hp, rfl⟩

/-- It is said of the service name before the host name, and of the host name before the port. -/
inductive Faulty (e : Entry) : EntryError → Prop
  | serviceName (hs : e.serviceName = "") : Faulty e .emptyServiceName
  | hostName (hs : e.serviceName ≠ "") (hh : e.hostName = "") : Faulty e .emptyHostName
  | port (hs : e.serviceName ≠ "") (hh : e.hostName ≠ "")
      (hp : e.port.toInt < 1 ∨ 65535 < e.port.toInt) : Faulty e (.portOutOfRange e.port)

structure Valid (l : Location) : Prop where
  serviceName_ne : l.serviceName ≠ ""
  hostName_ne : l.hostName ≠ ""
  port_pos : 1 ≤ l.port.toNat
  port_le : l.port.toNat ≤ 65535

/-- The entry that a location comes from. -/
def entry (l : Location) : Entry where
  scope := l.scope
  serviceName := l.serviceName
  hostName := l.hostName
  port := Int32.ofNat l.port.toNat

theorem toInt_ofPort (port : UInt16) : (Int32.ofNat port.toNat).toInt = port.toNat :=
  Int32.toInt_ofNat_of_lt (Nat.lt_trans port.toNat_lt (by decide))

theorem port_eq_some_iff {n : Int32} {port : UInt16} :
    port? n = some port ↔ 1 ≤ port.toNat ∧ Int32.ofNat port.toNat = n := by
  apply Iff.intro
  · intro h
    have he := toNat_of_port h
    unfold port? at h
    split at h
    · next hn =>
      refine ⟨by omega, Int32.toInt_inj.mp ?_⟩
      rw [toInt_ofPort, he]
    · cases h
  · intro h
    obtain ⟨hp, rfl⟩ := h
    have hl := port.toNat_lt
    rw [port?, toInt_ofPort, if_pos (by omega)]
    simp

/-- A location is made of the entry that it comes from, and of no other. -/
theorem ofEntry_eq_ok_iff {e : Entry} {l : Location} :
    ofEntry e = .ok l ↔ l.Valid ∧ l.entry = e := by
  apply Iff.intro
  · intro h
    unfold ofEntry at h
    split at h
    · cases h
    · next hs =>
      split at h
      · cases h
      · next hh =>
        split at h
        · cases h
        · next port hp =>
          cases h
          obtain ⟨hn, he⟩ := port_eq_some_iff.mp hp
          refine ⟨⟨hs, hh, hn, Nat.le_of_lt_succ port.toNat_lt⟩, ?_⟩
          rw [entry, he]
  · intro h
    obtain ⟨hv, rfl⟩ := h
    have hs : ¬l.entry.serviceName = "" := hv.serviceName_ne
    have hh : ¬l.entry.hostName = "" := hv.hostName_ne
    have hp : port? l.entry.port = some l.port := port_eq_some_iff.mpr ⟨hv.port_pos, rfl⟩
    rw [ofEntry, if_neg hs, if_neg hh, hp]
    rfl

theorem ofEntry_eq_error_iff {e : Entry} {error : EntryError} :
    ofEntry e = .error error ↔ Faulty e error := by
  apply Iff.intro
  · intro h
    unfold ofEntry at h
    split at h
    · next hs =>
      cases h
      exact .serviceName hs
    · next hs =>
      split at h
      · next hh =>
        cases h
        exact .hostName hs hh
      · next hh =>
        split at h
        · next hp =>
          cases h
          unfold port? at hp
          split at hp
          · cases hp
          · exact .port hs hh (by omega)
        · cases h
  · intro h
    cases h with
    | serviceName hs => exact if_pos hs
    | hostName hs hh =>
      rw [ofEntry, if_neg hs]
      exact if_pos hh
    | port hs hh hp =>
      have hn : port? e.port = none := if_neg (by omega)
      rw [ofEntry, if_neg hs, if_neg hh, hn]

theorem exists_ofEntry_iff {e : Entry} :
    (∃ l, ofEntry e = .ok l) ↔ ∀ error, ¬Faulty e error := by
  apply Iff.intro
  · intro h error hf
    obtain ⟨l, hl⟩ := h
    cases hl.symm.trans (ofEntry_eq_error_iff.mpr hf)
  · intro h
    cases he : ofEntry e with
    | ok l => exact ⟨l, rfl⟩
    | error error => exact absurd (ofEntry_eq_error_iff.mp he) (h error)

structure FirstMalformed (entries : List Entry) (index : Nat) (error : EntryError) : Prop where
  malformed : ∃ e, entries[index]? = some e ∧ ofEntry e = .error error
  before : ∀ i < index, ∀ e, entries[i]? = some e → ∃ l, ofEntry e = .ok l

theorem firstMalformed_zero_iff {e : Entry} {entries : List Entry} {error : EntryError} :
    FirstMalformed (e :: entries) 0 error ↔ ofEntry e = .error error := by
  constructor
  · rintro ⟨⟨_, he, h⟩, -⟩
    cases he
    exact h
  · intro h
    refine ⟨⟨e, rfl, h⟩, ?_⟩
    intro i hi
    exact absurd hi (Nat.not_lt_zero i)

theorem firstMalformed_succ_iff {e : Entry} {entries : List Entry} {index : Nat}
    {error : EntryError} :
    FirstMalformed (e :: entries) (index + 1) error ↔
      (∃ l, ofEntry e = .ok l) ∧ FirstMalformed entries index error := by
  constructor
  · intro h
    obtain ⟨hm, hb⟩ := h
    refine ⟨hb 0 (Nat.succ_pos index) e rfl, hm, ?_⟩
    intro i hi
    exact hb (i + 1) (Nat.succ_lt_succ hi)
  · intro h
    obtain ⟨he, hm, hb⟩ := h
    refine ⟨hm, ?_⟩
    intro i hi x hx
    cases i with
    | zero =>
      cases hx
      exact he
    | succ i => exact hb i (Nat.lt_of_succ_lt_succ hi) x hx

theorem readEntries_eq_ok_iff {index : Nat} {before ls : List Location} {entries : List Entry} :
    readEntries index before entries = .ok ls ↔
      ∃ rest, List.Forall₂ (fun e l => ofEntry e = .ok l) entries rest ∧
        ls = before.reverse ++ rest := by
  induction entries generalizing index before with
  | nil => simp [readEntries, eq_comm]
  | cons e entries ih =>
    rw [readEntries]
    cases he : ofEntry e with
    | error error => simp [List.forall₂_cons_left_iff, he]
    | ok l =>
      simp only [ih, List.forall₂_cons_left_iff, he, Except.ok.injEq]
      constructor
      · rintro ⟨rest, hr, rfl⟩
        exact ⟨l :: rest, ⟨l, rest, rfl, hr, rfl⟩, by simp⟩
      · rintro ⟨_, ⟨_, rest, rfl, hr, rfl⟩, rfl⟩
        exact ⟨rest, hr, by simp⟩

theorem readEntries_eq_error_iff {index place : Nat} {before : List Location}
    {entries : List Entry} {error : EntryError} :
    readEntries index before entries = .error (place, error) ↔
      ∃ n, place = index + n ∧ FirstMalformed entries n error := by
  induction entries generalizing index before with
  | nil =>
    simp only [readEntries, reduceCtorEq, false_iff]
    rintro ⟨n, -, ⟨e, he, -⟩, -⟩
    cases he
  | cons e entries ih =>
    rw [readEntries]
    cases he : ofEntry e with
    | error error' =>
      constructor
      · intro h
        cases h
        exact ⟨0, rfl, firstMalformed_zero_iff.mpr he⟩
      · rintro ⟨n, rfl, hm⟩
        cases n with
        | zero =>
          cases he.symm.trans (firstMalformed_zero_iff.mp hm)
          rfl
        | succ n =>
          obtain ⟨⟨l, hl⟩, -⟩ := firstMalformed_succ_iff.mp hm
          cases he.symm.trans hl
    | ok l =>
      simp only [ih]
      constructor
      · rintro ⟨n, rfl, hm⟩
        exact ⟨n + 1, by omega, firstMalformed_succ_iff.mpr ⟨⟨l, he⟩, hm⟩⟩
      · rintro ⟨n, rfl, hm⟩
        cases n with
        | zero => cases he.symm.trans (firstMalformed_zero_iff.mp hm)
        | succ n => exact ⟨n, by omega, (firstMalformed_succ_iff.mp hm).2⟩

theorem ofResponse_eq_ok_iff {r : Response} {ls : List Location} :
    ofResponse r = .ok ls ↔ List.Forall₂ (fun e l => ofEntry e = .ok l) r.entries ls := by
  simp [ofResponse, readEntries_eq_ok_iff]

theorem ofResponse_eq_error_iff {r : Response} {index : Nat} {error : EntryError} :
    ofResponse r = .error (index, error) ↔ FirstMalformed r.entries index error := by
  simp [ofResponse, readEntries_eq_error_iff]

theorem exists_of_forall {entries : List Entry} {ls : List Location}
    (h : List.Forall₂ (fun e l => ofEntry e = .ok l) entries ls) :
    ∀ e ∈ entries, ∃ l, ofEntry e = .ok l := by
  induction h with
  | nil => simp
  | cons he _ ih => exact List.forall_mem_cons.mpr ⟨⟨_, he⟩, ih⟩

theorem exists_ofResponse_iff {r : Response} :
    (∃ ls, ofResponse r = .ok ls) ↔ ∀ e ∈ r.entries, ∃ l, ofEntry e = .ok l := by
  constructor
  · rintro ⟨ls, h⟩
    exact exists_of_forall (ofResponse_eq_ok_iff.mp h)
  · intro h
    cases hr : ofResponse r with
    | ok ls => exact ⟨ls, rfl⟩
    | error failure =>
      obtain ⟨⟨e, he, hm⟩, -⟩ := ofResponse_eq_error_iff.mp hr
      obtain ⟨l, hl⟩ := h e (List.mem_of_getElem? he)
      cases hm.symm.trans hl

end Location

namespace Locations

/-- Asked for the next location again and again, `ls` hand out these, and then no more. -/
def Yields (ls : Locations) (locations : List Location) : Prop :=
  ∀ n, ls.askAll (List.replicate (locations.length + n) .next) =
    locations.map (fun l => .location (some l)) ++ List.replicate n (.location none)

theorem yields_remaining (locations : List Location) : Yields ⟨locations⟩ locations := by
  intro n
  induction locations with
  | nil =>
    rw [List.length_nil, Nat.zero_add]
    induction n with
    | zero => rfl
    | succ n ih => exact congrArg (.location none :: ·) ih
  | cons l locations ih =>
    rw [List.length_cons, Nat.add_right_comm]
    exact congrArg (.location (some l) :: ·) ih

end Locations
end Locator
