import Locator.Proofs.Message.Lawful
import Locator.Proofs.Query

namespace Locator

open Wire

namespace Request

theorem eq_of_mem_fields {r : Request} {x : Field} (h : x ∈ r.fields) :
    x = .serviceName r.serviceName ∨ x = .scope r.scope ∨ x = .maxCount r.maxCount := by
  simp only [fields, List.mem_append, List.mem_ite_nil_left, List.mem_singleton, or_assoc] at h
  exact h.imp And.right (Or.imp And.right And.right)

end Request

namespace Query

namespace Step

inductive Refused : Step → ConfigError → Prop
  | ofService : Refused (.ofService "") .emptyServiceName
  | maxCount {n : UInt32} (hn : n.toNat = 0 ∨ 2147483647 < n.toNat) :
      Refused (.maxCount n) (.maxCount n)

def serviceName? : Step → Option String
  | .ofService s => if s = "" then none else some s
  | _ => none

def scope? : Step → Option String
  | .scope s => some s
  | _ => none

def maxCount? : Step → Option UInt32
  | .maxCount n => if 0 < n.toNat ∧ n.toNat ≤ 2147483647 then some n else none
  | _ => none

end Step

variable {q q' : Query} {s : Step} {steps : List Step}

/-- The query `q` with the last scope and the last count that are set by steps. -/
def settle (q : Query) (steps : List Step) : Query where
  serviceName := q.serviceName
  scope := (steps.filterMap Step.scope?).getLastD q.scope
  maxCount := (steps.filterMap Step.maxCount?).getLastD q.maxCount

/-- The last step that names a service starts anew, and only what is set behind it counts. -/
inductive LeadsTo (q : Query) : List Step → Query → Prop
  | settled {steps : List Step} (h : ∀ s ∈ steps, s.serviceName? = none) :
      LeadsTo q steps (q.settle steps)
  | named {before after : List Step} {s : Step} {name : String} (hs : s.serviceName? = some name)
      (h : ∀ t ∈ after, t.serviceName? = none) :
      LeadsTo q (before ++ s :: after) (settle ⟨name, "", 1⟩ after)

theorem ofService_eq_error_iff {serviceName : String} {error : ConfigError} :
    Query.ofService serviceName = .error error ↔
      serviceName = "" ∧ error = .emptyServiceName := by
  unfold Query.ofService
  split
  · next hs => simp [hs, eq_comm]
  · next hs => simp [hs]

theorem withMaxCount_eq_error_iff {n : UInt32} {error : ConfigError} :
    q.withMaxCount n = .error error ↔
      (n.toNat = 0 ∨ 2147483647 < n.toNat) ∧ error = .maxCount n := by
  have hn : (n = 0 ∨ maxCountLimit < n) ↔ n.toNat = 0 ∨ 2147483647 < n.toNat := by
    rw [UInt32.lt_iff_toNat_lt, ← UInt32.toNat_inj]
    rfl
  unfold Query.withMaxCount
  split
  · next h =>
    have hm := hn.mp h
    simp only [hm, true_and, Except.error.injEq]
    exact eq_comm
  · next h => simp only [mt hn.mpr h, false_and, reduceCtorEq]

theorem step_eq_error_iff {error : ConfigError} : q.step s = .error error ↔ s.Refused error := by
  apply Iff.intro
  · intro h
    cases s with
    | ofService name =>
      obtain ⟨rfl, rfl⟩ := ofService_eq_error_iff.mp h
      exact .ofService
    | scope scope => cases h
    | maxCount n =>
      obtain ⟨hn, rfl⟩ := withMaxCount_eq_error_iff.mp h
      exact .maxCount hn
  · intro h
    cases h with
    | ofService => rfl
    | maxCount hn => exact withMaxCount_eq_error_iff.mpr ⟨hn, rfl⟩

theorem step_of_named {name : String} (h : s.serviceName? = some name) :
    q.step s = .ok ⟨name, "", 1⟩ := by
  cases s with
  | ofService t =>
    simp only [Step.serviceName?] at h
    split at h
    · cases h
    · next ht =>
      cases h
      exact ofService_eq_ok_iff.mpr ⟨ht, rfl⟩
  | scope t => cases h
  | maxCount n => cases h

def next (q : Query) (s : Step) : Query :=
  (q.step s).toOption.getD q

theorem next_of_named {name : String} (h : s.serviceName? = some name) :
    q.next s = ⟨name, "", 1⟩ := by
  rw [next, step_of_named h]
  rfl

theorem next_of_error {error : ConfigError} (h : q.step s = .error error) : q.next s = q := by
  rw [next, h]
  rfl

theorem next_of_unnamed (h : s.serviceName? = none) : q.next s = q.settle [s] := by
  cases s with
  | ofService t =>
    simp only [Step.serviceName?] at h
    split at h
    · next ht =>
      rw [ht]
      rfl
    · cases h
  | scope t => rfl
  | maxCount n =>
    by_cases hn : 0 < n.toNat ∧ n.toNat ≤ 2147483647
    · have hs : q.step (.maxCount n) = .ok { q with maxCount := n } :=
        withMaxCount_eq_ok_iff.mpr ⟨hn, rfl⟩
      rw [next, hs]
      simp [settle, Step.scope?, Step.maxCount?, hn, Except.toOption]
    · have hs : q.step (.maxCount n) = .error (.maxCount n) :=
        withMaxCount_eq_error_iff.mpr ⟨by omega, rfl⟩
      rw [next_of_error hs]
      simp [settle, Step.scope?, Step.maxCount?, hn]

theorem run_cons : q.run (s :: steps) = (q.next s).run steps := rfl

theorem settle_cons : q.settle (s :: steps) = (q.settle [s]).settle steps := by
  simp only [settle, List.filterMap_cons, List.filterMap_nil]
  cases s.scope? <;> cases s.maxCount? <;> simp only [List.getLastD_cons, List.getLastD_nil]

theorem run_of_unnamed (h : ∀ s ∈ steps, s.serviceName? = none) : q.run steps = q.settle steps := by
  induction steps generalizing q with
  | nil => rfl
  | cons s steps ih =>
    obtain ⟨hs, hr⟩ := List.forall_mem_cons.mp h
    rw [run_cons, ih hr, next_of_unnamed hs, ← settle_cons]

theorem run_of_named {before after : List Step} {name : String} (hs : s.serviceName? = some name)
    (h : ∀ t ∈ after, t.serviceName? = none) :
    q.run (before ++ s :: after) = settle ⟨name, "", 1⟩ after := by
  have hb : q.run (before ++ s :: after) = ((q.run before).next s).run after := List.foldl_append
  rw [hb, next_of_named hs, run_of_unnamed h]

theorem exists_leadsTo (q : Query) (steps : List Step) : ∃ q', LeadsTo q steps q' := by
  induction steps generalizing q with
  | nil => exact ⟨_, .settled nofun⟩
  | cons s steps ih =>
    obtain ⟨q', h⟩ := ih q
    cases h with
    | @named before after t name ht h => exact ⟨_, @LeadsTo.named q (s :: before) after t name ht h⟩
    | settled h =>
      cases hs : s.serviceName? with
      | none => exact ⟨_, .settled (List.forall_mem_cons.mpr ⟨hs, h⟩)⟩
      | some name => exact ⟨_, @LeadsTo.named q [] steps s name hs h⟩

theorem LeadsTo.run_eq (h : LeadsTo q steps q') : q.run steps = q' := by
  cases h with
  | settled h => exact run_of_unnamed h
  | named hs h => exact run_of_named hs h

theorem run_eq_iff : q.run steps = q' ↔ LeadsTo q steps q' := by
  apply Iff.intro
  · intro h
    obtain ⟨q'', hl⟩ := exists_leadsTo q steps
    rw [← h, hl.run_eq]
    exact hl
  · exact LeadsTo.run_eq

theorem Valid.step (hq : q.Valid) (h : q.step s = .ok q') : q'.Valid := by
  cases s with
  | ofService name => exact valid_of_ofService h
  | scope scope =>
    cases h
    exact ⟨hq.serviceName_ne, hq.maxCount_pos, hq.maxCount_le⟩
  | maxCount n => exact hq.withMaxCount h

theorem Valid.next (hq : q.Valid) (s : Step) : (q.next s).Valid := by
  cases h : q.step s with
  | ok q' =>
    rw [Query.next, h]
    exact hq.step h
  | error error =>
    rw [next_of_error h]
    exact hq

theorem Valid.run (hq : q.Valid) (steps : List Step) : (q.run steps).Valid := by
  induction steps generalizing q with
  | nil => exact hq
  | cons s steps ih => exact ih (hq.next s)

/-- A query at the end of a run that begins with a service. -/
def Reachable (q : Query) : Prop :=
  ∃ name q₀ steps, Query.ofService name = .ok q₀ ∧ q₀.run steps = q

theorem Reachable.valid (h : q.Reachable) : q.Valid := by
  obtain ⟨name, q₀, steps, hs, rfl⟩ := h
  exact (valid_of_ofService hs).run steps

theorem Valid.reachable (h : q.Valid) : q.Reachable := by
  have hs : ∀ s ∈ [Step.scope q.scope, .maxCount q.maxCount], s.serviceName? = none := by
    simp [Step.serviceName?]
  have hn : 0 < q.maxCount.toNat ∧ q.maxCount.toNat ≤ 2147483647 := ⟨h.maxCount_pos, h.maxCount_le⟩
  refine ⟨q.serviceName, _, [.scope q.scope, .maxCount q.maxCount],
    ofService_eq_ok_iff.mpr ⟨h.serviceName_ne, rfl⟩, ?_⟩
  rw [run_of_unnamed hs, settle_cons]
  simp [settle, Step.scope?, Step.maxCount?, hn]

/-- A query whose texts have lengths of 64 bits. -/
structure Sendable (q : Query) : Prop where
  serviceName_lt : q.serviceName.utf8ByteSize < Varint.bound
  scope_lt : q.scope.utf8ByteSize < Varint.bound

theorem Sendable.fields_encode (h : q.Sendable) :
    Request.grammar.Fields recursionBudget (encode q.request) q.request.fields := by
  apply Grammar.Fields.flatMap
  intro x hx
  obtain rfl | rfl | rfl := Request.eq_of_mem_fields hx
  · exact field_encodeText (by decide) (by decide) rfl h.serviceName_lt
  · exact field_encodeText (by decide) (by decide) rfl h.scope_lt
  · exact field_encodeInt32 _ (by decide) (by decide) rfl

theorem Sendable.decode_encode (h : q.Sendable) : decode (encode q.request) = .ok q.request :=
  decode_of_contents h.fields_encode

theorem request_injective (h : q.request = q'.request) : q = q' := by
  obtain ⟨serviceName, scope, maxCount⟩ := q
  obtain ⟨serviceName', scope', maxCount'⟩ := q'
  obtain ⟨rfl, rfl, hm⟩ := Request.mk.inj h
  obtain rfl : maxCount = maxCount' := congrArg Int32.toUInt32 hm
  rfl

theorem encode_request_eq_iff (h : q.Sendable) (h' : q'.Sendable) :
    encode q.request = encode q'.request ↔ q = q' := by
  apply Iff.intro
  · intro he
    have hd : (.ok q.request : Except ReadError Request) = .ok q'.request := by
      rw [← h.decode_encode, he, h'.decode_encode]
    exact request_injective (Except.ok.inj hd)
  · intro he
    rw [he]

/-- A run of steps leads to what they set last since they last named a service. -/
theorem query_of_steps :
    (∀ (q : Query) (s : Step) (error : ConfigError), q.step s = .error error ↔ s.Refused error) ∧
      (∀ (q q' : Query) (steps : List Step), q.run steps = q' ↔ LeadsTo q steps q') ∧
      (∀ q : Query, q.Reachable ↔ q.Valid) ∧
      (∀ q : Query, q.Reachable → q.Carries q.request) ∧
      ∀ q q' : Query, q.Sendable → q'.Sendable →
        (encode q.request = encode q'.request ↔ q = q') :=
  ⟨fun _ _ _ => step_eq_error_iff, fun _ _ _ => run_eq_iff,
    fun _ => ⟨Reachable.valid, Valid.reachable⟩, fun _ h => h.valid.carries_request,
    fun _ _ => encode_request_eq_iff⟩

/-- Refused steps change nothing, and nothing is left of what was set before `b` was named. -/
theorem query_of_refused_steps :
    LeadsTo ⟨"a", "", 1⟩
        [.scope "x", .maxCount 5, .ofService "b", .maxCount 0, .maxCount 3, .ofService "",
          .maxCount 2147483648] ⟨"b", "", 3⟩ ∧
      Carries ⟨"b", "", 3⟩ (request ⟨"b", "", 3⟩) ∧
      encode (request ⟨"b", "", 3⟩) ≠ encode (request ⟨"b", "", 4⟩) := by
  obtain ⟨-, hl, hr, hc, he⟩ := query_of_steps
  have hv : Valid ⟨"b", "", 3⟩ := ⟨by decide, by decide, by decide⟩
  have hd := he ⟨"b", "", 3⟩ ⟨"b", "", 4⟩ ⟨by decide, by decide⟩ ⟨by decide, by decide⟩
  exact ⟨(hl _ _ _).mp (by decide), hc _ ((hr _).mpr hv), mt hd.mp (by decide)⟩

end Query
end Locator
