import Locator.Query

namespace Locator.Query

inductive Obtainable : Query → Prop
  | ofService {serviceName : String} {q : Query} (h : ofService serviceName = .ok q) :
      Obtainable q
  | withScope {q : Query} (hq : Obtainable q) (scope : String) : Obtainable (q.withScope scope)
  | withMaxCount {q q' : Query} {n : UInt32} (hq : Obtainable q)
      (h : q.withMaxCount n = .ok q') : Obtainable q'

/-- A query for a named service with a count that a request can carry. -/
structure Valid (q : Query) : Prop where
  serviceName_ne : q.serviceName ≠ ""
  maxCount_pos : 0 < q.maxCount.toNat
  maxCount_le : q.maxCount.toNat ≤ 2147483647

theorem ofService_eq_ok_iff {serviceName : String} {q : Query} :
    Query.ofService serviceName = .ok q ↔ serviceName ≠ "" ∧ q = ⟨serviceName, "", 1⟩ := by
  unfold Query.ofService
  split
  · next hs => simp [hs]
  · next hs => simp [hs, eq_comm]

theorem withMaxCount_eq_ok_iff {q q' : Query} {n : UInt32} :
    q.withMaxCount n = .ok q' ↔
      (0 < n.toNat ∧ n.toNat ≤ 2147483647) ∧ q' = { q with maxCount := n } := by
  have hn : (n = 0 ∨ maxCountLimit < n) ↔ ¬(0 < n.toNat ∧ n.toNat ≤ 2147483647) := by
    rw [UInt32.lt_iff_toNat_lt, ← UInt32.toNat_inj]
    change n.toNat = 0 ∨ 2147483647 < n.toNat ↔ _
    omega
  unfold Query.withMaxCount
  split
  · next h => simp [hn.mp h]
  · next h => simp [Decidable.not_not.mp (mt hn.mpr h), eq_comm]

theorem valid_of_ofService {serviceName : String} {q : Query}
    (h : Query.ofService serviceName = .ok q) : Valid q := by
  obtain ⟨hs, rfl⟩ := ofService_eq_ok_iff.mp h
  exact ⟨hs, Nat.one_pos, by simp⟩

theorem Valid.withMaxCount {q q' : Query} {n : UInt32} (hq : Valid q)
    (h : q.withMaxCount n = .ok q') : Valid q' := by
  obtain ⟨⟨hp, hl⟩, rfl⟩ := withMaxCount_eq_ok_iff.mp h
  exact ⟨hq.serviceName_ne, hp, hl⟩

theorem Obtainable.valid {q : Query} (h : Obtainable q) : Valid q := by
  induction h with
  | ofService h => exact valid_of_ofService h
  | withScope _ _ ih => exact ⟨ih.serviceName_ne, ih.maxCount_pos, ih.maxCount_le⟩
  | withMaxCount _ h ih => exact ih.withMaxCount h

theorem obtainable_of_check {draft : Draft} {q : Query} (h : draft.check = .ok q) :
    Obtainable q := by
  unfold Draft.check at h
  split at h
  · cases h
  · next hs => exact .withMaxCount (.withScope (.ofService hs) _) h

def draft (q : Query) : Draft :=
  ⟨q.serviceName, q.scope, q.maxCount⟩

theorem Draft.check_eq (draft : Draft) :
    draft.check =
      (do
        let q ← Query.ofService draft.serviceName
        (q.withScope draft.scope).withMaxCount draft.maxCount) := by
  rw [Draft.check]
  cases Query.ofService draft.serviceName <;> rfl

/-- Settings make a query exactly when they are those of a valid one, which is then made. -/
theorem check_eq_ok_iff {draft : Draft} {q : Query} :
    draft.check = .ok q ↔ q.Valid ∧ q.draft = draft := by
  apply Iff.intro
  · intro h
    refine ⟨(obtainable_of_check h).valid, ?_⟩
    unfold Draft.check at h
    split at h
    · cases h
    · next hs =>
      obtain ⟨-, rfl⟩ := ofService_eq_ok_iff.mp hs
      obtain ⟨-, rfl⟩ := withMaxCount_eq_ok_iff.mp h
      rfl
  · rintro ⟨h, rfl⟩
    have hs : ofService q.draft.serviceName = .ok ⟨q.serviceName, "", 1⟩ :=
      ofService_eq_ok_iff.mpr ⟨h.serviceName_ne, rfl⟩
    rw [Draft.check, hs]
    exact withMaxCount_eq_ok_iff.mpr ⟨⟨h.maxCount_pos, h.maxCount_le⟩, rfl⟩

theorem exists_check_eq_ok_iff {draft : Draft} :
    (∃ q, draft.check = .ok q) ↔
      draft.serviceName ≠ "" ∧ 1 ≤ draft.maxCount.toNat ∧ draft.maxCount.toNat ≤ 2147483647 := by
  apply Iff.intro
  · rintro ⟨q, h⟩
    obtain ⟨hq, rfl⟩ := check_eq_ok_iff.mp h
    exact ⟨hq.serviceName_ne, hq.maxCount_pos, hq.maxCount_le⟩
  · rintro ⟨hs, hp, hl⟩
    have hq : Valid ⟨draft.serviceName, draft.scope, draft.maxCount⟩ := ⟨hs, hp, hl⟩
    exact ⟨_, check_eq_ok_iff.mpr ⟨hq, rfl⟩⟩

theorem Valid.check_draft {q : Query} (h : Valid q) : q.draft.check = .ok q :=
  check_eq_ok_iff.mpr ⟨h, rfl⟩

theorem obtainable_iff_valid {q : Query} : Obtainable q ↔ Valid q := by
  apply Iff.intro
  · exact Obtainable.valid
  · intro h
    exact obtainable_of_check h.check_draft

structure Carries (q : Query) (r : Request) : Prop where
  serviceName_eq : r.serviceName = q.serviceName
  scope_eq : r.scope = q.scope
  maxCount_eq : r.maxCount.toInt = q.maxCount.toNat

/-- The count of a valid query is the same signed number in its request. -/
theorem Valid.toInt_maxCount {q : Query} (h : Valid q) :
    q.request.maxCount.toInt = q.maxCount.toNat := by
  have hl := h.maxCount_le
  change q.maxCount.toBitVec.toInt = q.maxCount.toBitVec.toNat
  rw [BitVec.toInt_eq_toNat_bmod, Int.bmod_def]
  change q.maxCount.toBitVec.toNat ≤ 2147483647 at hl
  split <;> omega

theorem Valid.carries_request {q : Query} (h : Valid q) : q.Carries q.request :=
  ⟨rfl, rfl, h.toInt_maxCount⟩

end Locator.Query
