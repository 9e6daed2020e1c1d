import Locator.Proofs.Message.Lawful
import Locator.Proofs.Wire.Stopping

namespace Locator

open Wire

namespace Request

def faults : FaultTable Field where
  message := "DiscoverServicesRequest"
  content?
    | 1 => some ("service_name", textFault .serviceName)
    | 2 => some ("scope", textFault .scope)
    | 3 => some ("max_count", int32Fault)
    | _ => none

theorem layout_fails : layout.Fails faults where
  message_eq := rfl
  fails tag :=
    match tag with
    | 0 => .inl ⟨rfl, rfl⟩
    | 1 => .inr ⟨_, _, _, rfl, rfl, textReader_fails _⟩
    | 2 => .inr ⟨_, _, _, rfl, rfl, textReader_fails _⟩
    | 3 => .inr ⟨_, _, _, rfl, rfl, int32Reader_fails _⟩
    | _ + 4 => .inl ⟨rfl, rfl⟩

end Request

namespace Entry

def faults : FaultTable Field where
  message := "ServiceLocationMsg"
  content?
    | 1 => some ("scope", textFault .scope)
    | 2 => some ("service_name", textFault .serviceName)
    | 3 => some ("host_name", textFault .hostName)
    | 4 => some ("port", int32Fault)
    | _ => none

theorem layout_fails : layout.Fails faults where
  message_eq := rfl
  fails tag :=
    match tag with
    | 0 => .inl ⟨rfl, rfl⟩
    | 1 => .inr ⟨_, _, _, rfl, rfl, textReader_fails _⟩
    | 2 => .inr ⟨_, _, _, rfl, rfl, textReader_fails _⟩
    | 3 => .inr ⟨_, _, _, rfl, rfl, textReader_fails _⟩
    | 4 => .inr ⟨_, _, _, rfl, rfl, int32Reader_fails _⟩
    | _ + 5 => .inl ⟨rfl, rfl⟩

end Entry

namespace Response

def faults : FaultTable Entry where
  message := "DiscoverServicesResponse"
  content?
    | 1 => some ("service_locations", nestedFault Entry.grammar Entry.faults)
    | _ => none

theorem layout_fails : layout.Fails faults where
  message_eq := rfl
  fails tag :=
    match tag with
    | 0 => .inl ⟨rfl, rfl⟩
    | 1 => .inr ⟨_, _, _, rfl, rfl, messageReader_fails Entry.layout_reads Entry.layout_fails _⟩
    | _ + 2 => .inl ⟨rfl, rfl⟩

end Response

/-- What is left of a merge is what the fields in front leave, and what the failing field leaves. -/
structure FailsBy (α : Type) [Message α] (g : Grammar (Message.Content α))
    (t : FaultTable (Message.Content α)) : Prop where
  merge_eq_iff : ∀ (m m' : α) (bytes : Bytes) (error : ReadError),
    merge m bytes = ⟨m', some error⟩ ↔
      ∃ front left, t.Breaks g recursionBudget bytes front left error ∧
        m' = Message.replay (merge m front).message left.toList
  message_eq_iff : ∀ (m : α) (bytes : Bytes) (text : String),
    (merge m bytes).failure.map ReadError.message = some text ↔
      ∃ front left error rest, t.Breaks g recursionBudget bytes front left error ∧
        PathText error.fault error.path rest ∧
          text = "failed to decode Protobuf message: " ++ rest
  front_unique : ∀ {bytes front front' : Bytes} {left left' : Option (Message.Content α)}
    {error error' : ReadError}, t.Breaks g recursionBudget bytes front left error →
      t.Breaks g recursionBudget bytes front' left' error' →
      front = front' ∧ left = left' ∧ error = error'
  front_merged : ∀ {bytes front : Bytes} {left : Option (Message.Content α)} {error : ReadError}
    (m : α), t.Breaks g recursionBudget bytes front left error → (merge m front).failure = none

section

variable {α : Type} [Message α] [LawfulMessage α] {t : FaultTable (Message.Content α)}
  {m m' : α} {bytes : Bytes} {error : ReadError}

theorem merge_eq_failed_iff (ht : (Message.layout (α := α)).Fails t) :
    merge m bytes = ⟨m', some error⟩ ↔
      ∃ front left, t.Breaks LawfulMessage.grammar recursionBudget bytes front left error ∧
        m' = Message.replay (merge m front).message left.toList := by
  apply Iff.intro
  · intro h
    cases hs : (Message.layout (α := α)).scan (.ofBytes bytes) with
    | mk ys outcome =>
      rw [merge, hs] at h
      cases outcome with
      | ok last => cases h
      | error inner =>
        cases h
        obtain ⟨front, rest, xs, left, he, hne, hf, hx, rfl⟩ :=
          (LawfulMessage.reads.scan_eq_error_iff ht).mp hs
        refine ⟨front, left, ⟨rest, xs, he, hne, hf, hx⟩, ?_⟩
        rw [merge_of_fields hf]
        exact LawfulMessage.replay_append m xs left.toList
  · rintro ⟨front, left, ⟨rest, xs, he, hne, hf, hx⟩, rfl⟩
    have hs : Message.layout.scan (.ofBytes bytes) = ⟨xs ++ left.toList, .error error⟩ :=
      (LawfulMessage.reads.scan_eq_error_iff ht).mpr
        ⟨front, rest, xs, left, he, hne, hf, hx, rfl⟩
    rw [merge, hs, merge_of_fields hf, ← LawfulMessage.replay_append]
    rfl

theorem failure_eq_some_iff (ht : (Message.layout (α := α)).Fails t) :
    (merge m bytes).failure = some error ↔
      ∃ front left, t.Breaks LawfulMessage.grammar recursionBudget bytes front left error := by
  apply Iff.intro
  · intro h
    have hm : merge m bytes = ⟨(merge m bytes).message, some error⟩ := by
      rw [← h]
    obtain ⟨front, left, hb, -⟩ := (merge_eq_failed_iff ht).mp hm
    exact ⟨front, left, hb⟩
  · intro h
    obtain ⟨front, left, hb⟩ := h
    rw [(merge_eq_failed_iff ht).mpr ⟨front, left, hb, rfl⟩]

theorem failsBy_faults (ht : (Message.layout (α := α)).Fails t) :
    FailsBy α LawfulMessage.grammar t where
  merge_eq_iff _ _ _ _ := merge_eq_failed_iff ht
  message_eq_iff m bytes text := by
    rw [Option.map_eq_some_iff]
    apply Iff.intro
    · intro h
      obtain ⟨error, he, hm⟩ := h
      obtain ⟨front, left, hb⟩ := (failure_eq_some_iff ht).mp he
      obtain ⟨rest, hp, hr⟩ := message_eq_iff.mp hm
      exact ⟨front, left, error, rest, hb, hp, hr⟩
    · intro h
      obtain ⟨front, left, error, rest, hb, hp, hr⟩ := h
      exact ⟨error, (failure_eq_some_iff ht).mpr ⟨front, left, hb⟩,
        message_eq_iff.mpr ⟨rest, hp, hr⟩⟩
  front_unique := LawfulMessage.reads.breaks_unique ht
  front_merged m h := by
    obtain ⟨_, xs, -, -, hf, -⟩ := h
    rw [merge_of_fields hf]

end

/-- A text that fails is left empty, and a number or an entry that fails leaves nothing. -/
theorem merge_failure :
    FailsBy Request Request.grammar Request.faults ∧ FailsBy Entry Entry.grammar Entry.faults ∧
      FailsBy Response Response.grammar Response.faults :=
  ⟨failsBy_faults Request.layout_fails, failsBy_faults Entry.layout_fails,
    failsBy_faults Response.layout_fails⟩

example :
    let merged := merge (default : Response) [0x0A, 2, 0x20, 80, 0x0A, 3, 0x1A, 9, 0x61]
    merged.message = ⟨[{ port := 80 }]⟩ ∧
      merged.failure.map ReadError.message =
        some ("failed to decode Protobuf message: ServiceLocationMsg.host_name: " ++
          "DiscoverServicesResponse.service_locations: buffer underflow") :=
  ⟨rfl, rfl⟩

end Locator
