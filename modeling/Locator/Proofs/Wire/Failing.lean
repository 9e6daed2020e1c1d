import Locator.Proofs.Wire.Faults
import Locator.Proofs.Wire.Reading

namespace Locator.Wire

theorem Varint.read_eq_none_iff {input : Input} : read? input = none ↔ Absent input.bytes := by
  apply Iff.intro
  · intro h form rest n he hf
    have hr : read? input = some (n, .ofBytes rest) := read_eq_some_iff.mpr ⟨form, hf, he⟩
    rw [h] at hr
    cases hr
  · intro h
    cases hr : read? input with
    | none => rfl
    | some read =>
      obtain ⟨form, hf, he⟩ := read_eq_some_iff.mp hr
      exact absurd hf (h _ _ _ he)

theorem WireType.ofCode_eq_none_iff {c : Nat} : ofCode? c = none ↔ 6 ≤ c := by
  match c with
  | 0 | 1 | 2 | 3 | 4 | 5 => simp [ofCode?]
  | c + 6 => simp [ofCode?]

theorem Input.take_eq_none_iff {input : Input} {n : Nat} :
    input.take? n = none ↔ input.size < n := by
  rw [← Nat.not_le, take?, advance?]
  by_cases h : n ≤ input.size <;> simp [h]

namespace Key

theorem ofNat_eq_error_iff {n : Nat} {fault : Fault} :
    ofNat n = .error fault ↔ Refused n fault := by
  apply Iff.intro
  · intro h
    unfold ofNat at h
    split at h
    · next hl =>
      cases h
      exact .tooLarge hl
    · next hl =>
      rw [Nat.not_lt] at hl
      split at h
      · next hw =>
        cases h
        exact .wireType hl (WireType.ofCode_eq_none_iff.mp hw)
      · next w hw =>
        split at h
        · next ht =>
          cases h
          have hc : ¬6 ≤ n % 8 := fun hc => by
            rw [WireType.ofCode_eq_none_iff.mpr hc] at hw
            cases hw
          exact .tag hl (Nat.not_le.mp hc) ht
        · cases h
  · intro h
    cases h with
    | tooLarge hl => exact if_pos hl
    | wireType hl hc =>
      rw [ofNat, if_neg (Nat.not_lt.mpr hl), WireType.ofCode_eq_none_iff.mpr hc]
    | tag hl hc ht =>
      rw [ofNat, if_neg (Nat.not_lt.mpr hl)]
      cases hw : WireType.ofCode? (n % 8) with
      | none => exact absurd (WireType.ofCode_eq_none_iff.mp hw) (Nat.not_le.mpr hc)
      | some w => exact if_pos ht

theorem read_eq_error_iff {input : Input} {fault : Fault} :
    read input = .error fault ↔ Broken input.bytes fault := by
  apply Iff.intro
  · intro h
    unfold read at h
    split at h
    · next hr =>
      cases h
      exact .absent (Varint.read_eq_none_iff.mp hr)
    · next n rest hr =>
      obtain ⟨form, hf, he⟩ := Varint.read_eq_some_iff.mp hr
      split at h
      · cases h
      · next hk =>
        cases h
        exact .refused he hf (ofNat_eq_error_iff.mp hk)
  · intro h
    cases h with
    | absent h => rw [read, Varint.read_eq_none_iff.mpr h]
    | @refused form rest n _ he hn h =>
      have hr : Varint.read? input = some (n, .ofBytes rest) :=
        Varint.read_eq_some_iff.mpr ⟨form, hn, he⟩
      simp only [read, hr, ofNat_eq_error_iff.mpr h]

theorem read_of_empty {input : Input} (h : input.size ≤ 0) : read input = .error .varint := by
  apply read_eq_error_iff.mpr
  apply Broken.absent
  intro form rest n he hf
  have hn := hf.terminated.ne_nil
  have hz : input.bytes = [] := by
    rw [← List.length_eq_zero_iff, ← Input.size_eq]
    exact Nat.le_zero.mp h
  simp_all

end Key

theorem undelimited_iff {input : Input} {fault : Fault} :
    Undelimited input.bytes fault ↔
      (Varint.read? input = none ∧ fault = .varint) ∨
        ∃ n rest, Varint.read? input = some (n, rest) ∧ rest.size < n ∧ fault = .underflow := by
  apply Iff.intro
  · intro h
    cases h with
    | absent h => exact .inl ⟨Varint.read_eq_none_iff.mpr h, rfl⟩
    | @underflow form rest n he hn h =>
      exact .inr ⟨n, .ofBytes rest, Varint.read_eq_some_iff.mpr ⟨form, hn, he⟩, h, rfl⟩
  · rintro (⟨h, rfl⟩ | ⟨n, rest, hr, hlt, rfl⟩)
    · exact .absent (Varint.read_eq_none_iff.mp h)
    · obtain ⟨form, hn, he⟩ := Varint.read_eq_some_iff.mp hr
      rw [Input.size_eq] at hlt
      exact .underflow he hn hlt

theorem skipBytes_eq_error_iff {n : Nat} {input : Input} {fault : Fault} :
    skipBytes n input = .error fault ↔ input.bytes.length < n ∧ fault = .underflow := by
  rw [← Input.size_eq, ← Nat.not_le]
  by_cases h : n ≤ input.size <;> simp [skipBytes, Input.advance?, h, eq_comm]

section

variable {skipInner : Key → Input → Except Fault Input} {Inner : Key → Bytes → Prop}
  {InnerFault : Key → Bytes → Fault → Prop} {tag fuel : Nat} {input : Input} {fault : Fault}

/-- A key takes a byte or more, so the fuel still suffices behind it. -/
theorem skipGroup_of_key {key : Key} {keyBytes rest : Bytes} (hk : Key.Form keyBytes key)
    (hb : input.bytes = keyBytes ++ rest) (hf : input.size ≤ fuel) :
    ∃ fuel', rest.length ≤ fuel' ∧ skipGroup skipInner tag fuel input =
      if key.wireType = .endGroup then
        if key.tag = tag then .ok (.ofBytes rest) else .error .unexpectedEndGroup
      else (skipInner key (.ofBytes rest)).bind (skipGroup skipInner tag fuel') := by
  have hr : Key.read input = .ok (key, .ofBytes rest) := Key.read_eq_ok_iff.mpr ⟨keyBytes, hk, hb⟩
  have hs : rest.length < input.size := Key.size_read hr
  cases fuel with
  | zero => omega
  | succ fuel =>
    refine ⟨fuel, by omega, ?_⟩
    simp only [skipGroup, hr]
    cases skipInner key (.ofBytes rest) <;> rfl

theorem groupFault_of_skipGroup
    (hi : ∀ key input rest, skipInner key input = .ok rest ↔
      ∃ bytes, Inner key bytes ∧ input.bytes = bytes ++ rest.bytes)
    (hi' : ∀ key input fault, skipInner key input = .error fault ↔
      InnerFault key input.bytes fault)
    (hf : input.size ≤ fuel) (h : skipGroup skipInner tag fuel input = .error fault) :
    GroupFault Inner InnerFault tag input.bytes fault := by
  induction fuel generalizing input with
  | zero =>
    cases h
    exact .key (Key.read_eq_error_iff.mp (Key.read_of_empty hf))
  | succ fuel ih =>
    rw [skipGroup] at h
    split at h
    · next hr =>
      cases h
      exact .key (Key.read_eq_error_iff.mp hr)
    · next key after hr =>
      obtain ⟨keyBytes, hk, he⟩ := Key.read_eq_ok_iff.mp hr
      have hs := Key.size_read hr
      rw [he]
      split at h
      · next hw =>
        split at h
        · cases h
        · next ht =>
          cases h
          exact .stop (hw ▸ hk) ht
      · next hw =>
        split at h
        · next hs =>
          cases h
          exact .inner hk hw ((hi' ..).mp hs)
        · next last hl =>
          obtain ⟨bytes, hb, he'⟩ := (hi ..).mp hl
          have hs' := Input.size_of_append he'
          rw [he', ← List.append_assoc]
          exact .field hk hw hb (ih (by omega) h)

theorem GroupFault.skipGroup_eq
    (hi : ∀ key input rest, skipInner key input = .ok rest ↔
      ∃ bytes, Inner key bytes ∧ input.bytes = bytes ++ rest.bytes)
    (hi' : ∀ key input fault, skipInner key input = .error fault ↔
      InnerFault key input.bytes fault)
    (hf : input.size ≤ fuel) (h : GroupFault Inner InnerFault tag input.bytes fault) :
    skipGroup skipInner tag fuel input = .error fault := by
  generalize hb : input.bytes = bytes at h
  induction h generalizing fuel input with
  | key h =>
    have hr := Key.read_eq_error_iff.mpr (hb ▸ h)
    cases fuel with
    | zero =>
      cases hr.symm.trans (Key.read_of_empty hf)
      rfl
    | succ fuel => rw [skipGroup, hr]
  | stop hk ht =>
    obtain ⟨_, -, hs⟩ := skipGroup_of_key hk hb hf
    rw [hs, if_pos rfl, if_neg ht]
  | @inner key keyBytes rest fault hk hw h =>
    obtain ⟨_, -, hs⟩ := skipGroup_of_key hk hb hf
    have hskip : skipInner key (.ofBytes rest) = .error fault := (hi' ..).mpr h
    rw [hs, if_neg hw, hskip]
    rfl
  | @field key keyBytes bytes rest fault hk hw h _ ih =>
    rw [List.append_assoc] at hb
    obtain ⟨fuel', hle, hs⟩ := skipGroup_of_key hk hb hf
    have hskip : skipInner key (.ofBytes (bytes ++ rest)) = .ok (.ofBytes rest) :=
      (hi ..).mpr ⟨bytes, h, rfl⟩
    rw [List.length_append] at hle
    rw [hs, if_neg hw, hskip]
    exact ih (Nat.le_of_add_left_le hle) rfl

end

theorem skipField_eq_error_iff {budget : Nat} {key : Key} {input : Input} {fault : Fault} :
    skipField budget key input = .error fault ↔ SkipFault budget key input.bytes fault := by
  induction budget generalizing key input fault with
  | zero => simp [skipField, SkipFault, eq_comm]
  | succ budget ih =>
    obtain ⟨tag, w⟩ := key
    cases w with
    | varint =>
      simp only [skipField, SkipFault, ← Varint.read_eq_none_iff]
      cases Varint.read? input <;> simp [eq_comm]
    | fixed64 => exact skipBytes_eq_error_iff
    | lengthDelimited =>
      simp only [skipField, SkipFault, undelimited_iff]
      cases Varint.read? input with
      | none => simp [eq_comm]
      | some read =>
        obtain ⟨n, rest⟩ := read
        simp [skipBytes_eq_error_iff, Input.size_eq, and_assoc]
    | startGroup =>
      have hi : ∀ key input rest, skipField budget key input = .ok rest ↔
          ∃ bytes, Skippable budget key bytes ∧ input.bytes = bytes ++ rest.bytes :=
        fun _ _ _ => skipField_eq_ok_iff
      have hi' : ∀ key input fault, skipField budget key input = .error fault ↔
          SkipFault budget key input.bytes fault := fun _ _ _ => ih
      apply Iff.intro
      · exact groupFault_of_skipGroup hi hi' (Nat.le_refl _)
      · exact GroupFault.skipGroup_eq hi hi' (Nat.le_refl _)
    | endGroup => simp [skipField, SkipFault, eq_comm]
    | fixed32 => exact skipBytes_eq_error_iff

def Reader.Fails {φ : Type} (read : Reader φ) (fails : ContentFault φ) : Prop :=
  ∀ budget wireType input left error, read budget wireType input = .failed left error ↔
    fails budget wireType input.bytes left error

theorem readText_eq_error_iff {wireType : WireType} {input : Input} {fault : Fault} :
    readText wireType input = .error fault ↔ TextFault wireType input.bytes fault := by
  apply Iff.intro
  · intro h
    unfold readText at h
    split at h
    · next hw =>
      cases h
      exact .wireType hw
    · next hw =>
      have hw := Classical.not_not.mp hw
      split at h
      · next hr =>
        cases h
        exact .length hw (undelimited_iff.mpr (.inl ⟨hr, rfl⟩))
      · next n rest hr =>
        split at h
        · next ht =>
          cases h
          have hlt := Input.take_eq_none_iff.mp ht
          exact .length hw (undelimited_iff.mpr (.inr ⟨n, rest, hr, hlt, rfl⟩))
        · next payload last ht =>
          split at h
          · next hu =>
            cases h
            obtain ⟨front, hd, he⟩ := exists_take_iff.mp ⟨n, rest, hr, ht⟩
            refine .notUtf8 hw he hd ?_
            intro s hs
            rw [Text.ofUtf8_eq_some_iff.mpr hs] at hu
            cases hu
          · cases h
  · intro h
    cases h with
    | wireType hw => exact if_pos hw
    | length hw h =>
      simp only [readText, hw, ne_eq, not_true_eq_false, if_false]
      obtain ⟨hr, rfl⟩ | ⟨n, rest, hr, hlt, rfl⟩ := undelimited_iff.mp h
      · simp only [hr]
      · simp only [hr, Input.take_eq_none_iff.mpr hlt]
    | @notUtf8 front rest payload hw he hd hs =>
      obtain ⟨n, after, hr, ht⟩ : ∃ n after, Varint.read? input = some (n, after) ∧
          after.take? n = some (payload, .ofBytes rest) :=
        exists_take_iff.mpr ⟨front, hd, he⟩
      have hu : Text.ofUtf8? payload = none := by
        cases hu : Text.ofUtf8? payload with
        | none => rfl
        | some s => exact absurd (Text.ofUtf8_eq_some_iff.mp hu) (hs s)
      simp only [readText, hw, ne_eq, not_true_eq_false, if_false, hr, ht, hu]

theorem readInt32_eq_error_iff {wireType : WireType} {input : Input} {fault : Fault} :
    readInt32 wireType input = .error fault ↔ Int32Fault wireType input.bytes fault := by
  apply Iff.intro
  · intro h
    unfold readInt32 at h
    split at h
    · next hw =>
      cases h
      exact .wireType hw
    · next hw =>
      split at h
      · next hr =>
        cases h
        exact .absent (Classical.not_not.mp hw) (Varint.read_eq_none_iff.mp hr)
      · cases h
  · intro h
    cases h with
    | wireType hw => exact if_pos hw
    | absent hw h =>
      simp only [readInt32, hw, ne_eq, not_true_eq_false, if_false, Varint.read_eq_none_iff.mpr h]

theorem textReader_fails {φ : Type} (put : String → φ) :
    (textReader put).Fails (textFault put) := by
  intro budget wireType input left error
  simp only [textFault, ← readText_eq_error_iff, textReader]
  cases readText wireType input <;> simp [ReadError.ofFault, eq_comm]

theorem int32Reader_fails {φ : Type} (put : Int32 → φ) : (int32Reader put).Fails int32Fault := by
  intro budget wireType input left error
  simp only [int32Fault, ← readInt32_eq_error_iff, int32Reader]
  cases readInt32 wireType input <;> simp [ReadError.ofFault, eq_comm]

end Locator.Wire
