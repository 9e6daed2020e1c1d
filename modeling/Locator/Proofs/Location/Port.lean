import Locator.Proofs.Location
import Locator.Proofs.Message.Lawful

namespace Locator

open Wire

namespace Entry

variable {n m : Nat} {bytes before field after : Bytes} {xs ys : List Field} {e : Entry}

def PortField (bytes : Bytes) (n : Nat) : Prop :=
  ∃ key number, Key.Form key ⟨4, .varint⟩ ∧ Varint.Form number n ∧ bytes = key ++ number

/-- The last port with all its 64 bits, or zero if there is none. -/
inductive LastPort : Bytes → Nat → Prop
  | absent {bytes : Bytes} {xs : List Field} (h : grammar.Fields recursionBudget bytes xs)
      (hn : ∀ x ∈ xs, x.port? = none) : LastPort bytes 0
  | last {before field after : Bytes} {xs ys : List Field} {n : Nat}
      (hb : grammar.Fields recursionBudget before xs) (hp : PortField field n)
      (ha : grammar.Fields recursionBudget after ys) (hn : ∀ y ∈ ys, y.port? = none) :
      LastPort (before ++ (field ++ after)) n

theorem PortField.unique (h : PortField bytes n) (h' : PortField bytes m) : n = m := by
  obtain ⟨key, number, hk, hv, rfl⟩ := h
  obtain ⟨key', number', hk', hv', he⟩ := h'
  obtain ⟨-, rfl⟩ := hk.number.terminated.append_inj hk'.number.terminated he
  exact hv.value_eq.symm.trans hv'.value_eq

theorem PortField.lt_bound (h : PortField bytes n) : n < Varint.bound := by
  obtain ⟨key, number, -, hv, -⟩ := h
  rw [← hv.value_eq]
  exact (Varint.value_lt_bound_iff hv.terminated hv.length_le).mpr hv.tenth_le

theorem PortField.isField (h : PortField bytes n) :
    grammar.Field recursionBudget bytes (some (.port (Int32.ofNat n))) := by
  obtain ⟨key, number, hk, hv, rfl⟩ := h
  exact .known hk rfl ⟨rfl, n, _, hv, toInt_ofNat n, rfl⟩

theorem portField_of_port {v : Int32}
    (h : grammar.Field recursionBudget bytes (some (.port v))) :
    ∃ n, PortField bytes n := by
  cases h with
  | @known key form keyBytes bytes x hk hf hx =>
    obtain ⟨tag, w⟩ := key
    simp only [grammar] at hf
    split at hf <;> cases hf
    case h_4 =>
      obtain ⟨rfl, n, _, hv, -, -⟩ := hx
      exact ⟨n, _, _, hk, hv, rfl⟩
    all_goals
      obtain ⟨-, s, -, hx⟩ := hx
      cases hx

theorem eq_port_of_port {x : Field} {v : Int32} (h : x.port? = some v) : x = .port v := by
  cases x <;> cases h
  rfl

theorem exists_lastPort (h : grammar.Fields recursionBudget bytes xs) : ∃ n, LastPort bytes n := by
  induction h with
  | nil => exact ⟨0, .absent .nil nofun⟩
  | @cons field rest x xs hf _ ih =>
    obtain ⟨n, hn⟩ := ih
    cases hn with
    | last hb hp ha hn =>
      rw [← List.append_assoc]
      exact ⟨n, .last (.cons hf hb) hp ha hn⟩
    | absent h hn =>
      -- a port in front of fields among which there is none is the last one
      cases x with
      | none => exact ⟨0, .absent (.cons hf h) hn⟩
      | some x =>
        cases hx : x.port? with
        | none => exact ⟨0, .absent (.cons hf h) (List.forall_mem_cons.mpr ⟨hx, hn⟩)⟩
        | some v =>
          obtain ⟨n, hp⟩ := portField_of_port (eq_port_of_port hx ▸ hf)
          exact ⟨n, .last .nil hp h hn⟩

theorem fields_port (hb : grammar.Fields recursionBudget before xs) (hp : PortField field n)
    (ha : grammar.Fields recursionBudget after ys) :
    grammar.Fields recursionBudget (before ++ (field ++ after))
      (xs ++ .port (Int32.ofNat n) :: ys) :=
  hb.append (hp.isField.fields.append ha)

theorem exists_port (hb : grammar.Fields recursionBudget before xs) (hp : PortField field n)
    (ha : grammar.Fields recursionBudget after ys) {zs : List Field}
    (h : grammar.Fields recursionBudget (before ++ (field ++ after)) zs) :
    ¬∀ z ∈ zs, z.port? = none := by
  intro hn
  rw [layout_reads.fields_unique h (fields_port hb hp ha)] at hn
  cases hn (.port (Int32.ofNat n)) (by simp)

theorem last_unique {before' field' after' : Bytes} {xs' ys' : List Field}
    (hb : grammar.Fields recursionBudget before xs) (hp : PortField field n)
    (ha : grammar.Fields recursionBudget after ys) (hn : ∀ y ∈ ys, y.port? = none)
    (hb' : grammar.Fields recursionBudget before' xs') (hp' : PortField field' m)
    (ha' : grammar.Fields recursionBudget after' ys') (hn' : ∀ y ∈ ys', y.port? = none)
    (he : before ++ (field ++ after) = before' ++ (field' ++ after')) : n = m := by
  induction hb generalizing before' xs' with
  | nil =>
    cases hb' with
    | nil =>
      obtain ⟨rfl, -, -⟩ := layout_reads.field_unique hp.isField hp'.isField he
      exact hp.unique hp'
    | cons hf' hr' =>
      rw [List.append_assoc] at he
      obtain ⟨-, -, rfl⟩ := layout_reads.field_unique hp.isField hf' he
      exact absurd hn (exists_port hr' hp' ha' ha)
  | cons hf hr ih =>
    rw [List.append_assoc] at he
    cases hb' with
    | nil =>
      obtain ⟨-, -, rfl⟩ := layout_reads.field_unique hf hp'.isField he
      exact absurd hn' (exists_port hr hp ha ha')
    | cons hf' hr' =>
      rw [List.append_assoc] at he
      obtain ⟨-, -, he⟩ := layout_reads.field_unique hf hf' he
      exact ih hr' he

/-- Bytes are cut into fields in one way only, so they have one last port. -/
theorem LastPort.unique (h : LastPort bytes n) (h' : LastPort bytes m) : n = m := by
  generalize hs : bytes = bytes' at h'
  cases h with
  | absent h hn =>
    cases h' with
    | absent => rfl
    | last hb' hp' ha' _ => exact absurd hn (exists_port hb' hp' ha' (hs ▸ h))
  | last hb hp ha hn =>
    cases h' with
    | absent h' hn' => exact absurd hn' (exists_port hb hp ha (hs ▸ h'))
    | last hb' hp' ha' hn' => exact last_unique hb hp ha hn hb' hp' ha' hn' hs

theorem LastPort.lt_bound (h : LastPort bytes n) : n < Varint.bound := by
  cases h with
  | absent _ _ => decide
  | last _ hp _ _ => exact hp.lt_bound

theorem port_eq_of_decode (h : decode bytes = .ok e)
    (hx : grammar.Fields recursionBudget bytes xs) :
    e.port = (xs.filterMap Field.port?).getLastD 0 := by
  obtain ⟨xs', hx', rfl⟩ := decode_eq_ok_iff.mp h
  obtain rfl := layout_reads.fields_unique hx hx'
  exact congrArg Entry.port (foldl_put default xs)

theorem LastPort.port_eq (h : LastPort bytes n) (hd : decode bytes = .ok e) :
    e.port = Int32.ofNat n := by
  cases h with
  | absent hx hn =>
    rw [port_eq_of_decode hd hx, List.filterMap_eq_nil_iff.mpr hn]
    rfl
  | last hb hp ha hn =>
    rw [port_eq_of_decode hd (fields_port hb hp ha), List.filterMap_append, List.filterMap_cons,
      List.filterMap_eq_nil_iff.mpr hn]
    simp [Field.port?]

theorem portField_encodeInt32 (v : Int32) : PortField (encodeInt32 4 v) (int32Varint v) :=
  ⟨_, _, Key.form_encode (by decide) (by decide), Varint.form_encode (int32Varint_lt v), rfl⟩

theorem port?_of_mem_fields (hp : e.port = 0) : ∀ x ∈ e.fields, x.port? = none := by
  intro x hx
  cases hv : x.port? with
  | none => rfl
  | some v =>
    rw [eq_port_of_port hv] at hx
    simp [fields, hp] at hx

theorem encode_eq_append (hp : e.port ≠ 0) :
    encode e = encode { e with port := 0 } ++ (encodeInt32 4 e.port ++ []) := by
  have hf : e.fields = ({ e with port := 0 } : Entry).fields ++ [.port e.port] := by
    simp [fields, hp]
  exact (congrArg (List.flatMap Field.encode) hf).trans List.flatMap_append

theorem lastPort_encode (h : (encode e).length < Varint.bound) :
    LastPort (encode e) (int32Varint e.port) := by
  by_cases hp : e.port = 0
  · rw [hp]
    exact .absent (fields_encode (by decide) h) (port?_of_mem_fields hp)
  · rw [encode_eq_append hp] at h ⊢
    have hb : (encode { e with port := 0 }).length < Varint.bound := by
      rw [List.length_append] at h
      omega
    exact .last (fields_encode (by decide) hb) (portField_encodeInt32 e.port) .nil nofun

end Entry

namespace Location

/-- A location if the low 32 bits of `n` are a port, and otherwise reported as a signed number. -/
structure Judged (e : Entry) (n : Nat) : Prop where
  exists_iff : (∃ l, ofEntry e = .ok l) ↔ 1 ≤ n % 4294967296 ∧ n % 4294967296 ≤ 65535
  port_eq : ∀ l, ofEntry e = .ok l → l.port.toNat = n % 4294967296
  rejected : ¬(1 ≤ n % 4294967296 ∧ n % 4294967296 ≤ 65535) →
    ∃ port, ofEntry e = .error (.portOutOfRange port) ∧ port.toInt = (BitVec.ofNat 32 n).toInt

section
variable {e : Entry} {n : Nat}

theorem toInt_ofNat_mem_iff :
    1 ≤ (Int32.ofNat n).toInt ∧ (Int32.ofNat n).toInt ≤ 65535 ↔
      1 ≤ n % 4294967296 ∧ n % 4294967296 ≤ 65535 := by
  rw [toInt_ofNat, Int.bmod_def]
  split <;> omega

theorem exists_ofEntry_iff_port (hs : e.serviceName ≠ "") (hh : e.hostName ≠ "") :
    (∃ l, ofEntry e = .ok l) ↔ 1 ≤ e.port.toInt ∧ e.port.toInt ≤ 65535 := by
  rw [exists_ofEntry_iff]
  apply Iff.intro
  · intro h
    by_contra hp
    exact h _ (.port hs hh (by omega))
  · intro h error hf
    cases hf with
    | serviceName hs' => exact hs hs'
    | hostName _ hh' => exact hh hh'
    | port _ _ hp => omega

theorem judged_of_port_eq (hs : e.serviceName ≠ "") (hh : e.hostName ≠ "")
    (hp : e.port = Int32.ofNat n) : Judged e n where
  exists_iff := by
    rw [exists_ofEntry_iff_port hs hh, hp]
    exact toInt_ofNat_mem_iff
  port_eq l h := by
    have hpos := (ofEntry_eq_ok_iff.mp h).1.port_pos
    have hc := (carries_of_ofEntry h).port_eq
    -- a port is positive, so it is not one of the numbers that 32 bits make negative
    rw [hp, toInt_ofNat, Int.bmod_def] at hc
    split at hc <;> omega
  rejected h := by
    rw [← toInt_ofNat_mem_iff, ← hp] at h
    have hf : Faulty e (.portOutOfRange e.port) := .port hs hh (by omega)
    exact ⟨e.port, ofEntry_eq_error_iff.mpr hf, congrArg Int32.toInt hp⟩

end

/-- The verdict on an entry is that on its last port, and is the same after the entry was sent. -/
theorem ofEntry_of_lastPort :
    (∀ (bytes : Bytes) (e : Entry), decode bytes = .ok e → e.serviceName ≠ "" → e.hostName ≠ "" →
      ∃ n, (∀ m, Entry.LastPort bytes m ↔ m = n) ∧ n < Varint.bound ∧ Judged e n) ∧
    ∀ e : Entry, (encode e).length < Varint.bound →
      Entry.LastPort (encode e) (int32Varint e.port) ∧
        (decode (encode e) : Except ReadError Entry).map ofEntry = .ok (ofEntry e) := by
  refine ⟨?_, ?_⟩
  · intro bytes e hd hs hh
    obtain ⟨xs, hx, -⟩ := decode_eq_ok_iff.mp hd
    obtain ⟨n, hn⟩ := Entry.exists_lastPort hx
    refine ⟨n, ?_, hn.lt_bound, judged_of_port_eq hs hh (hn.port_eq hd)⟩
    intro m
    exact ⟨fun hm => hm.unique hn, fun hm => hm ▸ hn⟩
  · intro e h
    rw [decode_encode h]
    exact ⟨Entry.lastPort_encode h, rfl⟩

/-- A port only in its low 32 bits, in a longer form than it needs, and a port below zero. -/
theorem ofEntry_of_wrapped_port :
    Entry.LastPort [0x20, 1, 0x12, 1, 0x71, 0x1A, 1, 0x68, 0x20, 0xD0, 0x80, 0x80, 0x80, 0x90, 0x00]
        4294967376 ∧
      Judged ⟨"", "q", "h", 80⟩ 4294967376 ∧
      Entry.LastPort (encode (⟨"", "q", "h", -1⟩ : Entry)) 18446744073709551615 := by
  have hd : decode [0x20, 1, 0x12, 1, 0x71, 0x1A, 1, 0x68, 0x20, 0xD0, 0x80, 0x80, 0x80, 0x90,
      0x00] = .ok (⟨"", "q", "h", 80⟩ : Entry) := by
    rfl
  have hb : decode [0x20, 1, 0x12, 1, 0x71, 0x1A, 1, 0x68] = .ok (⟨"", "q", "h", 1⟩ : Entry) := by
    rfl
  obtain ⟨xs, hx, -⟩ := decode_eq_ok_iff.mp hb
  have hk : Key.Form [0x20] ⟨4, .varint⟩ :=
    ⟨⟨.last (by decide), by decide, nofun, by decide⟩, by decide, by decide⟩
  have hv : Varint.Form [0xD0, 0x80, 0x80, 0x80, 0x90, 0x00] 4294967376 :=
    ⟨.more (by decide) <| .more (by decide) <| .more (by decide) <| .more (by decide) <|
      .more (by decide) <| .last (by decide), by decide, nofun, by decide⟩
  have hl := Entry.LastPort.last hx ⟨_, _, hk, hv, rfl⟩ .nil nofun
  obtain ⟨n, hn, -, hj⟩ := ofEntry_of_lastPort.1 _ _ hd (by decide) (by decide)
  obtain rfl := (hn _).mp hl
  exact ⟨hl, hj, (ofEntry_of_lastPort.2 _ (by decide +kernel)).1⟩

end Location
end Locator
