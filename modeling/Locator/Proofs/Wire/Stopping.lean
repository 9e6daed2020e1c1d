import Locator.Proofs.Wire.Failing
import Locator.Proofs.Wire.Scanning

namespace Locator.Wire

theorem FieldRead.within_eq_failed_iff {φ : Type} {field : FieldName} {read : FieldRead φ}
    {left : Option φ} {error : ReadError} :
    read.within field = .failed left error ↔
      ∃ inner, read = .failed left inner ∧
        error = ⟨inner.path ++ [field], inner.fault⟩ := by
  cases read <;> simp [within, ReadError.within, eq_comm, and_assoc]

namespace Layout

variable {φ : Type} {layout : Layout φ} {g : Grammar φ} {t : FaultTable φ} {budget stop : Nat}

structure Fails (layout : Layout φ) (t : FaultTable φ) : Prop where
  message_eq : layout.message = t.message
  fails : ∀ tag, (layout.field? tag = none ∧ t.content? tag = none) ∨
    ∃ name read fails, layout.field? tag = some (name, read) ∧
      t.content? tag = some (name, fails) ∧ read.Fails fails

theorem Fails.readField_eq_failed_iff (ht : layout.Fails t) {input : Input} {left : Option φ}
    {error : ReadError} :
    layout.readField budget input = .failed left error ↔
      t.FieldFault budget input.bytes left error := by
  apply Iff.intro
  · intro h
    unfold readField at h
    split at h
    · next hk =>
      cases h
      exact .key (Key.read_eq_error_iff.mp hk)
    · next key rest hk =>
      obtain ⟨keyBytes, hk, he⟩ := Key.read_eq_ok_iff.mp hk
      obtain ⟨hn, hc⟩ | ⟨name, read, fails, hn, hc, hr⟩ := ht.fails key.tag
      · simp only [hn] at h
        split at h
        · cases h
        · next hs =>
          cases h
          exact .unknown he hk hc (skipField_eq_error_iff.mp hs)
      · simp only [hn] at h
        obtain ⟨inner, hi, rfl⟩ := FieldRead.within_eq_failed_iff.mp h
        rw [ht.message_eq]
        exact .known he hk hc ((hr ..).mp hi)
  · intro h
    cases h with
    | key h =>
      rw [readField, Key.read_eq_error_iff.mpr h]
      rfl
    | @unknown key keyBytes rest fault he hk hc hs =>
      have hr : Key.read input = .ok (key, .ofBytes rest) :=
        Key.read_eq_ok_iff.mpr ⟨keyBytes, hk, he⟩
      have hf : skipField budget key (.ofBytes rest) = .error fault :=
        skipField_eq_error_iff.mpr hs
      obtain ⟨hn, -⟩ | ⟨_, _, _, _, hc', _⟩ := ht.fails key.tag
      · simp only [readField, hr, hn, hf]
        rfl
      · cases hc.symm.trans hc'
    | @known key name fails keyBytes rest left inner he hk hc hx =>
      have hr : Key.read input = .ok (key, .ofBytes rest) :=
        Key.read_eq_ok_iff.mpr ⟨keyBytes, hk, he⟩
      obtain ⟨-, hc'⟩ | ⟨_, read, _, hn, hc', hread⟩ := ht.fails key.tag
      · cases hc.symm.trans hc'
      · cases hc.symm.trans hc'
        have hf : read budget key.wireType (.ofBytes rest) = .failed left inner := (hread ..).mpr hx
        simp only [readField, hr, hn, hf, ht.message_eq]
        rfl

theorem Reads.fault_of_scanned (hl : layout.Reads g) (ht : layout.Fails t) {input : Input}
    {ys : List φ} {error : ReadError} (h : Scanned layout budget stop input ys (.error error)) :
    ∃ front rest xs left, input.bytes = front ++ rest ∧ stop < rest.length ∧
      g.Fields budget front xs ∧ t.FieldFault budget rest left error ∧
      ys = xs ++ left.toList := by
  generalize ho : Except.error error = outcome at h
  induction h with
  | done => cases ho
  | @failed input left error hs hr =>
    cases ho
    have hx := ht.readField_eq_failed_iff.mp hr
    exact ⟨[], input.bytes, [], left, rfl, input.size_eq ▸ hs, .nil, hx, rfl⟩
  | @field input last content ys outcome _ hr _ ih =>
    obtain ⟨front, rest, xs, left, he, hlt, hf, hx, rfl⟩ := ih ho
    obtain ⟨field, hfield, he'⟩ := hl.readField_eq_ok_iff.mp hr
    refine ⟨field ++ front, rest, content.toList ++ xs, left, ?_, hlt, .cons hfield hf, hx, ?_⟩
    · rw [he', he, List.append_assoc]
    · exact (List.append_assoc ..).symm

theorem Reads.scanUntil_eq_error_iff (hl : layout.Reads g) (ht : layout.Fails t) {input : Input}
    {ys : List φ} {error : ReadError} :
    layout.scanUntil budget stop input = ⟨ys, .error error⟩ ↔
      ∃ front rest xs left, input.bytes = front ++ rest ∧ stop < rest.length ∧
        g.Fields budget front xs ∧ t.FieldFault budget rest left error ∧
        ys = xs ++ left.toList := by
  apply Iff.intro
  · intro h
    exact hl.fault_of_scanned ht (hl.scanned h)
  · rintro ⟨front, rest, xs, left, he, hlt, hf, hx, rfl⟩
    have hr : layout.readField budget (.ofBytes rest) = .failed left error :=
      ht.readField_eq_failed_iff.mpr hx
    have he : input.bytes = front ++ (Input.ofBytes rest).bytes := he
    rw [hl.scanUntil_append hf he (Nat.le_of_lt hlt), scanUntil_of_failed hlt hr]
    rfl

theorem Reads.scan_eq_error_iff (hl : layout.Reads g) (ht : layout.Fails t) {bytes : Bytes}
    {ys : List φ} {error : ReadError} :
    layout.scan (.ofBytes bytes) = ⟨ys, .error error⟩ ↔
      ∃ front rest xs left, bytes = front ++ rest ∧ rest ≠ [] ∧
        g.Fields recursionBudget front xs ∧ t.FieldFault recursionBudget rest left error ∧
        ys = xs ++ left.toList := by
  simp only [← List.length_pos_iff]
  exact hl.scanUntil_eq_error_iff ht

/-- Bytes break off being fields at one place only, and with one error. -/
theorem Reads.breaks_unique (hl : layout.Reads g) (ht : layout.Fails t)
    {bytes front front' : Bytes} {left left' : Option φ} {error error' : ReadError}
    (h : t.Breaks g budget bytes front left error)
    (h' : t.Breaks g budget bytes front' left' error') :
    front = front' ∧ left = left' ∧ error = error' := by
  obtain ⟨rest, xs, rfl, -, hf, hx⟩ := h
  obtain ⟨rest', xs', he, -, hf', hx'⟩ := h'
  have hfail : layout.readField budget (.ofBytes rest) = .failed left error :=
    ht.readField_eq_failed_iff.mpr hx
  have hfail' : layout.readField budget (.ofBytes rest') = .failed left' error' :=
    ht.readField_eq_failed_iff.mpr hx'
  -- at each place the same bytes follow, so what is read there is the same
  induction hf generalizing front' xs' with
  | nil =>
    cases hf' with
    | nil =>
      cases he
      cases hfail.symm.trans hfail'
      exact ⟨rfl, rfl, rfl⟩
    | @cons field' more' x' xs' hfield' _ =>
      have hr := hl.readField_append hfield' (more' ++ rest')
      rw [← List.append_assoc, ← he] at hr
      cases hfail.symm.trans hr
  | @cons field more x xs hfield _ ih =>
    have hr := hl.readField_append hfield (more ++ rest)
    rw [← List.append_assoc, he] at hr
    cases hf' with
    | nil => cases hfail'.symm.trans hr
    | @cons field' more' x' xs' hfield' hf' =>
      have hr' := hl.readField_append hfield' (more' ++ rest')
      rw [← List.append_assoc] at hr'
      obtain ⟨-, hb⟩ := FieldRead.ok.inj (hr.symm.trans hr')
      have hmore : more ++ rest = more' ++ rest' := congrArg Input.bytes hb
      rw [List.append_assoc, List.append_assoc, hmore] at he
      obtain ⟨rfl, rfl, rfl⟩ := ih xs' hmore hf'
      exact ⟨congrArg (· ++ more) (List.append_cancel_right he), rfl, rfl⟩

/-- A scan that is past its end got there by the last field that it read. -/
theorem Reads.exists_overrun (hl : layout.Reads g) {input last : Input} {ys : List φ}
    (h : Scanned layout budget stop input ys (.ok last)) (hs : stop ≤ input.size)
    (hlt : last.size < stop) :
    ∃ front field xs x, input.bytes = front ++ (field ++ last.bytes) ∧
      stop < (field ++ last.bytes).length ∧ g.Fields budget front xs ∧ g.Field budget field x := by
  generalize ho : Except.ok last = outcome at h
  induction h with
  | done =>
    cases ho
    omega
  | failed => cases ho
  | @field input rest content ys outcome hsize hr hx ih =>
    obtain ⟨field, hfield, he⟩ := hl.readField_eq_ok_iff.mp hr
    by_cases hrest : stop ≤ rest.size
    · obtain ⟨front, crossing, xs, x, he', hcross, hf, hx⟩ := ih hrest ho
      refine ⟨field ++ front, crossing, content.toList ++ xs, x, ?_, hcross, .cons hfield hf, hx⟩
      rw [he, he', List.append_assoc]
    · cases hx with
      | done =>
        cases ho
        exact ⟨[], field, [], content, he, he ▸ input.size_eq ▸ hsize, .nil, hfield⟩
      | failed => cases ho
      | field hlt' => omega

theorem Reads.scanUntil_of_overrun (hl : layout.Reads g) {input last : Input}
    {front field : Bytes} {xs : List φ} {x : Option φ}
    (he : input.bytes = front ++ (field ++ last.bytes)) (hs : stop < (field ++ last.bytes).length)
    (hle : last.size ≤ stop) (hf : g.Fields budget front xs) (hx : g.Field budget field x) :
    layout.scanUntil budget stop input = ⟨xs ++ x.toList, .ok last⟩ := by
  have hr := hl.readField_append hx last.bytes
  rw [Input.ofBytes_bytes] at hr
  have he : input.bytes = front ++ (Input.ofBytes (field ++ last.bytes)).bytes := he
  rw [hl.scanUntil_append hf he (Nat.le_of_lt hs), hl.scanUntil_of_ok hs hr,
    scanUntil_of_le hle, Scan.after, Scan.after, List.append_nil]

theorem scanDelimited_of_read {input rest : Input} {n : Nat}
    (hr : Varint.read? input = some (n, rest)) (hn : n ≤ rest.size) :
    layout.scanDelimited budget input =
      match layout.scanUntil budget (rest.size - n) rest with
      | ⟨xs, .error error⟩ => ⟨xs, .error error⟩
      | ⟨xs, .ok last⟩ =>
        if last.size = rest.size - n then ⟨xs, .ok last⟩
        else ⟨xs, .error (.ofFault .lengthExceeded)⟩ := by
  simp only [scanDelimited, hr, if_neg (Nat.not_lt.mpr hn)]
  obtain ⟨xs, outcome⟩ := layout.scanUntil budget (rest.size - n) rest
  cases outcome <;> rfl

theorem Reads.delimitedFault_of_scan (hl : layout.Reads g) (ht : layout.Fails t) {input : Input}
    {ys : List φ} {error : ReadError}
    (h : layout.scanDelimited budget input = ⟨ys, .error error⟩) :
    DelimitedFault g t budget input.bytes error := by
  cases hr : Varint.read? input with
  | none =>
    rw [scanDelimited, hr] at h
    cases h
    exact .length (undelimited_iff.mpr (.inl ⟨hr, rfl⟩))
  | some read =>
    obtain ⟨n, rest⟩ := read
    by_cases hn : n ≤ rest.size
    · obtain ⟨form, hform, he⟩ := Varint.read_eq_some_iff.mp hr
      have hsize := rest.size_eq
      rw [scanDelimited_of_read hr hn] at h
      split at h
      · next hc =>
        cases h
        obtain ⟨front, tail, xs, left, hb, hlt, hf, hx, -⟩ := (hl.scanUntil_eq_error_iff ht).mp hc
        rw [hb] at he hsize
        have hsum : (front ++ tail).length = front.length + tail.length := List.length_append
        exact .field he hform (hsize ▸ hn) (by omega) hf hx
      · next last hc =>
        split at h
        · cases h
        · next hne =>
          cases h
          have hle := (hl.fields_of_scanned (hl.scanned hc)).1
          obtain ⟨front, field, xs, x, hb, hcross, hf, hx⟩ :=
            hl.exists_overrun (hl.scanned hc) (Nat.sub_le ..) (by omega)
          have hlast := last.size_eq
          rw [hb] at he hsize
          simp only [List.length_append] at hsize hcross
          have hgt : n < (front ++ field).length := by
            rw [List.length_append]
            omega
          exact .overrun he hform (by omega) hgt hf hx
    · rw [scanDelimited, hr] at h
      simp only [if_pos (Nat.not_le.mp hn)] at h
      cases h
      exact .length (undelimited_iff.mpr (.inr ⟨n, rest, hr, Nat.not_le.mp hn, rfl⟩))

theorem Reads.scan_of_delimitedFault (hl : layout.Reads g) (ht : layout.Fails t) {input : Input}
    {error : ReadError} (h : DelimitedFault g t budget input.bytes error) :
    ∃ ys, layout.scanDelimited budget input = ⟨ys, .error error⟩ := by
  cases h with
  | length h =>
    obtain ⟨hr, rfl⟩ | ⟨n, rest, hr, hlt, rfl⟩ := undelimited_iff.mp h
    · exact ⟨[], by simp only [scanDelimited, hr]; rfl⟩
    · exact ⟨[], by simp only [scanDelimited, hr, if_pos hlt]; rfl⟩
  | @field form front rest n xs left error he hn hle hlt hf hx =>
    have hr : Varint.read? input = some (n, .ofBytes (front ++ rest)) :=
      Varint.read_eq_some_iff.mpr ⟨form, hn, he⟩
    have hs : (Input.ofBytes (front ++ rest)).size - n < rest.length := by
      change (front ++ rest).length - n < rest.length
      rw [List.length_append] at hle ⊢
      omega
    refine ⟨xs ++ left.toList, ?_⟩
    rw [scanDelimited_of_read hr hle,
      (hl.scanUntil_eq_error_iff ht).mpr ⟨front, rest, xs, left, rfl, hs, hf, hx, rfl⟩]
  | @overrun form front field rest n xs x he hn hlt hgt hf hx =>
    have hr : Varint.read? input = some (n, .ofBytes (front ++ (field ++ rest))) :=
      Varint.read_eq_some_iff.mpr ⟨form, hn, he⟩
    have hsize : (Input.ofBytes (front ++ (field ++ rest))).size =
        front.length + (field.length + rest.length) := by
      change (front ++ (field ++ rest)).length = _
      rw [List.length_append, List.length_append]
    have hlast : (Input.ofBytes rest).size = rest.length := rfl
    rw [List.length_append] at hgt
    have hcross : (Input.ofBytes (front ++ (field ++ rest))).size - n <
        (field ++ (Input.ofBytes rest).bytes).length := by
      rw [hsize, Input.bytes_ofBytes, List.length_append]
      omega
    have he : (Input.ofBytes (front ++ (field ++ rest))).bytes =
        front ++ (field ++ (Input.ofBytes rest).bytes) := rfl
    have hc := hl.scanUntil_of_overrun he hcross (by omega) hf hx
    refine ⟨xs ++ x.toList, ?_⟩
    rw [scanDelimited_of_read hr (by omega), hc]
    exact if_neg (by omega)

theorem Reads.scanNested_eq_error_iff (hl : layout.Reads g) (ht : layout.Fails t)
    {wireType : WireType} {input : Input} {error : ReadError} :
    (∃ ys, layout.scanNested budget wireType input = ⟨ys, .error error⟩) ↔
      NestedFault g t wireType input.bytes budget error := by
  by_cases hw : wireType = .lengthDelimited
  · cases budget with
    | zero =>
      simp only [scanNested, hw]
      apply Iff.intro
      · rintro ⟨ys, h⟩
        cases h
        exact .recursionLimit rfl
      · intro h
        cases h with
        | wireType h => exact absurd rfl h
        | recursionLimit _ => exact ⟨[], rfl⟩
    | succ budget =>
      simp only [scanNested, hw, ne_eq, not_true_eq_false, if_false]
      apply Iff.intro
      · rintro ⟨ys, h⟩
        exact .content rfl (hl.delimitedFault_of_scan ht h)
      · intro h
        cases h with
        | wireType h => exact absurd rfl h
        | content _ h => exact hl.scan_of_delimitedFault ht h
  · simp only [scanNested, ne_eq, hw, not_false_eq_true, if_true]
    apply Iff.intro
    · rintro ⟨ys, h⟩
      cases h
      exact .wireType hw
    · intro h
      cases h with
      | wireType _ => exact ⟨[], rfl⟩
      | recursionLimit h => exact absurd h hw
      | content h _ => exact absurd h hw

end Layout

theorem messageReader_fails {φ ψ : Type} {inner : Layout ψ} {g : Grammar ψ} {t : FaultTable ψ}
    (hl : inner.Reads g) (ht : inner.Fails t) (put : List ψ → φ) :
    (messageReader inner put).Fails (nestedFault g t) := by
  intro budget wireType input left error
  simp only [nestedFault, ← hl.scanNested_eq_error_iff ht, messageReader]
  obtain ⟨contents, outcome⟩ := inner.scanNested budget wireType input
  cases outcome <;> simp [eq_comm]

end Locator.Wire
