import Locator.Proofs.Wire.Reading

namespace Locator.Wire

def Scan.after {φ : Type} (before : List φ) (scan : Scan φ) : Scan φ :=
  ⟨before ++ scan.contents, scan.outcome⟩

theorem Scan.after_after {φ : Type} (xs ys : List φ) (scan : Scan φ) :
    (scan.after ys).after xs = scan.after (xs ++ ys) := by
  simp only [after, List.append_assoc]

@[simp]
theorem FieldRead.within_eq_ok_iff {φ : Type} {field : FieldName} {read : FieldRead φ}
    {content : Option φ} {rest : Input} :
    read.within field = .ok content rest ↔ read = .ok content rest := by
  cases read <;> simp [within]

namespace Layout

variable {φ : Type} {layout : Layout φ} {g : Grammar φ} {budget stop : Nat}

/-- A layout that knows the fields of a grammar, each with a reader of its content. -/
def Reads (layout : Layout φ) (g : Grammar φ) : Prop :=
  ∀ tag, (layout.field? tag = none ∧ g.content? tag = none) ∨
    ∃ name read form, layout.field? tag = some (name, read) ∧ g.content? tag = some form ∧
      read.Reads form

theorem Reads.readField_eq_ok_iff (hl : layout.Reads g) {input rest : Input}
    {content : Option φ} :
    layout.readField budget input = .ok content rest ↔
      ∃ bytes, g.Field budget bytes content ∧ input.bytes = bytes ++ rest.bytes := by
  constructor
  · intro h
    unfold readField at h
    split at h
    · cases h
    · next key after hk =>
      obtain ⟨keyBytes, hk, he⟩ := Key.read_eq_ok_iff.mp hk
      obtain ⟨hn, hg⟩ | ⟨name, read, form, hn, hg, hr⟩ := hl key.tag
      · simp only [hn] at h
        split at h
        · next hs =>
          cases h
          obtain ⟨bytes, hs, he'⟩ := skipField_eq_ok_iff.mp hs
          exact ⟨keyBytes ++ bytes, .unknown hk hg hs, by rw [he, he', List.append_assoc]⟩
        · cases h
      · simp only [hn, FieldRead.within_eq_ok_iff] at h
        obtain ⟨bytes, x, rfl, hx, he'⟩ := (hr ..).mp h
        exact ⟨keyBytes ++ bytes, .known hk hg hx, by rw [he, he', List.append_assoc]⟩
  · rintro ⟨bytes, hf, he⟩
    cases hf with
    | @known key form keyBytes bytes x hk hg hx =>
      obtain ⟨_, hg'⟩ | ⟨name, read, form', hn, hg', hr⟩ := hl key.tag
      · simp [hg] at hg'
      · cases hg.symm.trans hg'
        have hk' : Key.read input = .ok (key, .ofBytes (bytes ++ rest.bytes)) :=
          Key.read_eq_ok_iff.mpr ⟨keyBytes, hk, by rw [he, List.append_assoc]; rfl⟩
        simp only [readField, hk', hn, FieldRead.within_eq_ok_iff]
        exact (hr ..).mpr ⟨bytes, x, rfl, hx, rfl⟩
    | @unknown key keyBytes bytes hk hg hs =>
      obtain ⟨hn, _⟩ | ⟨_, _, _, _, hg', _⟩ := hl key.tag
      · have hk' : Key.read input = .ok (key, .ofBytes (bytes ++ rest.bytes)) :=
          Key.read_eq_ok_iff.mpr ⟨keyBytes, hk, by rw [he, List.append_assoc]; rfl⟩
        have hs' : skipField budget key (.ofBytes (bytes ++ rest.bytes)) = .ok rest :=
          skipField_eq_ok_iff.mpr ⟨bytes, hs, rfl⟩
        simp only [readField, hk', hn, hs']
      · simp [hg] at hg'

theorem Reads.readField_append (hl : layout.Reads g) {field : Bytes} {x : Option φ}
    (h : g.Field budget field x) (more : Bytes) :
    layout.readField budget (.ofBytes (field ++ more)) = .ok x (.ofBytes more) :=
  hl.readField_eq_ok_iff.mpr ⟨field, h, rfl⟩

/-- Where bytes begin with a field, it is the only one that they begin with. -/
theorem Reads.field_unique (hl : layout.Reads g) {a b rest rest' : Bytes} {x y : Option φ}
    (ha : g.Field budget a x) (hb : g.Field budget b y) (h : a ++ rest = b ++ rest') :
    a = b ∧ x = y ∧ rest = rest' := by
  have hr := hl.readField_append ha rest
  rw [h, hl.readField_append hb rest'] at hr
  obtain ⟨rfl, hi⟩ := FieldRead.ok.inj hr
  obtain rfl : rest' = rest := congrArg Input.bytes hi
  exact ⟨List.append_cancel_right h, rfl, rfl⟩

theorem Reads.size_readField (hl : layout.Reads g) {input rest : Input} {content : Option φ}
    (h : layout.readField budget input = .ok content rest) : rest.size < input.size := by
  obtain ⟨bytes, hf, he⟩ := hl.readField_eq_ok_iff.mp h
  have hp := List.length_pos_iff.mpr hf.ne_nil
  have hs := Input.size_of_append he
  omega

theorem scanFields_of_le {fuel : Nat} {before : List φ} {input : Input} (h : input.size ≤ stop) :
    layout.scanFields budget stop fuel before input = ⟨before.reverse, .ok input⟩ := by
  cases fuel with
  | zero => rfl
  | succ fuel => rw [scanFields, if_pos h]

theorem scanFields_succ {fuel : Nat} {before : List φ} {input : Input} (h : stop < input.size) :
    layout.scanFields budget stop (fuel + 1) before input =
      match layout.readField budget input with
      | .ok content rest =>
        layout.scanFields budget stop fuel (content.toList ++ before) rest
      | .failed left error => ⟨before.reverse ++ left.toList, .error error⟩ := by
  rw [scanFields, if_neg (Nat.not_le.mpr h)]
  cases layout.readField budget input with
  | ok content rest => cases content <;> rfl
  | failed left error => cases left <;> simp

theorem scanFields_eq_after (fuel : Nat) (before : List φ) (input : Input) :
    layout.scanFields budget stop fuel before input =
      (layout.scanFields budget stop fuel [] input).after before.reverse := by
  induction fuel generalizing before input with
  | zero => simp [scanFields, Scan.after]
  | succ fuel ih =>
    by_cases h : input.size ≤ stop
    · simp [scanFields_of_le h, Scan.after]
    · rw [Nat.not_le] at h
      simp only [scanFields_succ h]
      cases layout.readField budget input with
      | ok content rest =>
        simp only [ih (content.toList ++ _), Scan.after_after]
        cases content <;> simp
      | failed left error => simp [Scan.after]

theorem Reads.scanFields_fuel (hl : layout.Reads g) {fuel fuel' : Nat} {input : Input}
    (hf : input.size ≤ fuel) (hf' : input.size ≤ fuel') :
    layout.scanFields budget stop fuel [] input = layout.scanFields budget stop fuel' [] input := by
  induction fuel generalizing fuel' input with
  | zero =>
    have hz : input.size ≤ stop := by omega
    rw [scanFields_of_le hz, scanFields_of_le hz]
  | succ fuel ih =>
    by_cases h : input.size ≤ stop
    · rw [scanFields_of_le h, scanFields_of_le h]
    · rw [Nat.not_le] at h
      obtain ⟨fuel', rfl⟩ : ∃ k, fuel' = k + 1 := ⟨fuel' - 1, by omega⟩
      rw [scanFields_succ h, scanFields_succ h]
      cases hr : layout.readField budget input with
      | ok content rest =>
        have hs := hl.size_readField hr
        have he : layout.scanFields budget stop fuel [] rest =
            layout.scanFields budget stop fuel' [] rest := ih (by omega) (by omega)
        simp only
        rw [scanFields_eq_after, scanFields_eq_after fuel', he]
      | failed left error => rfl

theorem scanUntil_of_le {input : Input} (h : input.size ≤ stop) :
    layout.scanUntil budget stop input = ⟨[], .ok input⟩ :=
  scanFields_of_le h

theorem Reads.scanUntil_of_ok (hl : layout.Reads g) {input rest : Input} {content : Option φ}
    (h : stop < input.size) (hr : layout.readField budget input = .ok content rest) :
    layout.scanUntil budget stop input =
      (layout.scanUntil budget stop rest).after content.toList := by
  have hs := hl.size_readField hr
  obtain ⟨fuel, hf⟩ : ∃ k, input.size = k + 1 := ⟨input.size - 1, by omega⟩
  rw [scanUntil, hf, scanFields_succ h, hr]
  simp only
  rw [scanFields_eq_after, scanUntil, hl.scanFields_fuel (by omega) (Nat.le_refl _)]
  cases content <;> rfl

theorem scanUntil_of_failed {input : Input} {left : Option φ} {error : ReadError}
    (h : stop < input.size) (hr : layout.readField budget input = .failed left error) :
    layout.scanUntil budget stop input = ⟨left.toList, .error error⟩ := by
  obtain ⟨fuel, hf⟩ : ∃ k, input.size = k + 1 := ⟨input.size - 1, by omega⟩
  rw [scanUntil, hf, scanFields_succ h, hr]
  rfl

/-- A scan, field by field, up to `stop` or to a field that fails. -/
inductive Scanned (layout : Layout φ) (budget stop : Nat) :
    Input → List φ → Except ReadError Input → Prop
  | done {input : Input} (h : input.size ≤ stop) : Scanned layout budget stop input [] (.ok input)
  | failed {input : Input} {left : Option φ} {error : ReadError} (h : stop < input.size)
      (hr : layout.readField budget input = .failed left error) :
      Scanned layout budget stop input left.toList (.error error)
  | field {input rest : Input} {content : Option φ} {xs : List φ}
      {outcome : Except ReadError Input} (h : stop < input.size)
      (hr : layout.readField budget input = .ok content rest)
      (hx : Scanned layout budget stop rest xs outcome) :
      Scanned layout budget stop input (content.toList ++ xs) outcome

theorem Reads.scanned_scanUntil (hl : layout.Reads g) (input : Input) :
    Scanned layout budget stop input (layout.scanUntil budget stop input).contents
      (layout.scanUntil budget stop input).outcome := by
  induction hn : input.size using Nat.strongRecOn generalizing input with
  | ind n ih =>
    by_cases hs : input.size ≤ stop
    · rw [scanUntil_of_le hs]
      exact .done hs
    · rw [Nat.not_le] at hs
      cases hr : layout.readField budget input with
      | failed left error =>
        rw [scanUntil_of_failed hs hr]
        exact .failed hs hr
      | ok content rest =>
        rw [hl.scanUntil_of_ok hs hr]
        exact .field hs hr (ih _ (hn ▸ hl.size_readField hr) rest rfl)

theorem Reads.scanned (hl : layout.Reads g) {input : Input} {xs : List φ}
    {outcome : Except ReadError Input} (h : layout.scanUntil budget stop input = ⟨xs, outcome⟩) :
    Scanned layout budget stop input xs outcome := by
  have hs : Scanned layout budget stop input _ _ := hl.scanned_scanUntil input
  rwa [h] at hs

/-- A scan that does not fail reads fields one after another, up to `stop` or beyond it. -/
theorem Reads.fields_of_scanned (hl : layout.Reads g) {input last : Input} {xs : List φ}
    (h : Scanned layout budget stop input xs (.ok last)) :
    last.size ≤ stop ∧ ∃ bytes, g.Fields budget bytes xs ∧ input.bytes = bytes ++ last.bytes := by
  generalize ho : Except.ok last = outcome at h
  induction h with
  | done h =>
    cases ho
    exact ⟨h, [], .nil, rfl⟩
  | failed => cases ho
  | field _ hr _ ih =>
    obtain ⟨hstop, bytes, hf, he⟩ := ih ho
    obtain ⟨field, hfield, he'⟩ := hl.readField_eq_ok_iff.mp hr
    exact ⟨hstop, field ++ bytes, .cons hfield hf, by rw [he', he, List.append_assoc]⟩

theorem Reads.scanUntil_append (hl : layout.Reads g) {bytes : Bytes} {xs : List φ}
    {input rest : Input} (h : g.Fields budget bytes xs) (he : input.bytes = bytes ++ rest.bytes)
    (hs : stop ≤ rest.size) :
    layout.scanUntil budget stop input = (layout.scanUntil budget stop rest).after xs := by
  induction h generalizing input with
  | nil =>
    cases Input.ext he
    rfl
  | @cons field bytes x xs hf _ ih =>
    have hr : layout.readField budget input = .ok x (.ofBytes (bytes ++ rest.bytes)) :=
      hl.readField_eq_ok_iff.mpr ⟨field, hf, by rw [he, List.append_assoc]; rfl⟩
    have hp := List.length_pos_iff.mpr hf.ne_nil
    have hi := Input.size_of_append he
    rw [List.length_append] at hi
    rw [hl.scanUntil_of_ok (by omega) hr, ih rfl, Scan.after_after]

theorem Reads.scanUntil_of_fields (hl : layout.Reads g) {bytes : Bytes} {xs : List φ}
    {input last : Input} (h : g.Fields budget bytes xs) (he : input.bytes = bytes ++ last.bytes) :
    layout.scanUntil budget last.size input = ⟨xs, .ok last⟩ := by
  have hn := Nat.le_refl last.size
  rw [hl.scanUntil_append h he hn, scanUntil_of_le hn, Scan.after, List.append_nil]

theorem Reads.scanUntil_zero_eq_ok_iff (hl : layout.Reads g) {bytes : Bytes} {xs : List φ} :
    (∃ last, layout.scanUntil budget 0 (.ofBytes bytes) = ⟨xs, .ok last⟩) ↔
      g.Fields budget bytes xs := by
  constructor
  · rintro ⟨last, h⟩
    obtain ⟨hs, field, hf, he⟩ := hl.fields_of_scanned (hl.scanned h)
    have hn : last.bytes = [] := by
      rw [← List.length_eq_zero_iff, ← Input.size_eq]
      exact Nat.le_zero.mp hs
    rw [hn, List.append_nil, Input.bytes_ofBytes] at he
    rwa [he]
  · intro h
    have he : (Input.ofBytes bytes).bytes = bytes ++ (Input.ofBytes []).bytes := by simp
    exact ⟨.ofBytes [], hl.scanUntil_of_fields h he⟩

theorem Reads.fields_unique (hl : layout.Reads g) {bytes : Bytes} {xs ys : List φ}
    (hx : g.Fields budget bytes xs) (hy : g.Fields budget bytes ys) : xs = ys := by
  obtain ⟨_, hx⟩ := hl.scanUntil_zero_eq_ok_iff.mpr hx
  obtain ⟨_, hy⟩ := hl.scanUntil_zero_eq_ok_iff.mpr hy
  cases hx.symm.trans hy
  rfl

/-- A field that is read past the end of the message is caught by the check of where it ends. -/
theorem Reads.scanDelimited_eq_ok_iff (hl : layout.Reads g) {input rest : Input} {xs : List φ} :
    layout.scanDelimited budget input = ⟨xs, .ok rest⟩ ↔
      ∃ bytes payload, Delimited bytes payload ∧ g.Fields budget payload xs ∧
        input.bytes = bytes ++ rest.bytes := by
  constructor
  · intro h
    unfold scanDelimited at h
    split at h
    · cases h
    · next n after hr =>
      split at h
      · cases h
      · next hn =>
        cases hc : layout.scanUntil budget (after.size - n) after with
        | mk ys outcome =>
          simp only [hc] at h
          split at h
          · cases h
          · next last =>
            split at h
            · next hs =>
              cases h
              -- the fields may have been read past the end; that they were not is what `hs` says
              obtain ⟨-, payload, hp, he⟩ := hl.fields_of_scanned (hl.scanned hc)
              have hlen := Input.size_of_append he
              have ht : after.take? n = some (payload, rest) :=
                Input.take_eq_some_iff.mpr ⟨by omega, he⟩
              obtain ⟨bytes, hd, he'⟩ := exists_take_iff.mp ⟨n, after, hr, ht⟩
              exact ⟨bytes, payload, hd, hp, he'⟩
            · cases h
  · rintro ⟨bytes, payload, hd, hp, he⟩
    obtain ⟨n, after, hr, ht⟩ := exists_take_iff.mpr ⟨bytes, hd, he⟩
    obtain ⟨rfl, he'⟩ := Input.take_eq_some_iff.mp ht
    have hs := Input.size_of_append he'
    have hstop : after.size - payload.length = rest.size := by omega
    have hn : ¬payload.length > after.size := by omega
    simp only [scanDelimited, hr, if_neg hn, hstop, hl.scanUntil_of_fields hp he', if_true]

end Layout

theorem messageReader_reads {φ ψ : Type} {inner : Layout ψ} {g : Grammar ψ} (hl : inner.Reads g)
    (put : List ψ → φ) : (messageReader inner put).Reads (nestedForm g put) := by
  intro budget wireType input content rest
  constructor
  · intro h
    unfold messageReader at h
    split at h
    · next xs after hr =>
      cases h
      unfold Layout.scanNested at hr
      split at hr
      · cases hr
      · next hw =>
        split at hr
        · cases hr
        · next left =>
          obtain ⟨bytes, payload, hd, hf, he⟩ := hl.scanDelimited_eq_ok_iff.mp hr
          exact ⟨bytes, put xs, rfl,
            ⟨Classical.not_not.mp hw, left, payload, xs, rfl, hd, hf, rfl⟩, he⟩
    · cases h
  · rintro ⟨bytes, _, rfl, ⟨rfl, left, payload, xs, rfl, hd, hf, rfl⟩, he⟩
    have hs := hl.scanDelimited_eq_ok_iff.mpr ⟨bytes, payload, hd, hf, he⟩
    simp only [messageReader, Layout.scanNested, ne_eq, not_true_eq_false, if_false, hs]

end Locator.Wire
