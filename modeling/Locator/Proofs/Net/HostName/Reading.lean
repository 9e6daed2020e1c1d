import Locator.Proofs.Net.HostName.Grammar

namespace Locator.Net.HostName

/-- The characters of an escape that were read so far. -/
inductive Pending : Escape → List Char → Prop
  | outside : Pending .outside []
  | begun : Pending .begun ['\\']
  | one {a : Char} (ha : IsOctal a) : Pending (.digits 1 (octalValue a)) ['\\', a]
  | two {a b : Char} (ha : IsOctal a) (hb : IsOctal b) :
      Pending (.digits 2 (8 * octalValue a + octalValue b)) ['\\', a, b]

theorem Pending.leftover {escape : Escape} {raw : List Char} (h : Pending escape raw) :
    Leftover raw := by
  cases h with
  | outside => exact .nil
  | begun => exact .backslash
  | one ha => exact .one ha
  | two ha hb => exact .two ha hb

/-- What the symbols of a text make of the labels before it and of the label it begins in. -/
def Completes (before : List Label) (label : List Char) (text : List Char)
    (labels : List Label) : Prop :=
  ∃ symbols, Spells text symbols ∧ labels = before.reverse ++ labelsFrom label.reverse symbols ∧
    Fits labels

section
variable {before labels : List Label} {label text : List Char} {c : Char}

theorem completes_leftover_iff {rest : List Char} (hr : Leftover rest) :
    Completes before label rest labels ↔
      labels = before.reverse ++ labelsFrom label.reverse [] ∧ Fits labels := by
  apply Iff.intro
  · intro h
    obtain ⟨symbols, hs, h⟩ := h
    rwa [hr.symbols_eq hs] at h
  · intro h
    exact ⟨[], .leftover hr, h⟩

theorem completes_letter_iff {rest : List Char}
    (h : ∀ symbols, Spells rest symbols ↔
      ∃ after, symbols = .letter c :: after ∧ Spells text after) :
    Completes before label rest labels ↔ Completes before (c :: label) text labels := by
  have hr : (c :: label).reverse = label.reverse ++ [c] := List.reverse_cons
  apply Iff.intro
  · intro hc
    obtain ⟨symbols, hs, hl⟩ := hc
    obtain ⟨after, he, hs⟩ := (h symbols).mp hs
    rw [he, labelsFrom, ← hr] at hl
    exact ⟨after, hs, hl⟩
  · intro hc
    obtain ⟨after, hs, hl⟩ := hc
    rw [hr] at hl
    exact ⟨.letter c :: after, (h _).mpr ⟨after, rfl, hs⟩, hl⟩

theorem completes_dot_iff :
    Completes before label ('.' :: text) labels ↔
      Completes (label.reverse :: before) [] text labels := by
  apply Iff.intro
  · intro hc
    obtain ⟨symbols, hs, hl⟩ := hc
    obtain ⟨after, he, hs⟩ := spells_dot_iff.mp hs
    rw [he, labelsFrom] at hl
    refine ⟨after, hs, ?_⟩
    rwa [List.reverse_cons, List.append_assoc, List.singleton_append, List.reverse_nil]
  · intro hc
    obtain ⟨after, hs, hl⟩ := hc
    rw [List.reverse_cons, List.append_assoc, List.singleton_append, List.reverse_nil] at hl
    exact ⟨.separator :: after, .separator hs, hl⟩

theorem Completes.fits_before (h : Completes before label text labels) : Fits before := by
  obtain ⟨symbols, _, he, hf⟩ := h
  rw [he] at hf
  exact hf.of_append.perm before.reverse_perm

theorem Completes.isLabelChar (h : Completes before (c :: label) text labels) : IsLabelChar c := by
  obtain ⟨symbols, _, he, hf⟩ := h
  have hc : c ∈ (c :: label).reverse := List.mem_reverse.mpr (.head _)
  obtain ⟨l, hl, hcl⟩ := mem_labelsFrom symbols hc
  have hm : l ∈ labels := he ▸ List.mem_append_right _ hl
  exact (hf.isLabel l hm).form.isLabelChar c hcl

end

theorem error_iff_of_not {error : HostNameError} {labels : List Label} {P : Prop} (h : ¬P) :
    (.error error : Except HostNameError (List Label)) = .ok labels ↔ P := by
  apply Iff.intro
  · intro he
    cases he
  · intro hp
    exact absurd hp h

theorem readLabels_nil_iff {before labels : List Label} {label raw : List Char} {escape : Escape}
    (hb : Fits before) (hp : Pending escape raw) :
    readLabels before label escape [] = .ok labels ↔ Completes before label raw labels := by
  rw [readLabels, completes_leftover_iff hp.leftover, labelsFrom]
  by_cases hl : label = []
  · rw [if_pos hl, if_pos (List.reverse_eq_nil_iff.mpr hl), List.append_nil]
    refine ⟨fun h => ?_, fun h => congrArg Except.ok h.1.symm⟩
    exact Except.ok.inj h ▸ ⟨rfl, hb.perm before.reverse_perm.symm⟩
  · have hr : before.reverse ++ [label.reverse] = (label.reverse :: before).reverse :=
      List.reverse_cons.symm
    rw [if_neg hl, if_neg (fun h => hl (List.reverse_eq_nil_iff.mp h)), hr]
    by_cases hf : Fits (label.reverse :: before)
    · simp only [endLabel_of_fits hf]
      refine ⟨fun h => ?_, fun h => congrArg Except.ok h.1.symm⟩
      exact Except.ok.inj h ▸ ⟨rfl, hf.perm (List.reverse_perm _).symm⟩
    · obtain ⟨error, he⟩ := exists_endLabel_eq_error hb hf
      simp only [he]
      apply error_iff_of_not
      intro hc
      obtain ⟨h, hl⟩ := hc
      exact hf ((h ▸ hl).perm (List.reverse_perm _))

/-- The reading of a text goes on to the labels that the symbols of the text complete. -/
theorem readLabels_eq_ok_iff {before labels : List Label} {label raw text : List Char}
    {escape : Escape} (hb : Fits before) (hp : Pending escape raw) :
    readLabels before label escape text = .ok labels ↔
      Completes before label (raw ++ text) labels := by
  -- an escape that has begun is put back in front of the text that is left
  induction text generalizing before label escape raw with
  | nil =>
    rw [List.append_nil]
    exact readLabels_nil_iff hb hp
  | cons c text ih =>
    cases hp with
    | outside =>
      rw [readLabels, List.nil_append]
      by_cases hd : c = '.'
      · rw [if_pos hd, hd, completes_dot_iff]
        by_cases hf : Fits (label.reverse :: before)
        · simp only [endLabel_of_fits hf]
          exact ih hf .outside
        · obtain ⟨error, he⟩ := exists_endLabel_eq_error hb hf
          simp only [he]
          apply error_iff_of_not
          intro h
          exact hf h.fits_before
      · rw [if_neg hd]
        by_cases hs : c = '\\'
        · rw [if_pos hs, hs]
          exact ih hb .begun
        · rw [if_neg hs, completes_letter_iff fun _ => spells_plain_iff hd hs]
          by_cases hc : (Text.isControl c || Text.isBlank c) = true
          · rw [if_pos hc]
            apply error_iff_of_not
            intro h
            cases hc.symm.trans h.isLabelChar.not_control
          · rw [if_neg hc]
            exact ih hb .outside
    | begun =>
      rw [readLabels, List.singleton_append]
      by_cases hn : Text.isNumeric c = true
      · rw [if_pos hn]
        by_cases ho : IsOctal c
        · simp only [octalDigit_of_isOctal ho]
          exact ih hb (.one ho)
        · obtain ⟨error, he⟩ := exists_octalDigit_eq_error ho
          simp only [he]
          apply error_iff_of_not
          intro h
          obtain ⟨symbols, hs, -⟩ := h
          exact ho (hs.isOctal_first hn)
      · rw [if_neg hn, completes_letter_iff fun _ => spells_escaped_iff hn]
        exact ih hb .outside
    | one ha =>
      rw [readLabels, List.cons_append, List.singleton_append]
      by_cases ho : IsOctal c
      · simp only [octalDigit_of_isOctal ho]
        exact ih hb (.two ha ho)
      · obtain ⟨error, he⟩ := exists_octalDigit_eq_error ho
        simp only [he]
        apply error_iff_of_not
        intro h
        obtain ⟨symbols, hs, -⟩ := h
        exact ho (hs.isOctal_second ha.isNumeric)
    | @two a b ha hb₂ =>
      rw [readLabels, List.cons_append, List.cons_append, List.singleton_append]
      by_cases ho : IsOctal c
      · have hv : 8 * (8 * octalValue a + octalValue b) + octalValue c =
            64 * octalValue a + 8 * octalValue b + octalValue c := by omega
        simp only [octalDigit_of_isOctal ho, if_pos, hv]
        rw [completes_letter_iff fun _ => spells_octal_iff ha hb₂ ho]
        exact ih hb .outside
      · obtain ⟨error, he⟩ := exists_octalDigit_eq_error ho
        simp only [he]
        apply error_iff_of_not
        intro h
        obtain ⟨symbols, hs, -⟩ := h
        exact ho (hs.isOctal_third ha.isNumeric)

theorem fits_nil : Fits [] :=
  ⟨nofun, by decide⟩

theorem names_iff_completes {text : List Char} {labels : List Label} (hl : labels ≠ []) :
    Names text labels ↔ Completes [] [] text labels := by
  apply Iff.intro
  · intro h
    obtain ⟨symbols, hs, he⟩ := h.spelled
    exact ⟨symbols, hs, he, h.fits⟩
  · intro h
    obtain ⟨symbols, hs, he, hf⟩ := h
    exact ⟨⟨symbols, hs, he⟩, hl, hf⟩

theorem not_names_root (labels : List Label) : ¬Names ['.'] labels := by
  intro h
  obtain ⟨symbols, hs, he⟩ := h.spelled
  obtain ⟨after, rfl, _⟩ := spells_dot_iff.mp hs
  have hm : [] ∈ labels := he ▸ .head _
  cases (h.fits.isLabel [] hm).form

theorem labels_eq_ok_iff {text : String} {labels : List Label} (hl : labels ≠ []) :
    HostName.labels text = .ok labels ↔ Names text.toList labels := by
  rw [HostName.labels]
  by_cases hr : text = "."
  · rw [if_pos hr, hr]
    exact ⟨fun h => absurd (Except.ok.inj h).symm hl, fun h => absurd h (not_names_root labels)⟩
  · rw [if_neg hr, names_iff_completes hl]
    exact readLabels_eq_ok_iff fits_nil .outside

example : HostName.labels "a\\.b\\055c.d\\" = .ok [['a', '.', 'b', '-', 'c'], ['d']] := by
  rfl

end Locator.Net.HostName
