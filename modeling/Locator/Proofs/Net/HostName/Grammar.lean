import Locator.Net.HostName
import Locator.Proofs.Text

namespace Locator.Net

theorem Label.size_append (a b : Label) : Label.size (a ++ b) = a.size + b.size := by
  rw [size, String.ofList_append, String.utf8ByteSize_append]
  rfl

theorem Label.size_pos_iff {label : Label} : 0 < label.size ↔ label ≠ [] := by
  simp [size, Nat.pos_iff_ne_zero]

namespace HostName

/-- What a piece of a host name stands for: a character of a label, or the end of a label. -/
inductive Symbol where
  | letter (c : Char)
  | separator

def IsOctal (c : Char) : Prop :=
  '0' ≤ c ∧ c ≤ '7'

def octalValue (c : Char) : Nat :=
  c.toNat - '0'.toNat

/-- What may be left at the end of a text: nothing, or an escape that is not finished. -/
inductive Leftover : List Char → Prop
  | nil : Leftover []
  | backslash : Leftover ['\\']
  | one {a : Char} (ha : IsOctal a) : Leftover ['\\', a]
  | two {a b : Char} (ha : IsOctal a) (hb : IsOctal b) : Leftover ['\\', a, b]

/-- A backslash takes the next character as it is, or the code point of three octal digits. -/
inductive Spells : List Char → List Symbol → Prop
  | leftover {rest : List Char} (h : Leftover rest) : Spells rest []
  | plain {c : Char} {text : List Char} {symbols : List Symbol} (hd : c ≠ '.') (hb : c ≠ '\\')
      (h : Spells text symbols) : Spells (c :: text) (.letter c :: symbols)
  | separator {text : List Char} {symbols : List Symbol} (h : Spells text symbols) :
      Spells ('.' :: text) (.separator :: symbols)
  | escaped {c : Char} {text : List Char} {symbols : List Symbol} (hc : ¬Text.isNumeric c)
      (h : Spells text symbols) : Spells ('\\' :: c :: text) (.letter c :: symbols)
  | octal {a b c : Char} {text : List Char} {symbols : List Symbol} (ha : IsOctal a)
      (hb : IsOctal b) (hc : IsOctal c) (h : Spells text symbols) :
      Spells ('\\' :: a :: b :: c :: text)
        (.letter (Char.ofNat (64 * octalValue a + 8 * octalValue b + octalValue c)) :: symbols)

/-- Each separator ends a label; what is behind the last one is a label unless it is empty. -/
def labelsFrom (label : Label) : List Symbol → List Label
  | [] => if label = [] then [] else [label]
  | .separator :: symbols => label :: labelsFrom [] symbols
  | .letter c :: symbols => labelsFrom (label ++ [c]) symbols

inductive LabelForm : Label → Prop
  | wildcard : LabelForm ['*']
  | characters {first : Char} {later : List Char}
      (hf : first.isAlphanum ∨ first = '_' ∨ first = '*' ∨ first = '.')
      (hl : ∀ c ∈ later, c.isAlphanum ∨ c = '-' ∨ c = '_' ∨ c = '.') :
      LabelForm (first :: later)

structure IsLabel (label : Label) : Prop where
  size_pos : 0 < label.size
  size_le : label.size ≤ 63
  form : LabelForm label

/-- Their number, the bytes of all of them and one more are at most 255. -/
structure Fits (labels : List Label) : Prop where
  isLabel : ∀ label ∈ labels, IsLabel label
  total_le : labels.length + Label.size labels.flatten + 1 ≤ 255

structure Names (text : List Char) (labels : List Label) : Prop where
  spelled : ∃ symbols, Spells text symbols ∧ labels = labelsFrom [] symbols
  ne_nil : labels ≠ []
  fits : Fits labels

def IsLabelChar (c : Char) : Prop :=
  c.isAlphanum ∨ c = '-' ∨ c = '_' ∨ c = '.' ∨ c = '*'

instance (c : Char) : Decidable (IsLabelChar c) :=
  inferInstanceAs (Decidable (_ ∨ _))

theorem IsLabelChar.toNat_lt {c : Char} (h : IsLabelChar c) : c.toNat < 128 := by
  rcases h with h | rfl | rfl | rfl | rfl
  · have hr := Text.isAlphanum_iff.mp h
    omega
  · decide
  · decide
  · decide
  · decide

theorem IsLabelChar.not_control {c : Char} (h : IsLabelChar c) :
    (Text.isControl c || Text.isBlank c) = false :=
  Text.forall_ascii (P := fun c => IsLabelChar c → (Text.isControl c || Text.isBlank c) = false)
    (by decide +kernel) h.toNat_lt h

theorem IsOctal.isDigit {c : Char} (h : IsOctal c) : c.isDigit := by
  have hl := UInt32.le_iff_toNat_le.mp h.1
  have hh := UInt32.le_iff_toNat_le.mp h.2
  exact Text.isDigit_iff.mpr ⟨hl, Nat.le_trans hh (by decide)⟩

theorem IsOctal.isNumeric {c : Char} (h : IsOctal c) : Text.isNumeric c := by
  have hd := Text.isDigit_iff.mp h.isDigit
  rw [Text.isNumeric, if_pos (Nat.lt_of_le_of_lt hd.2 (by decide))]
  exact h.isDigit

theorem octalDigit_of_isOctal {c : Char} (h : IsOctal c) : octalDigit c = .ok (octalValue c) := by
  rw [octalDigit, h.isNumeric, if_neg (by simp)]
  exact if_pos h

theorem exists_octalDigit_eq_error {c : Char} (h : ¬IsOctal c) :
    ∃ error, octalDigit c = .error error := by
  unfold octalDigit
  split
  · exact ⟨_, rfl⟩
  · exact ⟨_, if_neg h⟩

theorem LabelForm.isLabelChar {label : Label} (h : LabelForm label) :
    ∀ c ∈ label, IsLabelChar c := by
  intro c hc
  cases h with
  | wildcard =>
    rw [List.mem_singleton] at hc
    exact .inr (.inr (.inr (.inr hc)))
  | characters hf hl =>
    rcases List.mem_cons.mp hc with rfl | hc
    · rcases hf with h | h | h | h
      · exact .inl h
      · exact .inr (.inr (.inl h))
      · exact .inr (.inr (.inr (.inr h)))
      · exact .inr (.inr (.inr (.inl h)))
    · rcases hl c hc with h | h | h | h
      · exact .inl h
      · exact .inr (.inl h)
      · exact .inr (.inr (.inl h))
      · exact .inr (.inr (.inr (.inl h)))

theorem wellFormed_iff {label : Label} : wellFormed label = true ↔ LabelForm label := by
  cases label with
  | nil => exact ⟨nofun, nofun⟩
  | cons first later =>
    simp only [wellFormed, isFirst, isLater, Bool.or_eq_true, Bool.and_eq_true,
      decide_eq_true_eq, List.all_eq_true, or_assoc]
    apply Iff.intro
    · intro h
      rcases h with h | ⟨hf, hl⟩
      · exact h ▸ .wildcard
      · exact .characters hf hl
    · intro h
      cases h with
      | wildcard => exact .inl rfl
      | characters hf hl => exact .inr ⟨hf, hl⟩

theorem size_perm {a b : List Label} (h : a.Perm b) : size a = size b := by
  induction h with
  | nil => rfl
  | cons label _ ih =>
    simp only [size, List.length_cons, List.flatten_cons, Label.size_append] at ih ⊢
    omega
  | swap =>
    simp only [size, List.length_cons, List.flatten_cons, Label.size_append]
    omega
  | trans _ _ iha ihb => exact iha.trans ihb

theorem Fits.perm {a b : List Label} (h : Fits a) (hp : a.Perm b) : Fits b := by
  have ht : size b ≤ 255 := size_perm hp ▸ h.total_le
  exact ⟨fun label hl => h.isLabel label (hp.mem_iff.mpr hl), ht⟩

theorem Fits.of_append {a b : List Label} (h : Fits (a ++ b)) : Fits a := by
  have ht := h.total_le
  rw [List.length_append, List.flatten_append, Label.size_append] at ht
  exact ⟨fun label hl => h.isLabel label (List.mem_append_left b hl), by omega⟩

theorem fits_cons_iff {label : Label} {before : List Label} (hb : Fits before) :
    Fits (label :: before) ↔ IsLabel label ∧ size (label :: before) ≤ 255 := by
  apply Iff.intro
  · intro h
    exact ⟨h.isLabel label (.head _), h.total_le⟩
  · intro h
    exact ⟨List.forall_mem_cons.mpr ⟨h.1, hb.isLabel⟩, h.2⟩

theorem endLabel_of_fits {before : List Label} {label : Label} (h : Fits (label :: before)) :
    endLabel before label = .ok (label :: before) := by
  have hl := h.isLabel label (.head _)
  have hw := wellFormed_iff.mpr hl.form
  have ht : size (label :: before) ≤ 255 := h.total_le
  rw [endLabel, if_neg (Nat.not_lt.mpr hl.size_le), if_neg (by simp [hw]),
    if_neg (Nat.not_lt.mpr ht)]

theorem exists_endLabel_eq_error {before : List Label} {label : Label} (hb : Fits before)
    (h : ¬Fits (label :: before)) : ∃ error, endLabel before label = .error error := by
  unfold endLabel
  split
  · exact ⟨_, rfl⟩
  · next hs =>
    split
    · exact ⟨_, rfl⟩
    · next hw =>
      split
      · exact ⟨_, rfl⟩
      · next ht =>
        have hf : LabelForm label := wellFormed_iff.mp (by simpa using hw)
        have hne : label ≠ [] := by
          intro he
          cases he ▸ hf
        have hl : IsLabel label := ⟨Label.size_pos_iff.mpr hne, Nat.not_lt.mp hs, hf⟩
        exact absurd ((fits_cons_iff hb).mpr ⟨hl, Nat.not_lt.mp ht⟩) h

theorem mem_labelsFrom {c : Char} {label : Label} (symbols : List Symbol) (hc : c ∈ label) :
    ∃ l ∈ labelsFrom label symbols, c ∈ l := by
  induction symbols generalizing label with
  | nil =>
    rw [labelsFrom, if_neg (List.ne_nil_of_mem hc)]
    exact ⟨label, .head _, hc⟩
  | cons symbol symbols ih =>
    cases symbol with
    | letter d => exact ih (List.mem_append_left [d] hc)
    | separator => exact ⟨label, .head _, hc⟩

theorem mem_labelsFrom_of_letter {c : Char} {symbols : List Symbol} (label : Label)
    (hc : .letter c ∈ symbols) : ∃ l ∈ labelsFrom label symbols, c ∈ l := by
  induction symbols generalizing label with
  | nil => cases hc
  | cons symbol symbols ih =>
    rcases List.mem_cons.mp hc with rfl | hs
    · exact mem_labelsFrom symbols (List.mem_append_right label (.head _))
    · cases symbol with
      | letter d => exact ih (label ++ [d]) hs
      | separator =>
        obtain ⟨l, hl, hm⟩ := ih [] hs
        exact ⟨l, .tail _ hl, hm⟩

theorem Leftover.symbols_eq {rest : List Char} {symbols : List Symbol} (h : Leftover rest)
    (hs : Spells rest symbols) : symbols = [] := by
  cases hs with
  | leftover => rfl
  | plain hd hb _ =>
    cases h with
    | backslash => exact absurd rfl hb
    | one => exact absurd rfl hb
    | two => exact absurd rfl hb
  | separator _ => cases h
  | escaped hc _ =>
    cases h with
    | one ha => exact absurd ha.isNumeric hc
    | two ha _ => exact absurd ha.isNumeric hc
  | octal _ _ _ _ => cases h

theorem spells_dot_iff {text : List Char} {symbols : List Symbol} :
    Spells ('.' :: text) symbols ↔ ∃ after, symbols = .separator :: after ∧ Spells text after := by
  apply Iff.intro
  · intro h
    cases h with
    | leftover h => cases h
    | plain hd _ _ => exact absurd rfl hd
    | separator h => exact ⟨_, rfl, h⟩
  · intro h
    obtain ⟨after, he, h⟩ := h
    exact he ▸ .separator h

theorem spells_plain_iff {c : Char} {text : List Char} {symbols : List Symbol} (hd : c ≠ '.')
    (hb : c ≠ '\\') :
    Spells (c :: text) symbols ↔ ∃ after, symbols = .letter c :: after ∧ Spells text after := by
  apply Iff.intro
  · intro h
    cases h with
    | leftover h =>
      cases h with
      | backslash => exact absurd rfl hb
      | one => exact absurd rfl hb
      | two => exact absurd rfl hb
    | plain _ _ h => exact ⟨_, rfl, h⟩
    | separator => exact absurd rfl hd
    | escaped => exact absurd rfl hb
    | octal => exact absurd rfl hb
  · intro h
    obtain ⟨after, he, h⟩ := h
    exact he ▸ .plain hd hb h

theorem spells_escaped_iff {c : Char} {text : List Char} {symbols : List Symbol}
    (hc : ¬Text.isNumeric c) :
    Spells ('\\' :: c :: text) symbols ↔
      ∃ after, symbols = .letter c :: after ∧ Spells text after := by
  apply Iff.intro
  · intro h
    cases h with
    | leftover h =>
      cases h with
      | one ha => exact absurd ha.isNumeric hc
      | two ha _ => exact absurd ha.isNumeric hc
    | plain _ hb _ => exact absurd rfl hb
    | escaped _ h => exact ⟨_, rfl, h⟩
    | octal ha _ _ _ => exact absurd ha.isNumeric hc
  · intro h
    obtain ⟨after, he, h⟩ := h
    exact he ▸ .escaped hc h

theorem spells_octal_iff {a b c : Char} {text : List Char} {symbols : List Symbol}
    (ha : IsOctal a) (hb : IsOctal b) (hc : IsOctal c) :
    Spells ('\\' :: a :: b :: c :: text) symbols ↔
      ∃ after, symbols =
          .letter (Char.ofNat (64 * octalValue a + 8 * octalValue b + octalValue c)) :: after ∧
        Spells text after := by
  apply Iff.intro
  · intro h
    cases h with
    | leftover h => cases h
    | plain _ hb _ => exact absurd rfl hb
    | escaped hn _ => exact absurd ha.isNumeric hn
    | octal _ _ _ h => exact ⟨_, rfl, h⟩
  · intro h
    obtain ⟨after, he, h⟩ := h
    exact he ▸ .octal ha hb hc h

theorem Spells.isOctal_first {a : Char} {text : List Char} {symbols : List Symbol}
    (h : Spells ('\\' :: a :: text) symbols) (ha : Text.isNumeric a) : IsOctal a := by
  cases h with
  | leftover h =>
    cases h with
    | one ha => exact ha
    | two ha _ => exact ha
  | plain _ hb _ => exact absurd rfl hb
  | escaped hc _ => exact absurd ha hc
  | octal ha _ _ _ => exact ha

theorem Spells.isOctal_second {a b : Char} {text : List Char} {symbols : List Symbol}
    (h : Spells ('\\' :: a :: b :: text) symbols) (ha : Text.isNumeric a) : IsOctal b := by
  cases h with
  | leftover h =>
    cases h with
    | two _ hb => exact hb
  | plain _ hb _ => exact absurd rfl hb
  | escaped hc _ => exact absurd ha hc
  | octal _ hb _ _ => exact hb

theorem Spells.isOctal_third {a b c : Char} {text : List Char} {symbols : List Symbol}
    (h : Spells ('\\' :: a :: b :: c :: text) symbols) (ha : Text.isNumeric a) : IsOctal c := by
  cases h with
  | leftover h => cases h
  | plain _ hb _ => exact absurd rfl hb
  | escaped hc _ => exact absurd ha hc
  | octal _ _ hc _ => exact hc

def IsHostChar (c : Char) : Prop :=
  IsLabelChar c ∨ c = '\\'

instance (c : Char) : Decidable (IsHostChar c) :=
  inferInstanceAs (Decidable (_ ∨ _))

theorem IsHostChar.toNat_lt {c : Char} (h : IsHostChar c) : c.toNat < 128 := by
  rcases h with h | rfl
  · exact h.toNat_lt
  · decide

theorem isHostChar_of_isDigit {c : Char} (h : c.isDigit) : IsHostChar c :=
  .inl (.inl (Text.isAlphanum_of_isDigit h))

theorem IsOctal.isLabelChar {c : Char} (h : IsOctal c) : IsLabelChar c :=
  .inl (Text.isAlphanum_of_isDigit h.isDigit)

/-- Escapes bring no character into a text but backslashes, octal digits and what they stand for. -/
theorem Spells.isHostChar {text : List Char} {symbols : List Symbol} (h : Spells text symbols)
    (hs : ∀ c, .letter c ∈ symbols → IsLabelChar c) : ∀ c ∈ text, IsHostChar c := by
  have hb : IsHostChar '\\' := .inr rfl
  have ho {c : Char} (hc : IsOctal c) : IsHostChar c := .inl hc.isLabelChar
  induction h with
  | leftover h =>
    cases h with
    | nil => exact nofun
    | backslash => simpa using hb
    | one ha => simpa using ⟨hb, ho ha⟩
    | two ha hb' => simpa using ⟨hb, ho ha, ho hb'⟩
  | plain _ _ _ ih =>
    have hc := hs _ (.head _)
    exact List.forall_mem_cons.mpr ⟨.inl hc, ih fun c hm => hs c (.tail _ hm)⟩
  | separator _ ih =>
    have hd : IsHostChar '.' := by decide
    exact List.forall_mem_cons.mpr ⟨hd, ih fun c hm => hs c (.tail _ hm)⟩
  | escaped _ _ ih =>
    have hc := hs _ (.head _)
    simp only [List.forall_mem_cons]
    exact ⟨hb, .inl hc, ih fun c hm => hs c (.tail _ hm)⟩
  | octal ha hb' hc _ ih =>
    simp only [List.forall_mem_cons]
    exact ⟨hb, ho ha, ho hb', ho hc, ih fun c hm => hs c (.tail _ hm)⟩

theorem Names.isHostChar {text : List Char} {labels : List Label} (h : Names text labels) :
    ∀ c ∈ text, IsHostChar c := by
  obtain ⟨symbols, hs, he⟩ := h.spelled
  apply hs.isHostChar
  intro c hc
  obtain ⟨label, hl, hm⟩ := mem_labelsFrom_of_letter [] hc
  exact (h.fits.isLabel label (he ▸ hl)).form.isLabelChar c hm

theorem Names.text_ne_nil {text : List Char} {labels : List Label} (h : Names text labels) :
    text ≠ [] := by
  intro ht
  obtain ⟨symbols, hs, he⟩ := h.spelled
  rw [ht] at hs
  rw [Leftover.nil.symbols_eq hs] at he
  exact h.ne_nil he

end HostName
end Locator.Net
