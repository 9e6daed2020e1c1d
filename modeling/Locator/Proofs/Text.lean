namespace Locator.Text

theorem isDigit_iff {c : Char} : c.isDigit ↔ 48 ≤ c.toNat ∧ c.toNat ≤ 57 := by
  have hd : c.isDigit = (decide (c.val ≥ 48) && decide (c.val ≤ 57)) := rfl
  rw [hd]
  simp only [Bool.and_eq_true, decide_eq_true_eq, UInt32.le_iff_toNat_le, ge_iff_le]
  exact Iff.rfl

theorem isAlphanum_iff {c : Char} : c.isAlphanum ↔
    ((65 ≤ c.toNat ∧ c.toNat ≤ 90) ∨ 97 ≤ c.toNat ∧ c.toNat ≤ 122) ∨
      48 ≤ c.toNat ∧ c.toNat ≤ 57 := by
  have ha : c.isAlphanum = (decide (c.val ≥ 65 ∧ c.val ≤ 90) ||
      (decide (c.val ≥ 97) && decide (c.val ≤ 122)) || c.isDigit) := rfl
  rw [ha]
  simp only [Bool.or_eq_true, isDigit_iff, Bool.and_eq_true, decide_eq_true_eq,
    UInt32.le_iff_toNat_le, ge_iff_le]
  exact Iff.rfl

theorem isAlphanum_of_isDigit {c : Char} (h : c.isDigit) : c.isAlphanum :=
  isAlphanum_iff.mpr (.inr (isDigit_iff.mp h))

/-- Digits behind a number that is not zero are the last digits of what they write together. -/
theorem toDigits_foldl {b n : Nat} (hb : 1 < b) (hn : 0 < n) {digits : List Nat}
    (h : ∀ d ∈ digits, d < b) :
    Nat.toDigits b (digits.foldl (fun n d => b * n + d) n) =
      Nat.toDigits b n ++ digits.map Nat.digitChar := by
  induction digits generalizing n with
  | nil => rw [List.foldl_nil, List.map_nil, List.append_nil]
  | cons d digits ih =>
    obtain ⟨hd, hr⟩ := List.forall_mem_cons.mp h
    have hp : 0 < b * n + d :=
      Nat.add_pos_left (Nat.mul_pos (Nat.lt_of_succ_lt hb) hn) d
    have hs := Nat.toDigits_append_toDigits hb hn hd
    rw [Nat.toDigits_of_lt_base hd] at hs
    rw [List.foldl_cons, ih hp hr, ← hs, List.append_assoc, List.singleton_append, List.map_cons]

theorem forall_ascii {P : Char → Prop} (h : ∀ n < 128, P (Char.ofNat n)) {c : Char}
    (hc : c.toNat < 128) : P c :=
  c.ofNat_toNat ▸ h c.toNat hc

theorem mem_intercalate {separator c : Char} {fields : List (List Char)}
    (h : c ∈ [separator].intercalate fields) : c = separator ∨ ∃ field ∈ fields, c ∈ field := by
  induction fields with
  | nil => cases h
  | cons field fields ih =>
    by_cases he : fields = []
    · rw [he, List.intercalate_singleton] at h
      exact .inr ⟨field, .head _, h⟩
    · rw [List.intercalate_cons_of_ne_nil he, List.append_assoc] at h
      rcases List.mem_append.mp h with hf | hr
      · exact .inr ⟨field, .head _, hf⟩
      · rcases List.mem_cons.mp hr with hs | hj
        · exact .inl hs
        · rcases ih hj with hs | ⟨field', hm, hc⟩
          · exact .inl hs
          · exact .inr ⟨field', .tail _ hm, hc⟩

def splitLast? (separator : Char) : List Char → Option (List Char × List Char)
  | [] => none
  | c :: text =>
    match splitLast? separator text with
    | some (before, after) => some (c :: before, after)
    | none => if c = separator then some ([], text) else none

theorem splitLast_of_not_mem {separator : Char} {text : List Char} (h : separator ∉ text) :
    splitLast? separator text = none := by
  induction text with
  | nil => rfl
  | cons c text ih =>
    obtain ⟨hc, ht⟩ := not_or.mp (mt List.mem_cons.mpr h)
    rw [splitLast?, ih ht]
    exact if_neg (Ne.symm hc)

theorem splitLast_append {separator : Char} {after : List Char} (h : separator ∉ after)
    (before : List Char) :
    splitLast? separator (before ++ separator :: after) = some (before, after) := by
  induction before with
  | nil =>
    rw [List.nil_append, splitLast?, splitLast_of_not_mem h]
    exact if_pos rfl
  | cons c before ih => rw [List.cons_append, splitLast?, ih]

end Locator.Text
