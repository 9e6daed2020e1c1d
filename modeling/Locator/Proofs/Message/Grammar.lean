import Locator.Message.Request
import Locator.Message.Response
import Locator.Proofs.Wire.Scanning

namespace Locator

open Wire

theorem ite_eq_other {α : Type} [DecidableEq α] (x d : α) : (if x = d then d else x) = x :=
  ite_eq_right_iff.mpr Eq.symm

namespace Request

def Field.serviceName? : Field → Option String
  | serviceName s => some s
  | _ => none

def Field.scope? : Field → Option String
  | scope s => some s
  | _ => none

def Field.maxCount? : Field → Option Int32
  | maxCount n => some n
  | _ => none

def grammar : Grammar Field where
  content?
    | 1 => some (textForm .serviceName)
    | 2 => some (textForm .scope)
    | 3 => some (int32Form .maxCount)
    | _ => none

/-- Each field as it occurs last, or its default. -/
def ofLast (fields : List Field) : Request where
  serviceName := (fields.filterMap Field.serviceName?).getLastD ""
  scope := (fields.filterMap Field.scope?).getLastD ""
  maxCount := (fields.filterMap Field.maxCount?).getLastD 0

theorem foldl_put (r : Request) (fields : List Field) :
    fields.foldl put r =
      ⟨(fields.filterMap Field.serviceName?).getLastD r.serviceName,
        (fields.filterMap Field.scope?).getLastD r.scope,
        (fields.filterMap Field.maxCount?).getLastD r.maxCount⟩ := by
  induction fields generalizing r with
  | nil => rfl
  | cons x fields ih =>
    rw [List.foldl_cons, ih]
    cases x <;> simp only [put, List.filterMap_cons, Field.serviceName?, Field.scope?,
      Field.maxCount?, List.getLastD_cons]

theorem layout_reads : layout.Reads grammar := by
  intro tag
  match tag with
  | 0 => exact .inl ⟨rfl, rfl⟩
  | 1 => exact .inr ⟨_, _, _, rfl, rfl, textReader_reads _⟩
  | 2 => exact .inr ⟨_, _, _, rfl, rfl, textReader_reads _⟩
  | 3 => exact .inr ⟨_, _, _, rfl, rfl, int32Reader_reads _⟩
  | _ + 4 => exact .inl ⟨rfl, rfl⟩

/-- Each scalar that is not its default takes the place of the earlier one. -/
def overlay (r₁ r₂ : Request) : Request where
  serviceName := if r₂.serviceName = "" then r₁.serviceName else r₂.serviceName
  scope := if r₂.scope = "" then r₁.scope else r₂.scope
  maxCount := if r₂.maxCount = 0 then r₁.maxCount else r₂.maxCount

theorem foldl_put_fields (r₁ r₂ : Request) : r₂.fields.foldl put r₁ = r₁.overlay r₂ := by
  unfold fields overlay
  split <;> split <;> split <;> rfl

theorem overlay_default (r : Request) : overlay default r = r := by
  cases r
  simp only [overlay, mk.injEq]
  exact ⟨ite_eq_other _ _, ite_eq_other _ _, ite_eq_other _ _⟩

end Request

namespace Entry

def Field.scope? : Field → Option String
  | scope s => some s
  | _ => none

def Field.serviceName? : Field → Option String
  | serviceName s => some s
  | _ => none

def Field.hostName? : Field → Option String
  | hostName s => some s
  | _ => none

def Field.port? : Field → Option Int32
  | port n => some n
  | _ => none

def grammar : Grammar Field where
  content?
    | 1 => some (textForm .scope)
    | 2 => some (textForm .serviceName)
    | 3 => some (textForm .hostName)
    | 4 => some (int32Form .port)
    | _ => none

def ofLast (fields : List Field) : Entry where
  scope := (fields.filterMap Field.scope?).getLastD ""
  serviceName := (fields.filterMap Field.serviceName?).getLastD ""
  hostName := (fields.filterMap Field.hostName?).getLastD ""
  port := (fields.filterMap Field.port?).getLastD 0

theorem foldl_put (e : Entry) (fields : List Field) :
    fields.foldl put e =
      ⟨(fields.filterMap Field.scope?).getLastD e.scope,
        (fields.filterMap Field.serviceName?).getLastD e.serviceName,
        (fields.filterMap Field.hostName?).getLastD e.hostName,
        (fields.filterMap Field.port?).getLastD e.port⟩ := by
  induction fields generalizing e with
  | nil => rfl
  | cons x fields ih =>
    rw [List.foldl_cons, ih]
    cases x <;> simp only [put, List.filterMap_cons, Field.scope?, Field.serviceName?,
      Field.hostName?, Field.port?, List.getLastD_cons]

theorem ofFields_eq_ofLast (fields : List Field) : ofFields fields = ofLast fields :=
  foldl_put default fields

theorem layout_reads : layout.Reads grammar := by
  intro tag
  match tag with
  | 0 => exact .inl ⟨rfl, rfl⟩
  | 1 => exact .inr ⟨_, _, _, rfl, rfl, textReader_reads _⟩
  | 2 => exact .inr ⟨_, _, _, rfl, rfl, textReader_reads _⟩
  | 3 => exact .inr ⟨_, _, _, rfl, rfl, textReader_reads _⟩
  | 4 => exact .inr ⟨_, _, _, rfl, rfl, int32Reader_reads _⟩
  | _ + 5 => exact .inl ⟨rfl, rfl⟩

def overlay (e₁ e₂ : Entry) : Entry where
  scope := if e₂.scope = "" then e₁.scope else e₂.scope
  serviceName := if e₂.serviceName = "" then e₁.serviceName else e₂.serviceName
  hostName := if e₂.hostName = "" then e₁.hostName else e₂.hostName
  port := if e₂.port = 0 then e₁.port else e₂.port

theorem foldl_put_fields (e₁ e₂ : Entry) : e₂.fields.foldl put e₁ = e₁.overlay e₂ := by
  unfold fields overlay
  split <;> split <;> split <;> split <;> rfl

theorem overlay_default (e : Entry) : overlay default e = e := by
  cases e
  simp only [overlay, mk.injEq]
  exact ⟨ite_eq_other _ _, ite_eq_other _ _, ite_eq_other _ _, ite_eq_other _ _⟩

end Entry

namespace Response

def grammar : Grammar Entry where
  content?
    | 1 => some (nestedForm Entry.grammar Entry.ofLast)
    | _ => none

theorem layout_reads : layout.Reads grammar := by
  intro tag
  match tag with
  | 0 => exact .inl ⟨rfl, rfl⟩
  | 1 =>
    have hr := messageReader_reads Entry.layout_reads Entry.ofFields
    have hf : Entry.ofFields = Entry.ofLast := funext Entry.ofFields_eq_ofLast
    exact .inr ⟨_, _, _, rfl, rfl, fun _ _ _ _ _ => hf ▸ hr ..⟩
  | _ + 2 => exact .inl ⟨rfl, rfl⟩

end Response

def Response.overlay (r₁ r₂ : Response) : Response :=
  ⟨r₁.entries ++ r₂.entries⟩

end Locator
