import Mathlib.Data.Fin.VecNotation
import Mathlib.Data.List.OfFn
import Mathlib.Logic.Equiv.Basic
import Locator.Provisioner
import Locator.Proofs.Session

namespace Locator

def Outcome.seen {P ρ : Type} (o : Outcome P ρ) : Outcome Unit ρ :=
  ⟨o.result, o.events, o.received, ()⟩

namespace ChannelProvider

variable {P C : Type} [ChannelProvider P C]

/-- Two providers that answer alike whenever they are asked for a channel. -/
def Alike (p p' : P) : Prop :=
  ∀ (conditions : C) (connection : Connection),
    (provide p conditions connection).channel = (provide p' conditions connection).channel ∧
      (provide p conditions connection).events = (provide p' conditions connection).events

theorem Alike.refl (p : P) : Alike p p :=
  fun _ _ => ⟨rfl, rfl⟩

theorem Alike.trans {p p' p'' : P} (h : Alike p p') (h' : Alike p' p'') : Alike p p'' := by
  intro conditions connection
  obtain ⟨hc, he⟩ := h conditions connection
  obtain ⟨hc', he'⟩ := h' conditions connection
  exact ⟨hc.trans hc', he.trans he'⟩

/-- What a provider is asked does not change how it answers later. -/
def Steady (P : Type) {C : Type} [ChannelProvider P C] : Prop :=
  ∀ (p : P) (conditions : C) (connection : Connection),
    Alike (provide p conditions connection).provider p

theorem Steady.counted (h : Steady P) : Steady (Counted P) :=
  fun p conditions connection => h p.inner conditions connection

end ChannelProvider

theorem FixedProvider.steady : ChannelProvider.Steady FixedProvider :=
  fun _ _ _ _ _ => ⟨rfl, rfl⟩

theorem Provisioner.steady : ChannelProvider.Steady Provisioner :=
  fun p _ _ => .refl p

namespace Discovery

open ChannelProvider (Alike Steady)

variable {P C : Type} [ChannelProvider P C]

def session (d : Discovery P) (backend : Backend) (calls : List (Call × C)) :
    List (Outcome P StepResult) :=
  d.run backend (calls.map (Prod.map Call.step id))

def recorded (outcomes : List (Outcome P StepResult)) : List Received :=
  outcomes.flatMap Outcome.received

theorem session_cons (d : Discovery P) (backend : Backend) (call : Call × C)
    (calls : List (Call × C)) :
    d.session backend (call :: calls) =
      d.step call.2 backend call.1.step ::
        session { d with provider := (d.provided call.2).provider } backend calls := by
  have hp : (d.step call.2 backend call.1.step).provider = (d.provided call.2).provider := by
    rw [step_call]
    exact provider_discover d call.2 backend _ _
  rw [← hp]
  rfl

theorem seen_discover {d : Discovery P} {p : P} (h : Alike p d.provider) (conditions : C)
    (backend : Backend) (mode : Mode) (q : Query) :
    (discover { d with provider := p } conditions backend mode q).seen =
      (d.discover conditions backend mode q).seen := by
  obtain ⟨hp, he⟩ : (provided { d with provider := p } conditions).channel =
      (d.provided conditions).channel ∧
      (provided { d with provider := p } conditions).events = (d.provided conditions).events :=
    h conditions d.connection
  cases hc : (d.provided conditions).channel with
  | error error =>
    rw [discover_of_error hc, discover_of_error (hp.trans hc), Outcome.seen, Outcome.seen, he]
  | ok channel =>
    cases hr : d.refusal? channel.readiness with
    | some error =>
      rw [discover_of_refusal hc hr, discover_of_refusal (hp.trans hc) hr, Outcome.seen,
        Outcome.seen, he]
    | none =>
      rw [discover_of_admitted hc hr, discover_of_admitted (hp.trans hc) hr, Outcome.seen,
        Outcome.seen, he]

theorem seen_step {d : Discovery P} {p : P} (h : Alike p d.provider) (conditions : C)
    (backend : Backend) (call : Call) :
    (step { d with provider := p } conditions backend call.step).seen =
      (d.step conditions backend call.step).seen := by
  have hd := seen_discover h conditions backend call.mode (call.asked d.defaultQuery)
  rw [step_call, step_call]
  exact congrArg (fun o => { o with result := StepResult.discovered o.result }) hd

/-- A session is seen as its calls, each made by the client as it is at first. -/
theorem seen_session (hs : Steady P) {d : Discovery P} {p : P} (h : Alike p d.provider)
    (backend : Backend) (calls : List (Call × C)) :
    (session { d with provider := p } backend calls).map Outcome.seen =
      calls.map fun call => (d.step call.2 backend call.1.step).seen := by
  -- the provider changes from call to call, but it goes on to answer like the one at first
  induction calls generalizing p with
  | nil => rfl
  | cons call calls ih =>
    rw [session_cons, List.map_cons, List.map_cons, seen_step h]
    exact congrArg _ (ih ((hs p call.2 d.connection).trans h))

theorem calls_session (d : Discovery (Counted P)) (backend : Backend) (calls : List (Call × C)) :
    (d.session backend calls).map (fun o => o.provider.calls) =
      List.range' (d.provider.calls + 1) calls.length := by
  induction calls generalizing d with
  | nil => rfl
  | cons call calls ih =>
    have hp : (d.step call.2 backend call.1.step).provider.calls = d.provider.calls + 1 := by
      rw [step_call]
      exact congrArg Counted.calls (provider_discover d call.2 backend _ _)
    rw [session_cons, List.map_cons, ih, hp, List.length_cons, List.range'_succ]
    rfl

theorem recorded_eq {n : Nat} {outcomes : List (Outcome P StepResult)}
    {seen : Fin n → Outcome Unit StepResult} (h : outcomes.map Outcome.seen = List.ofFn seen) :
    recorded outcomes = (List.ofFn fun i => (seen i).received).flatten := by
  have hr : outcomes.map Outcome.received = (outcomes.map Outcome.seen).map Outcome.received := by
    rw [List.map_map]
    rfl
  rw [recorded, List.flatMap_def, hr, h, List.map_ofFn]
  rfl

/-- Each call leads to what it leads to alone, whatever the order of the calls. -/
theorem session_reordered (hs : Steady P) (d : Discovery (Counted P)) (backend : Backend) {n : Nat}
    (calls : Fin n → Call × C) (σ : Equiv.Perm (Fin n)) :
    ∃ alone : Fin n → Outcome Unit StepResult,
      (∀ i, (d.session backend [calls i]).map Outcome.seen = [alone i]) ∧
      (d.session backend (List.ofFn calls)).map Outcome.seen = List.ofFn alone ∧
      (d.session backend (List.ofFn (calls ∘ σ))).map Outcome.seen = List.ofFn (alone ∘ σ) ∧
      recorded (d.session backend (List.ofFn calls)) =
        (List.ofFn fun i => (alone i).received).flatten ∧
      recorded (d.session backend (List.ofFn (calls ∘ σ))) =
        (List.ofFn fun i => (alone (σ i)).received).flatten ∧
      (d.session backend (List.ofFn (calls ∘ σ))).map (fun o => o.provider.calls) =
        (d.session backend (List.ofFn calls)).map (fun o => o.provider.calls) := by
  have hseen (calls : List (Call × C)) : (d.session backend calls).map Outcome.seen =
      calls.map fun call => (d.step call.2 backend call.1.step).seen :=
    seen_session hs.counted (Alike.refl d.provider) backend calls
  have hone := hseen (List.ofFn calls)
  have hother := hseen (List.ofFn (calls ∘ σ))
  rw [List.map_ofFn] at hone hother
  refine ⟨fun i => (d.step (calls i).2 backend (calls i).1.step).seen, ?_, hone, hother,
    recorded_eq hone, recorded_eq hother, ?_⟩
  · intro i
    exact hseen [calls i]
  · rw [calls_session, calls_session, List.length_ofFn, List.length_ofFn]

theorem session_reordered_malformed :
    let d : Discovery (Counted FixedProvider) :=
      ⟨⟨"h", 1, none⟩, ⟨"q", "", 1⟩, ⟨{ answer := fun _ => .ok .notChecked }, 0⟩, true⟩
    let backend : Backend := .stub { entries := [⟨"", "q", "a", 1⟩, ⟨"", "q", "", 2⟩] }
    let good : Call × Unit := (⟨.ranked, none, nofun⟩, ())
    let bad : Call × Unit :=
      (⟨.unordered, some ⟨"q", "s", 2⟩, by
        rintro q ⟨⟩
        exact Query.obtainable_iff_valid.mpr ⟨by decide, by decide, by decide⟩⟩, ())
    ∃ first second : Outcome Unit StepResult,
      (d.session backend [good]).map Outcome.seen = [first] ∧
      (d.session backend [bad]).map Outcome.seen = [second] ∧
      (d.session backend [good, bad]).map Outcome.seen = [first, second] ∧
      (d.session backend [bad, good]).map Outcome.seen = [second, first] ∧
      recorded (d.session backend [bad, good]) = second.received ++ first.received := by
  intro d backend good bad
  obtain ⟨alone, hone, hgood, hbad, -, hr, -⟩ :=
    session_reordered FixedProvider.steady d backend ![good, bad] (Equiv.swap 0 1)
  refine ⟨alone 0, alone 1, hone 0, hone 1, hgood, hbad, ?_⟩
  rw [← List.append_nil (alone 0).received]
  exact hr

end Discovery
end Locator
