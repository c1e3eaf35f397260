import Mathlib.Data.List.Basic

/-!
# Deterministic machines driven by events

A machine is what a state becomes under an event, and which events the environment may send in a
state. A run is a list of events; everything an environment is free to choose (the answers of the
calls a step makes) is part of the event, so a property of every run is a property of every list.
`AllSteps` says that a condition on the state before the step and on the event holds all along a
run, and `AllSteps.always` is the rule of induction: an invariant that the steps meeting the
condition preserve holds in every state such a run passes through.
-/

namespace NmGpclient

/-- A deterministic machine over the states `σ` and the events `ι`. -/
structure Machine (σ ι : Type*) where
  enabled : σ → ι → Prop
  step : σ → ι → σ

namespace Machine

variable {σ ι : Type*} (M : Machine σ ι)

/-- The state after the events of a run. -/
def run (s : σ) (es : List ι) : σ := es.foldl M.step s

/-- `P` holds at every step of a run: of the state before the step and of its event. -/
def AllSteps (P : σ → ι → Prop) : σ → List ι → Prop
  | _, [] => True
  | s, e :: es => P s e ∧ AllSteps P (M.step s e) es

instance decidableAllSteps {P : σ → ι → Prop} [∀ s e, Decidable (P s e)] :
    ∀ (s : σ) (es : List ι), Decidable (M.AllSteps P s es)
  | _, [] => .isTrue trivial
  | s, e :: es => @instDecidableAnd _ _ _ (decidableAllSteps (M.step s e) es)

/-- Every event of the run is one the environment may send. -/
def Valid : σ → List ι → Prop := M.AllSteps M.enabled

instance [∀ s e, Decidable (M.enabled s e)] (s : σ) (es : List ι) : Decidable (M.Valid s es) :=
  inferInstanceAs (Decidable (M.AllSteps M.enabled s es))

@[simp] theorem run_nil (s : σ) : M.run s [] = s := rfl

@[simp] theorem run_cons (s : σ) (e : ι) (es : List ι) :
    M.run s (e :: es) = M.run (M.step s e) es := rfl

theorem run_append (s : σ) (es es' : List ι) :
    M.run s (es ++ es') = M.run (M.run s es) es' := List.foldl_append

@[simp] theorem allSteps_nil (P : σ → ι → Prop) (s : σ) : M.AllSteps P s [] := trivial

@[simp] theorem allSteps_cons (P : σ → ι → Prop) (s : σ) (e : ι) (es : List ι) :
    M.AllSteps P s (e :: es) ↔ P s e ∧ M.AllSteps P (M.step s e) es := Iff.rfl

/-- A condition holds along a run in two parts when it holds along each part. -/
theorem allSteps_append {P : σ → ι → Prop} : ∀ {s : σ} {es es' : List ι},
    M.AllSteps P s (es ++ es') ↔ M.AllSteps P s es ∧ M.AllSteps P (M.run s es) es'
  | _, [], _ => by simp
  | s, e :: es, es' => by
      rw [List.cons_append, allSteps_cons, allSteps_cons, run_cons, allSteps_append, and_assoc]

theorem valid_append {s : σ} {es es' : List ι} :
    M.Valid s (es ++ es') ↔ M.Valid s es ∧ M.Valid (M.run s es) es' := M.allSteps_append

/-- `I` holds in every state a run passes through, its first and its last included. -/
def Always (I : σ → Prop) (s : σ) (es : List ι) : Prop :=
  I s ∧ M.AllSteps (fun s e => I (M.step s e)) s es

variable {M}

/-- Two conditions hold along a run when their conjunction does. -/
theorem AllSteps.and {P Q : σ → ι → Prop} : ∀ {s : σ} {es : List ι},
    M.AllSteps P s es → M.AllSteps Q s es → M.AllSteps (fun s e => P s e ∧ Q s e) s es
  | _, [], _, _ => trivial
  | _, _ :: _, hp, hq => ⟨⟨hp.1, hq.1⟩, AllSteps.and hp.2 hq.2⟩

/-- A step that meets `P` in a state with the invariant meets `Q`: what holds along a run whose
invariant is known is strengthened step by step. -/
theorem AllSteps.mono_of_invariant {P Q : σ → ι → Prop} {I : σ → Prop}
    (hQ : ∀ s e, I s → P s e → Q s e) (hI : ∀ s e, I s → P s e → I (M.step s e)) :
    ∀ {s : σ} {es : List ι}, I s → M.AllSteps P s es → M.AllSteps Q s es
  | _, [], _, _ => trivial
  | s, e :: _, hs, h =>
      ⟨hQ s e hs h.1, AllSteps.mono_of_invariant hQ hI (hI s e hs h.1) h.2⟩

theorem AllSteps.mono {P Q : σ → ι → Prop} (hQ : ∀ s e, P s e → Q s e) {s : σ} {es : List ι}
    (h : M.AllSteps P s es) : M.AllSteps Q s es :=
  AllSteps.mono_of_invariant (I := fun _ => True) (fun s e _ => hQ s e) (fun _ _ _ _ => trivial)
    trivial h

theorem Always.mono {I J : σ → Prop} (hIJ : ∀ s, I s → J s) {s : σ} {es : List ι}
    (h : M.Always I s es) : M.Always J s es :=
  ⟨hIJ s h.1, h.2.mono fun _ _ => hIJ _⟩

/-- An invariant that every step meeting `P` preserves holds all along such a run. -/
theorem AllSteps.always {P : σ → ι → Prop} {I : σ → Prop}
    (hI : ∀ s e, I s → P s e → I (M.step s e)) {s : σ} {es : List ι} (hs : I s)
    (h : M.AllSteps P s es) : M.Always I s es :=
  ⟨hs, AllSteps.mono_of_invariant hI hI hs h⟩

/-- What every step preserves, a run preserves. -/
theorem run_invariant {I : σ → Prop} (h : ∀ s e, I s → I (M.step s e)) {s : σ} (hs : I s)
    (es : List ι) : I (M.run s es) := by
  induction es generalizing s with
  | nil => exact hs
  | cons e es ih => exact ih (h s e hs)

/-- What holds after a run held before it, or an event of the run brought it about. -/
theorem exists_cause {A : σ → Prop} {Q : ι → Prop} (h : ∀ s e, A (M.step s e) → A s ∨ Q e) :
    ∀ {s : σ} {es : List ι}, A (M.run s es) → A s ∨ ∃ e ∈ es, Q e
  | _, [], hrun => .inl hrun
  | s, e :: es, hrun => by
      have hrest : A (M.run (M.step s e) es) := hrun
      rcases exists_cause h hrest with hstep | ⟨e', he', hQ⟩
      · exact (h s e hstep).imp_right fun hQ => ⟨e, List.mem_cons_self, hQ⟩
      · exact .inr ⟨e', List.mem_cons_of_mem e he', hQ⟩

/-- Where a step from a state with the invariant keeps it exactly when it meets `C`, the invariant
holds all along a run exactly when every step meets `C`. -/
theorem AllSteps.always_iff {P C : σ → ι → Prop} {I : σ → Prop}
    (hI : ∀ s e, I s → P s e → (I (M.step s e) ↔ C s e)) {s : σ} {es : List ι} (hs : I s)
    (hP : M.AllSteps P s es) : M.Always I s es ↔ M.AllSteps C s es := by
  induction es generalizing s with
  | nil => exact ⟨fun _ => trivial, fun _ => ⟨hs, trivial⟩⟩
  | cons e es ih =>
    have hstep := hI s e hs hP.1
    constructor
    · rintro ⟨-, hs', hrest⟩
      exact ⟨hstep.1 hs', (ih hs' hP.2).1 ⟨hs', hrest⟩⟩
    · rintro ⟨hc, hrest⟩
      have hs' := hstep.2 hc
      exact ⟨hs, hs', ((ih hs' hP.2).2 hrest).2⟩

/-- Where, in a state with the invariant, the steps that meet `C` are those that do `Q`, and they
keep the invariant, the steps of a run meet `C` exactly when the invariant holds all along it and
every step does `Q`. -/
theorem AllSteps.iff_always {C Q : σ → ι → Prop} {I : σ → Prop}
    (hC : ∀ s e, I s → C s e → I (M.step s e)) (hQ : ∀ s e, I s → (C s e ↔ Q s e)) {s : σ}
    {es : List ι} (hs : I s) : M.AllSteps C s es ↔ M.Always I s es ∧ M.AllSteps Q s es := by
  constructor
  · intro h
    exact ⟨h.always hC hs, AllSteps.mono_of_invariant (fun s e hI => (hQ s e hI).1) hC hs h⟩
  · rintro ⟨halways, h⟩
    have hboth := halways.2.and h
    exact AllSteps.mono_of_invariant (fun s e hI h => (hQ s e hI).2 h.2) (fun s e _ h => h.1) hs
      hboth

end Machine

end NmGpclient
