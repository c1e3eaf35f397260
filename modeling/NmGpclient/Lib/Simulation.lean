import NmGpclient.Lib.Machine

/-!
# Simulation of machines

A machine refines a more abstract one when each of its steps is explained by events of the abstract
machine: `R` says which abstract states a state stands for, and `label` which abstract events, none
or several, an event is in a state. `Simulation.run` carries this along a run, so that whatever is
proved of the runs of the abstract machine holds of the concrete one. What a machine shows is a list
per step; the lists along a run are its `outputs`, and where each step shows what the abstract events
show, so do the runs.

Where each event is explained by itself, the two machines run in lockstep, over the same events
(`outputs_singleton`).
-/

namespace NmGpclient

namespace Machine

variable {σ τ ι κ ω : Type*}

/-- What a run shows, when a step shows `out` of the state before it and of its event. -/
def outputs (M : Machine σ ι) (out : σ → ι → List ω) : σ → List ι → List ω
  | _, [] => []
  | s, e :: es => out s e ++ outputs M out (M.step s e) es

section
variable (M : Machine σ ι) (out : σ → ι → List ω)

@[simp] theorem outputs_nil (s : σ) : M.outputs out s [] = [] := rfl

@[simp] theorem outputs_cons (s : σ) (e : ι) (es : List ι) :
    M.outputs out s (e :: es) = out s e ++ M.outputs out (M.step s e) es := rfl

theorem outputs_append (s : σ) (es es' : List ι) :
    M.outputs out s (es ++ es') = M.outputs out s es ++ M.outputs out (M.run s es) es' := by
  induction es generalizing s with
  | nil => rfl
  | cons e es ih =>
    rw [List.cons_append, outputs_cons, outputs_cons, ih, run_cons, List.append_assoc]

theorem outputs_singleton (s : σ) (es : List ι) : M.outputs (fun _ e => [e]) s es = es := by
  induction es generalizing s with
  | nil => rfl
  | cons e es ih => rw [outputs_cons, ih, List.singleton_append]

end

/-- `M` refines `A` in the steps that meet `C`: from related states, an event of `M` is a valid run
of `A`, to related states. -/
structure Simulation (M : Machine σ ι) (A : Machine τ κ) (C : σ → ι → Prop) where
  R : σ → τ → Prop
  label : σ → ι → List κ
  valid : ∀ s t e, R s t → C s e → A.Valid t (label s e)
  step : ∀ s t e, R s t → C s e → R (M.step s e) (A.run t (label s e))

namespace Simulation

variable {M : Machine σ ι} {A : Machine τ κ} {C : σ → ι → Prop} (S : Simulation M A C)

/-- A run of the concrete machine is a valid run of the abstract one. -/
theorem run {s : σ} {t : τ} {es : List ι} (hR : S.R s t) (h : M.AllSteps C s es) :
    A.Valid t (M.outputs S.label s es) ∧ S.R (M.run s es) (A.run t (M.outputs S.label s es)) := by
  induction es generalizing s t with
  | nil => exact ⟨trivial, hR⟩
  | cons e es ih =>
    have hvalid := S.valid s t e hR h.1
    obtain ⟨hrest, hend⟩ := ih (S.step s t e hR h.1) h.2
    rw [outputs_cons, A.valid_append, A.run_append]
    exact ⟨⟨hvalid, hrest⟩, hend⟩

/-- Where every step shows what its abstract events show, a run shows what its abstract run does. -/
theorem outputs {out : σ → ι → List ω} {out' : τ → κ → List ω}
    (hout : ∀ s t e, S.R s t → C s e → out s e = A.outputs out' t (S.label s e)) {s : σ} {t : τ}
    {es : List ι} (hR : S.R s t) (h : M.AllSteps C s es) :
    M.outputs out s es = A.outputs out' t (M.outputs S.label s es) := by
  induction es generalizing s t with
  | nil => rfl
  | cons e es ih =>
    rw [outputs_cons, outputs_cons, outputs_append, hout s t e hR h.1,
      ih (S.step s t e hR h.1) h.2]

end Simulation

end Machine

end NmGpclient
