import NmGpclient.Lib.Machine

/-!
# Reachability

A state is reached when a valid run leads to it. What every enabled step preserves holds of every
state that is reached (`Reaches.preserved`); that a state is reached is shown by its steps, one after
the other (`Reaches.of_change`, `Reaches.trans`).

Where the states of a machine have redundant parts, an invariant says how these follow from the rest.
A `Projection` to the machine of the rest then decides reachability: both machines have the same
valid runs, so a state of the second is reached exactly when one above it is.
-/

namespace NmGpclient

namespace Machine

variable {σ τ ι : Type*}

/-- A valid run leads from `s` to `s'`. -/
def Reaches (M : Machine σ ι) (s s' : σ) : Prop := ∃ es, M.Valid s es ∧ M.run s es = s'

namespace Reaches

variable {M : Machine σ ι} {s s' s'' : σ}

theorem refl : M.Reaches s s := ⟨[], trivial, rfl⟩

theorem trans (h : M.Reaches s s') (h' : M.Reaches s' s'') : M.Reaches s s'' := by
  obtain ⟨es, hvalid, rfl⟩ := h
  obtain ⟨es', hvalid', rfl⟩ := h'
  exact ⟨es ++ es', M.valid_append.2 ⟨hvalid, hvalid'⟩, M.run_append s es es'⟩

/-- A state is reached by one event, unless it is the state already. -/
theorem of_change (e : ι) (h : s' ≠ s → M.enabled s e ∧ M.step s e = s') : M.Reaches s s' := by
  by_cases heq : s' = s
  · rw [heq]
    exact refl
  · obtain ⟨henabled, rfl⟩ := h heq
    exact ⟨[e], ⟨henabled, trivial⟩, rfl⟩

/-- What every enabled step preserves holds of every state that is reached. -/
theorem preserved {P : σ → Prop} (hstep : ∀ s e, P s → M.enabled s e → P (M.step s e))
    (h : M.Reaches s s') (hs : P s) : P s' := by
  obtain ⟨es, hvalid, rfl⟩ := h
  induction es generalizing s with
  | nil => exact hs
  | cons e es ih => exact ih (hstep s e hs hvalid.1) hvalid.2

end Reaches

/-- The states with the invariant `I` are determined, as far as the enabled events and the steps go,
by their `view`, a state of the machine `A` of the same events. -/
structure Projection (M : Machine σ ι) (A : Machine τ ι) where
  I : σ → Prop
  view : σ → τ
  preserved : ∀ s e, I s → M.enabled s e → I (M.step s e)
  enabled_iff : ∀ s e, I s → (M.enabled s e ↔ A.enabled (view s) e)
  step_view : ∀ s e, view (M.step s e) = A.step (view s) e

namespace Projection

variable {M : Machine σ ι} {A : Machine τ ι} (p : Projection M A)

theorem run_view (s : σ) (es : List ι) : p.view (M.run s es) = A.run (p.view s) es := by
  induction es generalizing s with
  | nil => rfl
  | cons e es ih => rw [run_cons, run_cons, ih, p.step_view]

/-- Both machines have the same valid runs. -/
theorem valid_iff {s : σ} (hs : p.I s) (es : List ι) : M.Valid s es ↔ A.Valid (p.view s) es := by
  induction es generalizing s with
  | nil => exact Iff.rfl
  | cons e es ih =>
    have hfirst := p.enabled_iff s e hs
    constructor
    · rintro ⟨he, hes⟩
      refine ⟨hfirst.1 he, ?_⟩
      rw [← p.step_view]
      exact (ih (p.preserved s e hs he)).1 hes
    · rintro ⟨he, hes⟩
      rw [← p.step_view] at hes
      exact ⟨hfirst.2 he, (ih (p.preserved s e hs (hfirst.2 he))).2 hes⟩

/-- A state is reached exactly when a state above it is. -/
theorem reaches_iff {s : σ} (hs : p.I s) (t : τ) :
    A.Reaches (p.view s) t ↔ ∃ s', M.Reaches s s' ∧ p.view s' = t := by
  constructor
  · rintro ⟨es, hvalid, rfl⟩
    exact ⟨_, ⟨es, (p.valid_iff hs es).2 hvalid, rfl⟩, p.run_view s es⟩
  · rintro ⟨_, ⟨es, hvalid, rfl⟩, rfl⟩
    exact ⟨es, (p.valid_iff hs es).1 hvalid, (p.run_view s es).symm⟩

end Projection

end Machine

end NmGpclient
