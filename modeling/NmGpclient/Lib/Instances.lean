import NmGpclient.Lib.Machine

/-!
# Instances of a machine that share a part of their state

Several instances of one machine run side by side: each has a state of its own, and one part of the
state is the same for all of them. A step of the interleaving is a step of one instance; the others
see what has become of the shared part, and nothing else.
-/

namespace NmGpclient

/-- A part of a state that can be read and replaced. -/
structure StatePart (σ τ : Type*) where
  get : σ → τ
  set : τ → σ → σ
  get_set : ∀ t s, get (set t s) = t

/-- The states of the instances, which agree on the part. -/
structure Instances {σ τ : Type*} (P : StatePart σ τ) (κ : Type*) where
  state : κ → σ
  shared : ∀ i j, P.get (state i) = P.get (state j)

namespace Instances

variable {σ τ κ : Type*} {P : StatePart σ τ}

/-- All instances are in the same state. -/
def const (s : σ) : Instances P κ := ⟨fun _ => s, fun _ _ => rfl⟩

/-- `R` holds between any two instances. -/
def Pairwise (R : σ → σ → Prop) (S : Instances P κ) : Prop :=
  ∀ i j, i ≠ j → R (S.state i) (S.state j)

variable [DecidableEq κ]

/-- The instance `i` is in the state `s`, and the others share its part. -/
def replace (S : Instances P κ) (i : κ) (s : σ) : Instances P κ where
  state j := if j = i then s else P.set (P.get s) (S.state j)
  shared j k := by
    have hget : ∀ j, P.get (if j = i then s else P.set (P.get s) (S.state j)) = P.get s := by
      intro j
      split
      · rfl
      · exact P.get_set _ _
    rw [hget j, hget k]

@[simp] theorem state_replace_self (S : Instances P κ) (i : κ) (s : σ) :
    (S.replace i s).state i = s := if_pos rfl

theorem state_replace_of_ne (S : Instances P κ) {i j : κ} (s : σ) (h : j ≠ i) :
    (S.replace i s).state j = P.set (P.get s) (S.state j) := if_neg h

/-- A symmetric relation that does not see the shared part holds between any two instances once
again when it holds between the replaced one and the others. -/
theorem Pairwise.replace {R : σ → σ → Prop} {S : Instances P κ} {i : κ} {s : σ} (h : S.Pairwise R)
    (hsymm : ∀ s s', R s s' → R s' s) (hset : ∀ t s s', R s s' → R s (P.set t s'))
    (hself : ∀ j, j ≠ i → R s (S.state j)) : (S.replace i s).Pairwise R := by
  intro j k hne
  by_cases hj : j = i
  · subst hj
    rw [state_replace_self, state_replace_of_ne S s (Ne.symm hne)]
    exact hset _ _ _ (hself k (Ne.symm hne))
  · rw [state_replace_of_ne S s hj]
    by_cases hk : k = i
    · subst hk
      rw [state_replace_self]
      exact hsymm _ _ (hset _ _ _ (hself j hj))
    · rw [state_replace_of_ne S s hk]
      exact hset _ _ _ (hsymm _ _ (hset _ _ _ (hsymm _ _ (h j k hne))))

end Instances

/-- The interleavings of the instances: an event is one of an instance. -/
def Machine.instances {σ τ ε : Type*} (M : Machine σ ε) (P : StatePart σ τ) (κ : Type*)
    [DecidableEq κ] : Machine (Instances P κ) (κ × ε) where
  enabled S e := M.enabled (S.state e.1) e.2
  step S e := S.replace e.1 (M.step (S.state e.1) e.2)

end NmGpclient
