import Mathlib.Data.List.Induction

/-!
# Histories

A log grows at its end. `EachAfter P l` says that every entry of the log `l` meets `P` with the
entries before it, which is how a promise about the order of what a program does is stated; to prove
it, only the entry that is appended has to be looked at.
-/

namespace NmGpclient

variable {α : Type*}

/-- Every entry of the log meets `P` with what was logged before it. -/
def EachAfter (P : List α → α → Prop) (l : List α) : Prop :=
  ∀ pre x post, l = pre ++ x :: post → P pre x

theorem eachAfter_nil (P : List α → α → Prop) : EachAfter P [] := by
  intro pre x post h
  simp at h

/-- A log with one more entry. -/
@[simp] theorem eachAfter_append_singleton {P : List α → α → Prop} {l : List α} {a : α} :
    EachAfter P (l ++ [a]) ↔ EachAfter P l ∧ P l a := by
  constructor
  · intro h
    refine ⟨fun pre x post hl => h pre x (post ++ [a]) (by simp [hl]), h l a [] rfl⟩
  · rintro ⟨hl, ha⟩ pre x post heq
    rcases List.eq_nil_or_concat post with rfl | ⟨post', y, rfl⟩
    · obtain ⟨rfl, hx⟩ := List.append_inj' heq rfl
      obtain rfl := List.singleton_inj.1 hx
      exact ha
    · have hsplit : l ++ [a] = (pre ++ x :: post') ++ [y] := by simpa using heq
      exact hl pre x post' (List.append_inj' hsplit rfl).1

/-- A log that goes on with entries that meet `P` whatever was logged before. -/
theorem EachAfter.append {P : List α → α → Prop} {l : List α} (h : EachAfter P l) :
    ∀ {l' : List α}, (∀ x ∈ l', ∀ pre, P pre x) → EachAfter P (l ++ l') := by
  intro l' hl'
  induction l' using List.reverseRecOn with
  | nil => rwa [List.append_nil]
  | append_singleton l' a ih =>
    rw [← List.append_assoc, eachAfter_append_singleton]
    exact ⟨ih fun x hx => hl' x (by simp [hx]), hl' a (by simp) _⟩

end NmGpclient
