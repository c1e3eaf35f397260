import Mathlib.Data.List.Basic

/-!
# Joined lists

Lists are joined with a separator between them. A split at the elements of the separator gives the
lists back, with an empty list between them for each further element that the separator has.
-/

namespace NmGpclient

section
variable {α : Type*} {p : α → Bool} {sep : List α}

/-- At the elements of a separator there is nothing but empty lists. -/
theorem filter_splitOnP_sep (hsep : ∀ x ∈ sep, p x = true) (l : List α) :
    ((sep ++ l).splitOnP p).filter (· ≠ []) = (l.splitOnP p).filter (· ≠ []) := by
  induction sep with
  | nil => rfl
  | cons x sep ih =>
    have hx : p x = true := hsep x List.mem_cons_self
    have hsplit := List.splitOnP_append_cons [] (sep ++ l) hx
    rw [List.nil_append, List.splitOnP_nil, List.singleton_append] at hsplit
    rw [List.cons_append, hsplit, List.filter_cons_of_neg (by simp)]
    exact ih fun y hy => hsep y (List.mem_cons_of_mem x hy)

/-- A split undoes a join of lists that are not empty and have no element of the separator. -/
theorem filter_splitOnP_intercalate (hne : sep ≠ []) (hsep : ∀ x ∈ sep, p x = true) :
    ∀ {ls : List (List α)}, (∀ l ∈ ls, l ≠ [] ∧ ∀ x ∈ l, p x = false) →
      ((sep.intercalate ls).splitOnP p).filter (· ≠ []) = ls
  | [], _ => by simp [List.intercalate_nil]
  | [l], h => by
    obtain ⟨hl, hp⟩ := h l List.mem_cons_self
    rw [List.intercalate_singleton, List.splitOnP_eq_singleton hp]
    simp [hl]
  | l :: l' :: ls, h => by
    obtain ⟨hl, hp⟩ := h l List.mem_cons_self
    have ih := filter_splitOnP_intercalate hne hsep fun m hm => h m (List.mem_cons_of_mem l hm)
    obtain ⟨x, sep, rfl⟩ := List.exists_cons_of_ne_nil hne
    have hrest : ∀ y ∈ sep, p y = true := fun y hy => hsep y (List.mem_cons_of_mem x hy)
    rw [List.intercalate_cons_cons, List.append_assoc, List.cons_append,
      List.splitOnP_append_cons_of_forall_mem hp x (hsep x List.mem_cons_self),
      List.filter_cons_of_pos (by simpa using hl), filter_splitOnP_sep hrest, ih]

end

end NmGpclient
