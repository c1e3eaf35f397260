import Mathlib.Data.List.Basic

/-!
# Filtering a vector in place

A vector of pointers ends with a null pointer. A loop filters it in place with two indices: one goes
over the vector, the other one says where the next element that is kept goes; what is not kept, or
has moved, is set to null. `filtering` is the vector between two turns of the loop: the elements that
were kept, a null pointer for each one that was not, and the rest as it was. So the element that the
loop reads next is the next one of the rest, and the null pointers that it writes are behind it.
-/

namespace NmGpclient

section
variable {α : Type*} (keep : α → Bool)

/-- The vector after the elements `done`, with `rest` to come. -/
def filtering (done rest : List α) : List (Option α) :=
  (done.filter keep).map some ++ List.replicate (done.filter fun x => !keep x).length none ++
    (rest.map some ++ [none])

theorem length_filter_add_not (l : List α) :
    (l.filter keep).length + (l.filter fun x => !keep x).length = l.length :=
  (List.length_eq_length_filter_add keep).symm

theorem length_filtering (done rest : List α) :
    (filtering keep done rest).length = done.length + rest.length + 1 := by
  have hdone := length_filter_add_not keep done
  unfold filtering
  simp only [List.length_append, List.length_map, List.length_replicate, List.length_singleton]
  omega

/-- What is kept and the null pointers after it are as long as what is done. -/
theorem length_front (done : List α) : ((done.filter keep).map some ++
    List.replicate (done.filter fun x => !keep x).length none).length = done.length := by
  rw [List.length_append, List.length_map, List.length_replicate, length_filter_add_not]

theorem getElem?_filtering (done rest : List α) :
    (filtering keep done rest)[done.length]? = (rest.map some ++ [none])[0]? := by
  have hlength := length_front keep done
  unfold filtering
  rw [List.getElem?_append_right (Nat.le_of_eq hlength), hlength, Nat.sub_self]

/-- The element that is read next. -/
theorem filtering_next (done rest : List α) (x : α) :
    (filtering keep done (x :: rest))[done.length]? = some (some x) := by
  rw [getElem?_filtering]
  rfl

/-- The terminator is read once the rest is. -/
theorem filtering_end (done : List α) : (filtering keep done [])[done.length]? = some none := by
  rw [getElem?_filtering]
  rfl

/-- An element that moves to the first of the null pointers leaves one behind. -/
theorem move_to_front (kept rest : List (Option α)) (k : Nat) (x : α) :
    ((kept ++ List.replicate (k + 1) none ++ some x :: rest).set kept.length (some x)).set
      (kept.length + (k + 1)) none = kept ++ [some x] ++ List.replicate (k + 1) none ++ rest := by
  have hmoved : (kept ++ List.replicate (k + 1) none ++ some x :: rest).set kept.length (some x) =
      (kept ++ some x :: List.replicate k none) ++ some x :: rest := by
    rw [List.append_assoc, List.set_append_right _ _ (Nat.le_refl _), Nat.sub_self, List.replicate_succ]
    simp
  have hlength : (kept ++ some x :: List.replicate k none).length = kept.length + (k + 1) := by
    simp
  rw [hmoved, ← hlength, List.set_append_right _ _ (Nat.le_refl _), Nat.sub_self, List.set_cons_zero,
    List.replicate_succ']
  simp

variable {x : α}

/-- An element that is kept moves to the front, unless it is there already. -/
theorem filtering_keep (done rest : List α) (h : keep x = true) :
    (if (done.filter keep).length ≠ done.length then
        ((filtering keep done (x :: rest)).set (done.filter keep).length (some x)).set done.length
          none
      else filtering keep done (x :: rest)) = filtering keep (done ++ [x]) rest := by
  have hlength := length_filter_add_not keep done
  have hkept : (done ++ [x]).filter keep = done.filter keep ++ [x] := by simp [h]
  have hdropped : (done ++ [x]).filter (fun x => !keep x) = done.filter fun x => !keep x := by
    simp [h]
  unfold filtering
  rw [hkept, hdropped, ← hlength]
  generalize (done.filter fun x => !keep x).length = dropped
  cases dropped with
  | zero => simp
  | succ k =>
    -- an element was dropped, so the indices differ
    have hmove := move_to_front ((done.filter keep).map some) (rest.map some ++ [none]) k x
    rw [List.length_map] at hmove
    rw [if_pos (by omega)]
    simpa using hmove

/-- An element that is not kept leaves a null pointer. -/
theorem filtering_drop (done rest : List α) (h : keep x = false) :
    (filtering keep done (x :: rest)).set done.length none = filtering keep (done ++ [x]) rest := by
  have hlength := length_front keep done
  unfold filtering
  rw [List.set_append_right _ _ (Nat.le_of_eq hlength), hlength, Nat.sub_self]
  simp [h, List.replicate_succ']

end

end NmGpclient
