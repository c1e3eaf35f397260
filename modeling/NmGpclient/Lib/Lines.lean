import Mathlib.Data.List.Induction

/-!
# Reading delimited segments into a bounded buffer

A program that reads its input one item at a time keeps the items since the last delimiter in a
buffer, drops those that do not fit, and looks at the buffer when a delimiter comes. Against a word
shorter than the buffer this recognises exactly the segments that are the word: the dropped items
make no other segment look like it.
-/

namespace NmGpclient

variable {α : Type*} (delim : α → Bool)

/-- The segments of an input: those that a delimiter has ended, and the one begun since. -/
def segments (input : List α) : List (List α) × List α :=
  input.foldl (fun s c => if delim c then (s.1 ++ [s.2], []) else (s.1, s.2 ++ [c])) ([], [])

/-- The word is one of the segments that a delimiter has ended. -/
def HasSegment (word input : List α) : Prop := word ∈ (segments delim input).1

instance [DecidableEq α] (word input : List α) : Decidable (HasSegment delim word input) :=
  inferInstanceAs (Decidable (_ ∈ _))

/-- One item is read into a buffer of at most `n` items. -/
def bufferItem (n : Nat) (buffer : List α) (c : α) : List α :=
  if delim c then [] else if buffer.length < n then buffer ++ [c] else buffer

/-- What a buffer of at most `n` items holds: the begun segment, as far as it fits. -/
def buffered (n : Nat) (input : List α) : List α := (segments delim input).2.take n

@[simp] theorem segments_nil : segments delim [] = ([], []) := rfl

theorem segments_append_singleton (input : List α) (c : α) :
    segments delim (input ++ [c]) =
      if delim c then ((segments delim input).1 ++ [(segments delim input).2], [])
      else ((segments delim input).1, (segments delim input).2 ++ [c]) := by
  simp [segments]

/-- A segment that a delimiter ends comes before the segments of what follows. -/
theorem segments_append_cons {l : List α} (hl : ∀ c ∈ l, delim c = false) {d : α}
    (hd : delim d = true) (rest : List α) :
    segments delim (l ++ d :: rest) =
      (l :: (segments delim rest).1, (segments delim rest).2) := by
  induction rest using List.reverseRecOn with
  | nil =>
    have hbegun : segments delim l = ([], l) := by
      induction l using List.reverseRecOn with
      | nil => rfl
      | append_singleton l c ih =>
        have hc : delim c = false := hl c (by simp)
        have hinit := ih fun x hx => hl x (by simp [hx])
        rw [segments_append_singleton, hinit, hc]
        rfl
    rw [segments_append_singleton, hbegun, hd]
    rfl
  | append_singleton rest c ih =>
    rw [← List.cons_append, ← List.append_assoc, segments_append_singleton,
      segments_append_singleton, ih]
    cases delim c <;> rfl

/-- What follows goes on with the begun segment: its first delimiter ends that, and the segments
after it stay as they are. -/
theorem segments_append (input rest : List α) :
    segments delim (input ++ rest) =
      match (segments delim rest).1 with
      | [] => ((segments delim input).1, (segments delim input).2 ++ (segments delim rest).2)
      | l :: ls => ((segments delim input).1 ++ ((segments delim input).2 ++ l) :: ls,
          (segments delim rest).2) := by
  induction rest using List.reverseRecOn with
  | nil => simp
  | append_singleton rest c ih =>
    rw [← List.append_assoc, segments_append_singleton, segments_append_singleton, ih]
    cases (segments delim rest).1 with
    | nil => cases delim c <;> simp
    | cons l ls => cases delim c <;> simp

/-- No delimiter is in a segment. -/
theorem delim_of_mem_segments (input : List α) :
    (∀ l ∈ (segments delim input).1, ∀ c ∈ l, delim c = false) ∧
      ∀ c ∈ (segments delim input).2, delim c = false := by
  induction input using List.reverseRecOn with
  | nil => simp
  | append_singleton input c ih =>
    obtain ⟨hended, hbegun⟩ := ih
    rw [segments_append_singleton]
    cases hc : delim c with
    | true =>
      refine ⟨fun l hl => ?_, by simp⟩
      rcases List.mem_append.1 hl with hl | hl
      · exact hended l hl
      · exact List.mem_singleton.1 hl ▸ hbegun
    | false =>
      refine ⟨hended, fun b hb => ?_⟩
      rcases List.mem_append.1 hb with hb | hb
      · exact hbegun b hb
      · exact List.mem_singleton.1 hb ▸ hc

/-- An input without an ended segment is the begun one. -/
theorem begun_of_ended_eq_nil {input : List α} (h : (segments delim input).1 = []) :
    (segments delim input).2 = input := by
  induction input using List.reverseRecOn with
  | nil => rfl
  | append_singleton input c ih =>
    rw [segments_append_singleton] at h ⊢
    cases hc : delim c with
    | true => simp [hc] at h
    | false =>
      rw [hc] at h
      simpa using ih h

/-- An input whose first ended segment is `l` is `l`, a delimiter, and a rest. -/
theorem eq_append_of_segments_eq_cons {input l : List α} {ls : List (List α)}
    (h : (segments delim input).1 = l :: ls) :
    ∃ d rest, input = l ++ d :: rest ∧ delim d = true ∧ ∀ c ∈ l, delim c = false := by
  have hl := (delim_of_mem_segments delim input).1 l (by simp [h])
  induction input using List.reverseRecOn generalizing ls with
  | nil => simp at h
  | append_singleton input c ih =>
    rw [segments_append_singleton] at h
    cases hc : delim c with
    | false =>
      rw [hc] at h
      obtain ⟨d, rest, rfl, hd, -⟩ := ih h
      exact ⟨d, rest ++ [c], by simp, hd, hl⟩
    | true =>
      rw [hc, if_pos rfl] at h
      cases hended : (segments delim input).1 with
      | nil =>
        -- the delimiter is the first of the input, which is the begun segment so far
        rw [hended, List.nil_append, List.cons.injEq] at h
        refine ⟨c, [], ?_, hc, hl⟩
        rw [← h.1, begun_of_ended_eq_nil delim hended]
      | cons l' ls' =>
        rw [hended, List.cons_append, List.cons.injEq] at h
        obtain ⟨rfl, -⟩ := h
        obtain ⟨d, rest, rfl, hd, -⟩ := ih hended
        exact ⟨d, rest ++ [c], by simp, hd, hl⟩

/-- The segments of an input in order, the begun one last unless it is empty. -/
def splitSegments (input : List α) : List (List α) :=
  (segments delim input).1 ++ if (segments delim input).2 = [] then [] else [(segments delim input).2]

theorem splitSegments_append_cons {l : List α} (hl : ∀ c ∈ l, delim c = false) {d : α}
    (hd : delim d = true) (rest : List α) :
    splitSegments delim (l ++ d :: rest) = l :: splitSegments delim rest := by
  simp [splitSegments, segments_append_cons delim hl hd]

theorem delim_of_mem_splitSegments {input l : List α} (h : l ∈ splitSegments delim input) :
    ∀ c ∈ l, delim c = false := by
  obtain ⟨hended, hbegun⟩ := delim_of_mem_segments delim input
  rcases List.mem_append.1 h with h | h
  · exact hended l h
  · split at h
    · cases h
    · exact List.mem_singleton.1 h ▸ hbegun

/-- What follows has the word as a segment when the first delimiter ends it, with what was begun
before, or when it comes later. -/
theorem hasSegment_append {word input rest : List α} : HasSegment delim word (input ++ rest) ↔
    HasSegment delim word input ∨ ∃ l ls, (segments delim rest).1 = l :: ls ∧
      (word = (segments delim input).2 ++ l ∨ word ∈ ls) := by
  unfold HasSegment
  rw [segments_append]
  cases (segments delim rest).1 with
  | nil => simp
  | cons l ls => simp

@[simp] theorem buffered_nil (n : Nat) : buffered delim n [] = [] := by simp [buffered]

/-- The buffer follows the input. -/
theorem buffered_append_singleton (n : Nat) (input : List α) (c : α) :
    buffered delim n (input ++ [c]) = bufferItem delim n (buffered delim n input) c := by
  unfold buffered bufferItem
  rw [segments_append_singleton]
  cases delim c with
  | true => simp
  | false =>
    simp only [Bool.false_eq_true, if_false, List.length_take, List.take_append]
    split
    next h =>
      have hroom : [c].length ≤ n - (segments delim input).2.length := by simp; omega
      rw [List.take_of_length_le hroom]
    next h =>
      have hlen : n - (segments delim input).2.length = 0 := by omega
      rw [hlen]
      simp

/-- A delimiter ends a segment that is the word exactly when the buffer holds the word. -/
theorem hasSegment_append_singleton [DecidableEq α] {n : Nat} {word : List α}
    (hword : word.length < n) (input : List α) (c : α) :
    HasSegment delim word (input ++ [c]) ↔
      HasSegment delim word input ∨ delim c = true ∧ buffered delim n input = word := by
  unfold HasSegment buffered
  rw [segments_append_singleton]
  cases delim c with
  | false => simp
  | true =>
    have htake : (segments delim input).2.take n = word ↔ word = (segments delim input).2 := by
      constructor
      · intro h
        have hlen := congrArg List.length h
        rw [List.length_take] at hlen
        rw [← h, List.take_of_length_le (by omega)]
      · rintro rfl
        exact List.take_of_length_le (by omega)
    simp [htake]

end NmGpclient
