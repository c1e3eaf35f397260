import Mathlib.Data.List.Perm.Basic
import Mathlib.Logic.Function.Basic
import NmGpclient.Helper.Domains

/-!
# The vector of domains in memory

`split_dns_list_to_gvariant` works on a vector of pointers. Here it does so: a pointer is the number
of the part that `g_strsplit_set` allocated it for, memory says what an allocated pointer points to,
and what the C code must not do fails: to read or free a string that is not allocated, and to go
beyond the end of the vector. The texts alone would not tell two equal parts apart.

The list that the function returns is the one of `splitDnsListToGvariant`, where the vector holds the
texts themselves.
-/

namespace NmGpclient

/-- The strings in memory, the vector with its terminator, the pointers that were freed, and the two
indices. -/
structure StringVector where
  strings : Nat → Option CStr
  split : List (Option Nat)
  freed : List Nat
  i : Nat
  j : Nat

namespace StringVector

variable (v : StringVector)

/-- `g_strsplit_set`, for the parts of a text. -/
def allocate (tokens : List CStr) : StringVector where
  strings p := tokens[p]?
  split := (List.range tokens.length).map some ++ [none]
  freed := []
  i := 0
  j := 0

/-- `g_free`. -/
def gFree (p : Nat) : Option StringVector :=
  if (v.strings p).isSome then
    some { v with strings := Function.update v.strings p none, freed := v.freed ++ [p] }
  else none

/-- `split[k] = p`. -/
def assign (k : Nat) (p : Option Nat) : Option StringVector :=
  if k < v.split.length then some { v with split := v.split.set k p } else none

/-- `if (j != i) { split[j] = split[i]; split[i] = NULL; }`, for the pointer at `i`. -/
def moveDown (p : Nat) : Option StringVector :=
  if v.j ≠ v.i then do (← v.assign v.j (some p)).assign v.i none else some v

/-- The body of the loop, for the pointer at `i`. -/
def body (p : Nat) : Option StringVector := do
  let text ← v.strings p
  if text ≠ [] then
    let v ← v.moveDown p
    some { v with i := v.i + 1, j := v.j + 1 }
  else
    let v ← (← v.gFree p).assign v.i none
    some { v with i := v.i + 1 }

/-- The loop, up to the terminator. -/
def loop : Nat → StringVector → Option StringVector
  | 0, _ => none
  | fuel + 1, v =>
    match v.split[v.i]? with
    | none => none
    | some none => some v
    | some (some p) => do loop fuel (← v.body p)

/-- The strings of a vector, as `g_variant_new_strv` reads them. -/
def readStrv (strings : Nat → Option CStr) : List (Option Nat) → Option (List CStr)
  | [] => none
  | none :: _ => some []
  | some p :: rest => do
    let text ← strings p
    let texts ← readStrv strings rest
    some (text :: texts)

/-- `g_strfreev`. -/
def gStrfreev : List (Option Nat) → StringVector → Option StringVector
  | [], _ => none
  | none :: _, v => some v
  | some p :: rest, v => do gStrfreev rest (← v.gFree p)

/-- `split_dns_list_to_gvariant` over memory: the list it returns, and the memory it leaves. -/
def splitDnsList (s : CStr) : Option (Option (List CStr) × StringVector) := do
  let tokens := gStrsplitSet s (cstr ", ")
  if s = [] then some (none, allocate [])
  else
    let v ← loop (tokens.length + 1) (allocate tokens)
    let var ← if v.j ≠ 0 then (readStrv v.strings v.split).map some else some none
    let v ← gStrfreev v.split v
    some (var, v)

end StringVector

open StringVector

/-! ## The loop -/

section
variable (tokens : List CStr)

/-- The part of a pointer is not empty. -/
def keepsPointer (p : Nat) : Bool := decide (tokens[p]? ≠ some [])

/-- The pointers of the parts that are not empty, in their order. -/
def keptPointers : List Nat := (List.range tokens.length).filter (keepsPointer tokens)

/-- The vector after the pointers `done`, with `rest` to come. -/
def StringVector.turned (done rest : List Nat) : StringVector where
  strings p := if p ∈ done.filter fun p => !keepsPointer tokens p then none else tokens[p]?
  split := filtering (keepsPointer tokens) done rest
  freed := done.filter fun p => !keepsPointer tokens p
  i := done.length
  j := (done.filter (keepsPointer tokens)).length

/-- What the loop leaves of the parts of a text. -/
def StringVector.filtered : StringVector := turned tokens (List.range tokens.length) []

theorem turned_nil : turned tokens [] (List.range tokens.length) = allocate tokens := by
  simp [turned, allocate, filtering]

/-- A string that is kept moves within the vector. -/
theorem moveDown_eq {v : StringVector} {p : Nat} (hi : v.i < v.split.length)
    (hj : v.j < v.split.length) : v.moveDown p = some { v with
      split := if v.j ≠ v.i then (v.split.set v.j (some p)).set v.i none else v.split } := by
  unfold moveDown
  split
  next => simp [assign, hi, hj]
  next => rfl

/-- The body of the loop keeps the string of the pointer, or frees it, within the vector. -/
theorem turned_body (done rest : List Nat) {p : Nat} (hp : p < tokens.length) (hnew : p ∉ done) :
    (turned tokens done (p :: rest)).body p = some (turned tokens (done ++ [p]) rest) := by
  obtain ⟨text, htext⟩ : ∃ text, tokens[p]? = some text := ⟨_, List.getElem?_eq_getElem hp⟩
  have hread : (turned tokens done (p :: rest)).strings p = some text := by
    simp [turned, hnew, htext]
  have hlength := length_filtering (keepsPointer tokens) done (p :: rest)
  have hi : done.length < (filtering (keepsPointer tokens) done (p :: rest)).length := by omega
  unfold body
  rw [hread, Option.bind_eq_bind, Option.bind_some]
  by_cases hempty : text = []
  · have hdrop : keepsPointer tokens p = false := by simp [keepsPointer, htext, hempty]
    have hnext := filtering_drop (keepsPointer tokens) done rest hdrop
    have hstrings : Function.update (turned tokens done (p :: rest)).strings p none =
        (turned tokens (done ++ [p]) rest).strings := by
      funext q
      by_cases hq : q = p
      · simp [turned, hq, hdrop]
      · simp [turned, hq, hdrop, Function.update_of_ne]
    rw [if_neg (not_not.2 hempty), gFree, hread]
    simp only [Option.isSome_some, if_true, Option.bind_eq_bind, Option.bind_some, hstrings]
    unfold turned at hnext ⊢
    simp only [assign, hi, if_true, hnext, Option.bind_some]
    simp [hdrop]
  · have hkeep : keepsPointer tokens p = true := by simp [keepsPointer, htext, hempty]
    have hnext := filtering_keep (keepsPointer tokens) done rest hkeep
    have hj : (done.filter (keepsPointer tokens)).length <
        (filtering (keepsPointer tokens) done (p :: rest)).length :=
      (List.length_filter_le ..).trans_lt hi
    rw [if_pos hempty, moveDown_eq hi hj, Option.bind_eq_bind, Option.bind_some]
    simp only [turned, Option.some.injEq, StringVector.mk.injEq]
    refine ⟨?_, hnext, ?_, ?_, ?_⟩ <;> simp [hkeep]

/-- The loop reads the terminator once it has kept or freed each string. -/
theorem turned_loop (rest : List Nat) : ∀ done, (done ++ rest).Nodup →
    (∀ p ∈ rest, p < tokens.length) → ∀ fuel, rest.length < fuel →
      (turned tokens done rest).loop fuel = some (turned tokens (done ++ rest) []) := by
  induction rest with
  | nil =>
    intro done _ _ fuel hfuel
    obtain ⟨fuel, rfl⟩ := Nat.exists_eq_succ_of_ne_zero (Nat.ne_of_gt hfuel)
    have hend := filtering_end (keepsPointer tokens) done
    rw [List.append_nil, loop]
    simp only [turned, hend]
  | cons p rest ih =>
    intro done hnodup hrange fuel hfuel
    obtain ⟨fuel, rfl⟩ := Nat.exists_eq_succ_of_ne_zero (Nat.ne_of_gt (Nat.zero_lt_of_lt hfuel))
    have hnext : (turned tokens done (p :: rest)).split[(turned tokens done (p :: rest)).i]? =
        some (some p) := filtering_next (keepsPointer tokens) done rest p
    have hnew : p ∉ done := by
      intro hmem
      exact (List.nodup_append.1 hnodup).2.2 p hmem p List.mem_cons_self rfl
    have hbody := turned_body tokens done rest (hrange p List.mem_cons_self) hnew
    rw [loop, hnext]
    dsimp only
    rw [hbody, Option.bind_eq_bind, Option.bind_some, ih (done ++ [p])]
    · rw [List.append_assoc, List.singleton_append]
    · simpa using hnodup
    · exact fun q hq => hrange q (List.mem_cons_of_mem p hq)
    · exact Nat.lt_of_succ_lt_succ hfuel

/-- The loop over the parts of a text. -/
theorem allocate_loop {fuel : Nat} (hfuel : tokens.length < fuel) :
    (allocate tokens).loop fuel = some (filtered tokens) := by
  have hloop := turned_loop tokens (List.range tokens.length) [] List.nodup_range
    (fun p hp => List.mem_range.1 hp) fuel (by rwa [List.length_range])
  rwa [turned_nil, List.nil_append] at hloop

/-! ## What the loop leaves -/

/-- The strings of the pointers that are kept are the parts that are not empty. -/
theorem keptPointers_strings :
    (keptPointers tokens).map (tokens[·]?) = (keptTokens tokens).map some := by
  have htokens : (List.range tokens.length).map (tokens[·]?) = tokens.map some := by
    apply List.ext_getElem
    · simp
    · intro k hk _
      simp
  have hpointers := List.filter_map (f := (tokens[·]?)) (p := fun text => decide (text ≠ some []))
    (l := List.range tokens.length)
  have htexts := List.filter_map (f := some) (p := fun text => decide (text ≠ some []))
    (l := tokens)
  rw [htokens, htexts] at hpointers
  have hkeeps : keepsPointer tokens = fun p => decide (tokens[p]? ≠ some []) := rfl
  unfold keptPointers keptTokens
  rw [hkeeps]
  simpa [Function.comp_def] using hpointers.symm

theorem length_keptPointers : (keptPointers tokens).length = (keptTokens tokens).length := by
  have h := congrArg List.length (keptPointers_strings tokens)
  rwa [List.length_map, List.length_map] at h

/-- A pointer is kept or freed. -/
theorem keptPointers_perm : (keptPointers tokens ++
    (List.range tokens.length).filter fun p => !keepsPointer tokens p).Perm
      (List.range tokens.length) :=
  List.filter_append_perm ..

/-- The loop has gone over every part: the parts that are not empty are at the front of the vector in
their order, and null pointers after them; and each part is kept or was freed, once and not both. The
vector of texts that `compact` works on is what the pointers pointed to. -/
structure Compacted (v : StringVector) : Prop where
  whole : v.i = tokens.length
  length : v.split.length = tokens.length + 1
  front : v.split.take v.j = (keptPointers tokens).map some
  later : ∀ k, v.j ≤ k → k < v.split.length → v.split[k]? = some none
  strings : (keptPointers tokens).map v.strings = (keptTokens tokens).map some
  once : (keptPointers tokens ++ v.freed).Perm (List.range tokens.length)
  gone : ∀ p ∈ v.freed, v.strings p = none
  texts : (compact tokens).split = v.split.map fun p => p.bind (tokens[·]?)

/-- The vector after the loop: the pointers that are kept, and null pointers. -/
theorem filtered_split : (filtered tokens).split =
    (keptPointers tokens).map some ++
      none :: List.replicate (tokens.length - (keptPointers tokens).length) none := by
  have hlength := length_filter_add_not (keepsPointer tokens) (List.range tokens.length)
  rw [List.length_range] at hlength
  have hcount : tokens.length - (keptPointers tokens).length =
      ((List.range tokens.length).filter fun p => !keepsPointer tokens p).length := by
    unfold keptPointers
    omega
  rw [hcount, ← List.replicate_succ, List.replicate_succ']
  simp [filtered, turned, filtering, keptPointers]

/-- A string that is kept is not touched. -/
theorem filtered_strings {p : Nat} (hp : p ∈ keptPointers tokens) :
    (filtered tokens).strings p = tokens[p]? := by
  have hkeep : keepsPointer tokens p = true := (List.mem_filter.1 hp).2
  exact if_neg (by simp [hkeep])

/-- The texts of the vector are those of the loop over texts. -/
theorem filtered_texts :
    (compact tokens).split = (filtered tokens).split.map fun p => p.bind (tokens[·]?) := by
  have hkept : ((keptPointers tokens).map some).map (fun p => p.bind (tokens[·]?)) =
      (keptTokens tokens).map some := by
    rw [← keptPointers_strings, List.map_map]
    rfl
  have hcount : (freedTokens tokens).length =
      tokens.length - (keptPointers tokens).length := by
    have h := length_filter_add_not (fun token : CStr => decide (token ≠ [])) tokens
    rw [length_keptPointers]
    simp only [keptTokens, freedTokens, ne_eq, decide_not, Bool.not_not] at h ⊢
    omega
  rw [compact_eq, filtered_split, List.map_append, hkept, ← hcount]
  simp [compacted, ← List.replicate_succ, ← List.replicate_succ']

theorem filtered_compacted : Compacted tokens (filtered tokens) := by
  have hj : (filtered tokens).j = (keptPointers tokens).length := rfl
  have hle : (keptPointers tokens).length ≤ tokens.length := by
    have h := List.length_filter_le (keepsPointer tokens) (List.range tokens.length)
    rwa [List.length_range] at h
  refine ⟨List.length_range, ?_, ?_, fun k hk hlt => ?_, ?_, keptPointers_perm tokens,
    fun p hp => if_pos hp, filtered_texts tokens⟩
  · rw [filtered_split]
    simp only [List.length_append, List.length_map, List.length_cons, List.length_replicate]
    omega
  · rw [filtered_split, hj, List.take_append_of_le_length (by simp), List.take_of_length_le (by simp)]
  · rw [filtered_split] at hlt ⊢
    rw [hj] at hk
    rw [← List.replicate_succ] at hlt ⊢
    rw [List.getElem?_append_right (by simpa using hk), List.getElem?_replicate, if_pos]
    simp only [List.length_append, List.length_map, List.length_replicate] at hlt ⊢
    omega
  · rw [← keptPointers_strings]
    exact List.map_congr_left fun p hp => filtered_strings tokens hp

end

/-! ## What is done with the vector -/

/-- The strings of a vector are read up to its first null pointer. -/
theorem readStrv_eq {strings : Nat → Option CStr} (rest : List (Option Nat)) :
    ∀ {ps : List Nat} {texts : List CStr}, ps.map strings = texts.map some →
      readStrv strings (ps.map some ++ none :: rest) = some texts
  | [], [], _ => rfl
  | p :: ps, text :: texts, h => by
      obtain ⟨hp, hps⟩ := List.cons.inj h
      have ih := readStrv_eq rest hps
      simp [readStrv, hp, ih]

/-- Distinct strings are freed up to the first null pointer. -/
theorem gStrfreev_eq (rest : List (Option Nat)) : ∀ {ps : List Nat} {v : StringVector}, ps.Nodup →
    (∀ p ∈ ps, (v.strings p).isSome = true) →
      gStrfreev (ps.map some ++ none :: rest) v = some { v with
        strings := fun p => if p ∈ ps then none else v.strings p
        freed := v.freed ++ ps }
  | [], v, _, _ => by simp [gStrfreev]
  | p :: ps, v, hnodup, halloc => by
      obtain ⟨hnew, hps⟩ := List.nodup_cons.1 hnodup
      have hothers : ∀ q ∈ ps, (Function.update v.strings p none q).isSome = true := by
        intro q hq
        rw [Function.update_of_ne (ne_of_mem_of_not_mem hq hnew)]
        exact halloc q (List.mem_cons_of_mem p hq)
      have ih := gStrfreev_eq rest
        (v := { v with strings := Function.update v.strings p none, freed := v.freed ++ [p] }) hps
        hothers
      have hstrings : (fun q => if q ∈ ps then none else Function.update v.strings p none q) =
          fun q => if q ∈ p :: ps then none else v.strings q := by
        funext q
        by_cases hq : q = p
        · simp [hq]
        · simp [hq, Function.update_of_ne]
      rw [List.map_cons, List.cons_append, gStrfreev, gFree,
        if_pos (halloc p List.mem_cons_self), Option.bind_eq_bind, Option.bind_some, ih]
      simp only [hstrings, List.append_assoc, List.singleton_append]

section
variable (tokens : List CStr)

/-- The list that is made of the vector, when it has one. -/
theorem readStrv_filtered :
    readStrv (filtered tokens).strings (filtered tokens).split = some (keptTokens tokens) := by
  rw [filtered_split]
  exact readStrv_eq _ (filtered_compacted tokens).strings

/-- What is left of the vector is freed, and then nothing is allocated. -/
theorem gStrfreev_filtered : ∃ v, gStrfreev (filtered tokens).split (filtered tokens) = some v ∧
    (∀ p, v.strings p = none) ∧ v.freed.Perm (List.range tokens.length) := by
  have hcompacted := filtered_compacted tokens
  have hnodup : (keptPointers tokens).Nodup := List.nodup_range.filter _
  have halloc : ∀ p ∈ keptPointers tokens, ((filtered tokens).strings p).isSome = true := by
    intro p hp
    have hrange := List.mem_range.1 (List.mem_filter.1 hp).1
    rw [filtered_strings tokens hp, List.getElem?_eq_getElem hrange]
    rfl
  rw [filtered_split]
  refine ⟨_, gStrfreev_eq _ hnodup halloc, fun p => ?_,
    List.perm_append_comm.trans hcompacted.once⟩
  by_cases hkept : p ∈ keptPointers tokens
  · exact if_pos hkept
  · refine (if_neg hkept).trans ?_
    by_cases hp : p < tokens.length
    · apply hcompacted.gone
      have hmem := hcompacted.once.mem_iff.2 (List.mem_range.2 hp)
      exact (List.mem_append.1 hmem).resolve_left hkept
    · have hnone : tokens[p]? = none := by simpa using hp
      simp only [filtered, turned, hnone, ite_self]

end

/-- The function returns the parts that are not empty, or no list when there is none. It frees each
string that `g_strsplit_set` allocated, once, and leaves none. -/
theorem splitDnsList_eq (s : CStr) : ∃ v, splitDnsList s =
      some (if domainTokens s = [] then none else some (domainTokens s), v) ∧
    (∀ p, v.strings p = none) ∧
    v.freed.Perm (List.range (gStrsplitSet s (cstr ", ")).length) := by
  by_cases hs : s = []
  · subst hs
    have hdomains : domainTokens [] = [] := by decide
    refine ⟨allocate [], ?_, fun p => rfl, .refl _⟩
    simp [splitDnsList, hdomains]
  · have hdomains : domainTokens s = keptTokens (gStrsplitSet s (cstr ", ")) := by
      unfold domainTokens gStrsplitSet
      rw [if_neg hs]
    unfold splitDnsList
    rw [hdomains, if_neg hs]
    generalize gStrsplitSet s (cstr ", ") = tokens
    obtain ⟨v, hfree, hgone, hfreed⟩ := gStrfreev_filtered tokens
    have hloop := allocate_loop tokens (Nat.lt_succ_self _)
    have hread := readStrv_filtered tokens
    have hj : (filtered tokens).j = (keptTokens tokens).length := length_keptPointers tokens
    refine ⟨v, ?_, hgone, hfreed⟩
    dsimp only
    rw [hloop, Option.bind_eq_bind, Option.bind_some, hj]
    by_cases hnone : keptTokens tokens = []
    · simp [hnone, hfree]
    · simp [hnone, hread, hfree]

/-- The compaction of the parts of a text is a filter: the vector is as `Compacted` says, whatever
the number of turns it may take; the function over memory returns the parts that are not empty, and
leaves nothing allocated; `g_variant_new_strv` is handed these parts, when there is one, and makes a
value of them when they are UTF-8. -/
structure DomainsCompacted (s : CStr) : Prop where
  compacts : ∃ v, Compacted (gStrsplitSet s (cstr ", ")) v ∧
    ∀ fuel, (gStrsplitSet s (cstr ", ")).length < fuel →
      (allocate (gStrsplitSet s (cstr ", "))).loop fuel = some v
  frees : ∃ v, splitDnsList s =
      some (if domainTokens s = [] then none else some (domainTokens s), v) ∧
    (∀ p, v.strings p = none) ∧ v.freed.Perm (List.range (gStrsplitSet s (cstr ", ")).length)
  handed : (splitDnsListToGvariant (some s)).calls =
    if domainTokens s = [] then [] else [.variantNewStrv (domainTokens s)]
  returned : (∀ domain ∈ domainTokens s, utf8Validate domain = true) →
    (splitDnsListToGvariant (some s)).value =
      if domainTokens s = [] then none else some (.strings (domainTokens s))

/-- The list of domains is compacted in place without loss, for every text. -/
theorem domains_compacted (s : CStr) : DomainsCompacted s where
  compacts := ⟨_, filtered_compacted _, fun _ hfuel => allocate_loop _ hfuel⟩
  frees := splitDnsList_eq s
  handed := by
    rw [splitDnsListToGvariant_eq]
    split <;> rfl
  returned hutf8 := by
    rw [splitDnsListToGvariant_eq, if_pos (List.all_eq_true.2 hutf8)]
    split <;> rfl

end NmGpclient
