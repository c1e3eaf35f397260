import NmGpclient.Helper.Values
import NmGpclient.Lib.InPlace

/-!
# The list of domains

`split_dns_list_to_gvariant` moves the strings of a vector that are not empty to its front, in
place, with two indices. Between the indices the vector is null, and past the second one it is as it
was; so the null pointers that the loop writes never end it before the terminator does.
-/

namespace NmGpclient

/-- The strings that are kept. -/
def keptTokens (tokens : List CStr) : List CStr := tokens.filter (· ≠ [])

/-- The strings that are freed. -/
def freedTokens (tokens : List CStr) : List CStr := tokens.filter (· = [])

/-- The state of the loop after the strings `done`, with `rest` to come: the strings that are kept,
a null pointer for each one that is not, and the rest with the terminator. -/
def compacted (done rest : List CStr) : Compaction where
  split := (keptTokens done).map some ++ List.replicate (freedTokens done).length none ++
    (rest.map some ++ [none])
  freed := freedTokens done
  i := done.length
  j := (keptTokens done).length

/-- The vector is the one of a filter in place. -/
theorem compacted_split (done rest : List CStr) :
    (compacted done rest).split = filtering (fun token => decide (token ≠ [])) done rest := by
  simp [compacted, filtering, keptTokens, freedTokens]

/-- The body of the loop keeps the string, or frees it. -/
theorem compacted_step (done rest : List CStr) (token : CStr) :
    (compacted done (token :: rest)).step token = compacted (done ++ [token]) rest := by
  have hnext := compacted_split (done ++ [token]) rest
  unfold Compaction.step
  by_cases hempty : token = []
  · have hdrop := filtering_drop (fun token => decide (token ≠ [])) (x := token) done rest
      (by simpa using hempty)
    rw [if_neg (not_not.2 hempty), compacted_split]
    unfold compacted at hnext ⊢
    simp only [Compaction.mk.injEq]
    refine ⟨hdrop.trans hnext.symm, ?_, ?_, ?_⟩ <;> simp [keptTokens, freedTokens, hempty]
  · have hkeep := filtering_keep (fun token => decide (token ≠ [])) (x := token) done rest
      (by simpa using hempty)
    rw [if_pos hempty, compacted_split]
    unfold compacted at hnext ⊢
    simp only [Compaction.mk.injEq]
    refine ⟨hkeep.trans hnext.symm, ?_, ?_, ?_⟩ <;> simp [keptTokens, freedTokens, hempty]

/-- The loop keeps or frees each string that is left. -/
theorem compacted_loop (rest : List CStr) : ∀ done,
    Compaction.loop rest.length (compacted done rest) = compacted (done ++ rest) [] := by
  induction rest with
  | nil => simp [Compaction.loop]
  | cons token rest ih =>
    intro done
    have hnext : (compacted done (token :: rest)).split[(compacted done (token :: rest)).i]? =
        some (some token) := by
      rw [compacted_split]
      exact filtering_next _ done rest token
    rw [List.length_cons, Compaction.loop, hnext]
    dsimp only
    rw [compacted_step, ih, List.append_assoc, List.singleton_append]

/-- The compaction keeps the strings that are not empty in their order, frees the others, and leaves
null pointers after the strings it keeps. -/
theorem compact_eq (tokens : List CStr) : compact tokens = compacted tokens [] :=
  compacted_loop tokens []

/-- The domains of a text: the parts between commas and spaces that are not empty. -/
def domainTokens (s : CStr) : List CStr := keptTokens (s.splitOnP (cstr ", ").contains)

/-- The list of a text holds its domains, and there is none without a domain, or with one that is
not UTF-8. -/
theorem splitDnsListToGvariant_eq (s : CStr) : splitDnsListToGvariant (some s) =
    if domainTokens s = [] then pure none
    else .call (.variantNewStrv (domainTokens s))
      (if (domainTokens s).all utf8Validate then some (.strings (domainTokens s)) else none) := by
  cases s with
  | nil =>
    have hempty : domainTokens [] = [] := by decide
    rw [if_pos hempty]
    rfl
  | cons b s =>
    have hsplit : gStrsplitSet (b :: s) (cstr ", ") =
        (b :: s).splitOnP (cstr ", ").contains := if_neg (by simp)
    have hstrings : ∀ (tokens : List CStr) (k : Nat), ((tokens.map some ++ List.replicate k none ++
        [none]).takeWhile Option.isSome).filterMap id = tokens := by
      intro tokens k
      rw [List.append_assoc, List.takeWhile_append_of_pos (by simp)]
      cases k <;> simp [List.replicate_succ]
    unfold splitDnsListToGvariant
    rw [nonempty_cons]
    dsimp only
    rw [hsplit, compact_eq, gVariantNewStrv]
    simp only [compacted, List.map_nil, List.nil_append, hstrings]
    change (if (domainTokens (b :: s)).length ≠ 0 then _ else _) = _
    by_cases hdomains : domainTokens (b :: s) = []
    · rw [if_pos hdomains, if_neg (by simp [hdomains])]
    · rw [if_neg hdomains, if_pos (by simpa using hdomains)]
      rfl

/-! ## Parts of UTF-8 -/

/-- The bytes between two lengths. -/
theorem extract_toByteArray (a m b : CStr) :
    (⟨(a ++ m ++ b).toArray⟩ : ByteArray).extract a.length (a ++ m).length = ⟨m.toArray⟩ := by
  ext : 1
  rw [ByteArray.data_extract]
  simp

/-- What stands before and after UTF-8 in a text that is UTF-8 is UTF-8. -/
theorem utf8Validate_of_append {a m b : CStr} (hne : m ≠ []) (hm : utf8Validate m = true)
    (h : utf8Validate (a ++ m ++ b) = true) :
    utf8Validate a = true ∧ utf8Validate b = true := by
  unfold utf8Validate at h hm ⊢
  rw [ByteArray.validateUTF8_eq_true_iff] at h hm ⊢
  rw [ByteArray.validateUTF8_eq_true_iff]
  obtain ⟨text, htext⟩ : ∃ text : String, text.toByteArray = ⟨(a ++ m ++ b).toArray⟩ :=
    ⟨⟨_, h⟩, rfl⟩
  have hsize : text.utf8ByteSize = (a ++ m ++ b).length := by
    rw [← String.size_toByteArray, htext]
    rfl
  have hstart : (⟨a.length⟩ : String.Pos.Raw) ≤ ⟨(a ++ m).length⟩ := by
    simp [String.Pos.Raw.le_iff]
  have hend : (⟨(a ++ m).length⟩ : String.Pos.Raw) ≤ text.rawEndPos := by
    simp [String.Pos.Raw.le_iff, hsize]
  have hvalid := (String.Pos.Raw.isValidUTF8_extract_iff _ _ hstart hend).1 (by
    rw [htext]
    exact (extract_toByteArray a m b).symm ▸ hm)
  obtain ⟨hbefore, hafter⟩ := hvalid.resolve_left (by
    simpa [String.Pos.Raw.ext_iff] using hne)
  constructor
  · have ha := extract_toByteArray [] a (m ++ b)
    rw [List.nil_append, ← List.append_assoc, ← htext] at ha
    rw [← ha]
    exact hbefore.isValidUTF8_extract_zero
  · have hb := extract_toByteArray (a ++ m) b []
    rw [List.append_nil, ← htext, ← hsize] at hb
    rw [← hb]
    exact hafter.isValidUTF8_extract_utf8ByteSize

/-- The parts of a text that is UTF-8 are UTF-8, when the separators are. -/
theorem utf8Validate_splitOnP {p : UInt8 → Bool} (hp : ∀ c, p c = true → utf8Validate [c] = true)
    (s : CStr) (h : utf8Validate s = true) : ∀ t ∈ s.splitOnP p, utf8Validate t = true := by
  cases hfind : s.find? p with
  | none =>
    rw [List.find?_eq_none] at hfind
    rw [List.splitOnP_eq_singleton (by simpa using hfind)]
    simpa using h
  | some c =>
    obtain ⟨hc, a, b, hs, ha⟩ := List.find?_eq_some_iff_append.1 hfind
    have hlength : b.length < s.length := by
      rw [hs, List.length_append, List.length_cons]
      omega
    have hab : utf8Validate (a ++ [c] ++ b) = true := by
      rw [List.append_assoc]
      exact hs ▸ h
    obtain ⟨hbefore, hafter⟩ := utf8Validate_of_append (by simp) (hp c hc) hab
    rw [hs, List.splitOnP_append_cons_of_forall_mem (by simpa using ha) c hc]
    exact List.forall_mem_cons.2 ⟨hbefore, utf8Validate_splitOnP hp b hafter⟩
termination_by s.length

/-- The domains of a text that is UTF-8 are UTF-8. -/
theorem utf8Validate_domainTokens {s : CStr} (h : utf8Validate s = true) :
    ∀ domain ∈ domainTokens s, utf8Validate domain = true := by
  have hsep : ∀ c, (cstr ", ").contains c = true → utf8Validate [c] = true := by
    intro c hc
    have hbytes : cstr ", " = [44, 32] := by decide
    have hmem : c = 44 ∨ c = 32 := by simpa [hbytes] using hc
    rcases hmem with rfl | rfl <;> decide +kernel
  exact fun domain hmem => utf8Validate_splitOnP hsep s h domain (List.mem_of_mem_filter hmem)

end NmGpclient
