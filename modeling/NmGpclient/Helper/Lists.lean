import NmGpclient.Helper.Values

/-!
# The lists of addresses

`addr46_list_to_gvariant` splits a text at spaces into IPv4 and IPv6 addresses, each list in its
order, or gives up the whole text at a part that is neither; `addr4_list_to_gvariant` reads IPv4
addresses only. No text is an address of both families, so where one reads a text the other reads it
too.
-/

namespace NmGpclient

/-- The parts of a text between its spaces; the empty text is one empty part. -/
def spaceTokens (s : CStr) : List CStr := s.splitOn 32

/-- The part is an address of one of the families. -/
def isAddress (token : CStr) : Bool := (inetPton4 token).isSome || (inetPton6 token).isSome

/-- The IPv4 addresses among the parts, as numbers. -/
def ip4Tokens (tokens : List CStr) : List Nat := tokens.filterMap fun token =>
  (inetPton4 token).map sAddr

/-- The IPv6 addresses among the parts. -/
def ip6Tokens (tokens : List CStr) : List (List UInt8) := tokens.filterMap inetPton6

/-- The value of a list, none for an empty one. -/
def listValue {α : Type} (value : List α → GVariant) (xs : List α) : Option GVariant :=
  if xs = [] then none else some (value xs)

/-- The loop of `addr46_list_to_gvariant` appends the addresses of each family to what it has, or
gives up at a part that is no address. -/
theorem addr46ListLoop_eq (tokens : List CStr) (legacy : List Nat) (ipv6 : List (List UInt8)) :
    addr46ListLoop tokens legacy ipv6 =
      if tokens.all isAddress then some (legacy ++ ip4Tokens tokens, ipv6 ++ ip6Tokens tokens)
      else none := by
  induction tokens generalizing legacy ipv6 with
  | nil => simp [addr46ListLoop, ip4Tokens, ip6Tokens]
  | cons token tokens ih =>
    unfold addr46ListLoop
    cases h4 : inetPton4 token with
    | some addr =>
      have h6 : inetPton6 token = none := inetPton6_of_inetPton4 (by simp [h4])
      simp [ih, isAddress, ip4Tokens, ip6Tokens, h4, h6]
    | none =>
      cases h6 : inetPton6 token with
      | some addr => simp [ih, isAddress, ip4Tokens, ip6Tokens, h4, h6]
      | none => simp [isAddress, h4, h6]

/-- The loop of `addr4_list_to_gvariant`, after numbers that are in the builder. -/
theorem addr4ListLoop_value (tokens : List CStr) (ns : List Nat) :
    (addr4ListLoop tokens ns).value =
      if tokens.all fun token => (inetPton4 token).isSome then
        listValue .uint32s (ns ++ ip4Tokens tokens)
      else none := by
  induction tokens generalizing ns with
  | nil =>
    simp [addr4ListLoop, gVariantBuilderEnd, Glib.call, listValue, ip4Tokens]
  | cons token tokens ih =>
    unfold addr4ListLoop
    cases h4 : inetPton4 token with
    | some addr => simp [ih, ip4Tokens, h4]
    | none => simp [Bind.bind, Glib.call, h4]

/-- A list that is split has a part. -/
theorem gStrsplit_eq_tokens {s : CStr} (h : s ≠ []) :
    gStrsplit s 32 = spaceTokens s ∧ spaceTokens s ≠ [] :=
  ⟨if_neg h, List.splitOn_ne_nil 32 s⟩

/-- The lists of a text: the addresses of both families when every part is one, and nothing
otherwise. -/
theorem addr46ListToGvariant_value (s : CStr) : (addr46ListToGvariant (some s)).value =
    if (spaceTokens s).all isAddress then
      (listValue .uint32s (ip4Tokens (spaceTokens s)),
        listValue .byteArrays (ip6Tokens (spaceTokens s)))
    else (none, none) := by
  have hend : ∀ {α : Type} (definite : Bool) (value : List α → GVariant) (xs : List α),
      (endBuilder definite value xs).value = listValue value xs := by
    intro α definite value xs
    unfold endBuilder listValue
    split <;> rfl
  unfold addr46ListToGvariant
  cases s with
  | nil =>
    have hempty : (spaceTokens []).all isAddress = false := by decide
    rw [hempty]
    rfl
  | cons b s =>
    have hne : b :: s ≠ [] := by simp
    rw [nonempty_cons]
    dsimp only
    rw [(gStrsplit_eq_tokens hne).1, addr46ListLoop_eq]
    cases (spaceTokens (b :: s)).all isAddress with
    | false => rfl
    | true => simp [Bind.bind, Pure.pure, hend]

/-- The list of IPv4 addresses of a text, when every part is one. -/
theorem addr4ListToGvariant_value (s : CStr) : (addr4ListToGvariant (some s)).value =
    if (spaceTokens s).all fun token => (inetPton4 token).isSome then
      listValue .uint32s (ip4Tokens (spaceTokens s))
    else none := by
  unfold addr4ListToGvariant
  cases s with
  | nil =>
    have hempty : ((spaceTokens []).all fun token => (inetPton4 token).isSome) = false := by decide
    rw [hempty]
    rfl
  | cons b s =>
    obtain ⟨hsplit, hne⟩ := gStrsplit_eq_tokens (s := b :: s) (by simp)
    rw [nonempty_cons]
    dsimp only
    rw [hsplit, if_neg (by simpa using hne), addr4ListLoop_value, List.nil_append]

/-- Both conversions of a list of addresses are right and agree: the addresses of each family in
their order when every part is an address, nothing when a part is none; and the IPv4 list is there
exactly when every part is an IPv4 address, where it is that of both families and there is no IPv6
list. -/
structure ListsAgree (s : CStr) : Prop where
  split : (∀ token ∈ spaceTokens s, isAddress token = true) →
    (addr46ListToGvariant (some s)).value =
      (listValue .uint32s (ip4Tokens (spaceTokens s)),
        listValue .byteArrays (ip6Tokens (spaceTokens s)))
  refused : (∃ token ∈ spaceTokens s, isAddress token = false) →
    (addr46ListToGvariant (some s)).value = (none, none)
  isSome : (addr4ListToGvariant (some s)).value.isSome = true ↔
    ∀ token ∈ spaceTokens s, (inetPton4 token).isSome = true
  agree : (addr4ListToGvariant (some s)).value.isSome = true →
    (addr46ListToGvariant (some s)).value = ((addr4ListToGvariant (some s)).value, none)

/-- The parts of a text that are IPv4 addresses are the addresses of the list. -/
theorem ip4Tokens_ne_nil {tokens : List CStr} (hne : tokens ≠ [])
    (h : ∀ token ∈ tokens, (inetPton4 token).isSome = true) : ip4Tokens tokens ≠ [] := by
  obtain ⟨token, tokens, rfl⟩ := List.exists_cons_of_ne_nil hne
  obtain ⟨addr, haddr⟩ := Option.isSome_iff_exists.1 (h token List.mem_cons_self)
  simp [ip4Tokens, haddr]

theorem ip6Tokens_of_ip4 {tokens : List CStr}
    (h : ∀ token ∈ tokens, (inetPton4 token).isSome = true) : ip6Tokens tokens = [] :=
  List.filterMap_eq_nil_iff.2 fun token htoken => inetPton6_of_inetPton4 (h token htoken)

/-- No address of a list is lost, and both conversions agree, for every text. -/
theorem listsAgree (s : CStr) : ListsAgree s := by
  have hne : spaceTokens s ≠ [] := List.splitOn_ne_nil 32 s
  have hisSome : (addr4ListToGvariant (some s)).value.isSome = true ↔
      ∀ token ∈ spaceTokens s, (inetPton4 token).isSome = true := by
    rw [addr4ListToGvariant_value]
    constructor
    · intro hsome
      split at hsome
      next hall => exact List.all_eq_true.1 hall
      next => cases hsome
    · intro hall
      rw [if_pos (List.all_eq_true.2 hall), listValue, if_neg (ip4Tokens_ne_nil hne hall)]
      rfl
  refine ⟨fun hall => ?_, fun ⟨token, htoken, hnone⟩ => ?_, hisSome, fun hsome => ?_⟩
  · rw [addr46ListToGvariant_value, if_pos (List.all_eq_true.2 hall)]
  · rw [addr46ListToGvariant_value, if_neg]
    intro hall
    rw [List.all_eq_true.1 hall token htoken] at hnone
    cases hnone
  · have hall := hisSome.1 hsome
    have haddress : (spaceTokens s).all isAddress = true := by
      refine List.all_eq_true.2 fun token htoken => ?_
      rw [isAddress, hall token htoken, Bool.true_or]
    rw [addr46ListToGvariant_value, addr4ListToGvariant_value, if_pos haddress,
      if_pos (List.all_eq_true.2 hall), ip6Tokens_of_ip4 hall]
    rfl

end NmGpclient
