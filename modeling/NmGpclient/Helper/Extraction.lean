import NmGpclient.Helper.Conversion
import NmGpclient.Helper.SplitTunnel

/-!
# What each include contributes

Each loop over the includes collects, in order, what each number contributes. A contribution should
depend on the texts of its own number only: an address that is none, or a prefix that is no number
in range, contributes nothing. `get_ip4_routes` keeps to that but for a prefix length in which
`strtol` finds no number, which it takes for a 0; `get_ip6_routes` does so too, and marks a default
route before it looks at the address.
-/

namespace NmGpclient

/-! ## What the server sent -/

/-- A prefix length that the server sent: a number, not below 0 and not above the bound. -/
def sentPrefix (s : CStr) (bound : Int) : Option Nat :=
  let n := strtol s
  if n.consumed = 0 ∨ n.erange = true ∨ n.value < 0 ∨ bound < n.value then none
  else some n.value.toNat

/-- The prefix length of an IPv4 include: `MASKLEN`, or the netmask without it. -/
def sentIp4Prefix (libs : HelperLibs) (maskLen mask : Option CStr) : Option Nat :=
  match maskLen with
  | some len => sentPrefix len 32
  | none => (mask.bind inetPton4).map fun addr => libs.ip4NetmaskToPrefix (sAddr addr)

/-- What an IPv4 include with these texts contributes. -/
def sentIp4Include (libs : HelperLibs) (addr maskLen mask : Option CStr) : Include (List Nat) :=
  match addr.bind inetPton4, sentIp4Prefix libs maskLen mask with
  | some _, some 0 => .defaultRoute
  | some network, some prefixLen => .route [sAddr network, prefixLen, 0, 0]
  | _, _ => .ignored

/-- What an IPv6 include with these texts contributes. -/
def sentIp6Include (libs : HelperLibs) (addr maskLen : Option CStr) : Include NMIPRoute :=
  match addr, maskLen.bind (sentPrefix · 128) with
  | some network, some prefixLen =>
    if (inetPton6 network).isSome = false then .ignored
    else if prefixLen = 0 then .defaultRoute
    else
      match libs.ipRouteNew network prefixLen with
      | some route => .route route
      | none => .ignored
  | _, _ => .ignored

section
variable (env : Env) (libs : HelperLibs)

/-- What the IPv4 include of a number contributes. -/
def sentIp4 (n : Nat) : Include (List Nat) :=
  sentIp4Include libs (includeVariable env "CISCO_SPLIT_INC_" n "_ADDR")
    (includeVariable env "CISCO_SPLIT_INC_" n "_MASKLEN")
    (includeVariable env "CISCO_SPLIT_INC_" n "_MASK")

/-- What the IPv6 include of a number contributes. -/
def sentIp6 (n : Nat) : Include NMIPRoute :=
  sentIp6Include libs (includeVariable env "CISCO_IPV6_SPLIT_INC_" n "_ADDR")
    (includeVariable env "CISCO_IPV6_SPLIT_INC_" n "_MASKLEN")

end

/-- The result is the routes that the includes contribute, in order, or nothing when none does; the
mark is that of the caller, or set by an include. -/
structure Extracts {α : Type} (num : Nat) (contribution : Nat → Include α) (value : List α → GVariant)
    (mark : Bool) (r : Option GVariant × Bool) : Prop where
  routes : ∀ v, r.1 = some v ↔ (List.range num).filterMap (fun n => (contribution n).route?) ≠ [] ∧
    v = value ((List.range num).filterMap fun n => (contribution n).route?)
  mark : r.2 = true ↔ mark = true ∨ ∃ n < num, (contribution n).isDefault = true

/-- How many includes of a family there are. -/
def includes (env : Env) (name : String) : Nat := ((includeCount env name).getD 0).toNat

/-! ## The loop -/

/-- A loop that takes the same routes and no fewer marks extracts what was sent exactly when it
takes no mark that was not sent, or the mark is set anyway. -/
theorem extracts_loopRoutes_iff {α : Type} {env : Env} {name : String}
    {contribution sent : Nat → Include α} {value : List α → GVariant} {mark : Bool}
    (hroute : ∀ n, (contribution n).route? = (sent n).route?)
    (hdefault : ∀ n, (sent n).isDefault = true → (contribution n).isDefault = true) :
    Extracts (includes env name) sent value mark
        (loopRoutes (includeCount env name) contribution value mark) ↔
      mark = true ∨ (∃ n < includes env name, (sent n).isDefault = true) ∨
        ∀ n < includes env name, (contribution n).isDefault = true → (sent n).isDefault = true := by
  have hroutes : ∀ v, (loopRoutes (includeCount env name) contribution value mark).1 = some v ↔
      (List.range (includes env name)).filterMap (fun n => (sent n).route?) ≠ [] ∧
        v = value ((List.range (includes env name)).filterMap fun n => (sent n).route?) := by
    intro v
    unfold loopRoutes includes
    cases includeCount env name with
    | none => simp
    | some num =>
      simp only [includeLoop_eq, hroute, Option.getD_some]
      split
      next hnone => simp [hnone]
      next hsome => simp [hsome, eq_comm]
  have hmark : (loopRoutes (includeCount env name) contribution value mark).2 = true ↔
      mark = true ∨ ∃ n < includes env name, (contribution n).isDefault = true := by
    unfold loopRoutes includes
    cases includeCount env name with
    | none => simp
    | some num => simp [includeLoop_eq]
  constructor
  · rintro ⟨-, hsent⟩
    by_contra hnot
    push Not at hnot
    obtain ⟨hunset, hnone, n, hn, htaken, hunsent⟩ := hnot
    rcases hsent.1 (hmark.2 (.inr ⟨n, hn, htaken⟩)) with hset | ⟨m, hm, hdef⟩
    · exact hunset hset
    · exact hnone m hm hdef
  · intro hcond
    refine ⟨hroutes, hmark.trans ⟨?_, ?_⟩⟩
    · rintro (hset | ⟨n, hn, htaken⟩)
      · exact .inl hset
      · rcases hcond with hset | hsome | hall
        · exact .inl hset
        · exact .inr hsome
        · exact .inr ⟨n, hn, hall n hn htaken⟩
    · rintro (hset | ⟨n, hn, hdef⟩)
      · exact .inl hset
      · exact .inr ⟨n, hn, hdefault n hdef⟩

/-! ## The two families -/

/-- What was sent is read, and a text without a number is read as 0. -/
theorem prefixLength_eq_sent (s : CStr) {bound : Int} (h0 : 0 ≤ bound) (hb : bound < 4294967296) :
    prefixLength s bound = if (strtol s).consumed = 0 then some 0 else sentPrefix s bound := by
  by_cases hnumber : (strtol s).consumed = 0
  · rw [if_pos hnumber, prefixLength_eq_zero h0 hb, strtol_of_consumed hnumber]
  · rw [if_neg hnumber]
    refine Option.ext fun prefixLen => ?_
    rw [prefixLength_eq_some hb]
    unfold sentPrefix
    generalize strtol s = r at hnumber ⊢
    obtain ⟨value, consumed, erange⟩ := r
    dsimp only at hnumber ⊢
    split
    next hbad =>
      refine iff_of_false ?_ (by simp)
      rintro ⟨rfl, hlo, hhi, -⟩
      rcases hbad with hbad | hbad | hbad | hbad
      · exact hnumber hbad
      · cases hbad
      · omega
      · omega
    next hgood =>
      push Not at hgood
      obtain ⟨-, hrange, hlo, hhi⟩ := hgood
      simp [hrange, hlo, hhi, eq_comm]

section
variable (env : Env) (libs : HelperLibs) (n : Nat)

/-- An IPv4 include contributes what was sent, but for an address whose prefix length is no
number. -/
theorem ip4Include_eq_sent : ip4Include env libs n =
    if (ip4Network env n).isSome = true ∧ ∃ len,
        includeVariable env "CISCO_SPLIT_INC_" n "_MASKLEN" = some len ∧ (strtol len).consumed = 0
      then .defaultRoute else sentIp4 env libs n := by
  unfold ip4Include sentIp4 sentIp4Include ip4Network ip4IncludePrefix sentIp4Prefix
  cases (includeVariable env "CISCO_SPLIT_INC_" n "_ADDR").bind inetPton4 with
  | none => simp
  | some network =>
    cases includeVariable env "CISCO_SPLIT_INC_" n "_MASKLEN" with
    | some len =>
      have h0 : (0 : Int) ≤ 32 := by decide
      have hb : (32 : Int) < 4294967296 := by decide
      simp only [prefixLength_eq_sent len h0 hb]
      by_cases hnumber : (strtol len).consumed = 0
      · simp [hnumber]
      · simp only [hnumber, if_false, Option.some.injEq, exists_eq_left', and_false]
        rcases sentPrefix len 32 with _ | _ | _ <;> rfl
    | none =>
      cases includeVariable env "CISCO_SPLIT_INC_" n "_MASK" with
      | none => simp
      | some mask =>
        cases hmask : inetPton4 mask with
        | none => simp [hmask]
        | some addr =>
          cases hlength : libs.ip4NetmaskToPrefix (sAddr addr) <;> simp [hmask, hlength]

theorem sentPrefix_of_consumed {s : CStr} {bound : Int} (h : (strtol s).consumed = 0) :
    sentPrefix s bound = none := by
  simp [sentPrefix, h]

/-- A prefix length of 0 that was sent is a number. -/
theorem sentPrefix_eq_zero {s : CStr} {bound : Int} (h0 : 0 ≤ bound) (hb : bound < 4294967296) :
    sentPrefix s bound = some 0 ↔ (strtol s).value = 0 ∧ (strtol s).consumed ≠ 0 := by
  by_cases hnumber : (strtol s).consumed = 0
  · simp [sentPrefix_of_consumed hnumber, hnumber]
  · have hread := prefixLength_eq_sent s h0 hb
    rw [if_neg hnumber] at hread
    rw [← hread, prefixLength_eq_zero h0 hb]
    simp [hnumber]

/-- The routes of the IPv4 includes are those that were sent. -/
theorem ip4Include_route?_eq : (ip4Include env libs n).route? = (sentIp4 env libs n).route? := by
  rw [ip4Include_eq_sent]
  split
  next h =>
    obtain ⟨-, len, hlen, hnumber⟩ := h
    unfold sentIp4 sentIp4Include sentIp4Prefix
    simp only [hlen, sentPrefix_of_consumed hnumber]
    cases (includeVariable env "CISCO_SPLIT_INC_" n "_ADDR").bind inetPton4 <;> rfl
  next => rfl

/-- The routes of the IPv6 includes are those that were sent, when libnm makes routes of addresses
only. -/
theorem ip6Include_route?_eq
    (hroute : ∀ dest prefixLen, (libs.ipRouteNew dest prefixLen).isSome = true ↔
      (inetPton6 dest).isSome = true ∧ prefixLen ≤ 128) :
    (ip6Include env libs n).route? = (sentIp6 env libs n).route? := by
  unfold ip6Include sentIp6 sentIp6Include
  cases includeVariable env "CISCO_IPV6_SPLIT_INC_" n "_ADDR" with
  | none => rfl
  | some network =>
    cases includeVariable env "CISCO_IPV6_SPLIT_INC_" n "_MASKLEN" with
    | none => rfl
    | some len =>
      have h0 : (0 : Int) ≤ 128 := by decide
      have hb : (128 : Int) < 4294967296 := by decide
      simp only [Option.bind_some, prefixLength_eq_sent len h0 hb]
      by_cases hnumber : (strtol len).consumed = 0
      · simp only [hnumber, if_true, sentPrefix_of_consumed hnumber]
        rfl
      · rw [if_neg hnumber]
        rcases sentPrefix len 128 with _ | _ | prefixLen
        · rfl
        · cases haddr : (inetPton6 network).isSome <;> simp [haddr, Include.route?]
        · have hmade := hroute network (prefixLen + 1)
          cases haddr : (inetPton6 network).isSome with
          | true =>
            cases hnew : libs.ipRouteNew network (prefixLen + 1) <;> simp [haddr, hnew, Include.route?]
          | false =>
            have hnone : libs.ipRouteNew network (prefixLen + 1) = none := by
              simpa [haddr] using hmade
            simp [haddr, hnone, Include.route?]

/-- An IPv6 include was sent as a default route when its address is one and its prefix length is the
number 0. -/
theorem sentIp6_isDefault : (sentIp6 env libs n).isDefault = true ↔
    ∃ network len, includeVariable env "CISCO_IPV6_SPLIT_INC_" n "_ADDR" = some network ∧
      includeVariable env "CISCO_IPV6_SPLIT_INC_" n "_MASKLEN" = some len ∧
      (strtol len).value = 0 ∧ (inetPton6 network).isSome = true ∧ (strtol len).consumed ≠ 0 := by
  unfold sentIp6 sentIp6Include
  cases includeVariable env "CISCO_IPV6_SPLIT_INC_" n "_ADDR" with
  | none => simp [Include.isDefault]
  | some network =>
    cases includeVariable env "CISCO_IPV6_SPLIT_INC_" n "_MASKLEN" with
    | none => simp [Include.isDefault]
    | some len =>
      have hzero : sentPrefix len 128 = some 0 ↔
          (strtol len).value = 0 ∧ (strtol len).consumed ≠ 0 :=
        sentPrefix_eq_zero (by decide) (by decide)
      simp only [Option.bind_some, Option.some.injEq, exists_eq_left', exists_and_left]
      cases hlength : sentPrefix len 128 with
      | none =>
        have hnot : ¬((strtol len).value = 0 ∧ (strtol len).consumed ≠ 0) := by
          simp [← hzero, hlength]
        simp only [Include.isDefault, Bool.false_eq_true, false_iff]
        rintro ⟨hvalue, -, hnumber⟩
        exact hnot ⟨hvalue, hnumber⟩
      | some prefixLen =>
        have hvalue : prefixLen = 0 ↔ (strtol len).value = 0 ∧ (strtol len).consumed ≠ 0 := by
          simpa [hlength] using hzero
        dsimp only
        cases haddr : (inetPton6 network).isSome with
        | false => simp [Include.isDefault]
        | true =>
          by_cases hp : prefixLen = 0
          · have hread := hvalue.1 hp
            simp [hp, Include.isDefault, hread.1, hread.2]
          · have hread : ¬((strtol len).value = 0 ∧ (strtol len).consumed ≠ 0) :=
              fun h => hp (hvalue.2 h)
            cases libs.ipRouteNew network prefixLen <;> simpa [hp, Include.isDefault] using hread

/-- What the loop takes for an IPv6 default route: any text for the address, and a prefix length in
which `strtol` finds a 0 or nothing. -/
theorem ip6Include_isDefault_iff : (ip6Include env libs n).isDefault = true ↔
    ∃ network len, includeVariable env "CISCO_IPV6_SPLIT_INC_" n "_ADDR" = some network ∧
      includeVariable env "CISCO_IPV6_SPLIT_INC_" n "_MASKLEN" = some len ∧
      (strtol len).value = 0 := by
  have h0 : (0 : Int) ≤ 128 := by decide
  have hb : (128 : Int) < 4294967296 := by decide
  rw [ip6Include_isDefault, Option.isSome_iff_exists, Option.bind_eq_some_iff]
  simp only [prefixLength_eq_zero h0 hb]
  constructor
  · rintro ⟨⟨network, haddr⟩, len, hlen, hvalue⟩
    exact ⟨network, len, haddr, hlen, hvalue⟩
  · rintro ⟨network, len, haddr, hlen, hvalue⟩
    exact ⟨⟨network, haddr⟩, len, hlen, hvalue⟩

/-- A default route that was sent is taken for one. -/
theorem ip4Include_isDefault_of_sent (hsent : (sentIp4 env libs n).isDefault = true) :
    (ip4Include env libs n).isDefault = true := by
  rw [ip4Include_eq_sent]
  split
  · rfl
  · exact hsent

theorem ip6Include_isDefault_of_sent (hsent : (sentIp6 env libs n).isDefault = true) :
    (ip6Include env libs n).isDefault = true := by
  obtain ⟨network, len, haddr, hlen, hvalue, -⟩ := (sentIp6_isDefault env libs n).1 hsent
  exact (ip6Include_isDefault_iff env libs n).2 ⟨network, len, haddr, hlen, hvalue⟩

/-- No IPv4 include is taken for a default route by mistake if its prefix length is a number. -/
theorem ip4Include_truly_isDefault :
    ((ip4Include env libs n).isDefault = true → (sentIp4 env libs n).isDefault = true) ↔
      ((ip4Network env n).isSome = true →
        ∀ len, includeVariable env "CISCO_SPLIT_INC_" n "_MASKLEN" = some len →
          (strtol len).consumed ≠ 0) := by
  rw [ip4Include_eq_sent]
  split
  next hbad =>
    obtain ⟨haddr, len, hlen, hnumber⟩ := hbad
    refine iff_of_false (fun hsent => ?_) fun hgood => hgood haddr len hlen hnumber
    -- a text without a number is no prefix that was sent
    have hnone : (sentIp4 env libs n).isDefault = false := by
      unfold sentIp4 sentIp4Include sentIp4Prefix
      simp only [hlen, sentPrefix_of_consumed hnumber]
      cases (includeVariable env "CISCO_SPLIT_INC_" n "_ADDR").bind inetPton4 <;> rfl
    exact absurd (hsent rfl) (by simp [hnone])
  next hgood =>
    exact iff_of_true id fun haddr len hlen hnumber => hgood ⟨haddr, len, hlen, hnumber⟩

/-- No IPv6 include is taken for a default route by mistake if its address is one, and its prefix
length a number. -/
theorem ip6Include_truly_isDefault :
    ((ip6Include env libs n).isDefault = true → (sentIp6 env libs n).isDefault = true) ↔
      ∀ network len, includeVariable env "CISCO_IPV6_SPLIT_INC_" n "_ADDR" = some network →
        includeVariable env "CISCO_IPV6_SPLIT_INC_" n "_MASKLEN" = some len →
        (strtol len).value = 0 →
          (inetPton6 network).isSome = true ∧ (strtol len).consumed ≠ 0 := by
  rw [ip6Include_isDefault_iff, sentIp6_isDefault]
  constructor
  · intro h network len haddr hlen hvalue
    obtain ⟨network', len', haddr', hlen', -, hvalid, hnumber⟩ :=
      h ⟨network, len, haddr, hlen, hvalue⟩
    cases haddr.symm.trans haddr'
    cases hlen.symm.trans hlen'
    exact ⟨hvalid, hnumber⟩
  · rintro h ⟨network, len, haddr, hlen, hvalue⟩
    obtain ⟨hvalid, hnumber⟩ := h network len haddr hlen hvalue
    exact ⟨network, len, haddr, hlen, hvalue, hvalid, hnumber⟩

end

/-- When the extraction of routes is exact.

Both loops extract what the server sent for each include, if and only if the IPv4 mark is set anyway
or each IPv4 include with an address has a number for its prefix length, and the IPv6 mark is set
anyway or each IPv6 include with a text for its address and a prefix length read as 0 has an address
and the number 0. libnm is assumed to make a route exactly of an address and a prefix length up to
128. -/
theorem extracts_iff (env : Env) (libs : HelperLibs) (mark4 mark6 : Bool)
    (hroute : ∀ dest prefixLen, (libs.ipRouteNew dest prefixLen).isSome = true ↔
      (inetPton6 dest).isSome = true ∧ prefixLen ≤ 128) :
    (Extracts (includes env "CISCO_SPLIT_INC") (sentIp4 env libs) .uint32Arrays mark4
        (getIp4Routes env libs mark4).value ∧
      Extracts (includes env "CISCO_IPV6_SPLIT_INC") (sentIp6 env libs) .ip6Routes mark6
        (getIp6Routes env libs mark6).value) ↔
    (mark4 = true ∨
      (∃ n < includes env "CISCO_SPLIT_INC", (sentIp4 env libs n).isDefault = true) ∨
      ∀ n < includes env "CISCO_SPLIT_INC", (ip4Network env n).isSome = true →
        ∀ len, includeVariable env "CISCO_SPLIT_INC_" n "_MASKLEN" = some len →
          (strtol len).consumed ≠ 0) ∧
    (mark6 = true ∨
      (∃ n < includes env "CISCO_IPV6_SPLIT_INC", (sentIp6 env libs n).isDefault = true) ∨
      ∀ n < includes env "CISCO_IPV6_SPLIT_INC", ∀ network len,
        includeVariable env "CISCO_IPV6_SPLIT_INC_" n "_ADDR" = some network →
        includeVariable env "CISCO_IPV6_SPLIT_INC_" n "_MASKLEN" = some len →
        (strtol len).value = 0 → (inetPton6 network).isSome = true ∧ (strtol len).consumed ≠ 0) := by
  rw [getIp4Routes_value, getIp6Routes_value,
    extracts_loopRoutes_iff (fun n => ip4Include_route?_eq env libs n)
      fun n => ip4Include_isDefault_of_sent env libs n,
    extracts_loopRoutes_iff (fun n => ip6Include_route?_eq env libs n hroute)
      fun n => ip6Include_isDefault_of_sent env libs n]
  refine and_congr (or_congr_right (or_congr_right ?_)) (or_congr_right (or_congr_right ?_))
  · exact forall₂_congr fun n _ => ip4Include_truly_isDefault env libs n
  · exact forall₂_congr fun n _ => ip6Include_truly_isDefault env libs n

theorem extracts_dual :
    Extracts (includes dualHelper.env "CISCO_SPLIT_INC") (sentIp4 dualHelper.env glibLibs)
        .uint32Arrays false (getIp4Routes dualHelper.env glibLibs false).value ∧
      Extracts (includes dualHelper.env "CISCO_IPV6_SPLIT_INC") (sentIp6 dualHelper.env glibLibs)
        .ip6Routes true (getIp6Routes dualHelper.env glibLibs true).value := by
  have hone : includes dualHelper.env "CISCO_SPLIT_INC" = 1 := by decide +kernel
  have hmasklen : includeVariable dualHelper.env "CISCO_SPLIT_INC_" 0 "_MASKLEN" =
      some (cstr "16") := by decide +kernel
  refine (extracts_iff dualHelper.env glibLibs false true glibLibs_ipRouteNew).2
    ⟨.inr (.inr ?_), .inl rfl⟩
  intro n hn _ len hlen
  rw [hone] at hn
  obtain rfl : n = 0 := by omega
  obtain rfl := Option.some.inj (hmasklen.symm.trans hlen)
  decide +kernel

/-- A server whose only IPv6 include has no address. -/
def noAddressEnv : Env := splitEnv [("CISCO_IPV6_SPLIT_INC", "1"),
  ("CISCO_IPV6_SPLIT_INC_0_ADDR", "none"), ("CISCO_IPV6_SPLIT_INC_0_MASKLEN", "0")]

/-- The include is nothing that the server sent, and marks a default route. -/
theorem noAddress_marked :
    ¬Extracts (includes noAddressEnv "CISCO_IPV6_SPLIT_INC") (sentIp6 noAddressEnv glibLibs)
      .ip6Routes false (getIp6Routes noAddressEnv glibLibs false).value := by
  intro h
  have hmarked : (getIp6Routes noAddressEnv glibLibs false).value.2 = true := by decide +kernel
  have hone : includes noAddressEnv "CISCO_IPV6_SPLIT_INC" = 1 := by decide +kernel
  rcases h.mark.1 hmarked with hset | ⟨n, hn, hdefault⟩
  · cases hset
  · rw [hone] at hn
    obtain rfl : n = 0 := by omega
    revert hdefault
    decide +kernel

end NmGpclient
