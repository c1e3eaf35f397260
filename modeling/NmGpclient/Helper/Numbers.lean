import NmGpclient.Helper.Extraction

/-!
# The numbers of the server

The helper reads its numbers with `strtol` and `atoi`, and narrows them to unsigned 32 bits. It
checks the MTU and the prefix lengths of the includes before that. It checks neither the prefix length
of the IPv6 netmask nor the count of the IPv6 includes, and `atoi` has narrowed a count before anyone
looks at it.

Each number is followed from its text to the dictionaries of a run; then `numbersKept_iff` says for
which texts all of them keep their value.
-/

namespace NmGpclient

/-! ## Narrowing -/

/-- A number keeps its value as a `guint32` exactly when it is in the range of one. -/
theorem toUInt32_eq_iff (n : Int) : (toUInt32 n : Int) = n ↔ 0 ≤ n ∧ n < 4294967296 := by
  unfold toUInt32
  omega

theorem atoi_lt (tmp : CStr) : atoi tmp < 4294967296 := by
  have hlt : (strtol tmp).value.bmod 4294967296 < (4294967296 + 1) / 2 :=
    Int.bmod_lt (by decide)
  rw [atoi]
  omega

/-- A count is kept when it is of an `int`, or becomes a count without includes. -/
theorem countKept_iff (tmp : CStr) :
    (atoi tmp).toNat = 0 ∨ ((atoi tmp).toNat : Int) = (strtol tmp).value ↔
      (-2147483648 ≤ (strtol tmp).value ∧ (strtol tmp).value ≤ 2147483647) ∨
        (strtol tmp).value.bmod 4294967296 ≤ 0 := by
  rw [atoi, Int.bmod_def]
  split <;> omega

/-- A count that is not negative is kept when it is one of an `int`, or becomes 0. -/
theorem sizeKept_iff (tmp : CStr) :
    0 ≤ atoi tmp ∧ ((atoi tmp).toNat = 0 ∨ ((atoi tmp).toNat : Int) = (strtol tmp).value) ↔
      (0 ≤ (strtol tmp).value ∧ (strtol tmp).value ≤ 2147483647) ∨
        (strtol tmp).value % 4294967296 = 0 := by
  rw [atoi, Int.bmod_def]
  split <;> omega

/-! ## What is kept -/

/-- The prefix lengths in a value: the one it is, or those of its routes. -/
def GVariant.prefixes : GVariant → List Nat
  | .uint32 n => [n]
  | .uint32Arrays routes => routes.filterMap (·[1]?)
  | .ip6Routes routes => routes.map (·.prefixLen)
  | _ => []

/-- The prefix lengths of a family, of its address and of its routes, are from 1 to a bound. -/
def PrefixesIn (bound : Nat) (dict : Dict IpConfigKey) : Prop :=
  ∀ key value, (key, value) ∈ dict → key = .prefixLen ∨ key = .routes →
    ∀ p ∈ value.prefixes, 1 ≤ p ∧ p ≤ bound

/-- The numbers of a call are in range. -/
def HelperCall.InRange : HelperCall → Prop
  | .setFailure _ => True
  | .setConfig config => ∀ mtu, (.mtu, .uint32 mtu) ∈ config → mtu ≤ 20000
  | .setIp4Config config => PrefixesIn 32 config
  | .setIp6Config config => PrefixesIn 128 config

/-- The numbers of a run are in range where they are sent, and each one has the value of its text:
the MTU, the prefix lengths of the includes and of the IPv6 netmask (128 for a 0), the size that is
reserved for the IPv6 routes, and the numbers up to which the includes are read, if any are. -/
structure NumbersKept (i : HelperInput) : Prop where
  range : ∀ c ∈ (runHelper i).2.sent, c.InRange
  mtu : ∀ n : Nat, (.mtu, .uint32 n) ∈ (runHelper i).2.builder →
    ∃ tmp, envVar i "INTERNAL_IP4_MTU" = some tmp ∧ (n : Int) = (strtol tmp).value
  ip4Routes : ∀ routes, (.routes, .uint32Arrays routes) ∈ (runHelper i).2.ip4builder →
    ∀ route ∈ routes, ∃ (n network p : Nat), route = [network, p, 0, 0] ∧
      ∀ len, includeVariable i.env "CISCO_SPLIT_INC_" n "_MASKLEN" = some len →
        (p : Int) = (strtol len).value
  ip6Routes : ∀ routes, (.routes, .ip6Routes routes) ∈ (runHelper i).2.ip6builder →
    ∀ route ∈ routes, ∃ n len,
      includeVariable i.env "CISCO_IPV6_SPLIT_INC_" n "_MASKLEN" = some len ∧
        (route.prefixLen : Int) = (strtol len).value
  ip6Prefix : ∀ n : Nat, (.prefixLen, .uint32 n) ∈ (runHelper i).2.ip6builder →
    ∃ tmp, ip6NetmaskSuffix i = some tmp ∧
      ((n : Int) = (strtol tmp).value ∨ (strtol tmp).value = 0 ∧ n = 128)
  reserved : ∀ n : Nat, .ptrArrayNew n ∈ (runHelper i).2.glib →
    ∃ tmp, envVar i "CISCO_IPV6_SPLIT_INC" = some tmp ∧ (n : Int) = atoi tmp
  counts : ∀ config, .setConfig config ∈ (runHelper i).2.sent →
    ∀ name ∈ ["CISCO_SPLIT_INC", "CISCO_IPV6_SPLIT_INC"], ∀ tmp, envVar i name = some tmp →
      includes i.env name = 0 ∨ (includes i.env name : Int) = (strtol tmp).value

/-- The numbers that the helper does not check are in range: the counts of the includes are of an
`int`, and not negative for IPv6, unless they become a count without includes; the prefix length of
the IPv6 netmask is of a `guint32`, and of IPv6 when the tunnel has that family. -/
structure NumbersFit (i : HelperInput) : Prop where
  ip4Count : ∀ tmp, envVar i "CISCO_SPLIT_INC" = some tmp →
    (-2147483648 ≤ (strtol tmp).value ∧ (strtol tmp).value ≤ 2147483647) ∨
      (strtol tmp).value.bmod 4294967296 ≤ 0
  ip6Count : ∀ tmp, envVar i "CISCO_IPV6_SPLIT_INC" = some tmp →
    (0 ≤ (strtol tmp).value ∧ (strtol tmp).value ≤ 2147483647) ∨
      (strtol tmp).value % 4294967296 = 0
  ip6Netmask : ∀ tmp, ip6NetmaskSuffix i = some tmp →
    0 ≤ (strtol tmp).value ∧ (strtol tmp).value < 4294967296 ∧
      (hasIp6 i = true → (strtol tmp).value ≤ 128)

/-! ## What is read -/

section
variable (i : HelperInput)

/-- The MTU that is read has the value of its text, up to 20000. -/
theorem readMtu_eq_some {v : GVariant} (h : readMtu i = some v) :
    ∃ n tmp, v = .uint32 n ∧ envVar i "INTERNAL_IP4_MTU" = some tmp ∧
      (n : Int) = (strtol tmp).value ∧ n ≤ 20000 := by
  obtain ⟨tmp, htmp, hread⟩ := Option.bind_eq_some_iff.1 h
  dsimp only at hread
  split_ifs at hread with hbad
  simp only [Bool.or_eq_true, decide_eq_true_eq, not_or, not_lt] at hbad
  obtain ⟨⟨-, hlo⟩, hhi⟩ := hbad
  have hvalue := (toUInt32_eq_iff _).2 ⟨hlo, by omega⟩
  exact ⟨_, tmp, (Option.some.inj hread).symm, (nonempty_eq_some.1 htmp).1, hvalue, by omega⟩

theorem readIp4Prefix_range (hmask : ∀ mask, i.libs.ip4NetmaskToPrefix mask ≤ 32) {n : Nat}
    (h : readIp4Prefix i = some n) : 1 ≤ n ∧ n ≤ 32 := by
  obtain ⟨addr, -, rfl⟩ := Option.map_eq_some_iff.1 h
  have hle := hmask (sAddr addr)
  dsimp only
  split <;> omega

/-- A route of the loop is the contribution of a number. -/
theorem mem_includeLoop {α : Type} {contribution : Nat → Include α} {num : Int} {mark : Bool}
    {r : α} (h : r ∈ (includeLoop contribution num mark).1) : ∃ n, contribution n = .route r := by
  rw [includeLoop_eq] at h
  obtain ⟨n, -, hn⟩ := List.mem_filterMap.1 h
  refine ⟨n, ?_⟩
  cases hcontribution : contribution n <;> simp_all [Include.route?]

/-- The routes of a family are the contributions of numbers. -/
theorem loopRoutes_eq_some {α : Type} {count : Option Int} {contribution : Nat → Include α}
    {value : List α → GVariant} {mark : Bool} {v : GVariant}
    (h : (loopRoutes count contribution value mark).1 = some v) :
    ∃ routes, v = value routes ∧ ∀ r ∈ routes, ∃ n, contribution n = .route r := by
  unfold loopRoutes at h
  cases count with
  | none => cases h
  | some num =>
    dsimp only at h
    split_ifs at h
    exact ⟨_, (Option.some.inj h).symm, fun r hr => mem_includeLoop hr⟩

/-- An IPv4 route has a prefix length from 1 to 32, the value of its text when it has one. -/
theorem ip4Include_eq_route (hmask : ∀ mask, i.libs.ip4NetmaskToPrefix mask ≤ 32) {n : Nat}
    {route : List Nat} (h : ip4Include i.env i.libs n = .route route) :
    ∃ network p, route = [network, p, 0, 0] ∧ 1 ≤ p ∧ p ≤ 32 ∧
      ∀ len, includeVariable i.env "CISCO_SPLIT_INC_" n "_MASKLEN" = some len →
        (p : Int) = (strtol len).value := by
  unfold ip4Include at h
  split at h
  next => cases h
  next network hnetwork =>
    split at h
    next => cases h
    next => cases h
    next p hne hlength =>
      obtain rfl := Include.route.inj h
      refine ⟨_, p, rfl, Nat.one_le_iff_ne_zero.2 hne, ?_⟩
      unfold ip4IncludePrefix at hlength
      cases hlen : includeVariable i.env "CISCO_SPLIT_INC_" n "_MASKLEN" with
      | some len =>
        rw [hlen] at hlength
        obtain ⟨-, hlo, hhi, rfl⟩ := (prefixLength_eq_some (by decide)).1 hlength
        refine ⟨by omega, fun len' hlen' => ?_⟩
        obtain rfl := Option.some.inj hlen'
        omega
      | none =>
        rw [hlen] at hlength
        simp only [Option.bind_eq_bind, Option.bind_eq_some_iff, Option.some.injEq] at hlength
        obtain ⟨_, -, mask, -, rfl⟩ := hlength
        exact ⟨hmask _, nofun⟩

/-- An IPv6 route has a prefix length from 1 to 128, the value of its text. -/
theorem ip6Include_eq_route
    (hroute : ∀ dest p route, i.libs.ipRouteNew dest p = some route → route.prefixLen = p) {n : Nat}
    {route : NMIPRoute} (h : ip6Include i.env i.libs n = .route route) :
    1 ≤ route.prefixLen ∧ route.prefixLen ≤ 128 ∧
      ∃ len, includeVariable i.env "CISCO_IPV6_SPLIT_INC_" n "_MASKLEN" = some len ∧
        (route.prefixLen : Int) = (strtol len).value := by
  unfold ip6Include at h
  split at h
  next => cases h
  next network hnetwork =>
    split at h
    next => cases h
    next => cases h
    next p hne hlength =>
      split at h
      next => cases h
      next made hmade =>
        obtain rfl := Include.route.inj h
        obtain ⟨len, hlen, hread⟩ := Option.bind_eq_some_iff.1 hlength
        have hp : p ≠ 0 := hne
        obtain ⟨-, hlo, hhi, rfl⟩ := (prefixLength_eq_some (by decide)).1 hread
        rw [hroute _ _ _ hmade]
        exact ⟨by omega, by omega, len, hlen, by omega⟩

end

/-! ## The size that is reserved -/

section
variable (n : Nat)

theorem ptrArrayNew_notMem_strToGvariant (libs : HelperLibs) (str : Option CStr)
    (tryConvert : Bool) : .ptrArrayNew n ∉ (strToGvariant libs str tryConvert).calls := by
  unfold strToGvariant
  cases nonempty str with
  | none => simp [Pure.pure]
  | some s =>
    dsimp only
    cases utf8Validate s with
    | true => simp [gVariantNewString, Glib.call]
    | false =>
      cases tryConvert with
      | false => simp [Bind.bind, Pure.pure, gVariantNewString, Glib.call]
      | true =>
        simp only [Bind.bind, Pure.pure, gConvert, Glib.call, Option.bind_some]
        cases libs.gConvert (cstr "ISO-8859-1") (cstr "UTF-8") s <;>
          simp [gVariantNewString, Glib.call]

theorem ptrArrayNew_notMem_addr4ListLoop : ∀ (parts : List CStr) (ns : List Nat),
    .ptrArrayNew n ∉ (addr4ListLoop parts ns).calls
  | [], ns => by simp [addr4ListLoop, gVariantBuilderEnd, Glib.call]
  | part :: parts, ns => by
      unfold addr4ListLoop
      cases inetPton4 part with
      | some addr => exact ptrArrayNew_notMem_addr4ListLoop parts (ns ++ [sAddr addr])
      | none => simp [gVariantBuilderEnd, Glib.call, Bind.bind]

theorem ptrArrayNew_notMem_addr4List (str : Option CStr) :
    .ptrArrayNew n ∉ (addr4ListToGvariant str).calls := by
  unfold addr4ListToGvariant
  split
  · simp [Pure.pure]
  · dsimp only
    split
    · simp [Pure.pure]
    · exact ptrArrayNew_notMem_addr4ListLoop n _ _

theorem ptrArrayNew_notMem_addr46List (str : Option CStr) :
    .ptrArrayNew n ∉ (addr46ListToGvariant str).calls := by
  unfold addr46ListToGvariant
  split
  · simp [Pure.pure]
  · split
    · simp [Pure.pure]
    · simp only [Bind.bind, Pure.pure, endBuilder]
      split_ifs <;> simp [Glib.call]

theorem ptrArrayNew_notMem_splitDnsList (str : Option CStr) :
    .ptrArrayNew n ∉ (splitDnsListToGvariant str).calls := by
  unfold splitDnsListToGvariant
  split
  · simp [Pure.pure]
  · dsimp only
    split <;> simp [gVariantNewStrv, Glib.call, Pure.pure]

theorem ptrArrayNew_notMem_getIp4Routes (env : Env) (libs : HelperLibs) (mark : Bool) :
    .ptrArrayNew n ∉ (getIp4Routes env libs mark).calls := by
  unfold getIp4Routes
  split
  · simp [Pure.pure]
  · simp only [Bind.bind, Glib.call]
    split <;> simp [Pure.pure]

/-- An array is made when the IPv6 includes are counted, and reserves the count. -/
theorem ptrArrayNew_mem_configAdded (i : HelperInput) : .ptrArrayNew n ∈ (configAdded i).glib ↔
    configOk i = true ∧ ∃ num, includeCount i.env "CISCO_IPV6_SPLIT_INC" = some num ∧
      n = toUInt32 num := by
  have hroutes : .ptrArrayNew n ∈ (readIp6Routes i).calls ↔
      ∃ num, includeCount i.env "CISCO_IPV6_SPLIT_INC" = some num ∧ n = toUInt32 num := by
    unfold readIp6Routes getIp6Routes
    cases includeCount i.env "CISCO_IPV6_SPLIT_INC" <;> simp [Pure.pure, Bind.bind, Glib.call]
  have htundev : .ptrArrayNew n ∉ (readTundev i).calls := ptrArrayNew_notMem_strToGvariant n _ _ _
  have htext : ∀ name, .ptrArrayNew n ∉ (readText i name).calls :=
    fun _ => ptrArrayNew_notMem_strToGvariant n _ _ _
  have hip4Routes : .ptrArrayNew n ∉ (readIp4Routes i).calls :=
    ptrArrayNew_notMem_getIp4Routes n _ _ _
  have hdns : .ptrArrayNew n ∉ (readDns i).calls := ptrArrayNew_notMem_addr46List n _
  have hnbns : .ptrArrayNew n ∉ (readNbns i).calls := ptrArrayNew_notMem_addr4List n _
  have hdomains : .ptrArrayNew n ∉ (readDomains i).calls := by
    unfold readDomains
    simp only [Bind.bind, List.mem_append, ptrArrayNew_notMem_splitDnsList, false_or]
    cases (splitDnsListToGvariant (envVar i "CISCO_SPLIT_DNS")).value with
    | some val => simp [Pure.pure]
    | none => exact ptrArrayNew_notMem_splitDnsList n _
  unfold configAdded Added.onlyIf configOk
  split_ifs <;> simp [*, textsAdded, listsAdded, ip6Added]

end

/-! ## The entries -/

section
variable (i : HelperInput) {v : GVariant}

theorem mtu_mem_configAdded (h : (.mtu, v) ∈ (configAdded i).builder) : readMtu i = some v := by
  revert h
  unfold configAdded Added.onlyIf
  split_ifs <;> simp [textsAdded, listsAdded, ip6Added, mem_entry]

theorem prefixLen_mem_ip4 (h : (.prefixLen, v) ∈ (configAdded i).ip4builder) :
    ∃ n, readIp4Prefix i = some n ∧ .uint32 n = v := by
  revert h
  unfold configAdded Added.onlyIf
  split_ifs <;>
    simp [textsAdded, listsAdded, ip6Added, mem_entry, mem_routeEntries]

theorem routes_mem_ip4 (h : (.routes, v) ∈ (configAdded i).ip4builder) :
    (readIp4Routes i).value.1 = some v := by
  revert h
  unfold configAdded Added.onlyIf
  split_ifs <;> simp [textsAdded, listsAdded, ip6Added, mem_entry, mem_routeEntries]

theorem prefixLen_mem_ip6 : (.prefixLen, v) ∈ (configAdded i).ip6builder ↔
    configOk i = true ∧ ∃ n, readIp6Prefix i = some n ∧ .uint32 n = v := by
  unfold configAdded Added.onlyIf configOk
  split_ifs <;>
    simp [*, textsAdded, listsAdded, ip6Added, mem_entry, mem_routeEntries]

theorem routes_mem_ip6 (h : (.routes, v) ∈ (configAdded i).ip6builder) :
    (readIp6Routes i).value.1 = some v := by
  revert h
  unfold configAdded Added.onlyIf
  split_ifs <;> simp [textsAdded, listsAdded, ip6Added, mem_entry, mem_routeEntries]

/-- The MTU of what is handed over is the one that was read. -/
theorem mtu_mem_handedConfig {has : Bool × Bool} {s : HelperState} :
    (.mtu, v) ∈ handedConfig has s ↔ (.mtu, v) ∈ s.builder := by
  obtain ⟨has4, has6⟩ := has
  cases has4 <;> cases has6 <;> simp [handedConfig, familyFlag]

end

/-! ## A run -/

section
variable (i : HelperInput)

theorem ip4builder_prefixesIn (hmask : ∀ mask, i.libs.ip4NetmaskToPrefix mask ≤ 32) :
    PrefixesIn 32 (configAdded i).ip4builder := by
  rintro key value hmem (rfl | rfl) p hp
  · obtain ⟨n, hn, rfl⟩ := prefixLen_mem_ip4 i hmem
    obtain rfl := List.mem_singleton.1 hp
    exact readIp4Prefix_range i hmask hn
  · have hread := routes_mem_ip4 i hmem
    rw [readIp4Routes, getIp4Routes_value] at hread
    obtain ⟨routes, rfl, hall⟩ := loopRoutes_eq_some hread
    obtain ⟨route, hroute, hp⟩ := List.mem_filterMap.1 hp
    obtain ⟨n, hn⟩ := hall route hroute
    obtain ⟨network, p', rfl, hlo, hhi, -⟩ := ip4Include_eq_route i hmask hn
    obtain rfl := Option.some.inj hp
    exact ⟨hlo, hhi⟩

theorem ip6builder_prefixesIn
    (hroute : ∀ dest p route, i.libs.ipRouteNew dest p = some route → route.prefixLen = p)
    (hnetmask : ∀ tmp, ip6NetmaskSuffix i = some tmp →
      0 ≤ (strtol tmp).value ∧ (strtol tmp).value ≤ 128) :
    PrefixesIn 128 (configAdded i).ip6builder := by
  rintro key value hmem (rfl | rfl) p hp
  · obtain ⟨-, n, hn, rfl⟩ := (prefixLen_mem_ip6 i).1 hmem
    obtain rfl := List.mem_singleton.1 hp
    obtain ⟨tmp, htmp, hn⟩ := Option.map_eq_some_iff.1 hn
    have hfit := hnetmask tmp htmp
    unfold toUInt32 at hn
    dsimp only at hn
    split_ifs at hn <;> omega
  · have hread := routes_mem_ip6 i hmem
    rw [readIp6Routes, getIp6Routes_value] at hread
    obtain ⟨routes, rfl, hall⟩ := loopRoutes_eq_some hread
    obtain ⟨route, hmade, rfl⟩ := List.mem_map.1 hp
    obtain ⟨n, hn⟩ := hall route hmade
    obtain ⟨hlo, hhi, -⟩ := ip6Include_eq_route i hroute hn
    exact ⟨hlo, hhi⟩

/-- How many includes a count's text stands for. -/
theorem includes_eq {name : String} {tmp : CStr} (h : envVar i name = some tmp) :
    includes i.env name = (atoi tmp).toNat := by
  unfold envVar at h
  unfold includes includeCount
  rw [h]
  cases tmp with
  | nil => rfl
  | cons b tmp =>
    dsimp only [nonempty_cons]
    split_ifs with hzero
    · rw [hzero]
      rfl
    · rfl

/-- A count is the number of its text, other than 0. -/
theorem includeCount_eq_some {name : String} {num : Int} :
    includeCount i.env name = some num ↔
      ∃ tmp, envVar i name = some tmp ∧ num = atoi tmp ∧ num ≠ 0 := by
  unfold includeCount envVar
  rcases getenv i.env (cstr name) with _ | _ | ⟨b, tmp⟩
  · simp
  · have hnone : atoi [] = 0 := rfl
    simp [hnone]
  · simp only [nonempty_cons, Option.some.injEq, exists_eq_left']
    split_ifs with hzero
    · simp [hzero]
    · simp only [Option.some.injEq]
      constructor
      · rintro rfl
        exact ⟨rfl, hzero⟩
      · rintro ⟨rfl, -⟩
        rfl

/-- What a run leaves of what `main` read: the handoff changes the flags and makes no array. -/
structure Leaves (a : Added) (s : HelperState) : Prop where
  mtu : ∀ v, (.mtu, v) ∈ s.builder ↔ (.mtu, v) ∈ a.builder
  ip4builder : s.ip4builder = a.ip4builder
  ip6builder : s.ip6builder = a.ip6builder
  reserved : ∀ n, .ptrArrayNew n ∈ s.glib ↔ .ptrArrayNew n ∈ a.glib

theorem runHelper_leaves (hconnects : Connects i) (hproxy : i.proxyCreated = true) :
    Leaves (configAdded i) (runHelper i).2 := by
  cases hok : configOk i with
  | false =>
    obtain ⟨reason, hrun⟩ := runHelper_refused i hconnects hproxy hok
    rw [hrun]
    exact ⟨fun _ => .rfl, rfl, rfl, fun _ => .rfl⟩
  | true =>
    rw [runHelper_handedOff i hconnects hproxy hok]
    refine ⟨fun v => mtu_mem_handedConfig, rfl, rfl, fun n => ?_⟩
    simp only [endCalls, HelperState.extend, List.nil_append]
    split_ifs <;> simp

/-- The calls of a run are in range when the prefix length of the IPv6 netmask is. -/
theorem sent_inRange (hmask : ∀ mask, i.libs.ip4NetmaskToPrefix mask ≤ 32)
    (hroute : ∀ dest p route, i.libs.ipRouteNew dest p = some route → route.prefixLen = p)
    (hconnects : Connects i) (hproxy : i.proxyCreated = true)
    (hfit : configOk i = true → hasIp6 i = true → ∀ tmp, ip6NetmaskSuffix i = some tmp →
      0 ≤ (strtol tmp).value ∧ (strtol tmp).value ≤ 128)
    {c : HelperCall} (hc : c ∈ (runHelper i).2.sent) : c.InRange := by
  cases hok : configOk i with
  | false =>
    obtain ⟨reason, hrun⟩ := runHelper_refused i hconnects hproxy hok
    rw [hrun] at hc
    obtain rfl := List.mem_singleton.1 hc
    trivial
  | true =>
    rw [runHelper_handedOff i hconnects hproxy hok] at hc
    have hplan := mem_of_mem_untilRejected hc
    unfold handedPlan at hplan
    cases c with
    | setFailure reason => trivial
    | setConfig config =>
      have hconfig : config = handedConfig (hasIp4 i, hasIp6 i)
          (HelperState.extend ⟨[], [], [], [], []⟩ (configAdded i)) := by
        simpa [plan] using hplan
      intro mtu hmtu
      rw [hconfig, mtu_mem_handedConfig] at hmtu
      obtain ⟨n, tmp, hn, -, -, hle⟩ := readMtu_eq_some i (mtu_mem_configAdded i hmtu)
      obtain rfl := GVariant.uint32.inj hn
      exact hle
    | setIp4Config dict =>
      rw [(mem_plan ..).1] at hplan
      split_ifs at hplan
      obtain rfl := Option.some.inj hplan
      exact ip4builder_prefixesIn i hmask
    | setIp6Config dict =>
      rw [(mem_plan ..).2] at hplan
      split_ifs at hplan with hip6
      obtain rfl := Option.some.inj hplan
      exact ip6builder_prefixesIn i hroute (hfit hok hip6)

/-- With unchecked numbers in range, every number of a run keeps its value. -/
theorem numbersKept_of_fit (hmask : ∀ mask, i.libs.ip4NetmaskToPrefix mask ≤ 32)
    (hroute : ∀ dest p route, i.libs.ipRouteNew dest p = some route → route.prefixLen = p)
    (h : Connects i → configOk i = true → NumbersFit i) : NumbersKept i := by
  by_cases hruns : Connects i ∧ i.proxyCreated = true
  · obtain ⟨hconnects, hproxy⟩ := hruns
    have hleaves := runHelper_leaves i hconnects hproxy
    refine ⟨fun c hc => ?_, fun n hn => ?_, fun routes hroutes route hmem => ?_,
      fun routes hroutes route hmem => ?_, fun n hn => ?_, fun n hn => ?_,
      fun config hconfig name hname tmp htmp => ?_⟩
    · refine sent_inRange i hmask hroute hconnects hproxy (fun hok hip6 tmp htmp => ?_) hc
      obtain ⟨hlo, -, hhi⟩ := (h hconnects hok).ip6Netmask tmp htmp
      exact ⟨hlo, hhi hip6⟩
    · rw [hleaves.mtu] at hn
      obtain ⟨m, tmp, hm, htmp, hvalue, -⟩ := readMtu_eq_some i (mtu_mem_configAdded i hn)
      obtain rfl := GVariant.uint32.inj hm
      exact ⟨tmp, htmp, hvalue⟩
    · rw [hleaves.ip4builder] at hroutes
      have hread := routes_mem_ip4 i hroutes
      rw [readIp4Routes, getIp4Routes_value] at hread
      obtain ⟨_, hvalue, hall⟩ := loopRoutes_eq_some hread
      obtain rfl := GVariant.uint32Arrays.inj hvalue
      obtain ⟨n, hn⟩ := hall route hmem
      obtain ⟨network, p, hp, -, -, hlen⟩ := ip4Include_eq_route i hmask hn
      exact ⟨n, network, p, hp, hlen⟩
    · rw [hleaves.ip6builder] at hroutes
      have hread := routes_mem_ip6 i hroutes
      rw [readIp6Routes, getIp6Routes_value] at hread
      obtain ⟨_, hvalue, hall⟩ := loopRoutes_eq_some hread
      obtain rfl := GVariant.ip6Routes.inj hvalue
      obtain ⟨n, hn⟩ := hall route hmem
      obtain ⟨-, -, len, hlen, hp⟩ := ip6Include_eq_route i hroute hn
      exact ⟨n, len, hlen, hp⟩
    · rw [hleaves.ip6builder] at hn
      obtain ⟨hok, m, hm, hvalue⟩ := (prefixLen_mem_ip6 i).1 hn
      obtain rfl := GVariant.uint32.inj hvalue
      obtain ⟨tmp, htmp, hm⟩ := Option.map_eq_some_iff.1 hm
      obtain ⟨hlo, hhi, -⟩ := (h hconnects hok).ip6Netmask tmp htmp
      refine ⟨tmp, htmp, ?_⟩
      unfold toUInt32 at hm
      dsimp only at hm
      split_ifs at hm <;> omega
    · rw [hleaves.reserved] at hn
      obtain ⟨hok, num, hnum, rfl⟩ := (ptrArrayNew_mem_configAdded n i).1 hn
      obtain ⟨tmp, htmp, rfl, -⟩ := (includeCount_eq_some i).1 hnum
      have hsize := (sizeKept_iff tmp).2 ((h hconnects hok).ip6Count tmp htmp)
      exact ⟨tmp, htmp, (toUInt32_eq_iff _).2 ⟨hsize.1, atoi_lt tmp⟩⟩
    · have hok : configOk i = true := by
        by_contra hnot
        obtain ⟨reason, hrun⟩ := runHelper_refused i hconnects hproxy (by simpa using hnot)
        rw [hrun] at hconfig
        cases List.mem_singleton.1 hconfig
      have hfit := h hconnects hok
      rw [includes_eq i htmp]
      rcases List.mem_pair.1 hname with rfl | rfl
      · exact (countKept_iff tmp).2 (hfit.ip4Count tmp htmp)
      · exact ((sizeKept_iff tmp).2 (hfit.ip6Count tmp htmp)).2
  · have hrun := runHelper_idle i hruns
    constructor <;> simp [hrun]

/-- The numbers of a configuration that is handed over are in range if they keep their value. -/
theorem numbersFit_of_kept (hconnects : Connects i) (hproxy : i.proxyCreated = true)
    (haccepts : ∀ c, i.accepts c = true) (hok : configOk i = true) (h : NumbersKept i) :
    NumbersFit i := by
  have hleaves := runHelper_leaves i hconnects hproxy
  have hsent : (runHelper i).2.sent = handedPlan (hasIp4 i, hasIp6 i)
      (HelperState.extend ⟨[], [], [], [], []⟩ (configAdded i)) := by
    rw [runHelper_handedOff i hconnects hproxy hok]
    exact untilRejected_of_accepted fun c _ => haccepts c
  have hcounts : ∀ name ∈ ["CISCO_SPLIT_INC", "CISCO_IPV6_SPLIT_INC"], ∀ tmp,
      envVar i name = some tmp →
        (atoi tmp).toNat = 0 ∨ ((atoi tmp).toNat : Int) = (strtol tmp).value := by
    intro name hname tmp htmp
    rw [← includes_eq i htmp]
    have hconfig : .setConfig (handedConfig (hasIp4 i, hasIp6 i)
        (HelperState.extend ⟨[], [], [], [], []⟩ (configAdded i))) ∈ (runHelper i).2.sent := by
      rw [hsent]
      exact List.mem_cons_self
    exact h.counts _ hconfig name hname tmp htmp
  refine ⟨fun tmp htmp => ?_, fun tmp htmp => ?_, fun tmp htmp => ?_⟩
  · exact (countKept_iff tmp).1 (hcounts _ (by simp) tmp htmp)
  · refine (sizeKept_iff tmp).1 ⟨?_, hcounts _ (by simp) tmp htmp⟩
    by_cases hzero : atoi tmp = 0
    · exact hzero.ge
    · have hread : includeCount i.env "CISCO_IPV6_SPLIT_INC" = some (atoi tmp) :=
        (includeCount_eq_some i).2 ⟨tmp, htmp, rfl, hzero⟩
      obtain ⟨tmp', htmp', hkept⟩ := h.reserved _ ((hleaves.reserved _).2
        ((ptrArrayNew_mem_configAdded _ i).2 ⟨hok, _, hread, rfl⟩))
      obtain rfl := Option.some.inj (htmp.symm.trans htmp')
      exact ((toUInt32_eq_iff _).1 hkept).1
  · have hread : (.prefixLen, .uint32 (if toUInt32 (strtol tmp).value = 0 then 128
        else toUInt32 (strtol tmp).value)) ∈ (configAdded i).ip6builder :=
      (prefixLen_mem_ip6 i).2 ⟨hok, _, Option.map_eq_some_iff.2 ⟨tmp, htmp, rfl⟩, rfl⟩
    obtain ⟨tmp', htmp', hkept⟩ := h.ip6Prefix _ (hleaves.ip6builder ▸ hread)
    obtain rfl := Option.some.inj (htmp.symm.trans htmp')
    have hvalue : 0 ≤ (strtol tmp).value ∧ (strtol tmp).value < 4294967296 := by
      unfold toUInt32 at hkept
      split_ifs at hkept <;> omega
    refine ⟨hvalue.1, hvalue.2, fun hip6 => ?_⟩
    have hrange := h.range (.setIp6Config (configAdded i).ip6builder) (by
      rw [hsent, handedPlan, (mem_plan ..).2, if_pos hip6]
      rfl)
    have hbound := (hrange _ _ hread (.inl rfl) _ (List.mem_singleton_self _)).2
    unfold toUInt32 at hbound
    split_ifs at hbound <;> omega

/-- When no number of the server leaves its range.

Whatever D-Bus answers, the numbers of the run are in range and keep their value, if and only if,
for a connection with the values it needs, the counts of the includes and the prefix length of the
IPv6 netmask are in range. The libraries are assumed to return a prefix length up to 32 for a
netmask, and a route with the prefix length it was made with. -/
theorem numbersKept_iff (hmask : ∀ mask, i.libs.ip4NetmaskToPrefix mask ≤ 32)
    (hroute : ∀ dest p route, i.libs.ipRouteNew dest p = some route → route.prefixLen = p) :
    (∀ proxyCreated accepts,
        NumbersKept { i with proxyCreated := proxyCreated, accepts := accepts }) ↔
      (Connects i → Complete i → (∀ s, envVar i "TUNDEV" = some s → utf8Validate s = true) →
        NumbersFit i) := by
  constructor
  · intro hkept hconnects hcomplete hutf8
    have hok := (configOk_iff i).2 ⟨hcomplete, hutf8⟩
    have hfit := numbersFit_of_kept { i with proxyCreated := true, accepts := fun _ => true }
      hconnects rfl (fun _ => rfl) hok (hkept true fun _ => true)
    exact ⟨hfit.ip4Count, hfit.ip6Count, hfit.ip6Netmask⟩
  · intro h proxyCreated accepts
    refine numbersKept_of_fit _ hmask hroute fun hconnects hok => ?_
    obtain ⟨hcomplete, hutf8⟩ := (configOk_iff i).1 hok
    have hfit := h hconnects hcomplete hutf8
    exact ⟨hfit.ip4Count, hfit.ip6Count, hfit.ip6Netmask⟩

end

/-- The servers of `dualHelper` with GLib's libraries. -/
def glibHelper : HelperInput := { dualHelper with libs := glibLibs }

theorem numbersKept_dual : (∀ proxyCreated accepts,
      NumbersKept { glibHelper with proxyCreated := proxyCreated, accepts := accepts }) ↔
    (Connects glibHelper → Complete glibHelper →
      (∀ s, envVar glibHelper "TUNDEV" = some s → utf8Validate s = true) → NumbersFit glibHelper) := by
  have hmask : ∀ mask, glibHelper.libs.ip4NetmaskToPrefix mask ≤ 32 := by
    intro mask
    change 24 ≤ 32
    decide
  refine numbersKept_iff glibHelper hmask fun dest p route hroute => ?_
  unfold glibHelper glibLibs at hroute
  dsimp only at hroute
  split_ifs at hroute
  exact (Option.some.inj hroute) ▸ rfl

/-- A server whose IPv6 netmask has a negative prefix length. -/
def negativeHelper : HelperInput := { ip4Helper with
  env := splitEnv [("INTERNAL_IP6_ADDRESS", "2001:db8::2"),
    ("INTERNAL_IP6_NETMASK", "2001:db8::2/-1")] }

/-- The prefix length is sent as 4294967295. -/
theorem negativeHelper_wraps : ¬NumbersKept negativeHelper := by
  intro h
  have hsent : HelperCall.setIp6Config [(.address, .bytes [32, 1, 13, 184, 0, 0, 0, 0, 0, 0, 0, 0, 0,
      0, 0, 2]), (.ptp, .bytes [32, 1, 13, 184, 0, 0, 0, 0, 0, 0, 0, 0, 0, 0, 0, 2]),
      (.prefixLen, .uint32 4294967295)] ∈ (runHelper negativeHelper).2.sent := by
    decide +kernel
  have hrange := h.range _ hsent .prefixLen (.uint32 4294967295) (by simp) (.inl rfl) 4294967295
    (List.mem_singleton_self _)
  omega

end NmGpclient
