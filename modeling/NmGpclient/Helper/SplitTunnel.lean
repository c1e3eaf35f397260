import NmGpclient.Helper.Handoff

/-!
# Split tunnelling

With routes to include, the helper tells NetworkManager that the connection is never the default,
unless the server asked for a default route. The server may ask with a prefix length of 0 among the
includes or with a netmask of 0. The helper reads more than that as a 0: `strtol` finds one in a
text that is no number, and an IPv6 include is not checked for its address before it counts.

`Directs` says which entries of a family's dictionary that matter here a part of `main` adds; what
is added for the routes is then compared with what the environment says.
-/

namespace NmGpclient

open HelperM

/-! ## What the server says -/

/-- A decimal numeral whose value is 0. -/
def ZeroNumeral (s : CStr) : Prop := s ≠ [] ∧ (∀ c ∈ s, isDigit c = true) ∧ digitsValue s = 0

instance (s : CStr) : Decidable (ZeroNumeral s) := inferInstanceAs (Decidable (_ ∧ _ ∧ _))

section
variable (env : Env) (libs : HelperLibs)

/-- The number is below the count of a family's includes. -/
def Counted (name : String) (n : Nat) : Prop :=
  ∃ num, includeCount env name = some num ∧ (n : Int) < num

/-- The network of an IPv4 include, when it is an address. -/
def ip4Network (n : Nat) : Option (List UInt8) :=
  (includeVariable env "CISCO_SPLIT_INC_" n "_ADDR").bind inetPton4

/-- The netmask of an IPv4 include, when it is one. -/
def ip4Netmask (n : Nat) : Option (List UInt8) :=
  (includeVariable env "CISCO_SPLIT_INC_" n "_MASK").bind inetPton4

/-- The server sent an IPv4 default route: an include with an address and a prefix length of 0, or a
netmask of 0. -/
def ServerDefault4 : Prop :=
  (∃ n, Counted env "CISCO_SPLIT_INC" n ∧ (ip4Network env n).isSome = true ∧
    match includeVariable env "CISCO_SPLIT_INC_" n "_MASKLEN" with
    | some len => ZeroNumeral len
    | none => ip4Netmask env n = some [0, 0, 0, 0]) ∨
  (getenv env (cstr "INTERNAL_IP4_NETMASK")).bind inetPton4 = some [0, 0, 0, 0]

/-- The server sent an IPv6 default route. The netmask is an address with a prefix length. -/
def ServerDefault6 : Prop :=
  (∃ n, Counted env "CISCO_IPV6_SPLIT_INC" n ∧
    ((includeVariable env "CISCO_IPV6_SPLIT_INC_" n "_ADDR").bind inetPton6).isSome = true ∧
    ∃ len, includeVariable env "CISCO_IPV6_SPLIT_INC_" n "_MASKLEN" = some len ∧
      ZeroNumeral len) ∨
  ∃ addr len, getenv env (cstr "INTERNAL_IP6_NETMASK") = some (addr ++ cstr "/" ++ len) ∧
    (inetPton6 addr).isSome = true ∧ ZeroNumeral len

/-! ## What the helper reads -/

/-- Some counted IPv4 include is a route: it has an address and a prefix length that is not 0. -/
def ReadsRoute4 : Prop :=
  ∃ n, Counted env "CISCO_SPLIT_INC" n ∧ (ip4Network env n).isSome = true ∧
    match includeVariable env "CISCO_SPLIT_INC_" n "_MASKLEN" with
    | some len => (strtol len).erange = false ∧ 0 < (strtol len).value ∧ (strtol len).value ≤ 32
    | none => ∃ mask, ip4Netmask env n = some mask ∧ libs.ip4NetmaskToPrefix (sAddr mask) ≠ 0

/-- A 0 is read in a counted IPv4 include that has an address, or in the netmask: `strtol` returns
0, or the netmask has no leading ones. -/
def ReadsDefault4 : Prop :=
  (∃ n, Counted env "CISCO_SPLIT_INC" n ∧ (ip4Network env n).isSome = true ∧
    match includeVariable env "CISCO_SPLIT_INC_" n "_MASKLEN" with
    | some len => (strtol len).value = 0
    | none => ∃ mask, ip4Netmask env n = some mask ∧ libs.ip4NetmaskToPrefix (sAddr mask) = 0) ∨
  ∃ mask, (getenv env (cstr "INTERNAL_IP4_NETMASK")).bind inetPton4 = some mask ∧
    libs.ip4NetmaskToPrefix (sAddr mask) = 0

/-- Some counted IPv6 include is a route that libnm accepts. -/
def ReadsRoute6 : Prop :=
  ∃ n, Counted env "CISCO_IPV6_SPLIT_INC" n ∧
    ∃ network, includeVariable env "CISCO_IPV6_SPLIT_INC_" n "_ADDR" = some network ∧
    ∃ len, includeVariable env "CISCO_IPV6_SPLIT_INC_" n "_MASKLEN" = some len ∧
      (strtol len).erange = false ∧ 0 < (strtol len).value ∧ (strtol len).value ≤ 128 ∧
      (libs.ipRouteNew network (strtol len).value.toNat).isSome = true

/-- A 0 is read in a counted IPv6 include that has any text for its address, or after the first
slash of the netmask, where only the low 32 bits count. -/
def ReadsDefault6 : Prop :=
  (∃ n, Counted env "CISCO_IPV6_SPLIT_INC" n ∧
    (includeVariable env "CISCO_IPV6_SPLIT_INC_" n "_ADDR").isSome = true ∧
    ∃ len, includeVariable env "CISCO_IPV6_SPLIT_INC_" n "_MASKLEN" = some len ∧
      (strtol len).value = 0) ∨
  ∃ netmask len, getenv env (cstr "INTERNAL_IP6_NETMASK") = some netmask ∧
    netmask.dropWhile (· ≠ 47) = 47 :: len ∧ (strtol len).value % 4294967296 = 0

end

/-! ## What is emitted -/

/-- How many routes a value has. -/
def GVariant.routeCount : GVariant → Nat
  | .uint32Arrays routes => routes.length
  | .ip6Routes routes => routes.length
  | _ => 0

/-- The configuration has a route. -/
def HasRoute (dict : Dict IpConfigKey) : Prop :=
  ∃ value, (.routes, value) ∈ dict ∧ 0 < value.routeCount

/-- With routes, the configuration is never the default unless the server sent a default route. -/
def KeepsSplit (dict : Dict IpConfigKey) (serverDefault : Prop) : Prop :=
  HasRoute dict → (.neverDefault, .boolean true) ∈ dict ∨ serverDefault

/-! ## The loops -/

/-- The route of an include. -/
def Include.route? {α : Type} : Include α → Option α
  | .route r => some r
  | _ => none

/-- The include is the mark of a default route. -/
def Include.isDefault {α : Type} : Include α → Bool
  | .defaultRoute => true
  | _ => false

/-- The loop collects the routes, and marks a default route when it meets one. -/
theorem includeLoop_eq {α : Type} (contribution : Nat → Include α) (num : Int)
    (defaultroute : Bool) : includeLoop contribution num defaultroute =
      ((List.range num.toNat).filterMap fun n => (contribution n).route?,
        defaultroute || (List.range num.toNat).any fun n => (contribution n).isDefault) := by
  unfold includeLoop
  induction List.range num.toNat using List.reverseRecOn with
  | nil => simp
  | append_singleton ns n ih =>
    rw [List.foldl_append, ih, List.foldl_cons, List.foldl_nil]
    cases h : contribution n <;> simp [h, Include.route?, Include.isDefault]

/-- What the loop of a counted family finds. -/
theorem includeLoop_counted {α : Type} {env : Env} {name : String} {num : Int}
    (hnum : includeCount env name = some num) (contribution : Nat → Include α)
    (defaultroute : Bool) :
    ((includeLoop contribution num defaultroute).1 ≠ [] ↔
        ∃ n, Counted env name n ∧ (contribution n).route?.isSome = true) ∧
      ((includeLoop contribution num defaultroute).2 = true ↔ defaultroute = true ∨
        ∃ n, Counted env name n ∧ (contribution n).isDefault = true) := by
  have hcounted : ∀ n, n ∈ List.range num.toNat ↔ Counted env name n := by
    intro n
    simp [Counted, hnum, Int.lt_toNat]
  rw [includeLoop_eq]
  constructor
  · simp only [ne_eq, List.filterMap_eq_nil_iff, not_forall, hcounted, exists_prop,
      Option.isSome_iff_ne_none]
  · simp only [Bool.or_eq_true, List.any_eq_true, hcounted]

/-! ## The includes -/

/-- A prefix length is a number in range that was read without overflow. -/
theorem prefixLength_eq_some {s : CStr} {bound : Int} {prefixLen : Nat} (hb : bound < 4294967296) :
    prefixLength s bound = some prefixLen ↔ (strtol s).erange = false ∧ 0 ≤ (strtol s).value ∧
      (strtol s).value ≤ bound ∧ prefixLen = (strtol s).value.toNat := by
  unfold prefixLength toUInt32
  generalize strtol s = r
  obtain ⟨value, consumed, erange⟩ := r
  dsimp only
  split
  next hbad =>
    simp only [Bool.or_eq_true, decide_eq_true_eq] at hbad
    refine iff_of_false nofun ?_
    rintro ⟨rfl, hlo, hhi, -⟩
    rcases hbad with (hbad | hbad) | hbad
    · cases hbad
    · omega
    · omega
  next hgood =>
    simp only [Bool.or_eq_true, decide_eq_true_eq, not_or, Bool.not_eq_true, not_lt] at hgood
    obtain ⟨⟨hrange, hlo⟩, hhi⟩ := hgood
    rw [Int.emod_eq_of_lt hlo (by omega)]
    simp [hrange, hlo, hhi, eq_comm]

/-- A prefix length of 0 is one where `strtol` returns 0. -/
theorem prefixLength_eq_zero {s : CStr} {bound : Int} (h0 : 0 ≤ bound) (hb : bound < 4294967296) :
    prefixLength s bound = some 0 ↔ (strtol s).value = 0 := by
  rw [prefixLength_eq_some hb]
  constructor
  · rintro ⟨-, hlo, -, hzero⟩
    omega
  · intro hzero
    exact ⟨erange_of_value_zero hzero, by omega, by omega, by omega⟩

section
variable (env : Env) (libs : HelperLibs) (n : Nat)

/-- An IPv4 include marks a default route when it has an address and a prefix of 0. -/
theorem ip4Include_isDefault : (ip4Include env libs n).isDefault = true ↔
    (ip4Network env n).isSome = true ∧ ip4IncludePrefix env libs n = some 0 := by
  unfold ip4Include ip4Network
  cases (includeVariable env "CISCO_SPLIT_INC_" n "_ADDR").bind inetPton4 with
  | none => simp [Include.isDefault]
  | some network => rcases ip4IncludePrefix env libs n with _ | _ | _ <;> simp [Include.isDefault]

/-- An IPv4 include is a route when it has an address and another prefix. -/
theorem ip4Include_route : (ip4Include env libs n).route?.isSome = true ↔
    (ip4Network env n).isSome = true ∧ ∃ p, ip4IncludePrefix env libs n = some p ∧ p ≠ 0 := by
  unfold ip4Include ip4Network
  cases (includeVariable env "CISCO_SPLIT_INC_" n "_ADDR").bind inetPton4 with
  | none => simp [Include.route?]
  | some network => rcases ip4IncludePrefix env libs n with _ | _ | _ <;> simp [Include.route?]

/-- An IPv6 include marks a default route when it has some text for its address and a prefix of
0. -/
theorem ip6Include_isDefault : (ip6Include env libs n).isDefault = true ↔
    (includeVariable env "CISCO_IPV6_SPLIT_INC_" n "_ADDR").isSome = true ∧
      (includeVariable env "CISCO_IPV6_SPLIT_INC_" n "_MASKLEN").bind (prefixLength · 128) =
        some 0 := by
  unfold ip6Include
  cases includeVariable env "CISCO_IPV6_SPLIT_INC_" n "_ADDR" with
  | none => simp [Include.isDefault]
  | some network =>
    rcases (includeVariable env "CISCO_IPV6_SPLIT_INC_" n "_MASKLEN").bind (prefixLength · 128) with
      _ | _ | p
    · simp [Include.isDefault]
    · simp [Include.isDefault]
    · dsimp only
      cases h : libs.ipRouteNew network (p + 1) <;> simp [Include.isDefault, h]

/-- An IPv6 include is a route when libnm makes one of it with another prefix. -/
theorem ip6Include_route : (ip6Include env libs n).route?.isSome = true ↔
    ∃ network, includeVariable env "CISCO_IPV6_SPLIT_INC_" n "_ADDR" = some network ∧
      ∃ p, (includeVariable env "CISCO_IPV6_SPLIT_INC_" n "_MASKLEN").bind (prefixLength · 128) =
        some p ∧ p ≠ 0 ∧ (libs.ipRouteNew network p).isSome = true := by
  unfold ip6Include
  cases includeVariable env "CISCO_IPV6_SPLIT_INC_" n "_ADDR" with
  | none => simp [Include.route?]
  | some network =>
    rcases (includeVariable env "CISCO_IPV6_SPLIT_INC_" n "_MASKLEN").bind (prefixLength · 128) with
      _ | _ | p
    · simp [Include.route?]
    · simp [Include.route?]
    · cases h : libs.ipRouteNew network (p + 1) <;> simp [Include.route?, h]

/-- What is read of the prefix of an IPv4 include. -/
theorem ip4IncludePrefix_eq_zero : ip4IncludePrefix env libs n = some 0 ↔
    match includeVariable env "CISCO_SPLIT_INC_" n "_MASKLEN" with
    | some len => (strtol len).value = 0
    | none => ∃ mask, ip4Netmask env n = some mask ∧ libs.ip4NetmaskToPrefix (sAddr mask) = 0 := by
  unfold ip4IncludePrefix ip4Netmask
  cases includeVariable env "CISCO_SPLIT_INC_" n "_MASKLEN" with
  | some len => exact prefixLength_eq_zero (by decide) (by decide)
  | none =>
    cases includeVariable env "CISCO_SPLIT_INC_" n "_MASK" with
    | none => simp
    | some mask => cases h : inetPton4 mask <;> simp [h]

theorem ip4IncludePrefix_ne_zero : (∃ p, ip4IncludePrefix env libs n = some p ∧ p ≠ 0) ↔
    match includeVariable env "CISCO_SPLIT_INC_" n "_MASKLEN" with
    | some len => (strtol len).erange = false ∧ 0 < (strtol len).value ∧ (strtol len).value ≤ 32
    | none => ∃ mask, ip4Netmask env n = some mask ∧ libs.ip4NetmaskToPrefix (sAddr mask) ≠ 0 := by
  unfold ip4IncludePrefix ip4Netmask
  cases includeVariable env "CISCO_SPLIT_INC_" n "_MASKLEN" with
  | some len =>
    have hb : (32 : Int) < 4294967296 := by decide
    simp only [prefixLength_eq_some hb]
    constructor
    · rintro ⟨p, ⟨hrange, hlo, hhi, rfl⟩, hne⟩
      exact ⟨hrange, by omega, hhi⟩
    · rintro ⟨hrange, hlo, hhi⟩
      exact ⟨_, ⟨hrange, by omega, hhi, rfl⟩, by omega⟩
  | none =>
    cases includeVariable env "CISCO_SPLIT_INC_" n "_MASK" with
    | none => simp
    | some mask => cases h : inetPton4 mask <;> simp [h]

/-- What is read of an IPv6 include that is a route. -/
theorem ip6Include_route_iff : (ip6Include env libs n).route?.isSome = true ↔
    ∃ network, includeVariable env "CISCO_IPV6_SPLIT_INC_" n "_ADDR" = some network ∧
      ∃ len, includeVariable env "CISCO_IPV6_SPLIT_INC_" n "_MASKLEN" = some len ∧
        (strtol len).erange = false ∧ 0 < (strtol len).value ∧ (strtol len).value ≤ 128 ∧
        (libs.ipRouteNew network (strtol len).value.toNat).isSome = true := by
  have hb : (128 : Int) < 4294967296 := by decide
  rw [ip6Include_route]
  refine exists_congr fun network => and_congr_right fun _ => ?_
  simp only [Option.bind_eq_some_iff, prefixLength_eq_some hb]
  constructor
  · rintro ⟨p, ⟨len, hlen, hrange, hlo, hhi, rfl⟩, hne, hroute⟩
    exact ⟨len, hlen, hrange, by omega, hhi, hroute⟩
  · rintro ⟨len, hlen, hrange, hlo, hhi, hroute⟩
    exact ⟨_, ⟨len, hlen, hrange, by omega, hhi, rfl⟩, by omega, hroute⟩

end

/-! ## The routes of a family -/

/-- The routes of a family, for the routes that are read and the mark: there are some when one is
read, and then the mark is set when a 0 is read. -/
structure Routes (r : Option GVariant × Bool) (readsRoute readsDefault : Prop) : Prop where
  isSome : r.1.isSome = true ↔ readsRoute
  count : ∀ value, r.1 = some value → 0 < value.routeCount
  mark : readsRoute → (r.2 = true ↔ readsDefault)

/-- The routes that the loop of a family finds, and the mark it leaves. -/
def loopRoutes {α : Type} (count : Option Int) (contribution : Nat → Include α)
    (value : List α → GVariant) (defaultroute : Bool) : Option GVariant × Bool :=
  match count with
  | none => (none, defaultroute)
  | some num =>
    let loop := includeLoop contribution num defaultroute
    (if loop.1 = [] then none else some (value loop.1), loop.2)

theorem loopRoutes_spec {α : Type} (env : Env) (name : String) (contribution : Nat → Include α)
    (value : List α → GVariant) (hvalue : ∀ rs, (value rs).routeCount = rs.length)
    (defaultroute : Bool) :
    Routes (loopRoutes (includeCount env name) contribution value defaultroute)
      (∃ n, Counted env name n ∧ (contribution n).route?.isSome = true)
      (defaultroute = true ∨ ∃ n, Counted env name n ∧ (contribution n).isDefault = true) := by
  cases hnum : includeCount env name with
  | none =>
    have hnone : ¬∃ n, Counted env name n ∧ (contribution n).route?.isSome = true := by
      rintro ⟨n, ⟨num, hnum', -⟩, -⟩
      rw [hnum] at hnum'
      cases hnum'
    exact ⟨iff_of_false nofun hnone, nofun, fun h => absurd h hnone⟩
  | some num =>
    obtain ⟨hroutes, hmark⟩ := includeLoop_counted hnum contribution defaultroute
    refine ⟨?_, fun v hv => ?_, fun _ => hmark⟩
    · rw [← hroutes]
      by_cases hempty : (includeLoop contribution num defaultroute).1 = [] <;>
        simp [loopRoutes, hempty]
    · simp only [loopRoutes] at hv
      split_ifs at hv with hempty
      obtain rfl := Option.some.inj hv
      rw [hvalue]
      exact List.length_pos_iff.2 hempty

theorem getIp4Routes_value (env : Env) (libs : HelperLibs) (defaultroute : Bool) :
    (getIp4Routes env libs defaultroute).value =
      loopRoutes (includeCount env "CISCO_SPLIT_INC") (ip4Include env libs) .uint32Arrays
        defaultroute := by
  unfold getIp4Routes loopRoutes
  cases includeCount env "CISCO_SPLIT_INC" with
  | none => rfl
  | some num =>
    simp only [Bind.bind, Glib.call]
    split <;> rfl

theorem getIp6Routes_value (env : Env) (libs : HelperLibs) (defaultroute : Bool) :
    (getIp6Routes env libs defaultroute).value =
      loopRoutes (includeCount env "CISCO_IPV6_SPLIT_INC") (ip6Include env libs) .ip6Routes
        defaultroute := by
  unfold getIp6Routes loopRoutes
  cases includeCount env "CISCO_IPV6_SPLIT_INC" <;> rfl

section
variable (i : HelperInput)

/-- The IPv4 routes and their mark are what the environment says to the helper. -/
theorem getIp4Routes_spec : Routes (getIp4Routes i.env i.libs (ip4NetmaskDefault i)).value
    (ReadsRoute4 i.env i.libs) (ReadsDefault4 i.env i.libs) := by
  have hnetmask : ip4NetmaskDefault i = true ↔
      ∃ mask, (getenv i.env (cstr "INTERNAL_IP4_NETMASK")).bind inetPton4 = some mask ∧
        i.libs.ip4NetmaskToPrefix (sAddr mask) = 0 := by
    unfold ip4NetmaskDefault envVar
    cases (getenv i.env (cstr "INTERNAL_IP4_NETMASK")).bind inetPton4 <;> simp
  have hspec := loopRoutes_spec i.env "CISCO_SPLIT_INC" (ip4Include i.env i.libs)
    .uint32Arrays (fun _ => rfl) (ip4NetmaskDefault i)
  simp only [ip4Include_route, ip4IncludePrefix_ne_zero, ip4Include_isDefault,
    ip4IncludePrefix_eq_zero, hnetmask] at hspec
  rw [getIp4Routes_value]
  exact ⟨hspec.isSome, hspec.count, fun h => (hspec.mark h).trans or_comm⟩

/-- The IPv6 routes and their mark are what the environment says to the helper. -/
theorem getIp6Routes_spec : Routes (getIp6Routes i.env i.libs (ip6NetmaskDefault i)).value
    (ReadsRoute6 i.env i.libs) (ReadsDefault6 i.env) := by
  have hnetmask : ip6NetmaskDefault i = true ↔
      ∃ netmask len, getenv i.env (cstr "INTERNAL_IP6_NETMASK") = some netmask ∧
        netmask.dropWhile (· ≠ 47) = 47 :: len ∧ (strtol len).value % 4294967296 = 0 := by
    unfold ip6NetmaskDefault envVar
    cases getenv i.env (cstr "INTERNAL_IP6_NETMASK") with
    | none => simp
    | some netmask =>
      have hslash := List.head?_dropWhile_not (fun b : UInt8 => decide (b ≠ 47)) netmask
      simp only [Option.map_some, Option.some.injEq, exists_and_left, exists_eq_left']
      generalize netmask.dropWhile (fun b => decide (b ≠ 47)) = tail at hslash ⊢
      cases tail with
      | nil => simp
      | cons c len =>
        obtain rfl : c = 47 := by simpa using hslash
        have hlow : toUInt32 (strtol len).value = 0 ↔ (strtol len).value % 4294967296 = 0 := by
          unfold toUInt32
          omega
        simp [hlow]
  have hzero : ∀ n, (includeVariable i.env "CISCO_IPV6_SPLIT_INC_" n "_MASKLEN").bind
      (prefixLength · 128) = some 0 ↔ ∃ len,
        includeVariable i.env "CISCO_IPV6_SPLIT_INC_" n "_MASKLEN" = some len ∧
          (strtol len).value = 0 := by
    intro n
    have h0 : (0 : Int) ≤ 128 := by decide
    have hb : (128 : Int) < 4294967296 := by decide
    simp only [Option.bind_eq_some_iff, prefixLength_eq_zero h0 hb]
  have hspec := loopRoutes_spec i.env "CISCO_IPV6_SPLIT_INC" (ip6Include i.env i.libs)
    .ip6Routes (fun _ => rfl) (ip6NetmaskDefault i)
  simp only [ip6Include_route_iff, ip6Include_isDefault, hzero, hnetmask] at hspec
  rw [getIp6Routes_value]
  exact ⟨hspec.isSome, hspec.count, fun h => (hspec.mark h).trans or_comm⟩

end

/-! ## The dictionaries -/

/-- The keys that direct traffic. -/
def IpConfigKey.isRouting : IpConfigKey → Bool
  | .routes | .neverDefault => true
  | _ => false

/-- The entries of a dictionary that direct traffic. -/
def routing (dict : Dict IpConfigKey) : Dict IpConfigKey :=
  dict.filter fun entry => entry.1.isRouting

/-- No call was sent, and these entries that direct traffic were added for each family. -/
structure Directed (ip4 ip6 : Dict IpConfigKey) (s s' : HelperState) : Prop where
  sent : s'.sent = s.sent
  ip4 : routing s'.ip4builder = routing s.ip4builder ++ ip4
  ip6 : routing s'.ip6builder = routing s.ip6builder ++ ip6

/-- The part adds these entries and returns a result that meets `post`, or fails and has sent no
configuration. -/
def Directs {α : Type} (ip4 ip6 : Dict IpConfigKey) (post : α → Prop) (x : HelperM α) : Prop :=
  ∀ s, (∃ a s', x s = .ok a s' ∧ Directed ip4 ip6 s s' ∧ post a) ∨
    ∃ code s', x s = .error code s' ∧ ∀ c ∈ s'.sent, c ∈ s.sent ∨ ∃ reason, c = .setFailure reason

/-- What is added is known, so the entries that direct traffic are. -/
theorem Reads.directs {α : Type} {ok : Bool} {a : Added} {r : α} {x : HelperM α}
    {ip4 ip6 : Dict IpConfigKey} (h : Reads ok a r x)
    (hrouting : ok = true → routing a.ip4builder = ip4 ∧ routing a.ip6builder = ip6) :
    Directs ip4 ip6 (· = r) x := by
  intro s
  have hrun := h s
  cases ok with
  | true =>
    obtain ⟨h4, h6⟩ := hrouting rfl
    refine .inl ⟨r, _, hrun, ⟨rfl, ?_, ?_⟩, rfl⟩
    · rw [← h4]
      exact List.filter_append ..
    · rw [← h6]
      exact List.filter_append ..
  | false =>
    obtain ⟨reason, hrun⟩ := hrun
    refine .inr ⟨1, _, hrun, fun c hc => ?_⟩
    rcases List.mem_append.1 hc with hc | hc
    · exact .inl hc
    · exact .inr ⟨reason, List.mem_singleton.1 hc⟩

section
variable (i : HelperInput)

/-- Only the routes of a family direct traffic in its dictionary. -/
theorem routing_configAdded (h : configOk i = true) :
    routing (configAdded i).ip4builder =
        routeEntries (getIp4Routes i.env i.libs (ip4NetmaskDefault i)).value ∧
      routing (configAdded i).ip6builder =
        routeEntries (getIp6Routes i.env i.libs (ip6NetmaskDefault i)).value := by
  have hentry : ∀ (key : IpConfigKey) (value : Option GVariant), key.isRouting = false →
      routing (entry key value) = [] := by
    intro key value hkey
    cases value <;> simp [routing, entry, hkey]
  have hroutes : ∀ r, routing (routeEntries r) = routeEntries r := by
    rintro ⟨_ | val, _ | _⟩ <;> rfl
  have happend : ∀ a b, routing (a ++ b) = routing a ++ routing b :=
    fun _ _ => List.filter_append ..
  rw [configAdded_of_ok i h]
  simp (disch := decide) [textsAdded, listsAdded, ip6Added, happend, hentry, hroutes,
    readIp4Routes, readIp6Routes]

/-- `main` up to the end of the dictionaries adds the entries for the routes of each family. -/
theorem readConfig_directs : Directs
    (routeEntries (getIp4Routes i.env i.libs (ip4NetmaskDefault i)).value)
    (routeEntries (getIp6Routes i.env i.libs (ip6NetmaskDefault i)).value)
    (· = (hasIp4 i, hasIp6 i)) (readConfig i) :=
  (readConfig_reads i).directs (routing_configAdded i)

/-! ## What is sent -/

/-- The configuration of a family that the helper sends is the dictionary that was built. -/
theorem routing_of_sent {c : HelperCall} (h : c ∈ (runHelper i).2.sent) :
    (∀ dict, c = .setIp4Config dict →
      routing dict = routeEntries (getIp4Routes i.env i.libs (ip4NetmaskDefault i)).value) ∧
    ∀ dict, c = .setIp6Config dict →
      routing dict = routeEntries (getIp6Routes i.env i.libs (ip6NetmaskDefault i)).value := by
  by_cases hruns : Connects i ∧ i.proxyCreated = true
  · obtain ⟨hconnects, hproxy⟩ := hruns
    unfold runHelper at h
    rw [helperMain_of_connects i hconnects hproxy] at h
    rcases readConfig_directs i ⟨[], [], [], [], []⟩ with
      ⟨has, s, hrun, hdirected, -⟩ | ⟨code, s, hrun, hsent⟩
    · rw [run_bind_ok hrun, handOff_run] at h
      rw [hdirected.sent, List.nil_append] at h
      have hplan := mem_of_mem_untilRejected h
      have hip4 := hdirected.ip4
      have hip6 := hdirected.ip6
      refine ⟨fun dict hdict => ?_, fun dict hdict => ?_⟩
      · rw [hdict, handedPlan, (mem_plan ..).1] at hplan
        split_ifs at hplan
        exact Option.some.inj hplan ▸ hip4
      · rw [hdict, handedPlan, (mem_plan ..).2] at hplan
        split_ifs at hplan
        exact Option.some.inj hplan ▸ hip6
    · rw [run_bind_error hrun] at h
      rcases hsent c h with hold | ⟨reason, rfl⟩
      · cases hold
      · exact ⟨by simp, by simp⟩
  · rw [runHelper_idle i hruns] at h
    cases h

/-- A dictionary with the entries of a family's routes keeps the split exactly when a 0 is not read
where there is a route but no default route of the server. -/
theorem keepsSplit_iff {dict : Dict IpConfigKey} {r : Option GVariant × Bool}
    {readsRoute readsDefault serverDefault : Prop} (hdict : routing dict = routeEntries r)
    (h : Routes r readsRoute readsDefault) :
    KeepsSplit dict serverDefault ↔ (readsRoute → readsDefault → serverDefault) := by
  have hmem : ∀ key value, key.isRouting = true →
      ((key, value) ∈ dict ↔ (key, value) ∈ routeEntries r) := by
    intro key value hkey
    rw [← hdict, routing, List.mem_filter]
    simp [hkey]
  have hroute : HasRoute dict ↔ readsRoute := by
    rw [← h.isSome]
    simp only [HasRoute, hmem .routes _ rfl]
    obtain ⟨_ | val, mark⟩ := r
    · simp [routeEntries]
    · have hcount := h.count val rfl
      cases mark <;> simp [routeEntries, hcount]
  have hnever : readsRoute → ((.neverDefault, .boolean true) ∈ dict ↔ ¬readsDefault) := by
    intro hreads
    rw [hmem .neverDefault _ rfl, ← h.mark hreads]
    obtain ⟨val, hval⟩ := Option.isSome_iff_exists.1 (h.isSome.2 hreads)
    obtain ⟨_, mark⟩ := r
    cases hval
    cases mark <;> simp [routeEntries]
  unfold KeepsSplit
  rw [hroute]
  refine forall_congr' fun hreads => ?_
  rw [hnever hreads]
  exact or_iff_not_imp_left.trans (by rw [not_not])

/-- When split tunnelling stays split.

For each family, whatever the environment and the libraries, a configuration that the helper sends
has the never-default flag with its routes, unless the server sent a default route, if and only if
a 0 that is read where there is a route is one that the server sent. -/
theorem splitTunnel_iff :
    (∀ dict, .setIp4Config dict ∈ (runHelper i).2.sent →
      (KeepsSplit dict (ServerDefault4 i.env) ↔
        (ReadsRoute4 i.env i.libs → ReadsDefault4 i.env i.libs → ServerDefault4 i.env))) ∧
    ∀ dict, .setIp6Config dict ∈ (runHelper i).2.sent →
      (KeepsSplit dict (ServerDefault6 i.env) ↔
        (ReadsRoute6 i.env i.libs → ReadsDefault6 i.env → ServerDefault6 i.env)) :=
  ⟨fun dict h => keepsSplit_iff ((routing_of_sent i h).1 dict rfl) (getIp4Routes_spec i),
    fun dict h => keepsSplit_iff ((routing_of_sent i h).2 dict rfl) (getIp6Routes_spec i)⟩

end

/-! ## Two servers -/

/-- The environment of `ip4Helper` with more variables. -/
def splitEnv (vars : List (String × String)) : Env :=
  vars.foldl (fun env (name, value) => env.insert (cstr name) (cstr value)) ip4Helper.env

/-- A server with one include for each family. -/
def dualHelper : HelperInput := { ip4Helper with
  env := splitEnv [("INTERNAL_IP6_ADDRESS", "2001:db8::2"), ("CISCO_SPLIT_INC", "1"),
    ("CISCO_SPLIT_INC_0_ADDR", "10.1.0.0"), ("CISCO_SPLIT_INC_0_MASKLEN", "16"),
    ("CISCO_IPV6_SPLIT_INC", "1"), ("CISCO_IPV6_SPLIT_INC_0_ADDR", "2001:db8:1::"),
    ("CISCO_IPV6_SPLIT_INC_0_MASKLEN", "48")] }

/-- The configuration of an IPv4 family with the route to 10.1.0.0/16. -/
def routedIp4 (rest : Dict IpConfigKey) : Dict IpConfigKey :=
  [(.address, .uint32 33554442), (.ptp, .uint32 33554442),
    (.routes, .uint32Arrays [[266, 16, 0, 0]])] ++ rest

/-- The configuration of the IPv6 family with the route to 2001:db8:1::/48. -/
def routedIp6 : Dict IpConfigKey :=
  let address : List UInt8 := [32, 1, 13, 184, 0, 0, 0, 0, 0, 0, 0, 0, 0, 0, 0, 2]
  [(.address, .bytes address), (.ptp, .bytes address),
    (.routes, .ip6Routes [⟨cstr "2001:db8:1::", 48⟩]), (.neverDefault, .boolean true)]

theorem splitTunnel_dual :
    (KeepsSplit (routedIp4 [(.neverDefault, .boolean true)]) (ServerDefault4 dualHelper.env) ↔
      (ReadsRoute4 dualHelper.env dualHelper.libs → ReadsDefault4 dualHelper.env dualHelper.libs →
        ServerDefault4 dualHelper.env)) ∧
    (KeepsSplit routedIp6 (ServerDefault6 dualHelper.env) ↔
      (ReadsRoute6 dualHelper.env dualHelper.libs → ReadsDefault6 dualHelper.env →
        ServerDefault6 dualHelper.env)) :=
  ⟨(splitTunnel_iff dualHelper).1 _ (by decide +kernel),
    (splitTunnel_iff dualHelper).2 _ (by decide +kernel)⟩

/-- A server whose second include has an empty prefix length. -/
def emptyLenHelper : HelperInput := { ip4Helper with
  env := splitEnv [("CISCO_SPLIT_INC", "2"), ("CISCO_SPLIT_INC_0_ADDR", "10.1.0.0"),
    ("CISCO_SPLIT_INC_0_MASKLEN", "16"), ("CISCO_SPLIT_INC_1_ADDR", "10.2.0.0"),
    ("CISCO_SPLIT_INC_1_MASKLEN", "")] }

/-- The empty prefix length turns the split tunnel into a full one. -/
theorem splitTunnel_fails :
    ¬∀ i dict, .setIp4Config dict ∈ (runHelper i).2.sent → KeepsSplit dict (ServerDefault4 i.env) := by
  intro h
  have hsent : .setIp4Config (routedIp4 []) ∈ (runHelper emptyLenHelper).2.sent := by
    decide +kernel
  have hroute : HasRoute (routedIp4 []) := ⟨.uint32Arrays [[266, 16, 0, 0]], by decide, by decide⟩
  rcases h emptyLenHelper _ hsent hroute with hnever | hdefault
  · exact absurd hnever (by decide)
  · rcases hdefault with ⟨n, ⟨num, hnum, hlt⟩, -, hlen⟩ | hnetmask
    · have hcount : includeCount emptyLenHelper.env "CISCO_SPLIT_INC" = some 2 := by decide +kernel
      obtain rfl : (2 : Int) = num := Option.some.inj (hcount.symm.trans hnum)
      have hn : n = 0 ∨ n = 1 := by omega
      rcases hn with rfl | rfl
      · have hfirst : includeVariable emptyLenHelper.env "CISCO_SPLIT_INC_" 0 "_MASKLEN" =
            some (cstr "16") := by decide +kernel
        rw [hfirst] at hlen
        exact absurd hlen (by decide +kernel)
      · have hsecond : includeVariable emptyLenHelper.env "CISCO_SPLIT_INC_" 1 "_MASKLEN" =
            some [] := by decide +kernel
        rw [hsecond] at hlen
        exact absurd hlen (by decide)
    · exact absurd hnetmask (by decide +kernel)

end NmGpclient
