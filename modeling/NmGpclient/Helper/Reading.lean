import NmGpclient.Helper.Main

/-!
# What the helper reads

`main` up to the end of the dictionaries only adds: entries to the three dictionaries and calls to
the log of GLib calls. What a part adds, and whether it goes on, depends on the environment and the
libraries alone, so that the whole of it is one description, `configAdded` and `configOk`.
-/

namespace NmGpclient

open HelperM

/-! ## Running in sequence -/

section
variable {α β : Type} {x : HelperM α} {f : α → HelperM β} {s s' : HelperState}

/-- A program that goes on after its first part. -/
theorem run_bind_ok {a : α} (h : x s = .ok a s') : (x >>= f) s = f a s' := by
  simp only [Bind.bind, EStateM.bind, h]

/-- A program that ends in its first part. -/
theorem run_bind_error {code : Nat} (h : x s = .error code s') :
    (x >>= f) s = .error code s' := by
  simp only [Bind.bind, EStateM.bind, h]

end

/-! ## What a part adds -/

/-- What a part adds to the dictionaries and to the log of GLib calls. -/
@[ext]
structure Added where
  builder : Dict ConfigKey := []
  ip4builder : Dict IpConfigKey := []
  ip6builder : Dict IpConfigKey := []
  glib : List GlibCall := []

namespace Added

/-- One part adds after another. -/
def append (a b : Added) : Added where
  builder := a.builder ++ b.builder
  ip4builder := a.ip4builder ++ b.ip4builder
  ip6builder := a.ip6builder ++ b.ip6builder
  glib := a.glib ++ b.glib

instance : Append Added := ⟨append⟩

variable (a b : Added)

@[simp] theorem append_builder : (a ++ b).builder = a.builder ++ b.builder := rfl

@[simp] theorem append_ip4builder : (a ++ b).ip4builder = a.ip4builder ++ b.ip4builder := rfl

@[simp] theorem append_ip6builder : (a ++ b).ip6builder = a.ip6builder ++ b.ip6builder := rfl

@[simp] theorem append_glib : (a ++ b).glib = a.glib ++ b.glib := rfl

@[simp] theorem append_empty : a ++ ({} : Added) = a := by ext : 1 <;> simp

end Added

/-- The state with what was added. -/
def HelperState.extend (s : HelperState) (a : Added) : HelperState where
  builder := s.builder ++ a.builder
  ip4builder := s.ip4builder ++ a.ip4builder
  ip6builder := s.ip6builder ++ a.ip6builder
  glib := s.glib ++ a.glib
  sent := s.sent

theorem HelperState.extend_append (s : HelperState) (a b : Added) :
    s.extend (a ++ b) = (s.extend a).extend b := by
  simp [extend]

@[simp] theorem HelperState.extend_empty (s : HelperState) : s.extend {} = s := by simp [extend]

/-- The part adds `a`, and goes on with `r` when `ok` holds; otherwise it reports one failure and
exits with 1. -/
def Reads {α : Type} (ok : Bool) (a : Added) (r : α) (x : HelperM α) : Prop :=
  ∀ s, if ok then x s = .ok r (s.extend a)
    else ∃ reason, x s = .error 1 { s.extend a with sent := s.sent ++ [.setFailure reason] }

section
variable {α β : Type} {a a' a'' : Added} {r : α} {r' : β} {ok : Bool}

theorem Reads.pure (r : α) : Reads true {} r (Pure.pure r) := by
  intro s
  rw [if_pos rfl, HelperState.extend_empty]
  rfl

/-- After a part that goes on, the next one adds what it adds. -/
theorem Reads.andThen {x : HelperM α} {f : α → HelperM β} (hx : Reads true a r x)
    (hf : Reads ok a' r' (f r)) : Reads ok (a ++ a') r' (x >>= f) := by
  intro s
  have hrun : x s = .ok r (s.extend a) := hx s
  have hnext := hf (s.extend a)
  rw [run_bind_ok hrun, HelperState.extend_append]
  exact hnext

/-- A part that may fail, before another one. -/
theorem Reads.bind {x : HelperM α} {f : α → HelperM β} {ok₀ : Bool} (hx : Reads ok₀ a r x)
    (hf : Reads ok a' r' (f r)) :
    Reads (ok₀ && ok) (a ++ if ok₀ then a' else {}) r' (x >>= f) := by
  cases ok₀ with
  | true => exact hx.andThen hf
  | false =>
    intro s
    obtain ⟨reason, hrun⟩ := hx s
    refine ⟨reason, ?_⟩
    rw [run_bind_error hrun, if_neg (by simp), Added.append_empty]

theorem Reads.congr {ok' : Bool} {x : HelperM α} (h : Reads ok a r x) (hok : ok = ok')
    (ha : a = a'') : Reads ok' a'' r x := ha ▸ hok ▸ h

end

/-- GLib calls are logged. -/
theorem glib_reads {α : Type} (x : Glib α) : Reads true { glib := x.calls } x.value (glib x) := by
  intro s
  simp [glib, HelperState.extend]

/-- The entry of a value, when there is one. -/
def entry {κ : Type} (key : κ) (value : Option GVariant) : Dict κ := (value.map (key, ·)).toList

@[simp] theorem entry_none {κ : Type} (key : κ) : entry key none = [] := rfl

theorem mem_entry {κ : Type} {key key' : κ} {value : Option GVariant} {v : GVariant} :
    (key', v) ∈ entry key value ↔ key' = key ∧ value = some v := by
  unfold entry
  cases value with
  | none => simp
  | some value => simp [eq_comm]

/-- What adds a value adds these, and nothing without one. -/
structure Adds (add : GVariant → HelperM Unit) (added : Option GVariant → Added) : Prop where
  none : added none = {}
  some : ∀ value s, add value s = .ok () (s.extend (added (some value)))

theorem add_adds (key : ConfigKey) : Adds (add key) fun value => { builder := entry key value } :=
  ⟨rfl, fun value s => by simp [add, entry, HelperState.extend]⟩

theorem add4_adds (key : IpConfigKey) :
    Adds (add4 key) fun value => { ip4builder := entry key value } :=
  ⟨rfl, fun value s => by simp [add4, entry, HelperState.extend]⟩

theorem add6_adds (key : IpConfigKey) :
    Adds (add6 key) fun value => { ip6builder := entry key value } :=
  ⟨rfl, fun value s => by simp [add6, entry, HelperState.extend]⟩

section
variable {add : GVariant → HelperM Unit} {added : Option GVariant → Added} (h : Adds add added)

include h

theorem add_reads (value : GVariant) : Reads true (added (some value)) () (add value) :=
  fun s => h.some value s

theorem addSome_reads (value : Option GVariant) :
    Reads true (added value) () (addSome add value) := by
  cases value with
  | none => exact h.none ▸ Reads.pure ()
  | some value => exact add_reads h value

/-- A value that is needed is added, or the part fails. -/
theorem addOrFail_reads (i : HelperInput) (reason : String) (value : Option GVariant) :
    Reads value.isSome (added value) () (addOrFail i add reason value) := by
  cases value with
  | some value => exact add_reads h value
  | none =>
    intro s
    refine ⟨cstr reason, ?_⟩
    rw [h.none, HelperState.extend_empty]
    rfl

end

/-! ## The parts of `main` -/

section
variable (i : HelperInput)

/-- The tunnel has an IPv4 address. -/
def hasIp4 : Bool := (nonempty (envVar i "INTERNAL_IP4_ADDRESS")).isSome

/-- The tunnel has an IPv6 address. -/
def hasIp6 : Bool := (nonempty (envVar i "INTERNAL_IP6_ADDRESS")).isSome

/-- The IPv4 netmask is read as 0. -/
def ip4NetmaskDefault : Bool :=
  ((envVar i "INTERNAL_IP4_NETMASK").bind inetPton4).elim false fun mask =>
    i.libs.ip4NetmaskToPrefix (sAddr mask) == 0

/-- The IPv6 netmask is read as 0. -/
def ip6NetmaskDefault : Bool :=
  match (envVar i "INTERNAL_IP6_NETMASK").map (·.dropWhile (· ≠ 47)) with
  | none | some [] => false
  | some (_ :: len) => toUInt32 (strtol len).value == 0

/-- The entries that are added for the routes of a family. -/
def routeEntries : Option GVariant × Bool → Dict IpConfigKey
  | (none, _) => []
  | (some val, mark) => (.routes, val) :: if mark then [] else [(.neverDefault, .boolean true)]

/-- The gateway. -/
def readGateway : Option GVariant :=
  (addr4ToGvariant (envVar i "VPNGATEWAY")).or (addr6ToGvariant (envVar i "VPNGATEWAY"))

/-- The tunnel device. -/
def readTundev : Glib (Option GVariant) := strToGvariant i.libs (envVar i "TUNDEV") false

/-- A text that is converted. -/
def readText (name : String) : Glib (Option GVariant) := strToGvariant i.libs (envVar i name) true

/-- The MTU. -/
def readMtu : Option GVariant :=
  (nonempty (envVar i "INTERNAL_IP4_MTU")).bind fun tmp =>
    let mtu := strtol tmp
    if mtu.erange || mtu.value < 0 || 20000 < mtu.value then none
    else some (.uint32 (toUInt32 mtu.value))

/-- An address that is given. -/
def readAddress (name : String) (toGvariant : Option CStr → Option GVariant) : Option GVariant :=
  (nonempty (envVar i name)).bind fun tmp => toGvariant (some tmp)

/-- An address is not given or is one. -/
def addressOk (name : String) (toGvariant : Option CStr → Option GVariant) : Bool :=
  (nonempty (envVar i name)).elim true fun tmp => (toGvariant (some tmp)).isSome

/-- The prefix length of the IPv4 netmask, 32 for a default route. -/
def readIp4Prefix : Option Nat :=
  ((envVar i "INTERNAL_IP4_NETMASK").bind inetPton4).map fun addr =>
    let prefixLen := i.libs.ip4NetmaskToPrefix (sAddr addr)
    if prefixLen = 0 then 32 else prefixLen

/-- The text after the first slash of the IPv6 netmask. -/
def ip6NetmaskSuffix : Option CStr :=
  ((envVar i "INTERNAL_IP6_NETMASK").map (·.dropWhile (· ≠ 47))).bind List.tail?

/-- The prefix length of the IPv6 netmask, 128 for a default route. -/
def readIp6Prefix : Option Nat :=
  (ip6NetmaskSuffix i).map fun tmp =>
    let prefixLen := toUInt32 (strtol tmp).value
    if prefixLen = 0 then 128 else prefixLen

/-- The DNS servers of both families. -/
def readDns : Glib (Option GVariant × Option GVariant) :=
  addr46ListToGvariant (envVar i "INTERNAL_IP4_DNS")

/-- The WINS servers. -/
def readNbns : Glib (Option GVariant) := addr4ListToGvariant (envVar i "INTERNAL_IP4_NBNS")

/-- The domains. -/
def readDomains : Glib (Option GVariant) := do
  match ← splitDnsListToGvariant (envVar i "CISCO_SPLIT_DNS") with
  | some val => pure (some val)
  | none => splitDnsListToGvariant (envVar i "CISCO_DEF_DOMAIN")

/-- The IPv4 routes, with their mark. -/
def readIp4Routes : Glib (Option GVariant × Bool) :=
  getIp4Routes i.env i.libs (ip4NetmaskDefault i)

/-- The IPv6 routes, with their mark. -/
def readIp6Routes : Glib (Option GVariant × Bool) :=
  getIp6Routes i.env i.libs (ip6NetmaskDefault i)

theorem readAddress_of_not_ok (name : String) (toGvariant : Option CStr → Option GVariant)
    (h : addressOk i name toGvariant = false) : readAddress i name toGvariant = none := by
  unfold addressOk at h
  unfold readAddress
  cases hgiven : nonempty (envVar i name) with
  | none => rfl
  | some tmp => simpa [hgiven] using h

theorem addGateway_reads :
    Reads (readGateway i).isSome { builder := entry .extGateway (readGateway i) } ()
      (addGateway i) :=
  addOrFail_reads (add_adds .extGateway) i _ _

theorem addTundev_reads : Reads (readTundev i).value.isSome
    { builder := entry .tundev (readTundev i).value, glib := (readTundev i).calls } ()
      (addTundev i) :=
  ((glib_reads (readTundev i)).andThen
    (addOrFail_reads (add_adds .tundev) i _ (readTundev i).value)).congr rfl (by ext : 1 <;> simp)

theorem addText_reads {add : GVariant → HelperM Unit} {added : Option GVariant → Added}
    (h : Adds add added) (name : String) :
    Reads true ({ glib := (readText i name).calls } ++ added (readText i name).value) ()
      (addText i add name) :=
  (glib_reads (readText i name)).andThen (addSome_reads h (readText i name).value)

theorem addMtu_reads : Reads true { builder := entry .mtu (readMtu i) } () (addMtu i) := by
  unfold addMtu readMtu
  cases nonempty (envVar i "INTERNAL_IP4_MTU") with
  | none => exact .pure ()
  | some tmp =>
    dsimp only [Option.bind_some]
    split
    · exact .pure ()
    · exact add_reads (add_adds .mtu) _

/-- An address that is given is checked, and the tunnel has the family when it is given. -/
theorem addAddress_reads {add : GVariant → HelperM Unit} {added : Option GVariant → Added}
    (h : Adds add added) (reason name : String) (toGvariant : Option CStr → Option GVariant) :
    Reads (addressOk i name toGvariant) (added (readAddress i name toGvariant))
      (nonempty (envVar i name)).isSome (addAddress i add reason name toGvariant) := by
  unfold addAddress addressOk readAddress
  cases nonempty (envVar i name) with
  | none => exact h.none ▸ Reads.pure false
  | some tmp =>
    exact ((addOrFail_reads h i reason (toGvariant (some tmp))).bind (.pure true)).congr
      (by simp) (by simp)

theorem addIp4Netmask_reads :
    Reads true { ip4builder := entry .prefixLen ((readIp4Prefix i).map .uint32) }
      (ip4NetmaskDefault i) (addIp4Netmask i) := by
  unfold addIp4Netmask ip4NetmaskDefault readIp4Prefix
  cases (envVar i "INTERNAL_IP4_NETMASK").bind inetPton4 with
  | none => exact .pure false
  | some addr =>
    dsimp only [Option.map_some, Option.elim_some]
    by_cases hzero : i.libs.ip4NetmaskToPrefix (sAddr addr) = 0
    · simp only [hzero, if_true]
      exact ((add_reads (add4_adds .prefixLen) _).andThen (.pure true)).congr rfl (by simp)
    · simp only [hzero, if_false, beq_eq_false_iff_ne.2 hzero]
      exact ((add_reads (add4_adds .prefixLen) _).andThen (.pure false)).congr rfl (by simp)

theorem addDns_reads : Reads true
    { ip4builder := entry .dns (readDns i).value.1, ip6builder := entry .dns (readDns i).value.2,
      glib := (readDns i).calls } () (addDns i) :=
  ((glib_reads (readDns i)).andThen ((addSome_reads (add4_adds .dns) (readDns i).value.1).andThen
    (addSome_reads (add6_adds .dns) (readDns i).value.2))).congr rfl (by ext : 1 <;> simp)

theorem addNbns_reads : Reads true
    { ip4builder := entry .nbns (readNbns i).value, glib := (readNbns i).calls } () (addNbns i) :=
  ((glib_reads (readNbns i)).andThen
    (addSome_reads (add4_adds .nbns) (readNbns i).value)).congr rfl (by ext : 1 <;> simp)

theorem addDomains_reads : Reads true
    { ip4builder := entry .domains (readDomains i).value, glib := (readDomains i).calls } ()
      (addDomains i) := by
  have hsplit := glib_reads (splitDnsListToGvariant (envVar i "CISCO_SPLIT_DNS"))
  have hdefault := glib_reads (splitDnsListToGvariant (envVar i "CISCO_DEF_DOMAIN"))
  unfold addDomains readDomains
  simp only [Bind.bind]
  cases hvalue : (splitDnsListToGvariant (envVar i "CISCO_SPLIT_DNS")).value with
  | some val =>
    rw [hvalue] at hsplit
    exact (hsplit.andThen (add_reads (add4_adds .domains) val)).congr rfl
      (by ext : 1 <;> simp [Pure.pure])
  | none =>
    rw [hvalue] at hsplit
    exact (hsplit.andThen (hdefault.andThen (addSome_reads (add4_adds .domains) _))).congr rfl
      (by ext : 1 <;> simp)

/-- The entries of a family's routes, with what adds to its dictionary. -/
theorem addRoutes_reads {add : IpConfigKey → GVariant → HelperM Unit}
    {added : IpConfigKey → Option GVariant → Added} (h : ∀ key, Adds (add key) (added key))
    (routes : Option GVariant × Bool) :
    Reads true (added .routes routes.1 ++ added .neverDefault
        (if routes.1.isSome && !routes.2 then some (.boolean true) else none)) ()
      (match routes with
        | (none, _) => Pure.pure ()
        | (some val, notNeverDefault) => do
          add .routes val
          if !notNeverDefault then add .neverDefault (.boolean true)) := by
  rcases routes with ⟨_ | val, _ | _⟩
  · simpa [(h _).none] using Reads.pure ()
  · simpa [(h _).none] using Reads.pure ()
  · exact (add_reads (h .routes) val).andThen (add_reads (h .neverDefault) (.boolean true))
  · exact ((add_reads (h .routes) val).andThen (.pure ())).congr rfl
      (by rw [← (h .neverDefault).none]; rfl)

theorem entry_routes (routes : Option GVariant × Bool) :
    entry .routes routes.1 ++ entry .neverDefault
      (if routes.1.isSome && !routes.2 then some (.boolean true) else none) =
      routeEntries routes := by
  rcases routes with ⟨_ | val, _ | _⟩ <;> rfl

theorem mem_routeEntries {routes : Option GVariant × Bool} {key : IpConfigKey} {v : GVariant} :
    (key, v) ∈ routeEntries routes ↔ (key = .routes ∧ routes.1 = some v) ∨
      (key = .neverDefault ∧ routes.1.isSome = true ∧ routes.2 = false ∧ v = .boolean true) := by
  rcases routes with ⟨_ | val, _ | _⟩ <;> simp [routeEntries, eq_comm]

theorem addIp4Routes_reads : Reads true
    { ip4builder := routeEntries (readIp4Routes i).value, glib := (readIp4Routes i).calls } ()
      (addIp4Routes i (ip4NetmaskDefault i)) :=
  ((glib_reads (readIp4Routes i)).andThen (addRoutes_reads add4_adds _)).congr rfl
    (by rw [← entry_routes]; ext : 1 <;> simp)

theorem addIp6Netmask_reads :
    Reads true { ip6builder := entry .prefixLen ((readIp6Prefix i).map .uint32) }
      (ip6NetmaskDefault i) (addIp6Netmask i) := by
  unfold addIp6Netmask ip6NetmaskDefault readIp6Prefix ip6NetmaskSuffix
  generalize Option.map _ (envVar i "INTERNAL_IP6_NETMASK") = rest
  rcases rest with _ | _ | ⟨_, tmp⟩
  · exact .pure false
  · exact .pure false
  · dsimp only [Option.bind_some, List.tail?_cons, Option.map_some]
    by_cases hzero : toUInt32 (strtol tmp).value = 0
    · simp only [hzero, if_true]
      exact ((add_reads (add6_adds .prefixLen) _).andThen (.pure true)).congr rfl (by simp)
    · simp only [hzero, if_false, beq_eq_false_iff_ne.2 hzero]
      exact ((add_reads (add6_adds .prefixLen) _).andThen (.pure false)).congr rfl (by simp)

theorem addIp6Routes_reads : Reads true
    { ip6builder := routeEntries (readIp6Routes i).value, glib := (readIp6Routes i).calls } ()
      (addIp6Routes i (ip6NetmaskDefault i)) :=
  ((glib_reads (readIp6Routes i)).andThen (addRoutes_reads add6_adds _)).congr rfl
    (by rw [← entry_routes]; ext : 1 <;> simp)

/-- What a part adds when the parts before it go on. -/
def Added.onlyIf (ok : Bool) (a : Added) : Added := if ok then a else {}

/-- The values that `main` cannot do without are there. -/
def configOk : Bool :=
  (readGateway i).isSome && ((readTundev i).value.isSome &&
    (addressOk i "INTERNAL_IP4_ADDRESS" addr4ToGvariant &&
      addressOk i "INTERNAL_IP6_ADDRESS" addr6ToGvariant))

/-- What is added for the texts and the addresses before the lists. -/
def textsAdded : Added :=
  let ip4 := readAddress i "INTERNAL_IP4_ADDRESS" addr4ToGvariant
  { builder := entry .banner (readText i "CISCO_BANNER").value ++
      entry .proxyPac (readText i "CISCO_PROXY_PAC").value ++ entry .mtu (readMtu i)
    ip4builder := entry .address ip4 ++ entry .ptp ip4
    glib := (readText i "CISCO_BANNER").calls ++ (readText i "CISCO_PROXY_PAC").calls }

/-- What is added for the lists, and for the IPv6 address. -/
def listsAdded : Added :=
  let ip6 := readAddress i "INTERNAL_IP6_ADDRESS" addr6ToGvariant
  { ip4builder := entry .prefixLen ((readIp4Prefix i).map .uint32) ++
      entry .dns (readDns i).value.1 ++ entry .nbns (readNbns i).value ++
      entry .domains (readDomains i).value ++ routeEntries (readIp4Routes i).value
    ip6builder := entry .dns (readDns i).value.2 ++
      entry .domain (readText i "CISCO_DEF_DOMAIN").value ++ entry .address ip6 ++ entry .ptp ip6
    glib := (readDns i).calls ++ (readNbns i).calls ++ (readDomains i).calls ++
      (readIp4Routes i).calls ++ (readText i "CISCO_DEF_DOMAIN").calls }

/-- What is added at the end. -/
def ip6Added : Added :=
  { ip6builder := entry .prefixLen ((readIp6Prefix i).map .uint32) ++
      routeEntries (readIp6Routes i).value
    glib := (readIp6Routes i).calls }

/-- What `main` adds up to the end of the dictionaries, or up to the value that is missing. -/
def configAdded : Added :=
  { builder := entry .extGateway (readGateway i) } ++ .onlyIf (readGateway i).isSome (
    { builder := entry .canPersist (some (.boolean true)) ++ entry .tundev (readTundev i).value
      glib := (readTundev i).calls } ++ .onlyIf (readTundev i).value.isSome (
    textsAdded i ++ .onlyIf (addressOk i "INTERNAL_IP4_ADDRESS" addr4ToGvariant) (
    listsAdded i ++ .onlyIf (addressOk i "INTERNAL_IP6_ADDRESS" addr6ToGvariant) (ip6Added i))))

/-- `main` up to the end of the dictionaries. -/
theorem readConfig_reads :
    Reads (configOk i) (configAdded i) (hasIp4 i, hasIp6 i) (readConfig i) := by
  unfold readConfig
  apply Reads.congr
  · apply (addGateway_reads i).bind
    apply (add_reads (add_adds .canPersist) (.boolean true)).andThen
    apply (addTundev_reads i).bind
    apply (addText_reads i (add_adds .banner) "CISCO_BANNER").andThen
    apply (addText_reads i (add_adds .proxyPac) "CISCO_PROXY_PAC").andThen
    apply (addMtu_reads i).andThen
    apply (addAddress_reads i (add4_adds .address) _ _ _).bind
    apply (addAddress_reads i (add4_adds .ptp) _ _ _).bind
    apply (addIp4Netmask_reads i).andThen
    apply (addDns_reads i).andThen
    apply (addNbns_reads i).andThen
    apply (addDomains_reads i).andThen
    apply (addIp4Routes_reads i).andThen
    apply (addText_reads i (add6_adds .domain) "CISCO_DEF_DOMAIN").andThen
    apply (addAddress_reads i (add6_adds .address) _ _ _).bind
    apply (addAddress_reads i (add6_adds .ptp) _ _ _).bind
    apply (addIp6Netmask_reads i).andThen
    apply (addIp6Routes_reads i).andThen
    exact .pure (hasIp4 i, hasIp6 i)
  · unfold configOk
    simp
  · have hip4 := readAddress_of_not_ok i "INTERNAL_IP4_ADDRESS" addr4ToGvariant
    have hip6 := readAddress_of_not_ok i "INTERNAL_IP6_ADDRESS" addr6ToGvariant
    unfold configAdded textsAdded listsAdded ip6Added Added.onlyIf
    revert hip4 hip6
    cases (readGateway i).isSome <;> cases (readTundev i).value.isSome <;>
      cases addressOk i "INTERNAL_IP4_ADDRESS" addr4ToGvariant <;>
      cases addressOk i "INTERNAL_IP6_ADDRESS" addr6ToGvariant <;> intro hip4 hip6 <;>
      ext : 1 <;> simp [hip4, hip6]

/-- `main` up to the end of the dictionaries, when no value is missing. -/
theorem readConfig_of_ok (h : configOk i = true) (s : HelperState) :
    readConfig i s = .ok (hasIp4 i, hasIp6 i) (s.extend (configAdded i)) := by
  have hrun := readConfig_reads i s
  rwa [if_pos h] at hrun

/-- `main` up to the value that is missing. -/
theorem readConfig_of_not_ok (h : configOk i = false) (s : HelperState) :
    ∃ reason, readConfig i s =
      .error 1 { s.extend (configAdded i) with sent := s.sent ++ [.setFailure reason] } := by
  have hrun := readConfig_reads i s
  rwa [if_neg (by simp [h])] at hrun

/-- What `main` adds when no value is missing. -/
theorem configAdded_of_ok (h : configOk i = true) : configAdded i =
    { builder := entry .extGateway (readGateway i) ++ entry .canPersist (some (.boolean true)) ++
        entry .tundev (readTundev i).value
      glib := (readTundev i).calls } ++ textsAdded i ++ listsAdded i ++ ip6Added i := by
  simp only [configOk, Bool.and_eq_true] at h
  obtain ⟨hgateway, htundev, hip4, hip6⟩ := h
  unfold configAdded Added.onlyIf
  rw [if_pos hgateway, if_pos htundev, if_pos hip4, if_pos hip6]
  ext : 1 <;> simp

end

end NmGpclient
