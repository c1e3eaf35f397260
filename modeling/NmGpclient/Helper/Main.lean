import NmGpclient.Helper.Routes

/-!
# The service helper

`main` of the helper reads the tunnel's parameters from its environment, builds three dictionaries,
and hands them to the service over D-Bus. It exits in the middle when a value it needs is missing.
The state carries the GLib calls and the D-Bus calls that were made, which the code does not keep.
-/

namespace NmGpclient

/-! ## What is sent -/

/-- The keys of the general configuration. -/
inductive ConfigKey where
  | extGateway
  | canPersist
  | tundev
  | banner
  | proxyPac
  | mtu
  | hasIp4
  | hasIp6
deriving DecidableEq, Repr

/-- The keys of the configuration of a family. -/
inductive IpConfigKey where
  | address
  | ptp
  | prefixLen
  | dns
  | nbns
  | domain
  | domains
  | routes
  | neverDefault
deriving DecidableEq, Repr

/-- A dictionary, in the order its entries were added. -/
abbrev Dict (κ : Type) := List (κ × GVariant)

/-- The D-Bus calls of the helper. -/
inductive HelperCall where
  | setFailure (reason : CStr)
  | setConfig (config : Dict ConfigKey)
  | setIp4Config (config : Dict IpConfigKey)
  | setIp6Config (config : Dict IpConfigKey)
deriving DecidableEq, Repr

/-- What the helper is run with: its environment, whether the D-Bus proxy was created, which calls
are accepted, and the other libraries. -/
structure HelperInput where
  env : Env
  proxyCreated : Bool
  accepts : HelperCall → Bool
  libs : HelperLibs

/-- The dictionaries that are built, and the GLib and D-Bus calls that were made. -/
structure HelperState where
  builder : Dict ConfigKey
  ip4builder : Dict IpConfigKey
  ip6builder : Dict IpConfigKey
  glib : List GlibCall
  sent : List HelperCall
deriving DecidableEq

/-- The program, which may end with an exit code. -/
abbrev HelperM := EStateM Nat HelperState

namespace HelperM

/-- `exit`. -/
def exit {α : Type} (code : Nat) : HelperM α := throw code

/-- GLib calls are made. -/
def glib {α : Type} (x : Glib α) : HelperM α := fun s =>
  .ok x.value { s with glib := s.glib ++ x.calls }

/-- `g_dbus_proxy_call_sync`. -/
def call (i : HelperInput) (c : HelperCall) : HelperM Bool := fun s =>
  .ok (i.accepts c) { s with sent := s.sent ++ [c] }

/-- `g_variant_builder_add (&builder, …)`. -/
def add (key : ConfigKey) (value : GVariant) : HelperM Unit := fun s =>
  .ok () { s with builder := s.builder ++ [(key, value)] }

/-- `g_variant_builder_add (&ip4builder, …)`. -/
def add4 (key : IpConfigKey) (value : GVariant) : HelperM Unit := fun s =>
  .ok () { s with ip4builder := s.ip4builder ++ [(key, value)] }

/-- `g_variant_builder_add (&ip6builder, …)`. -/
def add6 (key : IpConfigKey) (value : GVariant) : HelperM Unit := fun s =>
  .ok () { s with ip6builder := s.ip6builder ++ [(key, value)] }

/-- `if (val) g_variant_builder_add (…)`. -/
def addSome (add : GVariant → HelperM Unit) : Option GVariant → HelperM Unit
  | none => pure ()
  | some value => add value

end HelperM

open HelperM

section
variable (i : HelperInput)

/-- `helper_failed`. -/
def helperFailed {α : Type} (reason : String) : HelperM α := do
  let _ ← call i (.setFailure (cstr reason))
  exit 1

/-- `send_config`, which stops at the first call that is not accepted. -/
def sendConfig (config : Dict ConfigKey) (ip4config ip6config : Option (Dict IpConfigKey)) :
    HelperM Bool := do
  if !(← call i (.setConfig config)) then return false
  if let some ip4config := ip4config then
    if !(← call i (.setIp4Config ip4config)) then return false
  if let some ip6config := ip6config then
    if !(← call i (.setIp6Config ip6config)) then return false
  return true

/-! ## The parts of `main` -/

/-- `getenv` of a literal name. -/
def envVar (name : String) : Option CStr := getenv i.env (cstr name)

/-- A value that is needed is added, or the helper fails. -/
def addOrFail (add : GVariant → HelperM Unit) (reason : String) : Option GVariant → HelperM Unit
  | some value => add value
  | none => helperFailed i reason

/-- Gateway. -/
def addGateway : HelperM Unit :=
  addOrFail i (add .extGateway) "VPN Gateway"
    ((addr4ToGvariant (envVar i "VPNGATEWAY")).or (addr6ToGvariant (envVar i "VPNGATEWAY")))

/-- Tunnel device. -/
def addTundev : HelperM Unit := do
  let val ← glib (strToGvariant i.libs (envVar i "TUNDEV") false)
  addOrFail i (add .tundev) "Tunnel Device" val

/-- A text that is converted: the banner, the proxy and the default domain. -/
def addText (add : GVariant → HelperM Unit) (name : String) : HelperM Unit := do
  let val ← glib (strToGvariant i.libs (envVar i name) true)
  addSome add val

/-- MTU. -/
def addMtu : HelperM Unit :=
  match nonempty (envVar i "INTERNAL_IP4_MTU") with
  | none => pure ()
  | some tmp =>
    let mtu := strtol tmp
    if mtu.erange || mtu.value < 0 || 20000 < mtu.value then pure ()
    else add .mtu (.uint32 (toUInt32 mtu.value))

/-- An address of a tunnel that has the family: whether it has it. -/
def addAddress (add : GVariant → HelperM Unit) (reason name : String)
    (toGvariant : Option CStr → Option GVariant) : HelperM Bool :=
  match nonempty (envVar i name) with
  | none => pure false
  | some tmp => do
    addOrFail i add reason (toGvariant (some tmp))
    pure true

/-- IPv4 netmask: whether it is the default route. -/
def addIp4Netmask : HelperM Bool :=
  match (envVar i "INTERNAL_IP4_NETMASK").bind inetPton4 with
  | none => pure false
  | some addr =>
    let prefixLen := i.libs.ip4NetmaskToPrefix (sAddr addr)
    if prefixLen = 0 then do
      add4 .prefixLen (.uint32 32)
      pure true
    else do
      add4 .prefixLen (.uint32 prefixLen)
      pure false

/-- DNS. -/
def addDns : HelperM Unit := do
  let (legacyDns, ipv6Dns) ← glib (addr46ListToGvariant (envVar i "INTERNAL_IP4_DNS"))
  addSome (add4 .dns) legacyDns
  addSome (add6 .dns) ipv6Dns

/-- WINS servers. -/
def addNbns : HelperM Unit := do
  let val ← glib (addr4ListToGvariant (envVar i "INTERNAL_IP4_NBNS"))
  addSome (add4 .nbns) val

/-- The domains: `CISCO_SPLIT_DNS` if available, `CISCO_DEF_DOMAIN` if not. -/
def addDomains : HelperM Unit := do
  match ← glib (splitDnsListToGvariant (envVar i "CISCO_SPLIT_DNS")) with
  | some val => add4 .domains val
  | none =>
    let val ← glib (splitDnsListToGvariant (envVar i "CISCO_DEF_DOMAIN"))
    addSome (add4 .domains) val

/-- IPv4 routes; with routes and without a default route the connection is never the default. -/
def addIp4Routes (notNeverDefault : Bool) : HelperM Unit := do
  match ← glib (getIp4Routes i.env i.libs notNeverDefault) with
  | (none, _) => pure ()
  | (some val, notNeverDefault) =>
    add4 .routes val
    if !notNeverDefault then add4 .neverDefault (.boolean true)

/-- IPv6 netmask: whether it is the default route. -/
def addIp6Netmask : HelperM Bool :=
  match (envVar i "INTERNAL_IP6_NETMASK").map (·.dropWhile (· ≠ 47)) with
  | none | some [] => pure false
  | some (_ :: tmp) =>
    let prefixLen := toUInt32 (strtol tmp).value
    if prefixLen = 0 then do
      add6 .prefixLen (.uint32 128)
      pure true
    else do
      add6 .prefixLen (.uint32 prefixLen)
      pure false

/-- IPv6 routes. -/
def addIp6Routes (notNeverDefault : Bool) : HelperM Unit := do
  match ← glib (getIp6Routes i.env i.libs notNeverDefault) with
  | (none, _) => pure ()
  | (some val, notNeverDefault) =>
    add6 .routes val
    if !notNeverDefault then add6 .neverDefault (.boolean true)

/-- The end of a family's dictionary, with its flag when the tunnel has the family. -/
def endFamily (has : Bool) (flag : ConfigKey) (dict : Dict IpConfigKey) :
    HelperM (Option (Dict IpConfigKey)) := do
  glib (Glib.call (.builderEnd true dict.length) ())
  if has then
    add flag (.boolean true)
    pure (some dict)
  else
    glib (Glib.call (.variantUnref false) ())
    pure none

/-- `main` up to the end of the dictionaries: whether the tunnel has each family. -/
def readConfig : HelperM (Bool × Bool) := do
  addGateway i
  add .canPersist (.boolean true)
  addTundev i
  addText i (add .banner) "CISCO_BANNER"
  addText i (add .proxyPac) "CISCO_PROXY_PAC"
  addMtu i
  let hasIp4 ← addAddress i (add4 .address) "IP4 Address" "INTERNAL_IP4_ADDRESS" addr4ToGvariant
  let _ ← addAddress i (add4 .ptp) "IP4 Address" "INTERNAL_IP4_ADDRESS" addr4ToGvariant
  let notIpv4NeverDefault ← addIp4Netmask i
  addDns i
  addNbns i
  addDomains i
  addIp4Routes i notIpv4NeverDefault
  addText i (add6 .domain) "CISCO_DEF_DOMAIN"
  let hasIp6 ← addAddress i (add6 .address) "IP6 Address" "INTERNAL_IP6_ADDRESS" addr6ToGvariant
  let _ ← addAddress i (add6 .ptp) "IP6 PTP Address" "INTERNAL_IP6_ADDRESS" addr6ToGvariant
  let notIpv6NeverDefault ← addIp6Netmask i
  addIp6Routes i notIpv6NeverDefault
  pure (hasIp4, hasIp6)

/-- The rest of `main`: the flags, and the handoff. -/
def handOff (has : Bool × Bool) : HelperM Empty := do
  let ip4config ← endFamily has.1 .hasIp4 (← get).ip4builder
  let ip6config ← endFamily has.2 .hasIp6 (← get).ip6builder
  let config := (← get).builder
  glib (Glib.call (.builderEnd true config.length) ())
  if !(← sendConfig i config ip4config ip6config) then exit 1
  exit 0

/-- `main`. -/
def helperMain : HelperM Empty := do
  if let some reason := envVar i "reason" then
    if reason ≠ cstr "connect" then exit 0
  if !i.proxyCreated then exit 1
  let has ← readConfig i
  handOff i has

/-- A run of the helper: its exit code, and what it has done. -/
def runHelper : Nat × HelperState :=
  match helperMain i ⟨[], [], [], [], []⟩ with
  | .error code s => (code, s)

end

end NmGpclient
