import NmGpclient.Helper.Conversion
import NmGpclient.Helper.Resolution
import NmGpclient.Lib.Decimal
import NmGpclient.Lib.Joined

/-!
# The tunnel that is handed over

A tunnel is what gpclient has agreed on with the server: addresses, name servers, domains and
routes. The script interface writes it into the variables of the helper (`Describes`). The helper
reads them, and sends NetworkManager a configuration. What NetworkManager gets is the tunnel:
`tunnel_handedOver`.
-/

namespace NmGpclient

/-! ## Tunnels -/

/-- An IPv4 address, in a spelling of it. -/
structure Ip4Text where
  text : CStr
  addr : List UInt8
  spells : inetPton4 text = some addr

/-- An IPv6 address, in a spelling of it. -/
structure Ip6Text where
  text : CStr
  addr : List UInt8
  spells : inetPton6 text = some addr

/-- An address of one of the families. -/
inductive IpText where
  | ip4 (a : Ip4Text)
  | ip6 (a : Ip6Text)

/-- The spelling of an address. -/
def IpText.text : IpText → CStr
  | ip4 a => a.text
  | ip6 a => a.text

/-- The value of an address. -/
def IpText.value : IpText → GVariant
  | ip4 a => .uint32 (sAddr a.addr)
  | ip6 a => .bytes a.addr

/-- A text that D-Bus can carry. -/
structure Utf8Text where
  text : CStr
  ne : text ≠ []
  utf8 : utf8Validate text = true

/-- A domain, which has no separator of a list of domains. -/
structure Domain extends Utf8Text where
  separators : ∀ b ∈ text, (cstr ", ").contains b = false

/-- A network with its prefix length. -/
structure Network (α : Type) (bound : Nat) where
  addr : α
  prefixLen : Fin (bound + 1)

/-- What gpclient and the server have agreed on. The number of routes of a family is an `int`. -/
structure Tunnel where
  gateway : IpText
  device : Utf8Text
  banner : Option Utf8Text
  proxyPac : Option Utf8Text
  mtu : Option (Fin 20001)
  dns : List IpText
  splitDns : List Domain
  defDomain : List Domain
  address4 : Option Ip4Text
  netmask4 : Option Ip4Text
  nbns : List Ip4Text
  routes4 : List (Network Ip4Text 32)
  count4 : routes4.length ≤ 2147483647
  address6 : Option Ip6Text
  netmask6 : Option (Network Ip6Text 128)
  routes6 : List (Network Ip6Text 128)
  count6 : routes6.length ≤ 2147483647

/-! ## The variables -/

/-- The texts of a list, with a separator between them; the variable of an empty list is not set. -/
def joined (sep : String) (texts : List CStr) : Option CStr :=
  if texts = [] then none else some ((cstr sep).intercalate texts)

/-- The variables of the routes of a family: their number, and one group of variables for each. -/
structure DescribesRoutes {α : Type} {bound : Nat} (env : Env) (name family : String)
    (text : α → CStr) (routes : List (Network α bound)) : Prop where
  count : getenv env (cstr name) = if routes = [] then none else some (decimal routes.length)
  addr : ∀ n route, routes[n]? = some route →
    includeVariable env family n "_ADDR" = some (text route.addr)
  maskLen : ∀ n route, routes[n]? = some route →
    includeVariable env family n "_MASKLEN" = some (decimal route.prefixLen.val)

/-- The environment describes the tunnel. -/
structure Describes (i : HelperInput) (t : Tunnel) : Prop where
  gateway : envVar i "VPNGATEWAY" = some t.gateway.text
  device : envVar i "TUNDEV" = some t.device.text
  banner : envVar i "CISCO_BANNER" = t.banner.map (·.text)
  proxyPac : envVar i "CISCO_PROXY_PAC" = t.proxyPac.map (·.text)
  mtu : envVar i "INTERNAL_IP4_MTU" = t.mtu.map fun n => decimal n.val
  dns : envVar i "INTERNAL_IP4_DNS" = joined " " (t.dns.map (·.text))
  splitDns : envVar i "CISCO_SPLIT_DNS" = joined "," (t.splitDns.map (·.text))
  defDomain : envVar i "CISCO_DEF_DOMAIN" = joined ", " (t.defDomain.map (·.text))
  address4 : envVar i "INTERNAL_IP4_ADDRESS" = t.address4.map (·.text)
  netmask4 : envVar i "INTERNAL_IP4_NETMASK" = t.netmask4.map (·.text)
  nbns : envVar i "INTERNAL_IP4_NBNS" = joined " " (t.nbns.map (·.text))
  routes4 : DescribesRoutes i.env "CISCO_SPLIT_INC" "CISCO_SPLIT_INC_" Ip4Text.text t.routes4
  address6 : envVar i "INTERNAL_IP6_ADDRESS" = t.address6.map (·.text)
  netmask6 : envVar i "INTERNAL_IP6_NETMASK" = t.netmask6.map fun n =>
    n.addr.text ++ cstr "/" ++ decimal n.prefixLen.val
  routes6 : DescribesRoutes i.env "CISCO_IPV6_SPLIT_INC" "CISCO_IPV6_SPLIT_INC_" Ip6Text.text
    t.routes6

/-! ## What NetworkManager should get -/

namespace Tunnel
variable (t : Tunnel)

/-- The IPv4 name servers. -/
def dns4 : List Nat := t.dns.filterMap fun
  | .ip4 a => some (sAddr a.addr)
  | .ip6 _ => none

/-- The IPv6 name servers. -/
def dns6 : List (List UInt8) := t.dns.filterMap fun
  | .ip4 _ => none
  | .ip6 a => some a.addr

/-- The search domains: the default domains only when there are no others. -/
def domains : List CStr :=
  (if t.splitDns = [] then t.defDomain else t.splitDns).map (·.text)

/-- The general configuration. -/
def config : Dict ConfigKey :=
  [(.extGateway, t.gateway.value), (.canPersist, .boolean true),
      (.tundev, .string t.device.text)] ++
    entry .banner (t.banner.map fun s => .string s.text) ++
    entry .proxyPac (t.proxyPac.map fun s => .string s.text) ++
    entry .mtu (t.mtu.map fun n => .uint32 n.val) ++
    familyFlag t.address4.isSome .hasIp4 ++ familyFlag t.address6.isSome .hasIp6

/-- The routes among the networks; a network with a prefix length of 0 is a default route. -/
def kept {α β : Type} {bound : Nat} (value : α → Nat → β) (routes : List (Network α bound)) :
    List β :=
  routes.filterMap fun r =>
    if r.prefixLen.val = 0 then none else some (value r.addr r.prefixLen.val)

/-- The entries for the routes of a family: with routes, and no default route, the tunnel is never
the default. -/
def routing {α β : Type} {bound : Nat} (value : α → Nat → β) (values : List β → GVariant)
    (routes : List (Network α bound)) (netmaskDefault : Bool) : Dict IpConfigKey :=
  routeEntries (listValue values (kept value routes),
    netmaskDefault || routes.any fun r => r.prefixLen.val = 0)

/-- The IPv4 configuration; the prefix length of a netmask is libnm's. -/
def ip4config (netmaskToPrefix : Nat → Nat) : Dict IpConfigKey :=
  let address := t.address4.map fun a => GVariant.uint32 (sAddr a.addr)
  let netmask := t.netmask4.map fun a => netmaskToPrefix (sAddr a.addr)
  entry .address address ++ entry .ptp address ++
    entry .prefixLen ((netmask.map fun n => if n = 0 then 32 else n).map .uint32) ++
    entry .dns (listValue .uint32s t.dns4) ++
    entry .nbns (listValue .uint32s (t.nbns.map fun a => sAddr a.addr)) ++
    entry .domains (listValue .strings t.domains) ++
    routing (fun a n => [sAddr a.addr, n, 0, 0]) .uint32Arrays t.routes4 (netmask == some 0)

/-- The IPv6 configuration; the routes are libnm's. -/
def ip6config (ipRoute : CStr → Nat → NMIPRoute) : Dict IpConfigKey :=
  let address := t.address6.map fun a => GVariant.bytes a.addr
  let netmask := t.netmask6.map fun n => n.prefixLen.val
  entry .dns (listValue .byteArrays t.dns6) ++
    entry .domain ((joined ", " (t.defDomain.map (·.text))).map .string) ++
    entry .address address ++ entry .ptp address ++
    entry .prefixLen ((netmask.map fun n => if n = 0 then 128 else n).map .uint32) ++
    routing (fun a n => ipRoute a.text n) .ip6Routes t.routes6 (netmask == some 0)

/-- The messages for the tunnel: the general configuration, and that of each family that the tunnel
has an address of. -/
def messages (netmaskToPrefix : Nat → Nat) (ipRoute : CStr → Nat → NMIPRoute) : List HelperCall :=
  plan t.config (t.address4.map fun _ => t.ip4config netmaskToPrefix)
    (t.address6.map fun _ => t.ip6config ipRoute)

end Tunnel

/-! ## Texts of the variables -/

theorem Ip4Text.ne (a : Ip4Text) : a.text ≠ [] := by
  intro hnil
  have hspells := a.spells
  rw [hnil] at hspells
  exact absurd hspells (by simp [inetPton4, List.splitOn_nil])

theorem Ip6Text.ne (a : Ip6Text) : a.text ≠ [] := by
  intro hnil
  have hspells := a.spells
  rw [hnil] at hspells
  cases hspells

/-- A byte that no address has. -/
theorem IpText.not_mem {b : UInt8} (hb : hexDigitValue b = none ∧ b ≠ 58 ∧ b ≠ 46) :
    ∀ a : IpText, b ∉ a.text
  | .ip4 a, hmem => by
    rcases (inetPton4_eq_some a.spells).2 b hmem with hdigit | hdot
    · have hnone := hb.1
      unfold hexDigitValue at hnone
      rw [if_pos hdigit] at hnone
      cases hnone
    · exact hb.2.2 hdot
  | .ip6 a, hmem => by
    rcases inetPton6_bytes a.spells b hmem with hdigit | hcolon | hdot
    · rw [hb.1] at hdigit
      cases hdigit
    · exact hb.2.1 hcolon
    · exact hb.2.2 hdot

/-- A list of addresses is read back from its text. -/
theorem spaceTokens_joined (as : List IpText) (h : as ≠ []) :
    spaceTokens ((cstr " ").intercalate (as.map (·.text))) = as.map (·.text) := by
  have hspace : ∀ text ∈ as.map (·.text), (32 : UInt8) ∉ text := by
    intro text htext
    obtain ⟨a, -, rfl⟩ := List.mem_map.1 htext
    exact a.not_mem ⟨by decide, by decide, by decide⟩
  exact List.splitOn_intercalate 32 hspace (by simpa using h)

/-- A list of domains is read back from its text, whatever separates them. -/
theorem domainTokens_joined {sep : String} (hne : cstr sep ≠ [])
    (hsep : ∀ b ∈ cstr sep, (cstr ", ").contains b = true) (ds : List Domain) :
    domainTokens ((cstr sep).intercalate (ds.map (·.text))) = ds.map (·.text) := by
  refine filter_splitOnP_intercalate hne hsep fun text htext => ?_
  obtain ⟨d, -, rfl⟩ := List.mem_map.1 htext
  exact ⟨d.ne, d.separators⟩

theorem utf8Validate_append {s s' : CStr} (h : utf8Validate s = true)
    (h' : utf8Validate s' = true) : utf8Validate (s ++ s') = true := by
  have happend : (⟨(s ++ s').toArray⟩ : ByteArray) = ⟨s.toArray⟩ ++ ⟨s'.toArray⟩ := by
    ext : 1
    simp
  unfold utf8Validate at h h' ⊢
  rw [ByteArray.validateUTF8_eq_true_iff] at h h' ⊢
  rw [happend]
  exact h.append h'

/-- Domains that are joined are UTF-8 as each one is. -/
theorem utf8Validate_joined (sep : String) : ∀ ds : List Domain,
    utf8Validate ((cstr sep).intercalate (ds.map (·.text))) = true
  | [] => utf8Validate_cstr ""
  | [d] => by
    rw [List.map_singleton, List.intercalate_singleton]
    exact d.utf8
  | d :: d' :: ds => by
    rw [List.map_cons, List.map_cons, List.intercalate_cons_cons]
    exact utf8Validate_append (utf8Validate_append d.utf8 (utf8Validate_cstr sep))
      (utf8Validate_joined sep (d' :: ds))

/-- A text of domains is not empty. -/
theorem joined_ne_nil (sep : String) {ds : List Domain} (h : ds ≠ []) :
    (cstr sep).intercalate (ds.map (·.text)) ≠ [] := by
  obtain ⟨d, ds, rfl⟩ := List.exists_cons_of_ne_nil h
  have hne := d.ne
  cases ds with
  | nil => simpa [List.intercalate_singleton] using hne
  | cons d' ds => simp [List.intercalate_cons_cons, hne]

/-! ## Values of the variables -/

theorem Ip4Text.toGvariant (a : Ip4Text) :
    addr4ToGvariant (some a.text) = some (.uint32 (sAddr a.addr)) := by
  simp [addr4ToGvariant, nonempty_some_of_ne a.ne, a.spells]

/-- No spelling is one of an address of the other family. -/
theorem Ip6Text.not_ip4 (a : Ip6Text) : inetPton4 a.text = none := by
  by_contra hsome
  have hother := inetPton6_of_inetPton4 (Option.isSome_iff_ne_none.2 hsome)
  rw [a.spells] at hother
  cases hother

theorem Ip6Text.toGvariant (a : Ip6Text) :
    addr4ToGvariant (some a.text) = none ∧
      addr6ToGvariant (some a.text) = some (.bytes a.addr) := by
  simp [addr4ToGvariant, addr6ToGvariant, nonempty_some_of_ne a.ne, a.spells, a.not_ip4]

section
variable {i : HelperInput} {t : Tunnel} (h : Describes i t)

include h

theorem readGateway_described : readGateway i = some t.gateway.value := by
  unfold readGateway
  rw [h.gateway]
  cases t.gateway with
  | ip4 a =>
    rw [IpText.text, a.toGvariant]
    rfl
  | ip6 a =>
    rw [IpText.text, a.toGvariant.1, a.toGvariant.2]
    rfl

theorem readTundev_described : (readTundev i).value = some (.string t.device.text) := by
  unfold readTundev
  rw [h.device, strToGvariant_of_valid i.libs t.device.ne t.device.utf8]
  simp [gVariantNewString, Glib.call, t.device.utf8]

omit h in
/-- A text is read as it is. -/
theorem readText_described {name : String} {text : Option Utf8Text}
    (hvar : envVar i name = text.map (·.text)) :
    (readText i name).value = text.map fun s => .string s.text := by
  rw [readText_value i name, hvar]
  · cases text with
    | none => rfl
    | some s => simp [nonempty_some_of_ne s.ne]
  · intro s hs
    obtain ⟨text, -, rfl⟩ := Option.map_eq_some_iff.1 (hvar.symm.trans hs)
    exact text.utf8

theorem readMtu_described : readMtu i = t.mtu.map fun n => .uint32 n.val := by
  unfold readMtu
  rw [h.mtu]
  cases t.mtu with
  | none => rfl
  | some n =>
    have hn := n.isLt
    obtain ⟨hvalue, herange⟩ := strtol_decimal (n := n.val) (by omega)
    have hword : toUInt32 n.val = n.val := by
      unfold toUInt32
      omega
    simp only [Option.map_some, nonempty_some_of_ne (decimal_ne_nil n.val), Option.bind_some,
      hvalue, herange]
    rw [if_neg (by simp; omega), hword]

/-- The IPv4 address is read. -/
theorem readAddress4_described :
    readAddress i "INTERNAL_IP4_ADDRESS" addr4ToGvariant =
        t.address4.map (fun a => .uint32 (sAddr a.addr)) ∧
      addressOk i "INTERNAL_IP4_ADDRESS" addr4ToGvariant = true ∧
      hasIp4 i = t.address4.isSome := by
  unfold readAddress addressOk hasIp4
  rw [h.address4]
  cases t.address4 with
  | none => exact ⟨rfl, rfl, rfl⟩
  | some a => simp [nonempty_some_of_ne a.ne, a.toGvariant, a.spells]

/-- The IPv6 address is read. -/
theorem readAddress6_described :
    readAddress i "INTERNAL_IP6_ADDRESS" addr6ToGvariant =
        t.address6.map (fun a => .bytes a.addr) ∧
      addressOk i "INTERNAL_IP6_ADDRESS" addr6ToGvariant = true ∧
      hasIp6 i = t.address6.isSome := by
  unfold readAddress addressOk hasIp6
  rw [h.address6]
  cases t.address6 with
  | none => exact ⟨rfl, rfl, rfl⟩
  | some a => simp [nonempty_some_of_ne a.ne, a.toGvariant.2, a.spells]

/-- The IPv4 netmask is read. -/
theorem netmask4_described :
    let netmask := t.netmask4.map fun a => i.libs.ip4NetmaskToPrefix (sAddr a.addr)
    readIp4Prefix i = netmask.map (fun n => if n = 0 then 32 else n) ∧
      ip4NetmaskDefault i = (netmask == some 0) := by
  unfold readIp4Prefix ip4NetmaskDefault
  rw [h.netmask4]
  cases t.netmask4 with
  | none => exact ⟨rfl, rfl⟩
  | some a => simp [a.spells]

/-- The IPv6 netmask is read: what follows its slash. -/
theorem netmask6_described :
    let netmask := t.netmask6.map fun n => n.prefixLen.val
    readIp6Prefix i = netmask.map (fun n => if n = 0 then 128 else n) ∧
      ip6NetmaskDefault i = (netmask == some 0) := by
  unfold readIp6Prefix ip6NetmaskSuffix ip6NetmaskDefault
  rw [h.netmask6]
  cases t.netmask6 with
  | none => exact ⟨rfl, rfl⟩
  | some n =>
    have hlt := n.prefixLen.isLt
    have hslash : (47 : UInt8) ∉ n.addr.text :=
      IpText.not_mem ⟨by decide, by decide, by decide⟩ (.ip6 n.addr)
    have hdrop : (n.addr.text ++ cstr "/" ++ decimal n.prefixLen.val).dropWhile (· ≠ 47) =
        47 :: decimal n.prefixLen.val := by
      rw [List.append_assoc, List.dropWhile_append_of_pos]
      · rfl
      · intro b hb
        exact decide_eq_true fun heq => hslash (heq ▸ hb)
    obtain ⟨hvalue, -⟩ := strtol_decimal (n := n.prefixLen.val) (by omega)
    have hlen : toUInt32 (strtol (decimal n.prefixLen.val)).value = n.prefixLen.val := by
      rw [hvalue, toUInt32]
      omega
    simp only [Option.map_some, hdrop, Option.bind_some, List.tail?_cons, hlen, true_and]
    rfl

/-! ## Lists of the variables -/

/-- The name servers of both families are read. -/
theorem readDns_described :
    (readDns i).value = (listValue .uint32s t.dns4, listValue .byteArrays t.dns6) := by
  have hall : ∀ token ∈ t.dns.map (·.text), isAddress token = true := by
    intro token htoken
    obtain ⟨a, -, rfl⟩ := List.mem_map.1 htoken
    unfold isAddress
    cases a with
    | ip4 a => simp [IpText.text, a.spells]
    | ip6 a => simp [IpText.text, a.spells]
  have hdns4 : ip4Tokens (t.dns.map (·.text)) = t.dns4 := by
    unfold ip4Tokens Tunnel.dns4
    rw [List.filterMap_map]
    refine List.filterMap_congr fun a _ => ?_
    cases a with
    | ip4 a => simp [IpText.text, a.spells]
    | ip6 a => simp [IpText.text, a.not_ip4]
  have hdns6 : ip6Tokens (t.dns.map (·.text)) = t.dns6 := by
    unfold ip6Tokens Tunnel.dns6
    rw [List.filterMap_map]
    refine List.filterMap_congr fun a _ => ?_
    cases a with
    | ip4 a => simp [IpText.text, inetPton6_of_inetPton4, a.spells]
    | ip6 a => simp [IpText.text, a.spells]
  unfold readDns
  rw [h.dns, joined]
  by_cases hnil : t.dns = []
  · rw [← hdns4, ← hdns6, hnil]
    rfl
  · rw [if_neg (by simpa using hnil), addr46ListToGvariant_value, spaceTokens_joined t.dns hnil,
      if_pos (List.all_eq_true.2 hall), hdns4, hdns6]

/-- The WINS servers are read. -/
theorem readNbns_described :
    (readNbns i).value = listValue .uint32s (t.nbns.map fun a => sAddr a.addr) := by
  have htexts : t.nbns.map (·.text) = (t.nbns.map .ip4).map IpText.text := by
    rw [List.map_map]
    rfl
  have hall : ∀ token ∈ t.nbns.map (·.text), (inetPton4 token).isSome = true := by
    intro token htoken
    obtain ⟨a, -, rfl⟩ := List.mem_map.1 htoken
    rw [a.spells]
    rfl
  have hnbns : ip4Tokens (t.nbns.map (·.text)) = t.nbns.map fun a => sAddr a.addr := by
    unfold ip4Tokens
    rw [List.filterMap_map, ← List.filterMap_eq_map]
    refine List.filterMap_congr fun a _ => ?_
    simp [a.spells]
  unfold readNbns
  rw [h.nbns, joined]
  by_cases hnil : t.nbns = []
  · rw [hnil]
    rfl
  · have hjoined := spaceTokens_joined (t.nbns.map .ip4) (by simpa using hnil)
    rw [← htexts] at hjoined
    rw [if_neg (by simpa using hnil), addr4ListToGvariant_value, hjoined,
      if_pos (List.all_eq_true.2 hall), hnbns]

omit h in
/-- The domains of a variable are read. -/
theorem domainsOf_described {name sep : String} {ds : List Domain} (hne : cstr sep ≠ [])
    (hsep : ∀ b ∈ cstr sep, (cstr ", ").contains b = true)
    (hvar : envVar i name = joined sep (ds.map (·.text))) :
    domainsOf i name = ds.map (·.text) := by
  unfold domainsOf
  rw [hvar, joined]
  by_cases hnil : ds = []
  · simp [hnil]
  · rw [if_neg (by simpa using hnil), Option.elim_some, domainTokens_joined hne hsep]

/-- The search domains are read. -/
theorem readDomains_described : (readDomains i).value = listValue .strings t.domains := by
  have hsplit : domainsOf i "CISCO_SPLIT_DNS" = t.splitDns.map (·.text) :=
    domainsOf_described (by decide +kernel) (by decide +kernel) h.splitDns
  have hdef : domainsOf i "CISCO_DEF_DOMAIN" = t.defDomain.map (·.text) :=
    domainsOf_described (by decide +kernel) (by decide +kernel) h.defDomain
  have hutf8 : ∀ name ∈ ["CISCO_SPLIT_DNS", "CISCO_DEF_DOMAIN"],
      ∀ domain ∈ domainsOf i name, utf8Validate domain = true := by
    have htexts : ∀ ds : List Domain, ∀ domain ∈ ds.map (·.text), utf8Validate domain = true := by
      intro ds domain hmem
      obtain ⟨d, -, rfl⟩ := List.mem_map.1 hmem
      exact d.utf8
    simp only [List.forall_mem_cons, List.not_mem_nil, false_imp_iff, implies_true, and_true]
    rw [hsplit, hdef]
    exact ⟨htexts _, htexts _⟩
  rw [readDomains_value i hutf8, searchDomains, hsplit, hdef, Tunnel.domains]
  by_cases hnil : t.splitDns = []
  · simp [hnil]
  · rw [if_neg hnil, if_neg (by simpa using hnil)]

/-- The default domains are one text. -/
theorem readDefDomain_described : (readText i "CISCO_DEF_DOMAIN").value =
    (joined ", " (t.defDomain.map (·.text))).map .string := by
  rw [readText_value i, h.defDomain, joined]
  · by_cases hnil : t.defDomain = []
    · simp [hnil]
    · rw [if_neg (by simpa using hnil), nonempty_some_of_ne (joined_ne_nil ", " hnil)]
  · intro s hs
    rw [h.defDomain, joined] at hs
    split_ifs at hs
    obtain rfl := Option.some.inj hs
    exact utf8Validate_joined ", " t.defDomain

end

/-! ## Routes of the variables -/

/-- What a network contributes to the routes. -/
def Network.contribution {α β : Type} {bound : Nat} (value : α → Nat → β) (r : Network α bound) :
    Include β :=
  if r.prefixLen.val = 0 then .defaultRoute else .route (value r.addr r.prefixLen.val)

/-- A function of the positions of a list is one of its elements. -/
theorem map_range_length {α β : Type} {f : Nat → β} {g : α → β} {l : List α}
    (h : ∀ n a, l[n]? = some a → f n = g a) : (List.range l.length).map f = l.map g := by
  refine List.ext_getElem (by simp) fun n hn hn' => ?_
  rw [List.getElem_map, List.getElem_map, List.getElem_range]
  exact h n _ (List.getElem?_eq_getElem _)

/-- A printed prefix length in range is read back. -/
theorem prefixLength_decimal {n : Nat} {bound : Int} (hn : (n : Int) ≤ bound)
    (hb : bound < 4294967296) : prefixLength (decimal n) bound = some n := by
  obtain ⟨hvalue, herange⟩ := strtol_decimal (n := n) (by omega)
  rw [prefixLength_eq_some hb, hvalue]
  exact ⟨herange, by omega, hn, by omega⟩

section
variable {α β : Type} {bound : Nat} {env : Env} {name family : String} {text : α → CStr}
  {routes : List (Network α bound)} (h : DescribesRoutes env name family text routes)

include h

/-- The number of the routes is read back. -/
theorem includeCount_described (hcount : routes.length ≤ 2147483647) :
    includeCount env name = if routes = [] then none else some (routes.length : Int) := by
  unfold includeCount
  rw [h.count]
  by_cases hnil : routes = []
  · simp [hnil]
  · have hpos := List.length_pos_iff.2 hnil
    obtain ⟨hvalue, -⟩ := strtol_decimal (n := routes.length) (by omega)
    have hatoi : atoi (decimal routes.length) = routes.length := by
      rw [atoi, hvalue, Int.bmod_eq_of_le] <;> omega
    rw [if_neg hnil, if_neg hnil, nonempty_some_of_ne (decimal_ne_nil _)]
    dsimp only
    rw [hatoi, if_neg (by omega)]

/-- The loop over the routes of a family collects them, and marks a default route. -/
theorem loopRoutes_described (hcount : routes.length ≤ 2147483647) {contribution : Nat → Include β}
    {value : α → Nat → β}
    (hcontribution : ∀ n r, routes[n]? = some r → contribution n = r.contribution value)
    (values : List β → GVariant) (mark : Bool) :
    routeEntries (loopRoutes (includeCount env name) contribution values mark) =
      Tunnel.routing value values routes mark := by
  have hmap := map_range_length hcontribution
  have hroutes : (List.range routes.length).filterMap (fun n => (contribution n).route?) =
      Tunnel.kept value routes := by
    calc (List.range routes.length).filterMap (fun n => (contribution n).route?)
        = ((List.range routes.length).map contribution).filterMap Include.route? := by
          rw [List.filterMap_map]
          rfl
      _ = Tunnel.kept value routes := by
          rw [hmap, List.filterMap_map]
          refine List.filterMap_congr fun r _ => ?_
          simp only [Function.comp_apply, Network.contribution]
          split_ifs <;> rfl
  have hmark : (List.range routes.length).any (fun n => (contribution n).isDefault) =
      routes.any fun r => r.prefixLen.val = 0 := by
    calc (List.range routes.length).any (fun n => (contribution n).isDefault)
        = ((List.range routes.length).map contribution).any Include.isDefault := by
          rw [List.any_map]
          rfl
      _ = routes.any fun r => r.prefixLen.val = 0 := by
          rw [hmap, List.any_map]
          refine List.any_congr rfl fun r => ?_
          simp only [Function.comp_apply, Network.contribution]
          split_ifs with hzero <;> simp [Include.isDefault, hzero]
  unfold Tunnel.routing
  rw [includeCount_described h hcount]
  by_cases hnil : routes = []
  · rw [if_pos hnil, hnil]
    rfl
  · rw [if_neg hnil, loopRoutes]
    simp only [includeLoop_eq, Int.toNat_natCast, hroutes, hmark]
    rfl

end

section
variable {i : HelperInput} {t : Tunnel} (h : Describes i t)

include h

theorem ip4Include_described {n : Nat} {r : Network Ip4Text 32} (hr : t.routes4[n]? = some r) :
    ip4Include i.env i.libs n = r.contribution fun a n => [sAddr a.addr, n, 0, 0] := by
  have hlt := r.prefixLen.isLt
  have hlen : prefixLength (decimal r.prefixLen.val) 32 = some r.prefixLen.val :=
    prefixLength_decimal (by omega) (by omega)
  unfold ip4Include ip4IncludePrefix Network.contribution
  rw [h.routes4.addr n r hr, h.routes4.maskLen n r hr, Option.bind_some, r.addr.spells]
  dsimp only
  rw [hlen]
  cases r.prefixLen.val <;> rfl

theorem ip6Include_described {ipRoute : CStr → Nat → NMIPRoute}
    (hroute : ∀ dest prefixLen, (inetPton6 dest).isSome = true → prefixLen ≤ 128 →
      i.libs.ipRouteNew dest prefixLen = some (ipRoute dest prefixLen)) {n : Nat}
    {r : Network Ip6Text 128} (hr : t.routes6[n]? = some r) :
    ip6Include i.env i.libs n = r.contribution fun a n => ipRoute a.text n := by
  have hlt := r.prefixLen.isLt
  have hlen : prefixLength (decimal r.prefixLen.val) 128 = some r.prefixLen.val :=
    prefixLength_decimal (by omega) (by omega)
  have hnew := hroute r.addr.text r.prefixLen.val (by simp [r.addr.spells]) (by omega)
  unfold ip6Include Network.contribution
  rw [h.routes6.addr n r hr, h.routes6.maskLen n r hr, Option.bind_some]
  dsimp only
  rw [hlen]
  cases hzero : r.prefixLen.val with
  | zero => rfl
  | succ k =>
    rw [hzero] at hnew
    simp [hnew]

/-! ## The messages -/

/-- All that the helper needs is there. -/
theorem configOk_described : configOk i = true := by
  unfold configOk
  rw [readGateway_described h, readTundev_described h, (readAddress4_described h).2.1,
    (readAddress6_described h).2.1]
  rfl

/-- What the helper reads is the configuration of the tunnel. -/
theorem configAdded_described {ipRoute : CStr → Nat → NMIPRoute}
    (hroute : ∀ dest prefixLen, (inetPton6 dest).isSome = true → prefixLen ≤ 128 →
      i.libs.ipRouteNew dest prefixLen = some (ipRoute dest prefixLen)) :
    (configAdded i).builder ++ familyFlag (hasIp4 i) .hasIp4 ++ familyFlag (hasIp6 i) .hasIp6 =
        t.config ∧
      (configAdded i).ip4builder = t.ip4config i.libs.ip4NetmaskToPrefix ∧
      (configAdded i).ip6builder = t.ip6config ipRoute := by
  have hroutes4 : routeEntries (readIp4Routes i).value =
      Tunnel.routing (fun a n => [sAddr a.addr, n, 0, 0]) .uint32Arrays t.routes4
        (ip4NetmaskDefault i) := by
    rw [readIp4Routes, getIp4Routes_value]
    exact loopRoutes_described h.routes4 t.count4 (fun _ _ hr => ip4Include_described h hr) _ _
  have hroutes6 : routeEntries (readIp6Routes i).value =
      Tunnel.routing (fun a n => ipRoute a.text n) .ip6Routes t.routes6 (ip6NetmaskDefault i) := by
    rw [readIp6Routes, getIp6Routes_value]
    exact loopRoutes_described h.routes6 t.count6
      (fun _ _ hr => ip6Include_described h hroute hr) _ _
  rw [configAdded_of_ok i (configOk_described h)]
  unfold textsAdded listsAdded ip6Added
  simp only [Added.append_builder, Added.append_ip4builder, Added.append_ip6builder,
    readGateway_described h, readTundev_described h, readText_described h.banner,
    readText_described h.proxyPac, readMtu_described h, (readAddress4_described h).1,
    (readAddress4_described h).2.2, (readAddress6_described h).1, (readAddress6_described h).2.2,
    (netmask4_described h).1, (netmask6_described h).1, readDns_described h, readNbns_described h,
    readDomains_described h, readDefDomain_described h, hroutes4, hroutes6,
    (netmask4_described h).2, (netmask6_described h).2]
  refine ⟨?_, ?_, ?_⟩
  · simp [Tunnel.config, entry]
  · simp [Tunnel.ip4config]
  · simp [Tunnel.ip6config]

/-- The plan of the handoff is the messages for the tunnel. -/
theorem handedPlan_described {ipRoute : CStr → Nat → NMIPRoute}
    (hroute : ∀ dest prefixLen, (inetPton6 dest).isSome = true → prefixLen ≤ 128 →
      i.libs.ipRouteNew dest prefixLen = some (ipRoute dest prefixLen)) :
    handedPlan (hasIp4 i, hasIp6 i) (HelperState.extend ⟨[], [], [], [], []⟩ (configAdded i)) =
      t.messages i.libs.ip4NetmaskToPrefix ipRoute := by
  obtain ⟨hconfig, hip4, hip6⟩ := configAdded_described h hroute
  unfold handedPlan handedConfig HelperState.extend Tunnel.messages
  simp only [List.nil_append, hconfig, hip4, hip6]
  rw [(readAddress4_described h).2.2, (readAddress6_described h).2.2]
  cases t.address4 <;> cases t.address6 <;> rfl

end

/-- A tunnel is handed over as it was agreed on.

For every tunnel, and an environment that describes it: what is sent are the messages for the tunnel
up to the first one that is not accepted, and the helper succeeds exactly when all are. libnm is
assumed to make a route of every IPv6 address with a prefix length up to 128. -/
theorem tunnel_handedOver (i : HelperInput) (t : Tunnel) (hconnects : Connects i)
    (hproxy : i.proxyCreated = true) (h : Describes i t) (ipRoute : CStr → Nat → NMIPRoute)
    (hroute : ∀ dest prefixLen, (inetPton6 dest).isSome = true → prefixLen ≤ 128 →
      i.libs.ipRouteNew dest prefixLen = some (ipRoute dest prefixLen)) :
    (runHelper i).2.sent =
        untilRejected i.accepts (t.messages i.libs.ip4NetmaskToPrefix ipRoute) ∧
      ((runHelper i).1 = 0 ↔
        ∀ c ∈ t.messages i.libs.ip4NetmaskToPrefix ipRoute, i.accepts c = true) := by
  unfold runHelper
  rw [helperMain_of_connects i hconnects hproxy,
    run_bind_ok (readConfig_of_ok i (configOk_described h) _), handOff_run,
    handedPlan_described h hroute, ← List.all_eq_true]
  refine ⟨rfl, ?_⟩
  cases (t.messages _ _).all i.accepts <;> simp

/-- A tunnel of both families, with a name server of each, two search domains and a route. -/
def splitTunnel : Tunnel where
  gateway := .ip4 ⟨cstr "192.0.2.1", [192, 0, 2, 1], by decide +kernel⟩
  device := ⟨cstr "vpn0", by decide +kernel, by decide +kernel⟩
  banner := none
  proxyPac := none
  mtu := some 1400
  dns := [.ip4 ⟨cstr "10.0.0.53", [10, 0, 0, 53], by decide +kernel⟩,
    .ip6 ⟨cstr "2001:db8::53", [32, 1, 13, 184, 0, 0, 0, 0, 0, 0, 0, 0, 0, 0, 0, 83],
      by decide +kernel⟩]
  splitDns := [⟨⟨cstr "a.example", by decide +kernel, by decide +kernel⟩, by decide +kernel⟩,
    ⟨⟨cstr "b.example", by decide +kernel, by decide +kernel⟩, by decide +kernel⟩]
  defDomain := []
  address4 := some ⟨cstr "10.0.0.2", [10, 0, 0, 2], by decide +kernel⟩
  netmask4 := none
  nbns := []
  routes4 := [⟨⟨cstr "10.1.0.0", [10, 1, 0, 0], by decide +kernel⟩, 16⟩]
  count4 := by decide +kernel
  address6 := some ⟨cstr "2001:db8::2",
    [32, 1, 13, 184, 0, 0, 0, 0, 0, 0, 0, 0, 0, 0, 0, 2], by decide +kernel⟩
  netmask6 := none
  routes6 := []
  count6 := by decide +kernel

/-- The helper of that tunnel. -/
def splitTunnelHelper : HelperInput := { ip4Helper with
  env := splitEnv [("INTERNAL_IP4_MTU", "1400"), ("INTERNAL_IP4_DNS", "10.0.0.53 2001:db8::53"),
    ("CISCO_SPLIT_DNS", "a.example,b.example"), ("INTERNAL_IP6_ADDRESS", "2001:db8::2"),
    ("CISCO_SPLIT_INC", "1"), ("CISCO_SPLIT_INC_0_ADDR", "10.1.0.0"),
    ("CISCO_SPLIT_INC_0_MASKLEN", "16")] }

theorem describes_splitTunnel : Describes splitTunnelHelper splitTunnel where
  gateway := by decide +kernel
  device := by decide +kernel
  banner := by decide +kernel
  proxyPac := by decide +kernel
  mtu := by decide +kernel
  dns := by decide +kernel
  splitDns := by decide +kernel
  defDomain := by decide +kernel
  address4 := by decide +kernel
  netmask4 := by decide +kernel
  nbns := by decide +kernel
  routes4 := by
    refine ⟨by decide +kernel, ?_, ?_⟩
    all_goals
      rintro (_ | n) r hr
      · obtain rfl := Option.some.inj hr
        decide +kernel
      · cases hr
  address6 := by decide +kernel
  netmask6 := by decide +kernel
  routes6 := ⟨by decide +kernel, nofun, nofun⟩

theorem tunnel_handedOver_split :
    (runHelper splitTunnelHelper).2.sent = splitTunnel.messages (fun _ => 24) .mk ∧
      (runHelper splitTunnelHelper).1 = 0 := by
  have hconnects : Connects splitTunnelHelper := by
    have hreason : envVar splitTunnelHelper "reason" = none := by decide +kernel
    intro reason hset
    rw [hreason] at hset
    cases hset
  obtain ⟨hsent, hexit⟩ := tunnel_handedOver splitTunnelHelper splitTunnel hconnects rfl
    describes_splitTunnel .mk fun _ _ _ _ => rfl
  refine ⟨?_, hexit.2 fun _ _ => rfl⟩
  rw [hsent]
  exact untilRejected_of_accepted fun _ _ => rfl

end NmGpclient
