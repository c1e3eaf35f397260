import NmGpclient.Helper.Domains
import NmGpclient.Helper.Lists
import NmGpclient.Helper.SplitTunnel

/-!
# Name resolution

The DNS servers of both families are in one list, which the helper splits: each family's servers go
into the dictionary of the family. The search domains go into the IPv4 dictionary only, and
`CISCO_DEF_DOMAIN` as one text into the IPv6 one. A dictionary is dropped when the tunnel has no
address of its family, with all that it holds.
-/

namespace NmGpclient

section
variable (i : HelperInput)

/-! ## What the server says -/

/-- The parts of the list of DNS servers. -/
def dnsTokens : List CStr := (nonempty (envVar i "INTERNAL_IP4_DNS")).elim [] spaceTokens

/-- The domains of a variable. -/
def domainsOf (name : String) : List CStr := (envVar i name).elim [] domainTokens

/-- The search domains: those of `CISCO_SPLIT_DNS`, or of `CISCO_DEF_DOMAIN` when there are none. -/
def searchDomains : List CStr :=
  if domainsOf i "CISCO_SPLIT_DNS" = [] then domainsOf i "CISCO_DEF_DOMAIN"
  else domainsOf i "CISCO_SPLIT_DNS"

/-- A run for a tunnel with an address, and with valid values: each server is an address, and the
domains are UTF-8. D-Bus accepts what is sent. -/
structure ValidRun : Prop where
  connects : Connects i
  proxyCreated : i.proxyCreated = true
  accepts : ∀ c, i.accepts c = true
  complete : Complete i
  tundev : ∀ s, envVar i "TUNDEV" = some s → utf8Validate s = true
  address : hasIp4 i = true ∨ hasIp6 i = true
  dns : ∀ token ∈ dnsTokens i, isAddress token = true
  domains : ∀ name ∈ ["CISCO_SPLIT_DNS", "CISCO_DEF_DOMAIN"], ∀ s, envVar i name = some s →
    utf8Validate s = true

/-! ## What is sent -/

/-- The dictionary of a family that a call sends. -/
def HelperCall.familyConfig : HelperCall → Option (Dict IpConfigKey)
  | .setIp4Config dict | .setIp6Config dict => some dict
  | _ => none

/-- A run sends the dictionary of a family. -/
def FamilySent (dict : Dict IpConfigKey) : Prop :=
  ∃ c ∈ (runHelper i).2.sent, c.familyConfig = some dict

/-- The dictionary has the domain, in its list or as the one domain. -/
def HasDomain (dict : Dict IpConfigKey) (domain : CStr) : Prop :=
  (∃ domains, (.domains, .strings domains) ∈ dict ∧ domain ∈ domains) ∨
    (.domain, .string domain) ∈ dict

/-- Each DNS server and each search domain is in a dictionary that is sent. -/
structure ResolutionSent : Prop where
  servers4 : ∀ addr ∈ ip4Tokens (dnsTokens i), ∃ dict, FamilySent i dict ∧
    ∃ servers, (.dns, .uint32s servers) ∈ dict ∧ addr ∈ servers
  servers6 : ∀ addr ∈ ip6Tokens (dnsTokens i), ∃ dict, FamilySent i dict ∧
    ∃ servers, (.dns, .byteArrays servers) ∈ dict ∧ addr ∈ servers
  domains : ∀ domain ∈ searchDomains i, ∃ dict, FamilySent i dict ∧ HasDomain dict domain

/-! ## What the dictionaries hold -/

/-- The lists of the DNS servers, when each one is an address. -/
theorem readDns_value (h : ∀ token ∈ dnsTokens i, isAddress token = true) :
    (readDns i).value = (listValue .uint32s (ip4Tokens (dnsTokens i)),
      listValue .byteArrays (ip6Tokens (dnsTokens i))) := by
  revert h
  unfold readDns dnsTokens
  rcases envVar i "INTERNAL_IP4_DNS" with _ | _ | ⟨b, s⟩
  · exact fun _ => rfl
  · exact fun _ => rfl
  · rw [nonempty_cons, addr46ListToGvariant_value]
    intro h
    exact if_pos (List.all_eq_true.2 h)

/-- The list of a variable's domains, when they are UTF-8. -/
theorem splitDnsListToGvariant_value {name : String}
    (h : ∀ domain ∈ domainsOf i name, utf8Validate domain = true) :
    (splitDnsListToGvariant (envVar i name)).value = listValue .strings (domainsOf i name) := by
  unfold domainsOf listValue at *
  cases hvar : envVar i name with
  | none => rfl
  | some s =>
    rw [hvar, Option.elim_some] at h
    rw [splitDnsListToGvariant_eq, Option.elim_some, if_pos (List.all_eq_true.2 h)]
    split_ifs <;> rfl

/-- The list of the search domains. -/
theorem readDomains_value (h : ∀ name ∈ ["CISCO_SPLIT_DNS", "CISCO_DEF_DOMAIN"],
    ∀ domain ∈ domainsOf i name, utf8Validate domain = true) :
    (readDomains i).value = listValue .strings (searchDomains i) := by
  have hsplit := splitDnsListToGvariant_value i (h "CISCO_SPLIT_DNS" (by simp))
  have hdefault := splitDnsListToGvariant_value i (h "CISCO_DEF_DOMAIN" (by simp))
  unfold readDomains searchDomains
  simp only [Bind.bind, hsplit]
  by_cases hnone : domainsOf i "CISCO_SPLIT_DNS" = []
  · simp [listValue, hnone, hdefault]
  · simp [listValue, hnone, Pure.pure]

/-- The default domain, when it is UTF-8. -/
theorem readText_value (name : String) (h : ∀ s, envVar i name = some s → utf8Validate s = true) :
    (readText i name).value = (nonempty (envVar i name)).map .string := by
  unfold readText strToGvariant
  rcases hvar : envVar i name with _ | _ | ⟨b, s⟩
  · rfl
  · rfl
  · simp [h _ hvar, gVariantNewString, Glib.call]

section
variable {i} (h : ValidRun i)

include h

theorem ValidRun.configOk : configOk i = true := (configOk_iff i).2 ⟨h.complete, h.tundev⟩

theorem ValidRun.utf8_domainsOf : ∀ name ∈ ["CISCO_SPLIT_DNS", "CISCO_DEF_DOMAIN"],
    ∀ domain ∈ domainsOf i name, utf8Validate domain = true := by
  intro name hname
  unfold domainsOf
  cases hvar : envVar i name with
  | none => simp
  | some s => exact utf8Validate_domainTokens (h.domains name hname s hvar)

/-- The dictionary of each family that the tunnel has is sent. -/
theorem familySent_iff {dict : Dict IpConfigKey} : FamilySent i dict ↔
    (hasIp4 i = true ∧ dict = (configAdded i).ip4builder) ∨
      (hasIp6 i = true ∧ dict = (configAdded i).ip6builder) := by
  unfold FamilySent
  rw [runHelper_handedOff i h.connects h.proxyCreated h.configOk]
  dsimp only
  rw [untilRejected_of_accepted fun c _ => h.accepts c]
  cases h4 : hasIp4 i <;> cases h6 : hasIp6 i <;>
    simp [handedPlan, plan, HelperCall.familyConfig, HelperState.extend, eq_comm]

/-- The entries of the IPv4 dictionary for names. -/
theorem ip4builder_names (v : GVariant) :
    ((.dns, v) ∈ (configAdded i).ip4builder ↔
        listValue .uint32s (ip4Tokens (dnsTokens i)) = some v) ∧
      ((.domains, v) ∈ (configAdded i).ip4builder ↔
        listValue .strings (searchDomains i) = some v) ∧
      (.domain, v) ∉ (configAdded i).ip4builder := by
  rw [configAdded_of_ok i h.configOk]
  simp [textsAdded, listsAdded, ip6Added, mem_entry, mem_routeEntries, readDns_value i h.dns,
    readDomains_value i h.utf8_domainsOf]

/-- The entries of the IPv6 dictionary for names. -/
theorem ip6builder_names (v : GVariant) :
    ((.dns, v) ∈ (configAdded i).ip6builder ↔
        listValue .byteArrays (ip6Tokens (dnsTokens i)) = some v) ∧
      (.domains, v) ∉ (configAdded i).ip6builder ∧
      ((.domain, v) ∈ (configAdded i).ip6builder ↔
        (nonempty (envVar i "CISCO_DEF_DOMAIN")).map .string = some v) := by
  rw [configAdded_of_ok i h.configOk]
  simp [textsAdded, listsAdded, ip6Added, mem_entry, mem_routeEntries, readDns_value i h.dns,
    readText_value i "CISCO_DEF_DOMAIN" (h.domains _ (by simp))]

end

theorem listValue_eq_some {α : Type} {value : List α → GVariant} {xs : List α} {v : GVariant} :
    listValue value xs = some v ↔ xs ≠ [] ∧ value xs = v := by
  unfold listValue
  split_ifs with h <;> simp [h]

/-- A domain is not empty. -/
theorem ne_nil_of_mem_searchDomains {domain : CStr} (h : domain ∈ searchDomains i) :
    domain ≠ [] := by
  have hof : ∀ name, domain ∈ domainsOf i name → domain ≠ [] := by
    intro name hmem
    unfold domainsOf at hmem
    cases hvar : envVar i name with
    | none => simp [hvar] at hmem
    | some s =>
      rw [hvar, Option.elim_some] at hmem
      simpa using (List.mem_filter.1 hmem).2
  unfold searchDomains at h
  split_ifs at h
  · exact hof _ h
  · exact hof _ h

/-- When no setting for names is lost.

In a run with valid values, every DNS server and every search domain is in a dictionary that is
sent, if and only if the tunnel has an IPv4 address when there are IPv4 servers and an IPv6 address
when there are IPv6 servers, and each search domain either meets an IPv4 address or is the whole of
`CISCO_DEF_DOMAIN` on a tunnel with an IPv6 address. -/
theorem resolutionSent_iff (h : ValidRun i) : ResolutionSent i ↔
    (ip4Tokens (dnsTokens i) ≠ [] → hasIp4 i = true) ∧
    (ip6Tokens (dnsTokens i) ≠ [] → hasIp6 i = true) ∧
    ∀ domain ∈ searchDomains i, hasIp4 i = true ∨
      (hasIp6 i = true ∧ envVar i "CISCO_DEF_DOMAIN" = some domain) := by
  have h4 := ip4builder_names h
  have h6 := ip6builder_names h
  constructor
  · rintro ⟨hservers4, hservers6, hdomains⟩
    refine ⟨fun hne => ?_, fun hne => ?_, fun domain hdomain => ?_⟩
    · obtain ⟨addr, haddr⟩ := List.exists_mem_of_ne_nil _ hne
      obtain ⟨dict, hsent, servers, hmem, -⟩ := hservers4 addr haddr
      rcases (familySent_iff h).1 hsent with ⟨hip4, -⟩ | ⟨-, rfl⟩
      · exact hip4
      · obtain ⟨-, hvalue⟩ := listValue_eq_some.1 ((h6 _).1.1 hmem)
        cases hvalue
    · obtain ⟨addr, haddr⟩ := List.exists_mem_of_ne_nil _ hne
      obtain ⟨dict, hsent, servers, hmem, -⟩ := hservers6 addr haddr
      rcases (familySent_iff h).1 hsent with ⟨-, rfl⟩ | ⟨hip6, -⟩
      · obtain ⟨-, hvalue⟩ := listValue_eq_some.1 ((h4 _).1.1 hmem)
        cases hvalue
      · exact hip6
    · obtain ⟨dict, hsent, hhas⟩ := hdomains domain hdomain
      rcases (familySent_iff h).1 hsent with ⟨hip4, -⟩ | ⟨hip6, rfl⟩
      · exact .inl hip4
      · rcases hhas with ⟨domains, hmem, -⟩ | hmem
        · exact absurd hmem (h6 _).2.1
        · obtain ⟨text, htext, hvalue⟩ := Option.map_eq_some_iff.1 ((h6 _).2.2.1 hmem)
          obtain rfl := GVariant.string.inj hvalue
          exact .inr ⟨hip6, (nonempty_eq_some.1 htext).1⟩
  · rintro ⟨hservers4, hservers6, hdomains⟩
    refine ⟨fun addr haddr => ?_, fun addr haddr => ?_, fun domain hdomain => ?_⟩
    · have hne := List.ne_nil_of_mem haddr
      exact ⟨_, (familySent_iff h).2 (.inl ⟨hservers4 hne, rfl⟩), _,
        (h4 _).1.2 (listValue_eq_some.2 ⟨hne, rfl⟩), haddr⟩
    · have hne := List.ne_nil_of_mem haddr
      exact ⟨_, (familySent_iff h).2 (.inr ⟨hservers6 hne, rfl⟩), _,
        (h6 _).1.2 (listValue_eq_some.2 ⟨hne, rfl⟩), haddr⟩
    · rcases hdomains domain hdomain with hip4 | ⟨hip6, hdefault⟩
      · have hne := List.ne_nil_of_mem hdomain
        exact ⟨_, (familySent_iff h).2 (.inl ⟨hip4, rfl⟩),
          .inl ⟨_, (h4 _).2.1.2 (listValue_eq_some.2 ⟨hne, rfl⟩), hdomain⟩⟩
      · have hne := ne_nil_of_mem_searchDomains i hdomain
        refine ⟨_, (familySent_iff h).2 (.inr ⟨hip6, rfl⟩), .inr ((h6 _).2.2.2 ?_)⟩
        rw [hdefault, nonempty_some_of_ne hne]
        rfl

end

/-! ## Two tunnels -/

/-- A valid run, from checks that compute. -/
theorem validRun_of_checks (i : HelperInput) (hreason : envVar i "reason" = none)
    (hproxy : i.proxyCreated = true) (haccepts : ∀ c, i.accepts c = true)
    (hok : configOk i = true) (haddress : hasIp4 i = true ∨ hasIp6 i = true)
    (hdns : ∀ token ∈ dnsTokens i, isAddress token = true)
    (hdomains : ∀ name ∈ ["CISCO_SPLIT_DNS", "CISCO_DEF_DOMAIN"],
      (envVar i name).all utf8Validate = true) : ValidRun i := by
  obtain ⟨hcomplete, htundev⟩ := (configOk_iff i).1 hok
  refine ⟨fun reason h => ?_, hproxy, haccepts, hcomplete, htundev, haddress, hdns,
    fun name hname s hs => ?_⟩
  · rw [hreason] at h
    cases h
  · have hall := hdomains name hname
    rwa [hs] at hall

/-- A tunnel of both families, with servers of both and two search domains. -/
def resolvingHelper : HelperInput := { ip4Helper with
  env := splitEnv [("INTERNAL_IP6_ADDRESS", "2001:db8::2"),
    ("INTERNAL_IP4_DNS", "10.0.0.53 2001:db8::53"), ("CISCO_SPLIT_DNS", "a.example,b.example")] }

theorem resolutionSent_resolving : ResolutionSent resolvingHelper ↔
    (ip4Tokens (dnsTokens resolvingHelper) ≠ [] → hasIp4 resolvingHelper = true) ∧
    (ip6Tokens (dnsTokens resolvingHelper) ≠ [] → hasIp6 resolvingHelper = true) ∧
    ∀ domain ∈ searchDomains resolvingHelper, hasIp4 resolvingHelper = true ∨
      (hasIp6 resolvingHelper = true ∧
        envVar resolvingHelper "CISCO_DEF_DOMAIN" = some domain) :=
  resolutionSent_iff resolvingHelper (validRun_of_checks resolvingHelper (by decide +kernel) rfl
    (fun _ => rfl) (by decide +kernel) (by decide +kernel) (by decide +kernel)
    (by decide +kernel))

/-- An IPv6 tunnel with a search domain. -/
def ip6OnlyHelper : HelperInput := { ip4Helper with
  env := (splitEnv [("INTERNAL_IP6_ADDRESS", "2001:db8::2"), ("INTERNAL_IP4_DNS", "2001:db8::53"),
    ("CISCO_SPLIT_DNS", "corp.example")]).erase (cstr "INTERNAL_IP4_ADDRESS") }

/-- The search domain is dropped with the IPv4 dictionary. -/
theorem ip6Only_domain_lost : ValidRun ip6OnlyHelper ∧ ¬ResolutionSent ip6OnlyHelper := by
  refine ⟨validRun_of_checks ip6OnlyHelper (by decide +kernel) rfl (fun _ => rfl)
    (by decide +kernel) (by decide +kernel) (by decide +kernel) (by decide +kernel), fun h => ?_⟩
  have hdomain : cstr "corp.example" ∈ searchDomains ip6OnlyHelper := by decide +kernel
  have hsent : ∀ c ∈ (runHelper ip6OnlyHelper).2.sent, ∀ dict, c.familyConfig = some dict →
      dict.map Prod.fst = [.dns, .address, .ptp] := by
    intro c hc dict hdict
    have hall : ((runHelper ip6OnlyHelper).2.sent.filterMap HelperCall.familyConfig).all
        fun dict => dict.map Prod.fst = [.dns, .address, .ptp] := by decide +kernel
    exact of_decide_eq_true
      (List.all_eq_true.1 hall dict (List.mem_filterMap.2 ⟨c, hc, hdict⟩))
  obtain ⟨dict, ⟨c, hc, hdict⟩, hhas⟩ := h.domains _ hdomain
  have hkeys : ∀ key value, (key, value) ∈ dict → key ∈ [IpConfigKey.dns, .address, .ptp] := by
    intro key value hmem
    rw [← hsent c hc dict hdict]
    exact List.mem_map_of_mem hmem
  rcases hhas with ⟨domains, hmem, -⟩ | hmem
  · exact absurd (hkeys _ _ hmem) (by decide)
  · exact absurd (hkeys _ _ hmem) (by decide)

end NmGpclient
