import NmGpclient.Helper.Conversion
import NmGpclient.Helper.Resolution

/-!
# The preconditions of GLib

The GLib calls of a run, against what GLib documents of them. The texts of the server are checked
before `g_variant_new_string`, but not where no conversion is tried; the failed conversion is tried
again on a null pointer; the list of the WINS servers is ended without a child when its first part
is no address, and the missing value is released; and the domains are not checked.
-/

namespace NmGpclient

/-- The call is one that GLib allows: its strings are there and UTF-8, an array without a child has
a definite type, and what is released is there. -/
def GlibCall.Ok : GlibCall → Prop
  | .variantNewString s => utf8Validate s = true
  | .variantNewStrv strv => ∀ s ∈ strv, utf8Validate s = true
  | .convert str => str.isSome = true
  | .builderEnd definite children => definite = true ∨ children ≠ 0
  | .variantUnref isNull => isNull = false
  | .ptrArrayNew _ => True

/-- All calls are allowed. -/
def AllOk (calls : List GlibCall) : Prop := ∀ c ∈ calls, c.Ok

@[simp] theorem allOk_nil : AllOk [] := by simp [AllOk]

@[simp] theorem allOk_cons {c : GlibCall} {calls : List GlibCall} :
    AllOk (c :: calls) ↔ c.Ok ∧ AllOk calls := List.forall_mem_cons

@[simp] theorem allOk_append {calls calls' : List GlibCall} :
    AllOk (calls ++ calls') ↔ AllOk calls ∧ AllOk calls' := List.forall_mem_append

/-! ## The conversions -/

/-- A text is converted without fault exactly when it is UTF-8, whether or not a conversion is
tried. -/
theorem strToGvariant_ok {libs : HelperLibs} (hlibs : GConvertSpec libs) (str : Option CStr)
    (tryConvert : Bool) : AllOk (strToGvariant libs str tryConvert).calls ↔
      ∀ s, str = some s → utf8Validate s = true := by
  rcases str with _ | _ | ⟨b, s⟩
  · simp [strToGvariant, Pure.pure]
  · have hempty : utf8Validate [] = true := by decide +kernel
    simp [strToGvariant, Pure.pure, hempty]
  · cases hutf8 : utf8Validate (b :: s) with
    | true => simp [strToGvariant, hutf8, gVariantNewString, Glib.call, GlibCall.Ok]
    | false =>
      cases tryConvert with
      | true => simp [strToGvariant_of_invalid hlibs hutf8, hutf8, GlibCall.Ok]
      | false =>
        simp [strToGvariant, hutf8, gVariantNewString, Glib.call, GlibCall.Ok, Bind.bind, Pure.pure]

/-- Once there is a child, the loop of `addr4_list_to_gvariant` ends its builder without fault. -/
theorem addr4ListLoop_ok : ∀ (parts : List CStr) {ns : List Nat}, ns ≠ [] →
    AllOk (addr4ListLoop parts ns).calls
  | [], ns, h => by simp [addr4ListLoop, gVariantBuilderEnd, Glib.call, GlibCall.Ok, h]
  | part :: parts, ns, h => by
      unfold addr4ListLoop
      cases inetPton4 part with
      | some addr => exact addr4ListLoop_ok parts (by simp)
      | none => simp [gVariantBuilderEnd, Glib.call, Bind.bind, GlibCall.Ok, h]

/-- A list of IPv4 addresses is converted without fault exactly when its first part is one. -/
theorem addr4ListToGvariant_ok (str : Option CStr) : AllOk (addr4ListToGvariant str).calls ↔
    ∀ s, str = some s → s ≠ [] → ∀ token ∈ (spaceTokens s).head?,
      (inetPton4 token).isSome = true := by
  unfold addr4ListToGvariant
  rcases str with _ | _ | ⟨b, s⟩
  · simp [Pure.pure]
  · simp [Pure.pure]
  · obtain ⟨hsplit, hne⟩ := gStrsplit_eq_tokens (s := b :: s) (by simp)
    rw [nonempty_cons]
    dsimp only
    rw [hsplit, if_neg (by simpa using hne)]
    obtain ⟨token, tokens, htokens⟩ := List.exists_cons_of_ne_nil hne
    simp only [Option.some.injEq, forall_eq', ne_eq, reduceCtorEq, not_false_eq_true, htokens,
      List.head?_cons, Option.mem_def, forall_const]
    unfold addr4ListLoop
    cases inetPton4 token with
    | some addr => simp [addr4ListLoop_ok]
    | none => simp [gVariantBuilderEnd, Glib.call, Bind.bind, GlibCall.Ok]

/-- The list of both families ends only builders that have a child. -/
theorem addr46ListToGvariant_ok (str : Option CStr) : AllOk (addr46ListToGvariant str).calls := by
  have hend : ∀ {α : Type} (definite : Bool) (value : List α → GVariant) (xs : List α),
      AllOk (endBuilder definite value xs).calls := by
    intro α definite value xs
    unfold endBuilder
    split_ifs with h
    · simp [Pure.pure]
    · simp [Glib.call, GlibCall.Ok, h]
  unfold addr46ListToGvariant
  split
  · simp [Pure.pure]
  · split
    · simp [Pure.pure]
    · simp [Bind.bind, Pure.pure, hend]

/-- Domains are handed over without fault exactly when they are UTF-8. -/
theorem splitDnsListToGvariant_ok (str : Option CStr) : AllOk (splitDnsListToGvariant str).calls ↔
    ∀ domain ∈ str.elim [] domainTokens, utf8Validate domain = true := by
  cases str with
  | none => simp [splitDnsListToGvariant, Pure.pure]
  | some s =>
    rw [splitDnsListToGvariant_eq, Option.elim_some]
    by_cases h : domainTokens s = []
    · simp [Pure.pure, h]
    · rw [if_neg h]
      simp [Glib.call, GlibCall.Ok]

/-- The builders and arrays of routes have definite types. -/
theorem getIp4Routes_ok (env : Env) (libs : HelperLibs) (mark : Bool) :
    AllOk (getIp4Routes env libs mark).calls := by
  unfold getIp4Routes
  split
  · simp [Pure.pure]
  · simp only [Bind.bind, Glib.call]
    split <;> simp [Pure.pure, GlibCall.Ok]

theorem getIp6Routes_ok (env : Env) (libs : HelperLibs) (mark : Bool) :
    AllOk (getIp6Routes env libs mark).calls := by
  unfold getIp6Routes
  split
  · simp [Pure.pure]
  · simp [Bind.bind, Pure.pure, Glib.call, GlibCall.Ok]

section
variable (i : HelperInput)

/-- The search domains are handed over without fault exactly when they are UTF-8. -/
theorem readDomains_ok : AllOk (readDomains i).calls ↔
    ∀ domain ∈ searchDomains i, utf8Validate domain = true := by
  have hsplit := splitDnsListToGvariant_ok (envVar i "CISCO_SPLIT_DNS")
  have hdefault := splitDnsListToGvariant_ok (envVar i "CISCO_DEF_DOMAIN")
  change _ ↔ ∀ domain ∈ domainsOf i "CISCO_SPLIT_DNS", _ at hsplit
  change _ ↔ ∀ domain ∈ domainsOf i "CISCO_DEF_DOMAIN", _ at hdefault
  unfold readDomains searchDomains
  simp only [Bind.bind, allOk_append, hsplit]
  by_cases hnone : domainsOf i "CISCO_SPLIT_DNS" = []
  · rw [splitDnsListToGvariant_value i (by simp [hnone])]
    simp [listValue, hnone, hdefault]
  · rw [if_neg hnone]
    refine ⟨And.left, fun hutf8 => ⟨hutf8, ?_⟩⟩
    rw [splitDnsListToGvariant_value i hutf8]
    simp [listValue, hnone, Pure.pure]

/-! ## The texts of the server -/

/-- The run reads the gateway, and the tunnel device after it. -/
def ReadsTundev : Prop := Connects i ∧ i.proxyCreated = true ∧
  ∃ s, envVar i "VPNGATEWAY" = some s ∧ ((inetPton4 s).isSome = true ∨ (inetPton6 s).isSome = true)

/-- The run reads the texts that are converted: there is a tunnel device. -/
def ReadsTexts : Prop := ReadsTundev i ∧ ∃ s, envVar i "TUNDEV" = some s ∧ s ≠ []

/-- The run reads the lists: the IPv4 address is not given or is one. -/
def ReadsLists : Prop := ReadsTexts i ∧
  ∀ s, envVar i "INTERNAL_IP4_ADDRESS" = some s → s ≠ [] → (inetPton4 s).isSome = true

/-- The texts that a run reads are UTF-8, and the first of the WINS servers is an IPv4 address. -/
structure TextsFit : Prop where
  tundev : ReadsTundev i → ∀ s, envVar i "TUNDEV" = some s → utf8Validate s = true
  texts : ReadsTexts i → ∀ name ∈ ["CISCO_BANNER", "CISCO_PROXY_PAC"], ∀ s,
    envVar i name = some s → utf8Validate s = true
  nbns : ReadsLists i → ∀ s, envVar i "INTERNAL_IP4_NBNS" = some s → s ≠ [] →
    ∀ token ∈ (spaceTokens s).head?, (inetPton4 token).isSome = true
  domains : ReadsLists i → ∀ domain ∈ searchDomains i, utf8Validate domain = true
  defaultDomain : ReadsLists i → ∀ s, envVar i "CISCO_DEF_DOMAIN" = some s → utf8Validate s = true

/-- The calls of the handoff end and release dictionaries, whose type is definite. -/
theorem endCalls_ok (has : Bool) (dict : Dict IpConfigKey) : AllOk (endCalls has dict) := by
  cases has <;> simp [endCalls, GlibCall.Ok]

/-- The calls of a run are those of its reading, and allowed ones. -/
theorem runHelper_ok (hconnects : Connects i) (hproxy : i.proxyCreated = true) :
    AllOk (runHelper i).2.glib ↔ AllOk (configAdded i).glib := by
  cases hok : configOk i with
  | false =>
    obtain ⟨reason, hrun⟩ := runHelper_refused i hconnects hproxy hok
    rw [hrun]
  | true =>
    rw [runHelper_handedOff i hconnects hproxy hok]
    simp [HelperState.extend, endCalls_ok, GlibCall.Ok]

/-- The calls of the reading are allowed exactly when each part that is read makes allowed ones. -/
theorem configAdded_ok : AllOk (configAdded i).glib ↔ ((readGateway i).isSome = true →
    AllOk (readTundev i).calls ∧ ((readTundev i).value.isSome = true →
      (AllOk (readText i "CISCO_BANNER").calls ∧ AllOk (readText i "CISCO_PROXY_PAC").calls) ∧
      (addressOk i "INTERNAL_IP4_ADDRESS" addr4ToGvariant = true →
        AllOk (readNbns i).calls ∧ AllOk (readDomains i).calls ∧
          AllOk (readText i "CISCO_DEF_DOMAIN").calls))) := by
  have hdns : AllOk (readDns i).calls := addr46ListToGvariant_ok _
  have hip4Routes : AllOk (readIp4Routes i).calls := getIp4Routes_ok _ _ _
  have hip6Routes : AllOk (readIp6Routes i).calls := getIp6Routes_ok _ _ _
  unfold configAdded Added.onlyIf
  split_ifs <;> simp [*, textsAdded, listsAdded, ip6Added, and_assoc]

/-- When no precondition of GLib is broken.

With `g_convert` as GLib documents it, every GLib call of a run is one that GLib allows, if and only
if the texts that the run reads are UTF-8 and the first of the WINS servers is an IPv4 address. -/
theorem runHelper_ok_iff (hlibs : GConvertSpec i.libs) :
    AllOk (runHelper i).2.glib ↔ TextsFit i := by
  by_cases hruns : Connects i ∧ i.proxyCreated = true
  · obtain ⟨hconnects, hproxy⟩ := hruns
    have htundev : AllOk (readTundev i).calls ↔
        ∀ s, envVar i "TUNDEV" = some s → utf8Validate s = true := strToGvariant_ok hlibs _ _
    have htext : ∀ name, AllOk (readText i name).calls ↔
        ∀ s, envVar i name = some s → utf8Validate s = true := fun _ => strToGvariant_ok hlibs _ _
    have hnbns : AllOk (readNbns i).calls ↔ ∀ s, envVar i "INTERNAL_IP4_NBNS" = some s → s ≠ [] →
        ∀ token ∈ (spaceTokens s).head?, (inetPton4 token).isSome = true := addr4ListToGvariant_ok _
    rw [runHelper_ok i hconnects hproxy, configAdded_ok, readDomains_ok, readGateway_isSome,
      readTundev_isSome, addressOk_iff, htundev, htext, htext, htext, hnbns]
    simp only [isSome_addr4ToGvariant]
    constructor
    · intro h
      refine ⟨fun ⟨_, _, hgateway⟩ => (h hgateway).1, ?_, ?_, ?_, ?_⟩
      · rintro ⟨⟨-, -, hgateway⟩, hgiven⟩ name hname
        obtain ⟨hutf8, hrest⟩ := h hgateway
        obtain ⟨hbanner, hpac⟩ := (hrest ⟨hgiven, hutf8⟩).1
        rcases List.mem_pair.1 hname with rfl | rfl
        · exact hbanner
        · exact hpac
      all_goals
        rintro ⟨⟨⟨-, -, hgateway⟩, hgiven⟩, hip4⟩
        obtain ⟨hutf8, hrest⟩ := h hgateway
        obtain ⟨hnbns, hdomains, hdefault⟩ := (hrest ⟨hgiven, hutf8⟩).2 hip4
        assumption
    · rintro ⟨htundev, htexts, hnbns, hdomains, hdefault⟩ hgateway
      have hreads : ReadsTundev i := ⟨hconnects, hproxy, hgateway⟩
      refine ⟨htundev hreads, fun ⟨hgiven, _⟩ => ⟨⟨?_, ?_⟩, fun hip4 => ?_⟩⟩
      · exact htexts ⟨hreads, hgiven⟩ _ (by simp)
      · exact htexts ⟨hreads, hgiven⟩ _ (by simp)
      · have hlists : ReadsLists i := ⟨⟨hreads, hgiven⟩, hip4⟩
        exact ⟨hnbns hlists, hdomains hlists, hdefault hlists⟩
  · rw [runHelper_idle i hruns]
    have hidle : ¬ReadsTundev i := fun ⟨hconnects, hproxy, _⟩ => hruns ⟨hconnects, hproxy⟩
    refine iff_of_true allOk_nil ⟨fun h => absurd h hidle, fun h => absurd h.1 hidle,
      fun h => absurd h.1.1 hidle, fun h => absurd h.1.1 hidle, fun h => absurd h.1.1 hidle⟩

end

/-- The tunnel of both families with GLib's libraries. -/
def convertingHelper : HelperInput := { resolvingHelper with libs := glibLibs }

theorem runHelper_ok_converting :
    AllOk (runHelper convertingHelper).2.glib ↔ TextsFit convertingHelper :=
  runHelper_ok_iff convertingHelper glibLibs_gConvert

/-- A server whose list of WINS servers has no address. -/
def noWinsHelper : HelperInput := { convertingHelper with
  env := splitEnv [("INTERNAL_IP4_NBNS", "none")] }

/-- The list is ended without a child, and the missing value is released. -/
theorem noWins_breaks : ¬AllOk (runHelper noWinsHelper).2.glib := by
  intro h
  have hended : .builderEnd false 0 ∈ (runHelper noWinsHelper).2.glib := by decide +kernel
  rcases h _ hended with hdefinite | hchildren
  · cases hdefinite
  · exact hchildren rfl

end NmGpclient
