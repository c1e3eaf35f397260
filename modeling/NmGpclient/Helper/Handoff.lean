import NmGpclient.Helper.Reading

/-!
# The handoff of the configuration

The helper hands over a configuration as a whole or reports one failure. `main` up to the end of the
dictionaries goes on without a D-Bus call and without the flags of the families, or fails with one
`SetFailure` (`Checks`); what is left is the handoff itself.
-/

namespace NmGpclient

open HelperM

/-! ## Parts that check a value -/

/-- The flags of the families, which are only added at the end. -/
def ConfigKey.isFlag : ConfigKey → Bool
  | .hasIp4 | .hasIp6 => true
  | _ => false

/-- The flags among the entries of a dictionary. -/
def flags (dict : Dict ConfigKey) : Dict ConfigKey := dict.filter fun entry => entry.1.isFlag

/-- No call was sent and no flag was added. -/
structure Quiet (s s' : HelperState) : Prop where
  sent : s'.sent = s.sent
  flags : flags s'.builder = flags s.builder

/-- The part goes on quietly with a result that meets `post` when `ok` holds; otherwise it reports
one failure and exits with 1. -/
def Checks {α : Type} (ok : Prop) (post : α → Prop) (x : HelperM α) : Prop :=
  ∀ s, (ok → ∃ a s', x s = .ok a s' ∧ Quiet s s' ∧ post a) ∧
    (¬ok → ∃ reason s', x s = .error 1 s' ∧ s'.sent = s.sent ++ [.setFailure reason])

/-- What adds no flag checks the values it needs. -/
theorem Reads.checks {α : Type} {ok : Bool} {a : Added} {r : α} {x : HelperM α}
    (h : Reads ok a r x) (hflags : flags a.builder = []) : Checks (ok = true) (· = r) x := by
  intro s
  have hrun := h s
  constructor
  · intro hok
    rw [if_pos hok] at hrun
    refine ⟨r, _, hrun, ⟨rfl, ?_⟩, rfl⟩
    unfold flags at hflags ⊢
    rw [HelperState.extend, List.filter_append, hflags, List.append_nil]
  · intro hnot
    rw [if_neg hnot] at hrun
    obtain ⟨reason, hrun⟩ := hrun
    exact ⟨reason, _, hrun, rfl⟩

section
variable (i : HelperInput)

/-! ## What is needed -/

/-- The values the helper needs are there: a gateway of one of the families, a tunnel device, and
addresses that are either not given or valid. -/
structure Complete : Prop where
  gateway : ∃ s, envVar i "VPNGATEWAY" = some s ∧
    ((inetPton4 s).isSome = true ∨ (inetPton6 s).isSome = true)
  tundev : ∃ s, envVar i "TUNDEV" = some s ∧ s ≠ []
  ip4 : ∀ s, envVar i "INTERNAL_IP4_ADDRESS" = some s → s ≠ [] → (inetPton4 s).isSome = true
  ip6 : ∀ s, envVar i "INTERNAL_IP6_ADDRESS" = some s → s ≠ [] → (inetPton6 s).isSome = true

/-- A value that is found is one that is there. -/
theorem addressOk_iff (name : String) (toGvariant : Option CStr → Option GVariant) :
    addressOk i name toGvariant = true ↔
      ∀ s, envVar i name = some s → s ≠ [] → (toGvariant (some s)).isSome = true := by
  unfold addressOk
  rcases envVar i name with _ | _ | ⟨b, s⟩ <;> simp [nonempty]

theorem readGateway_isSome : (readGateway i).isSome = true ↔ ∃ s, envVar i "VPNGATEWAY" = some s ∧
    ((inetPton4 s).isSome = true ∨ (inetPton6 s).isSome = true) := by
  unfold readGateway
  cases envVar i "VPNGATEWAY" with
  | none => simp
  | some s => simp [Option.isSome_or]

theorem readTundev_isSome : (readTundev i).value.isSome = true ↔
    (∃ s, envVar i "TUNDEV" = some s ∧ s ≠ []) ∧
      ∀ s, envVar i "TUNDEV" = some s → utf8Validate s = true := by
  unfold readTundev strToGvariant
  rcases envVar i "TUNDEV" with _ | _ | ⟨b, s⟩
  · simp [Pure.pure]
  · simp [Pure.pure]
  · cases hutf8 : utf8Validate (b :: s) <;>
      simp [hutf8, gVariantNewString, Glib.call, Bind.bind, Pure.pure]

/-- `main` reads the values it needs when they are there, and the tunnel device is UTF-8. -/
theorem configOk_iff : configOk i = true ↔
    Complete i ∧ ∀ s, envVar i "TUNDEV" = some s → utf8Validate s = true := by
  simp only [configOk, Bool.and_eq_true, readGateway_isSome, readTundev_isSome, addressOk_iff,
    isSome_addr4ToGvariant, isSome_addr6ToGvariant]
  constructor
  · rintro ⟨hgateway, ⟨htundev, hutf8⟩, hip4, hip6⟩
    exact ⟨⟨hgateway, htundev, hip4, hip6⟩, hutf8⟩
  · rintro ⟨⟨hgateway, htundev, hip4, hip6⟩, hutf8⟩
    exact ⟨hgateway, ⟨htundev, hutf8⟩, hip4, hip6⟩

/-- No flag is among the entries before the handoff. -/
theorem flags_configAdded : flags (configAdded i).builder = [] := by
  have hentry : ∀ (key : ConfigKey) (value : Option GVariant), key.isFlag = false →
      flags (entry key value) = [] := by
    intro key value hkey
    cases value <;> simp [flags, entry, hkey]
  have happend : ∀ a b, flags (a ++ b) = flags a ++ flags b := fun _ _ => List.filter_append ..
  unfold configAdded Added.onlyIf
  split_ifs <;> simp (disch := decide) [textsAdded, listsAdded, ip6Added, happend, hentry]

/-- `main` up to the end of the dictionaries checks what is needed. -/
theorem readConfig_checks (hutf8 : ∀ s, envVar i "TUNDEV" = some s → utf8Validate s = true) :
    Checks (Complete i) (· = (hasIp4 i, hasIp6 i)) (readConfig i) := by
  rw [← and_iff_left (a := Complete i) hutf8, ← configOk_iff]
  exact (readConfig_reads i).checks (flags_configAdded i)

/-! ## The handoff -/

/-- The calls of a handoff: the general configuration, and that of each family the tunnel has. -/
def plan (config : Dict ConfigKey) (ip4config ip6config : Option (Dict IpConfigKey)) :
    List HelperCall :=
  .setConfig config :: (ip4config.map .setIp4Config).toList ++
    (ip6config.map .setIp6Config).toList

/-- The calls of a plan that are sent: those up to the first one that is not accepted. -/
def untilRejected (accepts : HelperCall → Bool) : List HelperCall → List HelperCall
  | [] => []
  | c :: cs => c :: if accepts c then untilRejected accepts cs else []

/-- Only calls of the plan are sent. -/
theorem mem_of_mem_untilRejected {accepts : HelperCall → Bool} {c : HelperCall} :
    ∀ {cs : List HelperCall}, c ∈ untilRejected accepts cs → c ∈ cs
  | [], h => h
  | c' :: cs, h => by
      unfold untilRejected at h
      rcases List.mem_cons.1 h with rfl | h
      · exact List.mem_cons_self
      · split at h
        · exact List.mem_cons_of_mem c' (mem_of_mem_untilRejected h)
        · cases h

/-- A plan that is accepted is sent as a whole. -/
theorem untilRejected_of_accepted {accepts : HelperCall → Bool} :
    ∀ {cs : List HelperCall}, (∀ c ∈ cs, accepts c = true) → untilRejected accepts cs = cs
  | [], _ => rfl
  | c :: cs, h => by
      rw [untilRejected, if_pos (h c List.mem_cons_self),
        untilRejected_of_accepted fun c' hc' => h c' (List.mem_cons_of_mem c hc')]

/-- The configuration of a family that is planned is the one of the family. -/
theorem mem_plan (config : Dict ConfigKey) (ip4config ip6config : Option (Dict IpConfigKey))
    (dict : Dict IpConfigKey) :
    (.setIp4Config dict ∈ plan config ip4config ip6config ↔ ip4config = some dict) ∧
      (.setIp6Config dict ∈ plan config ip4config ip6config ↔ ip6config = some dict) := by
  cases ip4config <;> cases ip6config <;> simp [plan, eq_comm]

/-- `send_config` sends the plan, and returns whether all of it was accepted. -/
theorem sendConfig_run (config : Dict ConfigKey) (ip4config ip6config : Option (Dict IpConfigKey))
    (s : HelperState) :
    sendConfig i config ip4config ip6config s =
      .ok ((plan config ip4config ip6config).all i.accepts) { s with
        sent := s.sent ++ untilRejected i.accepts (plan config ip4config ip6config) } := by
  have hcall : ∀ (c : HelperCall) (f : Bool → HelperM Bool) (s : HelperState),
      (call i c >>= f) s = f (i.accepts c) { s with sent := s.sent ++ [c] } := fun _ _ _ =>
    run_bind_ok rfl
  have hpure : ∀ (b : Bool) (s : HelperState), (pure b : HelperM Bool) s = .ok b s := fun _ _ => rfl
  unfold sendConfig
  rw [hcall]
  cases hconfig : i.accepts (.setConfig config) with
  | false => simp [plan, untilRejected, hconfig, hpure]
  | true =>
    cases ip4config with
    | none =>
      cases ip6config with
      | none => simp [plan, untilRejected, hconfig, hpure]
      | some ip6config =>
        cases hip6 : i.accepts (.setIp6Config ip6config) <;>
          simp [plan, untilRejected, hcall, hpure, hconfig, hip6]
    | some ip4config =>
      cases hip4 : i.accepts (.setIp4Config ip4config) with
      | false => simp [plan, untilRejected, hcall, hpure, hconfig, hip4]
      | true =>
        cases ip6config with
        | none => simp [plan, untilRejected, hcall, hpure, hconfig, hip4]
        | some ip6config =>
          cases hip6 : i.accepts (.setIp6Config ip6config) <;>
            simp [plan, untilRejected, hcall, hpure, hconfig, hip4, hip6]

/-- The flag of a family is added when the tunnel has it. -/
def familyFlag (has : Bool) (flag : ConfigKey) : Dict ConfigKey :=
  if has then [(flag, .boolean true)] else []

/-- The GLib calls at the end of a family's dictionary. -/
def endCalls (has : Bool) (dict : Dict IpConfigKey) : List GlibCall :=
  .builderEnd true dict.length :: if has then [] else [.variantUnref false]

/-- A family's dictionary is kept with its flag, or dropped without it. -/
theorem endFamily_run (has : Bool) (flag : ConfigKey) (dict : Dict IpConfigKey) (s : HelperState) :
    endFamily has flag dict s = .ok (if has then some dict else none) { s with
      builder := s.builder ++ familyFlag has flag
      glib := s.glib ++ endCalls has dict } := by
  cases has with
  | true => rfl
  | false =>
    have hbuilder : s.builder ++ familyFlag false flag = s.builder := List.append_nil _
    have hglib : s.glib ++ endCalls false dict =
        s.glib ++ [.builderEnd true dict.length] ++ [.variantUnref false] := List.append_cons ..
    rw [hbuilder, hglib]
    rfl

/-- The general configuration that is handed over. -/
def handedConfig (has : Bool × Bool) (s : HelperState) : Dict ConfigKey :=
  s.builder ++ familyFlag has.1 .hasIp4 ++ familyFlag has.2 .hasIp6

/-- What is handed over: the dictionaries, with the flags of the families the tunnel has. -/
def handedPlan (has : Bool × Bool) (s : HelperState) : List HelperCall :=
  plan (handedConfig has s) (if has.1 then some s.ip4builder else none)
    (if has.2 then some s.ip6builder else none)

/-- The end of `main` sends the plan with the dictionaries and the flags of its families. -/
theorem handOff_run (has : Bool × Bool) (s : HelperState) :
    handOff i has s = .error (if (handedPlan has s).all i.accepts then 0 else 1) { s with
      builder := handedConfig has s
      glib := s.glib ++ (endCalls has.1 s.ip4builder ++ endCalls has.2 s.ip6builder ++
        [.builderEnd true (handedConfig has s).length])
      sent := s.sent ++ untilRejected i.accepts (handedPlan has s) } := by
  obtain ⟨has4, has6⟩ := has
  have hget : ∀ s : HelperState, (get : HelperM HelperState) s = .ok s s := fun _ => rfl
  have hglib : ∀ (x : Glib Unit) (s : HelperState),
      glib x s = .ok () { s with glib := s.glib ++ x.calls } := fun _ _ => rfl
  unfold handOff
  rw [run_bind_ok (hget s), run_bind_ok (endFamily_run ..), run_bind_ok (hget _),
    run_bind_ok (endFamily_run ..), run_bind_ok (hget _), run_bind_ok (hglib _ _),
    run_bind_ok (sendConfig_run i ..)]
  simp only [handedPlan, handedConfig, Glib.call, List.append_assoc]
  cases List.all _ i.accepts with
  | true => rfl
  | false => rfl

/-- The helper is run for a connection: no reason is given, or that one. -/
def Connects : Prop := ∀ reason, envVar i "reason" = some reason → reason = cstr "connect"

/-- The result of a run of the helper: nothing for another reason, one failure when a value is
missing, and otherwise the plan up to the first call that is not accepted. -/
structure Handoff (r : Nat × HelperState) : Prop where
  ignored : ¬Connects i → r.2.sent = [] ∧ r.1 = 0
  refused : Connects i → ¬Complete i → (∃ reason, r.2.sent = [.setFailure reason]) ∧ r.1 ≠ 0
  handedOff : Connects i → Complete i → ∃ config ip4config ip6config,
    r.2.sent = untilRejected i.accepts (plan config ip4config ip6config) ∧
    (r.1 = 0 ↔ ∀ c ∈ plan config ip4config ip6config, i.accepts c = true) ∧
    (ip4config.isSome = true ↔ ∃ s, envVar i "INTERNAL_IP4_ADDRESS" = some s ∧ s ≠ []) ∧
    (ip6config.isSome = true ↔ ∃ s, envVar i "INTERNAL_IP6_ADDRESS" = some s ∧ s ≠ []) ∧
    (.hasIp4 ∈ config.map Prod.fst ↔ ip4config.isSome = true) ∧
    (.hasIp6 ∈ config.map Prod.fst ↔ ip6config.isSome = true)

/-- A flag is in the general configuration when its family is there, as no part adds it before. -/
theorem flag_mem_config {flag : ConfigKey} {builder : Dict ConfigKey} {has4 has6 : Bool}
    (hflag : flag.isFlag = true) (hflags : flags builder = []) :
    flag ∈ (builder ++ familyFlag has4 .hasIp4 ++ familyFlag has6 .hasIp6).map Prod.fst ↔
      has4 = true ∧ flag = .hasIp4 ∨ has6 = true ∧ flag = .hasIp6 := by
  have hnone : flag ∉ builder.map Prod.fst := by
    intro hmem
    obtain ⟨entry, hentry, rfl⟩ := List.mem_map.1 hmem
    have hin : entry ∈ flags builder := List.mem_filter.2 ⟨hentry, hflag⟩
    rw [hflags] at hin
    cases hin
  rw [List.map_append, List.map_append, List.mem_append, List.mem_append, or_iff_right hnone]
  cases has4 <;> cases has6 <;> simp [familyFlag]

/-- A run for a connection reads the configuration and hands it over. -/
theorem helperMain_of_connects (hconnects : Connects i) (hproxy : i.proxyCreated = true)
    (s : HelperState) : helperMain i s = (readConfig i >>= handOff i) s := by
  unfold helperMain
  cases hreason : envVar i "reason" with
  | none => simp [hproxy]
  | some reason =>
    obtain rfl := hconnects reason hreason
    simp [hproxy]

/-- For another reason, or without the proxy, nothing is done. -/
theorem runHelper_idle (h : ¬(Connects i ∧ i.proxyCreated = true)) :
    (runHelper i).2 = ⟨[], [], [], [], []⟩ := by
  unfold runHelper helperMain
  unfold Connects at h
  cases hreason : envVar i "reason" with
  | none =>
    have hproxy : i.proxyCreated = false := by simpa [hreason] using h
    simp only [hproxy]
    rfl
  | some reason =>
    by_cases hconnect : reason = cstr "connect"
    · have hproxy : i.proxyCreated = false := by simpa [hreason, hconnect] using h
      simp only [hconnect, hproxy, ne_eq, not_true_eq_false, if_false]
      rfl
    · simp only [ne_eq, hconnect, not_false_eq_true, if_true]
      rfl

/-- With a value missing, what was read until then is left, and one failure is reported. -/
theorem runHelper_refused (hconnects : Connects i) (hproxy : i.proxyCreated = true)
    (h : configOk i = false) : ∃ reason, (runHelper i).2 =
      ⟨(configAdded i).builder, (configAdded i).ip4builder, (configAdded i).ip6builder,
        (configAdded i).glib, [.setFailure reason]⟩ := by
  obtain ⟨reason, hrun⟩ := readConfig_of_not_ok i h ⟨[], [], [], [], []⟩
  refine ⟨reason, ?_⟩
  unfold runHelper
  rw [helperMain_of_connects i hconnects hproxy, run_bind_error hrun]
  rfl

/-- With all values, the configuration is handed over. -/
theorem runHelper_handedOff (hconnects : Connects i) (hproxy : i.proxyCreated = true)
    (h : configOk i = true) : (runHelper i).2 =
      let s := HelperState.extend ⟨[], [], [], [], []⟩ (configAdded i)
      let has := (hasIp4 i, hasIp6 i)
      { s with
        builder := handedConfig has s
        glib := s.glib ++ (endCalls has.1 s.ip4builder ++ endCalls has.2 s.ip6builder ++
          [.builderEnd true (handedConfig has s).length])
        sent := untilRejected i.accepts (handedPlan has s) } := by
  unfold runHelper
  rw [helperMain_of_connects i hconnects hproxy, run_bind_ok (readConfig_of_ok i h _), handOff_run]
  rfl

theorem nonempty_isSome_iff (v : Option CStr) :
    (nonempty v).isSome = true ↔ ∃ s, v = some s ∧ s ≠ [] := by
  rw [Option.isSome_iff_exists]
  simp only [nonempty_eq_some]

/-- The configuration handoff is all or nothing, and consistent with itself.

The proxy is assumed to be created, and the tunnel device to be UTF-8 when it is set. -/
theorem helper_handoff (hproxy : i.proxyCreated = true)
    (hutf8 : ∀ s, envVar i "TUNDEV" = some s → utf8Validate s = true) :
    Handoff i (runHelper i) := by
  have hread := readConfig_checks i hutf8 ⟨[], [], [], [], []⟩
  refine ⟨fun hother => ?_, fun hconnects hnot => ?_, fun hconnects hcomplete => ?_⟩
  · unfold Connects at hother
    push Not at hother
    obtain ⟨reason, hreason, hne⟩ := hother
    have hrun : helperMain i ⟨[], [], [], [], []⟩ = .error 0 ⟨[], [], [], [], []⟩ := by
      unfold helperMain
      rw [hreason]
      simp only [ne_eq, hne, not_false_eq_true, if_true]
      rfl
    unfold runHelper
    rw [hrun]
    exact ⟨rfl, rfl⟩
  · obtain ⟨reason, s', hrun, hsent⟩ := hread.2 hnot
    unfold runHelper
    rw [helperMain_of_connects i hconnects hproxy, run_bind_error hrun]
    exact ⟨⟨reason, hsent⟩, Nat.one_ne_zero⟩
  · obtain ⟨has, s', hrun, hquiet, rfl⟩ := hread.1 hcomplete
    have hsome4 : (if hasIp4 i then some s'.ip4builder else none).isSome = hasIp4 i := by
      cases hasIp4 i <;> rfl
    have hsome6 : (if hasIp6 i then some s'.ip6builder else none).isSome = hasIp6 i := by
      cases hasIp6 i <;> rfl
    unfold runHelper
    rw [helperMain_of_connects i hconnects hproxy, run_bind_ok hrun, handOff_run]
    refine ⟨handedConfig (hasIp4 i, hasIp6 i) s', if hasIp4 i then some s'.ip4builder else none,
      if hasIp6 i then some s'.ip6builder else none, ?_, ?_, ?_, ?_, ?_, ?_⟩
    · rw [hquiet.sent, List.nil_append]
      rfl
    · rw [← List.all_eq_true]
      unfold handedPlan
      cases (plan _ _ _).all i.accepts <;> simp
    · rw [hsome4, ← nonempty_isSome_iff]
      rfl
    · rw [hsome6, ← nonempty_isSome_iff]
      rfl
    · rw [handedConfig, flag_mem_config rfl hquiet.flags, hsome4]
      simp
    · rw [handedConfig, flag_mem_config rfl hquiet.flags, hsome6]
      simp

end

/-- A tunnel with an IPv4 address, whose calls are all accepted. -/
def ip4Helper : HelperInput where
  env := AList.insert (cstr "VPNGATEWAY") (cstr "192.0.2.1") (AList.insert (cstr "TUNDEV")
    (cstr "vpn0") (AList.insert (cstr "INTERNAL_IP4_ADDRESS") (cstr "10.0.0.2") ∅))
  proxyCreated := true
  accepts := fun _ => true
  libs := ⟨fun _ _ _ => none, fun _ => 24, fun dest prefixLen => some ⟨dest, prefixLen⟩⟩

theorem helper_handoff_ip4 :
    Handoff ip4Helper (runHelper ip4Helper) ∧ (runHelper ip4Helper).1 = 0 ∧
      (runHelper ip4Helper).2.sent.length = 2 := by
  have htundev : envVar ip4Helper "TUNDEV" = some (cstr "vpn0") := by decide +kernel
  have hutf8 : ∀ s, envVar ip4Helper "TUNDEV" = some s → utf8Validate s = true := by
    intro s hs
    obtain rfl := Option.some.inj (htundev.symm.trans hs)
    decide +kernel
  exact ⟨helper_handoff ip4Helper rfl hutf8, by decide +kernel, by decide +kernel⟩

end NmGpclient
