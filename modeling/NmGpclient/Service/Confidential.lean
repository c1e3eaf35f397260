import NmGpclient.Service.ConnectResult
import NmGpclient.Service.LockOwner

/-!
# The cookie stays on the standard input

The cookie goes to gpclient over its standard input, and nowhere else. Two calls of the service for
connections that differ in the value of the cookie only do the same, but for what is written to the
child: they return the same, with the same error, make the same calls, log the same lines and leave
the same data. Only the dump of the connection, at the log level for it, would show the cookie.

Up to the child's standard input the two calls pass through the same states, so each function has one
equation for both; `feedCookie` and what follows have one for the states without the bytes written.
-/

namespace NmGpclient

/-! ## What is observed -/

/-- An effect without the bytes that are written to a child. -/
def Effect.shown : Effect → Effect
  | .write _ => .write []
  | e => e

/-- A child without the bytes that were written to it. -/
def Child.shown (c : Child) : Child := { c with stdin := [] }

/-- A state without the bytes that were written to the children. -/
def World.shown (w : World) : World :=
  { w with children := w.children.map Child.shown, trace := w.trace.map Effect.shown }

/-- What is observed of a call for a connection: what it returns, the state it leaves with the log of
what it did, and the connection if it is dumped. -/
structure CallView (α : Type) where
  ret : α
  state : World
  dumped : Option NMConnection

/-- The view of a call from `w` that returns `r.1` and leaves `r.2`. -/
def callView {α : Type} (connection : NMConnection) (w : World) (r : α × World) : CallView α where
  ret := r.1
  state := r.2.shown
  dumped := if .connectionDump ∈ w.done r.2 then some connection else none

/-! ## Two connections -/

/-- The settings differ in the value of the cookie only, which neither lacks. -/
structure NMSettingVpn.DifferInCookie (s_vpn s_vpn' : NMSettingVpn) : Prop where
  data : s_vpn'.data = s_vpn.data
  secretFlags : s_vpn'.secretFlags = s_vpn.secretFlags
  keys : s_vpn'.secrets.keys = s_vpn.secrets.keys
  secrets : ∀ key, key ≠ Key.cookie → s_vpn'.getSecret key = s_vpn.getSecret key
  cookie : (propsCookie s_vpn).isSome = true ∧ (propsCookie s_vpn').isSome = true

/-- The connections differ in the value of the cookie only, which neither lacks. -/
structure NMConnection.DifferInCookie (connection connection' : NMConnection) : Prop where
  settingConnection : connection'.settingConnection = connection.settingConnection
  settingVpn : ∃ s_vpn s_vpn', connection.settingVpn = some s_vpn ∧
    connection'.settingVpn = some s_vpn' ∧ s_vpn.DifferInCookie s_vpn'

/-- The calls of two Connects have the same outcomes: they answer the same, and the write of the
cookie is complete in both or in neither. -/
structure SameOutcomes (connection connection' : NMConnection) (a a' : ConnectAnswers) : Prop where
  answers : a' = { a with writeCookie := a'.writeCookie }
  writeCookie : ∀ cookie cookie', connection.settingVpn.bind propsCookie = some cookie →
    connection'.settingVpn.bind propsCookie = some cookie' →
      (write cookie a.writeCookie = some cookie.length ↔
        write cookie' a'.writeCookie = some cookie'.length)

/-! ## The checks -/

/-- A table of strings does not look at the value. -/
theorem scanTable_of_string (key value value' : CStr) (error : Option GError) :
    ∀ table : List ValidProperty, (∀ prop ∈ table, prop.type = .string) →
      scanTable key value table error = scanTable key value' table error
  | [], _ => rfl
  | prop :: rest, h => by
      have hallows : ∀ v, prop.allows v = true := by
        intro v
        rw [ValidProperty.allows, h prop List.mem_cons_self]
      have ih := scanTable_of_string key value value' error rest
        fun p hp => h p (List.mem_cons_of_mem prop hp)
      unfold scanTable
      rw [hallows, hallows, if_pos rfl, if_pos rfl, ih]

/-- The validation of the secrets depends on their keys only. -/
theorem nmOpenconnectSecretsValidate_eq {s_vpn s_vpn' : NMSettingVpn}
    (h : s_vpn'.secrets.keys = s_vpn.secrets.keys) :
    nmOpenconnectSecretsValidate s_vpn' = nmOpenconnectSecretsValidate s_vpn := by
  have hstring : ∀ prop ∈ validSecrets, prop.type = .string := by decide +kernel
  have hitem : ∀ (info : ValidateInfo) (item : CStr × CStr),
      validateOneProperty validSecrets info item =
        validateOneProperty validSecrets info (item.1, []) := by
    rintro info ⟨key, value⟩
    unfold validateOneProperty
    dsimp only
    rw [scanTable_of_string key value [] info.error validSecrets hstring]
  have hfold : ∀ (m : StrMap) (info : ValidateInfo),
      m.items.foldl (validateOneProperty validSecrets) info =
        m.keys.foldl (fun info key => validateOneProperty validSecrets info (key, [])) info := by
    intro m info
    have hkeys : m.keys = m.items.map Prod.fst := by
      simp [AList.keys, List.keys, StrMap.items, List.map_map, Function.comp_def]
    rw [hkeys, List.foldl_map]
    exact congrArg (m.items.foldl · info) (funext fun info => funext (hitem info))
  unfold nmOpenconnectSecretsValidate validateItems
  rw [hfold, hfold, h]

section
variable {s_vpn s_vpn' : NMSettingVpn} (h : s_vpn.DifferInCookie s_vpn')

include h

theorem getDataItem_eq : s_vpn'.getDataItem = s_vpn.getDataItem := by
  funext key
  unfold NMSettingVpn.getDataItem
  rw [h.data]

theorem validateAuthSecretFlags_eq :
    validateAuthSecretFlags s_vpn' = validateAuthSecretFlags s_vpn := by
  unfold validateAuthSecretFlags
  rw [h.secretFlags]

theorem validateConnection_eq (w : World) :
    validateConnection s_vpn' w = validateConnection s_vpn w := by
  have hproperties :
      nmOpenconnectPropertiesValidate s_vpn' = nmOpenconnectPropertiesValidate s_vpn := by
    unfold nmOpenconnectPropertiesValidate
    rw [h.data]
  unfold validateConnection
  rw [validateAuthSecretFlags_eq h, hproperties, nmOpenconnectSecretsValidate_eq h.keys]

theorem propsVpnGw_eq : propsVpnGw s_vpn' = propsVpnGw s_vpn := by
  unfold propsVpnGw
  rw [getDataItem_eq h, h.secrets Key.gateway (by decide)]

/-- The command line does not have the cookie. -/
theorem gpclientArgv_differInCookie (logLevel : Nat) (tunName : Option IfName) :
    gpclientArgv s_vpn' logLevel tunName = gpclientArgv s_vpn logLevel tunName := by
  have hdata := getDataItem_eq h
  have hpass : propsKeyPass s_vpn' = propsKeyPass s_vpn := by
    unfold propsKeyPass
    rw [hdata, h.secrets Key.keyPass (by decide)]
  have hserver : connectServer s_vpn' = connectServer s_vpn := by
    unfold connectServer directGatewayMode propsPortal
    rw [hdata, propsVpnGw_eq h]
  have hmode : modeArgs s_vpn' = modeArgs s_vpn := by
    unfold modeArgs directGatewayMode propsPortal
    rw [hdata, propsVpnGw_eq h]
  have hcookie : (propsCookie s_vpn').isSome = (propsCookie s_vpn).isSome := by
    rw [h.cookie.1, h.cookie.2]
  unfold gpclientArgv serverArgs sharedArgs scriptArgs dtlsArgs hipArgs
  rw [hserver, hmode, hcookie, hpass, hdata]

/-- The environment does not have the cookie. -/
theorem gpclientEnv_eq (s_con : NMSettingConnection) (a : ConnectAnswers) (room : Option Nat)
    (w : World) : gpclientEnv s_con s_vpn' { a with writeCookie := room } w =
      gpclientEnv s_con s_vpn a w := by
  unfold gpclientEnv
  rw [getDataItem_eq h]
  rfl

/-- The checks before the device fail in the same way, or pass with the two cookies. -/
theorem startChecks_differ (version : SpawnSync) :
    (∃ error, startChecks s_vpn version = .error error ∧
      startChecks s_vpn' version = .error error) ∨
    ∃ cookie cookie', propsCookie s_vpn = some cookie ∧ propsCookie s_vpn' = some cookie' ∧
      startChecks s_vpn version = .ok cookie ∧ startChecks s_vpn' version = .ok cookie' := by
  have hgateway : noGateway s_vpn' = noGateway s_vpn := by
    unfold noGateway propsPortal
    rw [propsVpnGw_eq h, getDataItem_eq h]
  obtain ⟨cookie, hcookie⟩ := Option.isSome_iff_exists.1 h.cookie.1
  obtain ⟨cookie', hcookie'⟩ := Option.isSome_iff_exists.1 h.cookie.2
  unfold startChecks
  rw [hgateway]
  cases nmGpclientCheckVersion (cstr "gpclient") version with
  | some error => exact .inl ⟨error, rfl, rfl⟩
  | none =>
    cases noGateway s_vpn with
    | true => exact .inl ⟨_, rfl, rfl⟩
    | false =>
      refine .inr ⟨cookie, cookie', hcookie, hcookie', ?_, ?_⟩
      · simp [hcookie]
      · simp [hcookie']

end

/-! ## The child's standard input -/

section
variable (w : World)

@[simp] theorem World.shown_emit (e : Effect) : (w.emit e).shown = w.shown.emit e.shown := by
  simp [World.shown, World.emit]

@[simp] theorem World.shown_log (level : Nat) (line : CStr) :
    (w.log level line).shown = w.shown.log level line := by
  unfold World.log
  change (if level ≤ w.gl.logLevel then _ else w).shown = if level ≤ w.gl.logLevel then _ else _
  split
  · exact w.shown_emit _
  · rfl

@[simp] theorem World.shown_addChild (c : Child) :
    (w.addChild c).shown = w.shown.addChild c.shown := by
  simp [World.shown, World.addChild]

@[simp] theorem World.shown_setPid (pid : GPid) : (w.setPid pid).shown = w.shown.setPid pid := rfl

variable (argv : List CStr) (envp : StrMap) {cookie cookie' : CStr} {a : ConnectAnswers}
  {room : Option Nat}
  (h : write cookie a.writeCookie = some cookie.length ↔ write cookie' room = some cookie'.length)

include h

/-- Feeding one cookie or the other is the same, but for the bytes. -/
theorem feedCookie_shown :
    (feedCookie cookie a w).1.1 = (feedCookie cookie' { a with writeCookie := room } w).1.1 ∧
      (feedCookie cookie a w).2.shown =
        (feedCookie cookie' { a with writeCookie := room } w).2.shown := by
  unfold feedCookie
  by_cases hcomplete : write cookie a.writeCookie = some cookie.length
  · have hcomplete' := h.1 hcomplete
    simp [hcomplete, hcomplete', Effect.shown]
  · have hcomplete' := mt h.2 hcomplete
    simp [hcomplete, hcomplete', Effect.shown]

/-- Launching gpclient with one cookie or the other is the same, but for the bytes. -/
theorem launchGpclient_shown :
    (launchGpclient argv envp cookie a w).1 =
        (launchGpclient argv envp cookie' { a with writeCookie := room } w).1 ∧
      (launchGpclient argv envp cookie a w).2.shown =
        (launchGpclient argv envp cookie' { a with writeCookie := room } w).2.shown := by
  have hfeeds := fun w => feedCookie_shown w h
  unfold launchGpclient
  dsimp only
  generalize feedCookie cookie a = feed at hfeeds ⊢
  generalize feedCookie cookie' { a with writeCookie := room } = feed' at hfeeds ⊢
  obtain ⟨error | _, w₁⟩ := prepareGpclientLock a.lock w
  · cases a.spawn with
    | error error => exact ⟨rfl, rfl⟩
    | ok pid =>
      dsimp only
      generalize (w₁.emit (.spawn argv envp)).log logNotice _ = w₂
      have hfeed := hfeeds w₂
      generalize feed w₂ = r at hfeed ⊢
      generalize feed' w₂ = r' at hfeed ⊢
      obtain ⟨⟨fed, stdin⟩, w₃⟩ := r
      obtain ⟨⟨fed', stdin'⟩, w₃'⟩ := r'
      obtain ⟨hfed, hshown⟩ := hfeed
      obtain rfl : fed = fed' := hfed
      have hw : w₃.shown = w₃'.shown := hshown
      cases fed <;> exact ⟨rfl, by simp [hw, Child.shown]⟩
  · exact ⟨rfl, rfl⟩

end

/-! ## The calls -/

/-- Starting gpclient for one setting or the other is the same, but for the bytes. -/
theorem startOpenconnectBinary_shown (s_con : NMSettingConnection) {s_vpn s_vpn' : NMSettingVpn}
    (h : s_vpn.DifferInCookie s_vpn') {a : ConnectAnswers} {room : Option Nat}
    (hwrite : ∀ cookie cookie', propsCookie s_vpn = some cookie → propsCookie s_vpn' = some cookie' →
      (write cookie a.writeCookie = some cookie.length ↔
        write cookie' room = some cookie'.length)) (w : World) :
    (startOpenconnectBinary s_con s_vpn a w).1 =
        (startOpenconnectBinary s_con s_vpn' { a with writeCookie := room } w).1 ∧
      (startOpenconnectBinary s_con s_vpn a w).2.shown =
        (startOpenconnectBinary s_con s_vpn' { a with writeCookie := room } w).2.shown := by
  unfold startOpenconnectBinary
  dsimp only
  rcases startChecks_differ h a.version with ⟨error, hchecks, hchecks'⟩ |
    ⟨cookie, cookie', hcookie, hcookie', hchecks, hchecks'⟩
  · rw [hchecks, hchecks']
    exact ⟨rfl, rfl⟩
  · have hsame := hwrite cookie cookie' hcookie hcookie'
    rw [hchecks, hchecks']
    dsimp only
    rw [gpclientEnv_eq h]
    obtain ⟨envp, w₁⟩ := gpclientEnv s_con s_vpn a _
    dsimp only
    obtain ⟨⟨tunName, error⟩, w₂⟩ := createPersistentTundev s_con.interfaceName a.tun w₁
    cases tunName with
    | some n =>
      dsimp only
      rw [gpclientArgv_differInCookie h]
      exact launchGpclient_shown _ _ _ hsame
    | none =>
      cases error with
      | some error => exact ⟨rfl, rfl⟩
      | none =>
        dsimp only
        rw [gpclientArgv_differInCookie h]
        exact launchGpclient_shown _ _ _ hsame

section
variable {connection connection' : NMConnection} (h : connection.DifferInCookie connection')

include h

/-- A Connect of one connection or the other is the same, but for the bytes and the dump. -/
theorem realConnect_shown {a a' : ConnectAnswers}
    (hsame : SameOutcomes connection connection' a a') (w : World) :
    (realConnect connection a w).1 = (realConnect connection' a' w).1 ∧
      (realConnect connection a w).2.shown = (realConnect connection' a' w).2.shown := by
  obtain ⟨s_vpn, s_vpn', hvpn, hvpn', hdiffer⟩ := h.settingVpn
  have hwrite := hsame.writeCookie
  rw [hvpn, hvpn'] at hwrite
  unfold realConnect
  rw [h.settingConnection, hvpn, hvpn', hsame.answers]
  cases connection.settingConnection with
  | none => exact ⟨rfl, rfl⟩
  | some s_con =>
    dsimp only
    rw [validateConnection_eq hdiffer]
    obtain ⟨error | _, w₁⟩ := validateConnection s_vpn w
    · dsimp only
      generalize (if logInfo ≤ w₁.gl.logLevel then w₁.emit .connectionDump else w₁) = w₂
      obtain ⟨hret, hshown⟩ := startOpenconnectBinary_shown s_con hdiffer hwrite w₂
      exact ⟨congrArg (fun r => ConnectReturn.returned (r.1 == 0) r.2) hret, hshown⟩
    · exact ⟨rfl, rfl⟩

/-- What the need for secrets depends on is the same. -/
theorem realNeedSecrets_eq (bus : BusAnswers) (w : World) :
    realNeedSecrets connection' bus w = realNeedSecrets connection bus w := by
  obtain ⟨s_vpn, s_vpn', hvpn, hvpn', hdiffer⟩ := h.settingVpn
  have hcookie : (propsCookie s_vpn').isNone = (propsCookie s_vpn).isNone := by
    rw [← Option.not_isSome, ← Option.not_isSome, hdiffer.cookie.1, hdiffer.cookie.2]
  unfold realNeedSecrets
  rw [h.settingConnection, hvpn, hvpn']
  dsimp only
  rw [validateAuthSecretFlags_eq hdiffer, hcookie, getDataItem_eq hdiffer,
    hdiffer.secrets Key.gateway (by decide)]

end

theorem ne_connectionDump_of_discreet : ∀ e : Effect, e.discreet = true → e ≠ .connectionDump := by
  rintro _ h rfl
  cases h

/-- The need for secrets dumps nothing. -/
theorem realNeedSecrets_notDumped (connection : NMConnection) (bus : BusAnswers) (w : World) :
    .connectionDump ∉ w.done (realNeedSecrets connection bus w).2 := by
  intro hmem
  have hgrows := realNeedSecrets_grows ne_connectionDump_of_discreet connection bus
    (World.Grows.refl (w := w)) fun _ _ _ _ _ _ => by simp
  exact hgrows.mem_done hmem rfl

/-- A Connect dumps nothing below the log level for it. -/
theorem realConnect_notDumped (connection : NMConnection) (a : ConnectAnswers) {w : World}
    (hlevel : w.gl.logLevel < logInfo) : .connectionDump ∉ w.done (realConnect connection a w).2 := by
  intro hmem
  have hgrows := realConnect_grows ne_connectionDump_of_discreet connection a
    (World.Grows.refl (w := w)) (fun req _ => ⟨?_, by simp, by simp⟩)
    fun hinfo => absurd hinfo (Nat.not_le.2 hlevel)
  · exact hgrows.mem_done hmem rfl
  · rintro n _ - hdevice rfl
    cases hdevice

/-- A call that dumps nothing looks the same as another one that does the same. -/
theorem callView_eq {α : Type} {connection connection' : NMConnection} {w : World} {r r' : α × World}
    (hret : r.1 = r'.1) (hshown : r.2.shown = r'.2.shown) (hdump : .connectionDump ∉ w.done r.2)
    (hdump' : .connectionDump ∉ w.done r'.2) :
    callView connection w r = callView connection' w r' := by
  unfold callView
  rw [hret, hshown, if_neg hdump, if_neg hdump']

/-- The cookie is written to the child and shown nowhere else.

For two connections that differ in the value of the cookie only, below the log level for the dump of
the connection, `real_need_secrets` and `real_connect` look the same, whatever the calls they make
answer, if they answer the same: what they return, the state and the log they leave, and the dump. -/
theorem cookie_confidential {connection connection' : NMConnection}
    (hdiffer : connection.DifferInCookie connection') {w : World}
    (hlevel : w.gl.logLevel < logInfo) :
    (∀ bus, callView connection w (realNeedSecrets connection bus w) =
      callView connection' w (realNeedSecrets connection' bus w)) ∧
    ∀ a a', SameOutcomes connection connection' a a' →
      callView connection w (realConnect connection a w) =
        callView connection' w (realConnect connection' a' w) := by
  constructor
  · intro bus
    have hsame := realNeedSecrets_eq hdiffer bus w
    exact callView_eq (by rw [hsame]) (by rw [hsame]) (realNeedSecrets_notDumped _ _ _)
      (realNeedSecrets_notDumped _ _ _)
  · intro a a' hsame
    obtain ⟨hret, hshown⟩ := realConnect_shown hdiffer hsame w
    exact callView_eq hret hshown (realConnect_notDumped _ _ hlevel)
      (realConnect_notDumped _ _ hlevel)

/-- The setting of `directProfile` with a cookie. -/
def cookieVpn (cookie : CStr) : NMSettingVpn where
  data := AList.singleton Key.gateway (cstr "vpn.example.com")
  secrets := AList.singleton Key.cookie cookie
  secretFlags := fun _ => some nmSettingSecretFlagNotSaved

theorem cookie_confidential_direct :
    callView directProfile (.start noDevices)
        (realConnect directProfile startAnswers (.start noDevices)) =
      callView ⟨some ⟨none, []⟩, some (cookieVpn (cstr "secret"))⟩ (.start noDevices)
        (realConnect ⟨some ⟨none, []⟩, some (cookieVpn (cstr "secret"))⟩ startAnswers
          (.start noDevices)) := by
  have hothers : ∀ key, key ≠ Key.cookie → ∀ cookie,
      (cookieVpn cookie).getSecret key = none := by
    intro key hkey cookie
    rw [NMSettingVpn.getSecret, AList.lookup_eq_none]
    simpa [cookieVpn, AList.mem_keys] using hkey
  have hdiffer : NMConnection.DifferInCookie directProfile
      ⟨some ⟨none, []⟩, some (cookieVpn (cstr "secret"))⟩ :=
    ⟨rfl, cookieVpn (cstr "{}"), _, rfl, rfl, ⟨rfl, rfl, rfl,
      fun key hkey => (hothers key hkey _).trans (hothers key hkey _).symm, by decide +kernel⟩⟩
  have hsame : SameOutcomes directProfile ⟨some ⟨none, []⟩, some (cookieVpn (cstr "secret"))⟩
      startAnswers startAnswers := by
    refine ⟨rfl, fun cookie cookie' hcookie hcookie' => ?_⟩
    obtain rfl : cstr "{}" = cookie := Option.some.inj hcookie
    obtain rfl : cstr "secret" = cookie' := Option.some.inj hcookie'
    decide +kernel
  exact (cookie_confidential hdiffer (by decide)).2 _ _ hsame

end NmGpclient
