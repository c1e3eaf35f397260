import NmGpclient.Utils
import NmGpclient.Helper.Main
import NmGpclient.Service.Supervision

/-!
# Starting the service, and the helper's share of it

`main` of the service reads its log level, hands it and its log prefix to the helper through the
environment, and names the D-Bus service for it, unless that name is set already. gpclient gets this
environment, perhaps with the variables of a desktop user on top, and runs the helper in it; so the
helper, which is another program, logs as the service does. It finds the service on the bus exactly
when the name was not set to another one.
-/

namespace NmGpclient

/-! ## The service -/

/-- `NM_DBUS_SERVICE_OPENCONNECT`. -/
def nmDbusServiceOpenconnect : CStr := cstr "org.freedesktop.NetworkManager.gpclient"

/-- The options of the service, as `g_option_context_parse` leaves them. -/
structure ServiceOptions where
  persist : Bool := false
  debug : Bool := false
  busName : CStr := nmDbusServiceOpenconnect
deriving DecidableEq, Repr

/-- What `main` is answered: the process id, the module loader, if one is configured, with its
outcome, and whether libnm makes the plugin. -/
structure StartAnswers where
  pid : Nat
  modprobe : Option (CStr × SpawnSync)
  pluginCreated : Bool

/-- `gl.debug`. -/
def serviceDebug (options : ServiceOptions) (environ : StrMap) : Bool :=
  options.debug || (environ.lookup (cstr "OPENCONNECT_DEBUG")).isSome

/-- `gl.log_level`. -/
def serviceLogLevel (options : ServiceOptions) (environ : StrMap) : Int :=
  (nmUtilsAsciiStrToInt64 (environ.lookup (cstr "NM_VPN_LOG_LEVEL")) 0 logDebug
    (if serviceDebug options environ then logInfo else logNotice)).1

/-- `setenv (name, value, 0)`. -/
def setenvUnset (environ : StrMap) (name : String) (value : CStr) : StrMap :=
  if (environ.lookup (cstr name)).isSome then environ else environSetenv environ name value

/-- `load_tun_module`, which is best effort. -/
def loadTunModule (modprobe : Option (CStr × SpawnSync)) (w : World) : World :=
  match modprobe with
  | none => w
  | some (program, outcome) =>
    let w := w.emit (.spawnSync [program, cstr "tun"])
    match outcome with
    | .failed _ message => w.log logWarning (cstr "Could not load TUN module: " ++ message)
    | .done status _ =>
      if wifexited status && wexitstatus status == 0 then w
      else w.log logWarning (cstr "TUN module loader failed (wait status " ++ decimal status ++
        cstr "); continuing in case TUN is already available")

/-- `nm_openconnect_plugin_new`, unless it fails: the plugin has the name on the bus, and libnm is
to disconnect it when its peer goes, but not while it is debugged. -/
def nmOpenconnectPluginNew (busName : CStr) (debug : Bool) (w : World) : World :=
  w.emit (.pluginNew busName !debug)

/-- `main` up to the main loop: the environment of the service from then on, and its state, or none
when it exits without a plugin. -/
def serviceStart (options : ServiceOptions) (environ : StrMap) (a : StartAnswers)
    (tun : TunTable IfName) : StrMap × Option World :=
  let debug := serviceDebug options environ
  let logLevel := serviceLogLevel options environ
  let environ := environSetenv environ "NM_VPN_LOG_LEVEL" (decimal logLevel)
  let environ := environSetenv environ "NM_VPN_LOG_PREFIX_TOKEN" (decimal a.pid)
  let w : World := { World.start tun with gl := { logLevel := logLevel.toNat } }
  let w := loadTunModule a.modprobe (w.log logInfo (cstr "nm-gpclient-service starting..."))
  let environ := setenvUnset environ "NM_DBUS_SERVICE_OPENCONNECT" options.busName
  (environ, if a.pluginCreated then some (nmOpenconnectPluginNew options.busName debug w) else none)

/-! ## The helper -/

/-- `gl.log_level` of the helper. -/
def helperLogLevel (env : Env) : Int :=
  (nmUtilsAsciiStrToInt64 (getenv env (cstr "NM_VPN_LOG_LEVEL")) 0 logDebug logNotice).1

/-- `gl.log_prefix_token` of the helper. -/
def helperLogPrefixToken (env : Env) : CStr :=
  (getenv env (cstr "NM_VPN_LOG_PREFIX_TOKEN")).getD (cstr "???")

/-- `bus_path`, the D-Bus name that the helper sends the configuration to. -/
def helperBusPath (env : Env) : CStr :=
  (getenv env (cstr "NM_DBUS_SERVICE_OPENCONNECT")).getD nmDbusServiceOpenconnect

/-! ## The log level of the service -/

/-- The log level of the service is one of syslog's. -/
theorem serviceLogLevel_range (options : ServiceOptions) (environ : StrMap) :
    0 ≤ serviceLogLevel options environ ∧ serviceLogLevel options environ ≤ logDebug := by
  unfold serviceLogLevel
  have hfallback : 0 ≤ (if serviceDebug options environ then (logInfo : Int) else logNotice) ∧
      (if serviceDebug options environ then (logInfo : Int) else logNotice) ≤ logDebug := by
    split <;> decide
  generalize (if serviceDebug options environ then (logInfo : Int) else logNotice) = fallback
    at hfallback ⊢
  have hreads := @strToInt64_reads (environ.lookup (cstr "NM_VPN_LOG_LEVEL")) 0 logDebug fallback
  generalize nmUtilsAsciiStrToInt64 _ 0 (logDebug : Int) fallback = r at hreads ⊢
  cases hreads with
  | taken _ _ hmin hmax => exact ⟨hmin, hmax⟩
  | tooLarge => exact hfallback
  | outOfRange => exact hfallback
  | invalid => exact hfallback

/-- From `w` to `w'` the log level stayed, and no program was started. -/
structure World.Idles (w w' : World) : Prop where
  logLevel : w'.gl.logLevel = w.gl.logLevel
  trace : ∃ es, w'.trace = w.trace ++ es ∧ ∀ argv envp, .spawn argv envp ∉ es

section
variable {w w' w'' : World}

theorem World.Idles.refl : w.Idles w := ⟨rfl, [], by simp⟩

theorem World.Idles.trans (h : w.Idles w') (h' : w'.Idles w'') : w.Idles w'' := by
  obtain ⟨hlevel, es, htrace, hes⟩ := h
  obtain ⟨hlevel', es', htrace', hes'⟩ := h'
  refine ⟨hlevel'.trans hlevel, es ++ es', by rw [htrace', htrace, List.append_assoc], ?_⟩
  intro argv envp hmem
  exact (List.mem_append.1 hmem).elim (hes argv envp) (hes' argv envp)

/-- A change of what is neither the log nor its level. -/
theorem World.Idles.congr (h : w.Idles w') (hgl : w''.gl.logLevel = w'.gl.logLevel)
    (htrace : w''.trace = w'.trace) : w.Idles w'' :=
  h.trans ⟨hgl, [], by simp [htrace]⟩

theorem World.Idles.emit (h : w.Idles w') (e : Effect)
    (he : ∀ argv envp, e ≠ .spawn argv envp := by simp) : w.Idles (w'.emit e) :=
  h.trans ⟨rfl, [e], rfl, fun argv envp hmem => he argv envp (List.mem_singleton.1 hmem).symm⟩

theorem World.Idles.log (h : w.Idles w') (level : Nat) (line : CStr) :
    w.Idles (w'.log level line) := by
  unfold World.log
  split
  · exact h.emit _
  · exact h

theorem World.Idles.armKillTimeout (h : w.Idles w') : w.Idles w'.armKillTimeout :=
  h.trans ⟨rfl, [.addTimeout (w'.nextSource + 1)], rfl, by simp⟩

/-- Neither do the effects on the devices alone. -/
theorem World.Idles.onlyTun (h : w.Idles w') {t : TunTable IfName} (h' : w'.OnlyTun t w'') :
    w.Idles w'' := by
  obtain ⟨es, owner, group, hes, rfl⟩ := h'
  refine h.trans ⟨rfl, es, rfl, fun argv envp hmem => ?_⟩
  have haux := hes _ hmem
  cases haux

theorem realDisconnect_idles (groupKilled : Bool) (h : w.Idles w') :
    w.Idles (realDisconnect groupKilled w') := by
  unfold realDisconnect
  by_cases hpid : w'.priv.pid = 0
  · simp only [if_pos hpid]
    exact h
  · simp only [if_neg hpid]
    have hrequest : w.Idles (w'.setPriv { w'.priv with disconnectRequested := true }) :=
      h.congr rfl rfl
    have hgroup := hrequest.emit (.kill (.group w'.priv.pid) .sigint)
    have hkill := hgroup.emit (.kill (.process w'.priv.pid) .sigint)
    apply World.Idles.log
    cases groupKilled <;> simp only [Bool.false_eq_true, if_true, if_false] <;> split
    · exact hkill.armKillTimeout
    · exact hkill
    · exact hgroup.armKillTimeout
    · exact hgroup

theorem quitMainloop_idles (groupKilled : Bool) (h : w.Idles w') :
    w.Idles (quitMainloop groupKilled w') := by
  unfold quitMainloop
  dsimp only
  split
  · have hpending : w.Idles (w'.setPriv { w'.priv with quitPending := true }) := h.congr rfl rfl
    split
    · exact hpending
    · exact realDisconnect_idles groupKilled hpending
  · exact h.emit _

theorem nested_idles (calls : List LibnmCall) (h : w.Idles w') :
    w.Idles (calls.foldl LibnmCall.run w') := by
  induction calls generalizing w' with
  | nil => exact h
  | cons call calls ih =>
    cases call with
    | disconnect groupKilled => exact ih ((realDisconnect_idles groupKilled h).congr rfl rfl)
    | quit groupKilled => exact ih (quitMainloop_idles groupKilled h)

theorem ensureKilled_idles (a : ProbeAnswers) (h : w.Idles w') :
    w.Idles (ensureKilled a w') := by
  have hcleared : w.Idles (w'.setPriv { w'.priv with killTimeout := 0 }) := h.congr rfl rfl
  unfold ensureKilled
  dsimp only
  split_ifs
  · exact hcleared
  · exact (hcleared.emit _).emit _
  · exact ((hcleared.emit _).emit _).emit _
  · exact (hcleared.emit _).emit _

theorem openconnectWatchCb_idles (status : Nat) (a : ExitAnswers) (h : w.Idles w') :
    w.Idles (openconnectWatchCb status a w') := by
  have hlogged : w.Idles (logExit status w') := by
    unfold logExit
    split_ifs <;> first | exact h.log _ _ | exact h
  have hcleared : w.Idles (clearKillTimeout (logExit status w')) := by
    unfold clearKillTimeout
    split
    · exact hlogged
    · have hdropped : w.Idles ((logExit status w').dropSource (logExit status w').priv.killTimeout) :=
        hlogged.congr rfl rfl
      exact (hdropped.emit _).congr rfl rfl
  unfold openconnectWatchCb
  dsimp only
  generalize clearKillTimeout (logExit status w') = w₁ at hcleared ⊢
  have hreleased : w.Idles (releaseTun a
      (w₁.setPriv { w₁.priv with pid := 0, disconnectRequested := false })) := by
    have hexited : w.Idles (w₁.setPriv { w₁.priv with pid := 0, disconnectRequested := false }) :=
      hcleared.congr rfl rfl
    unfold releaseTun
    split
    next n _ =>
      have hdeact := hexited.onlyTun (deactivateAssumedTunConnection_spec n.bytes a.bus _)
      exact (hdeact.onlyTun (destroyPersistentTundev_spec n a.destroy _)).congr rfl rfl
    next => exact hexited
  generalize releaseTun a _ = w₂ at hreleased ⊢
  split
  · split
    · exact hreleased.emit _
    · exact hreleased
  · apply nested_idles
    refine hreleased.emit _ fun argv envp heq => ?_
    unfold exitReport at heq
    split at heq <;> cases heq

theorem realNeedSecrets_idles (connection : NMConnection) (bus : BusAnswers) (h : w.Idles w') :
    w.Idles (realNeedSecrets connection bus w').2 := by
  have hdeact := fun name => h.onlyTun (deactivateAssumedTunConnection_spec name bus w')
  unfold realNeedSecrets
  cases connection.settingVpn with
  | none => exact h
  | some s_vpn =>
    dsimp only
    cases validateAuthSecretFlags s_vpn with
    | some e => exact h
    | none =>
      dsimp only
      split_ifs <;> first | exact hdeact _ | exact h

end

theorem World.Leaves.logLevel_eq {priv : Priv} {cs : List Child} {t : TunTable IfName}
    {w w' : World} (h : w.Leaves priv cs t w') : w'.gl.logLevel = w.gl.logLevel := by
  obtain ⟨_, _, _, rfl⟩ := h
  rfl

theorem realConnect_logLevel (connection : NMConnection) (a : ConnectAnswers) (w : World) :
    (realConnect connection a w).2.gl.logLevel = w.gl.logLevel := by
  have hexit := realConnect_exit connection a w
  generalize realConnect connection a w = r at hexit
  generalize request connection a.version = req at hexit
  obtain ⟨ret, w'⟩ := r
  cases hexit with
  | aborted => rfl
  | rejected _ h => exact h.logLevel_eq
  | noTun _ h => exact h.logLevel_eq
  | launched _ h =>
    cases h with
    | locked _ _ h => exact h.logLevel_eq
    | notSpawned _ _ h => exact h.logLevel_eq
    | unfed _ _ _ _ h => exact h.logLevel_eq
    | started _ _ _ h => exact h.logLevel_eq

/-- A step keeps the log level, and only a Connect starts a program. -/
theorem Event.step_idles (w : World) (e : Event) :
    (∃ connection a, e = .connect connection a ∧ (e.step w).gl.logLevel = w.gl.logLevel) ∨
      w.Idles (e.step w) := by
  cases e with
  | connect connection a =>
    exact .inl ⟨connection, a, rfl, realConnect_logLevel connection a (w.setLibnm .starting)⟩
  | needSecrets connection bus => exact .inr (realNeedSecrets_idles connection bus .refl)
  | disconnect groupKilled => exact .inr ((realDisconnect_idles groupKilled .refl).congr rfl rfl)
  | quit groupKilled => exact .inr (quitMainloop_idles groupKilled .refl)
  | killTimeout id a =>
    exact .inr (ensureKilled_idles a (World.Idles.refl.congr rfl rfl))
  | childExit pid status a =>
    exact .inr (openconnectWatchCb_idles status a (World.Idles.refl.congr rfl rfl))
  | libnmState s => exact .inr (World.Idles.refl.congr rfl rfl)
  | unixSignal => exact .inr (World.Idles.refl.emit _)

theorem Event.step_logLevel (w : World) (e : Event) :
    (e.step w).gl.logLevel = w.gl.logLevel := by
  rcases e.step_idles w with ⟨_, _, -, hlevel⟩ | hidles
  · exact hlevel
  · exact hidles.logLevel

/-- The log level is that of the start. -/
theorem run_logLevel (w : World) (es : List Event) :
    (service.run w es).gl.logLevel = w.gl.logLevel := by
  induction es generalizing w with
  | nil => rfl
  | cons e es ih => rw [service.run_cons, ih]; exact e.step_logLevel w

/-- What a run starts, a Connect of it starts, with the log level of the start. -/
theorem spawn_of_run {w : World} {es : List Event} {argv : List CStr} {envp : StrMap}
    (h : .spawn argv envp ∈ w.effects (service.run w es)) :
    ∃ connection a, .connect connection a ∈ es ∧ ∃ s_con s_vpn tunName,
      connection.settingConnection = some s_con ∧ connection.settingVpn = some s_vpn ∧
      argv = connectArgv s_vpn w.gl.logLevel tunName ∧ envp = connectEnv s_con s_vpn a := by
  rw [effects_run] at h
  induction es generalizing w with
  | nil => cases h
  | cons e es ih =>
    rw [Machine.outputs_cons, List.mem_append] at h
    rcases h with hnow | hlater
    · rcases e.step_idles w with ⟨connection, a, rfl, -⟩ | hidles
      · have hspawn : .spawn argv envp ∈ (w.setLibnm .starting).effects
          (realConnect connection a (w.setLibnm .starting)).2 := hnow
        obtain ⟨s_con, s_vpn, _, tunName, hcon, hvpn, -, -, hargv, henvp⟩ :=
          spawn_of_realConnect hspawn
        exact ⟨connection, a, .head _, s_con, s_vpn, tunName, hcon, hvpn, hargv, henvp⟩
      · obtain ⟨added, htrace, hno⟩ := hidles.trace
        have hvisible : (e.step w).visible =
            w.visible ++ added.filter fun e => !e.auxiliary := by
          rw [World.visible, htrace, List.filter_append]
          rfl
        rw [World.effects_of_visible hvisible] at hnow
        exact absurd (List.mem_of_mem_filter hnow) (hno argv envp)
    · obtain ⟨connection, a, hmem, s_con, s_vpn, tunName, hcon, hvpn, hargv, henvp⟩ := ih hlater
      have hlevel : (service.step w e).gl.logLevel = w.gl.logLevel := e.step_logLevel w
      rw [hlevel] at hargv
      exact ⟨connection, a, .tail _ hmem, s_con, s_vpn, tunName, hcon, hvpn, hargv, henvp⟩

/-! ## The helper inherits -/

/-- The variables that a Connect may set for gpclient. -/
def gpclientNames : List CStr :=
  [cstr "SUDO_UID", cstr "SUDO_GID", cstr "SUDO_USER", cstr "HOME", cstr "USER", cstr "LOGNAME",
    cstr "BROWSER", cstr "RUST_BACKTRACE", cstr "RUST_LIB_BACKTRACE", cstr "XDG_RUNTIME_DIR",
    cstr "DBUS_SESSION_BUS_ADDRESS", cstr "WAYLAND_DISPLAY", cstr "XDG_SESSION_TYPE",
    cstr "MOZ_ENABLE_WAYLAND", cstr "DISPLAY", cstr "XAUTHORITY", cstr "GP_AUTH_BINARY",
    cstr "NM_GPCLIENT_BROWSER"]

/-- gpclient inherits every other variable of the service. -/
theorem lookup_connectEnv (s_con : NMSettingConnection) (s_vpn : NMSettingVpn) (a : ConnectAnswers)
    {name : CStr} (hname : name ∉ gpclientNames) :
    (connectEnv s_con s_vpn a).lookup name = a.environ.lookup name := by
  have hset : ∀ n ∈ gpclientNames, name ≠ n := by
    rintro n hn rfl
    exact hname hn
  simp only [gpclientNames, List.forall_mem_cons, List.not_mem_nil, false_imp_iff, forall_const,
    and_true] at hset
  have hdesktop : ∀ pw, (desktopEnv pw a.fileExists a.environ).lookup name =
      a.environ.lookup name := by
    intro pw
    unfold desktopEnv
    dsimp only
    split_ifs <;> simp only [lookup_environSetenv, hset, if_false]
  unfold connectEnv gpclientEnv buildGpclientEnv
  by_cases heuid : a.euid ≠ 0
  · simp [heuid, lookup_environSetenv, hset]
  · simp only [if_neg heuid]
    cases desktopPermission s_con with
    | none => simp [lookup_environSetenv, hset]
    | some item =>
      dsimp only
      cases a.getpwnam item with
      | none => simp [lookup_environSetenv, hset]
      | some pw => simp [lookup_environSetenv, hset, hdesktop]

/-- The variables that the service leaves for the helper. -/
def helperNames : List CStr :=
  [cstr "NM_VPN_LOG_LEVEL", cstr "NM_VPN_LOG_PREFIX_TOKEN", cstr "NM_DBUS_SERVICE_OPENCONNECT"]

section
variable {options : ServiceOptions} {environ : StrMap} {answers : StartAnswers}
  {tun : TunTable IfName}

theorem logLevel_loadTunModule (modprobe : Option (CStr × SpawnSync)) (w : World) :
    (loadTunModule modprobe w).gl.logLevel = w.gl.logLevel := by
  have hidles : w.Idles (loadTunModule modprobe w) := by
    unfold loadTunModule
    cases modprobe with
    | none => exact .refl
    | some m =>
      obtain ⟨program, outcome⟩ := m
      have hspawn := World.Idles.refl.emit (w := w) (.spawnSync [program, cstr "tun"])
      cases outcome with
      | failed _ message => exact hspawn.log _ _
      | done status _ =>
        dsimp only
        split
        · exact hspawn
        · exact hspawn.log _ _
  exact hidles.logLevel

/-- The service starts with the log level that it read. -/
theorem logLevel_serviceStart {w : World}
    (h : (serviceStart options environ answers tun).2 = some w) :
    (w.gl.logLevel : Int) = serviceLogLevel options environ := by
  unfold serviceStart at h
  dsimp only at h
  split at h
  · obtain rfl := Option.some.inj h
    change ((loadTunModule _ _).gl.logLevel : Int) = _
    rw [logLevel_loadTunModule, (World.Idles.refl.log _ _).logLevel]
    exact Int.toNat_of_nonneg (serviceLogLevel_range options environ).1
  · cases h

theorem lookup_setenvUnset (environ : StrMap) (name : String) (value key : CStr) :
    (setenvUnset environ name value).lookup key =
      if key = cstr name then some ((environ.lookup key).getD value) else environ.lookup key := by
  unfold setenvUnset
  split_ifs with hset hkey hkey
  · subst hkey
    obtain ⟨v, hv⟩ := Option.isSome_iff_exists.1 hset
    rw [hv, Option.getD_some]
  · rfl
  · subst hkey
    rw [lookup_environSetenv, if_pos rfl, Option.not_isSome_iff_eq_none.1 hset, Option.getD_none]
  · rw [lookup_environSetenv, if_neg hkey]

/-- What the service leaves for the helper in its environment. -/
theorem lookup_serviceStart (options : ServiceOptions) (environ : StrMap) (answers : StartAnswers)
    (tun : TunTable IfName) :
    (serviceStart options environ answers tun).1.lookup (cstr "NM_VPN_LOG_LEVEL") =
        some (decimal (serviceLogLevel options environ)) ∧
      (serviceStart options environ answers tun).1.lookup (cstr "NM_VPN_LOG_PREFIX_TOKEN") =
        some (decimal answers.pid) ∧
      (serviceStart options environ answers tun).1.lookup (cstr "NM_DBUS_SERVICE_OPENCONNECT") =
        some ((environ.lookup (cstr "NM_DBUS_SERVICE_OPENCONNECT")).getD options.busName) := by
  unfold serviceStart
  dsimp only
  simp only [lookup_setenvUnset, lookup_environSetenv]
  refine ⟨?_, ?_, ?_⟩ <;> simp +decide

/-- Every helper of a run of the service logs at the level of the service and under its process id.
It sends the configuration to the name that the service took on the bus exactly when
`NM_DBUS_SERVICE_OPENCONNECT` was not set to another one when the service started.

gpclient is spawned in the run, with whatever of the desktop user's variables, and passes the three
variables on. -/
theorem helper_inherits {w : World} (hstart : (serviceStart options environ answers tun).2 = some w)
    {es : List Event} (henviron : ∀ connection a, .connect connection a ∈ es →
      a.environ = (serviceStart options environ answers tun).1)
    {argv : List CStr} {envp : StrMap} (hspawn : .spawn argv envp ∈ w.effects (service.run w es))
    {env : Env} (hpassed : ∀ name ∈ helperNames, getenv env name = envp.lookup name) :
    helperLogLevel env = (service.run w es).gl.logLevel ∧
      helperLogPrefixToken env = decimal answers.pid ∧
      (helperBusPath env = options.busName ↔
        ∀ name ∈ environ.lookup (cstr "NM_DBUS_SERVICE_OPENCONNECT"), name = options.busName) := by
  obtain ⟨connection, a, hmem, s_con, s_vpn, -, -, -, -, rfl⟩ := spawn_of_run hspawn
  have hpass : ∀ name ∈ helperNames,
      getenv env name = (serviceStart options environ answers tun).1.lookup name := by
    intro name hname
    have hapart : ∀ name ∈ helperNames, name ∉ gpclientNames := by decide
    rw [hpassed name hname, lookup_connectEnv _ _ _ (hapart name hname), henviron connection a hmem]
  simp only [helperNames, List.forall_mem_cons] at hpass
  obtain ⟨hlevel, htoken, hname, -⟩ := hpass
  obtain ⟨hlevel', htoken', hname'⟩ :=
    lookup_serviceStart options environ answers tun
  refine ⟨?_, ?_, ?_⟩
  · obtain ⟨hmin, hmax⟩ := serviceLogLevel_range options environ
    unfold helperLogLevel
    rw [hlevel, hlevel', strToInt64_decimal (by decide) (by decide) hmin hmax, run_logLevel,
      logLevel_serviceStart hstart]
  · unfold helperLogPrefixToken
    rw [htoken, htoken', Option.getD_some]
  · unfold helperBusPath
    rw [hname, hname', Option.getD_some]
    cases environ.lookup (cstr "NM_DBUS_SERVICE_OPENCONNECT") <;> simp

end

/-- A start without options, as process 42. -/
def plainStart : StrMap × Option World := serviceStart {} ∅ ⟨42, none, true⟩ noDevices

/-- A Connect after it succeeds. -/
def plainAnswers : ConnectAnswers := { startAnswers with environ := plainStart.1 }

theorem helper_inherits_plainStart : ∃ env, helperLogLevel env = logNotice ∧
    helperLogPrefixToken env = cstr "42" ∧ helperBusPath env = nmDbusServiceOpenconnect := by
  obtain ⟨_, _, _, -, -, hspawn⟩ := @spawn_of_returned directProfile plainAnswers
    ((plainStart.2.getD (.start noDevices)).setLibnm .starting) none (by decide +kernel)
  obtain ⟨hlevel, htoken, hname⟩ := @helper_inherits {} ∅ ⟨42, none, true⟩ noDevices
    (plainStart.2.getD (.start noDevices)) rfl [.connect directProfile plainAnswers]
    (by
      intro connection a hmem
      cases List.mem_singleton.1 hmem
      rfl)
    _ _ hspawn _ (fun _ _ => rfl)
  exact ⟨_, hlevel, htoken, hname.2 nofun⟩

end NmGpclient
