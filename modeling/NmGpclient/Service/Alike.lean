import NmGpclient.Service.Lifecycle

/-!
# States that differ in what they log

The log level decides what the service logs, whether it dumps a connection, and how often gpclient
gets `--verbose`; it also reaches the programs below through the environment. `World.Alike` relates
states that differ in these only. Every function of the service takes such states to such states, and
returns the same in both: none of them reads the log, and only the dump and the command line of
gpclient depend on the log level.
-/

namespace NmGpclient

/-! ## States that differ in what they log -/

/-- An environment without the variables of the log level. -/
def quietEnv (envp : StrMap) : StrMap :=
  (envp.erase (cstr "OPENCONNECT_DEBUG")).erase (cstr "NM_VPN_LOG_LEVEL")

/-- A command line without the `--verbose` at its end. -/
def quietArgv (argv : List CStr) : List CStr := argv.rdropWhile (· = cstr "--verbose")

/-- An effect without what the log level decides: no line of the log, and no dump. -/
def Effect.quieted : Effect → Option Effect
  | .log .. | .connectionDump => none
  | .spawn argv envp => some (.spawn (quietArgv argv) (quietEnv envp))
  | e => some e

/-- The effects without what the log level decides. -/
def quietTrace (trace : List Effect) : List Effect := trace.filterMap Effect.quieted

/-- The state at another log level, with another trace. -/
def World.relog (w : World) (level : Nat) (trace : List Effect) : World :=
  { w with gl := { w.gl with logLevel := level }, trace := trace }

/-- The states differ in the log level and in what it decides only. -/
def World.Alike (w w' : World) : Prop :=
  ∃ level trace, w' = w.relog level trace ∧ quietTrace trace = quietTrace w.trace

/-- Two calls return the same and leave states that are alike. -/
inductive AlikeCalls {α : Type} : α × World → α × World → Prop
  | mk (ret : α) {w w' : World} (h : w.Alike w') : AlikeCalls (ret, w) (ret, w')

section
variable {α : Type} {r r' : α × World}

theorem AlikeCalls.ret_eq (h : AlikeCalls r r') : r'.1 = r.1 := by
  cases h
  rfl

theorem AlikeCalls.alike (h : AlikeCalls r r') : r.2.Alike r'.2 := by
  cases h
  assumption

end

section
variable {w w' v' : World}

theorem World.Alike.symm (h : w.Alike w') : w'.Alike w := by
  obtain ⟨level, trace, rfl, htrace⟩ := h
  exact ⟨w.gl.logLevel, w.trace, rfl, htrace.symm⟩

theorem World.Alike.trans (h : w.Alike w') (h' : w'.Alike v') : w.Alike v' := by
  obtain ⟨level, trace, rfl, htrace⟩ := h
  obtain ⟨level', trace', rfl, htrace'⟩ := h'
  exact ⟨level', trace', rfl, htrace'.trans htrace⟩

theorem World.Alike.priv_eq (h : w.Alike w') : w'.priv = w.priv := by
  obtain ⟨_, _, rfl, -⟩ := h
  rfl

theorem World.Alike.tun_eq (h : w.Alike w') : w'.tun = w.tun := by
  obtain ⟨_, _, rfl, -⟩ := h
  rfl

theorem World.Alike.loop_eq (h : w.Alike w') : w'.gl.loop = w.gl.loop := by
  obtain ⟨_, _, rfl, -⟩ := h
  rfl

/-- A change that neither reads nor writes the log. -/
theorem World.Alike.update (h : w.Alike w') (f : World → World)
    (htrace : ∀ w, (f w).trace = w.trace := by intros; rfl)
    (hrelog : ∀ w level trace, f (w.relog level trace) = (f w).relog level trace := by
      intros; rfl) : (f w).Alike (f w') := by
  obtain ⟨level, trace, rfl, hquiet⟩ := h
  refine ⟨level, trace, hrelog w level trace, ?_⟩
  rw [htrace, hquiet]

/-- Effects that differ in what the log level decides. -/
theorem World.Alike.emit₂ (h : w.Alike w') {e e' : Effect} (he : e'.quieted = e.quieted) :
    (w.emit e).Alike (w'.emit e') := by
  obtain ⟨level, trace, rfl, htrace⟩ := h
  refine ⟨level, trace ++ [e'], rfl, ?_⟩
  unfold quietTrace at htrace ⊢
  rw [World.emit, List.filterMap_append, List.filterMap_append, htrace]
  simp only [List.filterMap_cons, he]

theorem World.Alike.emit (h : w.Alike w') (e : Effect) : (w.emit e).Alike (w'.emit e) :=
  h.emit₂ rfl

/-- An effect that the log level decides is made in one of the two only, or in both. -/
theorem World.Alike.mute (h : w.Alike w') {e : Effect} (he : e.quieted = none) (b b' : Prop)
    [Decidable b] [Decidable b'] :
    (if b then w.emit e else w).Alike (if b' then w'.emit e else w') := by
  have hmute : ∀ v : World, v.Alike (v.emit e) := by
    intro v
    refine ⟨v.gl.logLevel, v.trace ++ [e], rfl, ?_⟩
    simp [quietTrace, he]
  split_ifs
  · exact h.emit e
  · exact (hmute w).symm.trans h
  · exact h.trans (hmute w')
  · exact h

theorem World.Alike.log (h : w.Alike w') (level : Nat) (line : CStr) :
    (w.log level line).Alike (w'.log level line) := h.mute rfl _ _

theorem World.Alike.dump (h : w.Alike w') :
    (if logInfo ≤ w.gl.logLevel then w.emit .connectionDump else w).Alike
      (if logInfo ≤ w'.gl.logLevel then w'.emit .connectionDump else w') := h.mute rfl _ _

theorem World.Alike.setTunName (h : w.Alike w') (n : Option IfName) :
    (w.setTunName n).Alike (w'.setTunName n) := h.update (·.setTunName n)

/-- The devices change in the same way. -/
theorem World.Alike.setTun (h : w.Alike w') (f : TunTable IfName → TunTable IfName) :
    (w.setTun (f w.tun)).Alike (w'.setTun (f w'.tun)) := h.update fun w => w.setTun (f w.tun)

theorem World.Alike.setPriv (h : w.Alike w') (priv : Priv) :
    (w.setPriv priv).Alike (w'.setPriv priv) := h.update (·.setPriv priv)

theorem World.Alike.setLibnm (h : w.Alike w') (s : NMVpnServiceState) :
    (w.setLibnm s).Alike (w'.setLibnm s) := h.update (·.setLibnm s)

/-! ## The bus -/

theorem nmGetProperty_alike {α : Type} (b : BusAnswers) (h : w.Alike w')
    (path iface property : CStr) (answer : Option α) :
    AlikeCalls (nmGetProperty b path iface property answer w)
      (nmGetProperty b path iface property answer w') := by
  have hread := h.emit (.readProperty path property)
  unfold nmGetProperty
  dsimp only
  split
  · exact .mk answer hread
  · exact .mk none (hread.log _ _)

end

section
variable (b : BusAnswers) (tunName : CStr) (tunOwner : Nat)

theorem findTunDevice_alike : ∀ (devices : List CStr) {w w' : World}, w.Alike w' →
    AlikeCalls (findTunDevice b tunName tunOwner devices w)
      (findTunDevice b tunName tunOwner devices w')
  | [], _, _, h => .mk false h
  | device :: rest, w, w', h => by
      have hiface := nmGetProperty_alike b h device deviceInterface (cstr "Interface")
        (b.interface device)
      unfold findTunDevice
      generalize nmGetProperty b device _ _ _ w = r at hiface ⊢
      generalize nmGetProperty b device _ _ _ w' = r' at hiface ⊢
      obtain ⟨iface, h⟩ := hiface
      cases iface with
      | none => exact findTunDevice_alike rest h
      | some iface =>
        dsimp only
        split_ifs
        · exact findTunDevice_alike rest h
        · have howner := nmGetProperty_alike b h device tunInterface (cstr "Owner") (b.owner device)
          generalize nmGetProperty b device _ _ (b.owner device) _ = r at howner ⊢
          generalize nmGetProperty b device _ _ (b.owner device) _ = r' at howner ⊢
          obtain ⟨owner, h⟩ := howner
          cases owner with
          | none => exact .mk true h
          | some owner =>
            dsimp only
            split_ifs
            · exact findTunDevice_alike rest h
            · exact .mk true h

theorem activeConnectionUsesTun_alike {w w' : World} (h : w.Alike w') (path : CStr) :
    AlikeCalls (activeConnectionUsesTun b path tunName tunOwner w)
      (activeConnectionUsesTun b path tunName tunOwner w') := by
  have htype := nmGetProperty_alike b h path activeInterface (cstr "Type") (b.type path)
  unfold activeConnectionUsesTun
  generalize nmGetProperty b path _ _ _ w = r at htype ⊢
  generalize nmGetProperty b path _ _ _ w' = r' at htype ⊢
  obtain ⟨type, h⟩ := htype
  cases type with
  | none => exact .mk false h
  | some type =>
    dsimp only
    split_ifs
    · exact .mk false h
    · have hvpn := nmGetProperty_alike b h path activeInterface (cstr "Vpn") (b.vpn path)
      generalize nmGetProperty b path _ _ (b.vpn path) _ = r at hvpn ⊢
      generalize nmGetProperty b path _ _ (b.vpn path) _ = r' at hvpn ⊢
      obtain ⟨vpn, h⟩ := hvpn
      rcases vpn with _ | _ | _
      case some.true => exact .mk false h
      -- not a VPN, or no answer: the devices decide
      all_goals
        have hdevices := nmGetProperty_alike b h path activeInterface (cstr "Devices")
          (b.devices path)
        dsimp only
        generalize nmGetProperty b path _ _ (b.devices path) _ = r at hdevices ⊢
        generalize nmGetProperty b path _ _ (b.devices path) _ = r' at hdevices ⊢
        obtain ⟨devices, h⟩ := hdevices
        cases devices with
        | none => exact .mk false h
        | some devices => exact findTunDevice_alike b tunName tunOwner devices h

theorem deactivateConnections_alike : ∀ (paths : List CStr) {w w' : World}, w.Alike w' →
    (deactivateConnections b tunName tunOwner paths w).Alike
      (deactivateConnections b tunName tunOwner paths w')
  | [], _, _, h => h
  | path :: rest, w, w', h => by
      have huses := activeConnectionUsesTun_alike b tunName tunOwner h path
      unfold deactivateConnections
      generalize activeConnectionUsesTun b path tunName tunOwner w = r at huses ⊢
      generalize activeConnectionUsesTun b path tunName tunOwner w' = r' at huses ⊢
      obtain ⟨uses, h⟩ := huses
      cases uses with
      | false => exact deactivateConnections_alike rest h
      | true =>
        apply deactivateConnections_alike
        cases b.deactivate path with
        | none => exact (h.emit _).log _ _
        | some message => exact (h.emit _).log _ _

end

section
variable {w w' : World}

theorem deactivateAssumedTunConnection_alike (tunName : CStr) (b : BusAnswers) (h : w.Alike w') :
    (deactivateAssumedTunConnection tunName b w).Alike
      (deactivateAssumedTunConnection tunName b w') := by
  have hpw := h.emit (.getpwnam nmOpenconnectUser)
  unfold deactivateAssumedTunConnection
  by_cases htun : tunName = []
  · rw [if_pos htun, if_pos htun]
    exact h
  · rw [if_neg htun, if_neg htun]
    cases b.passwd with
    | none => exact hpw
    | some pw =>
      cases b.connected with
      | false => exact hpw.log _ _
      | true =>
        have hpaths := nmGetProperty_alike b hpw nmPath nmInterface (cstr "ActiveConnections")
          b.activeConnections
        dsimp only
        rw [if_pos rfl, if_pos rfl]
        generalize nmGetProperty b nmPath _ _ _ (w.emit _) = r at hpaths ⊢
        generalize nmGetProperty b nmPath _ _ _ (w'.emit _) = r' at hpaths ⊢
        obtain ⟨paths, h⟩ := hpaths
        cases paths with
        | none => exact h
        | some paths => exact deactivateConnections_alike b tunName pw.uid paths h

/-! ## The TUN device and the lock -/

theorem tryNames_alike (a : TunAnswers) : ∀ (ns : List IfName) {w w' : World}, w.Alike w' →
    AlikeCalls (tryNames a ns w) (tryNames a ns w')
  | [], _, _, h => .mk none h
  | n :: ns, w, w', h => by
      have hn := h.emit (.tunsetiff n)
      have haccepts : a.accepts (w'.emit (.tunsetiff n)).tun n =
          a.accepts (w.emit (.tunsetiff n)).tun n := by rw [hn.tun_eq]
      unfold tryNames
      dsimp only
      rw [haccepts]
      split_ifs
      · exact .mk (some n) (hn.setTun (·.attach n))
      · exact tryNames_alike a ns hn

theorem createPersistentTundev_alike (suggested : Option IfName) (a : TunAnswers)
    (h : w.Alike w') :
    AlikeCalls (createPersistentTundev suggested a w) (createPersistentTundev suggested a w') := by
  have hpw := h.emit (.getpwnam nmOpenconnectUser)
  unfold createPersistentTundev
  cases a.passwd with
  | none => exact .mk (none, none) hpw
  | some pw =>
    have hopen := (hpw.update (·.setTunOwner pw)).emit .openTun
    cases a.openTun with
    | false => exact .mk (none, some _) hopen
    | true =>
      have hnames := tryNames_alike a (candidateNames suggested) hopen
      dsimp only at hnames ⊢
      rw [if_pos rfl, if_pos rfl]
      generalize tryNames a _ (((w.emit _).setTunOwner pw).emit _) = r at hnames ⊢
      generalize tryNames a _ (((w'.emit _).setTunOwner pw).emit _) = r' at hnames ⊢
      obtain ⟨name, h⟩ := hnames
      cases name with
      | none => exact .mk (none, some _) h
      | some n =>
        have howner := h.emit (.tunsetowner n pw.uid)
        cases a.setOwner with
        | false => exact .mk (none, some _) howner
        | true =>
          have hpersist := (howner.setTun (·.setOwner n pw.uid)).emit (.tunsetpersist n true)
          cases a.setPersist with
          | false => exact .mk (none, some _) hpersist
          | true =>
            exact .mk (some n, none)
              (((hpersist.setTun fun t => (t.setPersist n true).close n).emit _).log _ _)

theorem destroyPersistentTundev_alike (n : IfName) (a : DestroyAnswers) (h : w.Alike w') :
    (destroyPersistentTundev n a w).Alike (destroyPersistentTundev n a w') := by
  have hopen := h.emit .openTun
  unfold destroyPersistentTundev
  cases a.openTun with
  | false => exact hopen
  | true =>
    have hname := hopen.emit (.tunsetiff n)
    have haccepts : a.accepts ((w'.emit .openTun).emit (.tunsetiff n)).tun n =
        a.accepts ((w.emit .openTun).emit (.tunsetiff n)).tun n := by rw [hname.tun_eq]
    dsimp only
    rw [haccepts, if_pos rfl, if_pos rfl]
    cases a.accepts ((w.emit .openTun).emit (.tunsetiff n)).tun n with
    | false => exact hname.emit _
    | true =>
      have hattach := (hname.setTun (·.attach n)).emit (.tunsetpersist n false)
      cases a.clearPersist with
      | false => exact (hattach.setTun (·.close n)).emit _
      | true =>
        have hlogged := (hattach.setTun (·.setPersist n false)).log logWarning
          (cstr "Destroyed  tundev " ++ n.bytes ++ cstr "\n")
        exact (hlogged.setTun (·.close n)).emit _

theorem prepareGpclientLock_alike (a : LockAnswers) (h : w.Alike w') :
    AlikeCalls (prepareGpclientLock a w) (prepareGpclientLock a w') := by
  have htest := h.emit .testLock
  unfold prepareGpclientLock
  cases a.fileExists with
  | false => exact .mk none htest
  | true =>
    have hread := htest.emit .readLock
    have hprobe : ((readGpclientLockPid a.contents).elim ((w.emit .testLock).emit .readLock)
          fun pid => ((w.emit .testLock).emit .readLock).emit (.kill (.process pid) .null)).Alike
        ((readGpclientLockPid a.contents).elim ((w'.emit .testLock).emit .readLock)
          fun pid => ((w'.emit .testLock).emit .readLock).emit (.kill (.process pid) .null)) := by
      cases readGpclientLockPid a.contents with
      | none => exact hread
      | some pid => exact hread.emit _
    dsimp only
    rw [if_pos rfl, if_pos rfl]
    generalize (readGpclientLockPid a.contents).elim ((w.emit _).emit _) _ = v at hprobe ⊢
    generalize (readGpclientLockPid a.contents).elim ((w'.emit _).emit _) _ = v' at hprobe ⊢
    cases lockOwner a with
    | some pid =>
      dsimp only
      split_ifs
      · exact .mk (some _) (hprobe.emit _)
      · exact .mk (some _) (hprobe.emit _)
    | none =>
      have hunlink := hprobe.emit .unlinkLock
      cases a.unlink with
      | failed strerror => exact .mk (some _) hunlink
      | removed => exact .mk none (hunlink.log _ _)
      | enoent => exact .mk none (hunlink.log _ _)

/-! ## The environment -/

theorem erase_insert_self (m : StrMap) (key value : CStr) :
    (m.insert key value).erase key = m.erase key :=
  AList.ext (List.kerase_cons_eq rfl)

theorem erase_insert_of_ne (m : StrMap) {key key' : CStr} (value : CStr) (h : key' ≠ key) :
    (m.insert key value).erase key' = (m.erase key').insert key value := by
  apply AList.ext
  change List.kerase key' (⟨key, value⟩ :: List.kerase key m.entries) =
    ⟨key, value⟩ :: List.kerase key (List.kerase key' m.entries)
  rw [List.kerase_cons_ne h, List.kerase_comm]

theorem quietEnv_environSetenv (envp : StrMap) (name : String) (value : CStr) :
    quietEnv (environSetenv envp name value) =
      if cstr name = cstr "OPENCONNECT_DEBUG" ∨ cstr name = cstr "NM_VPN_LOG_LEVEL" then
        quietEnv envp
      else environSetenv (quietEnv envp) name value := by
  unfold quietEnv environSetenv
  generalize cstr name = key
  split_ifs with hloud
  · rcases hloud with rfl | rfl
    · rw [erase_insert_self]
    · rw [AList.erase_erase, erase_insert_self, AList.erase_erase]
  · rw [not_or] at hloud
    rw [erase_insert_of_ne _ _ (Ne.symm hloud.1), erase_insert_of_ne _ _ (Ne.symm hloud.2)]

/-- Setting a variable in environments that differ in the log level only. -/
theorem quietEnv_congr {envp envp' : StrMap} (h : quietEnv envp' = quietEnv envp) (name : String)
    (value : CStr) :
    quietEnv (environSetenv envp' name value) = quietEnv (environSetenv envp name value) := by
  rw [quietEnv_environSetenv, quietEnv_environSetenv, h]

theorem desktopEnv_quiet {environ environ' : StrMap} (h : quietEnv environ' = quietEnv environ)
    (pw : Passwd) (fileExists : CStr → Bool) :
    quietEnv (desktopEnv pw fileExists environ') = quietEnv (desktopEnv pw fileExists environ) := by
  unfold desktopEnv
  dsimp only
  split_ifs <;> simp only [quietEnv_environSetenv, h]

theorem gpclientEnv_alike (s_con : NMSettingConnection) (s_vpn : NMSettingVpn) (a : ConnectAnswers)
    {environ' : StrMap} (henviron : quietEnv environ' = quietEnv a.environ) (h : w.Alike w') :
    quietEnv (gpclientEnv s_con s_vpn { a with environ := environ' } w').1 =
        quietEnv (gpclientEnv s_con s_vpn a w).1 ∧
      (gpclientEnv s_con s_vpn a w).2.Alike
        (gpclientEnv s_con s_vpn { a with environ := environ' } w').2 := by
  unfold gpclientEnv buildGpclientEnv
  dsimp only
  by_cases heuid : a.euid ≠ 0
  · rw [if_pos heuid, if_pos heuid]
    exact ⟨quietEnv_congr (quietEnv_congr henviron _ _) _ _, h⟩
  · rw [if_neg heuid, if_neg heuid]
    cases desktopPermission s_con with
    | none => exact ⟨quietEnv_congr (quietEnv_congr henviron _ _) _ _, h⟩
    | some item =>
      dsimp only
      cases a.getpwnam item with
      | none => exact ⟨quietEnv_congr (quietEnv_congr henviron _ _) _ _, h.emit _⟩
      | some pw =>
        have hdesktop := desktopEnv_quiet henviron pw a.fileExists
        exact ⟨quietEnv_congr (quietEnv_congr hdesktop _ _) _ _, (h.emit _).log _ _⟩

/-! ## Connect -/

theorem logUnknown_alike (info : ValidateInfo) (h : w.Alike w') :
    (logUnknown info w).Alike (logUnknown info w') := by
  unfold logUnknown
  generalize info.unknown = keys
  induction keys generalizing w w' with
  | nil => exact h
  | cons key keys ih => exact ih (h.log _ _)

theorem validateConnection_alike (s_vpn : NMSettingVpn) (h : w.Alike w') :
    AlikeCalls (validateConnection s_vpn w) (validateConnection s_vpn w') := by
  unfold validateConnection
  cases validateAuthSecretFlags s_vpn with
  | some error => exact .mk (some error) h
  | none =>
    have hproperties := logUnknown_alike (nmOpenconnectPropertiesValidate s_vpn) h
    dsimp only
    cases (nmOpenconnectPropertiesValidate s_vpn).error with
    | some error => exact .mk (some error) hproperties
    | none => exact .mk _ (logUnknown_alike _ hproperties)

theorem feedCookie_alike (cookie : CStr) (a : ConnectAnswers) (h : w.Alike w') :
    AlikeCalls (feedCookie cookie a w) (feedCookie cookie a w') := by
  unfold feedCookie
  dsimp only
  split_ifs
  · exact .mk (false, _) (h.emit _)
  · exact .mk (_, _) ((h.emit _).emit _)

/-- The command line at the two log levels. -/
theorem gpclientArgv_quiet (s_vpn : NMSettingVpn) (level level' : Nat) (tunName : Option IfName) :
    quietArgv ((gpclientArgv s_vpn level' tunName).map Word.bytes) =
      quietArgv ((gpclientArgv s_vpn level tunName).map Word.bytes) := by
  have hverbose : ∀ argv, quietArgv (argv ++ [cstr "--verbose"]) = quietArgv argv := by
    intro argv
    exact List.rdropWhile_concat_pos _ _ _ (by simp)
  have hquiet : ∀ (argv : List CStr) (level : Nat),
      quietArgv (argv ++ (verboseArgs level).map Word.bytes) = quietArgv argv := by
    intro argv level
    unfold verboseArgs
    split_ifs
    · change quietArgv (argv ++ [cstr "--verbose", cstr "--verbose"]) = quietArgv argv
      rw [List.append_cons, hverbose, hverbose]
    · exact hverbose argv
    · rw [List.map_nil, List.append_nil]
  unfold gpclientArgv scriptArgs
  simp only [List.map_append, ← List.append_assoc]
  rw [hquiet, hquiet]

/-- Launching gpclient with command lines and environments that differ in the log level only. -/
theorem launchGpclient_alike {argv argv' : List CStr} (hargv : quietArgv argv' = quietArgv argv)
    {envp envp' : StrMap} (henvp : quietEnv envp' = quietEnv envp) (cookie : CStr)
    (a : ConnectAnswers) (h : w.Alike w') :
    AlikeCalls (launchGpclient argv envp cookie a w) (launchGpclient argv' envp' cookie a w') := by
  have hlock := prepareGpclientLock_alike a.lock h
  unfold launchGpclient
  generalize prepareGpclientLock a.lock w = r at hlock ⊢
  generalize prepareGpclientLock a.lock w' = r' at hlock ⊢
  obtain ⟨error, h⟩ := hlock
  cases error with
  | some error =>
    dsimp only
    rw [h.priv_eq]
    split
    next n _ =>
      have hdestroyed := destroyPersistentTundev_alike n a.destroy h
      exact .mk (-1, some error) (hdestroyed.setTunName none)
    next => exact .mk (-1, some error) h
  | none =>
    have hquieted : (Effect.spawn argv' envp').quieted = (Effect.spawn argv envp).quieted := by
      simp [Effect.quieted, hargv, henvp]
    have hspawn := h.emit₂ hquieted
    dsimp only
    cases a.spawn with
    | error error => exact .mk (-1, some error) (hspawn.log _ _)
    | ok pid =>
      have hfeed := feedCookie_alike cookie a
        (hspawn.log logNotice (cstr "gpclient started with pid " ++ decimal pid))
      dsimp only
      generalize feedCookie cookie a _ = r at hfeed ⊢
      generalize feedCookie cookie a _ = r' at hfeed ⊢
      obtain ⟨⟨fed, stdin⟩, h⟩ := hfeed
      cases fed with
      | false => exact .mk (-1, none) ((h.update (·.addChild ⟨pid, stdin, false⟩)).log _ _)
      | true =>
        have htracked := ((h.emit .closeStdin).update (·.setPid pid)).emit (.addChildWatch pid)
        exact .mk (0, none) (htracked.update (·.addChild ⟨pid, stdin, true⟩))

theorem startOpenconnectBinary_alike (s_con : NMSettingConnection) (s_vpn : NMSettingVpn)
    (a : ConnectAnswers) {environ' : StrMap} (henviron : quietEnv environ' = quietEnv a.environ)
    (h : w.Alike w') :
    AlikeCalls (startOpenconnectBinary s_con s_vpn a w)
      (startOpenconnectBinary s_con s_vpn { a with environ := environ' } w') := by
  have hversion := h.emit (.spawnSync [gpclientBinary, cstr "--version"])
  unfold startOpenconnectBinary
  dsimp only
  cases startChecks s_vpn a.version with
  | error error => exact .mk (-1, some error) hversion
  | ok cookie =>
    obtain ⟨henvp, henv⟩ := gpclientEnv_alike s_con s_vpn a henviron hversion
    dsimp only
    generalize gpclientEnv s_con s_vpn a _ = r at henvp henv ⊢
    generalize gpclientEnv s_con s_vpn { a with environ := environ' } _ = r' at henvp henv ⊢
    obtain ⟨envp, w₁⟩ := r
    obtain ⟨envp', w₁'⟩ := r'
    have htun := createPersistentTundev_alike s_con.interfaceName a.tun henv
    dsimp only at htun ⊢
    generalize createPersistentTundev s_con.interfaceName a.tun w₁ = r at htun ⊢
    generalize createPersistentTundev s_con.interfaceName a.tun w₁' = r' at htun ⊢
    obtain ⟨⟨tunName, error⟩, h⟩ := htun
    have hlaunch := fun level level' => launchGpclient_alike
      (gpclientArgv_quiet s_vpn level level' tunName) henvp cookie a (h.setTunName tunName)
    cases tunName with
    | some n => exact hlaunch _ _
    | none =>
      cases error with
      | some error => exact .mk (-1, some error) (h.setTunName none)
      | none => exact hlaunch _ _

theorem realConnect_alike (connection : NMConnection) (a : ConnectAnswers) {environ' : StrMap}
    (henviron : quietEnv environ' = quietEnv a.environ) (h : w.Alike w') :
    AlikeCalls (realConnect connection a w)
      (realConnect connection { a with environ := environ' } w') := by
  unfold realConnect
  cases connection.settingConnection with
  | none => exact .mk _ h
  | some s_con =>
    cases connection.settingVpn with
    | none => exact .mk _ h
    | some s_vpn =>
      have hvalid := validateConnection_alike s_vpn h
      dsimp only
      generalize validateConnection s_vpn w = r at hvalid ⊢
      generalize validateConnection s_vpn w' = r' at hvalid ⊢
      obtain ⟨error, h⟩ := hvalid
      cases error with
      | some error => exact .mk _ h
      | none =>
        have hstart := startOpenconnectBinary_alike s_con s_vpn a henviron h.dump
        dsimp only
        generalize startOpenconnectBinary s_con s_vpn a _ = r at hstart ⊢
        generalize startOpenconnectBinary s_con s_vpn { a with environ := environ' } _ = r'
          at hstart ⊢
        obtain ⟨⟨openconnectFd, error⟩, h⟩ := hstart
        exact .mk _ h

/-! ## The other callbacks -/

theorem World.Alike.armKillTimeout (h : w.Alike w') :
    w.armKillTimeout.Alike w'.armKillTimeout := by
  obtain ⟨level, trace, rfl, htrace⟩ := h
  refine ⟨level, trace ++ [.addTimeout (w.nextSource + 1)], rfl, ?_⟩
  unfold quietTrace at htrace ⊢
  rw [World.armKillTimeout, World.emit, List.filterMap_append, List.filterMap_append, htrace]

theorem realDisconnect_alike (groupKilled : Bool) (h : w.Alike w') :
    (realDisconnect groupKilled w).Alike (realDisconnect groupKilled w') := by
  by_cases hpid : w.priv.pid = 0
  · have hpid' : w'.priv.pid = 0 := by rw [h.priv_eq, hpid]
    rw [realDisconnect_idle hpid, realDisconnect_idle hpid']
    exact h
  · have hgroup := (h.setPriv { w.priv with disconnectRequested := true }).emit
      (.kill (.group w.priv.pid) .sigint)
    have harmed : ∀ {v v' : World}, v.Alike v' →
        (if v.priv.killTimeout = 0 then v.armKillTimeout else v).Alike
          (if v'.priv.killTimeout = 0 then v'.armKillTimeout else v') := by
      intro v v' h
      rw [h.priv_eq]
      split_ifs
      · exact h.armKillTimeout
      · exact h
    unfold realDisconnect
    rw [h.priv_eq]
    dsimp only
    rw [if_neg hpid, if_neg hpid]
    cases groupKilled with
    | true => exact (harmed hgroup).log _ _
    | false => exact (harmed (hgroup.emit _)).log _ _

theorem ensureKilled_alike (a : ProbeAnswers) (h : w.Alike w') :
    (ensureKilled a w).Alike (ensureKilled a w') := by
  have hdone := h.setPriv { w.priv with killTimeout := 0 }
  unfold ensureKilled
  rw [h.priv_eq]
  dsimp only
  split_ifs
  · exact hdone
  · exact (hdone.emit _).emit _
  · exact ((hdone.emit _).emit _).emit _
  · exact (hdone.emit _).emit _

theorem quitMainloop_alike (groupKilled : Bool) (h : w.Alike w') :
    (quitMainloop groupKilled w).Alike (quitMainloop groupKilled w') := by
  have hpending := h.setPriv { w.priv with quitPending := true }
  by_cases hpid : w.priv.pid = 0
  · have hpid' : w'.priv.pid = 0 := by rw [h.priv_eq, hpid]
    rw [quitMainloop_idle hpid, quitMainloop_idle hpid']
    exact h.emit _
  · have hpid' : w'.priv.pid ≠ 0 := by rwa [h.priv_eq]
    rw [quitMainloop_tracked hpid, quitMainloop_tracked hpid', h.priv_eq]
    split_ifs
    · exact hpending
    · exact realDisconnect_alike groupKilled hpending

theorem nested_alike (calls : List LibnmCall) (h : w.Alike w') :
    (calls.foldl LibnmCall.run w).Alike (calls.foldl LibnmCall.run w') := by
  induction calls generalizing w w' with
  | nil => exact h
  | cons call calls ih =>
    apply ih
    cases call with
    | disconnect groupKilled => exact (realDisconnect_alike groupKilled h).setLibnm .stopped
    | quit groupKilled => exact quitMainloop_alike groupKilled h

theorem logExit_alike (status : Nat) (h : w.Alike w') :
    (logExit status w).Alike (logExit status w') := by
  unfold logExit
  rw [h.priv_eq]
  split_ifs <;> first | exact h.log _ _ | exact h

theorem clearKillTimeout_alike (h : w.Alike w') :
    (clearKillTimeout w).Alike (clearKillTimeout w') := by
  unfold clearKillTimeout
  rw [h.priv_eq]
  split_ifs
  · exact h
  · exact ((h.update (·.dropSource _)).emit _).setPriv _

theorem releaseTun_alike (a : ExitAnswers) (h : w.Alike w') :
    (releaseTun a w).Alike (releaseTun a w') := by
  unfold releaseTun
  rw [h.priv_eq]
  split
  next n _ =>
    have hdeactivated := deactivateAssumedTunConnection_alike n.bytes a.bus h
    exact (destroyPersistentTundev_alike n a.destroy hdeactivated).setTunName none
  next => exact h

theorem openconnectWatchCb_alike (status : Nat) (a : ExitAnswers) (h : w.Alike w') :
    (openconnectWatchCb status a w).Alike (openconnectWatchCb status a w') := by
  have hcleared := clearKillTimeout_alike (logExit_alike status h)
  unfold openconnectWatchCb
  dsimp only
  rw [h.priv_eq]
  generalize clearKillTimeout (logExit status w) = v at hcleared ⊢
  generalize clearKillTimeout (logExit status w') = v' at hcleared ⊢
  have hreleased := releaseTun_alike a
    (hcleared.setPriv { v.priv with pid := 0, disconnectRequested := false })
  rw [hcleared.priv_eq]
  generalize releaseTun a _ = u at hreleased ⊢
  generalize releaseTun a _ = u' at hreleased ⊢
  rw [hreleased.priv_eq, hreleased.loop_eq]
  split_ifs
  · exact hreleased.emit _
  · exact hreleased
  · exact nested_alike a.nested (hreleased.emit _)

theorem realNeedSecrets_alike (connection : NMConnection) (bus : BusAnswers) (h : w.Alike w') :
    AlikeCalls (realNeedSecrets connection bus w) (realNeedSecrets connection bus w') := by
  unfold realNeedSecrets
  cases connection.settingVpn with
  | none => exact .mk _ h
  | some s_vpn =>
    dsimp only
    cases validateAuthSecretFlags s_vpn with
    | some error => exact .mk _ h
    | none =>
      have hdeactivated := fun name => deactivateAssumedTunConnection_alike name bus h
      dsimp only
      rw [h.priv_eq]
      split_ifs
      · exact .mk _ (hdeactivated _)
      · exact .mk _ h
      · exact .mk _ (hdeactivated _)
      · exact .mk _ h

end

end NmGpclient
