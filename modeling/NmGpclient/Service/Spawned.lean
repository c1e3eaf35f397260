import NmGpclient.Service.Connect

/-!
# What a Connect shows

All that a Connect visibly does is to spawn gpclient, feed it its cookie and watch it, and it comes
to that only when every check before has passed. `realConnect_shows` says which command line and
which environment the process is started with; what reaches gpclient from a profile is read off it.
-/

namespace NmGpclient

/-- The writes to the standard input of the child: the newline is written after a whole cookie. -/
def feedEffects (cookie : CStr) (a : ConnectAnswers) : List Effect :=
  .write cookie :: if write cookie a.writeCookie = some cookie.length then [.write newline] else []

/-- The spawn succeeds and the child takes the whole cookie and the newline. -/
def ConnectAnswers.starts (a : ConnectAnswers) (cookie : CStr) : Bool :=
  a.spawn.toOption.isSome && a.feeds cookie

/-- The effects from the spawn on. -/
def launchEffects (argv : List CStr) (envp : StrMap) (cookie : CStr) (a : ConnectAnswers) :
    List Effect :=
  .spawn argv envp :: match a.spawn with
    | .error _ => []
    | .ok pid => feedEffects cookie a ++
        if a.feeds cookie then [.closeStdin, .addChildWatch pid] else []

/-- The command line of gpclient for a TUN device. -/
def connectArgv (s_vpn : NMSettingVpn) (logLevel : Nat) (tunName : Option IfName) : List CStr :=
  (gpclientArgv s_vpn logLevel tunName).map Word.bytes

/-- The environment of gpclient. -/
def connectEnv (s_con : NMSettingConnection) (s_vpn : NMSettingVpn) (a : ConnectAnswers) : StrMap :=
  (gpclientEnv s_con s_vpn a (.start fun _ => none)).1

/-- What a Connect returns and visibly does: nothing when a check fails, for a connection that is
complete, or else the launch. -/
inductive ConnectShows (connection : NMConnection) (a : ConnectAnswers) (logLevel : Nat) :
    ConnectReturn → List Effect → Prop
  | aborted (hno : connection.settingConnection = none ∨ connection.settingVpn = none) :
      ConnectShows connection a logLevel .aborted []
  | refused (error : GError) : ConnectShows connection a logLevel (.returned false (some error)) []
  | launched {s_con : NMSettingConnection} {s_vpn : NMSettingVpn} {cookie : CStr}
      (hcon : connection.settingConnection = some s_con) (hvpn : connection.settingVpn = some s_vpn)
      (hvalid : validVpn s_vpn = true) (hchecks : startChecks s_vpn a.version = .ok cookie)
      (tunName : Option IfName) (error : Option GError) :
      ConnectShows connection a logLevel (.returned (a.starts cookie) error)
        (launchEffects (connectArgv s_vpn logLevel tunName) (connectEnv s_con s_vpn a) cookie a)

theorem World.OnlyTun.visible_eq {w w' : World} {t : TunTable IfName} (h : w.OnlyTun t w') :
    w'.visible = w.visible := congrArg Core.visible h.core_eq

theorem World.OnlyTun.logLevel_eq {w w' : World} {t : TunTable IfName} (h : w.OnlyTun t w') :
    w'.gl.logLevel = w.gl.logLevel := by
  obtain ⟨_, _, _, _, rfl⟩ := h
  rfl

theorem World.visible_log (w : World) (level : Nat) (line : CStr) :
    (w.log level line).visible = w.visible := congrArg Core.visible (w.core_log level line)

theorem lookup_environSetenv (envp : StrMap) (name : String) (value key : CStr) :
    (environSetenv envp name value).lookup key =
      if key = cstr name then some value else envp.lookup key := by
  unfold environSetenv
  split_ifs with h
  · rw [h, AList.lookup_insert]
  · exact AList.lookup_insert_ne h

/-- The environment does not depend on the state of the service. -/
theorem gpclientEnv_fst (s_con : NMSettingConnection) (s_vpn : NMSettingVpn) (a : ConnectAnswers)
    (w : World) : (gpclientEnv s_con s_vpn a w).1 = connectEnv s_con s_vpn a := by
  unfold connectEnv gpclientEnv buildGpclientEnv
  by_cases heuid : a.euid ≠ 0
  · simp only [if_pos heuid]
  · simp only [if_neg heuid]
    cases desktopPermission s_con with
    | none => rfl
    | some item =>
      dsimp only
      cases a.getpwnam item with
      | none => rfl
      | some pw => rfl

theorem feedCookie_visible (cookie : CStr) (a : ConnectAnswers) (w : World) :
    (feedCookie cookie a w).1.1 = a.feeds cookie ∧
      (feedCookie cookie a w).2.visible = w.visible ++ feedEffects cookie a := by
  unfold feedCookie feedEffects ConnectAnswers.feeds
  by_cases hc : write cookie a.writeCookie = some cookie.length
  · simp [hc, World.visible_emit, Effect.auxiliary]
  · simp [hc, World.visible_emit, Effect.auxiliary]

/-- From the lock file on, gpclient is launched unless the lock is refused. -/
theorem launchGpclient_shows (argv : List CStr) (envp : StrMap) (cookie : CStr)
    (a : ConnectAnswers) (w : World) :
    (∃ error, (launchGpclient argv envp cookie a w).1 = (-1, some error) ∧
        (launchGpclient argv envp cookie a w).2.visible = w.visible) ∨
      (((launchGpclient argv envp cookie a w).1.1 == 0) = a.starts cookie ∧
        (launchGpclient argv envp cookie a w).2.visible =
          w.visible ++ launchEffects argv envp cookie a) := by
  have hlock := (prepareGpclientLock_spec a.lock w).2.visible_eq
  unfold launchGpclient launchEffects ConnectAnswers.starts
  generalize prepareGpclientLock a.lock w = r at hlock ⊢
  obtain ⟨error, w₁⟩ := r
  rw [← hlock]
  cases error with
  | some e =>
    refine .inl ⟨e, rfl, ?_⟩
    dsimp only
    cases w₁.priv.tunName with
    | none => rfl
    | some n => exact (destroyPersistentTundev_spec n a.destroy w₁).visible_eq
  | none =>
    dsimp only
    cases a.spawn with
    | error e =>
      refine .inr ⟨rfl, ?_⟩
      rw [World.visible_log, World.visible_emit]
      rfl
    | ok pid =>
      obtain ⟨hfed, hfeed⟩ := feedCookie_visible cookie a ((w₁.emit (.spawn argv envp)).log
        logNotice (cstr "gpclient started with pid " ++ decimal pid))
      rw [World.visible_log, World.visible_emit, List.append_assoc] at hfeed
      dsimp only
      generalize feedCookie cookie a _ = r at hfed hfeed ⊢
      obtain ⟨⟨fed, stdin⟩, w₂⟩ := r
      obtain rfl : fed = a.feeds cookie := hfed
      cases a.feeds cookie with
      | false =>
        refine .inr ⟨rfl, ?_⟩
        dsimp only
        rw [World.visible_log, if_neg (by simp), List.append_nil]
        exact hfeed
      | true =>
        refine .inr ⟨rfl, ?_⟩
        change (((w₂.emit .closeStdin).setPid pid).emit (.addChildWatch pid)).visible = _
        have hclosed : ((w₂.emit .closeStdin).setPid pid).visible =
          (w₂.emit .closeStdin).visible := rfl
        rw [World.visible_emit, hclosed, World.visible_emit]
        dsimp only at hfeed
        rw [hfeed]
        simp [Effect.auxiliary]

theorem startOpenconnectBinary_shows {connection : NMConnection} {s_con : NMSettingConnection}
    {s_vpn : NMSettingVpn} (hcon : connection.settingConnection = some s_con)
    (hvpn : connection.settingVpn = some s_vpn) (hvalid : validVpn s_vpn = true)
    (a : ConnectAnswers) (w : World) :
    ∃ es, (startOpenconnectBinary s_con s_vpn a w).2.visible = w.visible ++ es ∧
      ConnectShows connection a w.gl.logLevel
        (.returned ((startOpenconnectBinary s_con s_vpn a w).1.1 == 0)
          (startOpenconnectBinary s_con s_vpn a w).1.2) es := by
  have hversion : w.OnlyTun w.tun (w.emit (.spawnSync [gpclientBinary, cstr "--version"])) :=
    World.OnlyTun.refl.emit _
  unfold startOpenconnectBinary
  dsimp only
  rw [← hversion.visible_eq, ← hversion.logLevel_eq]
  generalize w.emit (.spawnSync [gpclientBinary, cstr "--version"]) = w₁
  cases hchecks : startChecks s_vpn a.version with
  | error e => exact ⟨[], (List.append_nil _).symm, .refused e⟩
  | ok cookie =>
    have henv := gpclientEnv_spec s_con s_vpn a w₁
    have hfst := gpclientEnv_fst s_con s_vpn a w₁
    dsimp only
    rw [← henv.visible_eq, ← henv.logLevel_eq]
    generalize gpclientEnv s_con s_vpn a w₁ = r at hfst ⊢
    obtain ⟨envp, w₂⟩ := r
    obtain rfl : envp = connectEnv s_con s_vpn a := hfst
    obtain ⟨t, hspec, honly⟩ := createPersistentTundev_spec s_con.interfaceName a.tun w₂
    dsimp only
    rw [← honly.visible_eq, ← honly.logLevel_eq]
    generalize createPersistentTundev s_con.interfaceName a.tun w₂ = r at hspec ⊢
    obtain ⟨⟨tunName, error⟩, w₃⟩ := r
    have hlaunch : ∃ es, (launchGpclient (connectArgv s_vpn w₃.gl.logLevel tunName)
          (connectEnv s_con s_vpn a) cookie a (w₃.setTunName tunName)).2.visible =
            w₃.visible ++ es ∧
        ConnectShows connection a w₃.gl.logLevel
          (.returned ((launchGpclient (connectArgv s_vpn w₃.gl.logLevel tunName)
              (connectEnv s_con s_vpn a) cookie a (w₃.setTunName tunName)).1.1 == 0)
            (launchGpclient (connectArgv s_vpn w₃.gl.logLevel tunName)
              (connectEnv s_con s_vpn a) cookie a (w₃.setTunName tunName)).1.2) es := by
      rcases launchGpclient_shows (connectArgv s_vpn w₃.gl.logLevel tunName)
        (connectEnv s_con s_vpn a) cookie a (w₃.setTunName tunName) with
        ⟨error, hret, hvisible⟩ | ⟨hret, hvisible⟩
      · rw [hret]
        exact ⟨[], hvisible.trans (List.append_nil _).symm, .refused error⟩
      · rw [hret]
        exact ⟨_, hvisible, .launched hcon hvpn hvalid hchecks tunName _⟩
    cases hspec with
    | noUser | created => exact hlaunch
    | refused _ _ e => exact ⟨[], (List.append_nil _).symm, .refused e⟩
    | leaked _ _ _ _ e => exact ⟨[], (List.append_nil _).symm, .refused e⟩

/-- What a Connect returns and visibly does. -/
theorem realConnect_shows (connection : NMConnection) (a : ConnectAnswers) (w : World) :
    ∃ es, (realConnect connection a w).2.visible = w.visible ++ es ∧
      ConnectShows connection a w.gl.logLevel (realConnect connection a w).1 es := by
  unfold realConnect
  cases hcon : connection.settingConnection with
  | none => exact ⟨[], (List.append_nil _).symm, .aborted (.inl hcon)⟩
  | some s_con =>
    cases hvpn : connection.settingVpn with
    | none => exact ⟨[], (List.append_nil _).symm, .aborted (.inr hvpn)⟩
    | some s_vpn =>
      obtain ⟨hvalid, honly⟩ := validateConnection_spec s_vpn w
      dsimp only
      rw [← honly.visible_eq, ← honly.logLevel_eq]
      generalize validateConnection s_vpn w = r at hvalid ⊢
      obtain ⟨error, w₁⟩ := r
      cases error with
      | some e => exact ⟨[], (List.append_nil _).symm, .refused e⟩
      | none =>
        have hdump : w₁.OnlyTun w₁.tun
            (if logInfo ≤ w₁.gl.logLevel then w₁.emit .connectionDump else w₁) := by
          split
          · exact World.OnlyTun.refl.emit _
          · exact .refl
        have hstart := startOpenconnectBinary_shows hcon hvpn (hvalid.1 rfl) a
          (if logInfo ≤ w₁.gl.logLevel then w₁.emit .connectionDump else w₁)
        rw [hdump.visible_eq, hdump.logLevel_eq] at hstart
        exact hstart

/-- Whatever a Connect spawns is gpclient, with the command line and the environment of a valid
connection. -/
theorem spawn_of_realConnect {connection : NMConnection} {a : ConnectAnswers} {w : World}
    {argv : List CStr} {envp : StrMap}
    (h : .spawn argv envp ∈ w.effects (realConnect connection a w).2) :
    ∃ s_con s_vpn cookie tunName, connection.settingConnection = some s_con ∧
      connection.settingVpn = some s_vpn ∧ validVpn s_vpn = true ∧
      startChecks s_vpn a.version = .ok cookie ∧
      argv = connectArgv s_vpn w.gl.logLevel tunName ∧ envp = connectEnv s_con s_vpn a := by
  obtain ⟨es, hvisible, hshows⟩ := realConnect_shows connection a w
  rw [World.effects_of_visible hvisible] at h
  generalize (realConnect connection a w).1 = ret at hshows
  cases hshows with
  | aborted => cases h
  | refused => cases h
  | launched hcon hvpn hvalid hchecks tunName =>
    refine ⟨_, _, _, tunName, hcon, hvpn, hvalid, hchecks, ?_⟩
    rcases List.mem_cons.1 h with heq | hrest
    · cases heq
      exact ⟨rfl, rfl⟩
    · have hno : ∀ cookie, .spawn argv envp ∉ feedEffects cookie a := by
        intro cookie
        unfold feedEffects
        split <;> simp
      split at hrest
      · cases hrest
      · rcases List.mem_append.1 hrest with hfeed | hwatch
        · exact absurd hfeed (hno _)
        · split at hwatch <;> simp at hwatch

/-- A Connect that succeeds has spawned it. -/
theorem spawn_of_returned {connection : NMConnection} {a : ConnectAnswers} {w : World}
    {error : Option GError} (h : (realConnect connection a w).1 = .returned true error) :
    ∃ s_con s_vpn tunName, connection.settingConnection = some s_con ∧
      connection.settingVpn = some s_vpn ∧
      .spawn (connectArgv s_vpn w.gl.logLevel tunName) (connectEnv s_con s_vpn a) ∈
        w.effects (realConnect connection a w).2 := by
  obtain ⟨es, hvisible, hshows⟩ := realConnect_shows connection a w
  rw [World.effects_of_visible hvisible]
  generalize (realConnect connection a w).1 = ret at hshows h
  cases hshows with
  | aborted => cases h
  | refused => cases h
  | launched hcon hvpn _ _ tunName => exact ⟨_, _, tunName, hcon, hvpn, .head _⟩

end NmGpclient
