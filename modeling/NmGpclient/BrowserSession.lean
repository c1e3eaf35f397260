import NmGpclient.BrowserHelper
import NmGpclient.Lib.Decimal
import NmGpclient.Service.ConnectResult

/-!
# The session of the browser

The service runs as root, without a desktop session. For a connection of one user it gives gpclient
the environment of that user's session, as `build_gpclient_env` guesses it; gpclient passes it to the
browser helper, and the helper completes it without overriding what is set. So the browser joins the
session of the user that the connection is for: `browser_joins_session`.
-/

namespace NmGpclient

/-- The runtime directory of a user. -/
def userRuntimeDir (uid : Nat) : CStr := cstr "/run/user/" ++ decimal uid

/-- The variables that place a program in the session of a user, under Wayland or under X. -/
structure JoinsSession (uid : Nat) (wayland : Bool) (envp : StrMap) : Prop where
  runtimeDir : envp.lookup (cstr "XDG_RUNTIME_DIR") = some (userRuntimeDir uid)
  bus : envp.lookup (cstr "DBUS_SESSION_BUS_ADDRESS") =
    some (cstr "unix:path=" ++ userRuntimeDir uid ++ cstr "/bus")
  display : if wayland then envp.lookup (cstr "WAYLAND_DISPLAY") = some (cstr "wayland-0")
    else envp.lookup (cstr "DISPLAY") = some (cstr ":0")
  sessionType : envp.lookup (cstr "XDG_SESSION_TYPE") =
    some (if wayland then cstr "wayland" else cstr "x11")

/-- Those variables. -/
def sessionNames : List CStr :=
  [cstr "XDG_RUNTIME_DIR", cstr "DBUS_SESSION_BUS_ADDRESS", cstr "WAYLAND_DISPLAY", cstr "DISPLAY",
    cstr "XDG_SESSION_TYPE"]

/-- A program that is passed the variables, and keeps them, joins the session as well. -/
theorem JoinsSession.congr {uid : Nat} {wayland : Bool} {envp envp' : StrMap}
    (h : JoinsSession uid wayland envp) (hkept : ∀ name ∈ sessionNames, ∀ value ≠ [],
      envp.lookup name = some value → envp'.lookup name = some value) :
    JoinsSession uid wayland envp' := by
  obtain ⟨hruntime, hbus, hdisplay, htype⟩ := h
  refine ⟨?_, ?_, ?_, ?_⟩
  · exact hkept _ (by decide) _ (List.append_ne_nil_of_left_ne_nil (by decide) _) hruntime
  · refine hkept _ (by decide) _ ?_ hbus
    exact List.append_ne_nil_of_right_ne_nil _ (by decide)
  · cases wayland with
    | true => exact hkept _ (by decide) _ (by decide) hdisplay
    | false => exact hkept _ (by decide) _ (by decide) hdisplay
  · refine hkept _ (by decide) _ ?_ htype
    split <;> decide

/-! ## The service -/

/-- No path of a user's runtime directory is cut off. -/
theorem length_userRuntimeDir {uid : Nat} (huid : uid < 2 ^ 32) :
    (userRuntimeDir uid).length ≤ 20 := by
  have hdigits := length_cstr_repr (k := 9) (n := uid) (by omega)
  have hprefix : (cstr "/run/user/").length = 10 := by decide
  rw [userRuntimeDir, decimal_natCast, List.length_append, hprefix]
  omega

/-- The environment for the desktop user joins the user's session. -/
theorem desktopEnv_joins {pw : Passwd} (huid : pw.uid < 2 ^ 32) (fileExists : CStr → Bool)
    (environ : StrMap) : JoinsSession pw.uid
      (fileExists (userRuntimeDir pw.uid ++ cstr "/wayland-0"))
      (desktopEnv pw fileExists environ) := by
  have hlength := length_userRuntimeDir huid
  have hruntime : gSnprintf pathMax (userRuntimeDir pw.uid) = userRuntimeDir pw.uid :=
    List.take_of_length_le (by simp only [pathMax]; omega)
  have hbus : gSnprintf (pathMax + 32) (cstr "unix:path=" ++ userRuntimeDir pw.uid ++ cstr "/bus") =
      cstr "unix:path=" ++ userRuntimeDir pw.uid ++ cstr "/bus" := by
    refine List.take_of_length_le ?_
    have hfixed : (cstr "unix:path=").length = 10 ∧ (cstr "/bus").length = 4 := by decide
    simp only [List.length_append, hfixed, pathMax]
    omega
  have hwayland : gSnprintf pathMax (userRuntimeDir pw.uid ++ cstr "/wayland-0") =
      userRuntimeDir pw.uid ++ cstr "/wayland-0" := by
    refine List.take_of_length_le ?_
    have hfixed : (cstr "/wayland-0").length = 10 := by decide
    simp only [List.length_append, hfixed, pathMax]
    omega
  unfold desktopEnv
  rw [← userRuntimeDir]
  dsimp only
  rw [hruntime, hbus, hwayland]
  cases fileExists (userRuntimeDir pw.uid ++ cstr "/wayland-0") with
  | true => constructor <;> simp +decide [lookup_environSetenv]
  | false => constructor <;> (split_ifs <;> simp +decide [lookup_environSetenv])

/-- So does the environment of gpclient when the service runs as root for a connection of the
user. -/
theorem connectEnv_joins {s_con : NMSettingConnection} (s_vpn : NMSettingVpn) {a : ConnectAnswers}
    {item : CStr} {pw : Passwd} (heuid : a.euid = 0) (hitem : desktopPermission s_con = some item)
    (hpw : a.getpwnam item = some pw) (huid : pw.uid < 2 ^ 32) :
    JoinsSession pw.uid (a.fileExists (userRuntimeDir pw.uid ++ cstr "/wayland-0"))
      (connectEnv s_con s_vpn a) := by
  refine (desktopEnv_joins huid a.fileExists a.environ).congr fun name hname value _ hvalue => ?_
  have hapart : ∀ name ∈ sessionNames,
      name ≠ cstr "GP_AUTH_BINARY" ∧ name ≠ cstr "NM_GPCLIENT_BROWSER" := by decide
  unfold connectEnv gpclientEnv buildGpclientEnv
  rw [if_neg (by simp [heuid]), hitem]
  dsimp only
  rw [hpw]
  dsimp only
  rw [lookup_environSetenv, if_neg (hapart name hname).2, lookup_environSetenv,
    if_neg (hapart name hname).1]
  exact hvalue

/-! ## The browser -/

/-- The environment that the helper runs a command in. -/
theorem env_of_exec {args : List CStr} {envp envp' : StrMap} {b : BrowserAnswers}
    {argv : List CStr} (h : browserHelper args envp b = .exec argv envp') :
    envp' = browserEnv b envp := by
  unfold browserHelper at h
  dsimp only at h
  split at h
  · cases h
  · split at h
    · cases h
    · split at h
      · exact (BrowserExit.exec.inj h).2.symm
      · cases h

theorem exec_of_command {envp : StrMap} {b : BrowserAnswers} {url : CStr} {rest argv : List CStr}
    (h : browserCommand b (shellVar (browserEnv b envp) "XDG_RUNTIME_DIR")
      (expand (browserEnv b envp) "NM_GPCLIENT_BROWSER" (cstr "default")) url = .ok argv)
    (hlog : b.opens (expand envp "NM_GPCLIENT_BROWSER_LOG" (cstr "/dev/null")) = true)
    (hurl : url ≠ []) : browserHelper (url :: rest) envp b = .exec argv (browserEnv b envp) := by
  unfold browserHelper
  simp only [List.headD_cons, if_neg hurl, h, hlog, if_true]

/-- The browser of a login joins the session of the user that the connection is for.

The service runs as root and finds the user in the account database, gpclient is spawned for the
connection, and passes the variables on to the helper, which gets to a command. -/
theorem browser_joins_session {connection : NMConnection} {s_con : NMSettingConnection}
    (hcon : connection.settingConnection = some s_con) {a : ConnectAnswers} {item : CStr}
    {pw : Passwd} (heuid : a.euid = 0) (hitem : desktopPermission s_con = some item)
    (hpw : a.getpwnam item = some pw) (huid : pw.uid < 2 ^ 32) {w : World} {argv : List CStr}
    {envp envp' : StrMap} (hspawn : .spawn argv envp ∈ w.effects (realConnect connection a w).2)
    (hpassed : ∀ name ∈ sessionNames, envp'.lookup name = envp.lookup name) {args : List CStr}
    {b : BrowserAnswers} {command : List CStr} {env : StrMap}
    (hexec : browserHelper args envp' b = .exec command env) :
    JoinsSession pw.uid (a.fileExists (userRuntimeDir pw.uid ++ cstr "/wayland-0")) env := by
  obtain ⟨s_con', s_vpn, -, -, hcon', -, -, -, -, rfl⟩ := spawn_of_realConnect hspawn
  obtain rfl := Option.some.inj (hcon.symm.trans hcon')
  rw [env_of_exec hexec]
  refine (connectEnv_joins s_vpn heuid hitem hpw huid).congr fun name hname value hne hvalue => ?_
  have hapart : ∀ name ∈ sessionNames, name ∉ ownedNames := by decide
  refine browserEnv_keeps b envp' name (hapart name hname) value ?_ hne
  rw [hpassed name hname, hvalue]

/-- The profile of a user. -/
def userProfile : NMConnection :=
  { directProfile with settingConnection := some ⟨none, [(cstr "user", cstr "jo")]⟩ }

/-- The account of that user. -/
def userAccount : Passwd := ⟨cstr "jo", 1000, 1000, cstr "/home/jo"⟩

/-- A Connect as root, for a user under Wayland. -/
def rootAnswers : ConnectAnswers :=
  { startAnswers with euid := 0, getpwnam := fun _ => some userAccount, fileExists := fun _ => true }

/-- The environment of gpclient then. -/
def userGpclientEnv : StrMap :=
  connectEnv (userProfile.settingConnection.get rfl) (userProfile.settingVpn.get rfl) rootAnswers

theorem browser_joins_session_user : ∃ env, JoinsSession 1000 true env := by
  obtain ⟨s_con, s_vpn, tunName, hcon, hvpn, hspawn⟩ := @spawn_of_returned userProfile rootAnswers
    (.start noDevices) none (by decide +kernel)
  obtain rfl := Option.some.inj hcon
  obtain rfl := Option.some.inj hvpn
  have hcommand : browserCommand bareDesktop
      (shellVar (browserEnv bareDesktop userGpclientEnv) "XDG_RUNTIME_DIR")
      (expand (browserEnv bareDesktop userGpclientEnv) "NM_GPCLIENT_BROWSER" (cstr "default"))
      (cstr "https://login") = .ok [cstr "xdg-open", cstr "https://login"] := by
    decide +kernel
  exact ⟨_, @browser_joins_session userProfile _ rfl rootAnswers (cstr "jo") userAccount rfl rfl rfl
    (by decide) (.start noDevices) _ _ _ hspawn (fun _ _ => rfl) [cstr "https://login"] bareDesktop
    _ _ (exec_of_command hcommand rfl (by decide))⟩

end NmGpclient
