import NmGpclient.Validate
import NmGpclient.Service.Lock

/-!
# Connect

`real_connect` validates the connection and calls `nm_openconnect_start_openconnect_binary`, which
checks the program, the server and the cookie, creates the TUN device, prepares the lock file,
spawns gpclient and writes the cookie to its standard input. `ConnectExit` lists the ways such a
call ends with what each leaves behind; `realConnect_exit` is the specification that the results
about Connect start from.
-/

namespace NmGpclient

/-- What the calls of `real_connect` answer: the program's version, the effective user and the
account database, the environment of the service, which files exist, the TUN driver, the lock
file, the device destroyed after a refused lock, the spawn, and how much of the cookie and of the
newline the child's standard input takes. -/
structure ConnectAnswers where
  version : SpawnSync
  euid : Nat
  getpwnam : CStr → Option Passwd
  environ : StrMap
  fileExists : CStr → Bool
  tun : TunAnswers
  lock : LockAnswers
  destroy : DestroyAnswers
  spawn : Except GError GPid
  writeCookie : Option Nat
  writeNewline : Option Nat

/-! ## The environment of gpclient -/

/-- `PATH_MAX`. -/
def pathMax : Nat := 4096

/-- What `g_snprintf` leaves in a buffer of `size` bytes. -/
def gSnprintf (size : Nat) (s : CStr) : CStr := s.take (size - 1)

/-- `g_environ_setenv (envp, name, value, TRUE)`. -/
def environSetenv (envp : StrMap) (name : String) (value : CStr) : StrMap :=
  envp.insert (cstr name) value

/-- The permission that names the desktop user: the first of type `user` with a name. -/
def desktopPermission (s_con : NMSettingConnection) : Option CStr :=
  (s_con.permissions.find? fun p => p.1 == cstr "user" && !p.2.isEmpty).map Prod.snd

/-- The environment for the desktop user `pw`. -/
def desktopEnv (pw : Passwd) (fileExists : CStr → Bool) (environ : StrMap) : StrMap :=
  let runtimeDir := gSnprintf pathMax (cstr "/run/user/" ++ decimal pw.uid)
  let dbusAddress := gSnprintf (pathMax + 32) (cstr "unix:path=" ++ runtimeDir ++ cstr "/bus")
  let waylandPath := gSnprintf pathMax (runtimeDir ++ cstr "/wayland-0")
  let xauthority := gSnprintf pathMax (pw.dir ++ cstr "/.Xauthority")
  let envp := environSetenv environ "SUDO_UID" (decimal pw.uid)
  let envp := environSetenv envp "SUDO_GID" (decimal pw.gid)
  let envp := environSetenv envp "SUDO_USER" pw.name
  let envp := environSetenv envp "HOME" pw.dir
  let envp := environSetenv envp "USER" pw.name
  let envp := environSetenv envp "LOGNAME" pw.name
  let envp := environSetenv envp "BROWSER" (cstr "firefox")
  let envp := environSetenv envp "RUST_BACKTRACE" (cstr "1")
  let envp := environSetenv envp "RUST_LIB_BACKTRACE" (cstr "1")
  let envp := environSetenv envp "XDG_RUNTIME_DIR" runtimeDir
  let envp := environSetenv envp "DBUS_SESSION_BUS_ADDRESS" dbusAddress
  if fileExists waylandPath then
    let envp := environSetenv envp "WAYLAND_DISPLAY" (cstr "wayland-0")
    let envp := environSetenv envp "XDG_SESSION_TYPE" (cstr "wayland")
    environSetenv envp "MOZ_ENABLE_WAYLAND" (cstr "1")
  else
    let envp := environSetenv envp "DISPLAY" (cstr ":0")
    let envp := environSetenv envp "XDG_SESSION_TYPE" (cstr "x11")
    if fileExists xauthority then environSetenv envp "XAUTHORITY" xauthority else envp

/-- `build_gpclient_env`: none unless the service runs as root for a connection of one user. -/
def buildGpclientEnv (s_con : NMSettingConnection) (a : ConnectAnswers) (w : World) :
    Option StrMap × World :=
  if a.euid ≠ 0 then (none, w)
  else
    match desktopPermission s_con with
    | none => (none, w)
    | some item =>
      let w := w.emit (.getpwnam item)
      match a.getpwnam item with
      | none => (none, w)
      | some pw =>
        (some (desktopEnv pw a.fileExists a.environ), w.log logNotice
          (cstr "gpclient will use desktop user " ++ pw.name ++ cstr " (" ++ decimal pw.uid ++
            cstr ") for any helper auth"))

/-- The environment gpclient is started with. -/
def gpclientEnv (s_con : NMSettingConnection) (s_vpn : NMSettingVpn) (a : ConnectAnswers)
    (w : World) : StrMap × World :=
  match buildGpclientEnv s_con a w with
  | (envp, w) =>
    let envp := environSetenv (envp.getD a.environ) "GP_AUTH_BINARY" gpauthBinary
    (environSetenv envp "NM_GPCLIENT_BROWSER"
      ((nonempty (s_vpn.getDataItem Key.browser)).getD (cstr "default")), w)

/-! ## Starting gpclient -/

/-- The checks made before anything is acquired: the error, or the cookie. -/
def startChecks (s_vpn : NMSettingVpn) (version : SpawnSync) : Except GError CStr :=
  match nmGpclientCheckVersion (cstr "gpclient") version with
  | some error => .error error
  | none =>
    if noGateway s_vpn then .error (launchFailed (cstr "No VPN gateway specified."))
    else
      match propsCookie s_vpn with
      | none => .error (launchFailed (cstr "No gpclient authentication JSON provided."))
      | some cookie => .ok cookie

/-- The newline that follows the cookie. -/
def newline : List UInt8 := [10]

/-- Both writes to the standard input of gpclient are complete. -/
def ConnectAnswers.feeds (a : ConnectAnswers) (cookie : CStr) : Bool :=
  write cookie a.writeCookie == some cookie.length && write newline a.writeNewline == some 1

/-- The cookie and a newline are written to the standard input of the child: whether both writes
are complete, and the bytes that arrive. -/
def feedCookie (cookie : CStr) (a : ConnectAnswers) (w : World) :
    (Bool × List UInt8) × World :=
  let w := w.emit (.write cookie)
  if write cookie a.writeCookie ≠ some cookie.length then
    ((false, written cookie a.writeCookie), w)
  else
    let w := w.emit (.write newline)
    ((write newline a.writeNewline == some 1,
      written cookie a.writeCookie ++ written newline a.writeNewline), w)

/-- A child is spawned. -/
def World.addChild (w : World) (c : Child) : World := { w with children := w.children ++ [c] }

/-- `priv->pid` is set for a new session. -/
def World.setPid (w : World) (pid : GPid) : World :=
  { w with priv := { w.priv with pid := pid, disconnectRequested := false } }

/-- `nm_openconnect_start_openconnect_binary` from the lock file on, for a command line that is
complete. -/
def launchGpclient (argv : List CStr) (envp : StrMap) (cookie : CStr) (a : ConnectAnswers)
    (w : World) : (Int × Option GError) × World :=
  match prepareGpclientLock a.lock w with
  | (some error, w) =>
    let w := match w.priv.tunName with
      | some n => (destroyPersistentTundev n a.destroy w).setTunName none
      | none => w
    ((-1, some error), w)
  | (none, w) =>
    let w := w.emit (.spawn argv envp)
    match a.spawn with
    | .error error => ((-1, some error), w.log logWarning
        (cstr "gpclient failed to start.  error: '" ++ error.message ++ cstr "'"))
    | .ok pid =>
      let w := w.log logNotice (cstr "gpclient started with pid " ++ decimal pid)
      match feedCookie cookie a w with
      | ((false, stdin), w) =>
        -- the function returns with neither the pid recorded, nor a child watch, nor an error
        ((-1, none), (w.addChild ⟨pid, stdin, false⟩).log logWarning
          (cstr "gpclient didn't read the authentication JSON we fed it"))
      | ((true, stdin), w) =>
        let w := ((w.emit .closeStdin).setPid pid).emit (.addChildWatch pid)
        ((0, none), w.addChild ⟨pid, stdin, true⟩)

/-- `nm_openconnect_start_openconnect_binary`: what it returns, the error it sets, and the state it
leaves. -/
def startOpenconnectBinary (s_con : NMSettingConnection) (s_vpn : NMSettingVpn)
    (a : ConnectAnswers) (w : World) : (Int × Option GError) × World :=
  let w := w.emit (.spawnSync [gpclientBinary, cstr "--version"])
  match startChecks s_vpn a.version with
  | .error error => ((-1, some error), w)
  | .ok cookie =>
    match gpclientEnv s_con s_vpn a w with
    | (envp, w) =>
      match createPersistentTundev s_con.interfaceName a.tun w with
      | ((none, some error), w) => ((-1, some error), w.setTunName none)
      | ((tunName, _), w) =>
        let argv := (gpclientArgv s_vpn w.gl.logLevel tunName).map Word.bytes
        launchGpclient argv envp cookie a (w.setTunName tunName)

/-! ## `real_connect` -/

/-- How `real_connect` ends: an assertion fails, or it returns. -/
inductive ConnectReturn where
  | aborted
  | returned (ret : Bool) (error : Option GError)
deriving DecidableEq, Repr

/-- The warnings about unknown properties. -/
def logUnknown (info : ValidateInfo) (w : World) : World :=
  info.unknown.foldl
    (fun w key => w.log logWarning (cstr "property '" ++ key ++ cstr "' unknown")) w

/-- The validation of the VPN setting: the error, if any. -/
def validateConnection (s_vpn : NMSettingVpn) (w : World) : Option GError × World :=
  match validateAuthSecretFlags s_vpn with
  | some error => (some error, w)
  | none =>
    let properties := nmOpenconnectPropertiesValidate s_vpn
    let w := logUnknown properties w
    match properties.error with
    | some error => (some error, w)
    | none =>
      let secrets := nmOpenconnectSecretsValidate s_vpn
      (secrets.error, logUnknown secrets w)

/-- `real_connect`. -/
def realConnect (connection : NMConnection) (a : ConnectAnswers) (w : World) :
    ConnectReturn × World :=
  match connection.settingConnection with
  | none => (.aborted, w)
  | some s_con =>
    match connection.settingVpn with
    | none => (.aborted, w)
    | some s_vpn =>
      match validateConnection s_vpn w with
      | (some error, w) => (.returned false (some error), w)
      | (none, w) =>
        let w := if logInfo ≤ w.gl.logLevel then w.emit .connectionDump else w
        match startOpenconnectBinary s_con s_vpn a w with
        | ((openconnectFd, error), w) => (.returned (openconnectFd == 0) error, w)

/-! ## How a Connect ends -/

/-- What a Connect goes on with when every check before the TUN device passes: the interface name
the connection suggests, and the cookie. -/
structure Request where
  interfaceName : Option IfName
  cookie : CStr
deriving DecidableEq

/-- The VPN setting passes the validation of `real_connect`. -/
def validVpn (s_vpn : NMSettingVpn) : Bool :=
  (validateAuthSecretFlags s_vpn).isNone && (nmOpenconnectPropertiesValidate s_vpn).error.isNone &&
    (nmOpenconnectSecretsValidate s_vpn).error.isNone

/-- The request of a Connect that gets as far as the TUN device. -/
def request (connection : NMConnection) (version : SpawnSync) : Option Request :=
  match connection.settingConnection, connection.settingVpn with
  | some s_con, some s_vpn =>
    if validVpn s_vpn then
      match startChecks s_vpn version with
      | .ok cookie => some ⟨s_con.interfaceName, cookie⟩
      | .error _ => none
    else none
  | _, _ => none

/-- The checks pass with the cookie of the setting. -/
theorem propsCookie_of_startChecks {s_vpn : NMSettingVpn} {version : SpawnSync} {cookie : CStr}
    (h : startChecks s_vpn version = .ok cookie) : propsCookie s_vpn = some cookie := by
  unfold startChecks at h
  split at h
  · cases h
  · split at h
    · cases h
    · split at h
      · cases h
      next c hc => cases h; exact hc

/-- A request is that of a valid VPN setting that passes the checks. -/
theorem request_eq_some {connection : NMConnection} {version : SpawnSync} {req : Request} :
    request connection version = some req ↔ ∃ s_con s_vpn,
      connection.settingConnection = some s_con ∧ connection.settingVpn = some s_vpn ∧
      validVpn s_vpn = true ∧ startChecks s_vpn version = .ok req.cookie ∧
      s_con.interfaceName = req.interfaceName := by
  obtain ⟨interfaceName, cookie⟩ := req
  unfold request
  cases connection.settingConnection with
  | none => simp
  | some s_con =>
    cases connection.settingVpn with
    | none => simp
    | some s_vpn =>
      cases hvalid : validVpn s_vpn with
      | false => simp [hvalid]
      | true => cases hchecks : startChecks s_vpn version <;> simp [hvalid, hchecks, and_comm]

/-- From `w` to `w'` the data of the plugin, the children and the devices became `priv`, `children`
and `t`. The trace grew and the owner of the devices may have been looked up. -/
def World.Leaves (w : World) (priv : Priv) (children : List Child) (t : TunTable IfName)
    (w' : World) : Prop :=
  ∃ es owner group, w' = { w with
    priv := priv, children := children, tun := t, trace := w.trace ++ es,
    gl := { w.gl with tunOwner := owner, tunGroup := group } }

theorem World.OnlyTun.leaves {w w' : World} {t : TunTable IfName} (h : w.OnlyTun t w') :
    w.Leaves w.priv w.children t w' := by
  obtain ⟨es, owner, group, -, rfl⟩ := h
  exact ⟨es, owner, group, rfl⟩

theorem World.Leaves.onlyTun {w w' w'' : World} {priv : Priv} {cs : List Child}
    {t t' : TunTable IfName} (h : w.Leaves priv cs t w') (h' : w'.OnlyTun t' w'') :
    w.Leaves priv cs t' w'' := by
  obtain ⟨es, owner, group, rfl⟩ := h
  obtain ⟨es', owner', group', -, rfl⟩ := h'
  exact ⟨es ++ es', owner', group', by simp⟩

theorem World.Leaves.emit {w w' : World} {priv : Priv} {cs : List Child} {t : TunTable IfName}
    (h : w.Leaves priv cs t w') (e : Effect) : w.Leaves priv cs t (w'.emit e) := by
  obtain ⟨es, owner, group, rfl⟩ := h
  exact ⟨es ++ [e], owner, group, by simp [World.emit]⟩

theorem World.Leaves.log {w w' : World} {priv : Priv} {cs : List Child} {t : TunTable IfName}
    (h : w.Leaves priv cs t w') (level : Nat) (line : CStr) :
    w.Leaves priv cs t (w'.log level line) := by
  unfold World.log
  split
  · exact h.emit _
  · exact h

theorem World.Leaves.setTunName {w w' : World} {priv : Priv} {cs : List Child}
    {t : TunTable IfName} (h : w.Leaves priv cs t w') (n : Option IfName) :
    w.Leaves { priv with tunName := n } cs t (w'.setTunName n) := by
  obtain ⟨es, owner, group, rfl⟩ := h
  exact ⟨es, owner, group, rfl⟩

theorem World.Leaves.setPid {w w' : World} {priv : Priv} {cs : List Child} {t : TunTable IfName}
    (h : w.Leaves priv cs t w') (pid : GPid) :
    w.Leaves { priv with pid := pid, disconnectRequested := false } cs t (w'.setPid pid) := by
  obtain ⟨es, owner, group, rfl⟩ := h
  exact ⟨es, owner, group, rfl⟩

theorem World.Leaves.addChild {w w' : World} {priv : Priv} {cs : List Child} {t : TunTable IfName}
    (h : w.Leaves priv cs t w') (c : Child) : w.Leaves priv (cs ++ [c]) t (w'.addChild c) := by
  obtain ⟨es, owner, group, rfl⟩ := h
  exact ⟨es, owner, group, rfl⟩

section
variable (a : ConnectAnswers) (w : World)

/-- The exits of `nm_openconnect_start_openconnect_binary` after the TUN device, for the name and
the devices that `create_persistent_tundev` left. -/
inductive LaunchExit (cookie : CStr) (tunName : Option IfName) (t : TunTable IfName) :
    Int × Option GError → World → Prop
  | locked (hlock : lockFree a.lock = false) (e : GError) {w' : World}
      (h : w.Leaves { w.priv with tunName := none } w.children
        (tunName.elim t fun n => destroyed t n a.destroy) w') :
      LaunchExit cookie tunName t (-1, some e) w'
  | notSpawned (hlock : lockFree a.lock = true) {e : GError} (hspawn : a.spawn = .error e)
      {w' : World} (h : w.Leaves { w.priv with tunName := tunName } w.children t w') :
      LaunchExit cookie tunName t (-1, some e) w'
  | unfed (hlock : lockFree a.lock = true) {pid : GPid} (hspawn : a.spawn = .ok pid)
      (hfeed : a.feeds cookie = false) (stdin : List UInt8) {w' : World}
      (h : w.Leaves { w.priv with tunName := tunName } (w.children ++ [⟨pid, stdin, false⟩]) t w') :
      LaunchExit cookie tunName t (-1, none) w'
  | started (hlock : lockFree a.lock = true) {pid : GPid} (hspawn : a.spawn = .ok pid)
      (hfeed : a.feeds cookie = true) {w' : World}
      (h : w.Leaves { w.priv with tunName := tunName, pid := pid, disconnectRequested := false }
        (w.children ++ [⟨pid, cookie ++ newline, true⟩]) t w') :
      LaunchExit cookie tunName t (0, none) w'

/-- The exits of `real_connect`, for the request of the call. -/
inductive ConnectExit : Option Request → ConnectReturn → World → Prop
  | aborted : ConnectExit none .aborted w
  | rejected (e : GError) {w' : World} (h : w.Leaves w.priv w.children w.tun w') :
      ConnectExit none (.returned false (some e)) w'
  | noTun {req : Request} {e : GError} {t : TunTable IfName}
      (hcreate : CreateSpec req.interfaceName a.tun w.tun (none, some e) t) {w' : World}
      (h : w.Leaves { w.priv with tunName := none } w.children t w') :
      ConnectExit (some req) (.returned false (some e)) w'
  | launched {req : Request} {tunName : Option IfName} {t : TunTable IfName}
      (hcreate : CreateSpec req.interfaceName a.tun w.tun (tunName, none) t)
      {fd : Int} {error : Option GError} {w' : World}
      (h : LaunchExit a w req.cookie tunName t (fd, error) w') :
      ConnectExit (some req) (.returned (fd == 0) error) w'

end

/-- Feeding the cookie leaves the bytes that the two writes delivered. -/
theorem feedCookie_spec (cookie : CStr) (a : ConnectAnswers) {w w' : World} {priv : Priv}
    {cs : List Child} {t : TunTable IfName} (h : w.Leaves priv cs t w') :
    (feedCookie cookie a w').1.1 = a.feeds cookie ∧
      (a.feeds cookie = true → (feedCookie cookie a w').1.2 = cookie ++ newline) ∧
      w.Leaves priv cs t (feedCookie cookie a w').2 := by
  unfold feedCookie ConnectAnswers.feeds
  by_cases hc : write cookie a.writeCookie = some cookie.length
  · simp only [hc, ne_eq, not_true_eq_false, if_false, BEq.rfl, Bool.true_and]
    refine ⟨trivial, fun hn => ?_, (h.emit _).emit _⟩
    rw [written_of_write hc, written_of_write (beq_iff_eq.1 hn)]
  · have hne : (write cookie a.writeCookie == some cookie.length) = false := by simpa using hc
    simp only [ne_eq, hc, not_false_eq_true, if_true, hne, Bool.false_and]
    exact ⟨trivial, by simp, h.emit _⟩

/-- From the lock file on, for the device that was created. -/
theorem launchGpclient_exit {argv : List CStr} {envp : StrMap} {cookie : CStr}
    {a : ConnectAnswers} {w w' : World} {tunName : Option IfName} {t : TunTable IfName}
    (h : w.Leaves { w.priv with tunName := tunName } w.children t w') :
    LaunchExit a w cookie tunName t (launchGpclient argv envp cookie a w').1
      (launchGpclient argv envp cookie a w').2 := by
  have hname : w'.priv.tunName = tunName := by
    obtain ⟨_, _, _, rfl⟩ := h
    rfl
  have htun : w'.tun = t := by
    obtain ⟨_, _, _, rfl⟩ := h
    rfl
  obtain ⟨hfree, honly⟩ := prepareGpclientLock_spec a.lock w'
  unfold launchGpclient
  generalize prepareGpclientLock a.lock w' = r at hfree honly
  obtain ⟨error, w₁⟩ := r
  have hleft := h.onlyTun honly
  cases error with
  | some e =>
    have hlock : lockFree a.lock = false := by
      by_contra hl
      exact absurd (hfree.2 (by simpa using hl)) (by simp)
    have hname₁ : w₁.priv.tunName = tunName := by rw [honly.priv_eq, hname]
    dsimp only
    rw [hname₁]
    cases tunName with
    | none => exact .locked hlock e (by simpa [htun] using hleft)
    | some n =>
      have hdestroy := hleft.onlyTun (destroyPersistentTundev_spec n a.destroy w₁)
      rw [honly.tun_eq, htun] at hdestroy
      exact .locked hlock e (hdestroy.setTunName none)
  | none =>
    have hlock : lockFree a.lock = true := hfree.1 rfl
    rw [htun] at hleft
    dsimp only
    cases hspawn : a.spawn with
    | error e => exact .notSpawned hlock hspawn ((hleft.emit _).log _ _)
    | ok pid =>
      dsimp only
      have hspawned := (hleft.emit (.spawn argv envp)).log logNotice
        (cstr "gpclient started with pid " ++ decimal pid)
      obtain ⟨hfed, hstdin, hfeed⟩ := feedCookie_spec cookie a hspawned
      generalize feedCookie cookie a _ = r at hfed hstdin hfeed
      obtain ⟨⟨fed, stdin⟩, w₂⟩ := r
      cases fed with
      | false => exact .unfed hlock hspawn hfed.symm stdin ((hfeed.addChild _).log _ _)
      | true =>
        obtain rfl : stdin = cookie ++ newline := hstdin hfed.symm
        exact .started hlock hspawn hfed.symm ((((hfeed.emit _).setPid pid).emit _).addChild _)

/-- Building the environment only looks up an account and logs. -/
theorem gpclientEnv_spec (s_con : NMSettingConnection) (s_vpn : NMSettingVpn) (a : ConnectAnswers)
    (w : World) : w.OnlyTun w.tun (gpclientEnv s_con s_vpn a w).2 := by
  unfold gpclientEnv buildGpclientEnv
  by_cases heuid : a.euid ≠ 0
  · simp only [if_pos heuid]
    exact .refl
  · simp only [if_neg heuid]
    cases desktopPermission s_con with
    | none => exact .refl
    | some item =>
      dsimp only
      cases a.getpwnam item with
      | none => exact World.OnlyTun.refl.emit _
      | some pw => exact (World.OnlyTun.refl.emit _).log _ _

/-- A command line is started once the checks pass. -/
theorem startOpenconnectBinary_exit (s_con : NMSettingConnection) (s_vpn : NMSettingVpn)
    (a : ConnectAnswers) {w w' : World} (h : w.OnlyTun w.tun w') :
    ConnectExit a w (match startChecks s_vpn a.version with
        | .ok cookie => some ⟨s_con.interfaceName, cookie⟩
        | .error _ => none)
      (.returned ((startOpenconnectBinary s_con s_vpn a w').1.1 == 0)
        (startOpenconnectBinary s_con s_vpn a w').1.2)
      (startOpenconnectBinary s_con s_vpn a w').2 := by
  have hversion := h.emit (.spawnSync [gpclientBinary, cstr "--version"])
  unfold startOpenconnectBinary
  dsimp only
  generalize w'.emit (.spawnSync [gpclientBinary, cstr "--version"]) = w₁ at hversion ⊢
  cases startChecks s_vpn a.version with
  | error e => exact .rejected e hversion.leaves
  | ok cookie =>
    have henv := hversion.trans ((hversion.tun_eq ▸ gpclientEnv_spec s_con s_vpn a w₁))
    dsimp only
    generalize gpclientEnv s_con s_vpn a w₁ = r at henv ⊢
    obtain ⟨envp, w₂⟩ := r
    obtain ⟨t, hcreate, htun⟩ := createPersistentTundev_spec s_con.interfaceName a.tun w₂
    have hleft := henv.leaves.onlyTun htun
    rw [henv.tun_eq] at hcreate
    dsimp only
    generalize createPersistentTundev s_con.interfaceName a.tun w₂ = r at hcreate hleft ⊢
    obtain ⟨⟨tunName, error⟩, w₃⟩ := r
    have hnamed := hleft.setTunName tunName
    cases hcreate with
    | noUser hpw => exact .launched (.noUser hpw) (launchGpclient_exit hnamed)
    | refused hpw ho e => exact .noTun (.refused hpw ho e) hnamed
    | leaked hpw ho hn hs e hne hself hper =>
      exact .noTun (.leaked hpw ho hn hs e hne hself hper) hnamed
    | created hpw ho hn how hp =>
      exact .launched (.created hpw ho hn how hp) (launchGpclient_exit hnamed)

/-- Logging unknown properties only logs. -/
theorem logUnknown_spec (info : ValidateInfo) {t : TunTable IfName} {w w' : World}
    (h : w.OnlyTun t w') : w.OnlyTun t (logUnknown info w') := by
  unfold logUnknown
  generalize info.unknown = keys
  induction keys generalizing w' with
  | nil => exact h
  | cons key keys ih => exact ih (h.log _ _)

/-- The validation fails with an error exactly when the setting is not valid, and only logs. -/
theorem validateConnection_spec (s_vpn : NMSettingVpn) (w : World) :
    ((validateConnection s_vpn w).1 = none ↔ validVpn s_vpn = true) ∧
      w.OnlyTun w.tun (validateConnection s_vpn w).2 := by
  unfold validateConnection validVpn
  cases hflags : validateAuthSecretFlags s_vpn with
  | some e => exact ⟨by simp, .refl⟩
  | none =>
    have hlogged := logUnknown_spec (nmOpenconnectPropertiesValidate s_vpn)
      (World.OnlyTun.refl (w := w))
    dsimp only
    cases hprops : (nmOpenconnectPropertiesValidate s_vpn).error with
    | some e => exact ⟨by simp, hlogged⟩
    | none => exact ⟨by simp, logUnknown_spec _ hlogged⟩

/-- Every call of `real_connect` ends in one of the listed ways. -/
theorem realConnect_exit (connection : NMConnection) (a : ConnectAnswers) (w : World) :
    ConnectExit a w (request connection a.version) (realConnect connection a w).1
      (realConnect connection a w).2 := by
  unfold realConnect request
  cases connection.settingConnection with
  | none => exact .aborted
  | some s_con =>
    cases connection.settingVpn with
    | none => exact .aborted
    | some s_vpn =>
      obtain ⟨hvalid, honly⟩ := validateConnection_spec s_vpn w
      dsimp only
      generalize validateConnection s_vpn w = r at hvalid honly ⊢
      obtain ⟨error, w₁⟩ := r
      cases error with
      | some e =>
        have hnot : validVpn s_vpn = false := by
          by_contra hv
          exact absurd (hvalid.2 (by simpa using hv)) (by simp)
        rw [hnot]
        exact .rejected e honly.leaves
      | none =>
        rw [hvalid.1 rfl, if_pos rfl]
        have hdump : w.OnlyTun w.tun
            (if logInfo ≤ w₁.gl.logLevel then w₁.emit .connectionDump else w₁) := by
          split
          · exact honly.emit _
          · exact honly
        exact startOpenconnectBinary_exit s_con s_vpn a hdump

end NmGpclient
