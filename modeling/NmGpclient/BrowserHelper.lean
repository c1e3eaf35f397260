import NmGpclient.Service.Spawned

/-!
# The browser helper

gpclient is started with `--browser nm-gpclient-browser-helper`, a shell script that opens the URL of
a login in the desktop session of the user. It completes the environment, picks the command for the
browser that `NM_GPCLIENT_BROWSER` names and replaces itself with it; its output goes to
`NM_GPCLIENT_BROWSER_LOG`. What the script asks the system is an argument, `exec` is its result.

The shell is dash: `exec` runs its first word, whatever that is. In another shell a browser text
that begins with `-` may be an option of `exec`: bash takes `-a`, `-c` and `-l`, and POSIX a first
`--`. `export NAME=$value` keeps the value whole, as POSIX has it for declaration utilities. The
block that writes the log is left out, but for whether the log opens: a redirection that fails ends
the shell at `exec`.
-/

namespace NmGpclient

/-- What the system answers the helper: the user and its entry in the account database, less the
newline, which paths are sockets and which are readable, the expansion of a pattern for file names,
which commands the exported `PATH` finds, whether the package managers know of Firefox, and whether
a file opens for appending. -/
structure BrowserAnswers where
  uid : Nat
  passwdEntry : CStr
  isSocket : CStr → Bool
  isReadable : CStr → Bool
  glob : CStr → List CStr
  command : CStr → Bool
  snapFirefox : Bool
  flatpakFirefox : Bool
  opens : CStr → Bool

/-- How the helper ends: it exits, its log cannot be opened for the browser's output, or it becomes
a command in an environment. -/
inductive BrowserExit where
  | exited (status : Nat)
  | redirectionFailed
  | exec (argv : List CStr) (envp : StrMap)
deriving DecidableEq

/-- `$NAME`. -/
def shellVar (envp : StrMap) (name : String) : CStr := (envp.lookup (cstr name)).getD []

/-- `${NAME:-word}`. -/
def expand (envp : StrMap) (name : String) (word : CStr) : CStr :=
  (nonempty (envp.lookup (cstr name))).getD word

/-- `cut -d: -fN`, which prints a line without a colon whole. -/
def cutColon (field : Nat) (line : CStr) : CStr :=
  if 58 ∈ line then (line.splitOn 58).getD (field - 1) [] else line

/-- `[ -n "$value" ] || value=other`. -/
def orElse (value other : CStr) : CStr := if value = [] then other else value

/-! ## The environment -/

/-- `export NAME=${NAME:-word}`. -/
def exportDefault (envp : StrMap) (name : String) (word : CStr) : StrMap :=
  environSetenv envp name (expand envp name word)

/-- The variables for the user. -/
def userEnv (a : BrowserAnswers) (envp : StrMap) : StrMap :=
  let user := orElse (cutColon 1 a.passwdEntry) (expand envp "USER" (expand envp "LOGNAME" []))
  let home := orElse (orElse (cutColon 6 a.passwdEntry) (expand envp "HOME" []))
    (cstr "/home/" ++ user)
  let envp := environSetenv envp "HOME" home
  let envp := environSetenv envp "USER" user
  let envp := environSetenv envp "LOGNAME" user
  environSetenv envp "USERNAME" user

/-- The variables for the session. -/
def sessionEnv (a : BrowserAnswers) (envp : StrMap) : StrMap :=
  let envp := exportDefault envp "XDG_RUNTIME_DIR" (cstr "/run/user/" ++ decimal a.uid)
  let envp := exportDefault envp "DBUS_SESSION_BUS_ADDRESS"
    (cstr "unix:path=" ++ shellVar envp "XDG_RUNTIME_DIR" ++ cstr "/bus")
  let envp := exportDefault envp "XDG_DATA_DIRS"
    (cstr "/usr/local/share:/usr/share:/var/lib/snapd/desktop")
  let envp := exportDefault envp "XDG_CONFIG_HOME" (shellVar envp "HOME" ++ cstr "/.config")
  let envp := exportDefault envp "XDG_DATA_HOME" (shellVar envp "HOME" ++ cstr "/.local/share")
  environSetenv envp "PATH" (expand envp "PATH" (cstr "/usr/local/bin:/usr/bin:/bin") ++ cstr ":" ++
    shellVar envp "HOME" ++ cstr "/.local/bin:/usr/local/sbin:/usr/local/bin:/usr/sbin:" ++
    cstr "/usr/bin:/sbin:/bin:/usr/games:/usr/local/games:/snap/bin")

/-- The variables for the display. -/
def displayEnv (a : BrowserAnswers) (envp : StrMap) : StrMap :=
  if a.isSocket (shellVar envp "XDG_RUNTIME_DIR" ++ cstr "/wayland-0") then
    let envp := exportDefault envp "WAYLAND_DISPLAY" (cstr "wayland-0")
    let envp := exportDefault envp "DISPLAY" (cstr ":0")
    let envp := exportDefault envp "XDG_SESSION_TYPE" (cstr "wayland")
    exportDefault envp "MOZ_ENABLE_WAYLAND" (cstr "1")
  else
    let envp := exportDefault envp "DISPLAY" (cstr ":0")
    exportDefault envp "XDG_SESSION_TYPE" (cstr "x11")

/-- `XAUTHORITY`: the first readable file of the session, unless it is set. -/
def xauthorityEnv (a : BrowserAnswers) (envp : StrMap) : StrMap :=
  if expand envp "XAUTHORITY" [] = [] then
    match (a.glob (shellVar envp "XDG_RUNTIME_DIR" ++ cstr "/.mutter-Xwaylandauth.*")).find?
        a.isReadable with
    | some candidate => environSetenv envp "XAUTHORITY" candidate
    | none => envp
  else envp

/-- The environment of the browser. -/
def browserEnv (a : BrowserAnswers) (envp : StrMap) : StrMap :=
  xauthorityEnv a (displayEnv a (sessionEnv a (userEnv a envp)))

/-! ## The command -/

/-- The call of the desktop portal. -/
def portalCall (url : CStr) : List CStr :=
  [cstr "gdbus", cstr "call", cstr "--session", cstr "--dest",
    cstr "org.freedesktop.portal.Desktop", cstr "--object-path",
    cstr "/org/freedesktop/portal/desktop", cstr "--method",
    cstr "org.freedesktop.portal.OpenURI.OpenURI", [], url, cstr "\x7b\x7d"]

/-- The command of the desktop's own choice. -/
def desktopCommand (a : BrowserAnswers) (runtimeDir url : CStr) : List CStr :=
  if a.command (cstr "gdbus") && a.isSocket (runtimeDir ++ cstr "/bus") then portalCall url
  else if a.command (cstr "gio") then [cstr "gio", cstr "open", url]
  else [cstr "xdg-open", url]

/-- The command of an installed Firefox. -/
def firefoxCommand (a : BrowserAnswers) (url : CStr) : Option (List CStr) :=
  if a.command (cstr "firefox") then some [cstr "firefox", url]
  else if a.command (cstr "firefox-esr") then some [cstr "firefox-esr", url]
  else if a.command (cstr "snap") && a.snapFirefox then
    some [cstr "snap", cstr "run", cstr "firefox", url]
  else if a.command (cstr "flatpak") && a.flatpakFirefox then
    some [cstr "flatpak", cstr "run", cstr "org.mozilla.firefox", url]
  else none

/-- The command for Chrome. -/
def chromeCommand (a : BrowserAnswers) (url : CStr) : List CStr :=
  if a.command (cstr "google-chrome-stable") then [cstr "google-chrome-stable", url]
  else if a.command (cstr "google-chrome") then [cstr "google-chrome", url]
  else [cstr "chromium", url]

/-- The `case` on the browser: the words of the command, or the status to exit with. -/
def browserCommand (a : BrowserAnswers) (runtimeDir browser url : CStr) : Except Nat (List CStr) :=
  if browser = [] ∨ browser = cstr "default" ∨ browser = cstr "auto" then
    .ok (desktopCommand a runtimeDir url)
  else if browser = cstr "firefox" then
    match firefoxCommand a url with
    | some argv => .ok argv
    | none => .error 127
  else if browser = cstr "chrome" then .ok (chromeCommand a url)
  else if browser = cstr "chromium" then .ok [cstr "chromium", url]
  else if browser = cstr "remote" ∨ browser = cstr "manual" then .error 2
  else .ok [browser, url]

/-- The script `nm-gpclient-browser-helper`, with its arguments and its environment. -/
def browserHelper (args : List CStr) (envp : StrMap) (a : BrowserAnswers) : BrowserExit :=
  let log := expand envp "NM_GPCLIENT_BROWSER_LOG" (cstr "/dev/null")
  let url := args.headD []
  if url = [] then .exited 2
  else
    let envp := browserEnv a envp
    let browser := expand envp "NM_GPCLIENT_BROWSER" (cstr "default")
    match browserCommand a (shellVar envp "XDG_RUNTIME_DIR") browser url with
    | .error status => .exited status
    | .ok argv => if a.opens log then .exec argv envp else .redirectionFailed

/-! ## The URL is one word of the command -/

/-- Which command is run, or with which status the helper exits, does not depend on the URL, and the
URL is one word of the command, after the program. -/
theorem browserCommand_url (a : BrowserAnswers) (runtimeDir browser : CStr) :
    (∃ program pre post, ∀ url,
        browserCommand a runtimeDir browser url = .ok (program :: pre ++ url :: post)) ∨
      ∃ status, ∀ url, browserCommand a runtimeDir browser url = .error status := by
  unfold browserCommand
  split_ifs with hdefault hfirefox hchrome hchromium hremote
  · left
    unfold desktopCommand portalCall
    split_ifs
    · exact ⟨_, [_, _, _, _, _, _, _, _, _], [_], fun _ => rfl⟩
    · exact ⟨_, [_], [], fun _ => rfl⟩
    · exact ⟨_, [], [], fun _ => rfl⟩
  · unfold firefoxCommand
    split_ifs
    · exact .inl ⟨_, [], [], fun _ => rfl⟩
    · exact .inl ⟨_, [], [], fun _ => rfl⟩
    · exact .inl ⟨_, [_, _], [], fun _ => rfl⟩
    · exact .inl ⟨_, [_, _], [], fun _ => rfl⟩
    · exact .inr ⟨127, fun _ => rfl⟩
  · left
    unfold chromeCommand
    split_ifs
    · exact ⟨_, [], [], fun _ => rfl⟩
    · exact ⟨_, [], [], fun _ => rfl⟩
    · exact ⟨_, [], [], fun _ => rfl⟩
  · exact .inl ⟨_, [], [], fun _ => rfl⟩
  · exact .inr ⟨2, fun _ => rfl⟩
  · exact .inl ⟨_, [], [], fun _ => rfl⟩

/-- The URL of a login decides nothing: for the same environment and answers, every URL is opened by
the same command, as one word of it and after the program, in the same environment; or none is
opened, and the helper ends in the same way. -/
theorem browserHelper_url (envp : StrMap) (a : BrowserAnswers) :
    (∃ program pre post envp', ∀ url rest, url ≠ [] →
        browserHelper (url :: rest) envp a = .exec (program :: pre ++ url :: post) envp') ∨
      ∃ exit, (∀ argv envp', exit ≠ .exec argv envp') ∧
        ∀ url rest, url ≠ [] → browserHelper (url :: rest) envp a = exit := by
  unfold browserHelper
  rcases browserCommand_url a (shellVar (browserEnv a envp) "XDG_RUNTIME_DIR")
    (expand (browserEnv a envp) "NM_GPCLIENT_BROWSER" (cstr "default")) with
    ⟨program, pre, post, hcommand⟩ | ⟨status, hcommand⟩
  · cases hlog : a.opens (expand envp "NM_GPCLIENT_BROWSER_LOG" (cstr "/dev/null")) with
    | true =>
      refine .inl ⟨program, pre, post, browserEnv a envp, fun url rest hurl => ?_⟩
      simp only [List.headD_cons, if_neg hurl, hcommand, hlog, if_true]
    | false =>
      refine .inr ⟨.redirectionFailed, nofun, fun url rest hurl => ?_⟩
      simp only [List.headD_cons, if_neg hurl, hcommand, hlog, Bool.false_eq_true, if_false]
  · refine .inr ⟨.exited status, nofun, fun url rest hurl => ?_⟩
    simp only [List.headD_cons, if_neg hurl, hcommand]

/-- A desktop without browsers where every file opens. -/
def bareDesktop : BrowserAnswers where
  uid := 1000
  passwdEntry := cstr "jo:x:1000:1000::/home/jo:/bin/sh"
  isSocket := fun _ => false
  isReadable := fun _ => false
  glob := fun _ => []
  command := fun _ => false
  snapFirefox := false
  flatpakFirefox := false
  opens := fun _ => true

example : ∃ envp, browserHelper [cstr "https://login"] ∅ bareDesktop =
    .exec [cstr "xdg-open", cstr "https://login"] envp := ⟨_, rfl⟩

/-! ## What is set stays set -/

/-- The variables that the helper sets whatever they were. -/
def ownedNames : List CStr :=
  [cstr "HOME", cstr "USER", cstr "LOGNAME", cstr "USERNAME", cstr "PATH"]

/-- Every variable that is set and not empty keeps its value, but for those. -/
def KeepsSet (envp envp' : StrMap) : Prop :=
  ∀ name ∉ ownedNames, ∀ value, envp.lookup name = some value → value ≠ [] →
    envp'.lookup name = some value

section
variable {envp envp' envp'' : StrMap}

theorem KeepsSet.refl : KeepsSet envp envp := fun _ _ _ h _ => h

theorem KeepsSet.trans (h : KeepsSet envp envp') (h' : KeepsSet envp' envp'') :
    KeepsSet envp envp'' := by
  intro name hname value hvalue hne
  exact h' name hname value (h name hname value hvalue hne) hne

/-- One of the variables that the helper sets whatever they were. -/
theorem KeepsSet.setOwned (h : KeepsSet envp envp') {name : String} (hname : cstr name ∈ ownedNames)
    (value : CStr) : KeepsSet envp (environSetenv envp' name value) := by
  refine h.trans fun key hkey v hv _ => ?_
  rw [lookup_environSetenv, if_neg (by rintro rfl; exact hkey hname), hv]

/-- A variable that is set to its own value, or to a default. -/
theorem KeepsSet.exportDefault (h : KeepsSet envp envp') (name : String) (word : CStr) :
    KeepsSet envp (exportDefault envp' name word) := by
  refine h.trans fun key _ v hv hne => ?_
  unfold NmGpclient.exportDefault expand
  rw [lookup_environSetenv]
  split_ifs with hkey
  · rw [← hkey, hv]
    cases v with
    | nil => exact absurd rfl hne
    | cons b bs => rfl
  · exact hv

theorem userEnv_keeps (a : BrowserAnswers) (envp : StrMap) : KeepsSet envp (userEnv a envp) :=
  (((KeepsSet.refl.setOwned (by decide) _).setOwned (by decide) _).setOwned (by decide) _).setOwned
    (by decide) _

theorem sessionEnv_keeps (a : BrowserAnswers) (envp : StrMap) :
    KeepsSet envp (sessionEnv a envp) :=
  (((((KeepsSet.refl.exportDefault _ _).exportDefault _ _).exportDefault _ _).exportDefault _
    _).exportDefault _ _).setOwned (by decide) _

theorem displayEnv_keeps (a : BrowserAnswers) (envp : StrMap) :
    KeepsSet envp (displayEnv a envp) := by
  unfold displayEnv
  split_ifs
  · exact (((KeepsSet.refl.exportDefault _ _).exportDefault _ _).exportDefault _ _).exportDefault _ _
  · exact (KeepsSet.refl.exportDefault _ _).exportDefault _ _

theorem xauthorityEnv_keeps (a : BrowserAnswers) (envp : StrMap) :
    KeepsSet envp (xauthorityEnv a envp) := by
  unfold xauthorityEnv
  split_ifs with hunset
  · split
    · intro key _ v hv hne
      rw [lookup_environSetenv, if_neg ?_, hv]
      rintro rfl
      -- the variable is set, so the search was not made
      unfold expand at hunset
      rw [hv] at hunset
      cases v with
      | nil => exact hne rfl
      | cons b bs => cases hunset
    · exact .refl
  · exact .refl

/-- The helper overrides no variable that is set, but for the user's own. -/
theorem browserEnv_keeps (a : BrowserAnswers) (envp : StrMap) : KeepsSet envp (browserEnv a envp) :=
  ((userEnv_keeps a envp).trans (sessionEnv_keeps a _)).trans
    ((displayEnv_keeps a _).trans (xauthorityEnv_keeps a _))

end

end NmGpclient
