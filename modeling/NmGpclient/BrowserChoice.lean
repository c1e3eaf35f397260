import NmGpclient.BrowserHelper
import NmGpclient.Editor.Save

/-!
# The browser that was chosen

The editor stores the browser of a profile, the service hands it to gpclient in `NM_GPCLIENT_BROWSER`
and the helper runs it for the login. The editor stores a custom command as its text, so a text that
the helper has a case for means that case: `browserChoice_honoured_iff` says which texts these are,
and that every other choice of the editor is the browser that opens the login.
-/

namespace NmGpclient

/-- What the editor lets a user choose. -/
inductive BrowserChoice where
  | default
  | firefox
  | chrome
  | chromium
  | remote
  | custom (command : CStr)
deriving DecidableEq, Repr

/-- The choice that the widgets show. -/
def GpclientEditor.browserChoice (editor : GpclientEditor) : BrowserChoice :=
  match editor.browserCombo.activeId with
  | none => .default
  | some id =>
    if id = cstr "firefox" then .firefox
    else if id = cstr "chrome" then .chrome
    else if id = cstr "chromium" then .chromium
    else if id = cstr "remote" then .remote
    else if id = cstr "custom" then .custom editor.browserCustomEntry
    else .default

/-- The launchers of the Firefox installations that are found, in the order of the helper. -/
def installedFirefox (a : BrowserAnswers) : List (List CStr) :=
  (if a.command (cstr "firefox") then [[cstr "firefox"]] else []) ++
    (if a.command (cstr "firefox-esr") then [[cstr "firefox-esr"]] else []) ++
    (if a.command (cstr "snap") && a.snapFirefox then
      [[cstr "snap", cstr "run", cstr "firefox"]] else []) ++
    if a.command (cstr "flatpak") && a.flatpakFirefox then
      [[cstr "flatpak", cstr "run", cstr "org.mozilla.firefox"]] else []

/-- The login is opened as chosen: by one of the desktop's openers, the first Firefox that is
installed, one of the Chromes, Chromium, or the custom command; a login with a browser elsewhere is
refused, and so is one for a Firefox that is not there. -/
def BrowserChoice.Honoured (a : BrowserAnswers) (url : CStr) (exit : BrowserExit) :
    BrowserChoice → Prop
  | .default => ∃ argv envp, exit = .exec argv envp ∧ ∃ program ∈ argv.head?,
      program ∈ [cstr "gdbus", cstr "gio", cstr "xdg-open"]
  | .firefox =>
    match (installedFirefox a).head? with
    | some launcher => ∃ envp, exit = .exec (launcher ++ [url]) envp
    | none => exit = .exited 127
  | .chrome => ∃ program envp, exit = .exec [program, url] envp ∧
      program ∈ [cstr "google-chrome-stable", cstr "google-chrome", cstr "chromium"]
  | .chromium => ∃ envp, exit = .exec [cstr "chromium", url] envp
  | .remote => exit = .exited 2
  | .custom command => ∃ envp, exit = .exec [command, url] envp

/-- The texts of a custom command that mean something else to the helper. -/
def helperWords : List CStr :=
  [[], cstr "default", cstr "auto", cstr "chrome", cstr "remote", cstr "manual"]

/-- The choice reaches the helper as itself: a custom command is no word of the helper's, and
`firefox` is a command. -/
def BrowserChoice.Reaches (a : BrowserAnswers) : BrowserChoice → Prop
  | .custom command => command ∉ helperWords ∧
      (command = cstr "firefox" → a.command (cstr "firefox") = true)
  | _ => True

/-! ## From the editor to the helper -/

/-- What the service puts in `NM_GPCLIENT_BROWSER`. -/
theorem connectEnv_browser (s_con : NMSettingConnection) (s_vpn : NMSettingVpn)
    (a : ConnectAnswers) : (connectEnv s_con s_vpn a).lookup (cstr "NM_GPCLIENT_BROWSER") =
      some ((nonempty (s_vpn.getDataItem Key.browser)).getD (cstr "default")) := by
  unfold connectEnv gpclientEnv
  rw [lookup_environSetenv, if_pos rfl]

/-- What the helper reads is what the widgets show, or `default` for an empty text. -/
def GpclientEditor.browserValue (editor : GpclientEditor) : CStr :=
  if browserGetValue editor = [] then cstr "default" else browserGetValue editor

theorem getD_editorItem_browser (editor : GpclientEditor) :
    (nonempty (editorItem editor Key.browser)).getD (cstr "default") = editor.browserValue := by
  have hitem : editorItem editor Key.browser = nonempty (some (browserGetValue editor)) := if_pos rfl
  rw [hitem, GpclientEditor.browserValue]
  cases browserGetValue editor <;> rfl

theorem browserValue_ne_nil (editor : GpclientEditor) : editor.browserValue ≠ [] := by
  unfold GpclientEditor.browserValue
  split_ifs with h
  · decide
  · exact h

/-- The word that a choice is to the helper. -/
def BrowserChoice.word : BrowserChoice → CStr
  | .default => cstr "default"
  | .firefox => cstr "firefox"
  | .chrome => cstr "chrome"
  | .chromium => cstr "chromium"
  | .remote => cstr "remote"
  | .custom command => if command = [] then cstr "default" else command

/-- The word of the choice is what the helper reads. -/
theorem browserValue_eq (editor : GpclientEditor) :
    editor.browserValue = editor.browserChoice.word := by
  unfold GpclientEditor.browserValue GpclientEditor.browserChoice browserGetValue
  generalize editor.browserCombo = combo
  obtain ⟨activeId, hmem⟩ := combo
  cases activeId with
  | none => rfl
  | some id =>
    have hid := hmem id rfl
    simp only [browserIds, List.mem_cons, List.not_mem_nil, or_false] at hid
    rcases hid with rfl | rfl | rfl | rfl | rfl | rfl
    · rfl
    · rfl
    · rfl
    · rfl
    · rfl
    · rfl

/-! ## What the helper runs -/

theorem firefoxCommand_eq (a : BrowserAnswers) (url : CStr) :
    firefoxCommand a url = (installedFirefox a).head?.map (· ++ [url]) := by
  unfold firefoxCommand installedFirefox
  cases a.command (cstr "firefox") <;> cases a.command (cstr "firefox-esr") <;>
    cases a.command (cstr "snap") && a.snapFirefox <;>
    cases a.command (cstr "flatpak") && a.flatpakFirefox <;> rfl

/-- The desktop's command starts with one of its openers. -/
theorem head_desktopCommand (a : BrowserAnswers) (runtimeDir url : CStr) :
    ∃ program ∈ (desktopCommand a runtimeDir url).head?,
      program ∈ [cstr "gdbus", cstr "gio", cstr "xdg-open"] := by
  unfold desktopCommand
  split_ifs
  · exact ⟨_, rfl, by simp⟩
  · exact ⟨_, rfl, by simp⟩
  · exact ⟨_, rfl, by simp⟩

/-- The desktop's command is no custom one that the helper has a word for. -/
theorem desktopCommand_ne (a : BrowserAnswers) (runtimeDir url : CStr) {command : CStr}
    (h : command ∈ helperWords) : desktopCommand a runtimeDir url ≠ [command, url] := by
  intro heq
  obtain ⟨program, hprogram, hopener⟩ := head_desktopCommand a runtimeDir url
  rw [heq] at hprogram
  obtain rfl : command = program := Option.some.inj hprogram
  have hapart : ∀ word ∈ helperWords, word ∉ [cstr "gdbus", cstr "gio", cstr "xdg-open"] := by decide
  exact hapart command h hopener

theorem chromeCommand_spec (a : BrowserAnswers) (url : CStr) :
    ∃ program, chromeCommand a url = [program, url] ∧
      program ∈ [cstr "google-chrome-stable", cstr "google-chrome", cstr "chromium"] := by
  unfold chromeCommand
  split_ifs
  · exact ⟨_, rfl, by simp⟩
  · exact ⟨_, rfl, by simp⟩
  · exact ⟨_, rfl, by simp⟩

/-- How the helper ends for the words of a command, or a status. -/
def endsWith (envp : StrMap) : Except Nat (List CStr) → BrowserExit
  | .error status => .exited status
  | .ok argv => .exec argv envp

/-- A Firefox that was not chosen by its name is not run by it. -/
theorem honoured_custom_firefox (a : BrowserAnswers) (runtimeDir url : CStr) (envp : StrMap) :
    (BrowserChoice.custom (cstr "firefox")).Honoured a url
        (endsWith envp (browserCommand a runtimeDir (cstr "firefox") url)) ↔
      a.command (cstr "firefox") = true := by
  have hcommand : browserCommand a runtimeDir (cstr "firefox") url =
      match firefoxCommand a url with
      | some argv => .ok argv
      | none => .error 127 := rfl
  rw [hcommand]
  unfold firefoxCommand BrowserChoice.Honoured
  split_ifs with h1 h2 h3 h4
  · exact iff_of_true ⟨envp, rfl⟩ h1
  · refine iff_of_false ?_ h1
    rintro ⟨envp', heq⟩
    have hargv := (BrowserExit.exec.inj heq).1
    revert hargv
    simp +decide
  · refine iff_of_false ?_ h1
    rintro ⟨envp', heq⟩
    have hargv := (BrowserExit.exec.inj heq).1
    simp at hargv
  · refine iff_of_false ?_ h1
    rintro ⟨envp', heq⟩
    have hargv := (BrowserExit.exec.inj heq).1
    simp at hargv
  · refine iff_of_false ?_ h1
    rintro ⟨envp', heq⟩
    cases heq

/-- A choice is honoured exactly when it reaches the helper as itself. -/
theorem honoured_iff (choice : BrowserChoice) (a : BrowserAnswers) (runtimeDir url : CStr)
    (envp : StrMap) :
    choice.Honoured a url (endsWith envp (browserCommand a runtimeDir choice.word url)) ↔
      choice.Reaches a := by
  cases choice with
  | default =>
    exact iff_of_true ⟨_, envp, rfl, head_desktopCommand a runtimeDir url⟩ trivial
  | firefox =>
    refine iff_of_true ?_ trivial
    have hcommand : browserCommand a runtimeDir (cstr "firefox") url =
        match firefoxCommand a url with
        | some argv => .ok argv
        | none => .error 127 := rfl
    unfold BrowserChoice.Honoured
    rw [BrowserChoice.word, hcommand, firefoxCommand_eq]
    cases (installedFirefox a).head? with
    | none => rfl
    | some launcher => exact ⟨envp, rfl⟩
  | chrome =>
    obtain ⟨program, hcommand, hmem⟩ := chromeCommand_spec a url
    have hchrome : browserCommand a runtimeDir (cstr "chrome") url = .ok (chromeCommand a url) := rfl
    refine iff_of_true ⟨program, envp, ?_, hmem⟩ trivial
    rw [BrowserChoice.word, hchrome, hcommand]
    rfl
  | chromium => exact iff_of_true ⟨envp, rfl⟩ trivial
  | remote => exact iff_of_true rfl trivial
  | custom command =>
    by_cases hfirefox : command = cstr "firefox"
    · subst hfirefox
      rw [BrowserChoice.word, if_neg (by decide), honoured_custom_firefox, BrowserChoice.Reaches]
      have hno : cstr "firefox" ∉ helperWords := by decide
      simp [hno]
    · have hreaches : (BrowserChoice.custom command).Reaches a ↔ command ∉ helperWords := by
        simp [BrowserChoice.Reaches, hfirefox]
      rw [hreaches]
      by_cases hword : command ∈ helperWords
      · refine iff_of_false ?_ (not_not.2 hword)
        have hdesktop : ∀ word, browserCommand a runtimeDir word url =
            .ok (desktopCommand a runtimeDir url) →
            ¬∃ envp', endsWith envp (browserCommand a runtimeDir word url) =
              .exec [command, url] envp' := by
          rintro word hcommand ⟨envp', heq⟩
          rw [hcommand] at heq
          exact desktopCommand_ne a runtimeDir url hword (BrowserExit.exec.inj heq).1
        simp only [helperWords, List.mem_cons, List.not_mem_nil, or_false] at hword
        rcases hword with rfl | rfl | rfl | rfl | rfl | rfl
        · exact hdesktop (cstr "default") rfl
        · exact hdesktop (cstr "default") rfl
        · exact hdesktop (cstr "auto") rfl
        · rintro ⟨envp', heq⟩
          obtain ⟨program, hcommand, hmem⟩ := chromeCommand_spec a url
          have hargv : chromeCommand a url = [cstr "chrome", url] := (BrowserExit.exec.inj heq).1
          rw [hcommand] at hargv
          obtain rfl : program = cstr "chrome" := (List.cons.inj hargv).1
          revert hmem
          decide
        · rintro ⟨envp', heq⟩
          cases heq
        · rintro ⟨envp', heq⟩
          cases heq
      · refine iff_of_true ⟨envp, ?_⟩ hword
        simp only [helperWords, List.mem_cons, List.not_mem_nil, or_false, not_or] at hword
        obtain ⟨hnil, hdefault, hauto, hchrome, hremote, hmanual⟩ := hword
        have hcommand : browserCommand a runtimeDir command url = .ok [command, url] := by
          unfold browserCommand
          rw [if_neg (by simp [hnil, hdefault, hauto]), if_neg hfirefox, if_neg hchrome]
          split_ifs with hchromium hother
          · rw [hchromium]
          · exact absurd hother (by simp [hremote, hmanual])
          · rfl
        rw [BrowserChoice.word, if_neg hnil, hcommand]
        rfl

/-! ## End to end -/

/-- The browser that the editor shows when a profile is saved opens the login of a Connect with it,
exactly when the choice reaches the helper as itself.

The saved profile gets its secrets, gpclient is spawned for it, and passes `NM_GPCLIENT_BROWSER` on
to the helper, whose log opens. -/
theorem browserChoice_honoured_iff {editor : GpclientEditor} {connection saved : NMConnection}
    (hsave : editorUpdateConnection editor connection = .ok saved) {activated : NMConnection}
    (hactivated : ∃ secrets s_vpn, saved.settingVpn = some s_vpn ∧
      activated.settingVpn = some { s_vpn with secrets := secrets })
    {a : ConnectAnswers} {w : World} {argv : List CStr} {envp envp' : StrMap}
    (hspawn : .spawn argv envp ∈ w.effects (realConnect activated a w).2)
    (hpassed : envp'.lookup (cstr "NM_GPCLIENT_BROWSER") =
      envp.lookup (cstr "NM_GPCLIENT_BROWSER"))
    {b : BrowserAnswers}
    (hlog : b.opens (expand envp' "NM_GPCLIENT_BROWSER_LOG" (cstr "/dev/null")) = true)
    {url : CStr} (hurl : url ≠ []) (rest : List CStr) :
    editor.browserChoice.Honoured b url (browserHelper (url :: rest) envp' b) ↔
      editor.browserChoice.Reaches b := by
  obtain ⟨-, rfl⟩ := (editorUpdateConnection_ok editor).1 hsave
  obtain ⟨secrets, s_vpn, hsaved, hvpn⟩ := hactivated
  obtain rfl := Option.some.inj hsaved
  obtain ⟨s_con, s_vpn', cookie, tunName, -, hvpn', -, -, -, henv⟩ := spawn_of_realConnect hspawn
  obtain rfl := Option.some.inj (hvpn.symm.trans hvpn')
  have hitem : ({ editorSetting editor with secrets := secrets } : NMSettingVpn).getDataItem
      Key.browser = editorItem editor Key.browser := getDataItem_editorSetting editor Key.browser
  have hset : envp'.lookup (cstr "NM_GPCLIENT_BROWSER") = some editor.browserValue := by
    rw [hpassed, henv, connectEnv_browser, hitem, getD_editorItem_browser]
  have hkept := browserEnv_keeps b envp' (cstr "NM_GPCLIENT_BROWSER") (by decide) _ hset
    (browserValue_ne_nil editor)
  have hbrowser : expand (browserEnv b envp') "NM_GPCLIENT_BROWSER" (cstr "default") =
      editor.browserValue := by
    have hne := browserValue_ne_nil editor
    unfold expand
    rw [hkept]
    cases h : editor.browserValue with
    | nil => exact absurd h hne
    | cons c cs => rfl
  have hexit : browserHelper (url :: rest) envp' b = endsWith (browserEnv b envp')
      (browserCommand b (shellVar (browserEnv b envp') "XDG_RUNTIME_DIR")
        editor.browserChoice.word url) := by
    unfold browserHelper
    simp only [List.headD_cons, if_neg hurl, hbrowser, browserValue_eq, hlog, if_true]
    cases browserCommand b (shellVar (browserEnv b envp') "XDG_RUNTIME_DIR")
      editor.browserChoice.word url with
    | error status => rfl
    | ok argv => rfl
  rw [hexit]
  exact honoured_iff editor.browserChoice b _ url _

/-- An editor with the custom command `auto`. -/
def autoEditor : GpclientEditor :=
  { gpclientEditorNew none (.done 0 (some (cstr "  --auto-gateway  "))) with
    portalEntry := cstr "vpn.example.org"
    browserCombo := newBrowserCombo (cstr "auto")
    browserCustomEntry := cstr "auto" }

/-- Its profile, with a cookie. -/
def autoProfile : NMConnection :=
  { settingConnection := some ⟨none, []⟩
    settingVpn := some { editorSetting autoEditor with
      secrets := AList.singleton Key.cookie (cstr "\x7b\x7d") } }

theorem browserChoice_honoured_auto : ∃ envp, ¬(BrowserChoice.custom (cstr "auto")).Honoured
    bareDesktop (cstr "https://login") (browserHelper [cstr "https://login"] envp bareDesktop) := by
  obtain ⟨_, _, _, -, -, hspawn⟩ := @spawn_of_returned autoProfile startAnswers (.start noDevices)
    none (by decide +kernel)
  have hhonoured := @browserChoice_honoured_iff autoEditor
    { settingConnection := some ⟨none, []⟩, settingVpn := none } _ rfl autoProfile
    ⟨_, _, rfl, rfl⟩ startAnswers (.start noDevices) _ _ _ hspawn rfl bareDesktop rfl
    (cstr "https://login") (by decide) []
  exact ⟨_, mt hhonoured.1 fun hreaches => hreaches.1 (by decide)⟩

end NmGpclient
