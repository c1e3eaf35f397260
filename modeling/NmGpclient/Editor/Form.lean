import NmGpclient.Editor.Reopen
import NmGpclient.Lib.Reachability

/-!
# The form on the screen

The widgets of the editor act on one another: the handlers of their signals decide which of them
accept input. `editorForm` is the machine of what a user can do to them, from `gpclient_editor_new`
on. `EditorForm.Consistent` says that what accepts input follows from what the widgets show, so that
the machine is that of the shown values (`formProjection`), and `editor_reaches_iff` which values a
user can get to from an opened profile: all of them, but that without the portal mode of gpclient the
connection stays direct and the portal as it is, and that no row can be unselected.
-/

namespace NmGpclient

/-! ## The widgets -/

/-- What the widgets show, which of them are sensitive and visible, and how often `changed` was
emitted. The widgets that are left out are always sensitive. -/
structure EditorForm where
  editor : GpclientEditor
  portalSensitive : Bool
  portalVisible : Bool
  gatewaySensitive : Bool
  directGatewaySensitive : Bool
  browserCustomSensitive : Bool
  changed : Nat

/-- What a user does: an entry gets another text, a row is selected, a box is checked or unchecked.
GTK signals no more than these. -/
inductive FormEvent where
  | portal (text : CStr)
  | gateway (text : CStr)
  | directGateway
  | browser (row : { id // id ∈ browserIds })
  | browserCustom (text : CStr)
  | clientVersion (text : CStr)
  | reportedOs (row : { id // id ∈ reportedOsIds })
  | noDtls
  | ignoreTls

namespace EditorForm

variable (form : EditorForm)

/-- `emit_changed`. -/
def emitChanged : EditorForm := { form with changed := form.changed + 1 }

/-- `browser_update_sensitivity`. -/
def browserUpdateSensitivity : EditorForm :=
  { form with
    browserCustomSensitive := form.editor.browserCombo.activeId == some (cstr "custom") }

/-- `browser_changed`. -/
def browserChanged : EditorForm := form.browserUpdateSensitivity.emitChanged

/-- `direct_gateway_toggled`. -/
def directGatewayToggled : EditorForm :=
  let directGateway := form.editor.directGatewayCheck
  emitChanged { form with
    portalSensitive := form.editor.portalModeSupported && !directGateway
    gatewaySensitive := true }

/-- `gpclient_editor_new`. -/
def new (connection : Option NMConnection) (help : SpawnSync) : EditorForm :=
  let editor := gpclientEditorNew connection help
  browserUpdateSensitivity
    { editor
      portalSensitive := editor.portalModeSupported && !editor.directGatewayCheck
      portalVisible := editor.portalModeSupported
      gatewaySensitive := true
      directGatewaySensitive := editor.portalModeSupported
      browserCustomSensitive := true
      changed := 0 }

end EditorForm

/-- The widgets after what a user does, before the handlers. -/
def FormEvent.edit (editor : GpclientEditor) : FormEvent → GpclientEditor
  | .portal text => { editor with portalEntry := text }
  | .gateway text => { editor with gatewayEntry := text }
  | .directGateway => { editor with directGatewayCheck := !editor.directGatewayCheck }
  | .browser row => { editor with browserCombo := editor.browserCombo.setActiveId row }
  | .browserCustom text => { editor with browserCustomEntry := text }
  | .clientVersion text => { editor with clientVersionEntry := text }
  | .reportedOs row => { editor with reportedOsCombo := editor.reportedOsCombo.setActiveId row }
  | .noDtls => { editor with noDtlsCheck := !editor.noDtlsCheck }
  | .ignoreTls => { editor with ignoreTlsCheck := !editor.ignoreTlsCheck }

/-- The form after the handler of the signal. -/
def FormEvent.step (form : EditorForm) (e : FormEvent) : EditorForm :=
  let form := { form with editor := e.edit form.editor }
  match e with
  | .directGateway => form.directGatewayToggled
  | .browser _ => form.browserChanged
  | _ => form.emitChanged

/-- A widget takes input while it is sensitive and visible, and the input is a change. -/
def FormEvent.enabled (form : EditorForm) : FormEvent → Prop
  | .portal text => form.portalSensitive = true ∧ form.portalVisible = true ∧
      text ≠ form.editor.portalEntry
  | .gateway text => form.gatewaySensitive = true ∧ text ≠ form.editor.gatewayEntry
  | .directGateway => form.directGatewaySensitive = true
  | .browser row => form.editor.browserCombo.activeId ≠ some row
  | .browserCustom text => form.browserCustomSensitive = true ∧
      text ≠ form.editor.browserCustomEntry
  | .clientVersion text => text ≠ form.editor.clientVersionEntry
  | .reportedOs row => form.editor.reportedOsCombo.activeId ≠ some row
  | .noDtls => True
  | .ignoreTls => True

/-- The form as a user works on it. -/
def editorForm : Machine EditorForm FormEvent := ⟨FormEvent.enabled, FormEvent.step⟩

/-! ## What the widgets show decides what they accept -/

/-- The sensitivities follow from what the widgets show. -/
structure EditorForm.Consistent (form : EditorForm) : Prop where
  portal : form.portalSensitive =
    (form.editor.portalModeSupported && !form.editor.directGatewayCheck)
  visible : form.portalVisible = form.editor.portalModeSupported
  gateway : form.gatewaySensitive = true
  directGateway : form.directGatewaySensitive = form.editor.portalModeSupported
  browserCustom : form.browserCustomSensitive =
    (form.editor.browserCombo.activeId == some (cstr "custom"))

theorem EditorForm.consistent_new (connection : Option NMConnection) (help : SpawnSync) :
    (EditorForm.new connection help).Consistent := ⟨rfl, rfl, rfl, rfl, rfl⟩

theorem EditorForm.Consistent.step {form : EditorForm} (h : form.Consistent) (e : FormEvent) :
    (e.step form).Consistent := by
  obtain ⟨hportal, hvisible, hgateway, hdirect, hcustom⟩ := h
  cases e with
  | directGateway => exact ⟨rfl, hvisible, rfl, hdirect, hcustom⟩
  | browser row => exact ⟨hportal, hvisible, hgateway, hdirect, rfl⟩
  | _ => exact ⟨hportal, hvisible, hgateway, hdirect, hcustom⟩

/-- What a user can change, by what the widgets show. -/
def FormEvent.Offered (editor : GpclientEditor) : FormEvent → Prop
  | .portal text => editor.portalModeSupported = true ∧ editor.directGatewayCheck = false ∧
      text ≠ editor.portalEntry
  | .gateway text => text ≠ editor.gatewayEntry
  | .directGateway => editor.portalModeSupported = true
  | .browser row => editor.browserCombo.activeId ≠ some row
  | .browserCustom text => editor.browserCombo.activeId = some (cstr "custom") ∧
      text ≠ editor.browserCustomEntry
  | .clientVersion text => text ≠ editor.clientVersionEntry
  | .reportedOs row => editor.reportedOsCombo.activeId ≠ some row
  | .noDtls => True
  | .ignoreTls => True

/-- The machine of what the widgets show. -/
def editing : Machine GpclientEditor FormEvent := ⟨FormEvent.Offered, FormEvent.edit⟩

/-- A form is what its widgets show. -/
def formProjection : Machine.Projection editorForm editing where
  I := EditorForm.Consistent
  view := EditorForm.editor
  preserved _ e h _ := h.step e
  enabled_iff form e h := by
    obtain ⟨hportal, hvisible, hgateway, hdirect, hcustom⟩ := h
    cases e with
    | portal text =>
      simp only [editorForm, editing, FormEvent.enabled, FormEvent.Offered, hportal, hvisible,
        Bool.and_eq_true, Bool.not_eq_true']
      tauto
    | gateway text =>
      simp only [editorForm, editing, FormEvent.enabled, FormEvent.Offered, hgateway, true_and]
    | directGateway => simp only [editorForm, editing, FormEvent.enabled, FormEvent.Offered, hdirect]
    | browserCustom text =>
      simp only [editorForm, editing, FormEvent.enabled, FormEvent.Offered, hcustom, beq_iff_eq]
    | _ => exact Iff.rfl
  step_view form e := by cases e <;> rfl

/-! ## What a user can get to -/

namespace ComboBoxText

variable {ids : List CStr}

theorem activeId_setActiveId (combo : ComboBoxText ids) (row : { id // id ∈ ids }) :
    (combo.setActiveId row).activeId = some row.1 := by
  unfold setActiveId
  rw [dif_pos row.2]

theorem eq_of_activeId {combo combo' : ComboBoxText ids} (h : combo.activeId = combo'.activeId) :
    combo = combo' := by
  obtain ⟨id, hmem⟩ := combo
  obtain ⟨id', hmem'⟩ := combo'
  obtain rfl : id = id' := h
  rfl

/-- A combo box with an active row is what any other becomes by the selection of the row. -/
theorem exists_row {combo : ComboBoxText ids} (h : combo.activeId.isSome) :
    ∃ row : { id // id ∈ ids }, combo.activeId = some row.1 ∧
      ∀ combo' : ComboBoxText ids, combo'.setActiveId row = combo := by
  obtain ⟨id, hid⟩ := Option.isSome_iff_exists.1 h
  refine ⟨⟨id, combo.mem id hid⟩, hid, fun combo' => eq_of_activeId ?_⟩
  rw [hid]
  exact combo'.activeId_setActiveId ⟨id, combo.mem id hid⟩

end ComboBoxText

/-- What a user can make of the values of `opened`. -/
structure GpclientEditor.Offers (opened editor : GpclientEditor) : Prop where
  supported : editor.portalModeSupported = opened.portalModeSupported
  /-- without the portal mode the widgets of the portal take no input -/
  fixed : opened.portalModeSupported = false →
    editor.directGatewayCheck = opened.directGatewayCheck ∧ editor.portalEntry = opened.portalEntry
  /-- no row is unselected -/
  browser : opened.browserCombo.activeId.isSome → editor.browserCombo.activeId.isSome
  reportedOs : opened.reportedOsCombo.activeId.isSome → editor.reportedOsCombo.activeId.isSome

section
variable {opened editor : GpclientEditor}

theorem GpclientEditor.Offers.refl : opened.Offers opened :=
  ⟨rfl, fun _ => ⟨rfl, rfl⟩, id, id⟩

/-- What is offered stays offered. -/
theorem GpclientEditor.Offers.edit (h : opened.Offers editor) {e : FormEvent}
    (he : e.Offered editor) : opened.Offers (e.edit editor) := by
  obtain ⟨hsupported, hfixed, hbrowser, hos⟩ := h
  have hno : editor.portalModeSupported = true → opened.portalModeSupported ≠ false := by
    rw [hsupported]
    simp
  cases e with
  | portal text => exact ⟨hsupported, fun h => absurd h (hno he.1), hbrowser, hos⟩
  | directGateway => exact ⟨hsupported, fun h => absurd h (hno he), hbrowser, hos⟩
  | browser row =>
    refine ⟨hsupported, hfixed, fun _ => ?_, hos⟩
    exact Option.isSome_iff_exists.2 ⟨_, editor.browserCombo.activeId_setActiveId row⟩
  | reportedOs row =>
    refine ⟨hsupported, hfixed, hbrowser, fun _ => ?_⟩
    exact Option.isSome_iff_exists.2 ⟨_, editor.reportedOsCombo.activeId_setActiveId row⟩
  | _ => exact ⟨hsupported, hfixed, hbrowser, hos⟩

end

/-! ### One widget after the other -/

section
variable (editor : GpclientEditor)

theorem reaches_portal (hsupported : editor.portalModeSupported = true)
    (hdirect : editor.directGatewayCheck = false) (text : CStr) :
    editing.Reaches editor { editor with portalEntry := text } :=
  .of_change (.portal text) fun hne => ⟨⟨hsupported, hdirect, fun h => hne (by rw [h])⟩, rfl⟩

theorem reaches_gateway (text : CStr) :
    editing.Reaches editor { editor with gatewayEntry := text } :=
  .of_change (.gateway text) fun hne => ⟨fun h => hne (by rw [h]), rfl⟩

theorem reaches_directGateway (hsupported : editor.portalModeSupported = true) (active : Bool) :
    editing.Reaches editor { editor with directGatewayCheck := active } := by
  refine .of_change .directGateway fun hne => ⟨hsupported, ?_⟩
  have hflip : (!editor.directGatewayCheck) = active := Bool.not_eq.2 fun h => hne (by rw [← h])
  exact congrArg (fun b => { editor with directGatewayCheck := b }) hflip

theorem reaches_browser {combo : ComboBoxText browserIds} (h : combo.activeId.isSome) :
    editing.Reaches editor { editor with browserCombo := combo } := by
  obtain ⟨row, hrow, hset⟩ := ComboBoxText.exists_row h
  refine .of_change (.browser row) fun hne => ⟨fun hactive => hne ?_, ?_⟩
  · rw [ComboBoxText.eq_of_activeId (hrow.trans hactive.symm)]
  · exact congrArg (fun c => { editor with browserCombo := c }) (hset editor.browserCombo)

theorem reaches_browserCustom (hcustom : editor.browserCombo.activeId = some (cstr "custom"))
    (text : CStr) : editing.Reaches editor { editor with browserCustomEntry := text } :=
  .of_change (.browserCustom text) fun hne => ⟨⟨hcustom, fun h => hne (by rw [h])⟩, rfl⟩

theorem reaches_clientVersion (text : CStr) :
    editing.Reaches editor { editor with clientVersionEntry := text } :=
  .of_change (.clientVersion text) fun hne => ⟨fun h => hne (by rw [h]), rfl⟩

/-- A row is selected, unless none is and none was. -/
theorem reaches_reportedOs {combo : ComboBoxText reportedOsIds}
    (h : editor.reportedOsCombo.activeId.isSome → combo.activeId.isSome) :
    editing.Reaches editor { editor with reportedOsCombo := combo } := by
  by_cases hsome : combo.activeId.isSome
  · obtain ⟨row, hrow, hset⟩ := ComboBoxText.exists_row hsome
    refine .of_change (.reportedOs row) fun hne => ⟨fun hactive => hne ?_, ?_⟩
    · rw [ComboBoxText.eq_of_activeId (hrow.trans hactive.symm)]
    · exact congrArg (fun c => { editor with reportedOsCombo := c }) (hset editor.reportedOsCombo)
  · have hnone := Option.not_isSome_iff_eq_none.1 hsome
    have hnone' := Option.not_isSome_iff_eq_none.1 (mt h hsome)
    rw [ComboBoxText.eq_of_activeId (hnone.trans hnone'.symm)]
    exact .refl

theorem reaches_noDtls (active : Bool) :
    editing.Reaches editor { editor with noDtlsCheck := active } := by
  refine .of_change .noDtls fun hne => ⟨trivial, ?_⟩
  have hflip : (!editor.noDtlsCheck) = active := Bool.not_eq.2 fun h => hne (by rw [← h])
  exact congrArg (fun b => { editor with noDtlsCheck := b }) hflip

theorem reaches_ignoreTls (active : Bool) :
    editing.Reaches editor { editor with ignoreTlsCheck := active } := by
  refine .of_change .ignoreTls fun hne => ⟨trivial, ?_⟩
  have hflip : (!editor.ignoreTlsCheck) = active := Bool.not_eq.2 fun h => hne (by rw [← h])
  exact congrArg (fun b => { editor with ignoreTlsCheck := b }) hflip

end

/-! ### All of them -/

section
variable {opened editor : GpclientEditor}

/-- The servers and the mode: with the portal mode by leaving the direct mode for the portal, and
without it they are fixed but for the gateway. -/
theorem reaches_servers (h : opened.Offers editor) : editing.Reaches opened { opened with
    portalEntry := editor.portalEntry
    gatewayEntry := editor.gatewayEntry
    directGatewayCheck := editor.directGatewayCheck } := by
  cases hsupported : opened.portalModeSupported with
  | true =>
    have hleave := reaches_directGateway opened hsupported false
    have hportal := reaches_portal { opened with directGatewayCheck := false } hsupported rfl
      editor.portalEntry
    have hgateway := reaches_gateway { opened with
      directGatewayCheck := false, portalEntry := editor.portalEntry } editor.gatewayEntry
    have hdirect := reaches_directGateway { opened with
      directGatewayCheck := false, portalEntry := editor.portalEntry,
      gatewayEntry := editor.gatewayEntry } hsupported editor.directGatewayCheck
    have hall := ((hleave.trans hportal).trans hgateway).trans hdirect
    rw [hsupported] at hall
    exact hall
  | false =>
    obtain ⟨hdirect, hportal⟩ := h.fixed hsupported
    have hgateway := reaches_gateway opened editor.gatewayEntry
    rw [hsupported] at hgateway
    rw [hdirect, hportal]
    exact hgateway

/-- The browser: a custom command is entered while `custom` is selected. -/
theorem reaches_browsers (opened : GpclientEditor) {combo : ComboBoxText browserIds}
    (h : combo.activeId.isSome) (command : CStr) : editing.Reaches opened { opened with
      browserCombo := combo
      browserCustomEntry := command } := by
  obtain ⟨custom, hcustom⟩ : ∃ c : ComboBoxText browserIds, c.activeId = some (cstr "custom") :=
    ⟨_, setActiveId_of_mem (by decide)⟩
  have hselect := reaches_browser opened (Option.isSome_iff_exists.2 ⟨_, hcustom⟩)
  have henter := reaches_browserCustom { opened with browserCombo := custom } hcustom command
  have hback := reaches_browser { opened with
    browserCombo := custom, browserCustomEntry := command } h
  exact (hselect.trans henter).trans hback

/-- A user gets to exactly what is offered. -/
theorem editing_reaches_iff (hopened : opened.browserCombo.activeId.isSome) :
    editing.Reaches opened editor ↔ opened.Offers editor := by
  constructor
  · intro h
    exact h.preserved (P := opened.Offers) (fun _ _ hoffers he => hoffers.edit he) .refl
  · intro h
    have hservers := reaches_servers h
    have hbrowsers := reaches_browsers { opened with
      portalEntry := editor.portalEntry, gatewayEntry := editor.gatewayEntry,
      directGatewayCheck := editor.directGatewayCheck } (h.browser hopened)
      editor.browserCustomEntry
    have hversion := reaches_clientVersion { editor with
      clientVersionEntry := opened.clientVersionEntry, reportedOsCombo := opened.reportedOsCombo,
      noDtlsCheck := opened.noDtlsCheck, ignoreTlsCheck := opened.ignoreTlsCheck }
      editor.clientVersionEntry
    have hos := reaches_reportedOs { editor with
      reportedOsCombo := opened.reportedOsCombo, noDtlsCheck := opened.noDtlsCheck,
      ignoreTlsCheck := opened.ignoreTlsCheck } h.reportedOs
    have hdtls := reaches_noDtls { editor with
      noDtlsCheck := opened.noDtlsCheck, ignoreTlsCheck := opened.ignoreTlsCheck } editor.noDtlsCheck
    have htls := reaches_ignoreTls { editor with ignoreTlsCheck := opened.ignoreTlsCheck }
      editor.ignoreTlsCheck
    have hfirst := hservers.trans hbrowsers
    rw [← h.supported] at hfirst
    exact (((hfirst.trans hversion).trans hos).trans hdtls).trans htls

end

/-- The values that a user can get the widgets of an opened profile to show. -/
theorem editor_reaches_iff (connection : Option NMConnection) (help : SpawnSync)
    (editor : GpclientEditor) :
    (∃ form, editorForm.Reaches (.new connection help) form ∧ form.editor = editor) ↔
      (gpclientEditorNew connection help).Offers editor := by
  have hopened : (gpclientEditorNew connection help).browserCombo.activeId.isSome :=
    Option.isSome_iff_exists.2 ⟨_, activeId_newBrowserCombo _⟩
  rw [← editing_reaches_iff hopened]
  exact (formProjection.reaches_iff (EditorForm.consistent_new connection help) editor).symm

/-! ## Without the portal mode -/

/-- Whatever a user does in the editor while gpclient has no portal mode, the profile that is saved
keeps the portal it had, and every Connect with it goes directly to the gateway that was entered, or
to the portal as the gateway. gpclient sees `--auto-gateway` or `--gateway` only where the widgets,
or the TUN device, have that very text. -/
theorem editor_without_portalMode {connection : Option NMConnection} {help : SpawnSync}
    (hhelp : gpclientSupportsConnectArg help "--auto-gateway" = false) {form : EditorForm}
    (hform : editorForm.Reaches (.new connection help) form) {target saved : NMConnection}
    (hsave : editorUpdateConnection form.editor target = .ok saved) :
    ∃ s_vpn, saved.settingVpn = some s_vpn ∧
      s_vpn.getDataItem Key.portal = nonempty (vpnData connection Key.portal) ∧
      ∀ authJson logLevel tunName,
        cstr "--as-gateway" ∈ seen (savedArgv s_vpn authJson logLevel tunName) ∧
        (∀ arg ∈ ["--auto-gateway", "--gateway"],
          cstr arg ∈ seen (savedArgv s_vpn authJson logLevel tunName) ↔
            cstr arg ∈ shownTexts form.editor tunName) ∧
        valueAfter "connect" (seen (savedArgv s_vpn authJson logLevel tunName)) =
          some (if form.editor.gatewayEntry = [] then (vpnData connection Key.portal).getD []
            else form.editor.gatewayEntry) := by
  have hopened : (gpclientEditorNew connection help).browserCombo.activeId.isSome :=
    Option.isSome_iff_exists.2 ⟨_, activeId_newBrowserCombo _⟩
  have hreaches := (formProjection.reaches_iff (EditorForm.consistent_new connection help) _).2
    ⟨form, hform, rfl⟩
  obtain ⟨hdirect, hportal⟩ := ((editing_reaches_iff hopened).1 hreaches).fixed hhelp
  have hdirect' : form.editor.directGatewayCheck = true := by
    refine hdirect.trans ?_
    simp [gpclientEditorNew, hhelp]
  have hportal' : form.editor.portalEntry = (vpnData connection Key.portal).getD [] := hportal
  obtain ⟨hcomplete, rfl⟩ := (editorUpdateConnection_ok form.editor).1 hsave
  refine ⟨_, rfl, ?_, fun authJson logLevel tunName => ?_⟩
  · rw [getDataItem_editorSetting, (editorItem_server form.editor).2.2.1, hdirect', if_pos rfl,
      hportal', nonempty_getD]
  · have hshows := showsWidgets form.editor hcomplete authJson logLevel tunName
    have hserver : editorServer form.editor = if form.editor.gatewayEntry = [] then
        (vpnData connection Key.portal).getD [] else form.editor.gatewayEntry := by
      unfold editorServer
      rw [hdirect', hportal']
      by_cases hg : form.editor.gatewayEntry = [] <;> simp [hg]
    have hauto := hshows.autoGateway
    have hgateway := hshows.gateway
    rw [ShowsOption, hdirect', hshows.texts] at hauto hgateway
    refine ⟨hshows.asGateway.2 (.inl hdirect'), ?_, hshows.server.trans (congrArg some hserver)⟩
    simp only [List.forall_mem_cons, List.not_mem_nil, false_imp_iff, implies_true, and_true]
    exact ⟨hauto.trans (by simp), hgateway.trans (by simp)⟩

theorem editor_without_portalMode_gateway : ∃ s_vpn, s_vpn.getDataItem Key.portal = none ∧
    ∀ arg ∈ ["--auto-gateway", "--gateway"],
      cstr arg ∉ seen (savedArgv s_vpn (cstr "\x7b\x7d") logNotice none) := by
  obtain ⟨s_vpn, -, hportal, hargv⟩ := @editor_without_portalMode none (.done 0 none) rfl _
    ⟨[.gateway (cstr "vpn.example.com")], ⟨⟨rfl, by decide⟩, trivial⟩, rfl⟩ directProfile _ rfl
  refine ⟨s_vpn, hportal, fun arg harg => ?_⟩
  rw [(hargv _ _ _).2.1 arg harg]
  revert arg
  decide +kernel

end NmGpclient
