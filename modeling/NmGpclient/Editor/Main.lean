import Mathlib.Data.List.Infix
import NmGpclient.Gates

/-!
# The editor

`gpclient_editor_new` fills the widgets from a profile, and `editor_update_connection` writes a new
VPN setting from the widgets; what they do not show is not carried over. An entry holds the text it
was given, a combo box one of its ids. The service type and the timeout of the VPN setting are left
out: no program of the repository reads them.
-/

namespace NmGpclient

/-! ## Widgets -/

/-- A `GtkComboBoxText` whose rows have these ids: the active one, if any. -/
structure ComboBoxText (ids : List CStr) where
  activeId : Option CStr
  mem : ∀ id ∈ activeId, id ∈ ids

namespace ComboBoxText

variable {ids : List CStr}

/-- A combo box without an active row. -/
def new : ComboBoxText ids := ⟨none, nofun⟩

/-- `gtk_combo_box_set_active_id`, which does nothing for an id of no row. -/
def setActiveId (combo : ComboBoxText ids) (id : CStr) : ComboBoxText ids :=
  if h : id ∈ ids then ⟨some id, by rintro _ ⟨⟩; exact h⟩ else combo

end ComboBoxText

/-- The ids of the browser combo box. -/
def browserIds : List CStr :=
  [cstr "default", cstr "firefox", cstr "chrome", cstr "chromium", cstr "remote", cstr "custom"]

/-- The ids of the combo box for the reported OS. -/
def reportedOsIds : List CStr := [cstr "default", cstr "Linux", cstr "Windows", cstr "Mac"]

/-- `GpclientEditor`, with what its widgets show. -/
structure GpclientEditor where
  portalEntry : CStr
  gatewayEntry : CStr
  browserCombo : ComboBoxText browserIds
  browserCustomEntry : CStr
  directGatewayCheck : Bool
  noDtlsCheck : Bool
  clientVersionEntry : CStr
  reportedOsCombo : ComboBoxText reportedOsIds
  ignoreTlsCheck : Bool
  portalModeSupported : Bool

/-! ## Opening a profile -/

/-- `vpn_data`. -/
def vpnData (connection : Option NMConnection) (key : CStr) : Option CStr :=
  (connection.bind NMConnection.settingVpn).bind (·.getDataItem key)

/-- `gpclient_supports_connect_arg`, for what `gpclient connect --help` answers. -/
def gpclientSupportsConnectArg (help : SpawnSync) (arg : String) : Bool :=
  match help with
  | .failed _ _ => false
  | .done status output =>
    wifexited status && wexitstatus status == 0 &&
      output.elim false fun text => decide (cstr arg <:+: text)

/-- `browser_is_known`. -/
def browserIsKnown (browser : CStr) : Bool :=
  [cstr "default", cstr "firefox", cstr "chrome", cstr "chromium", cstr "remote"].contains browser

/-- `new_browser_combo`. -/
def newBrowserCombo (browser : CStr) : ComboBoxText browserIds :=
  ComboBoxText.new.setActiveId (if browserIsKnown browser then browser else cstr "custom")

/-- `gpclient_editor_new`. -/
def gpclientEditorNew (connection : Option NMConnection) (help : SpawnSync) : GpclientEditor :=
  let portalModeSupported := gpclientSupportsConnectArg help "--auto-gateway"
  let directGateway := isYes (vpnData connection Key.asGateway) || !portalModeSupported
  let browser := nonempty (vpnData connection Key.browser)
  let noDtls := (vpnData connection Key.noDtls).or (vpnData connection Key.disableUdp)
  { portalEntry := (vpnData connection Key.portal).getD []
    gatewayEntry := (vpnData connection Key.gateway).getD []
    browserCombo := newBrowserCombo (browser.getD (cstr "default"))
    browserCustomEntry := match browser with
      | some value => if browserIsKnown value then [] else value
      | none => []
    directGatewayCheck := directGateway
    noDtlsCheck := noDtls != some (cstr "no")
    clientVersionEntry := (vpnData connection Key.clientVersion).getD []
    reportedOsCombo := ComboBoxText.new.setActiveId
      ((nonempty (vpnData connection Key.reportedOs)).getD (cstr "default"))
    ignoreTlsCheck := isYes (vpnData connection Key.ignoreTlsErrors)
    portalModeSupported }

/-! ## Saving a profile -/

namespace NMSettingVpn

/-- `nm_setting_vpn_new`. -/
def new : NMSettingVpn := ⟨∅, ∅, fun _ => none⟩

/-- `nm_setting_vpn_add_data_item`. -/
def addDataItem (s_vpn : NMSettingVpn) (key value : CStr) : NMSettingVpn :=
  { s_vpn with data := s_vpn.data.insert key value }

/-- `nm_setting_set_secret_flags`, which keeps the flags of a VPN secret in a data item. -/
def setSecretFlags (s_vpn : NMSettingVpn) (key : CStr) (flags : Nat) : NMSettingVpn :=
  { s_vpn.addDataItem (flagsKey key) (decimal flags) with
    secretFlags := fun k => if k = key then some flags else s_vpn.secretFlags k }

/-- The data item is added when the text is not empty. -/
def addNonempty (s_vpn : NMSettingVpn) (key value : CStr) : NMSettingVpn :=
  if value = [] then s_vpn else s_vpn.addDataItem key value

end NMSettingVpn

/-- The error of the editor: `NMV_EDITOR_PLUGIN_ERROR_MISSING_PROPERTY`, with the key as its
message. -/
structure MissingProperty where
  message : CStr
deriving DecidableEq, Repr

/-- `browser_get_value`. -/
def browserGetValue (editor : GpclientEditor) : CStr :=
  if editor.browserCombo.activeId = some (cstr "custom") then editor.browserCustomEntry
  else editor.browserCombo.activeId.getD []

section
variable (editor : GpclientEditor)

/-- The new VPN setting with the servers and the mode. -/
def serverSetting : NMSettingVpn :=
  let portal := editor.portalEntry
  let gateway := editor.gatewayEntry
  if editor.directGatewayCheck then
    let s_vpn := NMSettingVpn.new.addDataItem Key.gateway (if gateway ≠ [] then gateway else portal)
    (s_vpn.addDataItem Key.asGateway (cstr "yes")).addNonempty Key.portal portal
  else
    let s_vpn := NMSettingVpn.new.addDataItem Key.portal portal
    if gateway ≠ [] then s_vpn.addDataItem Key.gateway gateway
    else s_vpn.addDataItem Key.autoGateway (cstr "yes")

/-- The selected OS is added unless it is the default. -/
def addReportedOs (s_vpn : NMSettingVpn) : NMSettingVpn :=
  match nonempty editor.reportedOsCombo.activeId with
  | some reportedOs =>
    if reportedOs ≠ cstr "default" then s_vpn.addDataItem Key.reportedOs reportedOs else s_vpn
  | none => s_vpn

/-- The new VPN setting of `editor_update_connection`. -/
def editorSetting : NMSettingVpn :=
  let s_vpn := serverSetting editor
  let s_vpn := s_vpn.addNonempty Key.browser (browserGetValue editor)
  let s_vpn := s_vpn.addNonempty Key.clientVersion editor.clientVersionEntry
  let s_vpn := addReportedOs editor s_vpn
  let s_vpn := s_vpn.addDataItem Key.noDtls (if editor.noDtlsCheck then cstr "yes" else cstr "no")
  let s_vpn :=
    if editor.ignoreTlsCheck then s_vpn.addDataItem Key.ignoreTlsErrors (cstr "yes") else s_vpn
  (s_vpn.setSecretFlags Key.cookie nmSettingSecretFlagNotSaved).setSecretFlags Key.gateway
    nmSettingSecretFlagNotSaved

end

/-- `editor_update_connection`. -/
def editorUpdateConnection (editor : GpclientEditor) (connection : NMConnection) :
    Except MissingProperty NMConnection :=
  if editor.directGatewayCheck then
    if editor.gatewayEntry = [] ∧ editor.portalEntry = [] then .error ⟨Key.gateway⟩
    else .ok { connection with settingVpn := some (editorSetting editor) }
  else if editor.portalEntry = [] then .error ⟨Key.portal⟩
  else .ok { connection with settingVpn := some (editorSetting editor) }

end NmGpclient
