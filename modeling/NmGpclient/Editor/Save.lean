import NmGpclient.Editor.Main

/-!
# What a saved profile means

The editor, the auth dialog and the service have to agree on the meaning of the keys that the editor
writes. `editorItem` is what the new setting has for each key; from it follow the words of the
command line that the service builds once the dialog has added its two secrets.
-/

namespace NmGpclient

/-! ## The items -/

section
variable (s_vpn : NMSettingVpn) (key k v : CStr)

theorem getDataItem_addDataItem : (s_vpn.addDataItem k v).getDataItem key =
    if key = k then some v else s_vpn.getDataItem key := by
  unfold NMSettingVpn.addDataItem NMSettingVpn.getDataItem
  split
  next h => rw [h, AList.lookup_insert]
  next h => rw [AList.lookup_insert_ne h]

theorem getDataItem_addNonempty : (s_vpn.addNonempty k v).getDataItem key =
    if key = k ∧ v ≠ [] then some v else s_vpn.getDataItem key := by
  unfold NMSettingVpn.addNonempty
  by_cases hv : v = [] <;> simp [hv, getDataItem_addDataItem]

theorem getDataItem_setSecretFlags (flags : Nat) : (s_vpn.setSecretFlags k flags).getDataItem key =
    if key = flagsKey k then some (decimal flags) else s_vpn.getDataItem key :=
  getDataItem_addDataItem s_vpn key (flagsKey k) (decimal flags)

theorem getDataItem_new : NMSettingVpn.new.getDataItem key = none := AList.lookup_empty key

end

theorem nonempty_some_eq (v : CStr) : nonempty (some v) = if v = [] then none else some v := by
  cases v <;> rfl

section
variable (editor : GpclientEditor)

/-- What the new setting has for the keys of the servers and of the mode. -/
def serverItem (key : CStr) : Option CStr :=
  if key = Key.gateway then
    if editor.directGatewayCheck then
      some (if editor.gatewayEntry ≠ [] then editor.gatewayEntry else editor.portalEntry)
    else nonempty (some editor.gatewayEntry)
  else if key = Key.asGateway then
    if editor.directGatewayCheck then some (cstr "yes") else none
  else if key = Key.portal then
    if editor.directGatewayCheck then nonempty (some editor.portalEntry)
    else some editor.portalEntry
  else if key = Key.autoGateway then
    if !editor.directGatewayCheck && editor.gatewayEntry = [] then some (cstr "yes") else none
  else none

/-- The OS that the editor writes: the selected one, unless it is the default. -/
def selectedOs : Option CStr :=
  (nonempty editor.reportedOsCombo.activeId).filter (· ≠ cstr "default")

theorem nonempty_selectedOs : nonempty (selectedOs editor) = selectedOs editor := by
  unfold selectedOs
  rcases editor.reportedOsCombo.activeId with _ | _ | ⟨b, s⟩
  · rfl
  · rfl
  · rw [nonempty_cons]
    unfold Option.filter
    dsimp only
    split <;> rfl

/-- What the new setting has for a key. -/
def editorItem (key : CStr) : Option CStr :=
  if key = Key.browser then nonempty (some (browserGetValue editor))
  else if key = Key.clientVersion then nonempty (some editor.clientVersionEntry)
  else if key = Key.reportedOs then selectedOs editor
  else if key = Key.noDtls then some (if editor.noDtlsCheck then cstr "yes" else cstr "no")
  else if key = Key.ignoreTlsErrors then
    if editor.ignoreTlsCheck then some (cstr "yes") else none
  else if key = flagsKey Key.cookie ∨ key = flagsKey Key.gateway then some (cstr "2")
  else serverItem editor key

theorem getDataItem_serverSetting (key : CStr) :
    (serverSetting editor).getDataItem key = serverItem editor key := by
  have hkey : key = Key.gateway ∨ key = Key.asGateway ∨ key = Key.portal ∨ key = Key.autoGateway ∨
      key ≠ Key.gateway ∧ key ≠ Key.asGateway ∧ key ≠ Key.portal ∧ key ≠ Key.autoGateway := by
    tauto
  unfold serverSetting serverItem
  cases editor.directGatewayCheck <;> by_cases hg : editor.gatewayEntry = [] <;>
    rcases hkey with rfl | rfl | rfl | rfl | ⟨h1, h2, h3, h4⟩ <;>
    simp +decide [getDataItem_addDataItem, getDataItem_addNonempty, getDataItem_new,
      nonempty_some_eq, *]

theorem getDataItem_addReportedOs (s_vpn : NMSettingVpn) (key : CStr) :
    (addReportedOs editor s_vpn).getDataItem key =
      if key = Key.reportedOs then (selectedOs editor).or (s_vpn.getDataItem key)
      else s_vpn.getDataItem key := by
  unfold addReportedOs selectedOs
  cases nonempty editor.reportedOsCombo.activeId with
  | none => simp
  | some os =>
    by_cases hos : os = cstr "default" <;> by_cases hkey : key = Key.reportedOs <;>
      simp [hos, hkey, getDataItem_addDataItem, Option.filter]

theorem getDataItem_editorSetting (key : CStr) :
    (editorSetting editor).getDataItem key = editorItem editor key := by
  have hignore : ∀ s_vpn : NMSettingVpn, (if editor.ignoreTlsCheck = true then
      s_vpn.addDataItem Key.ignoreTlsErrors (cstr "yes") else s_vpn).getDataItem key =
        if key = Key.ignoreTlsErrors ∧ editor.ignoreTlsCheck = true then some (cstr "yes")
        else s_vpn.getDataItem key := by
    intro s_vpn
    cases editor.ignoreTlsCheck <;> simp [getDataItem_addDataItem]
  have hdecimal : decimal nmSettingSecretFlagNotSaved = cstr "2" := by decide
  unfold editorSetting
  dsimp only
  rw [getDataItem_setSecretFlags, getDataItem_setSecretFlags, hignore, getDataItem_addDataItem,
    getDataItem_addReportedOs, getDataItem_addNonempty, getDataItem_addNonempty, hdecimal,
    getDataItem_serverSetting]
  have hkey : key ∈ [Key.browser, Key.clientVersion, Key.reportedOs, Key.noDtls,
        Key.ignoreTlsErrors, flagsKey Key.cookie, flagsKey Key.gateway] ∨
      key ≠ Key.browser ∧ key ≠ Key.clientVersion ∧ key ≠ Key.reportedOs ∧ key ≠ Key.noDtls ∧
        key ≠ Key.ignoreTlsErrors ∧ key ≠ flagsKey Key.cookie ∧ key ≠ flagsKey Key.gateway := by
    simp only [List.mem_cons, List.not_mem_nil, or_false]
    tauto
  unfold editorItem
  rcases hkey with hkey | ⟨h1, h2, h3, h4, h5, h6, h7⟩
  · have hserver : serverItem editor key = none := by
      simp only [List.mem_cons, List.not_mem_nil, or_false] at hkey
      rcases hkey with rfl | rfl | rfl | rfl | rfl | rfl | rfl <;> simp +decide [serverItem]
    rw [hserver]
    simp only [List.mem_cons, List.not_mem_nil, or_false] at hkey
    rcases hkey with rfl | rfl | rfl | rfl | rfl | rfl | rfl <;>
      simp +decide [nonempty_some_eq]
  · simp [*]

/-- The editor has a server for its mode. -/
def GpclientEditor.Complete : Prop :=
  if editor.directGatewayCheck then editor.gatewayEntry ≠ [] ∨ editor.portalEntry ≠ []
  else editor.portalEntry ≠ []

/-- A save succeeds when there is a server, and puts the new setting in the connection. -/
theorem editorUpdateConnection_ok {connection saved : NMConnection} :
    editorUpdateConnection editor connection = .ok saved ↔
      editor.Complete ∧ saved = { connection with settingVpn := some (editorSetting editor) } := by
  unfold editorUpdateConnection GpclientEditor.Complete
  split
  · split
    next hempty => simp [hempty]
    next hserver =>
      rw [not_and_or] at hserver
      simp [hserver, eq_comm]
  · split
    next hempty => simp [hempty]
    next hserver => simp [hserver, eq_comm]

/-- The server that the widgets name. -/
def editorServer : CStr :=
  if editor.directGatewayCheck && editor.gatewayEntry ≠ [] then editor.gatewayEntry
  else editor.portalEntry

/-! ## What the programs make of it -/

theorem validateAuthSecretFlags_editorSetting :
    validateAuthSecretFlags (editorSetting editor) = none := by
  have hcookie : (editorSetting editor).secretFlags Key.cookie =
      some nmSettingSecretFlagNotSaved := by
    simp +decide [editorSetting, NMSettingVpn.setSecretFlags]
  have hgateway : (editorSetting editor).secretFlags Key.gateway =
      some nmSettingSecretFlagNotSaved := by
    simp [editorSetting, NMSettingVpn.setSecretFlags]
  simp +decide [validateAuthSecretFlags, hcookie, hgateway]

/-- The editor has an item, and writes a yes or a no where one is wanted. -/
theorem propertiesValidate_editorSetting :
    (nmOpenconnectPropertiesValidate (editorSetting editor)).error = none := by
  refine propertiesValidate_iff.2 ⟨?_, fun key hkey value hvalue => ?_⟩
  · have hno : ∃ value, (editorSetting editor).data.lookup Key.noDtls = some value :=
      ⟨_, (getDataItem_editorSetting editor Key.noDtls).trans (by simp +decide [editorItem]; rfl)⟩
    obtain ⟨value, hvalue⟩ := hno
    exact List.ne_nil_of_mem (StrMap.mem_items.2 hvalue)
  · rw [getDataItem_editorSetting] at hvalue
    simp only [booleanKeys, List.mem_cons, List.not_mem_nil, or_false] at hkey
    rcases hkey with rfl | rfl | rfl | rfl | rfl | rfl | rfl <;>
      simp +decide [editorItem, serverItem] at hvalue
    · exact .inl hvalue.2.symm
    · split at hvalue
      · exact .inl hvalue.symm
      · exact .inr hvalue.symm

/-- The editor writes no secrets. -/
theorem secrets_editorSetting : (editorSetting editor).secrets = ∅ := by
  have hadd : ∀ (s_vpn : NMSettingVpn) k v, (s_vpn.addNonempty k v).secrets = s_vpn.secrets := by
    intro s_vpn k v
    unfold NMSettingVpn.addNonempty
    split <;> rfl
  have hos : ∀ s_vpn, (addReportedOs editor s_vpn).secrets = s_vpn.secrets := by
    intro s_vpn
    unfold addReportedOs
    split
    · split <;> rfl
    · rfl
  have hserver : (serverSetting editor).secrets = ∅ := by
    unfold serverSetting
    dsimp only
    split
    · exact hadd _ _ _
    · split <;> rfl
  unfold editorSetting
  cases editor.ignoreTlsCheck <;>
    simp [NMSettingVpn.setSecretFlags, NMSettingVpn.addDataItem, hos, hadd, hserver]

/-- NeedSecrets asks for the secrets of a profile that has none. -/
theorem needSecrets_editorSetting (settingConnection : Option NMSettingConnection)
    (bus : BusAnswers) (w : World) :
    (realNeedSecrets ⟨settingConnection, some (editorSetting editor)⟩ bus w).1 =
      .needed (cstr "vpn") := by
  have hcookie : propsCookie (editorSetting editor) = none := by
    unfold propsCookie NMSettingVpn.getSecret
    rw [secrets_editorSetting]
    rfl
  unfold realNeedSecrets
  simp [validateAuthSecretFlags_editorSetting, hcookie]

/-- The items of the servers and of the mode. -/
theorem editorItem_server :
    editorItem editor Key.gateway = (if editor.directGatewayCheck then
        some (if editor.gatewayEntry ≠ [] then editor.gatewayEntry else editor.portalEntry)
      else nonempty (some editor.gatewayEntry)) ∧
    editorItem editor Key.asGateway =
      (if editor.directGatewayCheck then some (cstr "yes") else none) ∧
    editorItem editor Key.portal = (if editor.directGatewayCheck then
      nonempty (some editor.portalEntry) else some editor.portalEntry) ∧
    editorItem editor Key.autoGateway = if !editor.directGatewayCheck && editor.gatewayEntry = []
      then some (cstr "yes") else none := by
  refine ⟨?_, ?_, ?_, ?_⟩ <;> simp +decide [editorItem, serverItem]

/-- The dialog resolves the server that the widgets name. -/
theorem authServer_editorSetting (h : editor.Complete) :
    authServer (editorSetting editor).data (editorSetting editor).secrets =
      some (editorServer editor) := by
  have hitem : ∀ key, lookupNonempty (editorSetting editor).data key =
      nonempty (editorItem editor key) := fun key =>
    congrArg nonempty (getDataItem_editorSetting editor key)
  obtain ⟨hgateway, hasGateway, hportal, -⟩ := editorItem_server editor
  unfold GpclientEditor.Complete at h
  unfold authServer dialogAsGateway dialogGateway dialogPortal editorServer
  rw [hitem, hitem, hitem, hgateway, hasGateway, hportal]
  cases hdirect : editor.directGatewayCheck with
  | true =>
    rw [hdirect, if_pos rfl] at h
    have hyes : isYes (nonempty (some (cstr "yes"))) = true := by decide
    by_cases hg : editor.gatewayEntry = []
    · have hp : editor.portalEntry ≠ [] := h.resolve_left (not_not.2 hg)
      simp [hg, hp, hyes]
    · simp [hg, hyes]
  | false =>
    rw [hdirect, if_neg (by decide)] at h
    have hno : isYes none = false := by decide
    simp [h, hno]

/-- The texts that reach the command line: the server, the gateway that is fixed beside a portal,
the client version, the OS and the TUN device. -/
def shownTexts (tunName : Option IfName) : List CStr :=
  [editorServer editor] ++
  (if editor.directGatewayCheck then [] else (nonempty (some editor.gatewayEntry)).toList) ++
  (nonempty (some editor.clientVersionEntry)).toList ++ (selectedOs editor).toList ++
  tunName.toList.map IfName.bytes

/-- The command line of the service, as gpclient sees it, does what the widgets say: the server and
the mode, and the options that the check boxes, the client version and the OS stand for. An option
is also there when it is one of the texts, and may then have another value. -/
structure ShowsWidgets (tunName : Option IfName) (argv : List Word) : Prop where
  texts : textsOf argv = shownTexts editor tunName
  server : valueAfter "connect" (seen argv) = some (editorServer editor)
  asGateway : ShowsOption argv "--as-gateway" (editor.directGatewayCheck = true)
  gateway : ShowsOption argv "--gateway"
    (editor.directGatewayCheck = false ∧ editor.gatewayEntry ≠ [])
  gatewayValue : editor.directGatewayCheck = false → editor.gatewayEntry ≠ [] →
    cstr "--gateway" ∉ textsOf argv →
    valueAfter "--gateway" (seen argv) = some editor.gatewayEntry
  autoGateway : ShowsOption argv "--auto-gateway"
    (editor.directGatewayCheck = false ∧ editor.gatewayEntry = [])
  noDtls : ShowsOption argv "--no-dtls" (editor.noDtlsCheck = true)
  ignoreTls : ShowsOption argv "--ignore-tls-errors" (editor.ignoreTlsCheck = true)
  clientVersion : ShowsOption argv "--client-version" (editor.clientVersionEntry ≠ [])
  clientVersionValue : cstr "--client-version" ∉ textsOf argv →
    valueAfter "--client-version" (seen argv) = nonempty (some editor.clientVersionEntry)
  os : ShowsOption argv "--os" ((selectedOs editor).isSome = true)
  osValue : cstr "--os" ∉ textsOf argv → valueAfter "--os" (seen argv) = selectedOs editor

/-- The setting that Connect gets after the dialog has run for the saved profile. -/
def editorResponded (authJson : CStr) : NMSettingVpn :=
  respondedVpn (editorSetting editor).data (editorSetting editor).secrets
    (editorSetting editor).secretFlags
    (dialogResponse (editorSetting editor).data (editorSetting editor).secrets authJson)

theorem getDataItem_editorResponded (authJson key : CStr) :
    (editorResponded editor authJson).getDataItem key = editorItem editor key :=
  getDataItem_editorSetting editor key

/-- A fixed gateway is what the dialog answers. -/
theorem propsVpnGw_editorResponded (hdirect : editor.directGatewayCheck = false)
    (hgateway : editor.gatewayEntry ≠ []) (authJson : CStr) :
    propsVpnGw (editorResponded editor authJson) = some editor.gatewayEntry := by
  have hitem : (editorSetting editor).data.lookup Key.gateway = some editor.gatewayEntry := by
    refine (getDataItem_editorSetting editor Key.gateway).trans ?_
    rw [(editorItem_server editor).1]
    simp [hdirect, hgateway]
  have hdialog : dialogGateway (editorSetting editor).data (editorSetting editor).secrets =
      some editor.gatewayEntry := by
    simp [dialogGateway, lookupNonempty, hitem, hgateway]
  have hcookie : Key.gateway ≠ Key.cookie := by decide
  simp [propsVpnGw, editorResponded, respondedVpn, dialogResponse, hdialog, overrideSecrets,
    NMSettingVpn.getSecret, AList.lookup_insert_ne hcookie, hgateway]

/-- The mode that Connect asks gpclient for. -/
theorem modeArgs_editorResponded (h : editor.Complete) (authJson : CStr) :
    modeArgs (editorResponded editor authJson) =
      if editor.directGatewayCheck then [lit "--as-gateway"]
      else if editor.gatewayEntry = [] then [lit "--auto-gateway"]
      else [lit "--gateway", .text editor.gatewayEntry] := by
  obtain ⟨-, hasGateway, hportal, hauto⟩ := editorItem_server editor
  rw [← getDataItem_editorResponded editor authJson] at hasGateway hportal hauto
  unfold GpclientEditor.Complete at h
  cases hdirect : editor.directGatewayCheck with
  | true =>
    have hmode : directGatewayMode (editorResponded editor authJson) = true := by
      rw [directGatewayMode, hasGateway, hdirect]
      rfl
    rw [modeArgs, if_pos hmode, if_pos rfl]
  | false =>
    rw [hdirect] at h hasGateway hportal hauto
    have hserver : propsPortal (editorResponded editor authJson) = some editor.portalEntry := by
      rw [propsPortal, hportal]
      exact nonempty_some_of_ne h
    rw [modeArgs_portal hserver (by rw [hasGateway]; rfl), hauto]
    by_cases hg : editor.gatewayEntry = []
    · simp +decide [hg]
    · rw [propsVpnGw_editorResponded editor hdirect hg]
      simp +decide [hg, optionalArg]

end

/-! ## The command line -/

section
variable (editor : GpclientEditor)

/-- The items of the options. -/
theorem editorItem_options :
    (editorItem editor Key.noDtls).or (editorItem editor Key.disableUdp) =
      some (if editor.noDtlsCheck then cstr "yes" else cstr "no") ∧
    editorItem editor Key.ignoreTlsErrors =
      (if editor.ignoreTlsCheck then some (cstr "yes") else none) ∧
    editorItem editor Key.clientVersion = nonempty (some editor.clientVersionEntry) ∧
    editorItem editor Key.reportedOs = selectedOs editor := by
  refine ⟨?_, ?_, ?_, ?_⟩ <;> simp +decide [editorItem]

/-- The options of the profile that the editor does not offer. -/
theorem editorItem_none {key : CStr} (h : key ∈ [Key.mtu, Key.usercert, Key.privkey, Key.keyPass,
    Key.csdEnable]) : editorItem editor key = none := by
  simp only [List.mem_cons, List.not_mem_nil, or_false] at h
  rcases h with rfl | rfl | rfl | rfl | rfl <;> simp +decide [editorItem, serverItem]

/-- Of the shared options the editor has the client version and the OS. -/
theorem sharedArgs_editorResponded (h : editor.Complete) (authJson : CStr) :
    sharedArgs (editorResponded editor authJson) =
      optionalArg "--client-version" (nonempty (some editor.clientVersionEntry)) ++
        optionalArg "--os" (selectedOs editor) := by
  have hoverride : sharedArgs (editorResponded editor authJson) =
      sharedArgs (editorSetting editor) :=
    sharedArgs_override authJson _ (authServer_editorSetting editor h)
  have hsecret : (editorSetting editor).getSecret Key.keyPass = none := by
    rw [NMSettingVpn.getSecret, secrets_editorSetting]
    rfl
  obtain ⟨-, -, hversion, hos⟩ := editorItem_options editor
  rw [hoverride]
  simp [sharedArgs, propsKeyPass, hsecret, getDataItem_editorSetting, hversion, hos,
    editorItem_none, optionalArg]

/-- Connect finds the server that the widgets name. -/
theorem connectServer_editorResponded (h : editor.Complete) (authJson : CStr) :
    connectServer (editorResponded editor authJson) = some (editorServer editor) := by
  have hauth := authServer_editorSetting editor h
  exact connectServer_override authJson _ hauth (authServer_ne_nil hauth)

/-- The texts of the widgets reach the command line. -/
theorem textsOf_editorResponded (h : editor.Complete) (authJson : CStr) (logLevel : Nat)
    (tunName : Option IfName) :
    textsOf (gpclientArgv (editorResponded editor authJson) logLevel tunName) =
      shownTexts editor tunName := by
  have hhip : hipArgs (editorResponded editor authJson) = [] := by
    rw [hipArgs, getDataItem_editorResponded, editorItem_none editor (by simp)]
    rfl
  have hmode : textsOf (modeArgs (editorResponded editor authJson)) =
      if editor.directGatewayCheck then [] else (nonempty (some editor.gatewayEntry)).toList := by
    rw [modeArgs_editorResponded editor h]
    by_cases hgateway : editor.gatewayEntry = [] <;> cases editor.directGatewayCheck <;>
      simp [hgateway]
  rw [textsOf_gpclientArgv, connectServer_editorResponded editor h, hmode, hhip,
    sharedArgs_editorResponded editor h, getDataItem_editorResponded,
    editorItem_none editor (by simp)]
  simp [shownTexts, nonempty_nonempty, nonempty_selectedOs]

/-- The command line that is built once the dialog has run does what the widgets say. -/
theorem showsWidgets (h : editor.Complete) (authJson : CStr) (logLevel : Nat)
    (tunName : Option IfName) :
    ShowsWidgets editor tunName
      (gpclientArgv (editorResponded editor authJson) logLevel tunName) := by
  have htexts := textsOf_editorResponded editor h authJson logLevel tunName
  have hmode := modeArgs_editorResponded editor h authJson
  have hshared := sharedArgs_editorResponded editor h authJson
  have hitem := getDataItem_editorResponded editor authJson
  have hserver := connectServer_editorResponded editor h authJson
  generalize editorResponded editor authJson = s_vpn at *
  obtain ⟨hdtls, hignore, -, -⟩ := editorItem_options editor
  have hmem : ∀ arg ∈ sharedOptions, (lit arg ∈ gpclientArgv s_vpn logLevel tunName ↔
      lit arg ∈ sharedArgs s_vpn) :=
    fun arg harg => sharedOption_mem_gpclientArgv s_vpn logLevel tunName harg
  have hoption : ∀ arg ∈ modeOptions, (lit arg ∈ gpclientArgv s_vpn logLevel tunName ↔
      lit arg ∈ modeArgs s_vpn) :=
    fun arg harg => modeOption_mem_gpclientArgv s_vpn logLevel tunName harg
  exact {
    texts := htexts
    server := connect_gpclientArgv s_vpn logLevel tunName hserver
    asGateway := .of_mem_iff (by
      rw [hoption _ (by decide), hmode]
      split_ifs <;> simp_all)
    gateway := .of_mem_iff (by
      rw [hoption _ (by decide), hmode]
      split_ifs <;> simp_all)
    gatewayValue := by
      intro hdirect hgateway hnot
      have hadded : modeArgs s_vpn = [lit "--gateway", .text editor.gatewayEntry] := by
        rw [hmode, hdirect, if_neg (by simp), if_neg hgateway]
      have hgiven := gatewayValue_gpclientArgv s_vpn logLevel tunName hadded
      rw [valueAfter_seen hnot (by simp [hgiven]), hgiven]
    autoGateway := .of_mem_iff (by
      rw [hoption _ (by decide), hmode]
      split_ifs <;> simp_all)
    noDtls := .of_mem_iff (by
      rw [noDtls_mem_gpclientArgv, hitem, hitem, hdtls]
      cases editor.noDtlsCheck <;> decide)
    ignoreTls := .of_mem_iff (by
      rw [(sharedFlag_mem_gpclientArgv s_vpn logLevel tunName).2, hitem, hignore]
      cases editor.ignoreTlsCheck <;> decide)
    clientVersion := .of_mem_iff (by
      rw [hmem _ (by decide), hshared]
      simp [nonempty_nonempty, isSome_nonempty_some])
    clientVersionValue := by
      intro hnot
      rw [valueAfter_gpclientArgv _ _ _ (by decide) hnot, hshared]
      simp [optionValue_of_notMem, nonempty_nonempty]
    os := .of_mem_iff (by
      rw [hmem _ (by decide), hshared]
      simp [nonempty_selectedOs])
    osValue := by
      intro hnot
      rw [valueAfter_gpclientArgv _ _ _ (by decide) hnot, hshared]
      simp [optionValue_append_of_notMem, nonempty_selectedOs] }

/-- The command line of a Connect with a saved profile, once the dialog has answered. -/
def savedArgv (s_vpn : NMSettingVpn) (authJson : CStr) (logLevel : Nat) (tunName : Option IfName) :
    List Word :=
  gpclientArgv (respondedVpn s_vpn.data s_vpn.secrets s_vpn.secretFlags
    (dialogResponse s_vpn.data s_vpn.secrets authJson)) logLevel tunName

/-- What a saved profile is to the service and to the dialog. -/
structure SavedMeans (s_vpn : NMSettingVpn) : Prop where
  flags : validateAuthSecretFlags s_vpn = none
  properties : (nmOpenconnectPropertiesValidate s_vpn).error = none
  needSecrets : ∀ settingConnection bus w,
    (realNeedSecrets ⟨settingConnection, some s_vpn⟩ bus w).1 = .needed (cstr "vpn")
  dialog : DialogResolves s_vpn
  commandLine : ∀ authJson logLevel tunName,
    ShowsWidgets editor tunName (savedArgv s_vpn authJson logLevel tunName)

/-- A profile that the editor saves does what its widgets say.

For every state of the widgets for which the save succeeds, the connection gets a VPN setting that
passes the checks of the service, for which NeedSecrets wants secrets and the dialog has a server,
and for which the service then builds the command line that the widgets describe. -/
theorem editor_saves {connection saved : NMConnection}
    (h : editorUpdateConnection editor connection = .ok saved) :
    ∃ s_vpn, saved = { connection with settingVpn := some s_vpn } ∧ SavedMeans editor s_vpn := by
  obtain ⟨hcomplete, rfl⟩ := (editorUpdateConnection_ok editor).1 h
  refine ⟨editorSetting editor, rfl, ?_⟩
  exact {
    flags := validateAuthSecretFlags_editorSetting editor
    properties := propertiesValidate_editorSetting editor
    needSecrets := needSecrets_editorSetting editor
    dialog := by
      rw [DialogResolves, authServer_editorSetting editor hcomplete]
      rfl
    commandLine := fun authJson logLevel tunName =>
      showsWidgets editor hcomplete authJson logLevel tunName }

end

/-- An editor with a portal and the client version that is entered, as a new profile has it. -/
def portalEditor : GpclientEditor :=
  { gpclientEditorNew none (.done 0 (some (cstr "  --auto-gateway  "))) with
    portalEntry := cstr "vpn.example.org"
    clientVersionEntry := cstr "6.3.0" }

theorem editor_saves_portal : ∃ s_vpn,
    { directProfile with settingVpn := some (editorSetting portalEditor) } =
      { directProfile with settingVpn := some s_vpn } ∧ SavedMeans portalEditor s_vpn :=
  editor_saves portalEditor ((editorUpdateConnection_ok portalEditor).2
    ⟨by unfold GpclientEditor.Complete; decide +kernel, rfl⟩)

/-- An editor in the direct mode, with an option for the gateway. -/
def optionEditor : GpclientEditor :=
  { portalEditor with
    gatewayEntry := cstr "--no-dtls"
    directGatewayCheck := true
    noDtlsCheck := false }

/-- gpclient sees the option that was entered as the gateway. -/
theorem editor_saves_fails : ¬∀ (editor : GpclientEditor) connection saved s_vpn,
    editorUpdateConnection editor connection = .ok saved → saved.settingVpn = some s_vpn →
    ∀ authJson logLevel tunName,
      (cstr "--no-dtls" ∈ seen (savedArgv s_vpn authJson logLevel tunName) ↔
        editor.noDtlsCheck = true) := by
  intro h
  have hcomplete : optionEditor.Complete := by
    unfold GpclientEditor.Complete
    decide +kernel
  have hsave : editorUpdateConnection optionEditor directProfile =
      .ok { directProfile with settingVpn := some (editorSetting optionEditor) } :=
    (editorUpdateConnection_ok optionEditor).2 ⟨hcomplete, rfl⟩
  have hiff := h optionEditor directProfile _ _ hsave rfl (cstr "\x7b\x7d") logNotice none
  have hmem : cstr "--no-dtls" ∈ seen (savedArgv (editorSetting optionEditor) (cstr "\x7b\x7d")
      logNotice none) := by decide +kernel
  cases hiff.1 hmem

end NmGpclient
