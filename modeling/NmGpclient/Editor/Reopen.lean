import NmGpclient.Editor.Save
import NmGpclient.Pieces

/-!
# Opening and saving a profile

The editor shows ten of the settings that the service and the dialog read, and builds the VPN
setting from scratch when it saves. The results say for which profiles the command lines of gpclient
and gpauth survive that the profile is opened and saved with no widget touched.
-/

namespace NmGpclient

/-! ## The reopened profile -/

/-- The command lines of gpclient and of gpauth are the same for both profiles, with the same
secrets. -/
structure SameCommandLines (s_vpn s_vpn' : NMSettingVpn) : Prop where
  gpclient : ∀ secrets logLevel tunName,
    (gpclientArgv { s_vpn with secrets } logLevel tunName).map Word.bytes =
      (gpclientArgv { s_vpn' with secrets } logLevel tunName).map Word.bytes
  gpauth : ∀ secrets, derivedGpauthArgv s_vpn.data secrets = derivedGpauthArgv s_vpn'.data secrets

/-- The profile is opened in the editor and saved with no widget touched: the save succeeds, and the
command lines are those of the profile. -/
def SurvivesReopening (connection : NMConnection) (help : SpawnSync) : Prop :=
  ∃ s_vpn s_vpn' saved, connection.settingVpn = some s_vpn ∧
    editorUpdateConnection (gpclientEditorNew (some connection) help) connection = .ok saved ∧
    saved.settingVpn = some s_vpn' ∧ SameCommandLines s_vpn s_vpn'

/-- The settings that the editor keeps: none that it has no widget for, an OS of its list, and a
gateway and portal whose mode it can show. -/
structure EditorKeeps (s_vpn : NMSettingVpn) : Prop where
  unshown : ∀ key ∈ [Key.usercert, Key.privkey, Key.keyPass, Key.mtu, Key.hostId],
    nonempty (s_vpn.getDataItem key) = none
  fixOpenssl : isYes (s_vpn.getDataItem Key.fixOpenssl) = false
  hip : isYes (s_vpn.getDataItem Key.csdEnable) = true → s_vpn.getDataItem Key.csdWrapper = none
  reportedOs : ∀ os, nonempty (s_vpn.getDataItem Key.reportedOs) = some os →
    os ∈ [cstr "Linux", cstr "Windows", cstr "Mac"]
  direct : isYes (s_vpn.getDataItem Key.asGateway) = true →
    (nonempty (s_vpn.getDataItem Key.gateway)).isSome = true
  portal : isYes (s_vpn.getDataItem Key.asGateway) = false →
    (nonempty (s_vpn.getDataItem Key.portal)).isSome = true ∧
      (isYes (s_vpn.getDataItem Key.autoGateway) = true ↔
        nonempty (s_vpn.getDataItem Key.gateway) = none)

section
variable {connection : NMConnection} {s_vpn : NMSettingVpn} {help : SpawnSync}

/-- The text of an entry is the item, or empty. -/
theorem nonempty_getD (value : Option CStr) : nonempty (some (value.getD [])) = nonempty value := by
  cases value <;> rfl

theorem getD_eq_nil {value : Option CStr} : value.getD [] = [] ↔ nonempty value = none := by
  rcases value with _ | _ | _ <;> simp

theorem vpnData_eq (hvpn : connection.settingVpn = some s_vpn) (key : CStr) :
    vpnData (some connection) key = s_vpn.getDataItem key := by
  simp [vpnData, hvpn]

theorem setActiveId_of_mem {ids : List CStr} {id : CStr} (h : id ∈ ids) :
    (ComboBoxText.new.setActiveId id : ComboBoxText ids).activeId = some id := by
  simp [ComboBoxText.setActiveId, h]

theorem setActiveId_of_notMem {ids : List CStr} {id : CStr} (h : id ∉ ids) :
    (ComboBoxText.new.setActiveId id : ComboBoxText ids).activeId = none := by
  simp [ComboBoxText.setActiveId, h, ComboBoxText.new]

/-- The row of a browser is its own, or the one for another. -/
theorem activeId_newBrowserCombo (browser : CStr) : (newBrowserCombo browser).activeId =
    some (if browserIsKnown browser then browser else cstr "custom") := by
  apply setActiveId_of_mem
  split
  next hknown =>
    have hmem : browser ∈ browserIds.dropLast := List.elem_iff.1 hknown
    exact List.dropLast_subset _ hmem
  next => decide

/-- The browser that is selected or entered is the one of the profile. -/
theorem browserGetValue_editorNew (hvpn : connection.settingVpn = some s_vpn) :
    browserGetValue (gpclientEditorNew (some connection) help) =
      (nonempty (s_vpn.getDataItem Key.browser)).getD (cstr "default") := by
  have hcustom : browserIsKnown (cstr "custom") = false := by decide +kernel
  unfold browserGetValue gpclientEditorNew
  simp only [vpnData_eq hvpn, activeId_newBrowserCombo]
  cases nonempty (s_vpn.getDataItem Key.browser) with
  | none => decide +kernel
  | some value =>
    cases hknown : browserIsKnown value with
    | true =>
      have hne : value ≠ cstr "custom" := by
        rintro rfl
        rw [hcustom] at hknown
        cases hknown
      simp [hknown, hne]
    | false => simp [hknown]

/-- The OS that is selected is the one of the profile, if the list has it. -/
theorem selectedOs_editorNew (hvpn : connection.settingVpn = some s_vpn) :
    selectedOs (gpclientEditorNew (some connection) help) =
      (nonempty (s_vpn.getDataItem Key.reportedOs)).filter
        (· ∈ [cstr "Linux", cstr "Windows", cstr "Mac"]) := by
  unfold selectedOs gpclientEditorNew
  simp only [vpnData_eq hvpn]
  cases hos : nonempty (s_vpn.getDataItem Key.reportedOs) with
  | none =>
    rw [Option.getD_none, setActiveId_of_mem (by decide)]
    decide
  | some os =>
    have hne : os ≠ [] := (nonempty_eq_some.1 hos).2
    rw [Option.getD_some]
    by_cases hids : os ∈ reportedOsIds
    · rw [setActiveId_of_mem hids, nonempty_some_of_ne hne]
      simp only [reportedOsIds, List.mem_cons, List.not_mem_nil, or_false] at hids
      rcases hids with rfl | rfl | rfl | rfl <;> decide
    · rw [setActiveId_of_notMem hids]
      have hother : os ∉ [cstr "Linux", cstr "Windows", cstr "Mac"] := fun hin =>
        hids (List.mem_cons_of_mem _ hin)
      simp [Option.filter, hother]

/-- What the widgets show of the profile. -/
theorem editorNew_widgets (hvpn : connection.settingVpn = some s_vpn)
    (hhelp : gpclientSupportsConnectArg help "--auto-gateway" = true) :
    (gpclientEditorNew (some connection) help).portalEntry =
      (s_vpn.getDataItem Key.portal).getD [] ∧
    (gpclientEditorNew (some connection) help).gatewayEntry =
      (s_vpn.getDataItem Key.gateway).getD [] ∧
    (gpclientEditorNew (some connection) help).directGatewayCheck =
      isYes (s_vpn.getDataItem Key.asGateway) := by
  simp [gpclientEditorNew, vpnData_eq hvpn, hhelp]

/-- The options that the editor has widgets for are those of the profile. -/
theorem editorItem_editorNew_options (hvpn : connection.settingVpn = some s_vpn)
    (help : SpawnSync) :
    nonempty (editorItem (gpclientEditorNew (some connection) help) Key.clientVersion) =
      nonempty (s_vpn.getDataItem Key.clientVersion) ∧
    isYes (editorItem (gpclientEditorNew (some connection) help) Key.ignoreTlsErrors) =
      isYes (s_vpn.getDataItem Key.ignoreTlsErrors) ∧
    ((editorItem (gpclientEditorNew (some connection) help) Key.noDtls).or
      (editorItem (gpclientEditorNew (some connection) help) Key.disableUdp) != some (cstr "no")) =
      httpsOnly s_vpn ∧
    nonempty (editorItem (gpclientEditorNew (some connection) help) Key.browser) =
      some ((nonempty (s_vpn.getDataItem Key.browser)).getD (cstr "default")) := by
  obtain ⟨hdtls, hignore, hversion, -⟩ :=
    editorItem_options (gpclientEditorNew (some connection) help)
  have hbrowser : editorItem (gpclientEditorNew (some connection) help) Key.browser =
      nonempty (some (browserGetValue (gpclientEditorNew (some connection) help))) := by
    simp +decide [editorItem]
  rw [hdtls, hignore, hversion, hbrowser, browserGetValue_editorNew hvpn, nonempty_nonempty,
    nonempty_nonempty]
  refine ⟨?_, ?_, ?_, ?_⟩
  · simp [gpclientEditorNew, vpnData_eq hvpn, nonempty_getD]
  · simp only [gpclientEditorNew, vpnData_eq hvpn]
    cases isYes (s_vpn.getDataItem Key.ignoreTlsErrors) <;> decide
  · simp only [gpclientEditorNew, vpnData_eq hvpn, httpsOnly]
    cases (s_vpn.getDataItem Key.noDtls).or (s_vpn.getDataItem Key.disableUdp) !=
      some (cstr "no") <;> decide
  · apply nonempty_some_of_ne
    cases hbrowser : nonempty (s_vpn.getDataItem Key.browser) with
    | none => decide
    | some value => exact (nonempty_eq_some.1 hbrowser).2

/-- The keys that the editor writes nothing for. -/
theorem editorItem_unshown (editor : GpclientEditor) :
    ∀ key ∈ [Key.usercert, Key.privkey, Key.keyPass, Key.mtu, Key.hostId, Key.fixOpenssl,
      Key.csdEnable, Key.csdWrapper], editorItem editor key = none := by
  simp only [List.forall_mem_cons, List.not_mem_nil, false_imp_iff, implies_true, and_true]
  refine ⟨?_, ?_, ?_, ?_, ?_, ?_, ?_, ?_⟩ <;> simp +decide [editorItem, serverItem]

/-- The servers and the mode that the editor writes, for what the profile has. -/
theorem editorItem_editorNew_server (hvpn : connection.settingVpn = some s_vpn)
    (hhelp : gpclientSupportsConnectArg help "--auto-gateway" = true) :
    nonempty (editorItem (gpclientEditorNew (some connection) help) Key.gateway) =
      (if isYes (s_vpn.getDataItem Key.asGateway) then
        (nonempty (s_vpn.getDataItem Key.gateway)).or (nonempty (s_vpn.getDataItem Key.portal))
      else nonempty (s_vpn.getDataItem Key.gateway)) ∧
    isYes (editorItem (gpclientEditorNew (some connection) help) Key.asGateway) =
      isYes (s_vpn.getDataItem Key.asGateway) ∧
    nonempty (editorItem (gpclientEditorNew (some connection) help) Key.portal) =
      nonempty (s_vpn.getDataItem Key.portal) ∧
    isYes (editorItem (gpclientEditorNew (some connection) help) Key.autoGateway) =
      (!isYes (s_vpn.getDataItem Key.asGateway) &&
        (nonempty (s_vpn.getDataItem Key.gateway)).isNone) := by
  obtain ⟨hportal, hgateway, hdirect⟩ := editorNew_widgets hvpn hhelp
  obtain ⟨hg, has, hp, hauto⟩ := editorItem_server (gpclientEditorNew (some connection) help)
  rw [hg, has, hp, hauto, hportal, hgateway, hdirect]
  refine ⟨?_, ?_, ?_, ?_⟩
  · cases isYes (s_vpn.getDataItem Key.asGateway) with
    | true =>
      rcases s_vpn.getDataItem Key.gateway with _ | _ | _ <;> simp [nonempty_getD]
    | false => simp [nonempty_getD]
  · cases isYes (s_vpn.getDataItem Key.asGateway) <;> decide
  · cases isYes (s_vpn.getDataItem Key.asGateway) <;> simp [nonempty_getD]
  · cases isYes (s_vpn.getDataItem Key.asGateway) <;>
      rcases s_vpn.getDataItem Key.gateway with _ | _ | _ <;> simp +decide

/-- The save succeeds for what the profile has. -/
theorem editorNew_complete (hvpn : connection.settingVpn = some s_vpn)
    (hhelp : gpclientSupportsConnectArg help "--auto-gateway" = true) :
    (gpclientEditorNew (some connection) help).Complete ↔
      if isYes (s_vpn.getDataItem Key.asGateway) then
        (nonempty (s_vpn.getDataItem Key.gateway)).isSome = true ∨
          (nonempty (s_vpn.getDataItem Key.portal)).isSome = true
      else (nonempty (s_vpn.getDataItem Key.portal)).isSome = true := by
  obtain ⟨hportal, hgateway, hdirect⟩ := editorNew_widgets hvpn hhelp
  unfold GpclientEditor.Complete
  rw [hportal, hgateway, hdirect]
  simp only [ne_eq, getD_eq_nil, Option.isSome_iff_ne_none]

end

/-- A profile with a server connects to one that is not empty. -/
theorem connectServer_eq {s_vpn : NMSettingVpn} (h : noGateway s_vpn = false) :
    connectServer s_vpn = if directGatewayMode s_vpn then
      (nonempty (propsVpnGw s_vpn)).or (propsPortal s_vpn) else propsPortal s_vpn := by
  rw [noGateway_eq_false, ← nonempty_propsVpnGw] at h
  unfold connectServer
  split
  · cases hgw : nonempty (propsVpnGw s_vpn) with
    | some gw => rfl
    | none =>
      have hportal : (propsPortal s_vpn).isSome = true := h.resolve_left (by simp [hgw])
      obtain ⟨portal, hportal⟩ := Option.isSome_iff_exists.1 hportal
      rw [hportal]
      exact (nonempty_eq_some.1 hportal).1
  next hmode =>
    rw [directGatewayMode, Bool.or_eq_true, not_or] at hmode
    cases hportal : propsPortal s_vpn with
    | some portal => rfl
    | none => simp [hportal] at hmode

/-- Two settings that agree on the options and on the mode give the same command line of gpclient,
for the same secrets. -/
theorem sameGpclient_of_items {s_vpn s_vpn' : NMSettingVpn}
    (hsecrets : s_vpn.secrets = s_vpn'.secrets)
    (hitems : ∀ key ∈ [Key.gateway, Key.portal, Key.mtu, Key.usercert, Key.privkey, Key.keyPass,
      Key.clientVersion, Key.reportedOs],
        nonempty (s_vpn.getDataItem key) = nonempty (s_vpn'.getDataItem key))
    (hyes : ∀ key ∈ [Key.asGateway, Key.fixOpenssl, Key.ignoreTlsErrors],
      isYes (s_vpn.getDataItem key) = isYes (s_vpn'.getDataItem key))
    (hauto : isYes (s_vpn.getDataItem Key.asGateway) = false →
      isYes (s_vpn.getDataItem Key.autoGateway) = isYes (s_vpn'.getDataItem Key.autoGateway))
    (hserver : noGateway s_vpn = false) (hhttps : httpsOnly s_vpn = httpsOnly s_vpn')
    (hhip : hipArgs s_vpn = hipArgs s_vpn') : SameGpclient s_vpn s_vpn' := by
  simp only [List.forall_mem_cons, List.not_mem_nil, false_imp_iff, implies_true, and_true]
    at hitems hyes
  obtain ⟨hgateway, hportal, hmtu, hcert, hkey, hpass, hversion, hos⟩ := hitems
  obtain ⟨has, hfix, hignore⟩ := hyes
  have hgw : nonempty (propsVpnGw s_vpn) = nonempty (propsVpnGw s_vpn') := by
    unfold propsVpnGw NMSettingVpn.getSecret
    rw [hsecrets]
    split
    · rfl
    · exact hgateway
  have hkeyPass : nonempty (propsKeyPass s_vpn) = nonempty (propsKeyPass s_vpn') := by
    unfold propsKeyPass NMSettingVpn.getSecret
    rw [hsecrets]
    split
    · rfl
    · exact hpass
  have hprops : propsPortal s_vpn = propsPortal s_vpn' := hportal
  have hdirect : directGatewayMode s_vpn = directGatewayMode s_vpn' := by
    rw [directGatewayMode, directGatewayMode, has, hprops]
  have hserver' : noGateway s_vpn' = false := by
    rw [← hserver, noGateway, noGateway, hgw, hprops]
  have hautos : directGatewayMode s_vpn = false →
      isYes (s_vpn.getDataItem Key.autoGateway) = isYes (s_vpn'.getDataItem Key.autoGateway) := by
    intro hmode
    rw [directGatewayMode, Bool.or_eq_false_iff] at hmode
    exact hauto hmode.1
  refine ⟨?_, hfix, hignore, hdirect, ?_, ?_, hhttps, by rw [hhip]⟩
  · rw [connectServer_eq hserver, connectServer_eq hserver', hdirect, hgw, hprops]
  · rw [autoMode, autoMode, ← hdirect]
    cases hmode : directGatewayMode s_vpn with
    | true => rfl
    | false => rw [hautos hmode]
  · have hfixed : fixedGateway s_vpn = fixedGateway s_vpn' := by
      rw [fixedGateway, fixedGateway, ← hdirect, hgw]
      cases hmode : directGatewayMode s_vpn with
      | true => rfl
      | false => rw [hautos hmode]
    simp only [gpclientOptions, List.map_cons, List.map_nil, hfixed, hmtu, hcert, hkey, hkeyPass,
      hversion, hos]

section
variable {options options' secrets : StrMap}

/-- The dialog derives the same command line of gpauth from maps that agree on the server, the mode
and the options. -/
theorem derivedGpauthArgv_congr
    (hgateway : nonempty (options.lookup Key.gateway) = nonempty (options'.lookup Key.gateway))
    (hportal : nonempty (options.lookup Key.portal) = nonempty (options'.lookup Key.portal))
    (has : isYes (options.lookup Key.asGateway) = isYes (options'.lookup Key.asGateway))
    (hsame : SameGpauth options options' secrets) :
    derivedGpauthArgv options secrets = derivedGpauthArgv options' secrets := by
  have hmode : dialogAsGateway options = dialogAsGateway options' := by
    simp only [dialogAsGateway, dialogPortal, lookupNonempty, isYes_nonempty, has, hportal]
  have hserver : authServer options secrets = authServer options' secrets := by
    simp only [authServer, hmode, dialogGateway, dialogPortal, lookupNonempty, hgateway, hportal]
  unfold derivedGpauthArgv
  rw [hserver, hmode]
  cases authServer options' secrets with
  | none => rw [Option.map_none, Option.map_none]
  | some server => exact congrArg some (gpauthArgv_same_iff.2 ⟨rfl, hsame⟩)

end

section
variable {connection : NMConnection} {s_vpn : NMSettingVpn} {help : SpawnSync}

/-- The texts of a profile that the editor keeps are those it writes. -/
theorem kept_items (hvpn : connection.settingVpn = some s_vpn)
    (hhelp : gpclientSupportsConnectArg help "--auto-gateway" = true) (h : EditorKeeps s_vpn) :
    ∀ key ∈ [Key.gateway, Key.portal, Key.mtu, Key.usercert, Key.privkey, Key.keyPass,
      Key.clientVersion, Key.reportedOs, Key.hostId], nonempty (s_vpn.getDataItem key) =
        nonempty ((editorSetting (gpclientEditorNew (some connection) help)).getDataItem key) := by
  obtain ⟨hgateway, -, hportal, -⟩ := editorItem_editorNew_server hvpn hhelp
  obtain ⟨hversion, -⟩ := editorItem_editorNew_options hvpn help
  have hos := (editorItem_options (gpclientEditorNew (some connection) help)).2.2.2
  have hunshown := editorItem_unshown (gpclientEditorNew (some connection) help)
  have hkept := h.unshown
  simp only [List.forall_mem_cons, List.not_mem_nil, false_imp_iff, implies_true, and_true,
    getDataItem_editorSetting] at hunshown hkept ⊢
  obtain ⟨hcert, hkey, hpass, hmtu, hhost⟩ := hkept
  obtain ⟨hcert', hkey', hpass', hmtu', hhost', -⟩ := hunshown
  rw [hgateway, hportal, hversion, hos, nonempty_selectedOs, selectedOs_editorNew hvpn, hcert, hkey,
    hpass, hmtu, hhost, hcert', hkey', hpass', hmtu', hhost']
  refine ⟨?_, rfl, rfl, rfl, rfl, rfl, rfl, ?_, rfl⟩
  · split
    next has =>
      obtain ⟨gateway, hgw⟩ := Option.isSome_iff_exists.1 (h.direct has)
      rw [hgw]
      rfl
    next => rfl
  · cases hreported : nonempty (s_vpn.getDataItem Key.reportedOs) with
    | none => rfl
    | some os =>
      have hmem := h.reportedOs os hreported
      simp only [Option.filter, hmem, decide_true, if_true]

/-- So are its yes or no settings. -/
theorem kept_yes (hvpn : connection.settingVpn = some s_vpn)
    (hhelp : gpclientSupportsConnectArg help "--auto-gateway" = true) (h : EditorKeeps s_vpn) :
    (∀ key ∈ [Key.asGateway, Key.fixOpenssl, Key.ignoreTlsErrors],
      isYes (s_vpn.getDataItem key) =
        isYes ((editorSetting (gpclientEditorNew (some connection) help)).getDataItem key)) ∧
    (isYes (s_vpn.getDataItem Key.asGateway) = false →
      isYes (s_vpn.getDataItem Key.autoGateway) = isYes ((editorSetting
        (gpclientEditorNew (some connection) help)).getDataItem Key.autoGateway)) := by
  obtain ⟨-, has, -, hauto⟩ := editorItem_editorNew_server hvpn hhelp
  obtain ⟨-, hignore, -⟩ := editorItem_editorNew_options hvpn help
  have hfix : editorItem (gpclientEditorNew (some connection) help) Key.fixOpenssl = none :=
    editorItem_unshown _ _ (by decide)
  simp only [List.forall_mem_cons, List.not_mem_nil, false_imp_iff, implies_true, and_true,
    getDataItem_editorSetting]
  rw [has, hfix, hignore, hauto]
  refine ⟨⟨rfl, h.fixOpenssl, rfl⟩, fun hmode => ?_⟩
  rw [hmode, Bool.not_false, Bool.true_and, Bool.eq_iff_iff, (h.portal hmode).2,
    Option.isNone_iff_eq_none]

/-- A profile that the editor keeps has a server. -/
theorem EditorKeeps.server (h : EditorKeeps s_vpn) (secrets : StrMap) :
    noGateway { s_vpn with secrets } = false := by
  rw [noGateway_eq_false]
  cases hmode : isYes (s_vpn.getDataItem Key.asGateway) with
  | true =>
    left
    rw [hasGateway, Bool.or_eq_true]
    exact .inr (h.direct hmode)
  | false =>
    right
    exact (h.portal hmode).1

/-- A profile with settings that the editor keeps survives. -/
theorem sameCommandLines_of_keeps (hvpn : connection.settingVpn = some s_vpn)
    (hhelp : gpclientSupportsConnectArg help "--auto-gateway" = true) (h : EditorKeeps s_vpn) :
    SameCommandLines s_vpn (editorSetting (gpclientEditorNew (some connection) help)) := by
  have hitems := kept_items hvpn hhelp h
  obtain ⟨hyes, hauto⟩ := kept_yes hvpn hhelp h
  obtain ⟨-, -, hdtls, hbrowser⟩ := editorItem_editorNew_options hvpn help
  have hunshown := editorItem_unshown (gpclientEditorNew (some connection) help)
  generalize hsaved : editorSetting (gpclientEditorNew (some connection) help) = saved
    at hitems hyes hauto ⊢
  have hitem : ∀ key, saved.getDataItem key =
      editorItem (gpclientEditorNew (some connection) help) key :=
    hsaved ▸ getDataItem_editorSetting _
  simp only [← hitem] at hdtls hbrowser hunshown
  have hsublist : ∀ key ∈ [Key.gateway, Key.portal, Key.mtu, Key.usercert, Key.privkey, Key.keyPass,
      Key.clientVersion, Key.reportedOs], key ∈ [Key.gateway, Key.portal, Key.mtu, Key.usercert,
        Key.privkey, Key.keyPass, Key.clientVersion, Key.reportedOs, Key.hostId] :=
    fun key => List.mem_append_left [Key.hostId]
  constructor
  · intro secrets logLevel tunName
    have hserver := h.server secrets
    have hhip : hipArgs s_vpn = hipArgs saved := by
      rw [hipArgs, hipArgs, hunshown Key.csdEnable (by decide)]
      split
      next hcsd => rw [h.hip hcsd]; rfl
      next => rfl
    have hsame : SameGpclient { s_vpn with secrets } { saved with secrets } :=
      sameGpclient_of_items rfl (fun key hkey => hitems key (hsublist key hkey)) hyes hauto hserver
        hdtls.symm hhip
    have hserved := connectServer_isSome hserver
    have hserved' := hserved
    rw [hsame.server] at hserved'
    exact (gpclientArgv_same_iff hserved hserved' rfl).2 hsame
  · intro secrets
    simp only [List.forall_mem_cons, List.not_mem_nil, false_imp_iff, implies_true, and_true]
      at hitems hyes
    obtain ⟨hgateway, hportal, -, hcert, hkey, hpass, hversion, hos, hhost⟩ := hitems
    obtain ⟨has, hfix, hignore⟩ := hyes
    refine derivedGpauthArgv_congr hgateway hportal has ⟨?_, ?_, hfix, hignore⟩
    · change (nonempty (s_vpn.getDataItem Key.browser)).getD _ =
        (nonempty (saved.getDataItem Key.browser)).getD _
      rw [hbrowser, Option.getD_some]
    · have hsecret : nonempty ((nonempty (secrets.lookup Key.keyPass)).or
            (s_vpn.getDataItem Key.keyPass)) =
          nonempty ((nonempty (secrets.lookup Key.keyPass)).or
            (saved.getDataItem Key.keyPass)) := by
        cases nonempty (secrets.lookup Key.keyPass) with
        | some pass => rfl
        | none => exact hpass
      change [nonempty (s_vpn.getDataItem Key.usercert), nonempty (s_vpn.getDataItem Key.privkey),
        nonempty (_ : Option CStr), nonempty (s_vpn.getDataItem Key.clientVersion),
        nonempty (s_vpn.getDataItem Key.hostId), nonempty (s_vpn.getDataItem Key.reportedOs)] = _
      rw [hcert, hkey, hversion, hhost, hos]
      exact congrArg (fun pass => [_, _, pass, _, _, _]) hsecret

/-- The profile that is saved has the mode and the portal of the profile, so both programs run in
the same mode. -/
theorem sameMode (hvpn : connection.settingVpn = some s_vpn)
    (hhelp : gpclientSupportsConnectArg help "--auto-gateway" = true) :
    directGatewayMode (editorSetting (gpclientEditorNew (some connection) help)) =
        directGatewayMode s_vpn ∧
      dialogAsGateway (editorSetting (gpclientEditorNew (some connection) help)).data =
        dialogAsGateway s_vpn.data := by
  obtain ⟨-, has, hportal, -⟩ := editorItem_editorNew_server hvpn hhelp
  rw [← getDataItem_editorSetting] at has hportal
  constructor
  · rw [directGatewayMode, directGatewayMode, propsPortal, propsPortal, has, hportal]
  · unfold dialogAsGateway dialogPortal lookupNonempty
    rw [isYes_nonempty, isYes_nonempty]
    exact congrArg₂ (fun as portal => as || Option.isNone portal) has hportal

/-- Where the save succeeds, the profile and the one that is saved have a server. -/
theorem editorNew_server (hvpn : connection.settingVpn = some s_vpn)
    (hhelp : gpclientSupportsConnectArg help "--auto-gateway" = true)
    (h : (gpclientEditorNew (some connection) help).Complete) (secrets : StrMap) :
    noGateway { s_vpn with secrets } = false ∧ noGateway
      { editorSetting (gpclientEditorNew (some connection) help) with secrets } = false := by
  obtain ⟨hgateway, -, hportal, -⟩ := editorItem_editorNew_server hvpn hhelp
  rw [editorNew_complete hvpn hhelp] at h
  rw [← getDataItem_editorSetting] at hgateway hportal
  rw [noGateway_eq_false, noGateway_eq_false, hasGateway, hasGateway, Bool.or_eq_true,
    Bool.or_eq_true]
  have hserver : (nonempty (s_vpn.getDataItem Key.gateway)).isSome = true ∨
      (nonempty (s_vpn.getDataItem Key.portal)).isSome = true := by
    split at h
    · exact h
    · exact .inr h
  rcases hserver with hgw | hp
  · refine ⟨.inl (.inr hgw), .inl (.inr ?_)⟩
    change (nonempty ((editorSetting _).getDataItem Key.gateway)).isSome = true
    rw [hgateway]
    split
    · rw [Option.isSome_or, hgw, Bool.true_or]
    · exact hgw
  · refine ⟨.inr hp, .inr ?_⟩
    change (nonempty ((editorSetting _).getDataItem Key.portal)).isSome = true
    rw [hportal]
    exact hp

/-- What survives for gpclient the editor keeps. -/
theorem keeps_of_sameGpclient (hvpn : connection.settingVpn = some s_vpn)
    (h : SameGpclient { s_vpn with secrets := ∅ }
      { editorSetting (gpclientEditorNew (some connection) help) with secrets := ∅ }) :
    (∀ key ∈ [Key.usercert, Key.privkey, Key.keyPass, Key.mtu],
      nonempty (s_vpn.getDataItem key) = none) ∧
    isYes (s_vpn.getDataItem Key.fixOpenssl) = false ∧
    (isYes (s_vpn.getDataItem Key.csdEnable) = true →
      s_vpn.getDataItem Key.csdWrapper = none) ∧
    ∀ os, nonempty (s_vpn.getDataItem Key.reportedOs) = some os →
      os ∈ [cstr "Linux", cstr "Windows", cstr "Mac"] := by
  have hos := (editorItem_options (gpclientEditorNew (some connection) help)).2.2.2
  have hunshown := editorItem_unshown (gpclientEditorNew (some connection) help)
  generalize hsaved : editorSetting (gpclientEditorNew (some connection) help) = saved at h
  have hitem : ∀ key, saved.getDataItem key =
      editorItem (gpclientEditorNew (some connection) help) key :=
    hsaved ▸ getDataItem_editorSetting _
  simp only [← hitem] at hos hunshown
  have hvalues : [_, nonempty (s_vpn.getDataItem Key.mtu),
      nonempty (s_vpn.getDataItem Key.usercert), nonempty (s_vpn.getDataItem Key.privkey),
      nonempty (s_vpn.getDataItem Key.keyPass), _,
      nonempty (s_vpn.getDataItem Key.reportedOs)] =
    [_, nonempty (saved.getDataItem Key.mtu), nonempty (saved.getDataItem Key.usercert),
      nonempty (saved.getDataItem Key.privkey), nonempty (saved.getDataItem Key.keyPass), _,
      nonempty (saved.getDataItem Key.reportedOs)] := h.options
  simp only [List.forall_mem_cons, List.not_mem_nil, false_imp_iff, implies_true, and_true]
    at hunshown ⊢
  obtain ⟨hcert, hkey, hpass, hmtu, -, hfix, hcsd, -⟩ := hunshown
  rw [hcert, hkey, hpass, hmtu, hos, nonempty_selectedOs, selectedOs_editorNew hvpn] at hvalues
  simp only [List.cons.injEq, and_true] at hvalues
  obtain ⟨-, hmtu', hcert', hkey', hpass', -, hos'⟩ := hvalues
  refine ⟨⟨hcert', hkey', hpass', hmtu'⟩, ?_, ?_, ?_⟩
  · have hsame : isYes (s_vpn.getDataItem Key.fixOpenssl) =
      isYes (saved.getDataItem Key.fixOpenssl) := h.fixOpenssl
    rw [hsame, hfix]
    rfl
  · intro hyes
    have hhip : (hipArgs s_vpn).map Word.bytes = (hipArgs saved).map Word.bytes := h.hip
    rw [hipArgs, hipArgs, hcsd, if_pos hyes] at hhip
    cases hwrapper : s_vpn.getDataItem Key.csdWrapper with
    | none => rfl
    | some wrapper => rw [hwrapper] at hhip; cases wrapper <;> cases hhip
  · intro os hreported
    rw [hreported] at hos'
    simpa using (Option.filter_eq_some_iff.1 hos'.symm).2

/-- What survives for gpauth: it runs where it ran before, and the profile has no host id. -/
theorem keeps_of_sameGpauth (hvpn : connection.settingVpn = some s_vpn)
    (hhelp : gpclientSupportsConnectArg help "--auto-gateway" = true)
    (hcomplete : (gpclientEditorNew (some connection) help).Complete)
    (h : derivedGpauthArgv s_vpn.data ∅ =
      derivedGpauthArgv (editorSetting (gpclientEditorNew (some connection) help)).data ∅) :
    nonempty (s_vpn.getDataItem Key.hostId) = none ∧
      (isYes (s_vpn.getDataItem Key.asGateway) = true →
        (nonempty (s_vpn.getDataItem Key.gateway)).isSome = true) := by
  have hhost : editorItem (gpclientEditorNew (some connection) help) Key.hostId = none :=
    editorItem_unshown _ _ (by decide)
  have hauth' := authServer_editorSetting _ hcomplete
  rw [secrets_editorSetting] at hauth'
  rw [derivedGpauthArgv, derivedGpauthArgv, hauth', Option.map_some, (sameMode hvpn hhelp).2,
    Option.map_eq_some_iff] at h
  obtain ⟨server, hauth, hargv⟩ := h
  constructor
  · have hvalues : [_, _, _, _, nonempty (s_vpn.getDataItem Key.hostId), _] =
        [_, _, _, _, nonempty ((editorSetting _).getDataItem Key.hostId), _] :=
      (gpauthArgv_same_iff.1 hargv).2.values
    rw [getDataItem_editorSetting, hhost] at hvalues
    simp only [List.cons.injEq, and_true] at hvalues
    exact hvalues.2.2.2.2.1
  · intro hyes
    have hmode : dialogAsGateway s_vpn.data = true := by
      rw [dialogAsGateway, lookupNonempty, isYes_nonempty, Bool.or_eq_true]
      exact .inl hyes
    have hgateway : dialogGateway s_vpn.data ∅ = some server := by
      rwa [authServer, if_pos hmode] at hauth
    change (lookupNonempty s_vpn.data Key.gateway).isSome = true
    rw [dialogGateway] at hgateway
    cases hdata : lookupNonempty s_vpn.data Key.gateway with
    | some gateway => rfl
    | none =>
      rw [hdata] at hgateway
      cases hgateway

/-- A profile that survives has settings that the editor keeps. -/
theorem keeps_of_sameCommandLines (hvpn : connection.settingVpn = some s_vpn)
    (hhelp : gpclientSupportsConnectArg help "--auto-gateway" = true)
    (hcomplete : (gpclientEditorNew (some connection) help).Complete)
    (h : SameCommandLines s_vpn (editorSetting (gpclientEditorNew (some connection) help))) :
    EditorKeeps s_vpn := by
  obtain ⟨hserver, hserver'⟩ := editorNew_server hvpn hhelp hcomplete ∅
  have hgpclient : SameGpclient { s_vpn with secrets := ∅ }
      { editorSetting (gpclientEditorNew (some connection) help) with secrets := ∅ } :=
    (gpclientArgv_same_iff (connectServer_isSome hserver) (connectServer_isSome hserver') rfl).1
      (h.gpclient ∅ 0 none)
  obtain ⟨hunshown, hfix, hhip, hos⟩ := keeps_of_sameGpclient hvpn hgpclient
  obtain ⟨hhost, hdirect⟩ := keeps_of_sameGpauth hvpn hhelp hcomplete (h.gpauth ∅)
  obtain ⟨-, -, -, hauto⟩ := editorItem_editorNew_server hvpn hhelp
  exact {
    unshown := by
      simp only [List.forall_mem_cons, List.not_mem_nil, false_imp_iff, implies_true, and_true]
        at hunshown ⊢
      obtain ⟨hcert, hkey, hpass, hmtu⟩ := hunshown
      exact ⟨hcert, hkey, hpass, hmtu, hhost⟩
    fixOpenssl := hfix
    hip := hhip
    reportedOs := hos
    direct := hdirect
    portal := by
      intro hno
      rw [editorNew_complete hvpn hhelp] at hcomplete
      have hportal : (nonempty (s_vpn.getDataItem Key.portal)).isSome = true := by
        simpa [hno] using hcomplete
      have hmode : directGatewayMode s_vpn = false := by
        rw [directGatewayMode, hno, Bool.false_or, propsPortal, Option.isNone_eq_false_iff]
        exact hportal
      have hautos : autoMode s_vpn =
        autoMode (editorSetting (gpclientEditorNew (some connection) help)) := hgpclient.auto
      rw [autoMode, autoMode, (sameMode hvpn hhelp).1, hmode, getDataItem_editorSetting, hauto,
        hno] at hautos
      simp only [Bool.not_false, Bool.true_and] at hautos
      exact ⟨hportal, by rw [hautos, Option.isNone_iff_eq_none]⟩ }

/-- A profile that survives being opened and saved has only settings that the editor keeps. -/
theorem SurvivesReopening.keeps (h : SurvivesReopening connection help)
    (hvpn : connection.settingVpn = some s_vpn)
    (hhelp : gpclientSupportsConnectArg help "--auto-gateway" = true) : EditorKeeps s_vpn := by
  obtain ⟨s_vpn₀, s_vpn', saved, hvpn₀, hsave, hsaved, hsame⟩ := h
  obtain rfl : s_vpn₀ = s_vpn := Option.some.inj (hvpn₀.symm.trans hvpn)
  obtain ⟨hcomplete, rfl⟩ := (editorUpdateConnection_ok _).1 hsave
  obtain rfl := Option.some.inj hsaved
  exact keeps_of_sameCommandLines hvpn hhelp hcomplete hsame

/-- A profile survives being opened and saved exactly when it has only settings that the editor
keeps.

The two mappings are compared as a whole: the command lines are equal for every secret, verbosity
and TUN device, and each piece that differs is one that a word of the command line shows. -/
theorem reopen_iff (hvpn : connection.settingVpn = some s_vpn)
    (hhelp : gpclientSupportsConnectArg help "--auto-gateway" = true) :
    SurvivesReopening connection help ↔ EditorKeeps s_vpn := by
  refine ⟨fun h => h.keeps hvpn hhelp, fun h => ?_⟩
  refine ⟨s_vpn, _, _, hvpn, (editorUpdateConnection_ok _).2 ⟨?_, rfl⟩, rfl,
    sameCommandLines_of_keeps hvpn hhelp h⟩
  rw [editorNew_complete hvpn hhelp]
  split
  next hyes => exact .inl (h.direct hyes)
  next hno => exact (h.portal (Bool.eq_false_iff.2 hno)).1

end

/-- The service accepts the profile: the flags are safe, the properties valid, and there is a portal
or a gateway. -/
structure ServiceAccepts (s_vpn : NMSettingVpn) : Prop where
  flags : validateAuthSecretFlags s_vpn = none
  properties : (nmOpenconnectPropertiesValidate s_vpn).error = none
  server : noGateway s_vpn = false

/-- What `gpclient connect --help` answers where portal mode is supported. -/
def autoGatewayHelp : SpawnSync := .done 0 (some (cstr "  --auto-gateway  "))

/-- A profile for a portal that chooses the gateway. -/
def autoPortalVpn : NMSettingVpn where
  data := (AList.singleton Key.portal (cstr "vpn.example.org")).insert Key.autoGateway (cstr "yes")
  secrets := ∅
  secretFlags := fun _ => some nmSettingSecretFlagNotSaved

theorem reopen_iff_autoPortal :
    SurvivesReopening ⟨none, some autoPortalVpn⟩ autoGatewayHelp := by
  apply (reopen_iff rfl (by decide +kernel)).2
  have hos : nonempty (autoPortalVpn.getDataItem Key.reportedOs) = none := by decide +kernel
  have hdirect : isYes (autoPortalVpn.getDataItem Key.asGateway) = false := by decide +kernel
  exact {
    unshown := by decide +kernel
    fixOpenssl := by decide +kernel
    hip := by decide +kernel
    reportedOs := fun os h => by rw [hos] at h; cases h
    direct := fun h => by rw [hdirect] at h; cases h
    portal := fun _ => by decide +kernel }

/-- The MTU of an accepted profile is lost when it is opened and saved. -/
theorem reopen_fails : ¬∀ connection s_vpn help, connection.settingVpn = some s_vpn →
    ServiceAccepts s_vpn → gpclientSupportsConnectArg help "--auto-gateway" = true →
    SurvivesReopening connection help := by
  intro h
  let mtuVpn := autoPortalVpn.addDataItem Key.mtu (cstr "1400")
  have haccepts : ServiceAccepts mtuVpn :=
    ⟨by decide +kernel, by decide +kernel, by decide +kernel⟩
  have hhelp : gpclientSupportsConnectArg autoGatewayHelp "--auto-gateway" = true := by
    decide +kernel
  have hkeeps : EditorKeeps mtuVpn :=
    (h ⟨none, some mtuVpn⟩ mtuVpn autoGatewayHelp rfl haccepts hhelp).keeps rfl hhelp
  have hmtu : nonempty (mtuVpn.getDataItem Key.mtu) = some (cstr "1400") := by decide +kernel
  rw [hkeeps.unshown Key.mtu (by decide)] at hmtu
  cases hmtu

end NmGpclient
