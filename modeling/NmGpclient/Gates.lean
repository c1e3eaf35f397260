import NmGpclient.Agreement
import NmGpclient.Service.SecretFlags

/-!
# Which profiles are connectable

Three programs decide whether a profile names a server. The auth dialog needs one to authenticate
with, Connect one to connect to, and NeedSecrets answers that nothing is missing. Each has a rule of
its own: Connect falls back to the portal where the dialog does not, and NeedSecrets looks for a
server that is present where the others want one that is not empty. The results say for which
profiles the three agree, and for which the dialog's placeholder for the gateway changes nothing.
-/

namespace NmGpclient

/-! ## The decisions -/

/-- The message of a Connect without a server. -/
def noGatewayError : GError := launchFailed (cstr "No VPN gateway specified.")

/-- The message of a Connect without a cookie. -/
def noCookieError : GError := launchFailed (cstr "No gpclient authentication JSON provided.")

section
variable (s_vpn : NMSettingVpn)

/-- Connect does not fail with the error, whatever the version check answers. -/
def NeverFailsWith (e : GError) : Prop := ∀ version, startChecks s_vpn version ≠ .error e

/-- The auth dialog finds a server to authenticate with. -/
def DialogResolves : Prop := (authServer s_vpn.data s_vpn.secrets).isSome = true

/-- NeedSecrets answers that no more secrets are needed. -/
def NeedSecretsSatisfied (settingConnection : Option NMSettingConnection) (bus : BusAnswers)
    (w : World) : Prop :=
  (realNeedSecrets ⟨settingConnection, some s_vpn⟩ bus w).1 = .notNeeded

/-- The three programs agree on the profile. -/
structure GatesAgree : Prop where
  dialog : DialogResolves s_vpn ↔ NeverFailsWith s_vpn noGatewayError
  needSecrets : ∀ settingConnection bus w, NeedSecretsSatisfied s_vpn settingConnection bus w →
    NeverFailsWith s_vpn noGatewayError ∧ NeverFailsWith s_vpn noCookieError ∧ DialogResolves s_vpn

/-- Some gateway is configured, among the secrets or the data items. -/
def hasGateway : Bool :=
  (nonempty (s_vpn.getSecret Key.gateway)).isSome ||
    (nonempty (s_vpn.getDataItem Key.gateway)).isSome

/-- A gateway or a portal is present, perhaps as an empty text. -/
def serverPresent : Bool :=
  (s_vpn.getSecret Key.gateway).isSome || (s_vpn.getDataItem Key.gateway).isSome ||
    (s_vpn.getDataItem Key.portal).isSome

end

section
variable {s_vpn : NMSettingVpn}

theorem nonempty_propsVpnGw :
    (nonempty (propsVpnGw s_vpn)).isSome = hasGateway s_vpn := by
  unfold propsVpnGw hasGateway
  cases hsecret : nonempty (s_vpn.getSecret Key.gateway) with
  | none => simp
  | some gw => simp [nonempty_some_of_ne (nonempty_eq_some.1 hsecret).2]

/-- Connect finds a server when there is a gateway or a portal. -/
theorem noGateway_eq_false :
    noGateway s_vpn = false ↔ hasGateway s_vpn = true ∨ (propsPortal s_vpn).isSome = true := by
  rw [noGateway, ← nonempty_propsVpnGw]
  cases nonempty (propsVpnGw s_vpn) <;> simp

/-- Where Connect finds a server it connects to one. -/
theorem connectServer_isSome (h : noGateway s_vpn = false) :
    (connectServer s_vpn).isSome = true := by
  rw [noGateway_eq_false, ← nonempty_propsVpnGw] at h
  unfold connectServer directGatewayMode propsPortal at *
  cases hgw : nonempty (propsVpnGw s_vpn) with
  | some gw =>
    cases nonempty (s_vpn.getDataItem Key.portal) with
    | none => simp
    | some portal => cases isYes (s_vpn.getDataItem Key.asGateway) <;> simp
  | none =>
    obtain ⟨portal, hportal⟩ := Option.isSome_iff_exists.1 (h.resolve_left (by simp [hgw]))
    have hsome : s_vpn.getDataItem Key.portal = some portal := (nonempty_eq_some.1 hportal).1
    rw [hportal, hsome]
    cases isYes (s_vpn.getDataItem Key.asGateway) <;> simp

/-- The dialog finds a server when there is a gateway, or a portal that it is not to pass over. -/
theorem dialogResolves_iff : DialogResolves s_vpn ↔ hasGateway s_vpn = true ∨
    isYes (s_vpn.getDataItem Key.asGateway) = false ∧ (propsPortal s_vpn).isSome = true := by
  have hgateway : (dialogGateway s_vpn.data s_vpn.secrets).isSome = hasGateway s_vpn := by
    unfold dialogGateway hasGateway lookupNonempty NMSettingVpn.getSecret NMSettingVpn.getDataItem
    cases hdata : nonempty (s_vpn.data.lookup Key.gateway) <;> simp
  have hportal : dialogPortal s_vpn.data = propsPortal s_vpn := rfl
  have hyes : isYes (lookupNonempty s_vpn.data Key.asGateway) =
      isYes (s_vpn.getDataItem Key.asGateway) := isYes_nonempty _
  unfold DialogResolves authServer dialogAsGateway
  rw [hportal, hyes, ← hgateway]
  cases isYes (s_vpn.getDataItem Key.asGateway) <;> cases propsPortal s_vpn <;> simp

/-- An error of the version check is none of Connect's own. -/
theorem version_error_code {program : CStr} {version : SpawnSync} {e : GError}
    (h : nmGpclientCheckVersion program version = some e) : e.code ≠ .launchFailed := by
  unfold nmGpclientCheckVersion at h
  split at h
  · cases h
    exact nofun
  · split at h
    · cases h
    · cases h
      exact nofun

/-- A version check that passes. -/
def supportedAnswer : SpawnSync := .done 0 (some (cstr "gpclient 3.0.0"))

theorem startChecks_supported : startChecks s_vpn supportedAnswer =
    if noGateway s_vpn then .error noGatewayError
    else
      match propsCookie s_vpn with
      | none => .error noCookieError
      | some cookie => .ok cookie := by
  have hversion : nmGpclientCheckVersion (cstr "gpclient") supportedAnswer = none := by
    decide +kernel
  simp only [startChecks, hversion]
  rfl

theorem neverFailsWith_noGateway :
    NeverFailsWith s_vpn noGatewayError ↔ noGateway s_vpn = false := by
  constructor
  · intro h
    by_contra hnone
    exact h supportedAnswer (by rw [startChecks_supported, if_pos (by simpa using hnone)])
  · intro hgateway version h
    unfold startChecks at h
    split at h
    next e he =>
      cases h
      exact version_error_code he rfl
    next =>
      rw [hgateway] at h
      simp only [Bool.false_eq_true, if_false] at h
      split at h
      · exact absurd h (by decide +kernel)
      · cases h

theorem neverFailsWith_noCookie (hgateway : noGateway s_vpn = false) :
    NeverFailsWith s_vpn noCookieError ↔ (propsCookie s_vpn).isSome = true := by
  constructor
  · intro h
    cases hcookie : propsCookie s_vpn with
    | some cookie => rfl
    | none =>
      exact absurd (by simp [startChecks_supported, hgateway, hcookie]) (h supportedAnswer)
  · intro hcookie version h
    obtain ⟨cookie, hcookie⟩ := Option.isSome_iff_exists.1 hcookie
    unfold startChecks at h
    split at h
    next e he =>
      cases h
      exact version_error_code he rfl
    next =>
      rw [hgateway, hcookie] at h
      simp at h

/-- NeedSecrets is satisfied by safe flags, a cookie and a server that is present. -/
theorem needSecretsSatisfied_iff {settingConnection : Option NMSettingConnection}
    {bus : BusAnswers} {w : World} : NeedSecretsSatisfied s_vpn settingConnection bus w ↔
      validateAuthSecretFlags s_vpn = none ∧ serverPresent s_vpn = true ∧
        (propsCookie s_vpn).isSome = true := by
  unfold NeedSecretsSatisfied realNeedSecrets serverPresent
  dsimp only
  cases validateAuthSecretFlags s_vpn with
  | some e => simp
  | none =>
    dsimp only
    cases s_vpn.getSecret Key.gateway <;> cases s_vpn.getDataItem Key.gateway <;>
      cases s_vpn.getDataItem Key.portal <;> cases propsCookie s_vpn <;> simp

/-- The three programs agree on a profile exactly when it does not ask for a direct connection with
a portal and no gateway, and, if it has safe flags and a cookie, the server that is present is not
an empty text. -/
theorem gatesAgree_iff (s_vpn : NMSettingVpn) : GatesAgree s_vpn ↔
    ¬(isYes (s_vpn.getDataItem Key.asGateway) = true ∧ (propsPortal s_vpn).isSome = true ∧
        hasGateway s_vpn = false) ∧
      (validateAuthSecretFlags s_vpn = none → (propsCookie s_vpn).isSome = true →
        serverPresent s_vpn = true →
        hasGateway s_vpn = true ∨ (propsPortal s_vpn).isSome = true) := by
  have hdialog : (DialogResolves s_vpn ↔ NeverFailsWith s_vpn noGatewayError) ↔
      ¬(isYes (s_vpn.getDataItem Key.asGateway) = true ∧ (propsPortal s_vpn).isSome = true ∧
        hasGateway s_vpn = false) := by
    rw [dialogResolves_iff, neverFailsWith_noGateway, noGateway_eq_false]
    cases isYes (s_vpn.getDataItem Key.asGateway) <;> cases hasGateway s_vpn <;> simp
  constructor
  · intro h
    refine ⟨hdialog.1 h.dialog, fun hflags hcookie hpresent => ?_⟩
    -- the answers of the bus and the state do not matter to what NeedSecrets asks for
    have hsatisfied : NeedSecretsSatisfied s_vpn none quietExit.bus (.start noDevices) :=
      needSecretsSatisfied_iff.2 ⟨hflags, hpresent, hcookie⟩
    have hnever := (h.needSecrets _ _ _ hsatisfied).1
    exact noGateway_eq_false.1 (neverFailsWith_noGateway.1 hnever)
  · rintro ⟨hmode, hpresent⟩
    refine ⟨hdialog.2 hmode, fun settingConnection bus w hsatisfied => ?_⟩
    obtain ⟨hflags, hserver, hcookie⟩ := needSecretsSatisfied_iff.1 hsatisfied
    have hgateway : noGateway s_vpn = false :=
      noGateway_eq_false.2 (hpresent hflags hcookie hserver)
    have hnever := neverFailsWith_noGateway.2 hgateway
    exact ⟨hnever, (neverFailsWith_noCookie hgateway).2 hcookie, (hdialog.2 hmode).2 hnever⟩

/-- A profile that asks for a direct connection and has only a portal. -/
def directPortal : NMSettingVpn where
  data := (AList.singleton Key.portal (cstr "vpn.example.org")).insert Key.asGateway (cstr "yes")
  secrets := ∅
  secretFlags := fun _ => some nmSettingSecretFlagNotSaved

/-- Connect would connect to the portal, and the dialog gives up. -/
theorem gatesAgree_fails : ¬∀ s_vpn, GatesAgree s_vpn := by
  intro h
  have hresolves : DialogResolves directPortal :=
    (h directPortal).dialog.2 (neverFailsWith_noGateway.2 (by decide +kernel))
  exact absurd hresolves (by unfold DialogResolves; decide +kernel)

end

/-! ## The placeholder for the gateway -/

/-- The setting that Connect gets after the dialog has responded. -/
def respondedVpn (options secrets : StrMap) (secretFlags : CStr → Option Nat)
    (response : List (CStr × CStr)) : NMSettingVpn :=
  ⟨options, overrideSecrets secrets response, secretFlags⟩

/-- Two settings whose command lines differ only in the words that choose the mode. -/
theorem gpclientArgv_eq_iff (s_vpn' s_vpn : NMSettingVpn) (hdata : s_vpn'.data = s_vpn.data)
    (hserver : connectServer s_vpn' = connectServer s_vpn)
    (hcookie : (propsCookie s_vpn').isSome = (propsCookie s_vpn).isSome)
    (hpass : propsKeyPass s_vpn' = propsKeyPass s_vpn) (logLevel : Nat)
    (tunName : Option IfName) :
    (gpclientArgv s_vpn' logLevel tunName).map Word.bytes =
        (gpclientArgv s_vpn logLevel tunName).map Word.bytes ↔
      (modeArgs s_vpn').map Word.bytes = (modeArgs s_vpn).map Word.bytes := by
  have hitem : s_vpn'.getDataItem = s_vpn.getDataItem := by
    funext key
    exact congrArg (fun data => data.lookup key) hdata
  have hshared : sharedArgs s_vpn' = sharedArgs s_vpn := by
    simp only [sharedArgs, hitem, hpass]
  have hscript : scriptArgs s_vpn' logLevel tunName = scriptArgs s_vpn logLevel tunName := by
    simp only [scriptArgs, dtlsArgs, hipArgs, hitem]
  simp only [gpclientArgv, serverArgs, hshared, hscript, hserver, hcookie, hitem, List.map_append,
    List.append_left_inj, List.append_right_inj]

section
variable {options secrets : StrMap} {portal : CStr} (authJson : CStr)
  (secretFlags : CStr → Option Nat)

/-- Without a gateway the dialog answers the portal in its place. -/
theorem dialogResponse_placeholder (hportal : lookupNonempty options Key.portal = some portal)
    (hgateway : dialogGateway options secrets = none) :
    dialogResponse options secrets authJson = [(Key.gateway, portal), (Key.cookie, authJson)] := by
  simp [dialogResponse, hgateway, dialogPortal, hportal]

/-- In portal mode Connect goes to the portal. -/
theorem connectServer_portal {s_vpn : NMSettingVpn} (hportal : propsPortal s_vpn = some portal)
    (hmode : isYes (s_vpn.getDataItem Key.asGateway) = false) :
    connectServer s_vpn = some portal := by
  simp [connectServer, directGatewayMode, hportal, hmode]

/-- In portal mode the mode is chosen by `auto_gateway`, or else by the gateway. -/
theorem modeArgs_portal {s_vpn : NMSettingVpn} (hportal : propsPortal s_vpn = some portal)
    (hmode : isYes (s_vpn.getDataItem Key.asGateway) = false) :
    modeArgs s_vpn = if isYes (s_vpn.getDataItem Key.autoGateway) then [lit "--auto-gateway"]
      else optionalArg "--gateway" (propsVpnGw s_vpn) := by
  simp [modeArgs, directGatewayMode, hportal, hmode]

/-- The placeholder changes nothing exactly when the profile lets the portal choose the gateway.

For every profile in portal mode without a gateway, the command line that the service builds with
the dialog's response is the one it builds with the cookie alone if and only if `auto_gateway` is
`yes`. -/
theorem placeholder_harmless_iff (hportal : lookupNonempty options Key.portal = some portal)
    (hmode : isYes (options.lookup Key.asGateway) = false)
    (hgateway : dialogGateway options secrets = none) (logLevel : Nat) (tunName : Option IfName) :
    (gpclientArgv (respondedVpn options secrets secretFlags
          (dialogResponse options secrets authJson)) logLevel tunName).map Word.bytes =
        (gpclientArgv (respondedVpn options secrets secretFlags [(Key.cookie, authJson)]) logLevel
          tunName).map Word.bytes ↔
      isYes (options.lookup Key.autoGateway) = true := by
  rw [dialogResponse_placeholder authJson hportal hgateway]
  have hkeys : Key.gateway ≠ Key.cookie ∧ Key.keyPass ≠ Key.gateway ∧ Key.keyPass ≠ Key.cookie := by
    decide
  obtain ⟨hgc, hkg, hkc⟩ := hkeys
  have hnone : nonempty (secrets.lookup Key.gateway) = none ∧
      nonempty (options.lookup Key.gateway) = none := by
    unfold dialogGateway lookupNonempty at hgateway
    split at hgateway
    · cases hgateway
    next hdata => exact ⟨hgateway, hdata⟩
  -- what the two settings are to Connect
  have hwith : propsVpnGw (respondedVpn options secrets secretFlags
      [(Key.gateway, portal), (Key.cookie, authJson)]) = some portal := by
    have hne : portal ≠ [] := (nonempty_eq_some.1 hportal).2
    simp [propsVpnGw, respondedVpn, overrideSecrets, NMSettingVpn.getSecret,
      AList.lookup_insert_ne hgc, hne]
  have hwithout : optionalArg "--gateway" (propsVpnGw (respondedVpn options secrets secretFlags
      [(Key.cookie, authJson)])) = [] := by
    simp [optionalArg, propsVpnGw, respondedVpn, overrideSecrets, NMSettingVpn.getSecret,
      NMSettingVpn.getDataItem, AList.lookup_insert_ne hgc, hnone]
  have hserver : ∀ response, connectServer (respondedVpn options secrets secretFlags response) =
      some portal := fun response => connectServer_portal hportal hmode
  have hargs : ∀ response, modeArgs (respondedVpn options secrets secretFlags response) =
      if isYes (options.lookup Key.autoGateway) then [lit "--auto-gateway"]
      else optionalArg "--gateway" (propsVpnGw (respondedVpn options secrets secretFlags response)) :=
    fun response => modeArgs_portal hportal hmode
  have hcookie : ∀ key value, propsCookie (respondedVpn options secrets secretFlags
      [(key, value), (Key.cookie, authJson)]) = propsCookie (respondedVpn options secrets
        secretFlags [(Key.cookie, authJson)]) := by
    simp [propsCookie, respondedVpn, overrideSecrets, NMSettingVpn.getSecret]
  have hpass : propsKeyPass (respondedVpn options secrets secretFlags
      [(Key.gateway, portal), (Key.cookie, authJson)]) = propsKeyPass (respondedVpn options secrets
        secretFlags [(Key.cookie, authJson)]) := by
    simp [propsKeyPass, respondedVpn, overrideSecrets, NMSettingVpn.getSecret,
      NMSettingVpn.getDataItem, AList.lookup_insert_ne hkg, AList.lookup_insert_ne hkc]
  have hmodes := gpclientArgv_eq_iff
    (respondedVpn options secrets secretFlags [(Key.gateway, portal), (Key.cookie, authJson)])
    (respondedVpn options secrets secretFlags [(Key.cookie, authJson)]) rfl
    (by rw [hserver, hserver]) (by rw [hcookie]) hpass logLevel tunName
  rw [hmodes, hargs, hargs, hwith, hwithout]
  have hne : portal ≠ [] := (nonempty_eq_some.1 hportal).2
  cases isYes (options.lookup Key.autoGateway) <;> simp [optionalArg, hne]

end

/-- The profile with a portal that lets it choose the gateway. -/
def autoPortalOptions : StrMap := portalOptions.insert Key.autoGateway (cstr "yes")

theorem placeholder_harmless_auto :
    (gpclientArgv (respondedVpn autoPortalOptions ∅ (fun _ => some 2)
          (dialogResponse autoPortalOptions ∅ (cstr "cookie"))) logNotice none).map Word.bytes =
        (gpclientArgv (respondedVpn autoPortalOptions ∅ (fun _ => some 2)
          [(Key.cookie, cstr "cookie")]) logNotice none).map Word.bytes ↔
      isYes (autoPortalOptions.lookup Key.autoGateway) = true :=
  placeholder_harmless_iff (cstr "cookie") (fun _ => some 2)
    (show _ = some (cstr "vpn.example.org") by decide +kernel) (by decide +kernel)
    (by decide +kernel) logNotice none

/-- For a profile with a portal and nothing else the placeholder is a gateway to gpclient. -/
theorem placeholder_harmless_fails : ¬∀ options secrets secretFlags authJson logLevel tunName,
    (lookupNonempty options Key.portal).isSome = true →
    isYes (options.lookup Key.asGateway) = false → dialogGateway options secrets = none →
    (gpclientArgv (respondedVpn options secrets secretFlags
          (dialogResponse options secrets authJson)) logLevel tunName).map Word.bytes =
        (gpclientArgv (respondedVpn options secrets secretFlags [(Key.cookie, authJson)]) logLevel
          tunName).map Word.bytes := by
  intro h
  have hsame := h portalOptions ∅ (fun _ => some 2) (cstr "cookie") logNotice none
    (by decide +kernel) (by decide +kernel) (by decide +kernel)
  have hlength := congrArg List.length hsame
  revert hlength
  decide +kernel

end NmGpclient
