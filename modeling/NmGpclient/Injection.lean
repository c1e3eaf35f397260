import NmGpclient.Gates

/-!
# Options and the texts of a profile

The service puts a dozen texts of the profile on gpclient's command line as they are. Nothing keeps
one from beginning with a dash, so a profile can add words that gpclient reads as options. What the
builder does keep is where the texts stand: which settings are present, and which are `yes`, decide
the literals of the command line and the places between them.
-/

namespace NmGpclient

/-- The word begins with a dash. -/
def isOption (s : CStr) : Bool := s.head? == some 45

/-- The words of a command line that begin with a dash. -/
def optionWords (argv : List Word) : List CStr := (argv.map Word.bytes).filter isOption

/-- The literals of `nm_openconnect_start_openconnect_binary` that begin with a dash. -/
def optionLiterals : List String :=
  ["--fix-openssl", "--ignore-tls-errors", "--lock-file", "--cookie-on-stdin", "--browser",
    "--as-gateway", "--auto-gateway", "--gateway", "--mtu", "--certificate", "--sslkey",
    "--key-password", "--client-version", "--os", "--script", "--interface", "--no-dtls", "--hip",
    "--verbose"]

/-- The keys of the data items that the service puts on the command line. -/
def textKeys : List CStr :=
  [Key.gateway, Key.portal, Key.mtu, Key.usercert, Key.privkey, Key.keyPass, Key.clientVersion,
    Key.reportedOs, Key.csdWrapper]

/-- The texts of a profile that the service puts on the command line. -/
def profileTexts (s_con : NMSettingConnection) (s_vpn : NMSettingVpn) : List (Option CStr) :=
  textKeys.map s_vpn.getDataItem ++
    [s_vpn.getSecret Key.gateway, s_vpn.getSecret Key.keyPass,
      s_con.interfaceName.map IfName.bytes]

/-- The service accepts the profile and builds the command line for it, at a log level, on a host
where the account `owner` of the TUN devices exists or not. -/
structure Builds (s_con : NMSettingConnection) (s_vpn : NMSettingVpn) (logLevel : Nat)
    (owner : Bool) (argv : List Word) : Prop where
  valid : validVpn s_vpn = true
  checked : ∃ version cookie, startChecks s_vpn version = .ok cookie
  built : ∃ (a : TunAnswers) (w : World) (tunName : Option IfName), a.passwd.isSome = owner ∧
    (createPersistentTundev s_con.interfaceName a w).1 = (tunName, none) ∧
    argv = gpclientArgv s_vpn logLevel tunName

/-- The settings that are `yes` or something else. -/
def yesNoKeys : List CStr :=
  [Key.fixOpenssl, Key.ignoreTlsErrors, Key.asGateway, Key.autoGateway, Key.noDtls, Key.disableUdp,
    Key.csdEnable]

/-- A text is present in both places or in none, and not empty in both or in none. -/
def SamePresence (value value' : Option CStr) : Prop :=
  value.isSome = value'.isSome ∧ (nonempty value).isSome = (nonempty value').isSome

/-- In the two profiles the same settings are present, not empty, and `yes`. -/
structure SameSettings (s_vpn s_vpn' : NMSettingVpn) : Prop where
  data : ∀ key, SamePresence (s_vpn.getDataItem key) (s_vpn'.getDataItem key)
  secrets : ∀ key, SamePresence (s_vpn.getSecret key) (s_vpn'.getSecret key)
  yes : ∀ key ∈ yesNoKeys, isYes (s_vpn.getDataItem key) = isYes (s_vpn'.getDataItem key)

/-- The literal of a word, when it is one of the service. -/
def Word.literal? : Word → Option CStr
  | .literal s => some s
  | .text _ => none

/-- No text on the command line begins with a dash. -/
def NoOptionText (argv : List Word) : Prop :=
  ∀ s ∈ argv.filterMap Word.text?, isOption s = false

instance (argv : List Word) : Decidable (NoOptionText argv) :=
  inferInstanceAs (Decidable (∀ s ∈ _, _))

/-! ## Which words begin with a dash -/

/-- A literal that begins with a dash is one of the option literals, a text one of `texts`. -/
def Word.Known (texts : List (Option CStr)) : Word → Prop
  | .literal s => isOption s = true → ∃ o ∈ optionLiterals, s = cstr o
  | .text s => isOption s = true → some s ∈ texts

section
variable {texts : List (Option CStr)}

theorem known_lit {o : String} (h : o ∈ optionLiterals ∨ isOption (cstr o) = false) :
    (lit o).Known texts := by
  intro hdash
  rcases h with h | h
  · exact ⟨o, h, rfl⟩
  · rw [h] at hdash
    cases hdash

theorem known_text {s : CStr} (h : some s ∈ texts) : (Word.text s).Known texts := fun _ => h

theorem known_optionalArg {arg : String} {value : Option CStr} (harg : arg ∈ optionLiterals)
    (hvalue : ∀ s, value = some s → some s ∈ texts) :
    ∀ w ∈ optionalArg arg value, w.Known texts := by
  unfold optionalArg
  split
  next s hs =>
    have hs := hvalue s (nonempty_eq_some.1 hs).1
    exact List.forall_mem_cons.2 ⟨known_lit (.inl harg),
      List.forall_mem_singleton.2 (known_text hs)⟩
  next => simp

theorem known_booleanArg {arg : String} {value : Option CStr} (harg : arg ∈ optionLiterals) :
    ∀ w ∈ booleanArg arg value, w.Known texts := by
  unfold booleanArg
  split
  · exact List.forall_mem_singleton.2 (known_lit (.inl harg))
  · simp

end

section
variable {s_con : NMSettingConnection} {s_vpn : NMSettingVpn}

theorem item_mem {key s : CStr} (hkey : key ∈ textKeys) (h : s_vpn.getDataItem key = some s) :
    some s ∈ profileTexts s_con s_vpn :=
  List.mem_append_left _ (h ▸ List.mem_map_of_mem hkey)

/-- The gateway is the secret or the data item. -/
theorem propsVpnGw_mem {s : CStr} (h : propsVpnGw s_vpn = some s) :
    some s ∈ profileTexts s_con s_vpn := by
  unfold propsVpnGw at h
  split at h
  next gw hgw =>
    obtain rfl : gw = s := Option.some.inj h
    exact List.mem_append_right _ (by simp [(nonempty_eq_some.1 hgw).1])
  next => exact item_mem (by decide) h

/-- The passphrase of the key is the secret or the data item. -/
theorem propsKeyPass_mem {s : CStr} (h : propsKeyPass s_vpn = some s) :
    some s ∈ profileTexts s_con s_vpn := by
  unfold propsKeyPass at h
  split at h
  next pass hpass =>
    obtain rfl : pass = s := Option.some.inj h
    exact List.mem_append_right _ (by simp [(nonempty_eq_some.1 hpass).1])
  next => exact item_mem (by decide) h

/-- The server is the gateway or the portal. -/
theorem connectServer_mem {s : CStr} (h : connectServer s_vpn = some s) :
    some s ∈ profileTexts s_con s_vpn := by
  have hportal : ∀ s, s_vpn.getDataItem Key.portal = some s →
      some s ∈ profileTexts s_con s_vpn := fun s => item_mem (by decide)
  unfold connectServer at h
  split at h
  · split at h
    next gw hgw => exact propsVpnGw_mem (h ▸ (nonempty_eq_some.1 hgw).1)
    next => exact hportal s h
  · split at h
    next portal hp => exact hportal s (h ▸ (nonempty_eq_some.1 hp).1)
    next => exact propsVpnGw_mem h

theorem known_modeArgs : ∀ w ∈ modeArgs s_vpn, w.Known (profileTexts s_con s_vpn) := by
  unfold modeArgs
  split
  · exact List.forall_mem_singleton.2 (known_lit (by decide))
  · split
    · simp
    · split
      · exact List.forall_mem_singleton.2 (known_lit (by decide))
      · exact known_optionalArg (by decide) fun _ => propsVpnGw_mem

theorem known_hipArgs : ∀ w ∈ hipArgs s_vpn, w.Known (profileTexts s_con s_vpn) := by
  have hhip : (lit "--hip").Known (profileTexts s_con s_vpn) := known_lit (by decide)
  unfold hipArgs
  split
  · split
    · simp
    · exact List.forall_mem_singleton.2 hhip
    next hwrapper =>
      exact List.forall_mem_cons.2 ⟨hhip, List.forall_mem_singleton.2
        (known_text (item_mem (by decide) hwrapper))⟩
  · simp

theorem known_verboseArgs (logLevel : Nat) :
    ∀ w ∈ verboseArgs logLevel, w.Known (profileTexts s_con s_vpn) := by
  have hverbose : (lit "--verbose").Known (profileTexts s_con s_vpn) := known_lit (by decide)
  unfold verboseArgs
  split
  · split <;> simp [hverbose]
  · simp

theorem known_dtlsArgs : ∀ w ∈ dtlsArgs s_vpn, w.Known (profileTexts s_con s_vpn) := by
  unfold dtlsArgs
  dsimp only
  split
  · simp
  · exact List.forall_mem_singleton.2 (known_lit (by decide))

/-- A data item that is the value of an option. -/
theorem known_item {arg : String} {key : CStr} (harg : arg ∈ optionLiterals)
    (hkey : key ∈ textKeys) : ∀ w ∈ optionalArg arg (s_vpn.getDataItem key),
      w.Known (profileTexts s_con s_vpn) :=
  known_optionalArg harg fun _ => item_mem hkey

theorem known_serverArgs : ∀ w ∈ serverArgs s_vpn, w.Known (profileTexts s_con s_vpn) := by
  have hconnect : ∀ w ∈ (connectServer s_vpn).toList.map Word.text,
      w.Known (profileTexts s_con s_vpn) := by
    simp only [List.mem_map, Option.mem_toList, forall_exists_index, and_imp]
    rintro _ s hs rfl
    exact known_text (connectServer_mem hs)
  have hcookie : ∀ w ∈ if (propsCookie s_vpn).isSome then [lit "--cookie-on-stdin"] else [],
      w.Known (profileTexts s_con s_vpn) := by
    split
    · exact List.forall_mem_singleton.2 (known_lit (by decide))
    · simp
  simp only [serverArgs, gpclientBinary, gpclientLockFile, gpclientBrowserHelperPath,
    literal_cstr, List.forall_mem_append, List.forall_mem_cons]
  exact ⟨⟨⟨⟨⟨⟨⟨⟨⟨⟨known_lit (.inr (by decide +kernel)), by simp⟩,
    known_booleanArg (by decide)⟩, known_booleanArg (by decide)⟩,
    known_lit (.inr (by decide +kernel)), by simp⟩, hconnect⟩, known_lit (.inl (by decide)),
    known_lit (.inr (by decide +kernel)), by simp⟩, hcookie⟩, known_lit (.inl (by decide)),
    known_lit (.inr (by decide +kernel)), by simp⟩, known_modeArgs⟩,
    known_item (by decide) (by decide)⟩

theorem known_sharedArgs : ∀ w ∈ sharedArgs s_vpn, w.Known (profileTexts s_con s_vpn) := by
  simp only [sharedArgs, List.forall_mem_append]
  exact ⟨⟨⟨⟨known_item (by decide) (by decide), known_item (by decide) (by decide)⟩,
    known_optionalArg (by decide) fun _ => propsKeyPass_mem⟩,
    known_item (by decide) (by decide)⟩, known_item (by decide) (by decide)⟩

/-- The name of the device is one of the connection's or begins with a letter. -/
theorem known_scriptArgs {tunName : Option IfName} (logLevel : Nat)
    (htun : ∀ n, tunName = some n → (Word.text n.bytes).Known (profileTexts s_con s_vpn)) :
    ∀ w ∈ scriptArgs s_vpn logLevel tunName, w.Known (profileTexts s_con s_vpn) := by
  have hinterface : ∀ w ∈ interfaceArgs tunName, w.Known (profileTexts s_con s_vpn) := by
    cases tunName with
    | none => simp [interfaceArgs]
    | some n => exact List.forall_mem_cons.2 ⟨known_lit (by decide),
        List.forall_mem_singleton.2 (htun n rfl)⟩
  simp only [scriptArgs, gpclientHelperPath, literal_cstr, List.forall_mem_append,
    List.forall_mem_cons]
  exact ⟨⟨⟨⟨⟨known_lit (.inl (by decide)), known_lit (.inr (by decide +kernel)), by simp⟩,
    hinterface⟩, known_dtlsArgs⟩, known_hipArgs⟩, known_verboseArgs logLevel⟩

end

/-- The name of the device is the one the connection suggests, or `vpn` with a number. -/
theorem known_createdName {s_con : NMSettingConnection} (s_vpn : NMSettingVpn) {a : TunAnswers}
    {w : World} {tunName : Option IfName}
    (h : (createPersistentTundev s_con.interfaceName a w).1 = (tunName, none)) :
    tunName.isSome = a.passwd.isSome ∧
      ∀ n, tunName = some n → (Word.text n.bytes).Known (profileTexts s_con s_vpn) := by
  obtain ⟨t, hcreate, -⟩ := createPersistentTundev_spec s_con.interfaceName a w
  rw [h] at hcreate
  cases hcreate with
  | noUser hpw => exact ⟨by rw [hpw]; rfl, nofun⟩
  | @created pw n hpw _ hn =>
    refine ⟨by rw [hpw]; rfl, ?_⟩
    rintro _ ⟨⟩
    have hcandidate : n ∈ candidateNames s_con.interfaceName := List.mem_of_find?_eq_some hn
    cases hname : s_con.interfaceName with
    | some suggested =>
      rw [hname] at hcandidate
      obtain rfl : n = suggested := by simpa [candidateNames] using hcandidate
      exact known_text (List.mem_append_right _ (by simp [hname]))
    | none =>
      rw [hname, candidateNames, List.mem_map] at hcandidate
      obtain ⟨i, -, rfl⟩ := hcandidate
      have hletter : ∀ i, isOption (vpnBytes i) = false := by decide +kernel
      intro hdash
      exact absurd hdash (by simp [vpnName, hletter i])

/-! ## Where the texts stand -/

theorem literal?_optionalArg {value value' : Option CStr} (arg : String)
    (h : (nonempty value).isSome = (nonempty value').isSome) :
    (optionalArg arg value).map Word.literal? = (optionalArg arg value').map Word.literal? := by
  unfold optionalArg
  cases hv : nonempty value <;> cases hv' : nonempty value' <;> simp_all [Word.literal?]

/-- A profile that passes the checks has a server and a cookie. -/
theorem server_of_checked {s_vpn : NMSettingVpn}
    (h : ∃ version cookie, startChecks s_vpn version = .ok cookie) :
    (connectServer s_vpn).isSome = true ∧ (propsCookie s_vpn).isSome = true := by
  obtain ⟨version, cookie, hchecks⟩ := h
  refine ⟨connectServer_isSome ?_, by rw [propsCookie_of_startChecks hchecks]; rfl⟩
  unfold startChecks at hchecks
  split at hchecks
  · cases hchecks
  · by_contra hnone
    rw [if_pos (by simpa using hnone)] at hchecks
    cases hchecks

/-- In a valid profile a yes or no setting that is present is one of the two. -/
theorem yes_or_no_of_valid {s_vpn : NMSettingVpn} (h : validVpn s_vpn = true) {key value : CStr}
    (hkey : key ∈ booleanKeys) (hvalue : s_vpn.getDataItem key = some value) :
    value = cstr "yes" ∨ value = cstr "no" := by
  have hprops : (nmOpenconnectPropertiesValidate s_vpn).error = none := by
    simp only [validVpn, Bool.and_eq_true, Option.isNone_iff_eq_none] at h
    exact h.1.2
  exact (propertiesValidate_iff.1 hprops).2 key hkey value hvalue

/-- `--no-dtls` is left out exactly for a setting that is present and not `yes`. -/
theorem dtlsArgs_eq {s_vpn : NMSettingVpn} (h : validVpn s_vpn = true) :
    dtlsArgs s_vpn =
      if (s_vpn.getDataItem Key.noDtls).isSome && !isYes (s_vpn.getDataItem Key.noDtls) ||
        (s_vpn.getDataItem Key.noDtls).isNone && (s_vpn.getDataItem Key.disableUdp).isSome &&
          !isYes (s_vpn.getDataItem Key.disableUdp)
      then [] else [lit "--no-dtls"] := by
  have hne : cstr "yes" ≠ cstr "no" := by decide
  unfold dtlsArgs isYes
  cases hno : s_vpn.getDataItem Key.noDtls with
  | some value =>
    rcases yes_or_no_of_valid h (by decide) hno with rfl | rfl <;> simp [hne, hne.symm]
  | none =>
    cases hudp : s_vpn.getDataItem Key.disableUdp with
    | some value =>
      rcases yes_or_no_of_valid h (by decide) hudp with rfl | rfl <;> simp [hne, hne.symm]
    | none => simp

section
variable {s_vpn s_vpn' : NMSettingVpn} (hsame : SameSettings s_vpn s_vpn')

include hsame

/-- The gateway, which is a secret or a data item, is in both profiles or in none. -/
theorem propsVpnGw_same :
    (nonempty (propsVpnGw s_vpn)).isSome = (nonempty (propsVpnGw s_vpn')).isSome := by
  rw [nonempty_propsVpnGw, nonempty_propsVpnGw, hasGateway, hasGateway,
    (hsame.secrets Key.gateway).2, (hsame.data Key.gateway).2]

theorem propsKeyPass_same :
    (nonempty (propsKeyPass s_vpn)).isSome = (nonempty (propsKeyPass s_vpn')).isSome := by
  have hsecret := (hsame.secrets Key.keyPass).2
  have hdata := (hsame.data Key.keyPass).2
  unfold propsKeyPass
  cases hs : nonempty (s_vpn.getSecret Key.keyPass) <;>
    cases hs' : nonempty (s_vpn'.getSecret Key.keyPass) <;> rw [hs, hs'] at hsecret
  · exact hdata
  · cases hsecret
  · cases hsecret
  · simp [(nonempty_eq_some.1 hs).2, (nonempty_eq_some.1 hs').2]

theorem directGatewayMode_same : directGatewayMode s_vpn = directGatewayMode s_vpn' := by
  have hportal : (propsPortal s_vpn).isSome = (propsPortal s_vpn').isSome :=
    (hsame.data Key.portal).2
  rw [directGatewayMode, directGatewayMode, hsame.yes Key.asGateway (by decide),
    ← Option.not_isSome, ← Option.not_isSome, hportal]

theorem modeArgs_same :
    (modeArgs s_vpn).map Word.literal? = (modeArgs s_vpn').map Word.literal? := by
  have hportal : (propsPortal s_vpn).isSome = (propsPortal s_vpn').isSome :=
    (hsame.data Key.portal).2
  have hgateway := literal?_optionalArg "--gateway" (propsVpnGw_same hsame)
  unfold modeArgs
  rw [directGatewayMode_same hsame, hsame.yes Key.autoGateway (by decide)]
  split
  · rfl
  · cases hp : propsPortal s_vpn with
    | none =>
      have hp' : propsPortal s_vpn' = none := by simpa [hp] using hportal
      rw [hp']
    | some portal =>
      have hp' : (propsPortal s_vpn').isSome = true := by rw [← hportal, hp]; rfl
      obtain ⟨portal', hp'⟩ := Option.isSome_iff_exists.1 hp'
      rw [hp']
      dsimp only
      split
      · rfl
      · exact hgateway

theorem hipArgs_same :
    (hipArgs s_vpn).map Word.literal? = (hipArgs s_vpn').map Word.literal? := by
  obtain ⟨hpresent, hne⟩ := hsame.data Key.csdWrapper
  unfold hipArgs
  rw [hsame.yes Key.csdEnable (by decide)]
  generalize s_vpn.getDataItem Key.csdWrapper = value at hpresent hne ⊢
  generalize s_vpn'.getDataItem Key.csdWrapper = value' at hpresent hne ⊢
  split
  · cases value with
    | none =>
      obtain rfl : value' = none := by simpa using hpresent
      rfl
    | some s =>
      obtain ⟨s', rfl⟩ := Option.isSome_iff_exists.1 hpresent.symm
      rcases s with _ | ⟨b, s⟩ <;> rcases s' with _ | ⟨b', s'⟩ <;> first | rfl | cases hne
  · rfl

end

/-- The words of a command line are known. -/
theorem known_gpclientArgv {s_con : NMSettingConnection} {s_vpn : NMSettingVpn}
    {tunName : Option IfName} (logLevel : Nat)
    (htun : ∀ n, tunName = some n → (Word.text n.bytes).Known (profileTexts s_con s_vpn)) :
    ∀ w ∈ gpclientArgv s_vpn logLevel tunName, w.Known (profileTexts s_con s_vpn) := by
  rw [gpclientArgv, List.forall_mem_append, List.forall_mem_append]
  exact ⟨⟨known_serverArgs, known_sharedArgs⟩, known_scriptArgs logLevel htun⟩

/-- Two command lines with the same settings have the same literals in the same places. -/
theorem literal?_gpclientArgv {s_con s_con' : NMSettingConnection} {s_vpn s_vpn' : NMSettingVpn}
    {logLevel : Nat} {owner : Bool} {argv argv' : List Word}
    (h : Builds s_con s_vpn logLevel owner argv) (h' : Builds s_con' s_vpn' logLevel owner argv')
    (hsame : SameSettings s_vpn s_vpn') :
    argv.map Word.literal? = argv'.map Word.literal? := by
  obtain ⟨a, w, tunName, howner, hcreate, rfl⟩ := h.built
  obtain ⟨a', w', tunName', howner', hcreate', rfl⟩ := h'.built
  have htun : (interfaceArgs tunName).map Word.literal? =
      (interfaceArgs tunName').map Word.literal? := by
    have hname := (known_createdName s_vpn hcreate).1
    have hname' := (known_createdName s_vpn' hcreate').1
    cases tunName <;> cases tunName' <;> simp_all [interfaceArgs, Word.literal?]
  have hserver : ((connectServer s_vpn).toList.map Word.text).map Word.literal? =
      ((connectServer s_vpn').toList.map Word.text).map Word.literal? := by
    obtain ⟨server, hserver⟩ := Option.isSome_iff_exists.1 (server_of_checked h.checked).1
    obtain ⟨server', hserver'⟩ := Option.isSome_iff_exists.1 (server_of_checked h'.checked).1
    rw [hserver, hserver']
    rfl
  have hitem : ∀ arg key, (optionalArg arg (s_vpn.getDataItem key)).map Word.literal? =
      (optionalArg arg (s_vpn'.getDataItem key)).map Word.literal? :=
    fun arg key => literal?_optionalArg arg (hsame.data key).2
  have hyes : ∀ arg, ∀ key ∈ yesNoKeys, booleanArg arg (s_vpn.getDataItem key) =
      booleanArg arg (s_vpn'.getDataItem key) := by
    intro arg key hkey
    rw [booleanArg, booleanArg, hsame.yes key hkey]
  have hdtls : dtlsArgs s_vpn = dtlsArgs s_vpn' := by
    rw [dtlsArgs_eq h.valid, dtlsArgs_eq h'.valid, hsame.yes Key.noDtls (by decide),
      hsame.yes Key.disableUdp (by decide), (hsame.data Key.noDtls).1,
      (hsame.data Key.disableUdp).1, ← Option.not_isSome, ← Option.not_isSome,
      (hsame.data Key.noDtls).1]
  simp only [gpclientArgv, serverArgs, sharedArgs, scriptArgs, List.map_append, hserver, htun,
    hitem, hyes _ Key.fixOpenssl (by decide), hyes _ Key.ignoreTlsErrors (by decide), hdtls,
    (server_of_checked h.checked).2, (server_of_checked h'.checked).2, modeArgs_same hsame,
    hipArgs_same hsame, literal?_optionalArg "--key-password" (propsKeyPass_same hsame)]

/-- Without a text that begins with a dash the words that do are literals. -/
theorem optionWords_eq {argv : List Word} (h : NoOptionText argv) :
    optionWords argv = ((argv.map Word.literal?).filterMap id).filter isOption := by
  induction argv with
  | nil => rfl
  | cons w argv ih =>
    cases w with
    | literal s =>
      have hrest : NoOptionText argv := h
      have hliteral : optionWords (.literal s :: argv) =
          if isOption s then s :: optionWords argv else optionWords argv := List.filter_cons
      rw [hliteral, ih hrest, List.map_cons, List.filterMap_cons, Word.literal?, id_eq,
        List.filter_cons]
    | text s =>
      obtain ⟨hs, hrest⟩ : isOption s = false ∧ NoOptionText argv := List.forall_mem_cons.1 h
      have htext : optionWords (.text s :: argv) = optionWords argv :=
        List.filter_cons_of_neg (by simp [Word.bytes, hs])
      rw [htext, ih hrest, List.map_cons, List.filterMap_cons, Word.literal?, id_eq]

/-- What the profile can put among the options of gpclient.

Every word of the command line that begins with a dash is an option literal or a text of the
profile. In the command lines of two profiles with the same settings the same literals stand in the
same places, so that the words that begin with a dash are the same when no text does. -/
theorem options_confined {s_con : NMSettingConnection} {s_vpn : NMSettingVpn} {logLevel : Nat}
    {owner : Bool} {argv : List Word} (h : Builds s_con s_vpn logLevel owner argv) :
    (∀ s ∈ argv.map Word.bytes, isOption s = true →
      (∃ o ∈ optionLiterals, s = cstr o) ∨ some s ∈ profileTexts s_con s_vpn) ∧
    ∀ s_con' s_vpn' argv', Builds s_con' s_vpn' logLevel owner argv' →
      SameSettings s_vpn s_vpn' →
      argv.map Word.literal? = argv'.map Word.literal? ∧
        (NoOptionText argv → NoOptionText argv' → optionWords argv = optionWords argv') := by
  constructor
  · obtain ⟨a, w, tunName, -, hcreate, rfl⟩ := h.built
    intro s hs hdash
    obtain ⟨word, hword, rfl⟩ := List.mem_map.1 hs
    have hknown := known_gpclientArgv logLevel (known_createdName s_vpn hcreate).2 word hword
    cases word with
    | literal s => exact .inl (hknown hdash)
    | text s => exact .inr (hknown hdash)
  · intro s_con' s_vpn' argv' h' hsame
    have hliterals := literal?_gpclientArgv h h' hsame
    refine ⟨hliterals, fun hno hno' => ?_⟩
    rw [optionWords_eq hno, optionWords_eq hno', hliterals]

/-! ## A gateway that begins with a dash -/

/-- A connection setting without an interface name. -/
def anyInterface : NMSettingConnection := ⟨none, []⟩

/-- A profile with only a gateway. -/
def gatewayVpn (gateway : String) : NMSettingVpn where
  data := (∅ : StrMap).insert Key.gateway (cstr gateway)
  secrets := AList.singleton Key.cookie (cstr "{}")
  secretFlags := fun _ => some nmSettingSecretFlagNotSaved

/-- Its command line on a host without TUN devices. -/
def gatewayArgv (gateway : String) : List Word :=
  gpclientArgv (gatewayVpn gateway) logNotice (some vpn0)

theorem builds_gatewayArgv (gateway : String) (hvalid : validVpn (gatewayVpn gateway) = true)
    (hchecks : startChecks (gatewayVpn gateway) startAnswers.version = .ok (cstr "{}")) :
    Builds anyInterface (gatewayVpn gateway) logNotice true (gatewayArgv gateway) where
  valid := hvalid
  checked := ⟨_, _, hchecks⟩
  built := ⟨startAnswers.tun, .start noDevices, some vpn0, rfl, by decide +kernel, rfl⟩

theorem getDataItem_gatewayVpn (gateway : String) (key : CStr) :
    (gatewayVpn gateway).getDataItem key =
      if key = Key.gateway then some (cstr gateway) else none := by
  have hitem : (gatewayVpn gateway).getDataItem key =
      ((∅ : StrMap).insert Key.gateway (cstr gateway)).lookup key := rfl
  rw [hitem]
  split
  next hkey => rw [hkey, AList.lookup_insert]
  next hkey => rw [AList.lookup_insert_ne hkey, AList.lookup_empty]

theorem sameSettings_gatewayVpn {gateway gateway' : String} (h : cstr gateway ≠ [])
    (h' : cstr gateway' ≠ []) : SameSettings (gatewayVpn gateway) (gatewayVpn gateway') where
  data key := by
    rw [getDataItem_gatewayVpn, getDataItem_gatewayVpn, SamePresence]
    split <;> simp [h, h']
  secrets key := ⟨rfl, rfl⟩
  yes key hkey := by
    have hne : ∀ key ∈ yesNoKeys, key ≠ Key.gateway := by decide +kernel
    rw [getDataItem_gatewayVpn, getDataItem_gatewayVpn, if_neg (hne key hkey),
      if_neg (hne key hkey)]

theorem options_confined_gateways :
    (∀ s ∈ (gatewayArgv "vpn.example.com").map Word.bytes, isOption s = true →
      (∃ o ∈ optionLiterals, s = cstr o) ∨
        some s ∈ profileTexts anyInterface (gatewayVpn "vpn.example.com")) ∧
    optionWords (gatewayArgv "vpn.example.com") = optionWords (gatewayArgv "gw.example.org") := by
  have hbuilds := builds_gatewayArgv "vpn.example.com" (by decide +kernel) (by decide +kernel)
  have hbuilds' := builds_gatewayArgv "gw.example.org" (by decide +kernel) (by decide +kernel)
  have hsame : SameSettings (gatewayVpn "vpn.example.com") (gatewayVpn "gw.example.org") :=
    sameSettings_gatewayVpn (by decide) (by decide)
  refine ⟨(options_confined hbuilds).1, ?_⟩
  have hwords := ((options_confined hbuilds).2 _ _ _ hbuilds' hsame).2
  exact hwords (by decide +kernel) (by decide +kernel)

/-- A gateway that begins with a dash is a word that begins with a dash and no literal, and another
gateway in its place is none. -/
theorem gateway_injects :
    (¬∀ s_con s_vpn logLevel owner argv, Builds s_con s_vpn logLevel owner argv →
      ∀ s ∈ argv.map Word.bytes, isOption s = true → ∃ o ∈ optionLiterals, s = cstr o) ∧
    ¬∀ s_con s_vpn s_vpn' logLevel owner argv argv', Builds s_con s_vpn logLevel owner argv →
      Builds s_con s_vpn' logLevel owner argv' → SameSettings s_vpn s_vpn' →
      optionWords argv = optionWords argv' := by
  have hdash := builds_gatewayArgv "-x" (by decide +kernel) (by decide +kernel)
  have hplain := builds_gatewayArgv "vpn.example.com" (by decide +kernel) (by decide +kernel)
  constructor
  · intro h
    have hmem : cstr "-x" ∈ (gatewayArgv "-x").map Word.bytes := by decide +kernel
    exact absurd (h _ _ _ _ _ hdash _ hmem (by decide)) (by decide)
  · intro h
    have hsame : SameSettings (gatewayVpn "-x") (gatewayVpn "vpn.example.com") :=
      sameSettings_gatewayVpn (by decide) (by decide)
    have hwords := congrArg List.length (h _ _ _ _ _ _ _ hdash hplain hsame)
    exact absurd hwords (by decide +kernel)

end NmGpclient
