import NmGpclient.Agreement

/-!
# The pieces of a command line

The command lines of gpclient and gpauth are sequences of pieces, each of which may be empty. They
are read from the front: what follows a piece never starts with the literal of the piece (`Starts`),
so two command lines that are the same have the same pieces, and two profiles have the same command
line exactly when it shows the same of both.
-/

namespace NmGpclient

/-! ## Reading a command line from its front -/

/-- The words start with one of these literals, if there are any. -/
def Starts (heads : List String) (words : List CStr) : Prop :=
  ∀ w ∈ words.head?, ∃ o ∈ heads, w = cstr o

/-- The literal `arg`, when `b` is set. -/
def flagArg (arg : String) (b : Bool) : List Word := if b then [lit arg] else []

section
variable {arg : String} {heads : List String} {words rest rest' : List CStr} {b b' : Bool}
  {value value' : Option CStr}

theorem Starts.nil : Starts heads [] := nofun

theorem Starts.cons (h : arg ∈ heads) : Starts heads (cstr arg :: words) := by
  rintro _ ⟨⟩
  exact ⟨arg, h, rfl⟩

theorem Starts.self : Starts [arg] (cstr arg :: words) := .cons List.mem_cons_self

theorem Starts.of_cons (h : Starts heads rest) : Starts (arg :: heads) rest := fun w hw =>
  (h w hw).imp fun _ ho => ⟨List.mem_cons_of_mem _ ho.1, ho.2⟩

theorem Starts.flagArg (h : Starts heads rest) :
    Starts (arg :: heads) ((flagArg arg b).map Word.bytes ++ rest) := by
  cases b with
  | false => exact h.of_cons
  | true => exact .cons List.mem_cons_self

/-- Words that start with other literals do not start with this one. -/
theorem Starts.ne_cons (h : Starts heads rest) (harg : arg ∉ heads) : rest ≠ cstr arg :: words := by
  rintro rfl
  obtain ⟨o, ho, heq⟩ := h _ rfl
  exact harg (cstr_inj.1 heq ▸ ho)

theorem flagArg_cancel (harg : arg ∉ heads) (hrest : Starts heads rest)
    (hrest' : Starts heads rest')
    (h : (flagArg arg b).map Word.bytes ++ rest = (flagArg arg b').map Word.bytes ++ rest') :
    b = b' ∧ rest = rest' := by
  cases b <;> cases b'
  · exact ⟨rfl, h⟩
  · exact absurd h (hrest.ne_cons harg)
  · exact absurd h.symm (hrest'.ne_cons harg)
  · exact ⟨rfl, (List.cons.inj h).2⟩

end

theorem optionalArg_none {arg : String} {value : Option CStr} (h : nonempty value = none) :
    optionalArg arg value = [] := by
  rw [optionalArg, h]

theorem optionalArg_some {arg : String} {value : Option CStr} {v : CStr}
    (h : nonempty value = some v) : optionalArg arg value = [lit arg, .text v] := by
  rw [optionalArg, h]

/-- The words of options with their values. -/
def optionsArgs (options : List (String × Option CStr)) : List Word :=
  options.flatMap fun o => optionalArg o.1 o.2

theorem Starts.optionsArgs {heads : List String} {rest : List CStr} (h : Starts heads rest) :
    ∀ options : List (String × Option CStr),
      Starts (options.map Prod.fst ++ heads) ((optionsArgs options).map Word.bytes ++ rest)
  | [] => h
  | (arg, value) :: options => by
      have ih := Starts.optionsArgs h options
      rw [NmGpclient.optionsArgs, List.flatMap_cons, List.map_append, List.append_assoc]
      cases hv : nonempty value with
      | none =>
        rw [optionalArg_none hv]
        exact ih.of_cons
      | some v =>
        rw [optionalArg_some hv]
        exact .cons List.mem_cons_self

/-- The same words stand for the same values, when no option comes twice or is among `heads`. -/
theorem optionsArgs_cancel {heads : List String} {rest rest' : List CStr}
    (hrest : Starts heads rest) (hrest' : Starts heads rest') :
    ∀ options options' : List (String × Option CStr),
      options.map Prod.fst = options'.map Prod.fst →
      (options.map Prod.fst ++ heads).Nodup →
      (optionsArgs options).map Word.bytes ++ rest =
        (optionsArgs options').map Word.bytes ++ rest' →
      options.map (fun o => nonempty o.2) = options'.map (fun o => nonempty o.2) ∧ rest = rest'
  | [], [], _, _, h => ⟨rfl, h⟩
  | (arg, value) :: options, (arg', value') :: options', hnames, hnodup, h => by
      obtain ⟨rfl, hrests⟩ : arg = arg' ∧ options.map Prod.fst = options'.map Prod.fst :=
        List.cons.inj hnames
      obtain ⟨harg, hnodup⟩ : arg ∉ options.map Prod.fst ++ heads ∧ _ := List.nodup_cons.1 hnodup
      have hstarts := hrest.optionsArgs options
      have hstarts' := hrest'.optionsArgs options'
      rw [← hrests] at hstarts'
      rw [optionsArgs, optionsArgs, List.flatMap_cons, List.flatMap_cons, List.map_append,
        List.map_append, List.append_assoc, List.append_assoc] at h
      rw [List.map_cons, List.map_cons]
      dsimp only
      cases hv : nonempty value with
      | none =>
        rw [optionalArg_none hv] at h
        cases hv' : nonempty value' with
        | none =>
          rw [optionalArg_none hv'] at h
          obtain ⟨hvalues, h⟩ := optionsArgs_cancel hrest hrest' _ _ hrests hnodup h
          exact ⟨by rw [hvalues], h⟩
        | some v' =>
          rw [optionalArg_some hv'] at h
          exact absurd h (hstarts.ne_cons harg)
      | some v =>
        rw [optionalArg_some hv] at h
        cases hv' : nonempty value' with
        | none =>
          rw [optionalArg_none hv'] at h
          exact absurd h.symm (hstarts'.ne_cons harg)
        | some v' =>
          rw [optionalArg_some hv'] at h
          obtain ⟨hvv, htail⟩ := List.cons.inj (List.cons.inj h).2
          obtain rfl : v = v' := hvv
          obtain ⟨hvalues, htail⟩ := optionsArgs_cancel hrest hrest' _ _ hrests hnodup htail
          exact ⟨by rw [hvalues], htail⟩

/-- The words depend on the values that are not empty. -/
theorem optionsArgs_congr : ∀ {options options' : List (String × Option CStr)},
    options.map Prod.fst = options'.map Prod.fst →
    options.map (fun o => nonempty o.2) = options'.map (fun o => nonempty o.2) →
    optionsArgs options = optionsArgs options'
  | [], [], _, _ => rfl
  | (arg, value) :: options, (arg', value') :: options', hnames, hvalues => by
      obtain ⟨harg, hnames⟩ := List.cons.inj hnames
      obtain ⟨hvalue, hvalues⟩ := List.cons.inj hvalues
      dsimp only at harg hvalue
      rw [optionsArgs, optionsArgs, List.flatMap_cons, List.flatMap_cons, harg, optionalArg,
        optionalArg, hvalue]
      exact congrArg _ (optionsArgs_congr hnames hvalues)

/-! ## The pieces of gpclient's command line -/

section
variable (s_vpn : NMSettingVpn)

/-- The profile asks for the portal to choose the gateway. -/
def autoMode : Bool := !directGatewayMode s_vpn && isYes (s_vpn.getDataItem Key.autoGateway)

/-- The gateway that gpclient is to take at the portal. -/
def fixedGateway : Option CStr :=
  if directGatewayMode s_vpn || isYes (s_vpn.getDataItem Key.autoGateway) then none
  else nonempty (propsVpnGw s_vpn)

theorem modeArgs_eq : modeArgs s_vpn =
    flagArg "--as-gateway" (directGatewayMode s_vpn) ++
      (flagArg "--auto-gateway" (autoMode s_vpn) ++
        optionalArg "--gateway" (fixedGateway s_vpn)) := by
  unfold modeArgs autoMode fixedGateway
  cases hdirect : directGatewayMode s_vpn with
  | true => rfl
  | false =>
    obtain ⟨portal, hportal⟩ : ∃ portal, propsPortal s_vpn = some portal := by
      rw [directGatewayMode, Bool.or_eq_false_iff] at hdirect
      exact Option.isSome_iff_exists.1 (by simpa using hdirect.2)
    rw [hportal]
    cases isYes (s_vpn.getDataItem Key.autoGateway) with
    | true => rfl
    | false => simp [flagArg, optionalArg]

/-- The profile does not say that DTLS is wanted. -/
def httpsOnly : Bool :=
  (s_vpn.getDataItem Key.noDtls).or (s_vpn.getDataItem Key.disableUdp) != some (cstr "no")

theorem dtlsArgs_eq_flagArg : dtlsArgs s_vpn = flagArg "--no-dtls" (httpsOnly s_vpn) := by
  unfold dtlsArgs httpsOnly flagArg
  dsimp only
  split <;> simp_all

end

section
variable {s_vpn s_vpn' : NMSettingVpn} {logLevel : Nat} {tunName : Option IfName}

theorem booleanArg_eq (arg : String) (value : Option CStr) :
    booleanArg arg value = flagArg arg (isYes value) := rfl

theorem starts_hip : Starts ["--hip", "--verbose"]
    ((hipArgs s_vpn).map Word.bytes ++ (verboseArgs logLevel).map Word.bytes) := by
  have hverbose : Starts ["--hip", "--verbose"] ((verboseArgs logLevel).map Word.bytes) := by
    unfold verboseArgs
    split
    · split <;> exact .cons (by decide)
    · exact .nil
  unfold hipArgs
  split
  · split
    · exact hverbose
    · exact .cons (by decide)
    · exact .cons (by decide)
  · exact hverbose

/-- The words after the options agree when DTLS and the HIP wrapper do. -/
theorem scriptArgs_cancel (h : (scriptArgs s_vpn logLevel tunName).map Word.bytes =
      (scriptArgs s_vpn' logLevel tunName).map Word.bytes) :
    httpsOnly s_vpn = httpsOnly s_vpn' ∧
      (hipArgs s_vpn).map Word.bytes = (hipArgs s_vpn').map Word.bytes := by
  simp only [scriptArgs, List.map_append, List.append_assoc, List.append_cancel_left_eq,
    dtlsArgs_eq_flagArg] at h
  obtain ⟨hdtls, h⟩ := flagArg_cancel (by decide) starts_hip starts_hip h
  exact ⟨hdtls, List.append_cancel_right h⟩

/-- The options with a value, in the order of the command line. -/
def gpclientOptions (s_vpn : NMSettingVpn) : List (String × Option CStr) :=
  [("--gateway", fixedGateway s_vpn), ("--mtu", s_vpn.getDataItem Key.mtu),
    ("--certificate", s_vpn.getDataItem Key.usercert), ("--sslkey", s_vpn.getDataItem Key.privkey),
    ("--key-password", propsKeyPass s_vpn),
    ("--client-version", s_vpn.getDataItem Key.clientVersion),
    ("--os", s_vpn.getDataItem Key.reportedOs)]

/-- Their names. -/
def gpclientOptionNames : List String :=
  ["--gateway", "--mtu", "--certificate", "--sslkey", "--key-password", "--client-version", "--os"]

/-- The command line, from its front. -/
theorem gpclientArgv_eq (s_vpn : NMSettingVpn) (logLevel : Nat) (tunName : Option IfName) :
    gpclientArgv s_vpn logLevel tunName =
      [.literal gpclientBinary] ++
        (flagArg "--fix-openssl" (isYes (s_vpn.getDataItem Key.fixOpenssl)) ++
        (flagArg "--ignore-tls-errors" (isYes (s_vpn.getDataItem Key.ignoreTlsErrors)) ++
        ([lit "connect"] ++ ((connectServer s_vpn).toList.map .text ++
        ([lit "--lock-file", .literal gpclientLockFile] ++
        (flagArg "--cookie-on-stdin" (propsCookie s_vpn).isSome ++
        ([lit "--browser", .literal gpclientBrowserHelperPath] ++
        (flagArg "--as-gateway" (directGatewayMode s_vpn) ++
        (flagArg "--auto-gateway" (autoMode s_vpn) ++
        (optionsArgs (gpclientOptions s_vpn) ++ scriptArgs s_vpn logLevel tunName)))))))))) := by
  have hcookie : (if (propsCookie s_vpn).isSome then [lit "--cookie-on-stdin"] else []) =
    flagArg "--cookie-on-stdin" (propsCookie s_vpn).isSome := rfl
  simp only [gpclientArgv, serverArgs, sharedArgs, modeArgs_eq, booleanArg_eq, hcookie, optionsArgs,
    gpclientOptions, List.flatMap_cons, List.flatMap_nil, List.append_assoc, List.append_nil]

/-- Two profiles that the command line of gpclient does not tell apart: the server, and what each
option says. -/
structure SameGpclient (s_vpn s_vpn' : NMSettingVpn) : Prop where
  server : connectServer s_vpn = connectServer s_vpn'
  fixOpenssl : isYes (s_vpn.getDataItem Key.fixOpenssl) = isYes (s_vpn'.getDataItem Key.fixOpenssl)
  ignoreTls : isYes (s_vpn.getDataItem Key.ignoreTlsErrors) =
    isYes (s_vpn'.getDataItem Key.ignoreTlsErrors)
  direct : directGatewayMode s_vpn = directGatewayMode s_vpn'
  auto : autoMode s_vpn = autoMode s_vpn'
  options : (gpclientOptions s_vpn).map (fun o => nonempty o.2) =
    (gpclientOptions s_vpn').map (fun o => nonempty o.2)
  httpsOnly : httpsOnly s_vpn = httpsOnly s_vpn'
  hip : (hipArgs s_vpn).map Word.bytes = (hipArgs s_vpn').map Word.bytes

/-- The command lines are the same exactly when they cannot tell the profiles apart, for profiles
with a server and the same cookie. -/
theorem gpclientArgv_same_iff (hserver : (connectServer s_vpn).isSome = true)
    (hserver' : (connectServer s_vpn').isSome = true)
    (hcookie : propsCookie s_vpn = propsCookie s_vpn') :
    (gpclientArgv s_vpn logLevel tunName).map Word.bytes =
        (gpclientArgv s_vpn' logLevel tunName).map Word.bytes ↔ SameGpclient s_vpn s_vpn' := by
  rw [gpclientArgv_eq, gpclientArgv_eq, hcookie]
  simp only [List.map_append, List.append_cancel_left_eq]
  constructor
  · intro h
    obtain ⟨server, hserver⟩ := Option.isSome_iff_exists.1 hserver
    obtain ⟨server', hserver'⟩ := Option.isSome_iff_exists.1 hserver'
    rw [hserver, hserver'] at h
    have hscript : ∀ s_vpn, Starts ["--script"]
        ((scriptArgs s_vpn logLevel tunName).map Word.bytes) := fun s_vpn => .self
    have hoptions : ∀ s_vpn, Starts (gpclientOptionNames ++ ["--script"])
        ((optionsArgs (gpclientOptions s_vpn)).map Word.bytes ++
          (scriptArgs s_vpn logLevel tunName).map Word.bytes) :=
      fun s_vpn => (hscript s_vpn).optionsArgs (gpclientOptions s_vpn)
    have hnodup : (gpclientOptionNames ++ ["--script"]).Nodup := by decide
    obtain ⟨hfix, h⟩ := flagArg_cancel (by decide) (.flagArg .self) (.flagArg .self) h
    obtain ⟨hignore, h⟩ := flagArg_cancel (by decide) .self .self h
    obtain ⟨hsame, h⟩ := List.cons.inj (List.cons.inj h).2
    replace h := List.append_cancel_left (List.append_cancel_left
      (List.append_cancel_left (List.append_cancel_left h)))
    obtain ⟨hdirect, h⟩ := flagArg_cancel (by decide) (hoptions s_vpn).flagArg
      (hoptions s_vpn').flagArg h
    obtain ⟨hauto, h⟩ := flagArg_cancel (by decide) (hoptions s_vpn) (hoptions s_vpn') h
    obtain ⟨hvalues, h⟩ := optionsArgs_cancel (hscript s_vpn) (hscript s_vpn')
      (gpclientOptions s_vpn) (gpclientOptions s_vpn') rfl hnodup h
    obtain ⟨hhttps, hhip⟩ := scriptArgs_cancel h
    exact ⟨by rw [hserver, hserver']; exact congrArg some hsame, hfix, hignore, hdirect, hauto,
      hvalues, hhttps, hhip⟩
  · intro h
    have hoptions : optionsArgs (gpclientOptions s_vpn) = optionsArgs (gpclientOptions s_vpn') :=
      optionsArgs_congr rfl h.options
    simp only [h.server, h.fixOpenssl, h.ignoreTls, h.direct, h.auto, hoptions, scriptArgs,
      List.map_append, dtlsArgs_eq_flagArg, h.httpsOnly, h.hip]

end

/-! ## The pieces of gpauth's command line -/

section
variable (options secrets : StrMap)

/-- The options with a value, in the order of the command line. -/
def gpauthOptions : List (String × Option CStr) :=
  [("--certificate", options.lookup Key.usercert), ("--sslkey", options.lookup Key.privkey),
    ("--key-password", (nonempty (secrets.lookup Key.keyPass)).or (options.lookup Key.keyPass)),
    ("--client-version", options.lookup Key.clientVersion),
    ("--host-id", options.lookup Key.hostId), ("--os", options.lookup Key.reportedOs)]

/-- The command line that the dialog runs gpauth with, when it has a server. -/
def derivedGpauthArgv : Option (List CStr) :=
  (authServer options secrets).map fun server =>
    (gpauthArgv server (dialogAsGateway options) (dialogBrowser options) options secrets).map
      Word.bytes

end

/-- Two profiles that the command line of gpauth does not tell apart. -/
structure SameGpauth (options options' secrets : StrMap) : Prop where
  browser : dialogBrowser options = dialogBrowser options'
  values : (gpauthOptions options secrets).map (fun o => nonempty o.2) =
    (gpauthOptions options' secrets).map (fun o => nonempty o.2)
  fixOpenssl : isYes (options.lookup Key.fixOpenssl) = isYes (options'.lookup Key.fixOpenssl)
  ignoreTls : isYes (options.lookup Key.ignoreTlsErrors) =
    isYes (options'.lookup Key.ignoreTlsErrors)

/-- In the same mode the command lines are the same exactly when they cannot tell the profiles
apart. -/
theorem gpauthArgv_same_iff {options options' secrets : StrMap} {server server' : CStr}
    {asGateway : Bool} :
    (gpauthArgv server asGateway (dialogBrowser options) options secrets).map Word.bytes =
        (gpauthArgv server' asGateway (dialogBrowser options') options' secrets).map Word.bytes ↔
      server = server' ∧ SameGpauth options options' secrets := by
  have heq : ∀ server browser options, gpauthArgv server asGateway browser options secrets =
      ([lit "/usr/bin/gpauth"] ++ if asGateway then [lit "--gateway"] else []) ++
        ([.text server, lit "--browser", .text browser] ++
          (optionsArgs (gpauthOptions options secrets) ++
            (flagArg "--fix-openssl" (isYes (options.lookup Key.fixOpenssl)) ++
              flagArg "--ignore-tls-errors" (isYes (options.lookup Key.ignoreTlsErrors))))) := by
    intro server browser options
    simp only [gpauthArgv_eq, booleanArg_eq, optionsArgs, gpauthOptions, List.flatMap_cons,
      List.flatMap_nil, List.append_assoc, List.append_nil, List.cons_append, List.nil_append]
  rw [heq, heq]
  simp only [List.map_append, List.append_assoc, List.append_cancel_left_eq]
  constructor
  · intro h
    obtain ⟨hserver, h⟩ := List.cons.inj h
    obtain ⟨hbrowser, h⟩ := List.cons.inj (List.cons.inj h).2
    have hlast : ∀ b, Starts ["--ignore-tls-errors"]
        ((flagArg "--ignore-tls-errors" b).map Word.bytes) := by
      rintro (_ | _)
      · exact .nil
      · exact .self
    have hflags : ∀ b b', Starts ["--fix-openssl", "--ignore-tls-errors"]
        ((flagArg "--fix-openssl" b).map Word.bytes ++
          (flagArg "--ignore-tls-errors" b').map Word.bytes) :=
      fun b b' => (hlast b').flagArg
    have hnodup : (["--certificate", "--sslkey", "--key-password", "--client-version", "--host-id",
        "--os"] ++ ["--fix-openssl", "--ignore-tls-errors"]).Nodup := by decide
    obtain ⟨hvalues, h⟩ := optionsArgs_cancel (hflags _ _) (hflags _ _)
      (gpauthOptions options secrets) (gpauthOptions options' secrets) rfl hnodup h
    obtain ⟨hfix, h⟩ := flagArg_cancel (by decide) (hlast _) (hlast _) h
    have hignore := congrArg List.length h
    refine ⟨hserver, hbrowser, hvalues, hfix, ?_⟩
    cases hb : isYes (options.lookup Key.ignoreTlsErrors) <;>
      cases hb' : isYes (options'.lookup Key.ignoreTlsErrors) <;> simp_all [flagArg]
  · rintro ⟨rfl, h⟩
    have hvalues : optionsArgs (gpauthOptions options secrets) =
        optionsArgs (gpauthOptions options' secrets) := optionsArgs_congr rfl h.values
    rw [h.browser, hvalues, h.fixOpenssl, h.ignoreTls]

end NmGpclient
