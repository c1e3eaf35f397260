import NmGpclient.Dialog.Response

/-!
# What is authenticated is what is connected

The auth dialog and the service compute the mode, the server and the options from the profile on
their own, the dialog for gpauth and the service for gpclient. Once the dialog's response is among
the secrets of the profile, the two command lines agree.

A program sees the bytes of a word and not where it comes from: a text of the profile may be an
option. So the options that the source adds are found among the words first, and a command line as
its program sees it has them and such texts.
-/

namespace NmGpclient

/-! ## Reading a command line -/

/-- The text of a word, when it is one of the profile. -/
def Word.text? : Word → Option CStr
  | .literal _ => none
  | .text s => some s

/-- The text after the first literal `arg`. -/
def optionValue (arg : String) : List Word → Option CStr
  | [] => none
  | w :: ws => if w = lit arg then ws.head?.bind Word.text? else optionValue arg ws

/-- The command line as its program sees it. -/
def seen (argv : List Word) : List CStr := argv.map Word.bytes

/-- The texts of the profile on a command line. -/
def textsOf (argv : List Word) : List CStr := argv.filterMap Word.text?

/-- The word after the first `arg`. -/
def valueAfter (arg : String) : List CStr → Option CStr
  | [] => none
  | s :: words => if s = cstr arg then words.head? else valueAfter arg words

/-- A program finds `arg` among its words when it was `added`, or is one of the texts. -/
def ShowsOption (argv : List Word) (arg : String) (added : Prop) : Prop :=
  cstr arg ∈ seen argv ↔ added ∨ cstr arg ∈ textsOf argv

/-- The server as gpauth reads it: the first word after its name that is not `--gateway`. -/
def gpauthOperand (words : List CStr) : Option CStr := words.tail.find? (· ≠ cstr "--gateway")

theorem cstr_inj {s t : String} : cstr s = cstr t ↔ s = t := by
  unfold cstr
  rw [Array.toList_inj, ← String.toByteArray_inj, ByteArray.ext_iff]
  rfl

@[simp] theorem lit_inj {a b : String} : lit a = lit b ↔ a = b := by
  simp [lit, cstr_inj]

@[simp] theorem literal_cstr (s : String) : Word.literal (cstr s) = lit s := rfl

@[simp] theorem text?_lit (s : String) : (lit s).text? = none := rfl

@[simp] theorem text?_text (s : CStr) : (Word.text s).text? = some s := rfl

@[simp] theorem text_ne_lit (s : CStr) (a : String) : Word.text s ≠ lit a := nofun

@[simp] theorem lit_ne_text (s : CStr) (a : String) : lit a ≠ Word.text s := nofun

section
variable {arg arg' : String} {value : Option CStr} {a b : List Word}

@[simp] theorem optionValue_nil : optionValue arg [] = none := rfl

@[simp] theorem optionValue_cons (w : Word) :
    optionValue arg (w :: a) = if w = lit arg then a.head?.bind Word.text? else optionValue arg a :=
  rfl

/-- Words without the option are skipped. -/
theorem optionValue_append_of_notMem (h : lit arg ∉ a) :
    optionValue arg (a ++ b) = optionValue arg b := by
  induction a with
  | nil => rfl
  | cons w a ih =>
    rw [List.mem_cons, not_or] at h
    rw [List.cons_append, optionValue_cons, if_neg (Ne.symm h.1), ih h.2]

theorem optionValue_of_notMem (h : lit arg ∉ a) : optionValue arg a = none := by
  simpa using optionValue_append_of_notMem (b := []) h

/-- The option itself gives its value, when it is there. -/
@[simp] theorem optionValue_optionalArg :
    optionValue arg (optionalArg arg value ++ b) = (nonempty value).or (optionValue arg b) := by
  unfold optionalArg
  cases nonempty value with
  | none => rfl
  | some v => simp

@[simp] theorem optionValue_optionalArg_self :
    optionValue arg (optionalArg arg value) = nonempty value := by
  simpa using optionValue_optionalArg (b := [])

@[simp] theorem lit_mem_optionalArg :
    lit arg ∈ optionalArg arg' value ↔ arg = arg' ∧ (nonempty value).isSome = true := by
  unfold optionalArg
  cases nonempty value with
  | none => simp
  | some v => simp

@[simp] theorem lit_mem_booleanArg :
    lit arg ∈ booleanArg arg' value ↔ arg = arg' ∧ isYes value = true := by
  unfold booleanArg
  split <;> simp_all

end

section
variable {arg : String} {a b : List CStr} {argv : List Word}

/-- The words of a program are the literals of the source and the texts. -/
theorem mem_seen : cstr arg ∈ seen argv ↔ lit arg ∈ argv ∨ cstr arg ∈ textsOf argv := by
  unfold seen textsOf
  induction argv with
  | nil => simp
  | cons w argv ih =>
    cases w with
    | literal s =>
      have hlit : lit arg = Word.literal s ↔ cstr arg = s :=
        ⟨Word.literal.inj, congrArg Word.literal⟩
      rw [List.map_cons, List.mem_cons, ih, List.mem_cons, hlit, or_assoc]
      rfl
    | text s =>
      rw [List.map_cons, List.mem_cons, ih, List.mem_cons, or_iff_right (lit_ne_text s arg),
        List.filterMap_cons_some (text?_text s), List.mem_cons]
      exact or_left_comm

theorem seen_append (argv argv' : List Word) : seen (argv ++ argv') = seen argv ++ seen argv' :=
  List.map_append

@[simp] theorem textsOf_append (argv argv' : List Word) :
    textsOf (argv ++ argv') = textsOf argv ++ textsOf argv' := List.filterMap_append

@[simp] theorem textsOf_lit (s : String) : textsOf (lit s :: argv) = textsOf argv := rfl

@[simp] theorem textsOf_text (s : CStr) : textsOf (.text s :: argv) = s :: textsOf argv := rfl

@[simp] theorem textsOf_nil : textsOf [] = [] := rfl

@[simp] theorem textsOf_optionalArg (arg : String) (value : Option CStr) :
    textsOf (optionalArg arg value) = (nonempty value).toList := by
  unfold optionalArg
  cases nonempty value <;> rfl

@[simp] theorem textsOf_booleanArg (arg : String) (value : Option CStr) :
    textsOf (booleanArg arg value) = [] := by
  unfold booleanArg
  split <;> rfl

theorem ShowsOption.of_mem_iff {added : Prop} (h : lit arg ∈ argv ↔ added) :
    ShowsOption argv arg added := by
  rw [ShowsOption, mem_seen, h]

theorem mem_seen_of_notMem (h : cstr arg ∉ textsOf argv) :
    cstr arg ∈ seen argv ↔ lit arg ∈ argv := by
  rw [mem_seen, or_iff_left h]

@[simp] theorem valueAfter_cons (s : CStr) :
    valueAfter arg (s :: a) = if s = cstr arg then a.head? else valueAfter arg a := rfl

theorem valueAfter_append_of_notMem (h : cstr arg ∉ a) :
    valueAfter arg (a ++ b) = valueAfter arg b := by
  induction a with
  | nil => rfl
  | cons s a ih =>
    rw [List.mem_cons, not_or] at h
    rw [List.cons_append, valueAfter_cons, if_neg (Ne.symm h.1), ih h.2]

theorem valueAfter_of_notMem (h : cstr arg ∉ a) : valueAfter arg a = none := by
  simpa using! valueAfter_append_of_notMem (b := []) h

/-- An option that is no text has the value that it was added with. -/
theorem valueAfter_seen (htexts : cstr arg ∉ textsOf argv)
    (hvalue : lit arg ∈ argv → (optionValue arg argv).isSome = true) :
    valueAfter arg (seen argv) = optionValue arg argv := by
  by_cases hmem : lit arg ∈ argv
  · have hsome := hvalue hmem
    obtain ⟨before, rest, rfl, hbefore⟩ := List.eq_append_cons_of_mem hmem
    have hseen : cstr arg ∉ seen before := by
      rw [mem_seen, or_iff_right hbefore]
      intro htext
      refine htexts ?_
      rw [textsOf_append]
      exact List.mem_append_left _ htext
    rw [optionValue_append_of_notMem hbefore, optionValue_cons, if_pos rfl] at hsome ⊢
    rw [seen_append, valueAfter_append_of_notMem hseen, seen, List.map_cons, valueAfter_cons]
    rw [if_pos (show (lit arg).bytes = cstr arg from rfl)]
    -- the value is a text, so it is seen as it is
    rcases rest with _ | ⟨_ | value, rest⟩
    · cases hsome
    · cases hsome
    · rfl
  · rw [optionValue_of_notMem hmem, valueAfter_of_notMem]
    rw [mem_seen, not_or]
    exact ⟨hmem, htexts⟩

end

/-! ## The words of each program -/

/-- The options with a value that both programs take. -/
def sharedOptions : List String :=
  ["--certificate", "--sslkey", "--key-password", "--client-version", "--os"]

/-- The flags that both programs take. -/
def sharedFlags : List String := ["--fix-openssl", "--ignore-tls-errors"]

section
variable (options secrets : StrMap)

/-- The dialog's setting words are those the service has for the same text. -/
theorem addOptionalGpauthSettingArg_eq (key : CStr) (arg : String) :
    addOptionalGpauthSettingArg options key arg = optionalArg arg (options.lookup key) := by
  unfold addOptionalGpauthSettingArg addOptionalArg optionalArg lookupNonempty
  cases nonempty (options.lookup key) <;> rfl

theorem isYes_nonempty (value : Option CStr) : isYes (nonempty value) = isYes value := by
  rcases value with _ | _ | _ <;> rfl

/-- The dialog's flags are those the service has for the same text. -/
theorem addGpauthBooleanArg_eq (key : CStr) (arg : String) :
    addGpauthBooleanArg options key arg = booleanArg arg (options.lookup key) := by
  unfold addGpauthBooleanArg booleanArg lookupNonempty
  rw [isYes_nonempty]

/-- The secret words, for the secret or else the data item. -/
theorem addOptionalGpauthSecretArg_eq (key : CStr) (arg : String) :
    addOptionalGpauthSecretArg options secrets key arg =
      optionalArg arg ((nonempty (secrets.lookup key)).or (options.lookup key)) := by
  unfold addOptionalGpauthSecretArg addOptionalArg optionalArg lookupSecretOrOption lookupNonempty
  cases hsecret : nonempty (secrets.lookup key) with
  | some value => simp [nonempty_some_of_ne (nonempty_eq_some.1 hsecret).2]
  | none =>
    rw [Option.none_or]
    cases nonempty (options.lookup key) <;> rfl

end

section
variable {arg : String} {s_vpn : NMSettingVpn}

theorem lit_mem_modeArgs (h : lit arg ∈ modeArgs s_vpn) :
    arg = "--as-gateway" ∨ arg = "--auto-gateway" ∨ arg = "--gateway" := by
  unfold modeArgs at h
  split at h
  · simp_all
  · split at h
    · simp at h
    · split at h
      · simp_all
      · simp_all

/-- The service connects directly exactly when it asks gpclient to. -/
theorem asGateway_mem_modeArgs :
    lit "--as-gateway" ∈ modeArgs s_vpn ↔ directGatewayMode s_vpn = true := by
  unfold modeArgs
  split
  · simp_all
  · split
    · simp_all
    · split <;> simp_all

theorem lit_mem_dtlsArgs (h : lit arg ∈ dtlsArgs s_vpn) : arg = "--no-dtls" := by
  unfold dtlsArgs at h
  dsimp only at h
  split at h <;> simp_all

theorem lit_mem_hipArgs (h : lit arg ∈ hipArgs s_vpn) : arg = "--hip" := by
  unfold hipArgs at h
  split at h
  · split at h <;> simp_all
  · simp at h

theorem lit_mem_verboseArgs {logLevel : Nat} (h : lit arg ∈ verboseArgs logLevel) :
    arg = "--verbose" := by
  unfold verboseArgs at h
  split at h
  · split at h <;> simp_all
  · simp at h

theorem lit_mem_interfaceArgs {tunName : Option IfName} (h : lit arg ∈ interfaceArgs tunName) :
    arg = "--interface" := by
  cases tunName <;> simp_all [interfaceArgs]

/-- The literals of the service before the shared options. -/
theorem lit_mem_serverArgs (h : lit arg ∈ serverArgs s_vpn) :
    arg ∈ ["/usr/bin/gpclient", "--fix-openssl", "--ignore-tls-errors", "connect", "--lock-file",
      "/run/NetworkManager/nm-gpclient.lock", "--cookie-on-stdin", "--browser",
      "/usr/libexec/nm-gpclient-browser-helper", "--as-gateway", "--auto-gateway", "--gateway",
      "--mtu"] := by
  simp only [serverArgs, gpclientBinary, gpclientLockFile, gpclientBrowserHelperPath, literal_cstr,
    List.mem_append, List.mem_cons, List.not_mem_nil, or_false, lit_inj, List.mem_map,
    lit_mem_booleanArg, lit_mem_optionalArg] at h
  rcases h with ((((((((rfl | h) | h) | rfl) | ⟨_, -, h⟩) | h) | h) | h) | h) | h
  · simp
  · simp [h.1]
  · simp [h.1]
  · simp
  · cases h
  · rcases h with rfl | rfl <;> simp
  · split at h <;> simp_all
  · rcases h with rfl | rfl <;> simp
  · rcases lit_mem_modeArgs h with rfl | rfl | rfl <;> simp
  · simp [h.1]

/-- The literals of the service after the shared options. -/
theorem lit_mem_scriptArgs {logLevel : Nat} {tunName : Option IfName}
    (h : lit arg ∈ scriptArgs s_vpn logLevel tunName) :
    arg ∈ ["--script", "/usr/libexec/nm-gpclient-service-helper", "--interface", "--no-dtls",
      "--hip", "--verbose"] := by
  simp only [scriptArgs, gpclientHelperPath, literal_cstr, List.mem_append, List.mem_cons,
    List.not_mem_nil, or_false, lit_inj] at h
  rcases h with (((h | h) | h) | h) | h
  · rcases h with rfl | rfl <;> simp
  · simp [lit_mem_interfaceArgs h]
  · simp [lit_mem_dtlsArgs h]
  · simp [lit_mem_hipArgs h]
  · simp [lit_mem_verboseArgs h]

theorem notMem_serverArgs (h : arg ∈ sharedOptions) : lit arg ∉ serverArgs s_vpn := by
  intro hin
  have hmem := lit_mem_serverArgs hin
  simp only [sharedOptions, List.mem_cons, List.not_mem_nil, or_false] at h
  rcases h with rfl | rfl | rfl | rfl | rfl <;> simp at hmem

theorem notMem_scriptArgs {logLevel : Nat} {tunName : Option IfName} (h : arg ∈ sharedOptions) :
    lit arg ∉ scriptArgs s_vpn logLevel tunName := by
  intro hin
  have hmem := lit_mem_scriptArgs hin
  simp only [sharedOptions, List.mem_cons, List.not_mem_nil, or_false] at h
  rcases h with rfl | rfl | rfl | rfl | rfl <;> simp at hmem

end

/-! ## The two command lines -/

/-- A shared option is added with a value. -/
theorem isSome_optionValue_sharedArgs {arg : String} (harg : arg ∈ sharedOptions)
    {s_vpn : NMSettingVpn} (h : lit arg ∈ sharedArgs s_vpn) :
    (optionValue arg (sharedArgs s_vpn)).isSome = true := by
  simp only [sharedOptions, List.mem_cons, List.not_mem_nil, or_false] at harg
  rcases harg with rfl | rfl | rfl | rfl | rfl <;>
    simpa [sharedArgs, optionValue_append_of_notMem, optionValue_of_notMem] using h

section
variable {arg : String} (s_vpn : NMSettingVpn) (logLevel : Nat) (tunName : Option IfName)

/-- The service gives a shared option the value it has among the shared words. -/
theorem optionValue_gpclientArgv (h : arg ∈ sharedOptions) :
    optionValue arg (gpclientArgv s_vpn logLevel tunName) = optionValue arg (sharedArgs s_vpn) := by
  rw [gpclientArgv, List.append_assoc, optionValue_append_of_notMem (notMem_serverArgs h)]
  have hnone : optionValue arg (scriptArgs s_vpn logLevel tunName) = none :=
    optionValue_of_notMem (notMem_scriptArgs h)
  simp only [sharedOptions, List.mem_cons, List.not_mem_nil, or_false] at h
  rcases h with rfl | rfl | rfl | rfl | rfl <;>
    simp [sharedArgs, optionValue_append_of_notMem, optionValue_of_notMem, hnone]

theorem sharedOption_mem_gpclientArgv (h : arg ∈ sharedOptions) :
    lit arg ∈ gpclientArgv s_vpn logLevel tunName ↔ lit arg ∈ sharedArgs s_vpn := by
  simp [gpclientArgv, notMem_serverArgs h, notMem_scriptArgs h]

/-- gpclient sees a shared option that is no text with the value it has among the shared words. -/
theorem valueAfter_gpclientArgv (h : arg ∈ sharedOptions)
    (htexts : cstr arg ∉ textsOf (gpclientArgv s_vpn logLevel tunName)) :
    valueAfter arg (seen (gpclientArgv s_vpn logLevel tunName)) =
      optionValue arg (sharedArgs s_vpn) := by
  have hvalue := optionValue_gpclientArgv s_vpn logLevel tunName h
  rw [← hvalue]
  refine valueAfter_seen htexts fun hmem => ?_
  rw [hvalue]
  exact isSome_optionValue_sharedArgs h ((sharedOption_mem_gpclientArgv _ _ _ h).1 hmem)

/-- The service sets a shared flag when its setting is `yes`. -/
theorem sharedFlag_mem_gpclientArgv :
    (lit "--fix-openssl" ∈ gpclientArgv s_vpn logLevel tunName ↔
      isYes (s_vpn.getDataItem Key.fixOpenssl) = true) ∧
    (lit "--ignore-tls-errors" ∈ gpclientArgv s_vpn logLevel tunName ↔
      isYes (s_vpn.getDataItem Key.ignoreTlsErrors) = true) := by
  have hmode : ∀ arg ∈ sharedFlags, lit arg ∉ modeArgs s_vpn := by
    intro arg harg hin
    rcases lit_mem_modeArgs hin with rfl | rfl | rfl <;> simp [sharedFlags] at harg
  have hscript : ∀ arg ∈ sharedFlags, lit arg ∉ scriptArgs s_vpn logLevel tunName := by
    intro arg harg hin
    have hmem := lit_mem_scriptArgs hin
    simp only [sharedFlags, List.mem_cons, List.not_mem_nil, or_false] at harg
    rcases harg with rfl | rfl <;> simp at hmem
  simp only [sharedFlags, List.forall_mem_cons] at hmode hscript
  simp [gpclientArgv, serverArgs, sharedArgs, hmode, hscript, gpclientBinary, gpclientLockFile,
    gpclientBrowserHelperPath]

/-- The words that choose the mode. -/
def modeOptions : List String := ["--as-gateway", "--auto-gateway", "--gateway"]

/-- The options of the mode are among the words of the mode only. -/
theorem modeOption_mem_gpclientArgv (h : arg ∈ modeOptions) :
    lit arg ∈ gpclientArgv s_vpn logLevel tunName ↔ lit arg ∈ modeArgs s_vpn := by
  have hscript : lit arg ∉ scriptArgs s_vpn logLevel tunName := by
    intro hin
    have hmem := lit_mem_scriptArgs hin
    simp only [modeOptions, List.mem_cons, List.not_mem_nil, or_false] at h
    rcases h with rfl | rfl | rfl <;> simp at hmem
  simp only [modeOptions, List.mem_cons, List.not_mem_nil, or_false] at h
  rcases h with rfl | rfl | rfl <;>
    simp [gpclientArgv, serverArgs, sharedArgs, hscript, gpclientBinary, gpclientLockFile,
      gpclientBrowserHelperPath]

/-- The service asks for the direct mode exactly when it connects directly. -/
theorem asGateway_mem_gpclientArgv :
    lit "--as-gateway" ∈ gpclientArgv s_vpn logLevel tunName ↔
      directGatewayMode s_vpn = true := by
  rw [modeOption_mem_gpclientArgv s_vpn logLevel tunName (by decide), asGateway_mem_modeArgs]

/-- gpclient connects to the connect server: no text stands before `connect`. -/
theorem connect_gpclientArgv {server : CStr} (h : connectServer s_vpn = some server) :
    valueAfter "connect" (seen (gpclientArgv s_vpn logLevel tunName)) = some server := by
  obtain ⟨rest, hargv⟩ : ∃ rest, gpclientArgv s_vpn logLevel tunName =
      ([lit "/usr/bin/gpclient"] ++
        booleanArg "--fix-openssl" (s_vpn.getDataItem Key.fixOpenssl) ++
        booleanArg "--ignore-tls-errors" (s_vpn.getDataItem Key.ignoreTlsErrors)) ++
      lit "connect" :: .text server :: rest := by
    unfold gpclientArgv serverArgs
    rw [h]
    simp only [List.append_assoc, gpclientBinary, literal_cstr]
    exact ⟨_, rfl⟩
  generalize hbefore : [lit "/usr/bin/gpclient"] ++
    booleanArg "--fix-openssl" (s_vpn.getDataItem Key.fixOpenssl) ++
    booleanArg "--ignore-tls-errors" (s_vpn.getDataItem Key.ignoreTlsErrors) = before at hargv
  have hconnect : cstr "connect" ∉ seen before := by
    rw [mem_seen, ← hbefore]
    simp
  rw [hargv, seen_append, valueAfter_append_of_notMem hconnect]
  rfl

/-- The texts on the command line of gpclient. -/
theorem textsOf_gpclientArgv : textsOf (gpclientArgv s_vpn logLevel tunName) =
    (connectServer s_vpn).toList ++ textsOf (modeArgs s_vpn) ++
      (nonempty (s_vpn.getDataItem Key.mtu)).toList ++ textsOf (sharedArgs s_vpn) ++
      tunName.toList.map IfName.bytes ++ textsOf (hipArgs s_vpn) := by
  have hserver : textsOf ((connectServer s_vpn).toList.map Word.text) =
      (connectServer s_vpn).toList := by
    cases connectServer s_vpn <;> rfl
  have hcookie : ∀ b : Bool, textsOf (if b = true then [lit "--cookie-on-stdin"] else []) = [] := by
    intro b
    cases b <;> rfl
  have hinterface : textsOf (interfaceArgs tunName) = tunName.toList.map IfName.bytes := by
    cases tunName <;> rfl
  have hdtls : textsOf (dtlsArgs s_vpn) = [] := by
    unfold dtlsArgs
    dsimp only
    split <;> rfl
  have hverbose : textsOf (verboseArgs logLevel) = [] := by
    unfold verboseArgs
    split_ifs <;> rfl
  simp [gpclientArgv, serverArgs, scriptArgs, gpclientBinary, gpclientLockFile,
    gpclientBrowserHelperPath, gpclientHelperPath, hserver, hcookie, hinterface, hdtls, hverbose]

/-- The gateway that gpclient is given is the one of the mode. -/
theorem gatewayValue_gpclientArgv {gateway : CStr}
    (h : modeArgs s_vpn = [lit "--gateway", .text gateway]) :
    optionValue "--gateway" (gpclientArgv s_vpn logLevel tunName) = some gateway := by
  have hbefore : lit "--gateway" ∉ [Word.literal gpclientBinary] ++
      booleanArg "--fix-openssl" (s_vpn.getDataItem Key.fixOpenssl) ++
      booleanArg "--ignore-tls-errors" (s_vpn.getDataItem Key.ignoreTlsErrors) ++
      [lit "connect"] ++ (connectServer s_vpn).toList.map .text ++
      [lit "--lock-file", .literal gpclientLockFile] ++
      (if (propsCookie s_vpn).isSome then [lit "--cookie-on-stdin"] else []) ++
      [lit "--browser", .literal gpclientBrowserHelperPath] := by
    simp [gpclientBinary, gpclientLockFile, gpclientBrowserHelperPath]
  rw [gpclientArgv, serverArgs, h, List.append_assoc, List.append_assoc, List.append_assoc,
    optionValue_append_of_notMem hbefore]
  rfl

/-- `--no-dtls` is left out exactly when the setting says `no`. -/
theorem noDtls_mem_gpclientArgv : lit "--no-dtls" ∈ gpclientArgv s_vpn logLevel tunName ↔
    (s_vpn.getDataItem Key.noDtls).or (s_vpn.getDataItem Key.disableUdp) ≠ some (cstr "no") := by
  have hmode : lit "--no-dtls" ∉ modeArgs s_vpn := by
    intro hin
    rcases lit_mem_modeArgs hin with h | h | h <;> simp at h
  have hhip : lit "--no-dtls" ∉ hipArgs s_vpn := fun hin => by simpa using lit_mem_hipArgs hin
  have hverbose : lit "--no-dtls" ∉ verboseArgs logLevel := fun hin => by
    simpa using lit_mem_verboseArgs hin
  have hinterface : lit "--no-dtls" ∉ interfaceArgs tunName := fun hin => by
    simpa using lit_mem_interfaceArgs hin
  have hdtls : lit "--no-dtls" ∈ dtlsArgs s_vpn ↔
      (s_vpn.getDataItem Key.noDtls).or (s_vpn.getDataItem Key.disableUdp) ≠
        some (cstr "no") := by
    unfold dtlsArgs
    dsimp only
    split <;> simp_all
  rw [← hdtls]
  simp [gpclientArgv, serverArgs, sharedArgs, scriptArgs, hmode, hhip, hverbose, hinterface,
    gpclientBinary, gpclientLockFile, gpclientBrowserHelperPath, gpclientHelperPath]

end

section
variable {arg : String} (server : CStr) (asGateway : Bool) (browser : CStr)
  (options secrets : StrMap) (secretFlags : CStr → Option Nat)

/-- Both programs look for the key's passphrase among the secrets first. -/
theorem keyPass_eq :
    nonempty ((nonempty (secrets.lookup Key.keyPass)).or (options.lookup Key.keyPass)) =
      nonempty (propsKeyPass ⟨options, secrets, secretFlags⟩) := by
  unfold propsKeyPass NMSettingVpn.getSecret NMSettingVpn.getDataItem
  cases nonempty (secrets.lookup Key.keyPass) <;> rfl

/-- The command line of gpauth in the words that the two programs share. -/
theorem gpauthArgv_eq :
    gpauthArgv server asGateway browser options secrets =
      [lit "/usr/bin/gpauth"] ++ (if asGateway then [lit "--gateway"] else []) ++
      [.text server] ++ [lit "--browser", .text browser] ++
      optionalArg "--certificate" (options.lookup Key.usercert) ++
      optionalArg "--sslkey" (options.lookup Key.privkey) ++
      optionalArg "--key-password"
        ((nonempty (secrets.lookup Key.keyPass)).or (options.lookup Key.keyPass)) ++
      optionalArg "--client-version" (options.lookup Key.clientVersion) ++
      optionalArg "--host-id" (options.lookup Key.hostId) ++
      optionalArg "--os" (options.lookup Key.reportedOs) ++
      booleanArg "--fix-openssl" (options.lookup Key.fixOpenssl) ++
      booleanArg "--ignore-tls-errors" (options.lookup Key.ignoreTlsErrors) := by
  simp only [gpauthArgv, gpauthBinary, literal_cstr, addOptionalGpauthSettingArg_eq,
    addOptionalGpauthSecretArg_eq, addGpauthBooleanArg_eq]

/-- gpauth is given a shared option with the value the service gives it, for the same profile. -/
theorem optionValue_gpauthArgv (h : arg ∈ sharedOptions) :
    optionValue arg (gpauthArgv server asGateway browser options secrets) =
      optionValue arg (sharedArgs ⟨options, secrets, secretFlags⟩) := by
  have hgateway : arg ≠ "--gateway" := by
    rintro rfl
    simp [sharedOptions] at h
  have hmode : lit arg ∉ if asGateway = true then [lit "--gateway"] else [] := by
    split <;> simp [hgateway]
  have hpass := keyPass_eq options secrets secretFlags
  rw [gpauthArgv_eq]
  simp only [sharedOptions, List.mem_cons, List.not_mem_nil, or_false] at h
  rcases h with rfl | rfl | rfl | rfl | rfl <;>
    simp [sharedArgs, optionValue_append_of_notMem, optionValue_of_notMem, hmode, hpass,
      NMSettingVpn.getDataItem]

theorem sharedOption_mem_gpauthArgv (h : arg ∈ sharedOptions) :
    lit arg ∈ gpauthArgv server asGateway browser options secrets ↔
      lit arg ∈ sharedArgs ⟨options, secrets, secretFlags⟩ := by
  have hpass := keyPass_eq options secrets secretFlags
  rw [gpauthArgv_eq]
  simp only [sharedOptions, List.mem_cons, List.not_mem_nil, or_false] at h
  rcases h with rfl | rfl | rfl | rfl | rfl <;>
    cases asGateway <;> simp [sharedArgs, hpass, NMSettingVpn.getDataItem]

/-- gpauth sees a shared option that is no text with the value the service gives it. -/
theorem valueAfter_gpauthArgv (h : arg ∈ sharedOptions)
    (htexts : cstr arg ∉ textsOf (gpauthArgv server asGateway browser options secrets)) :
    valueAfter arg (seen (gpauthArgv server asGateway browser options secrets)) =
      optionValue arg (sharedArgs ⟨options, secrets, secretFlags⟩) := by
  have hvalue := optionValue_gpauthArgv server asGateway browser options secrets secretFlags h
  rw [← hvalue]
  refine valueAfter_seen htexts fun hmem => ?_
  rw [hvalue]
  exact isSome_optionValue_sharedArgs h
    ((sharedOption_mem_gpauthArgv _ _ _ _ _ secretFlags h).1 hmem)

/-- gpauth is given a shared flag when its setting is `yes`. -/
theorem sharedFlag_mem_gpauthArgv :
    (lit "--fix-openssl" ∈ gpauthArgv server asGateway browser options secrets ↔
      isYes (options.lookup Key.fixOpenssl) = true) ∧
    (lit "--ignore-tls-errors" ∈ gpauthArgv server asGateway browser options secrets ↔
      isYes (options.lookup Key.ignoreTlsErrors) = true) := by
  rw [gpauthArgv_eq]
  cases asGateway <;> simp

/-- gpauth is run for a gateway exactly when the dialog says so. -/
theorem gateway_mem_gpauthArgv :
    lit "--gateway" ∈ gpauthArgv server asGateway browser options secrets ↔ asGateway = true := by
  rw [gpauthArgv_eq]
  cases asGateway <;> simp

/-- gpauth reads the server that the dialog gives it, unless that is the option before it. -/
theorem gpauthOperand_gpauthArgv (h : server ≠ cstr "--gateway") :
    gpauthOperand (seen (gpauthArgv server asGateway browser options secrets)) = some server := by
  have hoption : (lit "--gateway").bytes = cstr "--gateway" := rfl
  have hserver : (Word.text server).bytes = server := rfl
  cases asGateway <;> simp [gpauthArgv, gpauthOperand, seen, hoption, hserver, h]

end

/-! ## The agreement -/

/-- The secrets of the profile with those of the dialog's response in their place. -/
def overrideSecrets (secrets : StrMap) (response : List (CStr × CStr)) : StrMap :=
  response.foldl (fun secrets (key, value) => secrets.insert key value) secrets

/-- The command lines of gpauth and gpclient, as the two programs see them, agree on the server, the
mode and all that they share, but for an option that is a text of the profile on one of them. -/
structure CommandLinesAgree (server : CStr) (gpauth gpclient : List Word) : Prop where
  mode : cstr "--as-gateway" ∉ textsOf gpclient → cstr "--gateway" ∉ textsOf gpauth →
    (cstr "--as-gateway" ∈ seen gpclient ↔ cstr "--gateway" ∈ seen gpauth)
  gpauthServer : server ≠ cstr "--gateway" → gpauthOperand (seen gpauth) = some server
  gpclientServer : valueAfter "connect" (seen gpclient) = some server
  present : ∀ arg ∈ sharedOptions ++ sharedFlags, cstr arg ∉ textsOf gpclient →
    cstr arg ∉ textsOf gpauth → (cstr arg ∈ seen gpclient ↔ cstr arg ∈ seen gpauth)
  values : ∀ arg ∈ sharedOptions, cstr arg ∉ textsOf gpclient → cstr arg ∉ textsOf gpauth →
    valueAfter arg (seen gpclient) = valueAfter arg (seen gpauth)

section
variable {options secrets : StrMap} {server : CStr} (authJson : CStr)
  (secretFlags : CStr → Option Nat)

theorem directGatewayMode_eq (secrets' : StrMap) :
    directGatewayMode ⟨options, secrets', secretFlags⟩ = dialogAsGateway options := by
  unfold directGatewayMode dialogAsGateway lookupNonempty NMSettingVpn.getDataItem
  rw [isYes_nonempty]
  rfl

/-- The dialog's response only changes the gateway and the cookie. -/
theorem sharedArgs_override (h : authServer options secrets = some server) :
    sharedArgs ⟨options, overrideSecrets secrets (dialogResponse options secrets authJson),
      secretFlags⟩ = sharedArgs ⟨options, secrets, secretFlags⟩ := by
  obtain ⟨gateway, hresponse, -⟩ := dialogResponse_of_authServer h authJson
  have hpass : (overrideSecrets secrets (dialogResponse options secrets authJson)).lookup
      Key.keyPass = secrets.lookup Key.keyPass := by
    have hgateway : Key.keyPass ≠ Key.gateway := by decide
    have hcookie : Key.keyPass ≠ Key.cookie := by decide
    simp [hresponse, overrideSecrets, AList.lookup_insert_ne hgateway,
      AList.lookup_insert_ne hcookie]
  simp [sharedArgs, propsKeyPass, NMSettingVpn.getSecret, NMSettingVpn.getDataItem, hpass]

/-- The service connects to the server that was authenticated with. -/
theorem connectServer_override (h : authServer options secrets = some server) (hne : server ≠ []) :
    connectServer ⟨options, overrideSecrets secrets (dialogResponse options secrets authJson),
      secretFlags⟩ = some server := by
  obtain ⟨gateway, hresponse, hgateway⟩ := dialogResponse_of_authServer h authJson
  unfold connectServer
  rw [directGatewayMode_eq]
  unfold authServer at h
  split
  next hmode =>
    obtain rfl := hgateway hmode
    have hsecret : (overrideSecrets secrets (dialogResponse options secrets authJson)).lookup
        Key.gateway = some gateway := by
      have hcookie : Key.gateway ≠ Key.cookie := by decide
      simp [hresponse, overrideSecrets, AList.lookup_insert_ne hcookie]
    simp [propsVpnGw, NMSettingVpn.getSecret, hsecret, hne]
  next hmode =>
    rw [if_neg hmode] at h
    have hportal : propsPortal ⟨options,
        overrideSecrets secrets (dialogResponse options secrets authJson), secretFlags⟩ =
        some server := h
    rw [hportal]

theorem authServer_ne_nil (h : authServer options secrets = some server) : server ≠ [] := by
  unfold authServer dialogGateway dialogPortal lookupNonempty at h
  split_ifs at h
  · split at h
    next hgateway => exact Option.some.inj h ▸ (nonempty_eq_some.1 hgateway).2
    next => exact (nonempty_eq_some.1 h).2
  · exact (nonempty_eq_some.1 h).2

/-- The command lines agree for the profile and any response with its server. -/
theorem commandLinesAgree (h : authServer options secrets = some server) (logLevel : Nat)
    (tunName : Option IfName) :
    CommandLinesAgree server
      (gpauthArgv server (dialogAsGateway options) (dialogBrowser options) options secrets)
      (gpclientArgv ⟨options, overrideSecrets secrets (dialogResponse options secrets authJson),
        secretFlags⟩ logLevel tunName) where
  mode hgpclient hgpauth := by
    rw [mem_seen_of_notMem hgpclient, mem_seen_of_notMem hgpauth, asGateway_mem_gpclientArgv,
      gateway_mem_gpauthArgv, directGatewayMode_eq]
  gpauthServer hserver := gpauthOperand_gpauthArgv _ _ _ _ _ hserver
  gpclientServer := connect_gpclientArgv _ _ _
    (connectServer_override authJson secretFlags h (authServer_ne_nil h))
  present arg harg hgpclient hgpauth := by
    rw [mem_seen_of_notMem hgpclient, mem_seen_of_notMem hgpauth]
    rcases List.mem_append.1 harg with harg | harg
    · rw [sharedOption_mem_gpclientArgv _ _ _ harg, sharedArgs_override authJson secretFlags h,
        sharedOption_mem_gpauthArgv _ _ _ _ _ secretFlags harg]
    · obtain ⟨hfix, hignore⟩ := sharedFlag_mem_gpauthArgv server (dialogAsGateway options)
        (dialogBrowser options) options secrets
      simp only [sharedFlags, List.mem_cons, List.not_mem_nil, or_false] at harg
      rcases harg with rfl | rfl
      · rw [(sharedFlag_mem_gpclientArgv _ _ _).1, hfix]
        rfl
      · rw [(sharedFlag_mem_gpclientArgv _ _ _).2, hignore]
        rfl
  values arg harg hgpclient hgpauth := by
    rw [valueAfter_gpclientArgv _ _ _ harg hgpclient, sharedArgs_override authJson secretFlags h,
      valueAfter_gpauthArgv _ _ _ _ _ secretFlags harg hgpauth]

/-- A response that is written has the server's gateway and the cookie. -/
theorem respond_of_response {i : DialogInput} {response : List (CStr × CStr)}
    (h : (respond options secrets i authJson).response = some response) :
    response = dialogResponse options secrets authJson ∧
      (respond options secrets i authJson).gpauthArgv = none := by
  unfold respond at h ⊢
  split at h
  · cases h
  next hinterrupted =>
    rw [if_neg hinterrupted]
    exact ⟨(Option.some.inj h).symm, rfl⟩

/-- A dialog that responds has found a server, and has run gpauth for it when it may interact. -/
theorem authenticate_of_response {i : DialogInput} {allowInteraction : Bool}
    {response : List (CStr × CStr)}
    (h : (authenticate options secrets i allowInteraction).response = some response) :
    ∃ server authJson, authServer options secrets = some server ∧
      response = dialogResponse options secrets authJson ∧
      (authenticate options secrets i allowInteraction).gpauthArgv =
        if allowInteraction then some (gpauthArgv server (dialogAsGateway options)
          (dialogBrowser options) options secrets)
        else none := by
  unfold authenticate at h ⊢
  split at h
  · cases h
  next server hserver =>
    cases allowInteraction with
    | false =>
      simp only [Bool.not_false, if_true, Bool.false_eq_true, if_false] at h ⊢
      split at h
      · cases h
      next cookie hcookie =>
        obtain ⟨rfl, hargv⟩ := respond_of_response _ h
        exact ⟨server, cookie, hserver, rfl, hargv⟩
    | true =>
      simp only [Bool.not_true, Bool.false_eq_true, if_false, if_true] at h ⊢
      split at h
      · cases h
      · cases h
      next authJson houtcome =>
        obtain ⟨rfl, -⟩ := respond_of_response _ h
        exact ⟨server, authJson, hserver, rfl, (collected_of_answered houtcome).2⟩

/-- A dialog that responds has read its options and the profile. -/
theorem dialogMain_of_response {i : DialogInput} {response : List (CStr × CStr)}
    (hdetails : i.vpnDetails = some (options, secrets))
    (h : (dialogMain i).response = some response) :
    ∃ args, parseOptions i.opts ⟨none, none, none, false⟩ = some args ∧
      dialogMain i = authenticate options secrets i args.allowInteraction := by
  unfold dialogMain at h ⊢
  split at h
  · cases h
  next args hargs =>
    refine ⟨args, hargs, ?_⟩
    split_ifs at h ⊢
    · cases h
    · split at h
      · split_ifs at h ⊢
        · cases h
        · rw [hdetails]
      · cases h

/-- What is authenticated is what is connected.

For every profile the dialog responds to, the command line that the service builds from the profile
with the response among its secrets agrees with that of gpauth, but for an option that is a text on
one of them; gpauth's is what the dialog has run when it may interact, and what it would run when it
returns a cookie it was given. -/
theorem authenticated_agrees {i : DialogInput} {response : List (CStr × CStr)}
    (hdetails : i.vpnDetails = some (options, secrets))
    (hresponse : (dialogMain i).response = some response) (logLevel : Nat)
    (tunName : Option IfName) :
    ∃ args server, parseOptions i.opts ⟨none, none, none, false⟩ = some args ∧ server ≠ [] ∧
      (dialogMain i).gpauthArgv = (if args.allowInteraction then some (gpauthArgv server
        (dialogAsGateway options) (dialogBrowser options) options secrets) else none) ∧
      CommandLinesAgree server
        (gpauthArgv server (dialogAsGateway options) (dialogBrowser options) options secrets)
        (gpclientArgv ⟨options, overrideSecrets secrets response, secretFlags⟩ logLevel tunName) := by
  obtain ⟨args, hargs, hmain⟩ := dialogMain_of_response hdetails hresponse
  rw [hmain] at hresponse ⊢
  obtain ⟨server, authJson, hserver, rfl, hargv⟩ := authenticate_of_response hresponse
  exact ⟨args, server, hargs, authServer_ne_nil hserver, hargv,
    commandLinesAgree authJson secretFlags hserver logLevel tunName⟩

end

/-- The response to the profile with a portal. -/
def portalResponse : List (CStr × CStr) :=
  [(Key.gateway, cstr "vpn.example.org"), (Key.cookie, cstr "\x7b\x7d")]

theorem authenticated_agrees_portal :
    ∃ args server, parseOptions portalInput.opts ⟨none, none, none, false⟩ = some args ∧
      server ≠ [] ∧
      (dialogMain portalInput).gpauthArgv = (if args.allowInteraction then some (gpauthArgv server
        (dialogAsGateway portalOptions) (dialogBrowser portalOptions) portalOptions ∅) else none) ∧
      CommandLinesAgree server
        (gpauthArgv server (dialogAsGateway portalOptions) (dialogBrowser portalOptions)
          portalOptions ∅)
        (gpclientArgv ⟨portalOptions, overrideSecrets ∅ portalResponse, fun _ => none⟩ logInfo
          none) := by
  have hresponse : (dialogMain portalInput).response = some portalResponse := by decide +kernel
  exact authenticated_agrees (fun _ => none) rfl hresponse logInfo none

/-- A profile with a portal, and an option in the place of the MTU. -/
def optionMtuOptions : StrMap := portalOptions.insert Key.mtu (cstr "--as-gateway")

/-- The dialog runs for that profile. -/
def optionMtuInput : DialogInput := { portalInput with vpnDetails := some (optionMtuOptions, ∅) }

/-- gpclient sees the option that the profile has for the MTU. -/
theorem authenticated_agrees_fails :
    ¬∀ (i : DialogInput) options secrets response argv secretFlags logLevel tunName,
      i.vpnDetails = some (options, secrets) → (dialogMain i).response = some response →
      (dialogMain i).gpauthArgv = some argv →
      (cstr "--as-gateway" ∈ seen (gpclientArgv
          ⟨options, overrideSecrets secrets response, secretFlags⟩ logLevel tunName) ↔
        cstr "--gateway" ∈ seen argv) := by
  intro h
  have hiff := h optionMtuInput optionMtuOptions ∅ portalResponse
    (gpauthArgv (cstr "vpn.example.org") false (dialogBrowser optionMtuOptions) optionMtuOptions
      ∅)
    (fun _ => none) logNotice none rfl (by decide +kernel) (by decide +kernel)
  have hgpclient : cstr "--as-gateway" ∈ seen (gpclientArgv ⟨optionMtuOptions,
      overrideSecrets ∅ portalResponse, fun _ => none⟩ logNotice none) := by decide +kernel
  have hgpauth : cstr "--gateway" ∉ seen (gpauthArgv (cstr "vpn.example.org") false
      (dialogBrowser optionMtuOptions) optionMtuOptions ∅) := by decide +kernel
  exact hgpauth (hiff.1 hgpclient)

end NmGpclient
