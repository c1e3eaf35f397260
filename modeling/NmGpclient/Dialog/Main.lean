import NmGpclient.CommandLine
import NmGpclient.Dialog.CollectTrace

/-!
# The auth dialog

`main` of the auth dialog reads its options and the profile, runs gpauth when it may interact with
the user, and writes the gateway and the cookie to its response channel. The result of a run says
what was written and printed, the exit code once there is one, and what gpauth was run with.
-/

namespace NmGpclient

/-! ## Reading the profile -/

/-- `lookup_nonempty`; a profile that was read has both its maps. -/
def lookupNonempty (hash : StrMap) (key : CStr) : Option CStr := nonempty (hash.lookup key)

/-- `lookup_secret_or_option`. -/
def lookupSecretOrOption (options secrets : StrMap) (key : CStr) : Option CStr :=
  match lookupNonempty secrets key with
  | some value => some value
  | none => lookupNonempty options key

/-- `add_optional_arg`. -/
def addOptionalArg (arg : String) : Option CStr → List Word
  | none => []
  | some value => [lit arg, .text value]

/-- `add_optional_gpauth_setting_arg`. -/
def addOptionalGpauthSettingArg (options : StrMap) (key : CStr) (arg : String) : List Word :=
  addOptionalArg arg (lookupNonempty options key)

/-- `add_optional_gpauth_secret_arg`. -/
def addOptionalGpauthSecretArg (options secrets : StrMap) (key : CStr) (arg : String) : List Word :=
  addOptionalArg arg (lookupSecretOrOption options secrets key)

/-- `add_gpauth_boolean_arg`. -/
def addGpauthBooleanArg (options : StrMap) (key : CStr) (arg : String) : List Word :=
  if isYes (lookupNonempty options key) then [lit arg] else []

/-- The command line of gpauth. -/
def gpauthArgv (server : CStr) (asGateway : Bool) (browser : CStr) (options secrets : StrMap) :
    List Word :=
  [.literal gpauthBinary] ++ (if asGateway then [lit "--gateway"] else []) ++
  [.text server] ++ [lit "--browser", .text browser] ++
  addOptionalGpauthSettingArg options Key.usercert "--certificate" ++
  addOptionalGpauthSettingArg options Key.privkey "--sslkey" ++
  addOptionalGpauthSecretArg options secrets Key.keyPass "--key-password" ++
  addOptionalGpauthSettingArg options Key.clientVersion "--client-version" ++
  addOptionalGpauthSettingArg options Key.hostId "--host-id" ++
  addOptionalGpauthSettingArg options Key.reportedOs "--os" ++
  addGpauthBooleanArg options Key.fixOpenssl "--fix-openssl" ++
  addGpauthBooleanArg options Key.ignoreTlsErrors "--ignore-tls-errors"

/-! ## Running gpauth -/

/-- A carriage return or a newline. -/
def isNewline (c : UInt8) : Bool := c == 10 || c == 13

/-- `strip_one_trailing_newline`, which sees a buffer up to its first NUL. -/
def stripOneTrailingNewline (value : List UInt8) : CStr := (cstrOf value).rdropWhile isNewline

/-- How gpauth ended, when it did not exit with 0. -/
def gpauthStatusText (status : Nat) : CStr :=
  if wifexited status then
    cstr "gpauth exited with status " ++ decimal (wexitstatus status) ++ cstr "\n"
  else if wifsignaled status then
    cstr "gpauth died with signal " ++ decimal (wtermsig status) ++ cstr "\n"
  else cstr "gpauth failed with wait status " ++ decimal status ++ cstr "\n"

/-- What the calls of `run_gpauth` answer: the version check, the flag of the signal handler before
the spawn, the spawn, and the turns of the loop. -/
structure GpauthCalls where
  version : SpawnSync
  interrupted : Bool
  spawn : Except GError GPid
  turns : List Turn

/-- Where `run_gpauth` stands. -/
inductive GpauthOutcome where
  | running
  | failed
  | answered (authJson : CStr)
deriving DecidableEq

/-- A run of gpauth: the command line it was given and what was collected, once the program got
there, and what was printed to the standard error. -/
structure GpauthRun where
  outcome : GpauthOutcome
  argv : Option (List Word)
  collected : Option CollectResult
  printed : List CStr
deriving DecidableEq

/-- `run_gpauth` after `collect_auth` has returned: the outcome and the texts it prints. -/
def gpauthOutcome (c : CollectResult) : GpauthOutcome × List CStr :=
  if !c.ret then
    (.failed, match c.error with
      | some error => [cstr "Failed to start gpauth: " ++ error.message ++ cstr "\n"]
      | none => [])
  else if !wifexited c.status || wexitstatus c.status != 0 then
    (.failed, gpauthStatusText c.status ::
      match nonempty (c.errors.map cstrOf) with
      | some errors => [errors ++ cstr "\n"]
      | none => [])
  else
    match nonempty (c.output.map stripOneTrailingNewline) with
    | none => (.failed, [cstr "gpauth produced no authentication JSON\n"])
    | some authJson => (.answered authJson, [])

/-- `run_gpauth`. -/
def runGpauth (server : CStr) (asGateway : Bool) (browser : CStr) (options secrets : StrMap)
    (calls : GpauthCalls) : GpauthRun :=
  match nmGpclientCheckVersion (cstr "gpauth") calls.version with
  | some error => ⟨.failed, none, none, [error.message ++ cstr "\n"]⟩
  | none =>
    let argv := gpauthArgv server asGateway browser options secrets
    match collectAuth calls.interrupted calls.spawn calls.turns with
    | none => ⟨.running, some argv, none, []⟩
    | some c => ⟨(gpauthOutcome c).1, some argv, some c, c.printed ++ (gpauthOutcome c).2⟩

/-! ## After the response -/

/-- A turn of `wait_for_quit_or_eof`: the flag of the signal handler, whether `poll` reports the
standard input, and the byte that is read, none at the end or on an error. -/
structure QuitTurn where
  interrupted : Bool
  ready : Bool
  read : Option UInt8

/-- `wait_for_quit_or_eof`: whether it is over after these turns. -/
def waitForQuitOrEof : List QuitTurn → List UInt8 → Bool
  | [], _ => false
  | t :: ts, line =>
    if t.interrupted || !t.ready then true
    else
      match t.read with
      | none => true
      | some c =>
        if isLineEnd c then line == quitWord || waitForQuitOrEof ts []
        else waitForQuitOrEof ts (if line.length + 1 < lineSize then line ++ [c] else line)

/-! ## The options -/

/-- What `getopt_long` returns for one option, with its argument. -/
inductive Opt where
  | reprompt
  | uuid (arg : CStr)
  | name (arg : CStr)
  | service (arg : CStr)
  | allowInteraction
  | unknown
deriving DecidableEq, Repr

/-- The options of the dialog. -/
structure DialogArgs where
  uuid : Option CStr
  name : Option CStr
  service : Option CStr
  allowInteraction : Bool

/-- The loop over the options; none at an unknown one. -/
def parseOptions : List Opt → DialogArgs → Option DialogArgs
  | [], args => some args
  | .reprompt :: opts, args => parseOptions opts args
  | .allowInteraction :: opts, args => parseOptions opts { args with allowInteraction := true }
  | .uuid arg :: opts, args => parseOptions opts { args with uuid := some arg }
  | .name arg :: opts, args => parseOptions opts { args with name := some arg }
  | .service arg :: opts, args => parseOptions opts { args with service := some arg }
  | .unknown :: _, _ => none

/-- `NM_VPN_SERVICE_TYPE_OPENCONNECT`. -/
def nmVpnServiceTypeOpenconnect : CStr := cstr "org.freedesktop.NetworkManager.gpclient"

/-! ## The program -/

/-- What the dialog is run with: its options and whether words follow them, the profile's data items
and secrets as `nm_vpn_service_plugin_read_vpn_details` reads them, the calls of `run_gpauth`, the
flag of the signal handler after it, and the turns of the wait at the end. -/
structure DialogInput where
  opts : List Opt
  superfluous : Bool
  vpnDetails : Option (StrMap × StrMap)
  gpauth : GpauthCalls
  interrupted : Bool
  quit : List QuitTurn

/-- What a run of the dialog has done. The response is none unless it was written; the exit code is
none while the dialog runs. -/
structure DialogResult where
  response : Option (List (CStr × CStr))
  exitCode : Option Nat
  printed : List CStr
  gpauthArgv : Option (List Word)
  collected : Option CollectResult
deriving DecidableEq

namespace DialogResult

/-- The dialog gives up. -/
def failure (printed : List CStr) : DialogResult := ⟨none, some 1, printed, none, none⟩

/-- The bytes of a response: each key and each value on a line of its own, and two empty lines. -/
def responseBytes (response : List (CStr × CStr)) : List UInt8 :=
  (response.flatMap fun (key, value) => key ++ cstr "\n" ++ value ++ cstr "\n") ++ cstr "\n\n"

/-- The bytes written to the response channel. -/
def paramf (r : DialogResult) : List UInt8 := r.response.elim [] responseBytes

end DialogResult

section
variable (options secrets : StrMap)

/-- `portal`. -/
def dialogPortal : Option CStr := lookupNonempty options Key.portal

/-- `gateway`: the data item, or the secret. -/
def dialogGateway : Option CStr :=
  match lookupNonempty options Key.gateway with
  | some gateway => some gateway
  | none => lookupNonempty secrets Key.gateway

/-- `browser`. -/
def dialogBrowser : CStr := (lookupNonempty options Key.browser).getD (cstr "default")

/-- `as_gateway`. -/
def dialogAsGateway : Bool :=
  isYes (lookupNonempty options Key.asGateway) || (dialogPortal options).isNone

/-- `auth_server`. -/
def authServer : Option CStr :=
  if dialogAsGateway options then dialogGateway options secrets else dialogPortal options

/-- The pairs of the response: the gateway, or the portal in its place, and the cookie. -/
def dialogResponse (authJson : CStr) : List (CStr × CStr) :=
  (match dialogGateway options secrets with
    | some gateway => [(Key.gateway, gateway)]
    | none =>
      match dialogPortal options with
      | some portal => [(Key.gateway, portal)]
      | none => []) ++
  [(Key.cookie, authJson)]

/-- The end of `main`: nothing is written after a signal. -/
def respond (i : DialogInput) (authJson : CStr) : DialogResult :=
  if i.interrupted then .failure []
  else
    { response := some (dialogResponse options secrets authJson)
      exitCode := if waitForQuitOrEof i.quit [] then some 0 else none
      printed := []
      gpauthArgv := none
      collected := none }

/-- `main` with the profile. -/
def authenticate (i : DialogInput) (allowInteraction : Bool) : DialogResult :=
  match authServer options secrets with
  | none => .failure [cstr "No portal or gateway configured\n"]
  | some server =>
    if !allowInteraction then
      match lookupNonempty secrets Key.cookie with
      | none => .failure [cstr "Interaction is required to run gpauth\n"]
      | some existingCookie => respond options secrets i existingCookie
    else
      let run := runGpauth server (dialogAsGateway options) (dialogBrowser options) options secrets
        i.gpauth
      let r : DialogResult :=
        match run.outcome with
        | .running => ⟨none, none, [], none, none⟩
        | .failed => .failure []
        | .answered authJson => respond options secrets i authJson
      { r with printed := run.printed, gpauthArgv := run.argv, collected := run.collected }

end

/-- `main`. -/
def dialogMain (i : DialogInput) : DialogResult :=
  match parseOptions i.opts ⟨none, none, none, false⟩ with
  | none => .failure [cstr "Unknown option\n"]
  | some args =>
    if i.superfluous then .failure [cstr "Superfluous command line options\n"]
    else
      match args.uuid, args.name, args.service with
      | some uuid, some name, some service =>
        if service ≠ nmVpnServiceTypeOpenconnect then
          .failure [cstr "This dialog only works with the '" ++ nmVpnServiceTypeOpenconnect ++
            cstr "' service\n"]
        else
          match i.vpnDetails with
          | none => .failure [cstr "Failed to read '" ++ name ++ cstr "' (" ++ uuid ++
              cstr ") data and secrets from stdin.\n"]
          | some (options, secrets) => authenticate options secrets i args.allowInteraction
      | _, _, _ => .failure [cstr "Have to supply UUID, name, and service\n"]

end NmGpclient
