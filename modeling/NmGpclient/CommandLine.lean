import NmGpclient.Settings

/-!
# The gpclient command line

`nm_openconnect_start_openconnect_binary` builds the command line from the profile: a direct or a
portal connection, the server, and the options for the settings that are present. A word of a
command line is either a literal of the program or a text of the profile; the distinction is the
model's, the child sees `Word.bytes`. The auth dialog builds gpauth's command line from the same
kinds of words.
-/

namespace NmGpclient

/-- A word of a command line. -/
inductive Word where
  | literal (s : CStr)
  | text (s : CStr)
deriving DecidableEq, Repr

/-- The word as the child sees it. -/
def Word.bytes : Word → CStr
  | .literal s => s
  | .text s => s

/-- A literal of the source. -/
def lit (s : String) : Word := .literal (cstr s)

/-- The option `arg` with its value, when the value is present and not empty. -/
def optionalArg (arg : String) (value : Option CStr) : List Word :=
  match nonempty value with
  | some v => [lit arg, .text v]
  | none => []

/-- The C test `value && !strcmp (value, "yes")`. -/
def isYes (value : Option CStr) : Bool := value == some (cstr "yes")

/-- The flag `arg`, when the setting is `yes`. -/
def booleanArg (arg : String) (value : Option CStr) : List Word :=
  if isYes value then [lit arg] else []

/-! ## What Connect reads -/

section
variable (s_vpn : NMSettingVpn)

/-- `props_portal`, when it is not empty. -/
def propsPortal : Option CStr := nonempty (s_vpn.getDataItem Key.portal)

/-- `props_vpn_gw`: the secret, or the data item when the secret is absent or empty. -/
def propsVpnGw : Option CStr :=
  match nonempty (s_vpn.getSecret Key.gateway) with
  | some gw => some gw
  | none => s_vpn.getDataItem Key.gateway

/-- `props_key_pass`: the secret, or the data item when the secret is absent or empty. -/
def propsKeyPass : Option CStr :=
  match nonempty (s_vpn.getSecret Key.keyPass) with
  | some pass => some pass
  | none => s_vpn.getDataItem Key.keyPass

/-- `props_cookie`, when it is not empty. -/
def propsCookie : Option CStr := nonempty (s_vpn.getSecret Key.cookie)

/-- `direct_gateway_mode`. -/
def directGatewayMode : Bool :=
  isYes (s_vpn.getDataItem Key.asGateway) || (propsPortal s_vpn).isNone

/-- `connect_server`. -/
def connectServer : Option CStr :=
  if directGatewayMode s_vpn then
    match nonempty (propsVpnGw s_vpn) with
    | some gw => some gw
    | none => s_vpn.getDataItem Key.portal
  else
    match propsPortal s_vpn with
    | some portal => some portal
    | none => propsVpnGw s_vpn

/-- Neither a gateway nor a portal: `No VPN gateway specified.` -/
def noGateway : Bool := (nonempty (propsVpnGw s_vpn)).isNone && (propsPortal s_vpn).isNone

/-- The words that choose the mode. -/
def modeArgs : List Word :=
  if directGatewayMode s_vpn then [lit "--as-gateway"]
  else
    match propsPortal s_vpn with
    | none => []
    | some _ =>
      if isYes (s_vpn.getDataItem Key.autoGateway) then [lit "--auto-gateway"]
      else optionalArg "--gateway" (propsVpnGw s_vpn)

/-- `--no-dtls` unless UDP was explicitly enabled; `no_dtls` takes precedence over `disable_udp`. -/
def dtlsArgs : List Word :=
  let noDtls := (s_vpn.getDataItem Key.noDtls).or (s_vpn.getDataItem Key.disableUdp)
  if noDtls = some (cstr "no") then [] else [lit "--no-dtls"]

/-- `--hip`, with the wrapper when there is one. -/
def hipArgs : List Word :=
  if isYes (s_vpn.getDataItem Key.csdEnable) then
    match s_vpn.getDataItem Key.csdWrapper with
    | none => []
    | some [] => [lit "--hip"]
    | some wrapper => [lit "--hip", .text wrapper]
  else []

/-- The syslog levels the service compares with. -/
def logWarning : Nat := 4
def logNotice : Nat := 5
def logInfo : Nat := 6
def logDebug : Nat := 7

/-- `--verbose`, twice at the debug level. -/
def verboseArgs (logLevel : Nat) : List Word :=
  if logInfo ≤ logLevel then
    if logDebug ≤ logLevel then [lit "--verbose", lit "--verbose"] else [lit "--verbose"]
  else []

/-- The options gpclient and gpauth share and the service reads from the data items. -/
def sharedArgs : List Word :=
  optionalArg "--certificate" (s_vpn.getDataItem Key.usercert) ++
  optionalArg "--sslkey" (s_vpn.getDataItem Key.privkey) ++
  optionalArg "--key-password" (propsKeyPass s_vpn) ++
  optionalArg "--client-version" (s_vpn.getDataItem Key.clientVersion) ++
  optionalArg "--os" (s_vpn.getDataItem Key.reportedOs)

/-- `--interface`, for the TUN device that was created. -/
def interfaceArgs : Option IfName → List Word
  | some tunName => [lit "--interface", .text tunName.bytes]
  | none => []

/-- `gpclient_argv` before the shared options: the server and how it is authenticated with. -/
def serverArgs : List Word :=
  [.literal gpclientBinary] ++
  booleanArg "--fix-openssl" (s_vpn.getDataItem Key.fixOpenssl) ++
  booleanArg "--ignore-tls-errors" (s_vpn.getDataItem Key.ignoreTlsErrors) ++
  [lit "connect"] ++ (connectServer s_vpn).toList.map .text ++
  [lit "--lock-file", .literal gpclientLockFile] ++
  (if (propsCookie s_vpn).isSome then [lit "--cookie-on-stdin"] else []) ++
  [lit "--browser", .literal gpclientBrowserHelperPath] ++
  modeArgs s_vpn ++
  optionalArg "--mtu" (s_vpn.getDataItem Key.mtu)

/-- `gpclient_argv` after the shared options: the helper, the TUN device and the transport. -/
def scriptArgs (logLevel : Nat) (tunName : Option IfName) : List Word :=
  [lit "--script", .literal gpclientHelperPath] ++ interfaceArgs tunName ++
  dtlsArgs s_vpn ++ hipArgs s_vpn ++ verboseArgs logLevel

/-- `gpclient_argv`, for the TUN device that was created, if any. -/
def gpclientArgv (logLevel : Nat) (tunName : Option IfName) : List Word :=
  serverArgs s_vpn ++ sharedArgs s_vpn ++ scriptArgs s_vpn logLevel tunName

end

end NmGpclient
