import Mathlib.Data.List.AList
import NmGpclient.Lib.Posix

/-!
# Connections, keys and errors

The connection NetworkManager hands to the plugin: its VPN setting (data items, secrets, and what
libnm answers for the flags of a secret) and its connection setting (the interface name and the
permissions). All texts are C strings. The keys are those of `shared/nm-service-defines.h`.
-/

namespace NmGpclient

/-- A map from keys to texts, as libnm's data items and secrets are. -/
abbrev StrMap := AList fun _ : CStr => CStr

/-! ## Keys -/

namespace Key

def gateway : CStr := cstr "gateway"
def portal : CStr := cstr "portal"
def autoGateway : CStr := cstr "auto_gateway"
def asGateway : CStr := cstr "as_gateway"
def browser : CStr := cstr "browser"
def clientVersion : CStr := cstr "client_version"
def hostId : CStr := cstr "host_id"
def fixOpenssl : CStr := cstr "fix_openssl"
def ignoreTlsErrors : CStr := cstr "ignore_tls_errors"
def cookie : CStr := cstr "cookie"
def gwcert : CStr := cstr "gwcert"
def resolve : CStr := cstr "resolve"
def authtype : CStr := cstr "authtype"
def usercert : CStr := cstr "usercert"
def cacert : CStr := cstr "cacert"
def privkey : CStr := cstr "userkey"
def keyPass : CStr := cstr "key_pass"
def mtu : CStr := cstr "mtu"
def pemPassphraseFsid : CStr := cstr "pem_passphrase_fsid"
def preventInvalidCert : CStr := cstr "prevent_invalid_cert"
def disableUdp : CStr := cstr "disable_udp"
def noDtls : CStr := cstr "no_dtls"
def protocol : CStr := cstr "protocol"
def proxy : CStr := cstr "proxy"
def csdEnable : CStr := cstr "enable_csd_trojan"
def csdWrapper : CStr := cstr "csd_wrapper"
def tokenMode : CStr := cstr "stoken_source"
def tokenSecret : CStr := cstr "stoken_string"
def reportedOs : CStr := cstr "reported_os"
def mcacert : CStr := cstr "mcacert"
def mcakey : CStr := cstr "mcakey"
def mcaPass : CStr := cstr "mca_key_pass"

end Key

/-! ## Configured paths

`NM_GPCLIENT_BINARY` and the others are fixed when the package is configured; these are the
defaults of `configure.ac` with `/usr/libexec` as `LIBEXECDIR`. -/

def gpclientBinary : CStr := cstr "/usr/bin/gpclient"
def gpauthBinary : CStr := cstr "/usr/bin/gpauth"
def gpclientLockFile : CStr := cstr "/run/NetworkManager/nm-gpclient.lock"
def gpclientHelperPath : CStr := cstr "/usr/libexec/nm-gpclient-service-helper"
def gpclientBrowserHelperPath : CStr := cstr "/usr/libexec/nm-gpclient-browser-helper"

/-- `NM_OPENCONNECT_USER`, the account that owns the TUN devices. -/
def nmOpenconnectUser : CStr := cstr "nm-gpclient"

/-! ## Settings -/

/-- The VPN setting of a connection. `secretFlags` is what `nm_setting_get_secret_flags` answers
for a secret, `none` when it fails. -/
structure NMSettingVpn where
  data : StrMap
  secrets : StrMap
  secretFlags : CStr → Option Nat

namespace NMSettingVpn

/-- `nm_setting_vpn_get_data_item`. -/
def getDataItem (s : NMSettingVpn) (key : CStr) : Option CStr := s.data.lookup key

/-- `nm_setting_vpn_get_secret`. -/
def getSecret (s : NMSettingVpn) (key : CStr) : Option CStr := s.secrets.lookup key

end NMSettingVpn

/-- The size of the kernel's interface name buffer, with its NUL. -/
def ifnamsiz : Nat := 16

/-- An interface name the kernel and libnm accept: not empty, and short enough for `ifr_name` with
its NUL. `nm_connection_verify` has checked the name of a connection before the plugin sees it, so
`strncpy (ifr.ifr_name, suggested_name, IFNAMSIZ)` copies it whole. -/
structure IfName where
  bytes : CStr
  ne_nil : bytes ≠ []
  short : bytes.length < ifnamsiz
deriving DecidableEq

/-- The connection setting: the interface name and the permissions, each a type and an item. -/
structure NMSettingConnection where
  interfaceName : Option IfName
  permissions : List (CStr × CStr)

/-- A connection; a setting it lacks is `none`. -/
structure NMConnection where
  settingConnection : Option NMSettingConnection
  settingVpn : Option NMSettingVpn

/-! ## Errors -/

/-- The errors of the plugin, with the codes of `NM_VPN_PLUGIN_ERROR`, and those of the `GSpawn`
domain. -/
inductive ErrorCode where
  | badArguments
  | invalidConnection
  | launchFailed
  | spawn (code : Nat)
deriving DecidableEq, Repr

/-- A `GError`. -/
structure GError where
  code : ErrorCode
  message : CStr
deriving DecidableEq, Repr

/-! ## The version check -/

/-- `G_SPAWN_ERROR_FAILED`. -/
def gSpawnErrorFailed : Nat := 19

/-- The version line starts with `PROGRAM 3.` and a digit. -/
def supportedVersion (program output : CStr) : Bool :=
  let release := program ++ cstr " 3."
  release.isPrefixOf output && (output.drop release.length).head?.elim false isDigit

/-- `nm_gpclient_check_version`: the error it sets, or none when the program is supported. -/
def nmGpclientCheckVersion (program : CStr) : SpawnSync → Option GError
  | .failed code message => some ⟨.spawn code, message⟩
  | .done status output =>
    if wifexited status && wexitstatus status == 0 && output.elim false (supportedVersion program)
    then none
    else some ⟨.spawn gSpawnErrorFailed, program ++
      cstr " 3.x is required; install matching upstream gpclient and gpauth 3.x binaries."⟩

example : nmGpclientCheckVersion (cstr "gpclient") (.done 0 (some (cstr "gpclient 3.2.0"))) = none :=
  by decide

end NmGpclient
