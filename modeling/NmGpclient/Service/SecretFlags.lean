import NmGpclient.Service.ConnectResult
import NmGpclient.Service.Effects

/-!
# Unsafe secret flags

The cookie and the gateway must be secrets that NetworkManager never stores. Both
`real_need_secrets` and `real_connect` check their flags before they do anything else, so a
connection with other flags is refused without any effect, and a cookie is written only for a
connection whose two flags are safe.
-/

namespace NmGpclient

/-- The secrets that must not be stored, as `validate_auth_secret_flags` goes through them. -/
def authSecretKeys : List CStr := [Key.cookie, Key.gateway]

/-- The data item with the flags of a secret. -/
def flagsKey (key : CStr) : CStr := key ++ cstr "-flags"

section
variable (parseFlags : CStr → Option Nat) (s_vpn : NMSettingVpn)

/-- The flags the profile gives a secret, none when they are missing or malformed; `parseFlags` is
how libnm reads their text. -/
def NMSettingVpn.profileFlags (key : CStr) : Option Nat :=
  (s_vpn.getDataItem (flagsKey key)).bind parseFlags

/-- `nm_setting_get_secret_flags` answers the flags of the profile, and a failure or `NONE` when
they are missing or malformed. -/
def NMSettingVpn.FlagsReported : Prop :=
  ∀ key ∈ authSecretKeys, s_vpn.secretFlags key = s_vpn.profileFlags parseFlags key ∨
    s_vpn.profileFlags parseFlags key = none ∧ s_vpn.secretFlags key = some 0

instance : Decidable (s_vpn.FlagsReported parseFlags) :=
  inferInstanceAs (Decidable (∀ key ∈ authSecretKeys, _))

/-- Both secrets are `NOT_SAVED` or `NOT_SAVED | AGENT_OWNED` in the profile. -/
def NMSettingVpn.SafeFlags : Prop :=
  ∀ key ∈ authSecretKeys, ∃ flags, s_vpn.profileFlags parseFlags key = some flags ∧
    (flags = nmSettingSecretFlagNotSaved ∨
      flags = nmSettingSecretFlagNotSaved ||| nmSettingSecretFlagAgentOwned)

variable {parseFlags s_vpn}

theorem safeSecretFlags_iff {flags : Nat} : safeSecretFlags flags = true ↔
    flags = nmSettingSecretFlagNotSaved ∨
      flags = nmSettingSecretFlagNotSaved ||| nmSettingSecretFlagAgentOwned := by
  simp [safeSecretFlags]

/-- The error for unsafe flags has the code of an invalid connection, whichever the key. -/
theorem validateAuthSecretFlags_code {e : GError} (h : validateAuthSecretFlags s_vpn = some e) :
    e.code = .invalidConnection := by
  obtain ⟨key, -, rfl⟩ := Option.map_eq_some_iff.1 h
  rfl

/-- The check passes exactly when libnm reports safe flags for both secrets. -/
theorem validateAuthSecretFlags_eq_none : validateAuthSecretFlags s_vpn = none ↔
    ∀ key ∈ authSecretKeys, ∃ flags, s_vpn.secretFlags key = some flags ∧
      safeSecretFlags flags = true := by
  rw [validateAuthSecretFlags, Option.map_eq_none_iff, List.find?_eq_none]
  refine forall₂_congr fun key _ => ?_
  cases s_vpn.secretFlags key <;> simp

/-- The check passes exactly when the flags in the profile are safe. -/
theorem validateAuthSecretFlags_iff (h : s_vpn.FlagsReported parseFlags) :
    validateAuthSecretFlags s_vpn = none ↔ s_vpn.SafeFlags parseFlags := by
  rw [validateAuthSecretFlags_eq_none]
  refine forall₂_congr fun key hkey => ?_
  rcases h key hkey with heq | ⟨hnone, hzero⟩
  · simp [heq, safeSecretFlags_iff]
  · -- `NONE` does not pass the check either
    simp [hnone, hzero, safeSecretFlags_iff, nmSettingSecretFlagNotSaved,
      nmSettingSecretFlagAgentOwned]

end

/-- A connection that fails the check of its flags is refused by NeedSecrets as it is. -/
theorem realNeedSecrets_of_flags {connection : NMConnection} {s_vpn : NMSettingVpn} {e : GError}
    (hvpn : connection.settingVpn = some s_vpn) (he : validateAuthSecretFlags s_vpn = some e)
    (bus : BusAnswers) (w : World) : realNeedSecrets connection bus w = (.failed e, w) := by
  simp only [realNeedSecrets, hvpn, he]

/-- A connection that fails the check of its flags is refused by Connect as it is. -/
theorem realConnect_of_flags {connection : NMConnection} {s_con : NMSettingConnection}
    {s_vpn : NMSettingVpn} {e : GError} (hcon : connection.settingConnection = some s_con)
    (hvpn : connection.settingVpn = some s_vpn) (he : validateAuthSecretFlags s_vpn = some e)
    (a : ConnectAnswers) (w : World) :
    realConnect connection a w = (.returned false (some e), w) := by
  simp only [realConnect, hcon, hvpn, validateConnection, he]

/-! ## The cookies of a run -/

/-- The event is a Connect of a connection that passes the check of its flags, and writes `bytes`:
the cookie of the connection, or the newline after it. -/
def Event.Feeds (bytes : List UInt8) (e : Event) : Prop :=
  ∃ connection a s_vpn, e = .connect connection a ∧ connection.settingVpn = some s_vpn ∧
    validateAuthSecretFlags s_vpn = none ∧ (propsCookie s_vpn = some bytes ∨ bytes = newline)

/-- A write that one event adds to the log. -/
theorem write_mem_step {bytes : List UInt8} (w : World) (e : Event)
    (h : .write bytes ∈ (e.step w).trace) : .write bytes ∈ w.trace ∨ e.Feeds bytes := by
  refine ((Event.step_grows w e).mem h).imp_right fun hdoes => ?_
  rcases hdoes with hplain | hdoes
  · cases hplain
  · cases e with
    | connect connection a =>
      obtain ⟨req, hreq, hwrite⟩ := hdoes
      obtain ⟨-, s_vpn, -, hvpn, hvalid, hchecks, -⟩ := request_eq_some.1 hreq
      have hflags : validateAuthSecretFlags s_vpn = none := by
        simp only [validVpn, Bool.and_eq_true, Option.isNone_iff_eq_none] at hvalid
        exact hvalid.1.1
      refine ⟨connection, a, s_vpn, rfl, hvpn, hflags, ?_⟩
      rcases hwrite with heq | heq | ⟨n, -, hn⟩
      · cases heq
        exact .inl (propsCookie_of_startChecks hchecks)
      · cases heq
        exact .inr rfl
      · cases hn
    | needSecrets => obtain ⟨-, -, path, hpath, -⟩ := hdoes; cases hpath
    | childExit => obtain ⟨n, -, hn | ⟨path, hpath, -⟩⟩ := hdoes; cases hn; cases hpath
    | _ => exact hdoes.elim

/-- Unsafe secret flags stop everything.

A connection whose cookie or gateway has flags that are missing, malformed or not safe is refused
as invalid by NeedSecrets and by Connect, in every state and whatever the calls would answer, with
the state, its log included, as it was. And whatever a run writes to a child is the cookie, or the
newline after it, of a connection whose two flags are safe. -/
theorem unsafeFlags_stop (parseFlags : CStr → Option Nat) :
    (∀ s_con s_vpn, s_vpn.FlagsReported parseFlags → ¬s_vpn.SafeFlags parseFlags →
      ∃ e, e.code = .invalidConnection ∧ ∀ w bus a,
        realNeedSecrets ⟨some s_con, some s_vpn⟩ bus w = (.failed e, w) ∧
        realConnect ⟨some s_con, some s_vpn⟩ a w = (.returned false (some e), w)) ∧
    ∀ tun es,
      (∀ connection a, .connect connection a ∈ es →
        ∀ s_vpn ∈ connection.settingVpn, s_vpn.FlagsReported parseFlags) →
      ∀ bytes, .write bytes ∈ (service.run (.start tun) es).trace →
        ∃ connection a s_vpn, .connect connection a ∈ es ∧ connection.settingVpn = some s_vpn ∧
          s_vpn.SafeFlags parseFlags ∧ (propsCookie s_vpn = some bytes ∨ bytes = newline) := by
  constructor
  · intro s_con s_vpn hreported hunsafe
    have hfails : validateAuthSecretFlags s_vpn ≠ none :=
      fun hnone => hunsafe ((validateAuthSecretFlags_iff hreported).1 hnone)
    obtain ⟨e, he⟩ := Option.ne_none_iff_exists'.1 hfails
    exact ⟨e, validateAuthSecretFlags_code he, fun w bus a =>
      ⟨realNeedSecrets_of_flags rfl he bus w, realConnect_of_flags rfl rfl he a w⟩⟩
  · intro tun es hreported bytes hwrite
    have hcause := Machine.exists_cause (M := service) (A := fun w => .write bytes ∈ w.trace)
      write_mem_step hwrite
    rcases hcause with hstart | ⟨e, he, connection, a, s_vpn, rfl, hvpn, hflags, hbytes⟩
    · cases hstart
    · have hsafe := (validateAuthSecretFlags_iff (hreported connection a he s_vpn hvpn)).1 hflags
      exact ⟨connection, a, s_vpn, he, hvpn, hsafe, hbytes⟩

/-- A reading of the text of flags: a decimal numeral, nothing else, in the range of the flags. -/
def flagsNumeral (text : CStr) : Option Nat :=
  let flags := strtol text
  if flags.consumed = text.length ∧ text ≠ [] ∧ 0 ≤ flags.value ∧ flags.value ≤ 7 then
    some flags.value.toNat
  else none

/-- The profile with a gateway and a cached cookie, with the flags of the cookie, and what libnm
answers for them. -/
def flaggedVpn (cookieFlags : CStr) (reported : Option Nat) : NMSettingVpn where
  data := ((AList.singleton Key.gateway (cstr "vpn.example.com")).insert
    (flagsKey Key.gateway) (cstr "2")).insert (flagsKey Key.cookie) cookieFlags
  secrets := AList.singleton Key.cookie (cstr "cookie")
  secretFlags := fun key => if key = Key.cookie then reported else some nmSettingSecretFlagNotSaved

theorem unsafeFlags_stop_junk :
    (∃ e, e.code = .invalidConnection ∧ ∀ w bus a,
      realNeedSecrets ⟨some ⟨none, []⟩, some (flaggedVpn (cstr "2junk") none)⟩ bus w =
        (.failed e, w) ∧
      realConnect ⟨some ⟨none, []⟩, some (flaggedVpn (cstr "2junk") none)⟩ a w =
        (.returned false (some e), w)) ∧
    ∃ connection a s_vpn,
      .connect connection a ∈
        [Event.connect ⟨some ⟨none, []⟩, some (flaggedVpn (cstr "3") (some 3))⟩ startAnswers] ∧
      connection.settingVpn = some s_vpn ∧ s_vpn.SafeFlags flagsNumeral ∧
      (propsCookie s_vpn = some (cstr "cookie") ∨ cstr "cookie" = newline) := by
  obtain ⟨hstop, hrun⟩ := unsafeFlags_stop flagsNumeral
  have hjunk : (flaggedVpn (cstr "2junk") none).profileFlags flagsNumeral Key.cookie = none := by
    decide +kernel
  refine ⟨hstop _ _ (by decide +kernel) ?_, hrun noDevices _ ?_ _ (by decide +kernel)⟩
  · intro hsafe
    obtain ⟨flags, hflags, -⟩ := hsafe Key.cookie (by decide)
    rw [hjunk] at hflags
    cases hflags
  · intro connection a hmem s_vpn hvpn
    cases List.mem_singleton.1 hmem
    cases Option.mem_some.1 hvpn
    decide +kernel

end NmGpclient
