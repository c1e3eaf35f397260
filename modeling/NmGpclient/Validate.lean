import NmGpclient.Settings

/-!
# Validation of a connection

`real_connect` checks the secret flags, the data items and the secrets, in this order, before it
starts anything. The data items and the secrets are checked by one callback over a table of
properties, which libnm calls once per item.
-/

namespace NmGpclient

/-- The types of `ValidProperty`. -/
inductive PropertyType where
  | string
  | int
  | boolean
deriving DecidableEq, Repr

/-- A row of a table of properties. -/
structure ValidProperty where
  name : CStr
  type : PropertyType
  intMin : Int := 0
  intMax : Int := 0
deriving DecidableEq, Repr

def validProperties : List ValidProperty := [
  { name := Key.gateway, type := .string },
  { name := Key.cacert, type := .string },
  { name := Key.authtype, type := .string },
  { name := Key.usercert, type := .string },
  { name := Key.privkey, type := .string },
  { name := Key.keyPass, type := .string },
  { name := Key.mtu, type := .string },
  { name := Key.clientVersion, type := .string },
  { name := Key.hostId, type := .string },
  { name := Key.fixOpenssl, type := .boolean },
  { name := Key.ignoreTlsErrors, type := .boolean },
  { name := Key.pemPassphraseFsid, type := .boolean },
  { name := Key.preventInvalidCert, type := .boolean },
  { name := Key.disableUdp, type := .boolean },
  { name := Key.noDtls, type := .boolean },
  { name := Key.protocol, type := .string },
  { name := Key.proxy, type := .string },
  { name := Key.csdEnable, type := .boolean },
  { name := Key.csdWrapper, type := .string },
  { name := Key.tokenMode, type := .string },
  { name := Key.tokenSecret, type := .string },
  { name := Key.reportedOs, type := .string },
  { name := Key.mcacert, type := .string },
  { name := Key.mcakey, type := .string },
  { name := Key.mcaPass, type := .string } ]

def validSecrets : List ValidProperty := [
  { name := Key.cookie, type := .string },
  { name := Key.gateway, type := .string },
  { name := Key.gwcert, type := .string },
  { name := Key.resolve, type := .string } ]

/-- What the callback carries from item to item: the error, whether an item was seen, and the keys
it has warned about. -/
structure ValidateInfo where
  error : Option GError
  haveItems : Bool
  unknown : List CStr
deriving DecidableEq

/-- The error for a value that is not of its property's type. -/
def propertyError (prop : ValidProperty) (key : CStr) : GError :=
  match prop.type with
  | .int => ⟨.badArguments, cstr "invalid integer property “" ++ key ++ cstr "” or out of range [" ++
      decimal prop.intMin ++ cstr " -> " ++ decimal prop.intMax ++ cstr "]"⟩
  | _ => ⟨.badArguments, cstr "invalid boolean property “" ++ key ++ cstr "” (not yes or no)"⟩

/-- The value is one its property's type allows. -/
def ValidProperty.allows (prop : ValidProperty) (value : CStr) : Bool :=
  match prop.type with
  | .string => true
  | .int =>
      let tmp := strtol value
      !tmp.erange && prop.intMin ≤ tmp.value && tmp.value ≤ prop.intMax
  | .boolean => value == cstr "yes" || value == cstr "no"

/-- The loop over the table: whether it returned at a row that allows the value, and the error. A
row that refuses the value only leaves the `switch`, so the loop goes on. -/
def scanTable (key value : CStr) : List ValidProperty → Option GError → Bool × Option GError
  | [], error => (false, error)
  | prop :: rest, error =>
    if prop.name ≠ key then scanTable key value rest error
    else if prop.allows value then (true, error)
    else scanTable key value rest (some (propertyError prop key))

/-- `NM_SETTING_NAME`. -/
def nmSettingName : CStr := cstr "name"

/-- `validate_one_property`. -/
def validateOneProperty (table : List ValidProperty) (info : ValidateInfo)
    (item : CStr × CStr) : ValidateInfo :=
  if info.error.isSome then info
  else
    let info := { info with haveItems := true }
    if item.1 = nmSettingName then info
    else
      match scanTable item.1 item.2 table info.error with
      | (true, error) => { info with error }
      | (false, error) =>
        if (cstr "form:").isPrefixOf item.1 then { info with error }
        else { info with error, unknown := info.unknown ++ [item.1] }

/-- The items of a map, in the order libnm enumerates them. -/
def StrMap.items (m : StrMap) : List (CStr × CStr) := m.entries.map fun e => (e.1, e.2)

/-- `nm_openconnect_properties_validate` and `nm_openconnect_secrets_validate`: the fold of the
callback over the items, and the error for a map that has none. -/
def validateItems (table : List ValidProperty) (noItems : CStr) (items : StrMap) :
    ValidateInfo :=
  let info := items.items.foldl (validateOneProperty table) ⟨none, false, []⟩
  if info.haveItems then info else { info with error := some ⟨.badArguments, noItems⟩ }

def nmOpenconnectPropertiesValidate (s_vpn : NMSettingVpn) : ValidateInfo :=
  validateItems validProperties (cstr "No VPN configuration options.") s_vpn.data

def nmOpenconnectSecretsValidate (s_vpn : NMSettingVpn) : ValidateInfo :=
  validateItems validSecrets (cstr "No VPN secrets!") s_vpn.secrets

/-! ## Secret flags -/

def nmSettingSecretFlagAgentOwned : Nat := 1
def nmSettingSecretFlagNotSaved : Nat := 2

/-- The flags of a secret that is never stored. -/
def safeSecretFlags (flags : Nat) : Bool :=
  flags == nmSettingSecretFlagNotSaved ||
    flags == nmSettingSecretFlagNotSaved ||| nmSettingSecretFlagAgentOwned

/-- The error for a key with unsafe flags. -/
def unsafeFlagsError (key : CStr) : GError :=
  ⟨.invalidConnection, cstr "Unsafe VPN secret flags for '" ++ key ++ cstr "'. Set cookie-flags=2 and gateway-flags=2 in vpn.data, remove saved cookie/gateway secrets from the profile and keyring, then reconnect."⟩

/-- `validate_auth_secret_flags`: the error for the first key without safe flags. -/
def validateAuthSecretFlags (s_vpn : NMSettingVpn) : Option GError :=
  ([Key.cookie, Key.gateway].find? fun key =>
    !(s_vpn.secretFlags key).elim false safeSecretFlags).map unsafeFlagsError

/-! ## What passes -/

/-- What a table asks of a value: the first row of the key's name allows it, if there is one. -/
def tableAllows (table : List ValidProperty) (key value : CStr) : Prop :=
  ∀ prop, table.find? (·.name = key) = some prop → prop.allows value = true

/-- A row that refuses the value sets an error that stays, so the first row of the name decides. -/
theorem scanTable_error (key value : CStr) (table : List ValidProperty) (error : Option GError) :
    (scanTable key value table error).2 = none ↔ error = none ∧ tableAllows table key value := by
  induction table generalizing error with
  | nil => simp [scanTable, tableAllows]
  | cons prop rest ih =>
    unfold scanTable
    by_cases hname : prop.name = key
    · have hfind : tableAllows (prop :: rest) key value ↔ prop.allows value = true := by
        simp [tableAllows, hname]
      rw [if_neg (not_not.2 hname), hfind]
      split
      next hallows => simp [hallows]
      next hrefuses => simp [ih, hrefuses]
    · have hfind : tableAllows (prop :: rest) key value ↔ tableAllows rest key value := by
        simp [tableAllows, hname]
      rw [if_pos hname, hfind, ih]

/-- The callback sets no error for the setting's name and for an item the table allows. -/
theorem validateOneProperty_error (table : List ValidProperty) (info : ValidateInfo)
    (item : CStr × CStr) : (validateOneProperty table info item).error = none ↔
      info.error = none ∧ (item.1 = nmSettingName ∨ tableAllows table item.1 item.2) := by
  unfold validateOneProperty
  split
  next herror => simp [Option.isSome_iff_ne_none.1 herror]
  next herror =>
    have hnone : info.error = none := by simpa using herror
    dsimp only
    split
    next hname => simp [hnone, hname]
    next hname =>
      have hscan := scanTable_error item.1 item.2 table none
      rw [hnone]
      generalize scanTable item.1 item.2 table none = r at hscan ⊢
      obtain ⟨returned, error⟩ := r
      have herr : error = none ↔ tableAllows table item.1 item.2 := by simpa using hscan
      cases returned with
      | true => simp [herr, hname]
      | false =>
        dsimp only
        split <;> simp [herr, hname]

theorem validateOneProperty_haveItems (table : List ValidProperty) (info : ValidateInfo)
    (item : CStr × CStr) (h : info.error = none ∨ info.haveItems = true) :
    (validateOneProperty table info item).haveItems = true := by
  unfold validateOneProperty
  split
  next herror =>
    rcases h with h | h
    · simp [h] at herror
    · exact h
  next =>
    dsimp only
    split
    · rfl
    · split
      · rfl
      · split <;> rfl

theorem foldl_validateOneProperty (table : List ValidProperty) (items : List (CStr × CStr))
    (info : ValidateInfo) (h : info.haveItems = true) :
    (items.foldl (validateOneProperty table) info).haveItems = true ∧
      ((items.foldl (validateOneProperty table) info).error = none ↔ info.error = none ∧
        ∀ item ∈ items, item.1 = nmSettingName ∨ tableAllows table item.1 item.2) := by
  induction items generalizing info with
  | nil => simp [h]
  | cons item items ih =>
    have hnext := ih _ (validateOneProperty_haveItems table info item (.inr h))
    rw [List.foldl_cons]
    refine ⟨hnext.1, ?_⟩
    rw [hnext.2, validateOneProperty_error, List.forall_mem_cons, and_assoc]

theorem StrMap.mem_items {m : StrMap} {key value : CStr} :
    (key, value) ∈ m.items ↔ m.lookup key = some value := by
  rw [← Option.mem_def, AList.mem_lookup_iff]
  simp only [StrMap.items, List.mem_map, Prod.mk.injEq]
  constructor
  · rintro ⟨⟨_, _⟩, h, rfl, rfl⟩
    exact h
  · intro h
    exact ⟨_, h, rfl, rfl⟩

/-- A map passes when it has an item, and the table allows each item but the setting's name. -/
theorem validateItems_error (table : List ValidProperty) (noItems : CStr) (items : StrMap) :
    (validateItems table noItems items).error = none ↔ items.items ≠ [] ∧
      ∀ key value, items.lookup key = some value →
        key = nmSettingName ∨ tableAllows table key value := by
  simp only [← StrMap.mem_items]
  unfold validateItems
  cases items.items with
  | nil => simp
  | cons item rest =>
    have hfirst := validateOneProperty_haveItems table ⟨none, false, []⟩ item (.inl rfl)
    obtain ⟨hhave, herror⟩ := foldl_validateOneProperty table rest _ hfirst
    have hall : (∀ key value, (key, value) ∈ item :: rest →
          key = nmSettingName ∨ tableAllows table key value) ↔
        ∀ it ∈ item :: rest, it.1 = nmSettingName ∨ tableAllows table it.1 it.2 :=
      ⟨fun h it => h it.1 it.2, fun h key value => h (key, value)⟩
    dsimp only
    rw [List.foldl_cons, if_pos hhave, herror, validateOneProperty_error, hall,
      List.forall_mem_cons]
    exact ⟨fun h => ⟨by simp, h.1.2, h.2⟩, fun h => ⟨⟨rfl, h.2.1⟩, h.2.2⟩⟩

/-- The data items that are a yes or a no. -/
def booleanKeys : List CStr :=
  [Key.fixOpenssl, Key.ignoreTlsErrors, Key.pemPassphraseFsid, Key.preventInvalidCert,
    Key.disableUdp, Key.noDtls, Key.csdEnable]

theorem validProperties_boolean : ∀ prop ∈ validProperties,
    prop.type = .string ∧ prop.name ∉ booleanKeys ∨
      prop.type = .boolean ∧ prop.name ∈ booleanKeys := by
  decide +kernel

/-- The table of the data items allows everything but a yes or no item with another value. -/
theorem tableAllows_validProperties (key value : CStr) : tableAllows validProperties key value ↔
    (key ∈ booleanKeys → value = cstr "yes" ∨ value = cstr "no") := by
  cases hfind : validProperties.find? (·.name = key) with
  | none =>
    have hkey : key ∉ booleanKeys := by
      have hnames : ∀ k ∈ booleanKeys, (validProperties.find? (·.name = k)).isSome = true := by
        decide +kernel
      intro hin
      simpa [hfind] using hnames key hin
    simp [tableAllows, hfind, hkey]
  | some prop =>
    have hname : prop.name = key := by simpa using List.find?_some hfind
    have hallows : tableAllows validProperties key value ↔ prop.allows value = true := by
      simp [tableAllows, hfind]
    rw [hallows, ← hname]
    rcases validProperties_boolean prop (List.mem_of_find?_eq_some hfind) with
      ⟨htype, hkey⟩ | ⟨htype, hkey⟩
    · simp [ValidProperty.allows, htype, hkey]
    · simp [ValidProperty.allows, htype, hkey]

/-- The data items pass when there is one, and the yes or no items are one of the two. -/
theorem propertiesValidate_iff {s_vpn : NMSettingVpn} :
    (nmOpenconnectPropertiesValidate s_vpn).error = none ↔ s_vpn.data.items ≠ [] ∧
      ∀ key ∈ booleanKeys, ∀ value, s_vpn.getDataItem key = some value →
        value = cstr "yes" ∨ value = cstr "no" := by
  have hname : nmSettingName ∉ booleanKeys := by decide +kernel
  unfold nmOpenconnectPropertiesValidate
  rw [validateItems_error]
  refine and_congr_right fun _ => ⟨fun h key hkey value hvalue => ?_, fun h key value hvalue => ?_⟩
  · rcases h key value hvalue with rfl | hallows
    · exact absurd hkey hname
    · exact (tableAllows_validProperties key value).1 hallows hkey
  · exact .inr ((tableAllows_validProperties key value).2 fun hkey => h key hkey value hvalue)

end NmGpclient
