import NmGpclient.Injection

/-!
# The switches the validation covers

`validate_one_property` refuses a switch that is neither `yes` nor `no`, for the boolean rows of its
table; `nm_openconnect_start_openconnect_binary` compares seven data items with `yes` or `no`. The
two lists are kept by hand, and the table has no row for `as_gateway` and `auto_gateway`, which the
builder obeys: the validation warns that they are unknown and lets any value pass.
-/

namespace NmGpclient

/-- What `nm_openconnect_properties_validate` returns, and the error it leaves, when none was set on
entry. -/
def propertiesVerdict (s_vpn : NMSettingVpn) : Bool × Option GError :=
  let info := nmOpenconnectPropertiesValidate s_vpn
  (info.haveItems && info.error.isNone, info.error)

/-- The switch is absent, `yes` or `no`. -/
def NMSettingVpn.SwitchOk (s_vpn : NMSettingVpn) (key : CStr) : Prop :=
  ∀ value, s_vpn.getDataItem key = some value → value = cstr "yes" ∨ value = cstr "no"

/-- The switches of the service: the boolean rows of the table and the data items the builder
compares with `yes` or `no`. -/
def switchKeys : List CStr := booleanKeys ++ yesNoKeys

/-- The validation covers the switches of the profile: it passes, without an error, exactly when
there is a data item and each switch is absent, `yes` or `no`, it returns `FALSE` with an error
otherwise, and returns the same for every order of the data items. -/
structure ValidationCovers (s_vpn : NMSettingVpn) : Prop where
  accepts : propertiesVerdict s_vpn = (true, none) ↔
    s_vpn.data.items ≠ [] ∧ ∀ key ∈ switchKeys, s_vpn.SwitchOk key
  refuses : propertiesVerdict s_vpn ≠ (true, none) →
    ∃ error, propertiesVerdict s_vpn = (false, some error)
  anyOrder : ∀ data : StrMap, data.entries.Perm s_vpn.data.entries →
    (propertiesVerdict { s_vpn with data := data }).1 = (propertiesVerdict s_vpn).1

/-- A map that has items is one the callback has seen an item of. -/
theorem validateItems_haveItems (table : List ValidProperty) (noItems : CStr) (items : StrMap)
    (h : (validateItems table noItems items).error = none) :
    (validateItems table noItems items).haveItems = true := by
  unfold validateItems at h ⊢
  dsimp only at h ⊢
  split at h
  next hhave => rw [if_pos hhave]; exact hhave
  next => cases h

/-- It returns `TRUE` exactly when it leaves no error. -/
theorem propertiesVerdict_fst (s_vpn : NMSettingVpn) :
    (propertiesVerdict s_vpn).1 = true ↔ (nmOpenconnectPropertiesValidate s_vpn).error = none := by
  unfold propertiesVerdict
  dsimp only
  constructor
  · intro h
    simpa using (Bool.and_eq_true_iff.1 h).2
  · intro h
    have hhave : (nmOpenconnectPropertiesValidate s_vpn).haveItems = true :=
      validateItems_haveItems _ _ _ h
    simp [hhave, h]

theorem propertiesVerdict_eq_ok (s_vpn : NMSettingVpn) : propertiesVerdict s_vpn = (true, none) ↔
    s_vpn.data.items ≠ [] ∧ ∀ key ∈ booleanKeys, s_vpn.SwitchOk key := by
  have hverdict : propertiesVerdict s_vpn = (true, none) ↔
      (nmOpenconnectPropertiesValidate s_vpn).error = none := by
    rw [← propertiesVerdict_fst]
    constructor
    · intro h
      rw [h]
    · intro h
      exact Prod.ext h ((propertiesVerdict_fst s_vpn).1 h)
  rw [hverdict, propertiesValidate_iff]
  rfl

/-- The order of the data items matters to no one. -/
theorem propertiesVerdict_perm (s_vpn : NMSettingVpn) (data : StrMap)
    (h : data.entries.Perm s_vpn.data.entries) :
    (propertiesVerdict { s_vpn with data := data }).1 = (propertiesVerdict s_vpn).1 := by
  have hitems : data.items = [] ↔ s_vpn.data.items = [] := by
    have hlength : data.items.length = s_vpn.data.items.length := by
      simpa [StrMap.items] using h.length_eq
    rw [← List.length_eq_zero_iff, ← List.length_eq_zero_iff, hlength]
  rw [Bool.eq_iff_iff, propertiesVerdict_fst, propertiesVerdict_fst, propertiesValidate_iff,
    propertiesValidate_iff]
  refine and_congr (not_congr hitems) (forall₂_congr fun key _ => forall_congr' fun value => ?_)
  have hlookup : data.lookup key = s_vpn.data.lookup key := AList.perm_lookup h
  exact imp_congr_left (by rw [NMSettingVpn.getDataItem, NMSettingVpn.getDataItem, hlookup])

/-- The switches without a row are the two that choose the gateway. -/
theorem forall_switchKeys {P : CStr → Prop} : (∀ key ∈ switchKeys, P key) ↔
    (∀ key ∈ booleanKeys, P key) ∧ P Key.asGateway ∧ P Key.autoGateway := by
  have hkeys : ∀ key ∈ switchKeys, key ∈ booleanKeys ∨ key = Key.asGateway ∨ key = Key.autoGateway :=
    by decide +kernel
  have has : Key.asGateway ∈ switchKeys := by decide +kernel
  have hauto : Key.autoGateway ∈ switchKeys := by decide +kernel
  constructor
  · intro h
    exact ⟨fun key hkey => h key (List.mem_append_left _ hkey), h _ has, h _ hauto⟩
  · rintro ⟨hbool, has, hauto⟩ key hkey
    rcases hkeys key hkey with hrow | rfl | rfl
    · exact hbool key hrow
    · exact has
    · exact hauto

/-- The validation covers the switches of a profile unless all that is wrong with the profile is the
value of `as_gateway` or of `auto_gateway`. -/
theorem validationCovers_iff (s_vpn : NMSettingVpn) : ValidationCovers s_vpn ↔
    (s_vpn.data.items ≠ [] → (∀ key ∈ booleanKeys, s_vpn.SwitchOk key) →
      s_vpn.SwitchOk Key.asGateway ∧ s_vpn.SwitchOk Key.autoGateway) := by
  constructor
  · rintro ⟨haccepts, -, -⟩ hitems hbool
    rw [propertiesVerdict_eq_ok, forall_switchKeys] at haccepts
    exact (haccepts.1 ⟨hitems, hbool⟩).2.2
  · intro hgateway
    refine ⟨?_, ?_, propertiesVerdict_perm s_vpn⟩
    · rw [propertiesVerdict_eq_ok, forall_switchKeys]
      constructor
      · rintro ⟨hitems, hbool⟩
        exact ⟨hitems, hbool, hgateway hitems hbool⟩
      · rintro ⟨hitems, hbool, -⟩
        exact ⟨hitems, hbool⟩
    · intro hrefused
      have hfst := propertiesVerdict_fst s_vpn
      cases herror : (nmOpenconnectPropertiesValidate s_vpn).error with
      | none => exact absurd (Prod.ext (hfst.2 herror) herror) hrefused
      | some error =>
        refine ⟨error, Prod.ext ?_ herror⟩
        have hfalse : (propertiesVerdict s_vpn).1 ≠ true := by simp [hfst, herror]
        simpa using hfalse

/-- A profile whose `as_gateway` is written with a capital. -/
def misspeltVpn : NMSettingVpn where
  data := (AList.singleton Key.portal (cstr "vpn.example.org")).insert Key.asGateway (cstr "Yes")
  secrets := ∅
  secretFlags _ := none

/-- The misspelt switch passes, and the connection goes to a portal. -/
theorem misspelt_accepted : propertiesVerdict misspeltVpn = (true, none) ∧
    ¬misspeltVpn.SwitchOk Key.asGateway ∧ directGatewayMode misspeltVpn = false := by
  refine ⟨by decide +kernel, ?_, by decide +kernel⟩
  intro h
  have hvalue := h (cstr "Yes") (by decide +kernel)
  revert hvalue
  decide

end NmGpclient
