import NmGpclient.Service.ConnectResult
import NmGpclient.Service.Effects

/-!
# Which connections a cleanup deactivates

A cleanup goes over NetworkManager's active connections and has those deactivated that show the TUN
device as the plugin's. What it deactivates, in order, are the connections listed for which
`ShowsTun` holds: a deactivation that fails changes nothing for those after it. `ShowsTun` takes a
`Vpn` or an `Owner` that cannot be read for the answer that lets the cleanup go on, where a `Type`,
a `Devices` or an `Interface` that cannot be read ends it.
-/

namespace NmGpclient

/-- The connection an effect has NetworkManager deactivate. -/
def Effect.deactivated : Effect → Option CStr
  | .deactivateConnection path => some path
  | _ => none

/-- The connections the service has had deactivated, in order, whether or not each call succeeded. -/
def World.deactivated (w : World) : List CStr := w.trace.filterMap Effect.deactivated

/-- NetworkManager shows the connection as the plugin's own: it is of type `tun`, is no VPN, and has
a device of that name whose owner is the plugin's account. Each of the properties was read. -/
structure BusAnswers.IsOwnTun (b : BusAnswers) (path tunName : CStr) (tunOwner : Nat) : Prop where
  type : b.type path = some (cstr "tun")
  vpn : b.vpn path = some false
  device : ∃ devices, b.devices path = some devices ∧ ∃ device ∈ devices,
    b.interface device = some tunName ∧ b.owner device = some (tunOwner : Int)

instance BusAnswers.decidableShowsTun (b : BusAnswers) (path tunName : CStr) (tunOwner : Nat) :
    Decidable (b.ShowsTun path tunName tunOwner) :=
  decidable_of_iff (b.type path = some (cstr "tun") ∧ b.vpn path ≠ some true ∧
      ∃ device ∈ (b.devices path).getD [], b.interface device = some tunName ∧
        (b.owner device = none ∨ b.owner device = some (tunOwner : Int))) <| by
    constructor
    · rintro ⟨htype, hvpn, device, hmem, hdevice⟩
      cases hdevices : b.devices path with
      | none => simp [hdevices] at hmem
      | some devices =>
        exact ⟨htype, hvpn, devices, hdevices, device, by simpa [hdevices] using hmem, hdevice⟩
    · rintro ⟨htype, hvpn, devices, hdevices, device, hmem, hdevice⟩
      exact ⟨htype, hvpn, device, by simpa [hdevices] using hmem, hdevice⟩

instance BusAnswers.decidableIsOwnTun (b : BusAnswers) (path tunName : CStr) (tunOwner : Nat) :
    Decidable (b.IsOwnTun path tunName tunOwner) :=
  decidable_of_iff (b.ShowsTun path tunName tunOwner ∧ b.vpn path = some false ∧
      ∃ device ∈ (b.devices path).getD [], b.interface device = some tunName ∧
        b.owner device = some (tunOwner : Int)) <| by
    constructor
    · rintro ⟨hshows, hvpn, device, hmem, hdevice⟩
      obtain ⟨devices, hdevices, -⟩ := hshows.device
      exact ⟨hshows.type, hvpn, devices, hdevices, device, by simpa [hdevices] using hmem, hdevice⟩
    · rintro ⟨htype, hvpn, devices, hdevices, device, hmem, hname, howner⟩
      exact ⟨⟨htype, by simp [hvpn], devices, hdevices, device, hmem, hname, .inr howner⟩, hvpn,
        device, by simpa [hdevices] using hmem, hname, howner⟩

/-- The account a cleanup looks for, and the active connections it goes over: none without a device
name, without the account, without the bus, or when the list cannot be read. -/
def BusAnswers.scanned (b : BusAnswers) (tunName : CStr) : Option (Nat × List CStr) :=
  if tunName = [] ∨ b.connected = false then none
  else b.passwd.bind fun pw => b.activeConnections.map fun paths => (pw.uid, paths)

/-- No answer that is missing decides about the connection. For a connection of type `tun` whose
devices were read, that is: when `Vpn` cannot be read, each device of that name has an owner that is
another account; when it is not a VPN and a device of that name has no owner that can be read,
another device of that name has the account as its owner. -/
def BusAnswers.Settled (b : BusAnswers) (path tunName : CStr) (tunOwner : Nat) : Prop :=
  b.type path = some (cstr "tun") → ∀ devices, b.devices path = some devices →
    (b.vpn path = none → ∀ device ∈ devices, b.interface device = some tunName →
      ∃ owner, b.owner device = some owner ∧ owner ≠ (tunOwner : Int)) ∧
    (b.vpn path = some false → ∀ device ∈ devices, b.interface device = some tunName →
      b.owner device = none → ∃ device' ∈ devices, b.interface device' = some tunName ∧
        b.owner device' = some (tunOwner : Int))

section
variable {b : BusAnswers} {path tunName : CStr} {tunOwner : Nat}

/-- A connection that is the plugin's own is deactivated. -/
theorem BusAnswers.IsOwnTun.showsTun (h : b.IsOwnTun path tunName tunOwner) :
    b.ShowsTun path tunName tunOwner := by
  obtain ⟨devices, hdevices, device, hmem, hname, howner⟩ := h.device
  exact ⟨h.type, by simp [h.vpn], devices, hdevices, device, hmem, hname, .inr howner⟩

/-- A connection is deactivated only as the plugin's own exactly when no missing answer decides
about it. -/
theorem BusAnswers.settled_iff :
    b.Settled path tunName tunOwner ↔
      (b.ShowsTun path tunName tunOwner → b.IsOwnTun path tunName tunOwner) := by
  constructor
  · intro hsettled hshows
    obtain ⟨devices, hdevices, device, hmem, hname, howner⟩ := hshows.device
    obtain ⟨hnone, hfalse⟩ := hsettled hshows.type devices hdevices
    cases hvpn : b.vpn path with
    | none =>
      obtain ⟨owner, hread, hne⟩ := hnone hvpn device hmem hname
      rcases howner with hunread | hown
      · cases hread.symm.trans hunread
      · cases hread.symm.trans hown
        exact absurd rfl hne
    | some vpn =>
      cases vpn with
      | true => exact absurd hvpn hshows.vpn
      | false =>
        refine ⟨hshows.type, hvpn, devices, hdevices, ?_⟩
        rcases howner with hunread | hown
        · exact hfalse hvpn device hmem hname hunread
        · exact ⟨device, hmem, hname, hown⟩
  · intro hown htype devices hdevices
    constructor
    · -- with `Vpn` unread the connection must not be deactivated at all
      intro hvpn device hmem hname
      have hnot : ¬(b.owner device = none ∨ b.owner device = some (tunOwner : Int)) := by
        intro howner
        have h := hown ⟨htype, by simp [hvpn], devices, hdevices, device, hmem, hname, howner⟩
        cases hvpn.symm.trans h.vpn
      cases howner : b.owner device with
      | none => exact absurd (.inl howner) hnot
      | some owner =>
        refine ⟨owner, rfl, ?_⟩
        rintro rfl
        exact hnot (.inr howner)
    · intro hvpn device hmem hname howner
      have h := hown ⟨htype, by simp [hvpn], devices, hdevices, device, hmem, hname, .inl howner⟩
      obtain ⟨devices', hdevices', hdevice⟩ := h.device
      cases hdevices.symm.trans hdevices'
      exact hdevice

end

/-! ## The scan -/

theorem World.deactivated_emit (w : World) (e : Effect) :
    (w.emit e).deactivated = w.deactivated ++ e.deactivated.toList := by
  unfold deactivated emit
  rw [List.filterMap_append]
  cases h : e.deactivated with
  | none => simp [h]
  | some path => simp [h]

@[simp] theorem World.deactivated_log (w : World) (level : Nat) (line : CStr) :
    (w.log level line).deactivated = w.deactivated := by
  unfold log
  split
  · simp [deactivated_emit, Effect.deactivated]
  · rfl

/-- What grows by effects that deactivate nothing has deactivated nothing. -/
theorem World.Grows.deactivated_eq {w w' : World}
    (h : w.Grows (fun e => e.deactivated = none) w') : w'.deactivated = w.deactivated := by
  obtain ⟨es, htrace, hes⟩ := h
  have hnone : es.filterMap Effect.deactivated = [] := by
    rw [List.filterMap_eq_nil_iff]
    exact hes
  unfold deactivated
  rw [htrace, List.filterMap_append, hnone, List.append_nil]

/-- A discreet effect deactivates nothing. -/
theorem Effect.deactivated_of_discreet : ∀ e : Effect, e.discreet = true → e.deactivated = none := by
  intro e he
  cases e <;> first | rfl | cases he

theorem activeConnectionUsesTun_deactivated (b : BusAnswers) (path tunName : CStr) (tunOwner : Nat)
    (w : World) :
    (activeConnectionUsesTun b path tunName tunOwner w).2.deactivated = w.deactivated :=
  (activeConnectionUsesTun_grows Effect.deactivated_of_discreet b .refl path tunName
    tunOwner).deactivated_eq

/-- The loop has the connections deactivated that show the device, each once for each time it is
listed, whatever the calls before it came to. -/
theorem deactivateConnections_deactivated (b : BusAnswers) (tunName : CStr) (tunOwner : Nat) :
    ∀ (paths : List CStr) (w : World),
      (deactivateConnections b tunName tunOwner paths w).deactivated =
        w.deactivated ++ paths.filter fun path => b.ShowsTun path tunName tunOwner
  | [], w => by simp [deactivateConnections]
  | path :: rest, w => by
      have huses := activeConnectionUsesTun_iff b path tunName tunOwner w
      have hscan := activeConnectionUsesTun_deactivated b path tunName tunOwner w
      unfold deactivateConnections
      split
      next w₁ heq =>
        rw [heq] at huses hscan
        have hnot : ¬b.ShowsTun path tunName tunOwner := by simpa using huses.symm
        rw [deactivateConnections_deactivated b tunName tunOwner rest, List.filter_cons_of_neg, hscan]
        simpa using hnot
      next w₁ heq =>
        rw [heq] at huses hscan
        have hlogged : ∀ w₂ : World, w₂.deactivated = w.deactivated ++ [path] →
            (deactivateConnections b tunName tunOwner rest w₂).deactivated =
              w.deactivated ++ (path :: rest).filter fun p => b.ShowsTun p tunName tunOwner := by
          intro w₂ hw₂
          rw [deactivateConnections_deactivated b tunName tunOwner rest, hw₂, List.filter_cons_of_pos,
            List.append_assoc, List.singleton_append]
          simpa using huses.1 rfl
        apply hlogged
        have hemit : (w₁.emit (.deactivateConnection path)).deactivated = w.deactivated ++ [path] := by
          rw [World.deactivated_emit, hscan]
          rfl
        cases b.deactivate path with
        | none => simpa using hemit
        | some message => simpa using hemit

/-- A cleanup has the connections deactivated that show the device, of those it goes over. -/
theorem deactivateAssumedTunConnection_deactivated (tunName : CStr) (b : BusAnswers) (w : World) :
    (deactivateAssumedTunConnection tunName b w).deactivated =
      w.deactivated ++ (b.scanned tunName).elim [] fun found =>
        found.2.filter fun path => b.ShowsTun path tunName found.1 := by
  have hpasswd : (w.emit (.getpwnam nmOpenconnectUser)).deactivated = w.deactivated := by
    simp [World.deactivated_emit, Effect.deactivated]
  have hread : (nmGetProperty b nmPath nmInterface (cstr "ActiveConnections") b.activeConnections
      (w.emit (.getpwnam nmOpenconnectUser))).2.deactivated = w.deactivated := by
    rw [(nmGetProperty_grows Effect.deactivated_of_discreet b .refl nmPath nmInterface
      (cstr "ActiveConnections") b.activeConnections).deactivated_eq, hpasswd]
  have hanswer := nmGetProperty_answer b nmPath nmInterface (cstr "ActiveConnections")
    b.activeConnections (w.emit (.getpwnam nmOpenconnectUser))
  unfold deactivateAssumedTunConnection BusAnswers.scanned
  by_cases hname : tunName = []
  · simp [hname]
  · simp only [hname, if_false, false_or]
    cases b.passwd with
    | none => simp [hpasswd]
    | some pw =>
      cases b.connected with
      | false => simp [hpasswd]
      | true =>
        simp only [if_true, Option.bind_some, Bool.true_eq_false, if_false]
        split
        next w₁ heq =>
          rw [heq] at hread hanswer
          simpa [← hanswer] using hread
        next paths w₁ heq =>
          rw [heq] at hread hanswer
          rw [deactivateConnections_deactivated, hread, ← hanswer]
          rfl

/-- A cleanup deactivates the plugin's own connections and no other, each however the calls before
it ended, exactly when no missing answer decides about a connection it goes over. -/
theorem deactivated_eq_own_iff (tunName : CStr) (b : BusAnswers) (w : World) :
    (deactivateAssumedTunConnection tunName b w).deactivated =
        w.deactivated ++ (b.scanned tunName).elim [] (fun found =>
          found.2.filter fun path => b.IsOwnTun path tunName found.1) ↔
      ∀ tunOwner paths, b.scanned tunName = some (tunOwner, paths) →
        ∀ path ∈ paths, b.Settled path tunName tunOwner := by
  rw [deactivateAssumedTunConnection_deactivated, List.append_cancel_left_eq]
  cases b.scanned tunName with
  | none => simp
  | some found =>
    obtain ⟨tunOwner, paths⟩ := found
    constructor
    · intro heq _ _ hfound path hpath
      cases hfound
      rw [BusAnswers.settled_iff]
      intro hshows
      have hmem : path ∈ paths.filter fun path => b.ShowsTun path tunName tunOwner := by
        simpa using ⟨hpath, hshows⟩
      rw [Option.elim_some, Option.elim_some] at heq
      rw [heq] at hmem
      simpa using (List.mem_filter.1 hmem).2
    · intro hsettled
      apply List.filter_congr
      intro path hpath
      have hown := BusAnswers.settled_iff.1 (hsettled tunOwner paths rfl path hpath)
      exact decide_eq_decide.2 ⟨hown, BusAnswers.IsOwnTun.showsTun⟩

/-- NetworkManager shows a connection of type `tun` on `vpn0` and does not tell who owns the
device. -/
def ownerless : BusAnswers where
  passwd := some ⟨nmOpenconnectUser, 990, 990, cstr "/"⟩
  connected := true
  activeConnections := some [cstr "/1"]
  type _ := some (cstr "tun")
  vpn _ := some false
  devices _ := some [cstr "/dev"]
  interface _ := some (cstr "vpn0")
  owner _ := none
  deactivate _ := none
  readError := cstr "timeout"

/-- A device whose owner cannot be read loses its connection. -/
theorem ownerless_deactivated :
    (deactivateAssumedTunConnection (cstr "vpn0") ownerless (.start noDevices)).deactivated =
        [cstr "/1"] ∧
      ¬ownerless.IsOwnTun (cstr "/1") (cstr "vpn0") 990 := by
  decide

end NmGpclient
