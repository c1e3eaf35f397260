import NmGpclient.Service.World

/-!
# Deactivating the assumed TUN connection

NetworkManager may show the TUN device of an earlier session as an active connection of its own.
`deactivate_assumed_tun_connection` reads the active connections and deactivates those of type
`tun` that are not VPNs and have a device of that name, owned by the plugin's account. Each
property is read over D-Bus, and each read may fail.
-/

namespace NmGpclient

/-- What the account database and NetworkManager answer; a property that cannot be read is `none`.
`deactivate` is `none` when the call succeeds, else its error. -/
structure BusAnswers where
  passwd : Option Passwd
  connected : Bool
  activeConnections : Option (List CStr)
  type : CStr → Option CStr
  vpn : CStr → Option Bool
  devices : CStr → Option (List CStr)
  interface : CStr → Option CStr
  owner : CStr → Option Int
  deactivate : CStr → Option CStr
  readError : CStr

/-- `nm_get_property`: the property is read, and a failure is logged. -/
def nmGetProperty {α : Type} (b : BusAnswers) (path iface property : CStr) (answer : Option α)
    (w : World) : Option α × World :=
  let w := w.emit (.readProperty path property)
  if answer.isSome then (answer, w)
  else (none, w.log logInfo (cstr "Could not read NetworkManager property " ++ iface ++ cstr "." ++
    property ++ cstr " on " ++ path ++ cstr ": " ++ b.readError))

def activeInterface : CStr := cstr "org.freedesktop.NetworkManager.Connection.Active"
def deviceInterface : CStr := cstr "org.freedesktop.NetworkManager.Device"
def tunInterface : CStr := cstr "org.freedesktop.NetworkManager.Device.Tun"
def nmInterface : CStr := cstr "org.freedesktop.NetworkManager"
def nmPath : CStr := cstr "/org/freedesktop/NetworkManager"

/-- The loop over the devices of an active connection. A device whose owner cannot be read counts
as the plugin's. -/
def findTunDevice (b : BusAnswers) (tunName : CStr) (tunOwner : Nat) :
    List CStr → World → Bool × World
  | [], w => (false, w)
  | device :: rest, w =>
    match nmGetProperty b device deviceInterface (cstr "Interface") (b.interface device) w with
    | (none, w) => findTunDevice b tunName tunOwner rest w
    | (some iface, w) =>
      if iface ≠ tunName then findTunDevice b tunName tunOwner rest w
      else
        match nmGetProperty b device tunInterface (cstr "Owner") (b.owner device) w with
        | (none, w) => (true, w)
        | (some owner, w) =>
          if owner ≠ tunOwner then findTunDevice b tunName tunOwner rest w else (true, w)

/-- `active_connection_uses_tun`. -/
def activeConnectionUsesTun (b : BusAnswers) (path tunName : CStr) (tunOwner : Nat) (w : World) :
    Bool × World :=
  match nmGetProperty b path activeInterface (cstr "Type") (b.type path) w with
  | (none, w) => (false, w)
  | (some type, w) =>
    if type ≠ cstr "tun" then (false, w)
    else
      match nmGetProperty b path activeInterface (cstr "Vpn") (b.vpn path) w with
      | (some true, w) => (false, w)
      | (_, w) =>
        match nmGetProperty b path activeInterface (cstr "Devices") (b.devices path) w with
        | (none, w) => (false, w)
        | (some devices, w) => findTunDevice b tunName tunOwner devices w

/-- The loop over the active connections. -/
def deactivateConnections (b : BusAnswers) (tunName : CStr) (tunOwner : Nat) :
    List CStr → World → World
  | [], w => w
  | path :: rest, w =>
    match activeConnectionUsesTun b path tunName tunOwner w with
    | (false, w) => deactivateConnections b tunName tunOwner rest w
    | (true, w) =>
      let w := w.emit (.deactivateConnection path)
      let w := match b.deactivate path with
        | some message => w.log logWarning (cstr "Could not deactivate assumed tun connection " ++
            path ++ cstr " on " ++ tunName ++ cstr ": " ++ message)
        | none => w.log logNotice (cstr "Deactivated assumed tun connection " ++ path ++
            cstr " on " ++ tunName)
      deactivateConnections b tunName tunOwner rest w

/-- `deactivate_assumed_tun_connection`. -/
def deactivateAssumedTunConnection (tunName : CStr) (b : BusAnswers) (w : World) : World :=
  if tunName = [] then w
  else
    let w := w.emit (.getpwnam nmOpenconnectUser)
    match b.passwd with
    | none => w
    | some pw =>
      if b.connected then
        match nmGetProperty b nmPath nmInterface (cstr "ActiveConnections") b.activeConnections w with
        | (none, w) => w
        | (some paths, w) => deactivateConnections b tunName pw.uid paths w
      else w.log logInfo (cstr "Could not connect to system bus for tun cleanup: " ++ b.readError)

/-! ## The deactivation only talks to the bus -/

section
variable (b : BusAnswers) {t : TunTable IfName} {w₀ : World}

theorem nmGetProperty_spec {α : Type} {w : World} (h : w₀.OnlyTun t w)
    (path iface property : CStr) (answer : Option α) :
    w₀.OnlyTun t (nmGetProperty b path iface property answer w).2 := by
  unfold nmGetProperty
  dsimp only
  split
  · exact h.emit _
  · exact (h.emit _).log _ _

theorem findTunDevice_spec {tunName : CStr} {tunOwner : Nat} :
    ∀ {devices : List CStr} {w : World}, w₀.OnlyTun t w →
      w₀.OnlyTun t (findTunDevice b tunName tunOwner devices w).2
  | [], _, h => h
  | device :: rest, w, h => by
      have hi := nmGetProperty_spec b h device deviceInterface (cstr "Interface") (b.interface device)
      unfold findTunDevice
      split
      next heq => rw [heq] at hi; exact findTunDevice_spec hi
      next heq =>
        rw [heq] at hi
        split
        · exact findTunDevice_spec hi
        · have ho := nmGetProperty_spec b hi device tunInterface (cstr "Owner") (b.owner device)
          split
          next heq => rw [heq] at ho; exact ho
          next heq =>
            rw [heq] at ho
            split
            · exact findTunDevice_spec ho
            · exact ho

theorem activeConnectionUsesTun_spec {w : World} (h : w₀.OnlyTun t w) (path tunName : CStr)
    (tunOwner : Nat) :
    w₀.OnlyTun t (activeConnectionUsesTun b path tunName tunOwner w).2 := by
  have ht := nmGetProperty_spec b h path activeInterface (cstr "Type") (b.type path)
  unfold activeConnectionUsesTun
  split
  next heq => rw [heq] at ht; exact ht
  next heq =>
    rw [heq] at ht
    split
    · exact ht
    · have hv := nmGetProperty_spec b ht path activeInterface (cstr "Vpn") (b.vpn path)
      split
      next heq => rw [heq] at hv; exact hv
      next heq =>
        have hd := nmGetProperty_spec b hv path activeInterface (cstr "Devices") (b.devices path)
        rw [heq] at hd
        split
        next heq => rw [heq] at hd; exact hd
        next heq => rw [heq] at hd; exact findTunDevice_spec b hd

theorem deactivateConnections_spec {tunName : CStr} {tunOwner : Nat} :
    ∀ {paths : List CStr} {w : World}, w₀.OnlyTun t w →
      w₀.OnlyTun t (deactivateConnections b tunName tunOwner paths w)
  | [], _, h => h
  | path :: rest, w, h => by
      have hu := activeConnectionUsesTun_spec b h path tunName tunOwner
      unfold deactivateConnections
      split
      next heq => rw [heq] at hu; exact deactivateConnections_spec hu
      next heq =>
        rw [heq] at hu
        apply deactivateConnections_spec
        cases b.deactivate path with
        | none => exact (hu.emit _).log _ _
        | some message => exact (hu.emit _).log _ _

end

/-- Deactivating connections changes nothing of the service's own. -/
theorem deactivateAssumedTunConnection_spec (tunName : CStr) (b : BusAnswers) (w : World) :
    w.OnlyTun w.tun (deactivateAssumedTunConnection tunName b w) := by
  have hpw := (World.OnlyTun.refl (w := w)).emit (.getpwnam nmOpenconnectUser)
  unfold deactivateAssumedTunConnection
  split
  · exact .refl
  · cases b.passwd with
    | none => exact hpw
    | some pw =>
      dsimp only
      split
      · have ha := nmGetProperty_spec b hpw nmPath nmInterface (cstr "ActiveConnections")
          b.activeConnections
        split
        next heq => rw [heq] at ha; exact ha
        next heq => rw [heq] at ha; exact deactivateConnections_spec b ha
      · exact hpw.log _ _

end NmGpclient
