import NmGpclient.Service.Lifecycle

/-!
# What a callback does to its surroundings

The log of a state only grows, and a callback adds few kinds of effects that matter outside the
service: it writes to a child, makes the service the owner of a TUN device, sets or clears the
device's persistence, and has NetworkManager deactivate a connection. Every other effect is `plain`.
For each function of the service `Grows` says which of the four it may add, for which cookie, which
device and which connection.
-/

namespace NmGpclient

/-- The TUN device that an effect makes the service's or changes the persistence of. `TUNSETIFF`
that succeeds is always followed by one of the two. -/
def Effect.device : Effect → Option IfName
  | .tunsetowner n _ => some n
  | .tunsetpersist n _ => some n
  | _ => none

/-- The effects that are neither a write to a child, nor on a device, nor a deactivation. -/
def Effect.plain : Effect → Bool
  | .write _ | .tunsetowner .. | .tunsetpersist .. | .deactivateConnection _ => false
  | _ => true

/-- The plain effects that show nothing of a connection: all but its dump. -/
def Effect.discreet : Effect → Bool
  | .connectionDump => false
  | e => e.plain

theorem Effect.plain_of_discreet {e : Effect} (h : e.discreet = true) : e.plain = true := by
  cases e <;> first | exact h | cases h

/-- NetworkManager shows an active connection with the TUN device of that name as one of type `tun`
that is no VPN, and its owner as `tunOwner` when it shows one. -/
structure BusAnswers.ShowsTun (b : BusAnswers) (path tunName : CStr) (tunOwner : Nat) : Prop where
  type : b.type path = some (cstr "tun")
  vpn : b.vpn path ≠ some true
  device : ∃ devices, b.devices path = some devices ∧ ∃ device ∈ devices,
    b.interface device = some tunName ∧ (b.owner device = none ∨ b.owner device = some (tunOwner : Int))

/-- A cleanup for the device of that name deactivates the connection: the account and the bus are
there, and the connection is active and shows the device as the account's. -/
def BusAnswers.Deactivates (b : BusAnswers) (tunName path : CStr) : Prop :=
  ∃ pw paths, b.passwd = some pw ∧ b.connected = true ∧ b.activeConnections = some paths ∧
    path ∈ paths ∧ b.ShowsTun path tunName pw.uid

/-- The device that `real_need_secrets` cleans up after. -/
def cleanupName (connection : NMConnection) : CStr :=
  (connection.settingConnection.bind NMSettingConnection.interfaceName).elim (cstr "vpn0")
    IfName.bytes

/-- From `w` to `w'` the log grew, by effects that meet `P`. -/
def World.Grows (P : Effect → Prop) (w w' : World) : Prop :=
  ∃ es, w'.trace = w.trace ++ es ∧ ∀ e ∈ es, P e

section
variable {P : Effect → Prop} {w w' w'' : World}

theorem World.Grows.refl : w.Grows P w := ⟨[], by simp, by simp⟩

theorem World.Grows.trans (h : w.Grows P w') (h' : w'.Grows P w'') : w.Grows P w'' := by
  obtain ⟨es, htrace, hes⟩ := h
  obtain ⟨es', htrace', hes'⟩ := h'
  refine ⟨es ++ es', by rw [htrace', htrace, List.append_assoc], ?_⟩
  intro e he
  exact (List.mem_append.1 he).elim (hes e) (hes' e)

/-- Only the log matters. -/
theorem World.Grows.congr (h : w.Grows P w') (htrace : w''.trace = w'.trace) : w.Grows P w'' := by
  obtain ⟨es, heq, hes⟩ := h
  exact ⟨es, htrace.trans heq, hes⟩

theorem World.Grows.setTun (h : w.Grows P w') (t : TunTable IfName) : w.Grows P (w'.setTun t) :=
  h.congr rfl

theorem World.Grows.addChild (h : w.Grows P w') (c : Child) : w.Grows P (w'.addChild c) :=
  h.congr rfl

theorem World.Grows.setPriv (h : w.Grows P w') (priv : Priv) : w.Grows P (w'.setPriv priv) :=
  h.congr rfl

theorem World.Grows.emit (h : w.Grows P w') {e : Effect} (he : P e) : w.Grows P (w'.emit e) :=
  h.trans ⟨[e], rfl, by simpa using he⟩

/-- What is in the log afterwards was there before or is one of these effects. -/
theorem World.Grows.mem (h : w.Grows P w') {e : Effect} (he : e ∈ w'.trace) :
    e ∈ w.trace ∨ P e := by
  obtain ⟨es, htrace, hes⟩ := h
  rw [htrace, List.mem_append] at he
  exact he.imp_right (hes e)

end

/-! ## Which connections are deactivated -/

section
variable (b : BusAnswers)

@[simp] theorem nmGetProperty_answer {α : Type} (path iface property : CStr) (answer : Option α)
    (w : World) : (nmGetProperty b path iface property answer w).1 = answer := by
  unfold nmGetProperty
  cases answer <;> rfl

theorem findTunDevice_iff (tunName : CStr) (tunOwner : Nat) : ∀ (devices : List CStr) (w : World),
    (findTunDevice b tunName tunOwner devices w).1 = true ↔ ∃ device ∈ devices,
      b.interface device = some tunName ∧
        (b.owner device = none ∨ b.owner device = some (tunOwner : Int))
  | [], _ => by simp [findTunDevice]
  | device :: rest, w => by
      have ih := findTunDevice_iff tunName tunOwner rest
      have hi := nmGetProperty_answer b device deviceInterface (cstr "Interface")
        (b.interface device) w
      rw [List.exists_mem_cons_iff]
      unfold findTunDevice
      split
      next heq =>
        rw [heq] at hi
        simp [ih, ← hi]
      next iface w₁ heq =>
        rw [heq] at hi
        split
        next hne => simp [ih, ← hi, hne]
        next hname =>
          obtain rfl : iface = tunName := not_not.1 hname
          have ho := nmGetProperty_answer b device tunInterface (cstr "Owner") (b.owner device) w₁
          split
          next heq => rw [heq] at ho; simp [← hi, ← ho]
          next owner _ heq =>
            rw [heq] at ho
            split
            next hne => simp [ih, ← hi, ← ho, hne]
            next howner => simp [← hi, ← ho, not_not.1 howner]

/-- The service finds that a connection uses the device exactly when NetworkManager shows it so. -/
theorem activeConnectionUsesTun_iff (path tunName : CStr) (tunOwner : Nat) (w : World) :
    (activeConnectionUsesTun b path tunName tunOwner w).1 = true ↔
      b.ShowsTun path tunName tunOwner := by
  have hshows : b.ShowsTun path tunName tunOwner ↔ b.type path = some (cstr "tun") ∧
      b.vpn path ≠ some true ∧ ∃ devices, b.devices path = some devices ∧ ∃ device ∈ devices,
        b.interface device = some tunName ∧
          (b.owner device = none ∨ b.owner device = some (tunOwner : Int)) :=
    ⟨fun h => ⟨h.type, h.vpn, h.device⟩, fun h => ⟨h.1, h.2.1, h.2.2⟩⟩
  rw [hshows]
  have ht := nmGetProperty_answer b path activeInterface (cstr "Type") (b.type path) w
  unfold activeConnectionUsesTun
  split
  next heq => rw [heq] at ht; simp [← ht]
  next type w₁ heq =>
    rw [heq] at ht
    split
    next hne => simp [← ht, hne]
    next htype =>
      obtain rfl : type = cstr "tun" := not_not.1 htype
      split
      next w₂ heq =>
        have hv := nmGetProperty_answer b path activeInterface (cstr "Vpn") (b.vpn path) w₁
        rw [heq] at hv
        simp [← hv]
      next vpn w₂ hvpn heq =>
        have hv := nmGetProperty_answer b path activeInterface (cstr "Vpn") (b.vpn path) w₁
        rw [heq] at hv
        have hd := nmGetProperty_answer b path activeInterface (cstr "Devices") (b.devices path) w₂
        split
        next heq => rw [heq] at hd; simp [← hd]
        next devices _ heq =>
          rw [heq] at hd
          have hvpn' : b.vpn path ≠ some true := by
            intro htrue
            exact hvpn (hv.trans htrue)
          simp only [findTunDevice_iff, ← ht, ← hd, true_and, Option.some.injEq, exists_eq_left']
          exact (and_iff_right hvpn').symm

end

section
variable {P : Effect → Prop} (hdiscreet : ∀ e, e.discreet = true → P e) {w w' : World}

include hdiscreet

theorem World.Grows.log (h : w.Grows P w') (level : Nat) (line : CStr) :
    w.Grows P (w'.log level line) := by
  unfold World.log
  split
  · exact h.emit (hdiscreet _ rfl)
  · exact h

/-! ## NetworkManager -/

theorem nmGetProperty_grows {α : Type} (b : BusAnswers) (h : w.Grows P w')
    (path iface property : CStr) (answer : Option α) :
    w.Grows P (nmGetProperty b path iface property answer w').2 := by
  unfold nmGetProperty
  dsimp only
  split
  · exact h.emit (hdiscreet _ rfl)
  · exact (h.emit (hdiscreet _ rfl)).log hdiscreet _ _

theorem findTunDevice_grows (b : BusAnswers) (tunName : CStr) (tunOwner : Nat) :
    ∀ (devices : List CStr) {w' : World}, w.Grows P w' →
      w.Grows P (findTunDevice b tunName tunOwner devices w').2
  | [], _, h => h
  | device :: rest, w', h => by
      have hi := nmGetProperty_grows hdiscreet b h device deviceInterface (cstr "Interface")
        (b.interface device)
      unfold findTunDevice
      split
      next heq => rw [heq] at hi; exact findTunDevice_grows b tunName tunOwner rest hi
      next heq =>
        rw [heq] at hi
        split
        · exact findTunDevice_grows b tunName tunOwner rest hi
        · have ho := nmGetProperty_grows hdiscreet b hi device tunInterface (cstr "Owner")
            (b.owner device)
          split
          next heq => rw [heq] at ho; exact ho
          next heq =>
            rw [heq] at ho
            split
            · exact findTunDevice_grows b tunName tunOwner rest ho
            · exact ho

theorem activeConnectionUsesTun_grows (b : BusAnswers) (h : w.Grows P w') (path tunName : CStr)
    (tunOwner : Nat) :
    w.Grows P (activeConnectionUsesTun b path tunName tunOwner w').2 := by
  have ht := nmGetProperty_grows hdiscreet b h path activeInterface (cstr "Type") (b.type path)
  unfold activeConnectionUsesTun
  split
  next heq => rw [heq] at ht; exact ht
  next heq =>
    rw [heq] at ht
    split
    · exact ht
    · have hv := nmGetProperty_grows hdiscreet b ht path activeInterface (cstr "Vpn") (b.vpn path)
      split
      next heq => rw [heq] at hv; exact hv
      next heq =>
        have hd := nmGetProperty_grows hdiscreet b hv path activeInterface (cstr "Devices")
          (b.devices path)
        rw [heq] at hd
        split
        next heq => rw [heq] at hd; exact hd
        next heq => rw [heq] at hd; exact findTunDevice_grows hdiscreet b tunName tunOwner _ hd

/-- A connection that is deactivated uses the device. -/
theorem deactivateConnections_grows (b : BusAnswers) (tunName : CStr) (tunOwner : Nat) :
    ∀ (paths : List CStr) {w' : World}, w.Grows P w' →
      (∀ path ∈ paths, b.ShowsTun path tunName tunOwner → P (.deactivateConnection path)) →
      w.Grows P (deactivateConnections b tunName tunOwner paths w')
  | [], _, h, _ => h
  | path :: rest, w', h, hdeact => by
      have hu := activeConnectionUsesTun_grows hdiscreet b h path tunName tunOwner
      have huses := activeConnectionUsesTun_iff b path tunName tunOwner w'
      have hrest := fun p hp => hdeact p (List.mem_cons_of_mem path hp)
      unfold deactivateConnections
      split
      next heq =>
        rw [heq] at hu
        exact deactivateConnections_grows b tunName tunOwner rest hu hrest
      next heq =>
        rw [heq] at hu huses
        have hpath := hu.emit (hdeact path List.mem_cons_self (huses.1 rfl))
        apply deactivateConnections_grows b tunName tunOwner rest _ hrest
        cases b.deactivate path with
        | none => exact hpath.log hdiscreet _ _
        | some message => exact hpath.log hdiscreet _ _

theorem deactivateAssumedTunConnection_grows (tunName : CStr) (b : BusAnswers)
    (h : w.Grows P w')
    (hdeact : ∀ path, b.Deactivates tunName path → P (.deactivateConnection path)) :
    w.Grows P (deactivateAssumedTunConnection tunName b w') := by
  have hpw := h.emit (hdiscreet (.getpwnam nmOpenconnectUser) rfl)
  unfold deactivateAssumedTunConnection
  split
  · exact h
  · cases hpasswd : b.passwd with
    | none => exact hpw
    | some pw =>
      dsimp only
      split
      next hconnected =>
        have ha := nmGetProperty_grows hdiscreet b hpw nmPath nmInterface (cstr "ActiveConnections")
          b.activeConnections
        have hanswer := nmGetProperty_answer b nmPath nmInterface (cstr "ActiveConnections")
          b.activeConnections (w'.emit (.getpwnam nmOpenconnectUser))
        split
        next heq => rw [heq] at ha; exact ha
        next paths _ heq =>
          rw [heq] at ha hanswer
          exact deactivateConnections_grows hdiscreet b tunName pw.uid paths ha
            fun path hpath hshows => hdeact path
              ⟨pw, paths, hpasswd, hconnected, hanswer.symm, hpath, hshows⟩
      next => exact hpw.log hdiscreet _ _

/-! ## The TUN device -/

theorem tryNames_grows (a : TunAnswers) : ∀ (ns : List IfName) {w' : World}, w.Grows P w' →
    w.Grows P (tryNames a ns w').2
  | [], _, h => h
  | n :: ns, w', h => by
      have hn := h.emit (hdiscreet (.tunsetiff n) rfl)
      unfold tryNames
      dsimp only
      split
      · exact hn.congr rfl
      · exact tryNames_grows a ns hn

/-- The device a call works on is the one that was attached to. -/
theorem createPersistentTundev_grows (suggested : Option IfName) (a : TunAnswers)
    (h : w.Grows P w')
    (hdev : ∀ n e, attachedName suggested a w'.tun = some n → e.device = some n → P e) :
    w.Grows P (createPersistentTundev suggested a w').2 := by
  have hpw := h.emit (hdiscreet (.getpwnam nmOpenconnectUser) rfl)
  unfold createPersistentTundev
  cases hpasswd : a.passwd with
  | none => exact hpw
  | some pw =>
    dsimp only
    generalize hw₁ : ((w'.emit (.getpwnam nmOpenconnectUser)).setTunOwner pw).emit .openTun = w₁
    have hopen : w.Grows P w₁ := hw₁ ▸ (hpw.congr rfl).emit (hdiscreet _ rfl)
    have htun : w₁.tun = w'.tun := by rw [← hw₁]; rfl
    cases ho : a.openTun with
    | false => exact hopen
    | true =>
      rw [if_pos rfl]
      have htry := tryNames_grows hdiscreet a (candidateNames suggested) hopen
      obtain ⟨w₂, he, -⟩ := tryNames_spec a (candidateNames suggested) w₁
      rw [he] at htry ⊢
      have hname : (candidateNames suggested).find? (a.accepts w₁.tun) =
          acceptedName suggested a w'.tun := by rw [htun]; rfl
      rw [hname]
      cases hn : acceptedName suggested a w'.tun with
      | none => exact htry
      | some n =>
        have hattached : attachedName suggested a w'.tun = some n :=
          attachedName_eq_some.2 ⟨by simp [hpasswd], ho, hn⟩
        have howner := htry.emit (hdev n (.tunsetowner n pw.uid) hattached rfl)
        dsimp only
        cases a.setOwner with
        | false => exact howner
        | true =>
          rw [if_pos rfl]
          have hpersist := (howner.setTun (w₂.tun.setOwner n pw.uid)).emit
            (hdev n (.tunsetpersist n true) hattached rfl)
          cases a.setPersist with
          | false => exact hpersist
          | true =>
            exact ((hpersist.setTun _).emit (hdiscreet _ rfl)).log
              hdiscreet _ _

theorem destroyPersistentTundev_grows (n : IfName) (a : DestroyAnswers) (h : w.Grows P w')
    (hdev : a.openTun = true → a.accepts w'.tun n = true → P (.tunsetpersist n false)) :
    w.Grows P (destroyPersistentTundev n a w') := by
  have hopen := h.emit (hdiscreet .openTun rfl)
  unfold destroyPersistentTundev
  dsimp only
  cases ho : a.openTun with
  | false => exact hopen
  | true =>
    rw [if_pos rfl]
    have hname := hopen.emit (hdiscreet (.tunsetiff n) rfl)
    have htun : ((w'.emit .openTun).emit (.tunsetiff n)).tun = w'.tun := rfl
    rw [htun]
    cases hacc : a.accepts w'.tun n with
    | false => exact hname.emit (hdiscreet _ rfl)
    | true =>
      rw [if_pos rfl]
      have hpersist := (hname.setTun (w'.tun.attach n)).emit (hdev ho hacc)
      cases a.clearPersist with
      | false => exact (hpersist.setTun _).emit (hdiscreet _ rfl)
      | true =>
        have hlog := (hpersist.setTun ((w'.tun.attach n).setPersist n false)).log hdiscreet logWarning
          (cstr "Destroyed  tundev " ++ n.bytes ++ cstr "\n")
        exact (hlog.setTun _).emit (hdiscreet _ rfl)

/-! ## Connect -/

theorem prepareGpclientLock_grows (a : LockAnswers) (h : w.Grows P w') :
    w.Grows P (prepareGpclientLock a w').2 := by
  have htest := h.emit (hdiscreet .testLock rfl)
  unfold prepareGpclientLock
  cases a.fileExists with
  | false => exact htest
  | true =>
    have hread := htest.emit (hdiscreet .readLock rfl)
    have hprobe : w.Grows P ((readGpclientLockPid a.contents).elim
        ((w'.emit .testLock).emit .readLock) fun pid =>
          ((w'.emit .testLock).emit .readLock).emit (.kill (.process pid) .null)) := by
      cases readGpclientLockPid a.contents with
      | none => exact hread
      | some pid => exact hread.emit (hdiscreet _ rfl)
    simp only [if_true]
    cases lockOwner a with
    | some pid =>
      dsimp only
      split <;> exact hprobe.emit (hdiscreet _ rfl)
    | none =>
      have hunlink := hprobe.emit (hdiscreet .unlinkLock rfl)
      cases a.unlink with
      | failed s => exact hunlink
      | removed | enoent => exact hunlink.log hdiscreet _ _

theorem gpclientEnv_grows (s_con : NMSettingConnection) (s_vpn : NMSettingVpn)
    (a : ConnectAnswers) (h : w.Grows P w') : w.Grows P (gpclientEnv s_con s_vpn a w').2 := by
  unfold gpclientEnv buildGpclientEnv
  by_cases heuid : a.euid ≠ 0
  · rw [if_pos heuid]
    exact h
  · rw [if_neg heuid]
    cases desktopPermission s_con with
    | none => exact h
    | some item =>
      have hitem := h.emit (hdiscreet (.getpwnam item) rfl)
      dsimp only
      cases a.getpwnam item with
      | none => exact hitem
      | some pw => exact hitem.log hdiscreet _ _

omit hdiscreet in
/-- What is written to a child is the cookie and a newline. -/
theorem feedCookie_grows (cookie : CStr) (a : ConnectAnswers) (h : w.Grows P w')
    (hcookie : P (.write cookie)) (hnewline : P (.write newline)) :
    w.Grows P (feedCookie cookie a w').2 := by
  unfold feedCookie
  dsimp only
  split
  · exact h.emit hcookie
  · exact (h.emit hcookie).emit hnewline

theorem launchGpclient_grows (argv : List CStr) (envp : StrMap) (cookie : CStr)
    (a : ConnectAnswers) (h : w.Grows P w')
    (hdev : ∀ n, w'.priv.tunName = some n → P (.tunsetpersist n false))
    (hcookie : P (.write cookie)) (hnewline : P (.write newline)) :
    w.Grows P (launchGpclient argv envp cookie a w').2 := by
  have hlock := prepareGpclientLock_grows hdiscreet a.lock h
  obtain ⟨-, honly⟩ := prepareGpclientLock_spec a.lock w'
  unfold launchGpclient
  generalize prepareGpclientLock a.lock w' = r at hlock honly ⊢
  obtain ⟨error, w₁⟩ := r
  cases error with
  | some e =>
    rw [← honly.priv_eq] at hdev
    dsimp only
    cases hname : w₁.priv.tunName with
    | none => exact hlock
    | some n =>
      exact (destroyPersistentTundev_grows hdiscreet n a.destroy hlock
        fun _ _ => hdev n hname).congr rfl
  | none =>
    have hspawn := hlock.emit (hdiscreet (.spawn argv envp) rfl)
    dsimp only
    cases a.spawn with
    | error e => exact hspawn.log hdiscreet _ _
    | ok pid =>
      have hfeed := feedCookie_grows cookie a (hspawn.log hdiscreet logNotice
        (cstr "gpclient started with pid " ++ decimal pid)) hcookie hnewline
      dsimp only
      generalize feedCookie cookie a _ = r at hfeed ⊢
      obtain ⟨⟨fed, stdin⟩, w₂⟩ := r
      cases fed with
      | false => exact (hfeed.addChild _).log hdiscreet _ _
      | true =>
        have hclosed := (hfeed.emit (hdiscreet .closeStdin rfl)).setPriv
          { w₂.priv with pid := pid, disconnectRequested := false }
        exact (hclosed.emit (hdiscreet (.addChildWatch pid) rfl)).addChild _

/-- What a Connect that gets as far as the TUN device does to it is for the name that it attached to;
and a refused lock takes back the name that was recorded. -/
theorem startOpenconnectBinary_grows (s_con : NMSettingConnection) (s_vpn : NMSettingVpn)
    (a : ConnectAnswers) (h : w.Grows P w')
    (hstart : ∀ cookie, startChecks s_vpn a.version = .ok cookie →
      (∀ n e, attachedName s_con.interfaceName a.tun w'.tun = some n → e.device = some n → P e) ∧
        P (.write cookie) ∧ P (.write newline)) :
    w.Grows P (startOpenconnectBinary s_con s_vpn a w').2 := by
  have hversion := h.emit (hdiscreet (.spawnSync [gpclientBinary, cstr "--version"]) rfl)
  unfold startOpenconnectBinary
  dsimp only
  generalize hw₁ : w'.emit (.spawnSync [gpclientBinary, cstr "--version"]) = w₁ at hversion ⊢
  cases hchecks : startChecks s_vpn a.version with
  | error e => exact hversion
  | ok cookie =>
    obtain ⟨hdev, hcookie, hnewline⟩ := hstart cookie hchecks
    have henv := gpclientEnv_grows hdiscreet s_con s_vpn a hversion
    have honly := gpclientEnv_spec s_con s_vpn a w₁
    dsimp only
    generalize gpclientEnv s_con s_vpn a w₁ = r at henv honly ⊢
    obtain ⟨envp, w₂⟩ := r
    have htun : w₂.tun = w'.tun := by rw [honly.tun_eq, ← hw₁]; rfl
    rw [← htun] at hdev
    have hcreate := createPersistentTundev_grows hdiscreet s_con.interfaceName a.tun henv hdev
    obtain ⟨t, hspec, -⟩ := createPersistentTundev_spec s_con.interfaceName a.tun w₂
    dsimp only
    generalize createPersistentTundev s_con.interfaceName a.tun w₂ = r at hcreate hspec ⊢
    obtain ⟨⟨tunName, error⟩, w₃⟩ := r
    have hlaunch : ∀ argv, (∀ n, tunName = some n → P (.tunsetpersist n false)) →
        w.Grows P (launchGpclient argv envp cookie a (w₃.setTunName tunName)).2 := fun argv hn =>
      launchGpclient_grows hdiscreet argv envp cookie a (hcreate.congr rfl) hn hcookie hnewline
    cases hspec with
    | noUser => exact hlaunch _ nofun
    | refused | leaked => exact hcreate.congr rfl
    | created hpw ho hn =>
      apply hlaunch
      rintro _ ⟨⟩
      exact hdev _ _ (attachedName_eq_some.2 ⟨by simp [hpw], ho, hn⟩) rfl

theorem logUnknown_grows (info : ValidateInfo) (h : w.Grows P w') :
    w.Grows P (logUnknown info w') := by
  unfold logUnknown
  generalize info.unknown = keys
  induction keys generalizing w' with
  | nil => exact h
  | cons key keys ih => exact ih (h.log hdiscreet _ _)

theorem validateConnection_grows (s_vpn : NMSettingVpn) (h : w.Grows P w') :
    w.Grows P (validateConnection s_vpn w').2 := by
  unfold validateConnection
  cases validateAuthSecretFlags s_vpn with
  | some e => exact h
  | none =>
    have hlogged := logUnknown_grows hdiscreet (nmOpenconnectPropertiesValidate s_vpn) h
    dsimp only
    cases (nmOpenconnectPropertiesValidate s_vpn).error with
    | some e => exact hlogged
    | none => exact logUnknown_grows hdiscreet _ hlogged

/-- A Connect with a request acts on the device it attaches to and writes the cookie of the request
and a newline; one without does neither. The connection is dumped at the log level for it only. -/
theorem realConnect_grows (connection : NMConnection) (a : ConnectAnswers) (h : w.Grows P w')
    (hreq : ∀ req, request connection a.version = some req →
      (∀ n e, attachedName req.interfaceName a.tun w'.tun = some n → e.device = some n → P e) ∧
        P (.write req.cookie) ∧ P (.write newline))
    (hdumped : logInfo ≤ w'.gl.logLevel → P .connectionDump) :
    w.Grows P (realConnect connection a w').2 := by
  unfold realConnect
  unfold request at hreq
  cases hcon : connection.settingConnection with
  | none => exact h
  | some s_con =>
    cases hvpn : connection.settingVpn with
    | none => exact h
    | some s_vpn =>
      have hvalidate := validateConnection_grows hdiscreet s_vpn h
      obtain ⟨hvalid, honly⟩ := validateConnection_spec s_vpn w'
      rw [hcon, hvpn] at hreq
      dsimp only at hreq ⊢
      generalize validateConnection s_vpn w' = r at hvalidate hvalid honly ⊢
      obtain ⟨error, w₁⟩ := r
      cases error with
      | some e => exact hvalidate
      | none =>
        rw [hvalid.1 rfl, if_pos rfl] at hreq
        dsimp only
        generalize hdump : (if logInfo ≤ w₁.gl.logLevel then w₁.emit .connectionDump else w₁) = w₂
        have hgrows : w.Grows P w₂ := by
          rw [← hdump]
          split
          next hinfo =>
            obtain ⟨_, _, _, _, rfl⟩ := honly
            exact hvalidate.emit (hdumped hinfo)
          next => exact hvalidate
        have htun : w₂.tun = w'.tun := by
          rw [← hdump, ← honly.tun_eq]
          split <;> rfl
        apply startOpenconnectBinary_grows hdiscreet s_con s_vpn a hgrows
        intro cookie hcookie
        rw [htun]
        exact hreq ⟨s_con.interfaceName, cookie⟩ (by rw [hcookie])

/-! ## The other callbacks -/

theorem realNeedSecrets_grows (connection : NMConnection) (bus : BusAnswers) (h : w.Grows P w')
    (hdeact : ∀ s_vpn, connection.settingVpn = some s_vpn → validateAuthSecretFlags s_vpn = none →
      w'.priv.pid = 0 → ∀ path, bus.Deactivates (cleanupName connection) path →
        P (.deactivateConnection path)) :
    w.Grows P (realNeedSecrets connection bus w').2 := by
  unfold realNeedSecrets
  cases hvpn : connection.settingVpn with
  | none => exact h
  | some s_vpn =>
    dsimp only
    cases hflags : validateAuthSecretFlags s_vpn with
    | some e => exact h
    | none =>
      dsimp only
      by_cases hpid : w'.priv.pid = 0
      · have hclean := deactivateAssumedTunConnection_grows hdiscreet (cleanupName connection) bus h
          (hdeact s_vpn hvpn hflags hpid)
        simp only [if_pos hpid]
        split <;> exact hclean
      · simp only [if_neg hpid]
        split <;> exact h

theorem realDisconnect_grows (groupKilled : Bool) (h : w.Grows P w') :
    w.Grows P (realDisconnect groupKilled w') := by
  unfold realDisconnect
  by_cases hpid : w'.priv.pid = 0
  · simp only [if_pos hpid]
    exact h
  · simp only [if_neg hpid]
    have hrequest := h.setPriv { w'.priv with disconnectRequested := true }
    have hgroup := hrequest.emit (hdiscreet (.kill (.group w'.priv.pid) .sigint) rfl)
    have hkill := hgroup.emit (hdiscreet (.kill (.process w'.priv.pid) .sigint) rfl)
    apply World.Grows.log hdiscreet
    cases groupKilled <;> simp only [Bool.false_eq_true, if_true, if_false] <;> split
    · exact World.Grows.emit (hkill.congr rfl) (hdiscreet _ rfl)
    · exact hkill
    · exact World.Grows.emit (hgroup.congr rfl) (hdiscreet _ rfl)
    · exact hgroup

theorem quitMainloop_grows (groupKilled : Bool) (h : w.Grows P w') :
    w.Grows P (quitMainloop groupKilled w') := by
  unfold quitMainloop
  dsimp only
  split
  · have hpending := h.setPriv { w'.priv with quitPending := true }
    split
    · exact hpending
    · exact realDisconnect_grows hdiscreet groupKilled hpending
  · exact h.emit (hdiscreet _ rfl)

theorem nested_grows (calls : List LibnmCall) (h : w.Grows P w') :
    w.Grows P (calls.foldl LibnmCall.run w') := by
  induction calls generalizing w' with
  | nil => exact h
  | cons call calls ih =>
    cases call with
    | disconnect groupKilled => exact ih ((realDisconnect_grows hdiscreet groupKilled h).congr rfl)
    | quit groupKilled => exact ih (quitMainloop_grows hdiscreet groupKilled h)

theorem ensureKilled_grows (a : ProbeAnswers) (h : w.Grows P w') :
    w.Grows P (ensureKilled a w') := by
  have hcleared := h.setPriv { w'.priv with killTimeout := 0 }
  unfold ensureKilled
  dsimp only
  split
  · exact hcleared
  · have hgroup := hcleared.emit (hdiscreet (.kill (.group w'.priv.pid) .null) rfl)
    split
    · exact hgroup.emit (hdiscreet _ rfl)
    · have hprocess := hgroup.emit (hdiscreet (.kill (.process w'.priv.pid) .null) rfl)
      split
      · exact hprocess.emit (hdiscreet _ rfl)
      · exact hprocess

theorem logExit_grows (status : Nat) (h : w.Grows P w') : w.Grows P (logExit status w') := by
  unfold logExit
  split_ifs <;> first | exact h.log hdiscreet _ _ | exact h

theorem clearKillTimeout_grows (h : w.Grows P w') : w.Grows P (clearKillTimeout w') := by
  unfold clearKillTimeout
  split
  · exact h
  · have hdropped : w.Grows P (w'.dropSource w'.priv.killTimeout) := h.congr rfl
    exact (hdropped.emit (hdiscreet _ rfl)).setPriv _

theorem releaseTun_grows (a : ExitAnswers) (h : w.Grows P w')
    (hdev : ∀ n, w'.priv.tunName = some n → P (.tunsetpersist n false) ∧
      ∀ path, a.bus.Deactivates n.bytes path → P (.deactivateConnection path)) :
    w.Grows P (releaseTun a w') := by
  unfold releaseTun
  cases hname : w'.priv.tunName with
  | none => exact h
  | some n =>
    have hdeact := deactivateAssumedTunConnection_grows hdiscreet n.bytes a.bus h (hdev n hname).2
    exact (destroyPersistentTundev_grows hdiscreet n a.destroy hdeact
      fun _ _ => (hdev n hname).1).congr rfl

/-- The exit of a child acts on the recorded device. -/
theorem openconnectWatchCb_grows (status : Nat) (a : ExitAnswers) (h : w.Grows P w')
    (hdev : ∀ n, w'.priv.tunName = some n → P (.tunsetpersist n false) ∧
      ∀ path, a.bus.Deactivates n.bytes path → P (.deactivateConnection path)) :
    w.Grows P (openconnectWatchCb status a w') := by
  have hcleared : w.Grows P (clearKillTimeout (logExit status w')) :=
    clearKillTimeout_grows hdiscreet (logExit_grows hdiscreet status h)
  have hname : (clearKillTimeout (logExit status w')).priv.tunName = w'.priv.tunName := by
    have hpriv := congrArg Core.priv (clearKillTimeout_core (logExit status w'))
    have hlog := congrArg Core.priv (logExit_core status w')
    simp only [World.core_priv] at hpriv hlog
    rw [hpriv, hlog]
  unfold openconnectWatchCb
  dsimp only
  generalize clearKillTimeout (logExit status w') = w₁ at hcleared hname ⊢
  have hreleased : w.Grows P (releaseTun a
      (w₁.setPriv { w₁.priv with pid := 0, disconnectRequested := false })) := by
    apply releaseTun_grows hdiscreet a (hcleared.setPriv _)
    intro n hn
    exact hdev n (hname.symm.trans hn)
  generalize releaseTun a _ = w₂ at hreleased ⊢
  split
  · split
    · exact hreleased.emit (hdiscreet _ rfl)
    · exact hreleased
  · have hreport : (exitReport status).discreet = true := by
      unfold exitReport
      split <;> rfl
    exact nested_grows hdiscreet a.nested (hreleased.emit (hdiscreet _ hreport))

end

/-! ## One event -/

/-- What an event may do that is not plain. -/
def Event.Does (w : World) : Event → Effect → Prop
  | .connect connection a, x => ∃ req, request connection a.version = some req ∧
      (x = .write req.cookie ∨ x = .write newline ∨
        ∃ n, acceptedName req.interfaceName a.tun w.tun = some n ∧ x.device = some n)
  | .needSecrets connection bus, x => w.priv.pid = 0 ∧
      (∃ s_vpn, connection.settingVpn = some s_vpn ∧ validateAuthSecretFlags s_vpn = none) ∧
      ∃ path, x = .deactivateConnection path ∧ bus.Deactivates (cleanupName connection) path
  | .childExit _ _ a, x => ∃ n, w.priv.tunName = some n ∧
      (x = .tunsetpersist n false ∨
        ∃ path, x = .deactivateConnection path ∧ a.bus.Deactivates n.bytes path)
  | _, _ => False

theorem Event.step_grows (w : World) (e : Event) :
    w.Grows (fun x => x.plain = true ∨ e.Does w x) (e.step w) := by
  have hdiscreet : ∀ x : Effect, x.discreet = true → x.plain = true ∨ e.Does w x :=
    fun x hx => .inl (Effect.plain_of_discreet hx)
  have hrefl : w.Grows (fun x => x.plain = true ∨ e.Does w x) w := .refl
  cases e with
  | connect connection a =>
    have hstarting : w.Grows (fun x => x.plain = true ∨ Event.Does w (.connect connection a) x)
        (w.setLibnm .starting) := hrefl.congr rfl
    refine realConnect_grows hdiscreet connection a hstarting (fun req hreq => ?_)
      fun _ => .inl rfl
    exact ⟨fun n x hn hx =>
        .inr ⟨req, hreq, .inr (.inr ⟨n, (attachedName_eq_some.1 hn).2.2, hx⟩)⟩,
      .inr ⟨req, hreq, .inl rfl⟩, .inr ⟨req, hreq, .inr (.inl rfl)⟩⟩
  | needSecrets connection bus =>
    apply realNeedSecrets_grows hdiscreet connection bus hrefl
    intro s_vpn hvpn hflags hpid path hpath
    exact .inr ⟨hpid, ⟨s_vpn, hvpn, hflags⟩, path, rfl, hpath⟩
  | disconnect groupKilled => exact (realDisconnect_grows hdiscreet groupKilled hrefl).congr rfl
  | quit groupKilled => exact quitMainloop_grows hdiscreet groupKilled hrefl
  | killTimeout id a => exact ensureKilled_grows hdiscreet a (hrefl.congr rfl)
  | childExit pid status a =>
    have hreaped : w.Grows (fun x => x.plain = true ∨ Event.Does w (.childExit pid status a) x)
        (w.reap pid) := hrefl.congr rfl
    apply openconnectWatchCb_grows hdiscreet status a hreaped
    intro n hn
    exact ⟨.inr ⟨n, hn, .inl rfl⟩, fun path hpath => .inr ⟨n, hn, .inr ⟨path, rfl, hpath⟩⟩⟩
  | libnmState s => exact hrefl.congr rfl
  | unixSignal => exact hrefl.emit (hdiscreet _ rfl)

end NmGpclient
