import NmGpclient.Lib.Instances
import NmGpclient.Service.ConnectResult
import NmGpclient.Service.Effects

/-!
# Concurrent sessions

The service supports multiple connections: NetworkManager runs an instance of it for each. The
instances share the TUN devices of the host, so here `held` counts the descriptors of all of them;
the lock file, the connections NetworkManager shows and the attachments of the gpclients are the
environment's, as they are for one instance.

The device that an instance has recorded is its own as long as every other instance, at every step,
attaches to another device and cleans up after another one. Nothing in the service sees to that:
the search for a name takes a persistent device that its gpclient has not attached to yet, and
`real_need_secrets` cleans up after `vpn0` when the profile names no interface.
-/

namespace NmGpclient

/-- What the instances share: the devices of the host. -/
def tunPart : StatePart World (TunTable IfName) where
  get := World.tun
  set t w := w.setTun t
  get_set _ _ := rfl

/-- The instances of the service on one host. -/
def services (κ : Type*) [DecidableEq κ] : Machine (Instances tunPart κ) (κ × Event) :=
  service.instances tunPart κ

/-! ## Leaving a device alone -/

/-- What NetworkManager answers to the cleanup of a callback. -/
def Event.bus : Event → Option BusAnswers
  | .needSecrets _ bus => some bus
  | .childExit _ _ a => some a.bus
  | _ => none

/-- The effect attaches to the device, changes its owner or its persistence, or deactivates a
connection that NetworkManager shows with it. -/
def Effect.Disturbs (bus : Option BusAnswers) (n : IfName) (x : Effect) : Prop :=
  x.device = some n ∨
    ∃ path, x = .deactivateConnection path ∧ ∃ b, bus = some b ∧ b.Deactivates n.bytes path

/-- The callback leaves the device as it is and does nothing to it. -/
structure Event.LeavesAlone (w : World) (n : IfName) (e : Event) : Prop where
  tun : (e.step w).tun n = w.tun n
  effects : w.Grows (fun x => ¬x.Disturbs e.bus n) (e.step w)

/-- No connection that a cleanup after `target` deactivates is one that NetworkManager shows with
the device `n`. -/
def BusAnswers.Spares (b : BusAnswers) (target n : CStr) : Prop :=
  ∀ path, b.Deactivates target path → ¬b.Deactivates n path

/-- The callback attaches to another device than `n`, and no connection that it deactivates is shown
with `n`. -/
def Event.Spares (w : World) (n : IfName) : Event → Prop
  | .connect connection a => ∀ req, request connection a.version = some req →
      attachedName req.interfaceName a.tun w.tun ≠ some n
  | .needSecrets connection bus => w.priv.pid = 0 →
      (∃ s_vpn, connection.settingVpn = some s_vpn ∧ validateAuthSecretFlags s_vpn = none) →
        bus.Spares (cleanupName connection) n.bytes
  | .childExit _ _ a => ∀ own, w.priv.tunName = some own → a.bus.Spares own.bytes n.bytes
  | _ => True

section
variable {w : World} {n : IfName}

theorem Effect.not_disturbs_of_plain {bus : Option BusAnswers} {x : Effect}
    (h : x.plain = true) : ¬x.Disturbs bus n := by
  rintro (hdevice | ⟨path, rfl, -⟩)
  · cases x <;> simp_all [Effect.plain, Effect.device]
  · cases h

theorem Effect.not_disturbs_of_device {bus : Option BusAnswers} {x : Effect} {m : IfName}
    (h : x.device = some m) (hne : m ≠ n) : ¬x.Disturbs bus n := by
  rintro (hdevice | ⟨path, rfl, -⟩)
  · exact hne (Option.some.inj (h.symm.trans hdevice))
  · cases h

theorem BusAnswers.Spares.not_disturbs {b : BusAnswers} {target path : CStr}
    (h : b.Spares target n.bytes) (hpath : b.Deactivates target path) :
    ¬(Effect.deactivateConnection path).Disturbs (some b) n := by
  rintro (hdevice | ⟨_, ⟨⟩, _, ⟨⟩, hshown⟩)
  · cases hdevice
  · exact h path hpath hshown

/-! ## A step that spares a device -/

/-- A Connect that attaches to another device neither changes nor records this one. -/
theorem connect_spares {connection : NMConnection} {a : ConnectAnswers}
    (hown : w.priv.tunName ≠ some n) (h : Event.Spares w n (.connect connection a)) :
    (Event.step w (.connect connection a)).tun n = w.tun n ∧
      (Event.step w (.connect connection a)).priv.tunName ≠ some n := by
  have hexit := realConnect_exit connection a (w.setLibnm .starting)
  simp only [Event.Spares] at h
  simp only [Event.step]
  generalize request connection a.version = req at hexit h
  generalize realConnect connection a (w.setLibnm .starting) = r at hexit ⊢
  obtain ⟨r, w'⟩ := r
  cases hexit with
  | aborted => exact ⟨rfl, hown⟩
  | rejected e hleft =>
    obtain ⟨es, owner, group, rfl⟩ := hleft
    exact ⟨rfl, hown⟩
  | noTun hcreate hleft =>
    obtain ⟨es, owner, group, rfl⟩ := hleft
    exact ⟨(hcreate.of_attachedName_ne (h _ rfl)).1, by simp⟩
  | launched hcreate hlaunch =>
    rename_i tunName t _ _
    obtain ⟨htun, hname⟩ := hcreate.of_attachedName_ne (h _ rfl)
    cases hlaunch with
    | locked _ _ hleft =>
      obtain ⟨es, owner, group, rfl⟩ := hleft
      refine ⟨?_, by simp⟩
      cases tunName with
      | none => exact htun
      | some m =>
        have hne : n ≠ m := fun heq => hname (congrArg some heq.symm)
        exact (destroyed_ne _ hne).trans htun
    | notSpawned _ _ hleft | unfed _ _ _ _ hleft | started _ _ _ hleft =>
      obtain ⟨es, owner, group, rfl⟩ := hleft
      exact ⟨htun, hname⟩

/-- The exit of a child changes the recorded device only. -/
theorem childExit_spares {pid : GPid} {status : Nat} {a : ExitAnswers}
    (hown : w.priv.tunName ≠ some n) :
    (Event.step w (.childExit pid status a)).tun n = w.tun n ∧
      (Event.step w (.childExit pid status a)).priv.tunName ≠ some n := by
  have hcore := openconnectWatchCb_core status a (w.reap pid)
  have hname : (Event.step w (.childExit pid status a)).priv.tunName = none :=
    congrArg (·.priv.tunName) hcore
  have htun : (Event.step w (.childExit pid status a)).tun =
      w.priv.tunName.elim w.tun fun n => destroyed w.tun n a.destroy := congrArg Core.tun hcore
  refine ⟨?_, by rw [hname]; nofun⟩
  rw [htun]
  cases hrecorded : w.priv.tunName with
  | none => rfl
  | some m =>
    have hne : n ≠ m := fun heq => hown (hrecorded.trans (congrArg some heq.symm))
    exact destroyed_ne _ hne

/-- A step that spares a device neither changes nor records it. -/
theorem Event.tun_of_spares {e : Event} (hown : w.priv.tunName ≠ some n) (h : e.Spares w n) :
    (e.step w).tun n = w.tun n ∧ (e.step w).priv.tunName ≠ some n := by
  cases hquiet : e.quiet with
  | true =>
    obtain ⟨-, hname, -, htun⟩ := Event.step_same (w := w) hquiet
    rw [hname, htun]
    exact ⟨rfl, hown⟩
  | false =>
    cases e with
    | connect connection a => exact connect_spares hown h
    | childExit pid status a => exact childExit_spares hown
    | _ => cases hquiet

/-- What a step does to a device that it spares is nothing. -/
theorem Event.grows_of_spares {e : Event} (hown : w.priv.tunName ≠ some n) (h : e.Spares w n) :
    w.Grows (fun x => ¬x.Disturbs e.bus n) (e.step w) := by
  have hdiscreet : ∀ x : Effect, x.discreet = true → ¬x.Disturbs e.bus n :=
    fun x hx => Effect.not_disturbs_of_plain (Effect.plain_of_discreet hx)
  have hrefl : w.Grows (fun x => ¬x.Disturbs e.bus n) w := .refl
  cases e with
  | connect connection a =>
    have hstarting : w.Grows (fun x => ¬x.Disturbs (Event.connect connection a).bus n)
        (w.setLibnm .starting) := hrefl.congr rfl
    have hwrite : ∀ bytes, ¬(Effect.write bytes).Disturbs (Event.connect connection a).bus n := by
      rintro bytes (hdevice | ⟨path, hpath, -⟩)
      · cases hdevice
      · cases hpath
    refine realConnect_grows hdiscreet connection a hstarting (fun req hreq => ?_)
      fun _ => Effect.not_disturbs_of_plain rfl
    refine ⟨fun m x hm hx => ?_, hwrite _, hwrite _⟩
    have hne : m ≠ n := fun heq => h req hreq (hm.trans (congrArg some heq))
    exact Effect.not_disturbs_of_device hx hne
  | needSecrets connection bus =>
    apply realNeedSecrets_grows hdiscreet connection bus hrefl
    intro s_vpn hvpn hflags hpid path hpath
    exact (h hpid ⟨s_vpn, hvpn, hflags⟩).not_disturbs hpath
  | childExit pid status a =>
    have hreaped : w.Grows (fun x => ¬x.Disturbs (Event.childExit pid status a).bus n)
        (w.reap pid) := hrefl.congr rfl
    apply openconnectWatchCb_grows hdiscreet status a hreaped
    intro own hrecorded
    have hne : own ≠ n := fun heq => hown (hrecorded.trans (congrArg some heq))
    exact ⟨Effect.not_disturbs_of_device rfl hne, fun path hpath =>
      (h own hrecorded).not_disturbs hpath⟩
  | disconnect groupKilled => exact (realDisconnect_grows hdiscreet groupKilled hrefl).congr rfl
  | quit groupKilled => exact quitMainloop_grows hdiscreet groupKilled hrefl
  | killTimeout id a => exact ensureKilled_grows hdiscreet a (hrefl.congr rfl)
  | libnmState s => exact hrefl.congr rfl
  | unixSignal => exact hrefl.emit (hdiscreet _ rfl)

end

/-! ## What a step adds to the log

The converse: a step that does not spare a device logs an effect that disturbs it. -/

/-- From `w` to `w'` the log grew, and the effect is one of those that were added. -/
def World.Adds (x : Effect) (w w' : World) : Prop := ∃ es, w'.trace = w.trace ++ es ∧ x ∈ es

section
variable {x : Effect} {P : Effect → Prop} {w w' w'' : World}

theorem World.adds_emit (w : World) (x : Effect) : w.Adds x (w.emit x) :=
  ⟨[x], rfl, List.mem_singleton_self x⟩

theorem World.Grows.adds (h : w.Grows (fun _ => True) w') (h' : w'.Adds x w'') : w.Adds x w'' := by
  obtain ⟨es, htrace, -⟩ := h
  obtain ⟨es', htrace', hx⟩ := h'
  exact ⟨es ++ es', by rw [htrace', htrace, List.append_assoc], List.mem_append_right es hx⟩

theorem World.Adds.grows (h : w.Adds x w') (h' : w'.Grows (fun _ => True) w'') : w.Adds x w'' := by
  obtain ⟨es, htrace, hx⟩ := h
  obtain ⟨es', htrace', -⟩ := h'
  exact ⟨es ++ es', by rw [htrace', htrace, List.append_assoc], List.mem_append_left es' hx⟩

theorem World.Grows.of_adds (h : w.Grows P w') (h' : w.Adds x w') : P x := by
  obtain ⟨es, htrace, hes⟩ := h
  obtain ⟨es', htrace', hx⟩ := h'
  exact hes x (List.append_cancel_left (htrace'.symm.trans htrace) ▸ hx)

/-- Every log grows by effects of some kind. -/
theorem anyEffect : ∀ x : Effect, x.discreet = true → True := fun _ _ => trivial

/-- Every connection that uses the device is deactivated. -/
theorem deactivateConnections_adds (b : BusAnswers) (tunName : CStr) (tunOwner : Nat)
    {path : CStr} (hshows : b.ShowsTun path tunName tunOwner) :
    ∀ (paths : List CStr) (w : World), path ∈ paths →
      w.Adds (.deactivateConnection path) (deactivateConnections b tunName tunOwner paths w)
  | [], _, hpath => nomatch hpath
  | p :: rest, w, hpath => by
      have hrefl : w.Grows (fun _ => True) w := .refl
      have hu := activeConnectionUsesTun_grows anyEffect b hrefl p tunName tunOwner
      have huses := activeConnectionUsesTun_iff b p tunName tunOwner w
      unfold deactivateConnections
      split
      next heq =>
        rw [heq] at hu huses
        have hne : path ≠ p := fun h => Bool.false_ne_true (huses.2 (h ▸ hshows))
        exact hu.adds (deactivateConnections_adds b tunName tunOwner hshows rest _
          ((List.mem_cons.1 hpath).resolve_left hne))
      next w₁ heq =>
        rw [heq] at hu
        rcases List.mem_cons.1 hpath with rfl | hrest
        · have hemit := hu.adds (w₁.adds_emit (.deactivateConnection path))
          refine (hemit.grows ?_).grows
            (deactivateConnections_grows anyEffect b tunName tunOwner rest .refl
              fun _ _ _ => trivial)
          cases b.deactivate path <;> exact World.Grows.refl.log anyEffect _ _
        · refine World.Grows.adds ?_
            (deactivateConnections_adds b tunName tunOwner hshows rest _ hrest)
          have hemit := hu.emit (e := .deactivateConnection p) trivial
          cases b.deactivate p <;> exact hemit.log anyEffect _ _

theorem deactivateAssumedTunConnection_adds {b : BusAnswers} {tunName path : CStr}
    (hname : tunName ≠ []) (h : b.Deactivates tunName path) (w : World) :
    w.Adds (.deactivateConnection path) (deactivateAssumedTunConnection tunName b w) := by
  obtain ⟨pw, paths, hpasswd, hconnected, hactive, hpath, hshows⟩ := h
  have hpw : w.Grows (fun _ => True) (w.emit (.getpwnam nmOpenconnectUser)) :=
    World.Grows.refl.emit trivial
  have ha := nmGetProperty_grows anyEffect b hpw nmPath nmInterface (cstr "ActiveConnections")
    b.activeConnections
  have hanswer := nmGetProperty_answer b nmPath nmInterface (cstr "ActiveConnections")
    b.activeConnections (w.emit (.getpwnam nmOpenconnectUser))
  unfold deactivateAssumedTunConnection
  rw [if_neg hname, hpasswd]
  dsimp only
  rw [if_pos hconnected]
  split
  next heq =>
    rw [heq, hactive] at hanswer
    cases hanswer
  next answered _ heq =>
    rw [heq] at ha hanswer
    obtain rfl : answered = paths := Option.some.inj (hanswer.trans hactive)
    exact ha.adds (deactivateConnections_adds b tunName pw.uid hshows _ _ hpath)

theorem cleanupName_ne_nil (connection : NMConnection) : cleanupName connection ≠ [] := by
  unfold cleanupName
  cases connection.settingConnection.bind NMSettingConnection.interfaceName with
  | none => decide
  | some name => exact name.ne_nil

/-- NeedSecrets deactivates every connection of the device that it cleans up after. -/
theorem realNeedSecrets_adds {connection : NMConnection} {bus : BusAnswers} {s_vpn : NMSettingVpn}
    {path : CStr} (hpid : w.priv.pid = 0) (hvpn : connection.settingVpn = some s_vpn)
    (hflags : validateAuthSecretFlags s_vpn = none)
    (h : bus.Deactivates (cleanupName connection) path) :
    w.Adds (.deactivateConnection path) (realNeedSecrets connection bus w).2 := by
  have hclean := deactivateAssumedTunConnection_adds (cleanupName_ne_nil connection) h w
  unfold realNeedSecrets
  rw [hvpn]
  dsimp only
  rw [hflags]
  dsimp only
  rw [if_pos hpid]
  split <;> exact hclean

/-- The exit of a child deactivates every connection of the recorded device. -/
theorem openconnectWatchCb_adds {own : IfName} {path : CStr} {a : ExitAnswers} (status : Nat)
    (hname : w.priv.tunName = some own) (h : a.bus.Deactivates own.bytes path) :
    w.Adds (.deactivateConnection path) (openconnectWatchCb status a w) := by
  have hcleared : w.Grows (fun _ => True) (clearKillTimeout (logExit status w)) :=
    clearKillTimeout_grows anyEffect (logExit_grows anyEffect status .refl)
  have hpriv := congrArg Core.priv (clearKillTimeout_core (logExit status w))
  have hlog := congrArg Core.priv (logExit_core status w)
  simp only [World.core_priv] at hpriv hlog
  have hrecorded : (clearKillTimeout (logExit status w)).priv.tunName = some own := by
    rw [hpriv, hlog, hname]
  unfold openconnectWatchCb
  dsimp only
  generalize clearKillTimeout (logExit status w) = w₁ at hcleared hrecorded ⊢
  have hreleased : w.Adds (.deactivateConnection path) (releaseTun a
      (w₁.setPriv { w₁.priv with pid := 0, disconnectRequested := false })) := by
    have hpriv := hcleared.setPriv { w₁.priv with pid := 0, disconnectRequested := false }
    generalize hw₂ : w₁.setPriv { w₁.priv with pid := 0, disconnectRequested := false } = w₂
      at hpriv ⊢
    have hown : w₂.priv.tunName = some own := hw₂ ▸ hrecorded
    have hadds := hpriv.adds (deactivateAssumedTunConnection_adds own.ne_nil h w₂)
    unfold releaseTun
    rw [hown]
    exact hadds.grows ((destroyPersistentTundev_grows anyEffect own a.destroy .refl
      fun _ _ => trivial).congr rfl)
  generalize releaseTun a _ = w₂ at hreleased ⊢
  split
  · split
    · exact hreleased.grows (World.Grows.refl.emit trivial)
    · exact hreleased
  · exact hreleased.grows (nested_grows anyEffect a.nested (World.Grows.refl.emit trivial))

/-- A TUN device that is attached to becomes the service's. -/
theorem createPersistentTundev_adds {suggested : Option IfName} {a : TunAnswers} {n : IfName}
    (h : attachedName suggested a w.tun = some n) :
    ∃ uid, w.Adds (.tunsetowner n uid) (createPersistentTundev suggested a w).2 := by
  obtain ⟨hpasswd, hopen, hname⟩ := attachedName_eq_some.1 h
  obtain ⟨pw, hpasswd⟩ := Option.isSome_iff_exists.1 hpasswd
  refine ⟨pw.uid, ?_⟩
  unfold createPersistentTundev
  rw [hpasswd]
  dsimp only
  generalize hw₁ : ((w.emit (.getpwnam nmOpenconnectUser)).setTunOwner pw).emit .openTun = w₁
  have hgrows : w.Grows (fun _ => True) w₁ := by
    rw [← hw₁]
    exact World.Grows.emit ((World.Grows.refl.emit trivial).congr rfl) trivial
  have htun : w₁.tun = w.tun := by rw [← hw₁]; rfl
  rw [if_pos hopen]
  have htry := tryNames_grows anyEffect a (candidateNames suggested) hgrows
  obtain ⟨w₂, he, -⟩ := tryNames_spec a (candidateNames suggested) w₁
  have hfound : (candidateNames suggested).find? (a.accepts w₁.tun) = some n := by
    rw [htun]
    exact hname
  rw [he, hfound] at htry ⊢
  have howner := htry.adds (w₂.adds_emit (.tunsetowner n pw.uid))
  dsimp only
  cases a.setOwner with
  | false => exact howner
  | true =>
    rw [if_pos rfl]
    have hpersist := howner.grows (World.Grows.emit (World.Grows.refl.setTun
      (w₂.tun.setOwner n pw.uid)) (e := .tunsetpersist n true) trivial)
    cases a.setPersist with
    | false => exact hpersist
    | true =>
      exact hpersist.grows (((World.Grows.refl.setTun _).emit trivial).log anyEffect _ _)

theorem startOpenconnectBinary_adds {s_con : NMSettingConnection} {s_vpn : NMSettingVpn}
    {a : ConnectAnswers} {cookie : CStr} {n : IfName}
    (hchecks : startChecks s_vpn a.version = .ok cookie)
    (h : attachedName s_con.interfaceName a.tun w.tun = some n) :
    ∃ uid, w.Adds (.tunsetowner n uid) (startOpenconnectBinary s_con s_vpn a w).2 := by
  unfold startOpenconnectBinary
  dsimp only
  rw [hchecks]
  generalize hw₁ : w.emit (.spawnSync [gpclientBinary, cstr "--version"]) = w₁
  have hgrows : w.Grows (fun _ => True) w₁ := hw₁ ▸ World.Grows.refl.emit trivial
  have henv := gpclientEnv_grows anyEffect s_con s_vpn a hgrows
  have honly := gpclientEnv_spec s_con s_vpn a w₁
  dsimp only
  generalize gpclientEnv s_con s_vpn a w₁ = r at henv honly ⊢
  obtain ⟨envp, w₂⟩ := r
  have htun : w₂.tun = w.tun := by rw [honly.tun_eq, ← hw₁]; rfl
  obtain ⟨uid, hcreate⟩ := createPersistentTundev_adds (w := w₂) (htun ▸ h)
  refine ⟨uid, ?_⟩
  have hadds := henv.adds hcreate
  dsimp only
  generalize createPersistentTundev s_con.interfaceName a.tun w₂ = r at hadds ⊢
  obtain ⟨⟨tunName, error⟩, w₃⟩ := r
  have hrecorded : w₃.Grows (fun _ => True) (w₃.setTunName tunName) := World.Grows.refl.congr rfl
  have hlaunch : ∀ argv, w.Adds (.tunsetowner n uid)
      (launchGpclient argv envp cookie a (w₃.setTunName tunName)).2 := fun argv =>
    hadds.grows (launchGpclient_grows anyEffect argv envp cookie a hrecorded
      (fun _ _ => trivial) trivial trivial)
  split
  next heq =>
    cases heq
    exact hadds.grows hrecorded
  next heq =>
    cases heq
    exact hlaunch _

/-- A Connect becomes the owner of the device that it attaches to. -/
theorem realConnect_adds {connection : NMConnection} {a : ConnectAnswers} {req : Request}
    {n : IfName} (hreq : request connection a.version = some req)
    (h : attachedName req.interfaceName a.tun w.tun = some n) :
    ∃ uid, w.Adds (.tunsetowner n uid) (realConnect connection a w).2 := by
  obtain ⟨s_con, s_vpn, hcon, hvpn, hvalid, hchecks, hname⟩ := request_eq_some.1 hreq
  obtain ⟨hpasses, honly⟩ := validateConnection_spec s_vpn w
  have hvalidate := validateConnection_grows anyEffect s_vpn (.refl (w := w))
  unfold realConnect
  rw [hcon, hvpn]
  dsimp only
  generalize validateConnection s_vpn w = r at hpasses honly hvalidate ⊢
  obtain ⟨error, w₁⟩ := r
  obtain rfl : error = none := hpasses.2 hvalid
  dsimp only
  generalize hdump : (if logInfo ≤ w₁.gl.logLevel then w₁.emit .connectionDump else w₁) = w₂
  have hgrows : w.Grows (fun _ => True) w₂ := by
    rw [← hdump]
    split
    · exact hvalidate.emit trivial
    · exact hvalidate
  have htun : w₂.tun = w.tun := by
    rw [← hdump, ← honly.tun_eq]
    split <;> rfl
  rw [← hname, ← htun] at h
  obtain ⟨uid, hadds⟩ := startOpenconnectBinary_adds hchecks h
  exact ⟨uid, hgrows.adds hadds⟩

end

/-- A step leaves a device that its instance has not recorded alone exactly when it spares it. -/
theorem Event.leavesAlone_iff {w : World} {n : IfName} {e : Event}
    (hown : w.priv.tunName ≠ some n) : e.LeavesAlone w n ↔ e.Spares w n := by
  refine ⟨fun h => ?_, fun h => ⟨(tun_of_spares hown h).1, grows_of_spares hown h⟩⟩
  obtain ⟨-, heffects⟩ := h
  cases e with
  | connect connection a =>
    intro req hreq hattached
    have hstarting : w.Grows (fun _ => True) (w.setLibnm .starting) := World.Grows.refl.congr rfl
    obtain ⟨uid, hadds⟩ := realConnect_adds (w := w.setLibnm .starting) hreq hattached
    exact heffects.of_adds (hstarting.adds hadds) (.inl rfl)
  | needSecrets connection bus =>
    rintro hpid ⟨s_vpn, hvpn, hflags⟩ path hpath hshown
    have hadds := realNeedSecrets_adds hpid hvpn hflags hpath
    exact heffects.of_adds hadds (.inr ⟨path, rfl, bus, rfl, hshown⟩)
  | childExit pid status a =>
    intro own hrecorded path hpath hshown
    have hreaped : w.Grows (fun _ => True) (w.reap pid) := World.Grows.refl.congr rfl
    have hadds := openconnectWatchCb_adds (w := w.reap pid) status hrecorded hpath
    exact heffects.of_adds (hreaped.adds hadds) (.inr ⟨path, rfl, a.bus, rfl, hshown⟩)
  | disconnect | quit | killTimeout | libnmState | unixSignal => trivial

/-! ## Runs -/

/-- The two have not recorded the same device. -/
def World.RecordsApart (w w' : World) : Prop :=
  ∀ n, w.priv.tunName = some n → w'.priv.tunName ≠ some n

section
variable {κ : Type*}

/-- The step leaves the devices that the other instances have recorded alone. -/
def LeavesOthersAlone (S : Instances tunPart κ) (e : κ × Event) : Prop :=
  ∀ j, j ≠ e.1 → ∀ n, (S.state j).priv.tunName = some n → e.2.LeavesAlone (S.state e.1) n

/-- The step spares the devices that the other instances have recorded. -/
def SparesOthers (S : Instances tunPart κ) (e : κ × Event) : Prop :=
  ∀ j, j ≠ e.1 → ∀ n, (S.state j).priv.tunName = some n → e.2.Spares (S.state e.1) n

variable [DecidableEq κ]

/-- A step that spares the devices of the others records none of them. -/
theorem recordsApart_step {S : Instances tunPart κ} {e : κ × Event}
    (h : S.Pairwise World.RecordsApart) (hspares : SparesOthers S e) :
    ((services κ).step S e).Pairwise World.RecordsApart := by
  have hsymm : ∀ w w' : World, w.RecordsApart w' → w'.RecordsApart w :=
    fun w w' hapart n hn hn' => hapart n hn' hn
  apply h.replace hsymm fun t w w' hapart => hapart
  intro j hj n hn hn'
  have hown : (S.state e.1).priv.tunName ≠ some n := h j e.1 hj n hn'
  exact (Event.tun_of_spares hown (hspares j hj n hn')).2 hn

/-- Concurrent sessions do not disturb each other exactly in the runs whose steps spare the devices
of the others.

In such a run no two instances ever have the same device recorded, and no step of one changes,
attaches to or takes down the device of another or deactivates a connection that NetworkManager
shows with it. A step that does not spare a device does one of these. -/
theorem services_undisturbed_iff (tun : TunTable IfName) (es : List (κ × Event)) :
    (services κ).AllSteps SparesOthers (.const (.start tun)) es ↔
      (services κ).Always (Instances.Pairwise World.RecordsApart) (.const (.start tun)) es ∧
        (services κ).AllSteps LeavesOthersAlone (.const (.start tun)) es := by
  apply Machine.AllSteps.iff_always fun S e => recordsApart_step
  · intro S e h
    refine forall₂_congr fun j hj => forall₂_congr fun n hn => ?_
    exact (Event.leavesAlone_iff (h j e.1 hj n hn)).symm
  · intro i j _ n hn
    cases hn

end

/-! ## A run that is disturbed -/

/-- NetworkManager shows `vpn0` as a connection of the account's. -/
def vpn0Bus : BusAnswers where
  passwd := some ⟨nmOpenconnectUser, 990, 990, cstr "/"⟩
  connected := true
  activeConnections := some [cstr "/org/freedesktop/NetworkManager/ActiveConnection/2"]
  type _ := some (cstr "tun")
  vpn _ := some false
  devices _ := some [cstr "/org/freedesktop/NetworkManager/Devices/4"]
  interface _ := some (cstr "vpn0")
  owner _ := some 990
  deactivate _ := none
  readError := []

instance (S : Instances tunPart Bool) (e : Bool × Event) :
    Decidable ((services Bool).enabled S e) :=
  inferInstanceAs (Decidable (service.enabled (S.state e.1) e.2))

/-- A second instance connects before the gpclient of the first has attached to its device, and
records the same one; it asks for secrets, and has the connection of the first deactivated. -/
theorem services_disturbed :
    (¬∀ (tun : TunTable IfName) (es : List (Bool × Event)),
      (services Bool).Valid (.const (.start tun)) es →
        (services Bool).Always (Instances.Pairwise World.RecordsApart) (.const (.start tun)) es) ∧
    ¬∀ (tun : TunTable IfName) (es : List (Bool × Event)),
      (services Bool).Valid (.const (.start tun)) es →
        (services Bool).AllSteps LeavesOthersAlone (.const (.start tun)) es := by
  constructor
  · intro h
    have hvalid : (services Bool).Valid (.const (.start noDevices))
        [(false, .connect directProfile startAnswers),
          (true, .connect directProfile { startAnswers with spawn := .ok 101 })] := by
      decide +kernel
    obtain ⟨-, -, hapart, -⟩ := h noDevices _ hvalid
    exact hapart false true (by decide) vpn0 (by decide +kernel) (by decide +kernel)
  · intro h
    have hvalid : (services Bool).Valid (.const (.start noDevices))
        [(false, .connect directProfile startAnswers),
          (true, .needSecrets directProfile vpn0Bus)] := by
      decide +kernel
    obtain ⟨-, hleaves, -⟩ := h noDevices _ hvalid
    have halone := hleaves false (by decide) vpn0 (by decide +kernel)
    have hshown : vpn0Bus.Deactivates vpn0.bytes
        (cstr "/org/freedesktop/NetworkManager/ActiveConnection/2") := by
      refine ⟨_, _, rfl, rfl, rfl, List.mem_singleton_self _, rfl, by decide, _, rfl, _,
        List.mem_singleton_self _, rfl, .inr rfl⟩
    have hspares := (Event.leavesAlone_iff (by decide +kernel)).1 halone
    have hname : cleanupName directProfile = vpn0.bytes := by decide
    have hflags : ∃ s_vpn, directProfile.settingVpn = some s_vpn ∧
        validateAuthSecretFlags s_vpn = none := ⟨_, rfl, by decide +kernel⟩
    exact hspares (by decide +kernel) hflags _ (hname ▸ hshown) hshown

end NmGpclient
