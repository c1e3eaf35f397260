import Mathlib.Data.List.FinRange
import NmGpclient.Service.World

/-!
# Creating and destroying the TUN device

`create_persistent_tundev` opens `/dev/net/tun`, takes the suggested name or the first of `vpn0` to
`vpn255` that `TUNSETIFF` accepts, sets the owner and makes the device persistent. Every return
after `TUNSETIFF` but the last leaves the descriptor open, and so the device attached.
`destroy_persistent_tundev` attaches to the device and clears its persistence.

`CreateSpec` and `destroyed` say what the two functions do to the devices of the host, without the
calls they make on the way; `createPersistentTundev_spec` and `destroyPersistentTundev_spec` are
their specifications.
-/

namespace NmGpclient

/-- `vpn%d`. -/
def vpnBytes (i : Fin 256) : CStr := cstr ("vpn" ++ toString i.val)

theorem vpnBytes_valid : ∀ i : Fin 256, vpnBytes i ≠ [] ∧ (vpnBytes i).length < ifnamsiz := by
  decide +kernel

/-- `sprintf (ifr.ifr_name, "vpn%d", i)`. -/
def vpnName (i : Fin 256) : IfName := ⟨vpnBytes i, (vpnBytes_valid i).1, (vpnBytes_valid i).2⟩

/-- The first of these names. -/
def vpn0 : IfName := vpnName 0

/-- What the calls of `create_persistent_tundev` answer: the account, whether `/dev/net/tun` opens,
who else is attached to a device, the names `TUNSETIFF` refuses without such a reason, and whether
`TUNSETOWNER` and `TUNSETPERSIST` succeed. -/
structure TunAnswers where
  passwd : Option Passwd
  openTun : Bool
  busy : IfName → Bool
  refuses : IfName → Bool
  setOwner : Bool
  setPersist : Bool

/-- What the calls of `destroy_persistent_tundev` answer. -/
structure DestroyAnswers where
  openTun : Bool
  busy : Bool
  refuses : Bool
  clearPersist : Bool

/-- `TUNSETIFF` succeeds on the name. -/
def TunAnswers.accepts (a : TunAnswers) (t : TunTable IfName) (n : IfName) : Bool :=
  !a.refuses n && t.accepts a.busy n

/-- `TUNSETIFF` succeeds on the device to destroy. -/
def DestroyAnswers.accepts (a : DestroyAnswers) (t : TunTable IfName) (n : IfName) : Bool :=
  !a.refuses && t.accepts (fun _ => a.busy) n

/-! ## The source -/

/-- A `NM_VPN_PLUGIN_ERROR_LAUNCH_FAILED`. -/
def launchFailed (message : CStr) : GError := ⟨.launchFailed, message⟩

/-- The names that `create_persistent_tundev` tries. -/
def candidateNames : Option IfName → List IfName
  | some n => [n]
  | none => (List.finRange 256).map vpnName

/-- The error when no name is accepted. -/
def noNameError : Option IfName → GError
  | some n => launchFailed (cstr "Could not create tunnel interface named '" ++ n.bytes ++ cstr "'")
  | none => launchFailed (cstr "Could not create tunnel interface named 'vpnX', for X in 0..255")

/-- `TUNSETIFF` on one name after the other, until one is accepted. -/
def tryNames (a : TunAnswers) : List IfName → World → Option IfName × World
  | [], w => (none, w)
  | n :: ns, w =>
    let w := w.emit (.tunsetiff n)
    if a.accepts w.tun n then (some n, w.setTun (w.tun.attach n)) else tryNames a ns w

/-- `create_persistent_tundev`: the name, the error it sets, and the state it leaves. -/
def createPersistentTundev (suggested : Option IfName) (a : TunAnswers) (w : World) :
    (Option IfName × Option GError) × World :=
  let w := w.emit (.getpwnam nmOpenconnectUser)
  match a.passwd with
  | none => ((none, none), w)
  | some pw =>
    let w := (w.setTunOwner pw).emit .openTun
    if a.openTun then
      match tryNames a (candidateNames suggested) w with
      | (none, w) => ((none, some (noNameError suggested)), w)
      | (some n, w) =>
        let w := w.emit (.tunsetowner n pw.uid)
        if a.setOwner then
          let w := (w.setTun (w.tun.setOwner n pw.uid)).emit (.tunsetpersist n true)
          if a.setPersist then
            let w := (w.setTun ((w.tun.setPersist n true).close n)).emit .closeTun
            ((some n, none), w.log logWarning (cstr "Created tundev " ++ n.bytes ++ cstr "\n"))
          else
            ((none, some (launchFailed (cstr "Could not set tunnel interface persistence"))), w)
        else
          ((none, some (launchFailed (cstr "Could not set tunnel interface owner to '" ++
            decimal pw.uid ++ cstr "'"))), w)
    else ((none, some (launchFailed (cstr "Could not open /dev/net/tun"))), w)

/-- `destroy_persistent_tundev`. -/
def destroyPersistentTundev (n : IfName) (a : DestroyAnswers) (w : World) : World :=
  let w := w.emit .openTun
  if a.openTun then
    let w := w.emit (.tunsetiff n)
    if a.accepts w.tun n then
      let w := (w.setTun (w.tun.attach n)).emit (.tunsetpersist n false)
      if a.clearPersist then
        let w := (w.setTun (w.tun.setPersist n false)).log logWarning
          (cstr "Destroyed  tundev " ++ n.bytes ++ cstr "\n")
        (w.setTun (w.tun.close n)).emit .closeTun
      else (w.setTun (w.tun.close n)).emit .closeTun
    else w.emit .closeTun
  else w

/-! ## Specifications -/

/-- The name `TUNSETIFF` accepts, if any. -/
def acceptedName (suggested : Option IfName) (a : TunAnswers) (t : TunTable IfName) :
    Option IfName :=
  (candidateNames suggested).find? (a.accepts t)

/-- What `create_persistent_tundev` returns and makes of the devices. -/
inductive CreateSpec (suggested : Option IfName) (a : TunAnswers) (t : TunTable IfName) :
    Option IfName × Option GError → TunTable IfName → Prop
  | noUser (hpw : a.passwd = none) : CreateSpec suggested a t (none, none) t
  | refused {pw : Passwd} (hpw : a.passwd = some pw)
      (h : a.openTun = false ∨ acceptedName suggested a t = none) (e : GError) :
      CreateSpec suggested a t (none, some e) t
  | leaked {pw : Passwd} {n : IfName} (hpw : a.passwd = some pw) (ho : a.openTun = true)
      (hn : acceptedName suggested a t = some n) (h : a.setOwner = false ∨ a.setPersist = false)
      (e : GError) {t' : TunTable IfName} (hne : ∀ m, m ≠ n → t' m = t m) (hself : t' n ≠ none)
      (hper : t'.Persistent n ↔ t.Persistent n) :
      CreateSpec suggested a t (none, some e) t'
  | created {pw : Passwd} {n : IfName} (hpw : a.passwd = some pw) (ho : a.openTun = true)
      (hn : acceptedName suggested a t = some n) (how : a.setOwner = true)
      (hp : a.setPersist = true) : CreateSpec suggested a t (some n, none) (t.create n pw.uid)

/-- `create_persistent_tundev` returns without an error. -/
def tunReady (suggested : Option IfName) (a : TunAnswers) (t : TunTable IfName) : Bool :=
  a.passwd.isNone ||
    a.openTun && (acceptedName suggested a t).isSome && a.setOwner && a.setPersist

/-- The name it returns then: none when the account is missing. -/
def createdName (suggested : Option IfName) (a : TunAnswers) (t : TunTable IfName) :
    Option IfName :=
  a.passwd.bind fun _ => acceptedName suggested a t

/-- The name `TUNSETIFF` attached to, whether or not the device could be made persistent. -/
def attachedName (suggested : Option IfName) (a : TunAnswers) (t : TunTable IfName) :
    Option IfName :=
  if a.openTun then createdName suggested a t else none

/-- All calls of `destroy_persistent_tundev` succeed on a device it may attach to. -/
def DestroyAnswers.succeeds (a : DestroyAnswers) : Bool :=
  a.openTun && !a.busy && !a.refuses && a.clearPersist

/-- The devices after `destroy_persistent_tundev`. -/
def destroyed (t : TunTable IfName) (n : IfName) (a : DestroyAnswers) : TunTable IfName :=
  if a.openTun then
    if a.accepts t n then
      if a.clearPersist then t.destroy n else (t.attach n).close n
    else t
  else t

/-- The search through the names finds the first accepted one and attaches to it. -/
theorem tryNames_spec (a : TunAnswers) : ∀ (ns : List IfName) (w : World),
    ∃ w', tryNames a ns w = (ns.find? (a.accepts w.tun), w') ∧
      w.OnlyTun ((ns.find? (a.accepts w.tun)).elim w.tun w.tun.attach) w'
  | [], w => ⟨w, rfl, .refl⟩
  | n :: ns, w => by
      simp only [tryNames, List.find?_cons]
      have htun : (w.emit (.tunsetiff n)).tun = w.tun := rfl
      cases h : a.accepts w.tun n with
      | true =>
          rw [htun, h]
          exact ⟨_, rfl, (World.OnlyTun.refl.emit _).setTun _⟩
      | false =>
          rw [htun, h]
          obtain ⟨w', he, hw⟩ := tryNames_spec a ns (w.emit (.tunsetiff n))
          exact ⟨w', he, (World.OnlyTun.refl.emit _).trans hw⟩

/-- Attaching to a device and setting its owner changes only that device, which exists then and is
as persistent as before. -/
theorem attach_leaves (t : TunTable IfName) (n : IfName) (uid : Nat) :
    (∀ m, m ≠ n → (t.attach n).setOwner n uid m = t m) ∧
      (t.attach n).setOwner n uid n ≠ none ∧
      (((t.attach n).setOwner n uid).Persistent n ↔ t.Persistent n) := by
  refine ⟨?_, ?_, ?_⟩
  · intro m hm
    simp [hm]
  · cases h : t n <;> simp [TunTable.setOwner, TunTable.attach, h]
  · cases h : t n <;> simp [TunTable.setOwner, TunTable.attach, TunTable.Persistent, h]

theorem createPersistentTundev_spec (suggested : Option IfName) (a : TunAnswers) (w : World) :
    ∃ t', CreateSpec suggested a w.tun (createPersistentTundev suggested a w).1 t' ∧
      w.OnlyTun t' (createPersistentTundev suggested a w).2 := by
  unfold createPersistentTundev
  cases hpw : a.passwd with
  | none => exact ⟨_, .noUser hpw, World.OnlyTun.refl.emit _⟩
  | some pw =>
    dsimp only
    generalize hw₁ : ((w.emit (.getpwnam nmOpenconnectUser)).setTunOwner pw).emit .openTun = w₁
    have hquiet : w.OnlyTun w.tun w₁ := hw₁ ▸ ((World.OnlyTun.refl.emit _).setTunOwner pw).emit _
    cases ho : a.openTun with
    | false => exact ⟨_, .refused hpw (.inl ho) _, hquiet⟩
    | true =>
      rw [if_pos rfl]
      obtain ⟨w₂, he, hw₂⟩ := tryNames_spec a (candidateNames suggested) w₁
      have hnames : (candidateNames suggested).find? (a.accepts w₁.tun) =
          acceptedName suggested a w.tun := by rw [hquiet.tun_eq]; rfl
      rw [he, hnames]
      rw [hnames, hquiet.tun_eq] at hw₂
      have htry := hquiet.trans hw₂
      cases hn : acceptedName suggested a w.tun with
      | none =>
        rw [hn] at htry
        exact ⟨_, .refused hpw (.inr hn) _, htry⟩
      | some n =>
        rw [hn] at htry
        dsimp only [Option.elim_some] at htry
        obtain ⟨hne, hself, hper⟩ := attach_leaves w.tun n pw.uid
        have howner := htry.emit (.tunsetowner n pw.uid)
        cases how : a.setOwner with
        | false =>
          refine ⟨w.tun.attach n, .leaked hpw ho hn (.inl how) _ (fun m hm => by simp [hm])
            (w.tun.attach_self_ne_none n) ?_, howner⟩
          cases h : w.tun n <;> simp [TunTable.attach, TunTable.Persistent, h]
        | true =>
          simp only [if_true, World.emit_tun, World.setTun_tun, htry.tun_eq]
          have hset := (howner.setTun ((w.tun.attach n).setOwner n pw.uid)).emit
            (.tunsetpersist n true)
          cases hp : a.setPersist with
          | false => exact ⟨_, .leaked hpw ho hn (.inr hp) _ hne hself hper, hset⟩
          | true => exact ⟨_, .created hpw ho hn how hp, ((hset.setTun _).emit _).log _ _⟩

theorem destroyPersistentTundev_spec (n : IfName) (a : DestroyAnswers) (w : World) :
    w.OnlyTun (destroyed w.tun n a) (destroyPersistentTundev n a w) := by
  unfold destroyPersistentTundev destroyed
  have hopen := (World.OnlyTun.refl (w := w)).emit .openTun
  cases ho : a.openTun with
  | false => exact hopen
  | true =>
    rw [if_pos rfl, if_pos rfl]
    have htry := hopen.emit (.tunsetiff n)
    dsimp only
    generalize (w.emit .openTun).emit (.tunsetiff n) = w₁ at htry ⊢
    rw [htry.tun_eq]
    cases hacc : a.accepts w.tun n with
    | false => exact htry.emit _
    | true =>
      have hattach := (htry.setTun (w.tun.attach n)).emit (.tunsetpersist n false)
      cases hc : a.clearPersist with
      | false => exact (hattach.setTun _).emit _
      | true =>
        rw [if_pos rfl, if_pos rfl, if_pos rfl, if_pos rfl, World.log_tun]
        exact (((hattach.setTun _).log _ _).setTun _).emit _

section
variable {suggested : Option IfName} {a : TunAnswers} {t t' : TunTable IfName}

theorem CreateSpec.not_ready {e : GError} (h : CreateSpec suggested a t (none, some e) t') :
    tunReady suggested a t = false := by
  cases h with
  | refused hpw h => rcases h with h | h <;> simp [tunReady, hpw, h]
  | leaked hpw ho hn h => rcases h with h | h <;> simp [tunReady, hpw, h]

/-- Without an error, either the account is missing and nothing was done, or the device of the
accepted name was created. -/
theorem CreateSpec.ready {n : Option IfName} (h : CreateSpec suggested a t (n, none) t') :
    tunReady suggested a t = true ∧ n = createdName suggested a t ∧
      (n = none ∧ t' = t ∨ ∃ m uid, n = some m ∧ acceptedName suggested a t = some m ∧
        t' = t.create m uid) := by
  cases h with
  | noUser hpw => simp [tunReady, createdName, hpw]
  | created hpw ho hn how hp => simp [tunReady, createdName, hpw, ho, hn, how, hp]

/-- A failed `create_persistent_tundev` leaves a new device when it attached to a free name. -/
theorem CreateSpec.noNew_of_failed {e : GError}
    (h : CreateSpec suggested a t (none, some e) t') :
    t.NoNew t' ↔ ∀ n, attachedName suggested a t = some n → t n ≠ none := by
  cases h with
  | refused hpw h =>
    rcases h with h | h <;> simp [attachedName, createdName, hpw, h, TunTable.NoNew]
  | leaked hpw ho hn _ _ hne hself =>
    rw [TunTable.noNew_iff hne]
    simp [attachedName, createdName, hpw, ho, hn, hself]

/-- A created device is new when its name was free. -/
theorem TunTable.noNew_create (t : TunTable IfName) (n : IfName) (uid : Nat) :
    t.NoNew (t.create n uid) ↔ t n ≠ none := by
  rw [TunTable.noNew_iff (fun m hm => t.create_ne uid hm), TunTable.create_self]
  simp

/-- `TUNSETIFF` attaches to the accepted name, where the account exists and the driver opens. -/
theorem attachedName_eq_some {n : IfName} : attachedName suggested a t = some n ↔
    a.passwd.isSome = true ∧ a.openTun = true ∧ acceptedName suggested a t = some n := by
  unfold attachedName createdName
  cases a.passwd <;> cases a.openTun <;> simp

/-- `create_persistent_tundev` changes and returns no device but the one it attached to. -/
theorem CreateSpec.of_attachedName_ne {r : Option IfName × Option GError} {n : IfName}
    (h : CreateSpec suggested a t r t') (hne : attachedName suggested a t ≠ some n) :
    t' n = t n ∧ r.1 ≠ some n := by
  have hother : ∀ {m pw}, a.passwd = some pw → a.openTun = true →
      acceptedName suggested a t = some m → n ≠ m := by
    rintro m pw hpw ho hm rfl
    exact hne (attachedName_eq_some.2 ⟨by simp [hpw], ho, hm⟩)
  cases h with
  | noUser | refused => exact ⟨rfl, nofun⟩
  | leaked hpw ho hm _ _ hsame => exact ⟨hsame n (hother hpw ho hm), nofun⟩
  | created hpw ho hm =>
    exact ⟨t.create_ne _ (hother hpw ho hm), fun h => hother hpw ho hm (Option.some.inj h).symm⟩

/-- The accepted name is one of a free device or of a persistent one. -/
theorem accepts_of_acceptedName {n : IfName} (h : acceptedName suggested a t = some n) :
    t.accepts a.busy n = true := by
  have hfound := List.find?_some h
  simp only [TunAnswers.accepts, Bool.and_eq_true] at hfound
  exact hfound.2

end

/-- `destroy_persistent_tundev` changes no other device. -/
@[simp] theorem destroyed_ne {t : TunTable IfName} {n m : IfName} (a : DestroyAnswers)
    (h : m ≠ n) : destroyed t n a m = t m := by
  unfold destroyed
  split_ifs <;> simp [h]

/-- A persistent device that no descriptor of the service holds is gone when the calls that destroy
it succeed. -/
theorem destroyed_self {t : TunTable IfName} {n : IfName} {d : TunDev} {a : DestroyAnswers}
    (hd : t n = some d) (hp : d.persistent = true) (hh : d.held = 0) (ha : a.succeeds = true) :
    destroyed t n a n = none := by
  simp only [DestroyAnswers.succeeds, Bool.and_eq_true, Bool.not_eq_true'] at ha
  obtain ⟨⟨⟨ho, hb⟩, hr⟩, hc⟩ := ha
  have haccepts : t.accepts (fun _ => a.busy) n = true := by
    simp [TunTable.accepts, hd, hp, hh, hb]
  simp [destroyed, DestroyAnswers.accepts, ho, hr, hc, haccepts, t.destroy_self haccepts]

/-- A device created on a free name or on one `TUNSETIFF` accepts is persistent and not held. -/
theorem create_of_accepts {t : TunTable IfName} {busy : IfName → Bool} {n : IfName} (uid : Nat)
    (h : t.accepts busy n = true) : t.create n uid n = some ⟨some uid, true, 0⟩ := by
  rw [TunTable.create_self]
  cases hn : t n with
  | none => rfl
  | some d => simp [t.held_of_accepts h hn]

/-- A device that still exists after a `destroy` that failed. -/
theorem destroyed_of_failed {t : TunTable IfName} {n : IfName} {d : TunDev} {a : DestroyAnswers}
    (hd : t n = some d) (hp : d.persistent = true) (ha : a.succeeds = false) :
    destroyed t n a n ≠ none := by
  unfold destroyed
  cases ho : a.openTun with
  | false => simp [hd]
  | true =>
    cases hacc : a.accepts t n with
    | false => simp [hd]
    | true =>
      have hfree : a.refuses = false ∧ a.busy = false := by
        simp only [DestroyAnswers.accepts, TunTable.accepts, hd, Bool.and_eq_true,
          Bool.not_eq_true'] at hacc
        exact ⟨hacc.1, hacc.2.2⟩
      have hc : a.clearPersist = false := by
        simpa [DestroyAnswers.succeeds, ho, hfree.1, hfree.2] using ha
      simp [hc, TunTable.close, TunTable.attach, hd, hp]

/-- A device that was created and destroyed again is new when its name was free and a call that
destroys it failed. -/
theorem noNew_destroyed_create (t : TunTable IfName) (n : IfName) (uid : Nat)
    (a : DestroyAnswers) :
    t.NoNew (destroyed (t.create n uid) n a) ↔ t n ≠ none ∨ a.succeeds = true := by
  have hne : ∀ m, m ≠ n → destroyed (t.create n uid) n a m = t m := by
    intro m hm
    simp [hm]
  rw [TunTable.noNew_iff hne]
  cases hn : t n with
  | some d => simp
  | none =>
    have haccepts : t.accepts (fun _ => false) n = true := by simp [TunTable.accepts, hn]
    have hself := create_of_accepts uid haccepts
    cases ha : a.succeeds with
    | true => simp [destroyed_self hself rfl rfl ha]
    | false => simp [destroyed_of_failed hself rfl ha]

end NmGpclient
