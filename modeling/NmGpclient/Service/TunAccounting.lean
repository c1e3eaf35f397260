import NmGpclient.Service.ConnectResult
import NmGpclient.Service.Lifecycle

/-!
# TUN accounting

The persistent TUN devices of the host are those it had when the service started, which the service
leaves alone, and the one that `priv->tun_name` names. A run keeps these accounts when every Connect
that gets as far as the TUN device takes a free name, or its own device again, and gives the device
back if it fails on the way, and every exit of a child whose device is recorded destroys it.

The search for a name does not see to the first: `TUNSETIFF` by root also succeeds on a persistent
device that nobody is attached to, so `vpn0` may be a device of the host.
-/

namespace NmGpclient

/-- The accounts, for the devices `D` the host had at first: the persistent devices are those of
`D` and the recorded one, which is not of `D`, and the devices of `D` are as they were. -/
structure TunAccounted (D : TunTable IfName) (w : World) : Prop where
  persistent : ∀ n, w.tun.Persistent n ↔ D.Persistent n ∨ w.priv.tunName = some n
  own : ∀ n, w.priv.tunName = some n → D n = none
  untouched : ∀ n, D n ≠ none → w.tun n = D n

/-- What a Connect with the request `req` does that keeps the accounts: it creates a device only
under a free name while none is recorded, or under the recorded name again; it destroys the device
when the lock is refused; and when it creates none, none was recorded and no existing device was
attached to. -/
def Request.AccountsTun (req : Request) (a : ConnectAnswers) (w : World) : Prop :=
  let created := createdName req.interfaceName a.tun w.tun
  if tunReady req.interfaceName a.tun w.tun then
    (created = none → w.priv.tunName = none) ∧
      (∀ n ∈ created, w.priv.tunName = some n ∨ w.priv.tunName = none ∧ w.tun n = none) ∧
      (created.isSome → lockFree a.lock = false → a.destroy.succeeds = true)
  else w.priv.tunName = none ∧
    ∀ n ∈ attachedName req.interfaceName a.tun w.tun, w.tun n = none

instance (req : Request) (a : ConnectAnswers) (w : World) : Decidable (req.AccountsTun a w) :=
  inferInstanceAs (Decidable (ite ..))

/-- The steps that keep the accounts. -/
def Event.AccountsTun (w : World) : Event → Prop
  | .connect connection a => ∀ req ∈ request connection a.version, req.AccountsTun a w
  | .childExit _ _ a => w.priv.tunName.isSome → a.destroy.succeeds = true
  | _ => True

instance (w : World) : DecidablePred (Event.AccountsTun w)
  | .connect connection a => inferInstanceAs (Decidable
      (∀ req ∈ request connection a.version, req.AccountsTun a w))
  | .childExit _ _ a => inferInstanceAs (Decidable
      (w.priv.tunName.isSome → a.destroy.succeeds = true))
  | .needSecrets .. | .disconnect _ | .quit _ | .killTimeout .. | .libnmState _ | .unixSignal =>
      .isTrue trivial

/-! ## The accounts of a table

The same accounts for a recorded name and a table of devices, with what makes them inductive: no
descriptor of the service holds the recorded device. -/

structure Ledger (D : TunTable IfName) (own : Option IfName) (t : TunTable IfName) : Prop where
  persistent : ∀ n, t.Persistent n ↔ D.Persistent n ∨ own = some n
  own_free : ∀ n, own = some n → D n = none
  untouched : ∀ n, D n ≠ none → t n = D n
  idle : ∀ n d, own = some n → t n = some d → d.held = 0

section
variable {D t t' : TunTable IfName} {own : Option IfName}

theorem Ledger.start (D : TunTable IfName) : Ledger D none D where
  persistent := by simp
  own_free := by simp
  untouched := by simp
  idle := by simp

/-- A name that is free now was free at first. -/
theorem Ledger.free (h : Ledger D own t) {n : IfName} (hn : t n = none) : D n = none := by
  by_contra hd
  exact hd (h.untouched n hd ▸ hn)

/-- A change of a device that is not of `D`. -/
theorem Ledger.update {own' : Option IfName} (h : Ledger D own t) {n : IfName} (hn : D n = none)
    (hne : ∀ m, m ≠ n → t' m = t m) (hown : ∀ m, m ≠ n → (own' = some m ↔ own = some m))
    (hper : t'.Persistent n ↔ own' = some n)
    (hidle : ∀ d, own' = some n → t' n = some d → d.held = 0) : Ledger D own' t' where
  persistent := by
    intro m
    by_cases hm : m = n
    · subst hm
      rw [hper]
      simp [TunTable.Persistent, hn]
    · rw [hown m hm, ← h.persistent m]
      simp [TunTable.Persistent, hne m hm]
  own_free := by
    intro m hm
    by_cases hmn : m = n
    · exact hmn ▸ hn
    · exact h.own_free m ((hown m hmn).1 hm)
  untouched := by
    intro m hm
    have hmn : m ≠ n := fun he => hm (he ▸ hn)
    rw [hne m hmn, h.untouched m hm]
  idle := by
    intro m d hm hd
    by_cases hmn : m = n
    · subst hmn
      exact hidle d hm hd
    · rw [hne m hmn] at hd
      exact h.idle m d ((hown m hmn).1 hm) hd

/-- A `create_persistent_tundev` that failed, where none was recorded, on no name or a free one. -/
theorem Ledger.failed {suggested : Option IfName} {a : TunAnswers} {e : GError}
    (h : Ledger D none t) (hcreate : CreateSpec suggested a t (none, some e) t')
    (hfree : ∀ n ∈ attachedName suggested a t, t n = none) : Ledger D none t' := by
  cases hcreate with
  | refused => exact h
  | leaked hpw ho hn hfail e hne hself hper =>
    rename_i pw n
    have hnone : t n = none := hfree n (by simp [attachedName, createdName, hpw, ho, hn])
    refine h.update (h.free hnone) hne (by simp) ?_ (by simp)
    rw [hper]
    simp [TunTable.Persistent, hnone]

/-- A device that was created on a free name, or again on the recorded one. -/
theorem Ledger.created {suggested : Option IfName} {a : TunAnswers} {n : IfName} {uid : Nat}
    (h : Ledger D own t) (hn : acceptedName suggested a t = some n)
    (hown : own = some n ∨ own = none ∧ t n = none) : Ledger D (some n) (t.create n uid) := by
  have hself := create_of_accepts uid (accepts_of_acceptedName hn)
  have hfree : D n = none := by
    rcases hown with hown | ⟨-, hnone⟩
    · exact h.own_free n hown
    · exact h.free hnone
  refine h.update hfree (fun m hm => t.create_ne uid hm) ?_ ?_ ?_
  · intro m hm
    rcases hown with rfl | ⟨rfl, -⟩ <;> simp [Ne.symm hm]
  · simp [TunTable.Persistent, hself]
  · intro d _ hd
    rw [hself] at hd
    cases hd
    rfl

/-- The recorded device is destroyed. -/
theorem Ledger.destroyed {n : IfName} {a : DestroyAnswers} (h : Ledger D (some n) t)
    (ha : a.succeeds = true) : Ledger D none (destroyed t n a) := by
  obtain ⟨d, hd, hp⟩ := (h.persistent n).2 (.inr rfl)
  have hgone := destroyed_self hd hp (h.idle n d rfl hd) ha
  refine h.update (h.own_free n rfl) (fun m hm => destroyed_ne a hm) ?_ ?_ (by simp)
  · intro m hm
    simp [Ne.symm hm]
  · simp [TunTable.Persistent, hgone]

end

/-! ## The accounts along a run -/

/-- The ledger of a state. -/
def World.TunLedger (D : TunTable IfName) (w : World) : Prop := Ledger D w.priv.tunName w.tun

theorem World.TunLedger.accounted {D : TunTable IfName} {w : World} (h : w.TunLedger D) :
    TunAccounted D w := ⟨h.persistent, h.own_free, h.untouched⟩

/-- A Connect that meets the condition keeps the ledger, however it ends. -/
theorem tunLedger_connect {D : TunTable IfName} {w : World} {connection : NMConnection}
    {a : ConnectAnswers} (h : w.TunLedger D) (hc : Event.AccountsTun w (.connect connection a)) :
    (Event.step w (.connect connection a)).TunLedger D := by
  have hexit := realConnect_exit connection a (w.setLibnm .starting)
  simp only [Event.AccountsTun, Request.AccountsTun] at hc
  simp only [Event.step]
  generalize request connection a.version = req at hexit hc
  generalize realConnect connection a (w.setLibnm .starting) = r at hexit ⊢
  obtain ⟨r, w'⟩ := r
  cases hexit with
  | aborted => exact h
  | rejected e hleft =>
    obtain ⟨es, owner, group, rfl⟩ := hleft
    exact h
  | noTun hcreate hleft =>
    obtain ⟨es, owner, group, rfl⟩ := hleft
    have hcond := hc _ rfl
    rw [if_neg (by simp [show tunReady _ a.tun w.tun = false from hcreate.not_ready])] at hcond
    have hledger : Ledger D none w.tun := hcond.1 ▸ h
    exact hledger.failed hcreate hcond.2
  | launched hcreate hlaunch =>
    obtain ⟨hready, hname, htun⟩ := hcreate.ready
    have hcond := hc _ rfl
    rw [if_pos (show tunReady _ a.tun w.tun = true from hready)] at hcond
    rw [show createdName _ a.tun w.tun = _ from hname.symm] at hcond
    rcases htun with ⟨rfl, rfl⟩ | ⟨n, uid, rfl, haccepted, rfl⟩
    · have hledger : Ledger D none w.tun := hcond.1 rfl ▸ h
      cases hlaunch with
      | locked _ _ hleft | notSpawned _ _ hleft | unfed _ _ _ _ hleft | started _ _ _ hleft =>
        obtain ⟨es, owner, group, rfl⟩ := hleft
        exact hledger
    · have hledger : Ledger D (some n) (w.tun.create n uid) := Ledger.created h haccepted (hcond.2.1 n rfl)
      cases hlaunch with
      | locked hlock _ hleft =>
        obtain ⟨es, owner, group, rfl⟩ := hleft
        exact hledger.destroyed (hcond.2.2 rfl hlock)
      | notSpawned _ _ hleft | unfed _ _ _ _ hleft | started _ _ _ hleft =>
        obtain ⟨es, owner, group, rfl⟩ := hleft
        exact hledger

/-- The exit of a child that meets the condition releases the recorded device. -/
theorem tunLedger_exit {D : TunTable IfName} {w : World} {pid : GPid} {status : Nat}
    {a : ExitAnswers} (h : w.TunLedger D) (hc : Event.AccountsTun w (.childExit pid status a)) :
    (Event.step w (.childExit pid status a)).TunLedger D := by
  have hcore := openconnectWatchCb_core status a (w.reap pid)
  have hname : (Event.step w (.childExit pid status a)).priv.tunName = none :=
    congrArg (·.priv.tunName) hcore
  have htun : (Event.step w (.childExit pid status a)).tun =
      w.priv.tunName.elim w.tun fun n => destroyed w.tun n a.destroy := congrArg Core.tun hcore
  unfold World.TunLedger at h ⊢
  rw [hname, htun]
  simp only [Event.AccountsTun] at hc
  cases hown : w.priv.tunName with
  | none => simpa [hown] using h
  | some n =>
    rw [hown] at h hc
    exact h.destroyed (hc rfl)

/-- A step that meets the condition keeps the ledger. -/
theorem tunLedger_step {D : TunTable IfName} (w : World) (e : Event) (h : w.TunLedger D)
    (hc : e.AccountsTun w) : (service.step w e).TunLedger D := by
  cases hquiet : e.quiet with
  | true =>
    obtain ⟨-, hname, -, htun⟩ := Event.step_same (w := w) hquiet
    change Ledger D (e.step w).priv.tunName (e.step w).tun
    rw [hname, htun]
    exact h
  | false =>
    cases e with
    | connect connection a => exact tunLedger_connect h hc
    | childExit pid status a => exact tunLedger_exit h hc
    | _ => cases hquiet

/-- In every run of the service whose steps meet the condition, the accounts are kept in every
state. -/
theorem tunAccounted_always (D : TunTable IfName) (es : List Event)
    (h : service.AllSteps (fun w e => e.AccountsTun w) (.start D) es) :
    service.Always (TunAccounted D) (.start D) es := by
  have hstart : (World.start D).TunLedger D := Ledger.start D
  exact (Machine.AllSteps.always tunLedger_step hstart h).mono fun _ => World.TunLedger.accounted

theorem tunAccounted_oneSession : service.Always (TunAccounted noDevices) (.start noDevices)
    [.connect directProfile startAnswers, .disconnect true, .childExit 100 0 quietExit] :=
  tunAccounted_always noDevices _ (by decide +kernel)

/-- A host with one device, persistent and attached to by nobody, with the first name the service
tries. -/
def oneDevice : TunTable IfName := Function.update noDevices vpn0 (some ⟨none, true, 0⟩)

/-- The service takes an idle device of the host for its own. -/
theorem tunAccounted_fails : ¬∀ D es, service.Valid (.start D) es →
    TunAccounted D (service.run (.start D) es) := by
  intro h
  have hvalid : service.Valid (.start oneDevice) [.connect directProfile startAnswers] := by
    decide +kernel
  have hname : (service.run (.start oneDevice)
      [.connect directProfile startAnswers]).priv.tunName = some vpn0 := by
    decide +kernel
  have hfree := (h oneDevice _ hvalid).own vpn0 hname
  simp [oneDevice] at hfree

end NmGpclient
