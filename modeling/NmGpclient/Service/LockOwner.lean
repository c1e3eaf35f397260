import NmGpclient.Service.Effects

/-!
# The owner of the lock file

The lock file begins with the number of the process that owns it. A file whose owner runs is never
removed, whatever `/proc` says about the process; any other file is, and then a Connect goes on. A
Connect that is refused the lock does not spawn gpclient.
-/

namespace NmGpclient

/-! ## The owner -/

/-- The file names a running process: it begins with a decimal integer from 1 to `INT_MAX`, and a
signal to that process succeeds or is not permitted. -/
def LiveOwner (a : LockAnswers) : Prop :=
  ∃ bytes n, a.contents = some bytes ∧ BeginsWithInt n bytes ∧ 1 ≤ n ∧ n ≤ intMax ∧
    (a.probe n.toNat = .ok ∨ a.probe n.toNat = .eperm)

/-- The number that is read is the integer the contents begin with, when it is from 1 to `INT_MAX`.
An integer that overflows is clamped to a `long`, which is out of that range too. -/
theorem readGpclientLockPid_eq_some {bytes : List UInt8} {pid : GPid} :
    readGpclientLockPid (some bytes) = some pid ↔
      ∃ n, BeginsWithInt n bytes ∧ 1 ≤ n ∧ n ≤ intMax ∧ pid = n.toNat := by
  unfold readGpclientLockPid
  dsimp only
  constructor
  · intro h
    split_ifs at h with hbad
    simp only [Bool.or_eq_true, beq_iff_eq, decide_eq_true_eq, not_or, not_le, not_lt,
      Bool.not_eq_true] at hbad
    obtain ⟨⟨⟨hrange, hnumber⟩, hpos⟩, hmax⟩ := hbad
    obtain ⟨n, hbegins⟩ := begins_of_consumed hnumber
    obtain ⟨-, hvalue, herange⟩ := strtol_of_begins hbegins
    rw [hrange] at herange
    have hlong := of_decide_eq_false herange.symm
    have hn : (strtol bytes).value = n := by
      rw [hvalue]
      omega
    rw [hn] at h hpos hmax
    exact ⟨n, hbegins, by omega, hmax, (Option.some.inj h).symm⟩
  · rintro ⟨n, hbegins, hpos, hmax, rfl⟩
    obtain ⟨hnumber, hvalue, herange⟩ := strtol_of_begins hbegins
    have hlong : ¬(n < longMin ∨ longMax < n) := by
      unfold intMax at hmax
      unfold longMin longMax
      omega
    have hn : (strtol bytes).value = n := by
      rw [hvalue]
      omega
    rw [hn, herange, decide_eq_false hlong, if_neg]
    simp only [Bool.false_or, Bool.or_eq_true, beq_iff_eq, decide_eq_true_eq, not_or, not_le,
      not_lt]
    exact ⟨⟨hnumber, by omega⟩, hmax⟩

/-- The file has an owner exactly when it names a running process. -/
theorem lockOwner_isSome_iff (a : LockAnswers) : (lockOwner a).isSome = true ↔ LiveOwner a := by
  have hrunning : ∀ probe, pidIsRunning probe = true ↔ probe = .ok ∨ probe = .eperm := by
    intro probe
    cases probe <;> simp [pidIsRunning]
  unfold lockOwner LiveOwner
  rw [Option.isSome_iff_exists]
  simp only [Option.filter_eq_some_iff, hrunning]
  cases hcontents : a.contents with
  | none => simp [readGpclientLockPid]
  | some bytes =>
    simp only [readGpclientLockPid_eq_some]
    constructor
    · rintro ⟨pid, ⟨n, hbegins, hpos, hmax, rfl⟩, hprobe⟩
      exact ⟨bytes, n, rfl, hbegins, hpos, hmax, hprobe⟩
    · rintro ⟨_, n, ⟨⟩, hbegins, hpos, hmax, hprobe⟩
      exact ⟨n.toNat, ⟨n, hbegins, hpos, hmax, rfl⟩, hprobe⟩

/-! ## What is done -/

/-- What a call that took `w` to `w'` has done: the trace only grows. -/
def World.done (w w' : World) : List Effect := w'.trace.drop w.trace.length

theorem World.done_of_trace {w w' : World} {es : List Effect} (h : w'.trace = w.trace ++ es) :
    w.done w' = es := by
  simp [done, h]

theorem World.Grows.mem_done {P : Effect → Prop} {w w' : World} (h : w.Grows P w') {e : Effect}
    (he : e ∈ w.done w') : P e := by
  obtain ⟨es, htrace, hes⟩ := h
  rw [World.done_of_trace htrace] at he
  exact hes e he

/-- A change of the devices alone is done by auxiliary effects. -/
theorem World.OnlyTun.grows {w w' : World} {t : TunTable IfName} (h : w.OnlyTun t w') :
    w.Grows (·.auxiliary = true) w' := by
  obtain ⟨es, owner, group, hes, rfl⟩ := h
  exact ⟨es, rfl, hes⟩

/-- The effects of `prepare_gpclient_lock`. -/
def lockEffects (a : LockAnswers) (logLevel : Nat) : List Effect :=
  .testLock :: if a.fileExists then
    .readLock :: ((readGpclientLockPid a.contents).map fun pid =>
        Effect.kill (.process pid) .null).toList ++
      match lockOwner a with
      | some pid => [.readComm pid]
      | none => .unlinkLock :: match a.unlink with
        | .failed _ => []
        | .removed | .enoent =>
          if logNotice ≤ logLevel then
            [.log logNotice (cstr "Removed stale gpclient lock file")] else []
  else []

theorem prepareGpclientLock_done (a : LockAnswers) (w : World) :
    w.done (prepareGpclientLock a w).2 = lockEffects a w.gl.logLevel := by
  apply World.done_of_trace
  unfold prepareGpclientLock lockEffects
  cases a.fileExists with
  | false => rfl
  | true =>
    cases readGpclientLockPid a.contents <;> cases lockOwner a <;> cases a.unlink <;>
      simp [World.emit, World.log] <;> split <;> simp

/-- The lock file is removed, or tried to be, exactly when it is there without an owner. -/
theorem unlinkLock_mem_lockEffects (a : LockAnswers) (logLevel : Nat) :
    .unlinkLock ∈ lockEffects a logLevel ↔ a.fileExists = true ∧ ¬LiveOwner a := by
  rw [← lockOwner_isSome_iff]
  unfold lockEffects
  cases a.fileExists with
  | false => simp
  | true =>
    cases readGpclientLockPid a.contents <;> cases lockOwner a <;> simp

/-! ## Connect -/

section
variable (a : ConnectAnswers) {w w' : World}

/-- A Connect that gets the lock spawns gpclient next. -/
theorem launchGpclient_granted (argv : List CStr) (envp : StrMap) (cookie : CStr)
    (hgranted : (prepareGpclientLock a.lock w).1 = none) :
    .spawn argv envp ∈ w.done (launchGpclient argv envp cookie a w).2 := by
  have hlock := (prepareGpclientLock_spec a.lock w).2.grows
  have htail : ((prepareGpclientLock a.lock w).2.emit (.spawn argv envp)).Grows (fun _ => True)
      (launchGpclient argv envp cookie a w).2 := by
    unfold launchGpclient
    generalize prepareGpclientLock a.lock w = r at hgranted ⊢
    obtain ⟨_, w₁⟩ := r
    obtain rfl := hgranted
    have hspawn : (w₁.emit (.spawn argv envp)).Grows (fun _ => True) _ := .refl
    have hdiscreet : ∀ e : Effect, e.discreet = true → True := fun _ _ => trivial
    dsimp only
    cases a.spawn with
    | error e => exact hspawn.log hdiscreet _ _
    | ok pid =>
      have hfeed := feedCookie_grows cookie a (hspawn.log hdiscreet logNotice
        (cstr "gpclient started with pid " ++ decimal pid)) trivial trivial
      dsimp only
      generalize feedCookie cookie a _ = r at hfeed ⊢
      obtain ⟨⟨fed, stdin⟩, w₂⟩ := r
      cases fed with
      | false => exact (hfeed.addChild _).log hdiscreet _ _
      | true =>
        have hclosed := (hfeed.emit (e := .closeStdin) trivial).setPriv
          { w₂.priv with pid := pid, disconnectRequested := false }
        exact (hclosed.emit (e := .addChildWatch pid) trivial).addChild _
  obtain ⟨es, hes, -⟩ := hlock
  obtain ⟨es', hes', -⟩ := htail
  rw [World.emit, hes] at hes'
  dsimp only at hes'
  rw [World.done_of_trace (by rw [hes', List.append_assoc, List.append_assoc])]
  simp

/-- A Connect that is refused the lock does only auxiliary things. -/
theorem launchGpclient_refused (argv : List CStr) (envp : StrMap) (cookie : CStr)
    (hrefused : (prepareGpclientLock a.lock w').1 ≠ none)
    (h : w.Grows (·.auxiliary = true) w') :
    w.Grows (·.auxiliary = true) (launchGpclient argv envp cookie a w').2 := by
  have hlock := h.trans (prepareGpclientLock_spec a.lock w').2.grows
  unfold launchGpclient
  generalize prepareGpclientLock a.lock w' = r at hrefused hlock ⊢
  obtain ⟨_ | error, w₁⟩ := r
  · exact absurd rfl hrefused
  · dsimp only
    cases w₁.priv.tunName with
    | none => exact hlock
    | some n =>
      exact (hlock.trans (destroyPersistentTundev_spec n a.destroy w₁).grows).congr rfl

/-- The answer of `prepare_gpclient_lock` depends on the lock only. -/
theorem prepareGpclientLock_eq_none (a : LockAnswers) (w w' : World) :
    (prepareGpclientLock a w).1 = none ↔ (prepareGpclientLock a w').1 = none :=
  (prepareGpclientLock_spec a w).1.trans (prepareGpclientLock_spec a w').1.symm

/-- A Connect that would be refused the lock spawns nothing. -/
theorem startOpenconnectBinary_refused (s_con : NMSettingConnection) (s_vpn : NMSettingVpn)
    (hrefused : (prepareGpclientLock a.lock w).1 ≠ none) :
    w.Grows (·.auxiliary = true) (startOpenconnectBinary s_con s_vpn a w).2 := by
  have hversion : w.Grows (·.auxiliary = true)
      (w.emit (.spawnSync [gpclientBinary, cstr "--version"])) := World.Grows.refl.emit rfl
  unfold startOpenconnectBinary
  dsimp only
  generalize w.emit (.spawnSync [gpclientBinary, cstr "--version"]) = w₁ at hversion ⊢
  cases startChecks s_vpn a.version with
  | error e => exact hversion
  | ok cookie =>
    have henv := hversion.trans (gpclientEnv_spec s_con s_vpn a w₁).grows
    dsimp only
    generalize gpclientEnv s_con s_vpn a w₁ = r at henv ⊢
    obtain ⟨envp, w₂⟩ := r
    obtain ⟨t, -, honly⟩ := createPersistentTundev_spec s_con.interfaceName a.tun w₂
    have hcreate := henv.trans honly.grows
    dsimp only
    generalize createPersistentTundev s_con.interfaceName a.tun w₂ = r at hcreate ⊢
    obtain ⟨⟨tunName, error⟩, w₃⟩ := r
    have hnamed : w.Grows (·.auxiliary = true) (w₃.setTunName tunName) := hcreate.congr rfl
    have hlaunch := fun argv => launchGpclient_refused a argv envp cookie
      (fun h => hrefused ((prepareGpclientLock_eq_none a.lock _ _).1 h)) hnamed
    cases tunName with
    | some n => exact hlaunch _
    | none =>
      cases error with
      | none => exact hlaunch _
      | some e => exact hcreate.congr rfl

end

/-- The lock of a running owner is kept: the file is removed, or tried to be, exactly when it is
there without one. `prepare_gpclient_lock` returns `TRUE` exactly when there is no file or it was
removed or had vanished, and otherwise leaves the file with an error. From the lock on a Connect
spawns gpclient exactly when it gets the lock, and no Connect spawns it without. -/
structure LockKept (s_con : NMSettingConnection) (s_vpn : NMSettingVpn) (a : ConnectAnswers)
    (w : World) : Prop where
  removed : .unlinkLock ∈ w.done (prepareGpclientLock a.lock w).2 ↔
    a.lock.fileExists = true ∧ ¬LiveOwner a.lock
  granted : (prepareGpclientLock a.lock w).1 = none ↔ a.lock.fileExists = false ∨
    (.unlinkLock ∈ w.done (prepareGpclientLock a.lock w).2 ∧
      (a.lock.unlink = .removed ∨ a.lock.unlink = .enoent))
  untouched : ∀ error, (prepareGpclientLock a.lock w).1 = some error →
    .unlinkLock ∉ w.done (prepareGpclientLock a.lock w).2 ∨
      ∃ strerror, a.lock.unlink = .failed strerror
  launched : ∀ argv envp cookie,
    (∃ argv' envp', .spawn argv' envp' ∈ w.done (launchGpclient argv envp cookie a w).2) ↔
      (prepareGpclientLock a.lock w).1 = none
  started : ∀ argv envp, .spawn argv envp ∈ w.done (startOpenconnectBinary s_con s_vpn a w).2 →
    (prepareGpclientLock a.lock w).1 = none

/-- The lock of a running owner is kept, for every lock file, process and Connect. -/
theorem gpclientLock_kept (s_con : NMSettingConnection) (s_vpn : NMSettingVpn) (a : ConnectAnswers)
    (w : World) : LockKept s_con s_vpn a w := by
  have hremoved : .unlinkLock ∈ w.done (prepareGpclientLock a.lock w).2 ↔
      a.lock.fileExists = true ∧ ¬LiveOwner a.lock := by
    rw [prepareGpclientLock_done, unlinkLock_mem_lockEffects]
  have hgranted : (prepareGpclientLock a.lock w).1 = none ↔ a.lock.fileExists = false ∨
      (.unlinkLock ∈ w.done (prepareGpclientLock a.lock w).2 ∧
        (a.lock.unlink = .removed ∨ a.lock.unlink = .enoent)) := by
    rw [(prepareGpclientLock_spec a.lock w).1, hremoved, ← lockOwner_isSome_iff]
    unfold lockFree
    cases a.lock.fileExists <;> cases lockOwner a.lock <;> cases a.lock.unlink <;> simp
  refine ⟨hremoved, hgranted, fun error herror => ?_, fun argv envp cookie => ⟨?_, fun hnone => ?_⟩,
    fun argv envp hspawn => ?_⟩
  · rw [or_iff_not_imp_left, not_not]
    intro hunlink
    cases hanswer : a.lock.unlink with
    | failed strerror => exact ⟨strerror, rfl⟩
    | removed => simp [hgranted.2 (.inr ⟨hunlink, .inl hanswer⟩)] at herror
    | enoent => simp [hgranted.2 (.inr ⟨hunlink, .inr hanswer⟩)] at herror
  · rintro ⟨argv', envp', hspawn⟩
    by_contra hrefused
    cases (launchGpclient_refused a argv envp cookie hrefused .refl).mem_done hspawn
  · exact ⟨argv, envp, launchGpclient_granted a argv envp cookie hnone⟩
  · by_contra hrefused
    cases (startOpenconnectBinary_refused a s_con s_vpn hrefused).mem_done hspawn

end NmGpclient
