import NmGpclient.Service.Children

/-!
# Delayed callbacks and sessions

The kill timeout of a Disconnect and the exit callback of a child run later, perhaps in the session
of another child: libnm takes a Connect as soon as `real_disconnect` has returned. Both act on what
`priv` holds when they run, not on the child they were made for, so each stays in its session
exactly when `priv->pid` is still that child or 0. A Connect that only ever tracks a new child when
none is tracked keeps the sessions apart, and then they always do.
-/

namespace NmGpclient

/-- A delayed callback that stays in its own session. The kill timeout kills no child but the one it
was armed for. The exit callback of a child, while another one is tracked, leaves that one's id, TUN
device and kill timeout alone, and neither reports a failure nor stops the main loop.

A session is that of the tracked child. A child that a failed Connect left behind is in none, so
nothing is said of the device it runs on. -/
def Event.OwnSession (w : World) (e : Event) : Prop :=
  match e with
  | .killTimeout id _ => ∀ t ∈ w.timers, t.id = id → ∀ target,
      .kill target .sigkill ∈ w.effects (e.step w) → target.pid = t.armedFor
  | .childExit pid _ _ => w.priv.pid ≠ 0 → w.priv.pid ≠ pid →
      (e.step w).priv.pid = w.priv.pid ∧ (e.step w).priv.tunName = w.priv.tunName ∧
      (e.step w).tun = w.tun ∧ (e.step w).priv.killTimeout = w.priv.killTimeout ∧
      (e.step w).timers = w.timers ∧
      ∀ effect ∈ w.effects (e.step w), effect ≠ .mainLoopQuit ∧ ∀ r, effect ≠ .failure r
  | _ => True

/-- The tracked child, when there is one, is the one a delayed callback is about; or the timeout
finds no such process. -/
def Event.FindsItsChild (w : World) : Event → Prop
  | .killTimeout id a => ∀ t ∈ w.timers, t.id = id →
      w.priv.pid = 0 ∨ w.priv.pid = t.armedFor ∨ a.group = false ∧ a.process = false
  | .childExit pid _ _ => w.priv.pid = 0 ∨ w.priv.pid = pid
  | _ => True

/-- A Connect that tracks a new child finds none tracked. -/
def Event.StartsAlone (w : World) : Event → Prop
  | .connect connection a =>
      ∀ child ∈ spawned connection a w.tun, a.feeds child.2 = true → w.priv.pid = 0
  | _ => True

/-! ## One step -/

/-- What a kill timeout visibly does. -/
theorem killTimeout_effects (w : World) (id : Nat) (a : ProbeAnswers) :
    w.effects (Event.step w (.killTimeout id a)) = killEffects a w :=
  World.effects_of_visible (congrArg Core.visible (ensureKilled_core a (w.dropSource id)))

theorem pid_of_killEffects {a : ProbeAnswers} {w : World} {target : KillTarget}
    (h : .kill target .sigkill ∈ killEffects a w) : target.pid = w.priv.pid := by
  rcases mem_killEffects h with heq | heq
  · cases heq
    rfl
  · cases heq
    rfl

/-- `ensure_killed` kills when a child is tracked and its group or the child is found. -/
theorem exists_killEffects {a : ProbeAnswers} {w : World} (hpid : w.priv.pid ≠ 0)
    (ha : a.group = true ∨ a.process = true) :
    ∃ target, .kill target .sigkill ∈ killEffects a w := by
  cases hg : a.group with
  | true => exact ⟨.group w.priv.pid, by simp [killEffects, hpid, hg]⟩
  | false =>
    have hp : a.process = true := by simpa [hg] using ha
    exact ⟨.process w.priv.pid, by simp [killEffects, hpid, hg, hp]⟩

/-- A delayed callback stays in its session exactly when it finds its own child. -/
theorem ownSession_iff (w : World) (e : Event) : e.OwnSession w ↔ e.FindsItsChild w := by
  cases e with
  | killTimeout id a =>
    simp only [Event.OwnSession, Event.FindsItsChild, killTimeout_effects]
    refine forall₃_congr fun t _ _ => ⟨fun h => ?_, fun h target htarget => ?_⟩
    · by_contra hnot
      push Not at hnot
      obtain ⟨hpid, harmed, hprobe⟩ := hnot
      have hfound : a.group = true ∨ a.process = true := by
        cases hg : a.group with
        | true => exact .inl rfl
        | false => exact .inr (by simpa using hprobe hg)
      obtain ⟨target, htarget⟩ := exists_killEffects hpid hfound
      exact harmed ((pid_of_killEffects htarget).symm.trans (h target htarget))
    · have hpid := pid_of_killEffects htarget
      rcases h with hzero | harmed | ⟨hg, hp⟩
      · simp [killEffects, hzero] at htarget
      · rw [hpid, harmed]
      · simp [killEffects, hg, hp] at htarget
  | childExit pid status a =>
    simp only [Event.OwnSession, Event.FindsItsChild]
    have hzero : (Event.step w (.childExit pid status a)).priv.pid = 0 :=
      congrArg (·.priv.pid) (openconnectWatchCb_core status a (w.reap pid))
    refine ⟨fun h => ?_, fun h hpid hother => ?_⟩
    · by_contra hnot
      push Not at hnot
      exact hnot.1 ((h hnot.1 hnot.2).1.symm.trans hzero)
    · exact (h.elim hpid hother).elim
  | _ => exact Iff.rfl

/-! ## Sessions apart -/

/-- One session at a time: the watched child is the tracked one, and so is the child of a pending
kill timeout, which is the one `priv` records. -/
structure SessionsApart (w : World) : Prop where
  children : ∀ c ∈ w.children, c.watched = true → c.pid = w.priv.pid ∧ c.pid ≠ 0
  timers : ∀ t ∈ w.timers, t.id = w.priv.killTimeout ∧ t.id ≠ 0 ∧ t.armedFor = w.priv.pid ∧
    t.armedFor ≠ 0

theorem SessionsApart.start (tun : TunTable IfName) : SessionsApart (.start tun) where
  children := by simp [World.start]
  timers := by simp [World.start]

/-- While no child is tracked, none is watched and no timeout is pending. -/
theorem SessionsApart.idle {w : World} (h : SessionsApart w) (hpid : w.priv.pid = 0) :
    (∀ c ∈ w.children, c.watched = false) ∧ w.timers = [] := by
  constructor
  · intro c hc
    by_contra hwatched
    obtain ⟨hc', hne⟩ := h.children c hc (by simpa using hwatched)
    exact hne (hc'.trans hpid)
  · rw [List.eq_nil_iff_forall_not_mem]
    intro t ht
    obtain ⟨-, -, harmed, hne⟩ := h.timers t ht
    exact hne (harmed.trans hpid)

/-- Only the children, the timeouts and the two ids matter. -/
theorem SessionsApart.congr {w w' : World} (h : SessionsApart w)
    (hchildren : w'.children = w.children) (htimers : w'.timers = w.timers)
    (hpid : w'.priv.pid = w.priv.pid) (hkill : w'.priv.killTimeout = w.priv.killTimeout) :
    SessionsApart w' where
  children := by
    rw [hchildren, hpid]
    exact h.children
  timers := by
    rw [htimers, hpid, hkill]
    exact h.timers

theorem SessionsApart.recorded {w : World} (h : SessionsApart w) : w.TimersRecorded :=
  fun t ht => ⟨(h.timers t ht).1, (h.timers t ht).2.1⟩

theorem SessionsApart.realDisconnect {w : World} (h : SessionsApart w) (groupKilled : Bool) :
    SessionsApart (realDisconnect groupKilled w) := by
  by_cases hpid : w.priv.pid = 0
  · rw [realDisconnect_idle hpid]
    exact h
  · obtain ⟨hpid', -, hchildren, -⟩ := realDisconnect_same groupKilled w
    rcases @realDisconnect_timers groupKilled w hpid h.recorded with
      ⟨htimers, hne⟩ | ⟨htimers, htimeout⟩
    · refine ⟨?_, ?_⟩
      · rw [hchildren, hpid']
        exact h.children
      · rw [htimers, hpid']
        simp [hne, hpid]
    · exact h.congr hchildren htimers hpid' htimeout

theorem SessionsApart.quitMainloop {w : World} (h : SessionsApart w) (groupKilled : Bool) :
    SessionsApart (quitMainloop groupKilled w) := by
  by_cases hpid : w.priv.pid = 0
  · rw [quitMainloop_idle hpid]
    exact h.congr rfl rfl rfl rfl
  · rw [quitMainloop_tracked hpid]
    have hpending : SessionsApart (w.setPriv { w.priv with quitPending := true }) :=
      h.congr rfl rfl rfl rfl
    split
    · exact hpending
    · exact hpending.realDisconnect groupKilled

/-- The pending kill timeout fires. -/
theorem SessionsApart.killTimeout {w : World} (h : SessionsApart w) {id : Nat} (a : ProbeAnswers)
    (henabled : Event.enabled w (.killTimeout id a)) :
    SessionsApart (Event.step w (.killTimeout id a)) := by
  obtain ⟨-, -, hnone⟩ := killTimeout_timers h.recorded henabled
  obtain ⟨hpid, -, hchildren, -⟩ := Event.step_same (w := w) (e := .killTimeout id a) rfl
  refine ⟨?_, by simp [hnone]⟩
  rw [hchildren, hpid]
  exact h.children

/-- The watched child exits. -/
theorem SessionsApart.childExit {w : World} (h : SessionsApart w) {pid : GPid} (status : Nat)
    (a : ExitAnswers) (henabled : Event.enabled w (.childExit pid status a)) :
    SessionsApart (Event.step w (.childExit pid status a)) := by
  obtain ⟨c, hc, rfl, hwatched⟩ := henabled
  have hchildren : (Event.step w (.childExit c.pid status a)).children =
      w.children.filter fun d => d.pid ≠ c.pid :=
    congrArg Core.children (openconnectWatchCb_core status a (w.reap c.pid))
  refine ⟨fun d hd hdw => ?_, by simp [childExit_timers h.recorded]⟩
  rw [hchildren, List.mem_filter] at hd
  have hsame : d.pid = c.pid := (h.children d hd.1 hdw).1.trans (h.children c hc hwatched).1.symm
  exact absurd hsame (by simpa using hd.2)

/-- A Connect that tracks a child only when none is tracked. -/
theorem SessionsApart.connect {w : World} (h : SessionsApart w) {connection : NMConnection}
    {a : ConnectAnswers} (henabled : Event.enabled w (.connect connection a))
    (halone : Event.StartsAlone w (.connect connection a)) :
    SessionsApart (Event.step w (.connect connection a)) := by
  simp only [Event.step]
  cases hs : spawned connection a w.tun with
  | none =>
    obtain ⟨-, tunName, t, es, owner, group, hleft⟩ :=
      realConnect_of_not_spawned (w := w.setLibnm .starting) hs
    rw [hleft]
    exact h.congr rfl rfl rfl rfl
  | some child =>
    obtain ⟨pid, cookie⟩ := child
    have hpos : pid ≠ 0 := (henabled.2 pid (spawn_of_spawned hs)).1
    rcases realConnect_of_spawned (w := w.setLibnm .starting) hs with
      ⟨hfeed, -, tunName, t, es, owner, group, hleft⟩ |
      ⟨hfeed, -, tunName, t, stdin, es, owner, group, hleft⟩
    · obtain ⟨hwatched, htimers⟩ := h.idle (halone _ hs hfeed)
      rw [hleft]
      refine ⟨fun c hc hcw => ?_, by simp [World.setLibnm, htimers]⟩
      rcases List.mem_append.1 hc with hold | hnew
      · exact absurd hcw (by simp [hwatched c hold])
      · obtain rfl := List.mem_singleton.1 hnew
        exact ⟨rfl, hpos⟩
    · rw [hleft]
      refine ⟨fun c hc hcw => ?_, h.timers⟩
      rcases List.mem_append.1 hc with hold | hnew
      · exact h.children c hold hcw
      · obtain rfl := List.mem_singleton.1 hnew
        cases hcw

/-- The sessions stay apart when every tracked child is started alone. -/
theorem sessionsApart_step (w : World) (e : Event) (h : SessionsApart w)
    (hstep : service.enabled w e ∧ e.StartsAlone w) : SessionsApart (service.step w e) := by
  obtain ⟨henabled, halone⟩ := hstep
  cases e with
  | connect connection a => exact h.connect henabled halone
  | needSecrets connection bus =>
    have hcore := realNeedSecrets_core connection bus w
    exact h.congr (congrArg Core.children hcore) (congrArg Core.timers hcore)
      (congrArg (·.priv.pid) hcore) (congrArg (·.priv.killTimeout) hcore)
  | disconnect groupKilled => exact (h.realDisconnect groupKilled).congr rfl rfl rfl rfl
  | quit groupKilled => exact h.quitMainloop groupKilled
  | killTimeout id a => exact h.killTimeout a henabled
  | childExit pid status a => exact h.childExit status a henabled
  | libnmState s => exact h.congr rfl rfl rfl rfl
  | unixSignal => exact h.congr rfl rfl rfl rfl

/-- In a state with the sessions apart every delayed callback finds its own child. -/
theorem SessionsApart.findsItsChild {w : World} (h : SessionsApart w) {e : Event}
    (henabled : service.enabled w e) : e.FindsItsChild w := by
  cases e with
  | killTimeout id a => exact fun t ht _ => .inr (.inl (h.timers t ht).2.2.1.symm)
  | childExit pid status a =>
    obtain ⟨c, hc, rfl, hwatched⟩ := henabled
    exact .inr (h.children c hc hwatched).1.symm
  | _ => trivial

/-- Along a run every delayed callback stays in its own session exactly when each finds its own
child tracked, or none; and so it does in every run whose tracked children are started alone. -/
theorem ownSession_allSteps (tun : TunTable IfName) (es : List Event)
    (h : service.Valid (.start tun) es) :
    (service.AllSteps (fun w e => e.OwnSession w) (.start tun) es ↔
        service.AllSteps (fun w e => e.FindsItsChild w) (.start tun) es) ∧
      (service.AllSteps (fun w e => e.StartsAlone w) (.start tun) es →
        service.AllSteps (fun w e => e.OwnSession w) (.start tun) es) := by
  refine ⟨⟨fun hown => hown.mono fun w e => (ownSession_iff w e).1,
    fun hfinds => hfinds.mono fun w e => (ownSession_iff w e).2⟩, fun halone => ?_⟩
  have hsteps : service.AllSteps (fun w e => service.enabled w e ∧ e.StartsAlone w) (.start tun) es :=
    Machine.AllSteps.and h halone
  exact hsteps.mono_of_invariant
    (fun w e hw he => (ownSession_iff w e).2 (hw.findsItsChild he.1))
    (fun w e hw he => sessionsApart_step w e hw he) (SessionsApart.start tun)

instance (w : World) : DecidablePred (Event.StartsAlone w)
  | .connect connection a => inferInstanceAs (Decidable
      (∀ child ∈ spawned connection a w.tun, a.feeds child.2 = true → w.priv.pid = 0))
  | .needSecrets .. | .disconnect _ | .quit _ | .killTimeout .. | .childExit .. | .libnmState _
  | .unixSignal => .isTrue trivial

theorem ownSession_oneSession :
    service.AllSteps (fun w e => e.OwnSession w) (.start noDevices) oneSession :=
  (ownSession_allSteps noDevices oneSession (by decide +kernel)).2 (by decide +kernel)

/-- The answers to a Connect while the child of `startAnswers` still holds its device. -/
def nextAnswers : ConnectAnswers := { startAnswers with
  tun := { startAnswers.tun with busy := fun n => n == vpn0 }
  spawn := .ok 101 }

/-- A Connect while the child of a Disconnect is dying. -/
def overlap : List Event :=
  [.connect directProfile startAnswers, .disconnect true, .connect directProfile nextAnswers]

/-- The kill timeout of a Disconnect kills the child of the next session. -/
theorem ownSession_fails : ¬∀ tun es, service.Valid (.start tun) es →
    service.AllSteps (fun w e => e.OwnSession w) (.start tun) es := by
  intro h
  have hvalid : service.Valid (.start noDevices) (overlap ++ [.killTimeout 1 ⟨true, true⟩]) := by
    decide +kernel
  have hstep := (service.allSteps_append.1 (h noDevices _ hvalid)).2.1
  have htimer : ⟨1, 100⟩ ∈ (service.run (.start noDevices) overlap).timers := by
    decide +kernel
  have hkill : .kill (.group 101) .sigkill ∈ (service.run (.start noDevices) overlap).effects
      (Event.step (service.run (.start noDevices) overlap) (.killTimeout 1 ⟨true, true⟩)) := by
    decide +kernel
  exact absurd (hstep ⟨1, 100⟩ htimer rfl _ hkill) (by decide)

end NmGpclient
