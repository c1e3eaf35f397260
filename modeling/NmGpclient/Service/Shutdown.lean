import NmGpclient.Service.ConnectResult
import NmGpclient.Service.Lifecycle

/-!
# Termination by a Unix signal

SIGTERM and SIGINT stop the main loop at once, whatever the session. The callback that handles the
exit of a child, and with it the destruction of the TUN device, runs only while the loop does, so
`main` exits clean exactly when nothing is left to clean up when the loop returns. The other way to
quit, `quit_mainloop`, waits for that callback.
-/

namespace NmGpclient

/-- What `main` does after the loop has returned: `gl.loop` is cleared and the plugin released. It
is disposed of unless a pending kill timeout holds it, and then libnm disconnects it if it is
`STARTED`. -/
def mainExit (groupKilled : Bool) (w : World) : World :=
  let w := { w with gl := { w.gl with loop := false } }
  if w.timers = [] ∧ w.libnm = .started then (realDisconnect groupKilled w).setLibnm .stopped
  else w

/-- Every child has had its exit handled, and the device that `priv->tun_name` names is destroyed. -/
def CleanExit (w : World) : Prop :=
  w.children = [] ∧ ∀ n, w.priv.tunName = some n → ¬w.tun.Persistent n

/-- There is nothing to clean up: no child is unreaped and no device is recorded. -/
def World.Idle (w : World) : Prop := w.children = [] ∧ w.priv.tunName = none

instance (w : World) : Decidable w.Idle := inferInstanceAs (Decidable (_ ∧ _))

/-- The end of `main` changes neither the children nor the device. -/
theorem mainExit_same (groupKilled : Bool) (w : World) : w.SameSession (mainExit groupKilled w) := by
  unfold mainExit
  dsimp only
  split
  · exact realDisconnect_same groupKilled { w with gl := { w.gl with loop := false } }
  · exact ⟨rfl, rfl, rfl, rfl⟩

/-! ## The recorded device -/

/-- The recorded device is persistent. -/
def World.RecordedPersistent (w : World) : Prop :=
  ∀ n, w.priv.tunName = some n → w.tun.Persistent n

/-- A device is persistent after it was created. -/
theorem persistent_create (t : TunTable IfName) (n : IfName) (uid : Nat) :
    (t.create n uid).Persistent n := ⟨_, t.create_self n uid, rfl⟩

/-- However a Connect ends, the device it records is one it has just made persistent, or the one
that was recorded. -/
theorem recordedPersistent_connect {connection : NMConnection} {a : ConnectAnswers} {w : World}
    (hw : w.RecordedPersistent) : (realConnect connection a w).2.RecordedPersistent := by
  have hexit := realConnect_exit connection a w
  generalize request connection a.version = req at hexit
  generalize realConnect connection a w = r at hexit ⊢
  obtain ⟨r, w'⟩ := r
  intro n hn
  cases hexit with
  | aborted => exact hw n hn
  | rejected e hleft =>
    obtain ⟨es, owner, group, rfl⟩ := hleft
    exact hw n hn
  | noTun _ hleft =>
    obtain ⟨es, owner, group, rfl⟩ := hleft
    cases hn
  | launched hcreate hlaunch =>
    obtain ⟨-, -, htun⟩ := hcreate.ready
    cases hlaunch with
    | locked _ e hleft =>
      obtain ⟨es, owner, group, rfl⟩ := hleft
      cases hn
    | notSpawned _ _ hleft | unfed _ _ _ _ hleft | started _ _ _ hleft =>
      obtain ⟨es, owner, group, rfl⟩ := hleft
      rcases htun with ⟨rfl, -⟩ | ⟨m, uid, rfl, -, rfl⟩
      · cases hn
      · obtain rfl := Option.some.inj hn
        exact persistent_create w.tun m uid

/-- Every event keeps the recorded device persistent. -/
theorem recordedPersistent_step (w : World) (e : Event) (hw : w.RecordedPersistent) :
    (e.step w).RecordedPersistent := by
  cases hquiet : e.quiet with
  | true =>
    obtain ⟨-, hname, -, htun⟩ := Event.step_same (w := w) hquiet
    intro n hn
    rw [htun]
    exact hw n (hname.symm.trans hn)
  | false =>
    cases e with
    | connect connection a =>
      have hstarting : (w.setLibnm .starting).RecordedPersistent := hw
      exact recordedPersistent_connect hstarting
    | childExit pid status a =>
      have hname : (Event.step w (.childExit pid status a)).priv.tunName = none :=
        congrArg (·.priv.tunName) (openconnectWatchCb_core status a (w.reap pid))
      intro n hn
      rw [hname] at hn
      cases hn
    | _ => cases hquiet

theorem recordedPersistent_run (tun : TunTable IfName) (es : List Event) :
    (service.run (.start tun) es).RecordedPersistent := by
  have hstart : (World.start tun).RecordedPersistent := nofun
  exact Machine.run_invariant recordedPersistent_step hstart es

/-- Events that are neither a Connect nor the exit of a child leave the session as it is. -/
theorem sameSession_run {w : World} {es : List Event} (h : ∀ e ∈ es, e.quiet = true) :
    w.SameSession (service.run w es) := by
  induction es generalizing w with
  | nil => exact ⟨rfl, rfl, rfl, rfl⟩
  | cons e es ih =>
    rw [List.forall_mem_cons] at h
    obtain ⟨hpid, hname, hchildren, htun⟩ := Event.step_same (w := w) h.1
    obtain ⟨hpid', hname', hchildren', htun'⟩ := ih (w := e.step w) h.2
    exact ⟨hpid'.trans hpid, hname'.trans hname, hchildren'.trans hchildren, htun'.trans htun⟩

/-- `main` exits clean exactly when the service is idle when the loop returns. -/
theorem cleanExit_mainExit_iff {w : World} (hpersistent : w.RecordedPersistent)
    (groupKilled : Bool) : CleanExit (mainExit groupKilled w) ↔ w.Idle := by
  obtain ⟨-, hname, hchildren, htun⟩ := mainExit_same groupKilled w
  unfold CleanExit World.Idle
  rw [hname, hchildren, htun]
  refine and_congr_right fun _ => ⟨fun hgone => ?_, fun hnone n hn => ?_⟩
  · -- a recorded device would still be there
    rw [Option.eq_none_iff_forall_ne_some]
    intro n hn
    exact hgone n hn (hpersistent n hn)
  · rw [hnone] at hn
    cases hn

/-- After a Unix signal `main` exits clean exactly when the service was idle when the signal
arrived; and when the loop, before it returns, still dispatches a Connect or the exit of a child,
exactly when these leave the service idle. -/
theorem cleanExit_iff (tun : TunTable IfName) (es rest : List Event) (groupKilled : Bool) :
    ((∀ e ∈ rest, e.quiet = true) →
      (CleanExit (mainExit groupKilled (service.run (.start tun) (es ++ .unixSignal :: rest))) ↔
        (service.run (.start tun) es).Idle)) ∧
    (CleanExit (mainExit groupKilled (service.run (.start tun) (es ++ .unixSignal :: rest))) ↔
      (service.run (.start tun) (es ++ .unixSignal :: rest)).Idle) := by
  have hreturn := cleanExit_mainExit_iff
    (recordedPersistent_run tun (es ++ .unixSignal :: rest)) groupKilled
  refine ⟨fun hquiet => ?_, hreturn⟩
  rw [hreturn, Machine.run_append]
  have hall : ∀ e ∈ Event.unixSignal :: rest, e.quiet = true :=
    List.forall_mem_cons.2 ⟨rfl, hquiet⟩
  obtain ⟨-, hname, hchildren, -⟩ := sameSession_run (w := service.run (.start tun) es) hall
  rw [World.Idle, World.Idle, hname, hchildren]

/-- A signal in a session leaves gpclient running and its device behind. -/
theorem cleanExit_fails : ¬∀ tun es rest groupKilled,
    service.Valid (.start tun) (es ++ .unixSignal :: rest) →
    CleanExit (mainExit groupKilled (service.run (.start tun) (es ++ .unixSignal :: rest))) := by
  intro h
  have hvalid : service.Valid (.start noDevices)
      ([.connect directProfile startAnswers, .libnmState .started] ++ [.unixSignal]) := by
    decide +kernel
  have hchildren : (mainExit true (service.run (.start noDevices)
      ([.connect directProfile startAnswers, .libnmState .started] ++ [.unixSignal]))).children ≠
        [] := by
    decide +kernel
  exact hchildren (h noDevices _ [] true hvalid).1

end NmGpclient
