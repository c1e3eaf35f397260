import NmGpclient.Lib.Machine
import NmGpclient.Service.Connect
import NmGpclient.Service.Deactivate

/-!
# The life of a session

The callbacks of the service beside Connect: `real_need_secrets`, `real_disconnect`,
`ensure_killed`, `openconnect_watch_cb`, `quit_mainloop` and the Unix signal handler. The main loop
runs one callback at a time, so a run of the service is a list of `Event`s, each with the answers
of the calls its callback makes; `service` is the machine of these events.

Of libnm only this is assumed: it calls `real_connect` when its own state is `INIT` or `STOPPED`,
and it is `STOPPED` as soon as `real_disconnect` returns. Everything else it does to its state is an
event of its own. While it reports a failure or a disconnect it may call back into
`real_disconnect` and `quit_mainloop`; these calls are part of the answers.
-/

namespace NmGpclient

/-! ## The callbacks -/

namespace World

variable (w : World)

/-- `priv` changes. -/
def setPriv (priv : Priv) : World := { w with priv := priv }

/-- `g_timeout_add_full (..., 2000, ensure_killed, ...)`, stored in `priv->kill_timeout`. -/
def armKillTimeout : World :=
  let id := w.nextSource + 1
  let w := { w with
    timers := w.timers ++ [Timer.mk id w.priv.pid], nextSource := id,
    priv := { w.priv with killTimeout := id } }
  w.emit (.addTimeout id)

/-- A source is gone from the main loop. -/
def dropSource (id : Nat) : World := { w with timers := w.timers.filter fun t => t.id ≠ id }

/-- libnm's state changes. -/
def setLibnm (s : NMVpnServiceState) : World := { w with libnm := s }

/-- GLib has reaped a child. -/
def reap (pid : GPid) : World := { w with children := w.children.filter fun c => c.pid ≠ pid }

@[simp] theorem core_setPriv (priv : Priv) : (w.setPriv priv).core = { w.core with priv := priv } :=
  rfl

end World

/-- `real_disconnect`; `groupKilled` is whether `kill (-pid, SIGINT)` succeeds. -/
def realDisconnect (groupKilled : Bool) (w : World) : World :=
  let pid := w.priv.pid
  if pid = 0 then w
  else
    let w := w.setPriv { w.priv with disconnectRequested := true }
    let w := w.emit (.kill (.group pid) .sigint)
    let w := if groupKilled then w else w.emit (.kill (.process pid) .sigint)
    let w := if w.priv.killTimeout = 0 then w.armKillTimeout else w
    w.log logNotice (cstr "Terminated gpclient daemon with PID " ++ decimal pid ++ cstr ".")

/-- Whether the existence probes `kill (-pid, 0)` and `kill (pid, 0)` succeed. -/
structure ProbeAnswers where
  group : Bool
  process : Bool
deriving DecidableEq, Repr

/-- `ensure_killed`. -/
def ensureKilled (a : ProbeAnswers) (w : World) : World :=
  let pid := w.priv.pid
  let w := w.setPriv { w.priv with killTimeout := 0 }
  if pid = 0 then w
  else
    let w := w.emit (.kill (.group pid) .null)
    if a.group then w.emit (.kill (.group pid) .sigkill)
    else
      let w := w.emit (.kill (.process pid) .null)
      if a.process then w.emit (.kill (.process pid) .sigkill) else w

/-- `quit_mainloop`, the handler of libnm's quit signal. -/
def quitMainloop (groupKilled : Bool) (w : World) : World :=
  if w.priv.pid ≠ 0 then
    let w := w.setPriv { w.priv with quitPending := true }
    if w.priv.disconnectRequested then w else realDisconnect groupKilled w
  else w.emit .mainLoopQuit

/-- A call of libnm back into the plugin. -/
inductive LibnmCall where
  | disconnect (groupKilled : Bool)
  | quit (groupKilled : Bool)
deriving DecidableEq, Repr

/-- The effect of such a call. -/
def LibnmCall.run (w : World) : LibnmCall → World
  | .disconnect groupKilled => (realDisconnect groupKilled w).setLibnm .stopped
  | .quit groupKilled => quitMainloop groupKilled w

/-- What the calls of `openconnect_watch_cb` answer; `nested` are the calls libnm makes while it
reports the failure or the disconnect. -/
structure ExitAnswers where
  bus : BusAnswers
  destroy : DestroyAnswers
  nested : List LibnmCall

/-- The line `openconnect_watch_cb` logs. -/
def logExit (status : Nat) (w : World) : World :=
  if w.priv.disconnectRequested then
    if wifexited status then w.log logNotice
      (cstr "gpclient exited after requested disconnect with code " ++ decimal (wexitstatus status))
    else if wifsignaled status then w.log logNotice
      (cstr "gpclient stopped after requested disconnect with signal " ++ decimal (wtermsig status))
    else w.log logNotice (cstr "gpclient stopped after requested disconnect")
  else if wifexited status then
    if wexitstatus status ≠ 0 then w.log logWarning
      (cstr "gpclient exited with error code " ++ decimal (wexitstatus status))
    else w
  else if wifstopped status then w.log logWarning
    (cstr "gpclient stopped unexpectedly with signal " ++ decimal (wexitstatus status))
  else if wifsignaled status then w.log logWarning
    (cstr "gpclient died with signal " ++ decimal (wtermsig status))
  else w.log logWarning (cstr "gpclient died from an unknown cause")

/-- `error`, the exit code of a child whose exit nobody asked for. -/
def exitError (status : Nat) : Nat := if wifexited status then wexitstatus status else 0

/-- What an exit that nobody asked for reports to libnm. -/
def exitReport (status : Nat) : Effect :=
  match exitError status with
  | 2 => .failure .loginFailed
  | 1 => .failure .connectFailed
  | _ => .pluginDisconnect

/-- The TUN device of the session is destroyed. -/
def releaseTun (a : ExitAnswers) (w : World) : World :=
  match w.priv.tunName with
  | some n =>
    (destroyPersistentTundev n a.destroy
      (deactivateAssumedTunConnection n.bytes a.bus w)).setTunName none
  | none => w

/-- The pending kill timeout is removed. -/
def clearKillTimeout (w : World) : World :=
  if w.priv.killTimeout = 0 then w
  else ((w.dropSource w.priv.killTimeout).emit (.removeSource w.priv.killTimeout)).setPriv
    { w.priv with killTimeout := 0 }

/-- `openconnect_watch_cb`, after GLib has reaped the child. -/
def openconnectWatchCb (status : Nat) (a : ExitAnswers) (w : World) : World :=
  let disconnectRequested := w.priv.disconnectRequested
  let w := clearKillTimeout (logExit status w)
  let w := w.setPriv { w.priv with pid := 0, disconnectRequested := false }
  let w := releaseTun a w
  if disconnectRequested then
    if w.priv.quitPending && w.gl.loop then w.emit .mainLoopQuit else w
  else a.nested.foldl LibnmCall.run (w.emit (exitReport status))

/-- What `real_need_secrets` answers: the setting it wants secrets for, or none; or an error. -/
inductive NeedSecrets where
  | needed (settingName : CStr)
  | notNeeded
  | failed (error : GError)
deriving DecidableEq, Repr

/-- `real_need_secrets`. -/
def realNeedSecrets (connection : NMConnection) (bus : BusAnswers) (w : World) :
    NeedSecrets × World :=
  match connection.settingVpn with
  | none => (.failed ⟨.invalidConnection, cstr "Could not process the request because the VPN connection settings were invalid."⟩, w)
  | some s_vpn =>
    match validateAuthSecretFlags s_vpn with
    | some error => (.failed error, w)
    | none =>
      let tunName := connection.settingConnection.bind NMSettingConnection.interfaceName
      let w :=
        if w.priv.pid = 0 then
          deactivateAssumedTunConnection (tunName.elim (cstr "vpn0") IfName.bytes) bus w
        else w
      let known := (s_vpn.getSecret Key.gateway).or
        ((s_vpn.getDataItem Key.gateway).or (s_vpn.getDataItem Key.portal))
      if known.isNone || (propsCookie s_vpn).isNone then (.needed (cstr "vpn"), w)
      else (.notNeeded, w)

/-! ## The machine -/

/-- What the main loop dispatches. -/
inductive Event where
  | connect (connection : NMConnection) (answers : ConnectAnswers)
  | needSecrets (connection : NMConnection) (bus : BusAnswers)
  | disconnect (groupKilled : Bool)
  | quit (groupKilled : Bool)
  | killTimeout (id : Nat) (answers : ProbeAnswers)
  | childExit (pid : GPid) (status : Nat) (answers : ExitAnswers)
  | libnmState (s : NMVpnServiceState)
  | unixSignal

/-- The events that may happen in a state. A spawned process has a positive id that no unreaped
child has, a timeout fires only while it is pending, and GLib reports the exits of watched children
only. -/
def Event.enabled (w : World) : Event → Prop
  | .connect _ a => (w.libnm = .init ∨ w.libnm = .stopped) ∧
      ∀ pid ∈ a.spawn.toOption, pid ≠ 0 ∧ ∀ c ∈ w.children, c.pid ≠ pid
  | .killTimeout id _ => ∃ t ∈ w.timers, t.id = id
  | .childExit pid _ _ => ∃ c ∈ w.children, c.pid = pid ∧ c.watched = true
  | _ => True

instance (w : World) : DecidablePred (Event.enabled w)
  | .connect _ a => inferInstanceAs (Decidable ((w.libnm = .init ∨ w.libnm = .stopped) ∧
      ∀ pid ∈ a.spawn.toOption, pid ≠ 0 ∧ ∀ c ∈ w.children, c.pid ≠ pid))
  | .killTimeout id _ => inferInstanceAs (Decidable (∃ t ∈ w.timers, t.id = id))
  | .childExit pid _ _ => inferInstanceAs (Decidable (∃ c ∈ w.children, c.pid = pid ∧ c.watched = true))
  | .needSecrets .. | .disconnect _ | .quit _ | .libnmState _ | .unixSignal => .isTrue trivial

/-- The state after an event. -/
def Event.step (w : World) : Event → World
  | .connect connection a => (realConnect connection a (w.setLibnm .starting)).2
  | .needSecrets connection bus => (realNeedSecrets connection bus w).2
  | .disconnect groupKilled => (realDisconnect groupKilled w).setLibnm .stopped
  | .quit groupKilled => quitMainloop groupKilled w
  | .killTimeout id a => ensureKilled a (w.dropSource id)
  | .childExit pid status a => openconnectWatchCb status a (w.reap pid)
  | .libnmState s => w.setLibnm s
  | .unixSignal => w.emit .mainLoopQuit

/-- The service. -/
def service : Machine World Event := ⟨Event.enabled, Event.step⟩

instance (w : World) (e : Event) : Decidable (service.enabled w e) :=
  inferInstanceAs (Decidable (Event.enabled w e))

/-- The answers to an exit callback that finds no system bus, destroys the device and is not called
back. -/
def quietExit : ExitAnswers where
  bus := ⟨none, false, none, fun _ => none, fun _ => none, fun _ => none, fun _ => none, fun _ => none,
    fun _ => none, []⟩
  destroy := ⟨true, false, false, true⟩
  nested := []

/-! ## What each callback does

The equations for the state each callback leaves, and the effects they are stated with. -/

/-- `real_disconnect` does nothing while no child is tracked. -/
theorem realDisconnect_idle {groupKilled : Bool} {w : World} (h : w.priv.pid = 0) :
    realDisconnect groupKilled w = w := if_pos h

/-- The effects of `real_disconnect` on a tracked child. -/
def disconnectEffects (groupKilled : Bool) (w : World) : List Effect :=
  [.kill (.group w.priv.pid) .sigint] ++
    (if groupKilled then [] else [.kill (.process w.priv.pid) .sigint]) ++
    (if w.priv.killTimeout = 0 then [.addTimeout (w.nextSource + 1)] else [])

/-- `real_disconnect` on a tracked child: the disconnect is requested, the child interrupted, and a
kill timeout pending. -/
theorem realDisconnect_core {groupKilled : Bool} {w : World} (h : w.priv.pid ≠ 0) :
    (realDisconnect groupKilled w).core = { w.core with
      priv := { w.priv with
        disconnectRequested := true
        killTimeout := if w.priv.killTimeout = 0 then w.nextSource + 1 else w.priv.killTimeout }
      timers := w.timers ++
        if w.priv.killTimeout = 0 then [⟨w.nextSource + 1, w.priv.pid⟩] else []
      nextSource := if w.priv.killTimeout = 0 then w.nextSource + 1 else w.nextSource
      visible := w.visible ++ disconnectEffects groupKilled w } := by
  unfold realDisconnect disconnectEffects
  simp only [if_neg h, World.core_log]
  by_cases hk : w.priv.killTimeout = 0 <;> cases groupKilled <;>
    simp [hk, World.armKillTimeout, World.setPriv, World.core, World.emit, World.visible,
      Effect.auxiliary]

/-- The signal of `ensure_killed`. -/
def killEffects (a : ProbeAnswers) (w : World) : List Effect :=
  if w.priv.pid = 0 then []
  else if a.group then [.kill (.group w.priv.pid) .sigkill]
  else if a.process then [.kill (.process w.priv.pid) .sigkill]
  else []

/-- The signal of `ensure_killed` goes to the tracked child or to its group. -/
theorem mem_killEffects {a : ProbeAnswers} {w : World} {effect : Effect}
    (h : effect ∈ killEffects a w) :
    effect = .kill (.group w.priv.pid) .sigkill ∨
      effect = .kill (.process w.priv.pid) .sigkill := by
  unfold killEffects at h
  split_ifs at h with hpid hgroup hprocess
  · cases h
  · exact .inl (List.mem_singleton.1 h)
  · exact .inr (List.mem_singleton.1 h)
  · cases h

theorem ensureKilled_core (a : ProbeAnswers) (w : World) :
    (ensureKilled a w).core = { w.core with
      priv := { w.priv with killTimeout := 0 }
      visible := w.visible ++ killEffects a w } := by
  unfold ensureKilled killEffects
  by_cases h : w.priv.pid = 0
  · simp [h, World.setPriv, World.core, World.visible]
  · obtain ⟨g, p⟩ := a
    cases g <;> cases p <;>
      simp [h, World.setPriv, World.core, World.emit, World.visible, Effect.auxiliary]

/-- The quit signal while no child is tracked stops the main loop. -/
theorem quitMainloop_idle {groupKilled : Bool} {w : World} (h : w.priv.pid = 0) :
    quitMainloop groupKilled w = w.emit .mainLoopQuit := if_neg (by simpa using h)

/-- The quit signal while a child is tracked: the loop stops after its exit, which is requested. -/
theorem quitMainloop_tracked {groupKilled : Bool} {w : World} (h : w.priv.pid ≠ 0) :
    quitMainloop groupKilled w =
      if w.priv.disconnectRequested then w.setPriv { w.priv with quitPending := true }
      else realDisconnect groupKilled (w.setPriv { w.priv with quitPending := true }) := if_pos h

/-- The effects of libnm's calls back into the plugin while no child is tracked. -/
def nestedEffects (calls : List LibnmCall) : List Effect :=
  calls.filterMap fun
    | .disconnect _ => none
    | .quit _ => some .mainLoopQuit

/-- libnm's state after its calls back. -/
def nestedState (s : NMVpnServiceState) (calls : List LibnmCall) : NMVpnServiceState :=
  calls.foldl (fun s call => match call with
    | .disconnect _ => .stopped
    | .quit _ => s) s

/-- While no child is tracked, libnm's calls back only stop the main loop. -/
theorem nested_core (calls : List LibnmCall) {w : World} (h : w.priv.pid = 0) :
    (calls.foldl LibnmCall.run w).core = { w.core with
      libnm := nestedState w.libnm calls
      visible := w.visible ++ nestedEffects calls } := by
  induction calls generalizing w with
  | nil => simp [nestedState, nestedEffects, World.core]
  | cons call calls ih =>
    rw [List.foldl_cons]
    cases call with
    | disconnect groupKilled =>
      have hnext := @ih (w.setLibnm .stopped) h
      rw [LibnmCall.run, realDisconnect_idle h, hnext]
      simp [World.setLibnm, World.core, World.visible, nestedState, nestedEffects]
    | quit groupKilled =>
      have hnext := @ih (w.emit .mainLoopQuit) h
      rw [LibnmCall.run, quitMainloop_idle h, hnext]
      simp [World.emit, World.core, World.visible, nestedState, nestedEffects, Effect.auxiliary]

/-- The effects of `openconnect_watch_cb`. -/
def exitEffects (status : Nat) (a : ExitAnswers) (w : World) : List Effect :=
  (if w.priv.killTimeout = 0 then [] else [.removeSource w.priv.killTimeout]) ++
    if w.priv.disconnectRequested then
      if w.priv.quitPending && w.gl.loop then [.mainLoopQuit] else []
    else exitReport status :: nestedEffects a.nested

@[simp] theorem logExit_core (status : Nat) (w : World) : (logExit status w).core = w.core := by
  unfold logExit
  split_ifs <;> simp

theorem exitReport_visible (status : Nat) : (exitReport status).auxiliary = false := by
  unfold exitReport
  split <;> rfl

theorem releaseTun_core (a : ExitAnswers) (w : World) :
    (releaseTun a w).core = { w.core with
      priv := { w.priv with tunName := none }
      tun := w.priv.tunName.elim w.tun fun n => destroyed w.tun n a.destroy } := by
  unfold releaseTun
  cases hn : w.priv.tunName with
  | none =>
    obtain ⟨priv, _, _, _, _, _, _, _⟩ := w
    obtain ⟨_, _, _, _, _⟩ := priv
    cases hn
    rfl
  | some n =>
    have hdeact := deactivateAssumedTunConnection_spec n.bytes a.bus w
    have honly := hdeact.trans (hdeact.tun_eq ▸ destroyPersistentTundev_spec n a.destroy
      (deactivateAssumedTunConnection n.bytes a.bus w))
    dsimp only
    rw [World.core_setTunName, honly.core_eq, honly.priv_eq]
    rfl

theorem clearKillTimeout_core (w : World) :
    (clearKillTimeout w).core = { w.core with
      priv := { w.priv with killTimeout := 0 }
      timers := if w.priv.killTimeout = 0 then w.timers
        else w.timers.filter fun t => t.id ≠ w.priv.killTimeout
      visible := w.visible ++
        if w.priv.killTimeout = 0 then [] else [.removeSource w.priv.killTimeout] } := by
  unfold clearKillTimeout
  by_cases hk : w.priv.killTimeout = 0
  · obtain ⟨priv, _, _, _, _, _, _, _⟩ := w
    obtain ⟨_, _, _, _, _⟩ := priv
    cases hk
    simp [World.core, World.visible]
  · simp [hk, World.setPriv, World.dropSource, World.core, World.emit, World.visible,
      Effect.auxiliary]

/-- After the exit of a child no child is tracked, the TUN device is released and no kill timeout
is recorded, whichever child it was. -/
theorem openconnectWatchCb_core (status : Nat) (a : ExitAnswers) (w : World) :
    (openconnectWatchCb status a w).core = { w.core with
      priv := { quitPending := w.priv.quitPending }
      timers := if w.priv.killTimeout = 0 then w.timers
        else w.timers.filter fun t => t.id ≠ w.priv.killTimeout
      tun := w.priv.tunName.elim w.tun fun n => destroyed w.tun n a.destroy
      libnm := if w.priv.disconnectRequested then w.libnm else nestedState w.libnm a.nested
      visible := w.visible ++ exitEffects status a w } := by
  have hcleared := clearKillTimeout_core (logExit status w)
  have hlog := logExit_core status w
  unfold openconnectWatchCb
  dsimp only
  generalize logExit status w = w₁ at hcleared hlog ⊢
  generalize clearKillTimeout w₁ = w₂ at hcleared ⊢
  have hreleased := releaseTun_core a
    (w₂.setPriv { w₂.priv with pid := 0, disconnectRequested := false })
  generalize releaseTun a _ = w₃ at hreleased ⊢
  have h : w₃.core = { w.core with
      priv := { quitPending := w.priv.quitPending }
      timers := if w.priv.killTimeout = 0 then w.timers
        else w.timers.filter fun t => t.id ≠ w.priv.killTimeout
      tun := w.priv.tunName.elim w.tun fun n => destroyed w.tun n a.destroy
      visible := w.visible ++
        if w.priv.killTimeout = 0 then [] else [.removeSource w.priv.killTimeout] } := by
    simp only [World.core_setPriv] at hreleased
    simp only [World.core, World.setPriv, Core.mk.injEq] at hlog hcleared hreleased ⊢
    simp [hreleased, hcleared, hlog]
  have hquit : w₃.priv.quitPending = w.priv.quitPending := congrArg (·.priv.quitPending) h
  have hloop : w₃.gl.loop = w.gl.loop := congrArg Core.loop h
  have hpid : w₃.priv.pid = 0 := congrArg (·.priv.pid) h
  have hlibnm : w₃.libnm = w.libnm := congrArg Core.libnm h
  have hvisible : w₃.visible = w.visible ++
      if w.priv.killTimeout = 0 then [] else [.removeSource w.priv.killTimeout] :=
    congrArg Core.visible h
  unfold exitEffects
  simp only [hquit, hloop]
  cases w.priv.disconnectRequested with
  | true =>
    cases w.priv.quitPending && w.gl.loop with
    | true => simp [World.core_emit, Effect.auxiliary, h, hvisible]
    | false => simp [h]
  | false =>
    have hnested := nested_core a.nested (w := w₃.emit (exitReport status)) hpid
    have hlibnm' : (w₃.emit (exitReport status)).libnm = w.libnm := hlibnm
    simp only [Bool.false_eq_true, if_false]
    rw [hnested, World.core_emit, h, World.visible_emit, exitReport_visible, hvisible, hlibnm']
    simp

/-- `real_need_secrets` changes nothing of the service. -/
theorem realNeedSecrets_core (connection : NMConnection) (bus : BusAnswers) (w : World) :
    (realNeedSecrets connection bus w).2.core = w.core := by
  unfold realNeedSecrets
  cases connection.settingVpn with
  | none => rfl
  | some s_vpn =>
    dsimp only
    cases validateAuthSecretFlags s_vpn with
    | some error => rfl
    | none =>
      dsimp only
      have hdeact := fun name => (deactivateAssumedTunConnection_spec name bus w).core_eq
      split_ifs <;> first | exact hdeact _ | rfl

/-! ## Steps that keep the session -/

/-- The tracked child, the children and the TUN devices are as they were. -/
def World.SameSession (w w' : World) : Prop :=
  w'.priv.pid = w.priv.pid ∧ w'.priv.tunName = w.priv.tunName ∧ w'.children = w.children ∧
    w'.tun = w.tun

theorem World.SameSession.of_core {w w' : World} (hpid : w'.core.priv.pid = w.priv.pid)
    (hname : w'.core.priv.tunName = w.priv.tunName) (hchildren : w'.core.children = w.children)
    (htun : w'.core.tun = w.tun) : w.SameSession w' :=
  ⟨hpid, hname, hchildren, htun⟩

theorem realDisconnect_same (groupKilled : Bool) (w : World) :
    w.SameSession (realDisconnect groupKilled w) := by
  by_cases h : w.priv.pid = 0
  · rw [realDisconnect_idle h]
    exact ⟨rfl, rfl, rfl, rfl⟩
  · apply World.SameSession.of_core <;> rw [realDisconnect_core h] <;> rfl

theorem quitMainloop_same (groupKilled : Bool) (w : World) :
    w.SameSession (quitMainloop groupKilled w) := by
  by_cases h : w.priv.pid = 0
  · rw [quitMainloop_idle h]
    exact ⟨rfl, rfl, rfl, rfl⟩
  · rw [quitMainloop_tracked h]
    split
    · exact ⟨rfl, rfl, rfl, rfl⟩
    · exact realDisconnect_same groupKilled (w.setPriv { w.priv with quitPending := true })

/-- Neither a Connect nor the exit of a child. -/
def Event.quiet : Event → Bool
  | .connect .. | .childExit .. => false
  | _ => true

/-- Beside a Connect and a child's exit, no event touches the session. -/
theorem Event.step_same {w : World} {e : Event} (h : e.quiet = true) :
    w.SameSession (e.step w) := by
  cases e with
  | connect | childExit => cases h
  | needSecrets connection bus =>
    apply World.SameSession.of_core <;> rw [Event.step, realNeedSecrets_core] <;> rfl
  | disconnect groupKilled => exact realDisconnect_same groupKilled w
  | quit groupKilled => exact quitMainloop_same groupKilled w
  | killTimeout id a =>
    apply World.SameSession.of_core <;> rw [Event.step, ensureKilled_core] <;> rfl
  | libnmState s => exact ⟨rfl, rfl, rfl, rfl⟩
  | unixSignal => exact ⟨rfl, rfl, rfl, rfl⟩

/-! ## Pending kill timeouts -/

/-- A pending kill timeout is the one that `priv` records. -/
def World.TimersRecorded (w : World) : Prop :=
  ∀ t ∈ w.timers, t.id = w.priv.killTimeout ∧ t.id ≠ 0

theorem World.TimersRecorded.eq_nil {w : World} (h : w.TimersRecorded)
    (hkill : w.priv.killTimeout = 0) : w.timers = [] := by
  rw [List.eq_nil_iff_forall_not_mem]
  intro t ht
  exact (h t ht).2 ((h t ht).1.trans hkill)

/-- `real_disconnect` arms a kill timeout for the tracked child, unless one is pending. -/
theorem realDisconnect_timers {groupKilled : Bool} {w : World} (hpid : w.priv.pid ≠ 0)
    (h : w.TimersRecorded) :
    ((realDisconnect groupKilled w).timers =
          [⟨(realDisconnect groupKilled w).priv.killTimeout, w.priv.pid⟩] ∧
        (realDisconnect groupKilled w).priv.killTimeout ≠ 0) ∨
      ((realDisconnect groupKilled w).timers = w.timers ∧
        (realDisconnect groupKilled w).priv.killTimeout = w.priv.killTimeout) := by
  have hcore := @realDisconnect_core groupKilled w hpid
  have htimers := congrArg Core.timers hcore
  have htimeout := congrArg (·.priv.killTimeout) hcore
  by_cases hkill : w.priv.killTimeout = 0
  · simp only [World.core_timers, World.core_priv, hkill, h.eq_nil hkill, if_true]
      at htimers htimeout
    exact .inl ⟨by rw [htimers, htimeout]; rfl, by rw [htimeout]; simp⟩
  · simp only [World.core_timers, World.core_priv, hkill, if_false, List.append_nil]
      at htimers htimeout
    exact .inr ⟨htimers, htimeout⟩

/-- A recorded kill timeout that fires was the only one. -/
theorem killTimeout_timers {w : World} {id : Nat} {a : ProbeAnswers} (h : w.TimersRecorded)
    (henabled : Event.enabled w (.killTimeout id a)) :
    id = w.priv.killTimeout ∧ id ≠ 0 ∧ (Event.step w (.killTimeout id a)).timers = [] := by
  obtain ⟨t, ht, rfl⟩ := henabled
  have htimers : (Event.step w (.killTimeout t.id a)).timers =
      w.timers.filter fun t' => t'.id ≠ t.id :=
    congrArg Core.timers (ensureKilled_core a (w.dropSource t.id))
  refine ⟨(h t ht).1, (h t ht).2, ?_⟩
  rw [htimers, List.filter_eq_nil_iff]
  intro t' ht'
  simp [(h t' ht').1, (h t ht).1]

/-- The exit of a child leaves no recorded kill timeout pending. -/
theorem childExit_timers {w : World} (h : w.TimersRecorded) (pid : GPid) (status : Nat)
    (a : ExitAnswers) : (Event.step w (.childExit pid status a)).timers = [] := by
  have htimers : (Event.step w (.childExit pid status a)).timers =
      if w.priv.killTimeout = 0 then w.timers
      else w.timers.filter fun t => t.id ≠ w.priv.killTimeout :=
    congrArg Core.timers (openconnectWatchCb_core status a (w.reap pid))
  rw [htimers]
  split_ifs with hkill
  · exact h.eq_nil hkill
  · rw [List.filter_eq_nil_iff]
    intro t ht
    simp [(h t ht).1]

end NmGpclient
