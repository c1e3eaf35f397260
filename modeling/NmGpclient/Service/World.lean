import Mathlib.Tactic.Simps.Basic
import NmGpclient.CommandLine
import NmGpclient.Lib.TunDriver

/-!
# The state of the service

What a callback of the plugin reads and changes: the private data of the plugin
(`NMOpenconnectPluginPrivate`), the global data (`gl`), the children it has spawned and that are
not reaped, the kill timeouts pending in the main loop, the TUN devices of the host, and libnm's
own state. `trace` records, in order, every call a callback makes on its surroundings.

`Child.stdin` holds the bytes the service has written to the child, `Timer.armedFor` the child the
plugin tracked when the timeout was added: the code keeps neither, they are what the results speak
about.
-/

namespace NmGpclient

/-- `NMOpenconnectPluginPrivate`. -/
structure Priv where
  pid : GPid := 0
  tunName : Option IfName := none
  disconnectRequested : Bool := false
  quitPending : Bool := false
  killTimeout : Nat := 0
deriving DecidableEq

/-- The global data of the service; `loop` is whether `gl.loop` is set. -/
structure Gl where
  tunOwner : Nat := 0
  tunGroup : Nat := 0
  logLevel : Nat := logNotice
  loop : Bool := true
deriving DecidableEq

/-- A gpclient child that was spawned and not reaped; `watched` when a child watch is attached. -/
structure Child where
  pid : GPid
  stdin : List UInt8
  watched : Bool
deriving DecidableEq, Repr

/-- A kill timeout pending in the main loop. -/
structure Timer where
  id : Nat
  armedFor : GPid
deriving DecidableEq, Repr

/-- `NMVpnServiceState`. -/
inductive NMVpnServiceState where
  | init
  | shutdown
  | starting
  | started
  | stopping
  | stopped
deriving DecidableEq, Repr

/-- The reasons the plugin reports for a failure. -/
inductive NMVpnPluginFailure where
  | loginFailed
  | connectFailed
deriving DecidableEq, Repr

/-- What a callback does to its surroundings. -/
inductive Effect where
  | connectionDump
  | spawnSync (argv : List CStr)
  | getpwnam (name : CStr)
  | openTun
  | tunsetiff (n : IfName)
  | tunsetowner (n : IfName) (uid : Nat)
  | tunsetpersist (n : IfName) (on : Bool)
  | closeTun
  | testLock
  | readLock
  | readComm (pid : GPid)
  | unlinkLock
  | spawn (argv : List CStr) (envp : StrMap)
  | write (bytes : List UInt8)
  | closeStdin
  | addChildWatch (pid : GPid)
  | addTimeout (id : Nat)
  | removeSource (id : Nat)
  | kill (target : KillTarget) (signal : Signal)
  | readProperty (path property : CStr)
  | deactivateConnection (path : CStr)
  | failure (reason : NMVpnPluginFailure)
  | pluginDisconnect
  | mainLoopQuit
  | pluginNew (busName : CStr) (watchPeer : Bool)
  | log (level : Nat) (line : CStr)
deriving DecidableEq

/-- The effects that neither start nor signal a child, report to libnm, nor touch the main loop:
those on the accounts, the TUN devices, the lock file, the bus and the log, and the making of the
plugin. -/
def Effect.auxiliary : Effect → Bool
  | .spawn .. | .write _ | .closeStdin | .addChildWatch _ | .addTimeout _ | .removeSource _
  | .failure _ | .pluginDisconnect | .mainLoopQuit => false
  | .kill _ signal => signal == .null
  | _ => true

/-- The state of the service and of what it holds. -/
structure World where
  priv : Priv
  gl : Gl
  children : List Child
  timers : List Timer
  nextSource : Nat
  tun : TunTable IfName
  libnm : NMVpnServiceState
  trace : List Effect

namespace World

/-- The service after `main` has set it up, on a host with the devices `tun`. -/
def start (tun : TunTable IfName) : World where
  priv := {}
  gl := {}
  children := []
  timers := []
  nextSource := 0
  tun := tun
  libnm := .init
  trace := []

variable (w : World)

/-- An effect is recorded. -/
def emit (e : Effect) : World := { w with trace := w.trace ++ [e] }

/-- A line is logged, when the log level admits it. -/
def log (level : Nat) (line : CStr) : World :=
  if level ≤ w.gl.logLevel then w.emit (.log level line) else w

/-- `priv->tun_name` is set. -/
def setTunName (n : Option IfName) : World := { w with priv := { w.priv with tunName := n } }

/-- The devices of the host change. -/
def setTun (t : TunTable IfName) : World := { w with tun := t }

/-- `gl.tun_owner` and `gl.tun_group` are set. -/
def setTunOwner (pw : Passwd) : World :=
  { w with gl := { w.gl with tunOwner := pw.uid, tunGroup := pw.gid } }

@[simp] theorem emit_tun (e : Effect) : (w.emit e).tun = w.tun := rfl

@[simp] theorem setTun_tun (t : TunTable IfName) : (w.setTun t).tun = t := rfl

@[simp] theorem log_tun (level : Nat) (line : CStr) : (w.log level line).tun = w.tun := by
  unfold log
  split <;> rfl

/-- The children that no child watch reports on. -/
def unwatched : List Child := w.children.filter fun c => !c.watched

/-- The effects of the trace that are not auxiliary. -/
def visible : List Effect := w.trace.filter fun e => !e.auxiliary

/-- What a callback that took `w` to `w'` has visibly done: the trace only grows. -/
def effects (w' : World) : List Effect := w'.visible.drop w.visible.length

theorem effects_of_visible {w w' : World} {es : List Effect} (h : w'.visible = w.visible ++ es) :
    w.effects w' = es := by
  simp [effects, h]

/-- From `w` to `w'` only the devices changed, to `t`; the trace grew by auxiliary effects, and the
owner of the devices may have been looked up. -/
def OnlyTun (t : TunTable IfName) (w' : World) : Prop :=
  ∃ es owner group, (∀ e ∈ es, e.auxiliary = true) ∧ w' = { w with
    tun := t, trace := w.trace ++ es, gl := { w.gl with tunOwner := owner, tunGroup := group } }

variable {w}

theorem OnlyTun.refl : w.OnlyTun w.tun w :=
  ⟨[], w.gl.tunOwner, w.gl.tunGroup, by simp, by simp⟩

theorem OnlyTun.trans {t t' : TunTable IfName} {w' w'' : World} (h : w.OnlyTun t w')
    (h' : w'.OnlyTun t' w'') : w.OnlyTun t' w'' := by
  obtain ⟨es, o, g, hes, rfl⟩ := h
  obtain ⟨es', o', g', hes', rfl⟩ := h'
  refine ⟨es ++ es', o', g', fun e he => ?_, by simp⟩
  exact (List.mem_append.1 he).elim (hes e) (hes' e)

theorem OnlyTun.emit {t : TunTable IfName} {w' : World} (h : w.OnlyTun t w') (e : Effect)
    (he : e.auxiliary = true := by rfl) : w.OnlyTun t (w'.emit e) :=
  h.trans ⟨[e], w'.gl.tunOwner, w'.gl.tunGroup, by simpa using he, by
    obtain ⟨_, _, _, _, rfl⟩ := h
    rfl⟩

theorem OnlyTun.log {t : TunTable IfName} {w' : World} (h : w.OnlyTun t w') (level : Nat)
    (line : CStr) : w.OnlyTun t (w'.log level line) := by
  unfold World.log
  split
  · exact h.emit _
  · exact h

theorem OnlyTun.setTun {t : TunTable IfName} {w' : World} (h : w.OnlyTun t w')
    (t' : TunTable IfName) : w.OnlyTun t' (w'.setTun t') := by
  obtain ⟨es, o, g, hes, rfl⟩ := h
  exact ⟨es, o, g, hes, rfl⟩

theorem OnlyTun.setTunOwner {t : TunTable IfName} {w' : World} (h : w.OnlyTun t w')
    (pw : Passwd) : w.OnlyTun t (w'.setTunOwner pw) := by
  obtain ⟨es, _, _, hes, rfl⟩ := h
  exact ⟨es, pw.uid, pw.gid, hes, rfl⟩

theorem OnlyTun.tun_eq {t : TunTable IfName} {w' : World} (h : w.OnlyTun t w') : w'.tun = t := by
  obtain ⟨_, _, _, _, rfl⟩ := h
  rfl

theorem OnlyTun.priv_eq {t : TunTable IfName} {w' : World} (h : w.OnlyTun t w') :
    w'.priv = w.priv := by
  obtain ⟨_, _, _, _, rfl⟩ := h
  rfl

end World

/-! ## The state without its log

`Core` is the state as the protocol of the service sees it: without the log level, the owner of the
devices and the auxiliary effects. Each function of the service has an equation for the core it
leaves. -/

/-- The state of the service without its log. -/
structure Core where
  priv : Priv
  loop : Bool
  children : List Child
  timers : List Timer
  nextSource : Nat
  tun : TunTable IfName
  libnm : NMVpnServiceState
  visible : List Effect

namespace World

/-- What a state is to the protocol. -/
@[simps] def core (w : World) : Core where
  priv := w.priv
  loop := w.gl.loop
  children := w.children
  timers := w.timers
  nextSource := w.nextSource
  tun := w.tun
  libnm := w.libnm
  visible := w.visible

theorem core_emit (w : World) (e : Effect) :
    (w.emit e).core =
      { w.core with visible := w.visible ++ if e.auxiliary then [] else [e] } := by
  simp only [core, emit, visible, List.filter_append]
  cases h : e.auxiliary <;> simp [h]

theorem visible_emit (w : World) (e : Effect) :
    (w.emit e).visible = w.visible ++ if e.auxiliary then [] else [e] :=
  congrArg Core.visible (w.core_emit e)

@[simp] theorem core_log (w : World) (level : Nat) (line : CStr) :
    (w.log level line).core = w.core := by
  unfold log
  split
  · rw [core_emit]
    simp [Effect.auxiliary, core]
  · rfl

@[simp] theorem core_setTunName (w : World) (n : Option IfName) :
    (w.setTunName n).core = { w.core with priv := { w.priv with tunName := n } } := rfl

/-- A change of the devices alone is one of the core's devices. -/
theorem OnlyTun.core_eq {w w' : World} {t : TunTable IfName} (h : w.OnlyTun t w') :
    w'.core = { w.core with tun := t } := by
  obtain ⟨es, owner, group, hes, rfl⟩ := h
  have hnone : es.filter (fun e => !e.auxiliary) = [] := by
    rw [List.filter_eq_nil_iff]
    intro e he
    simp [hes e he]
  simp [core, visible, hnone]

end World

end NmGpclient
