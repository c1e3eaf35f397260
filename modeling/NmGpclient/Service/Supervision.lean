import NmGpclient.Lib.Supervisor
import NmGpclient.Service.Effects
import NmGpclient.Service.Sessions
import NmGpclient.Service.Protocol
import NmGpclient.Service.Spawned

/-!
# The service is a supervisor of gpclient

What the service is for, said without its data: it runs one gpclient at a time, interrupts it when
libnm wants it gone, kills it at the deadline, reports an exit that nobody asked for and leaves the
main loop when told to, once the child is gone. That is a supervisor. Every callback is explained by
orders to it (`Event.orders`), and does what it does at them (`Event.Simulated`), in every run where
a Connect tracks a new child only when none is tracked and no Unix signal stops the loop. So the
effects of such a run, with the exits between them, come in the order a supervisor acts in, over any
number of sessions; and a quit signal is honoured exactly when the child is gone.
-/

namespace NmGpclient

/-- What the service reports of an exit: a failure, or that it is disconnected. -/
abbrev Report := Option NMVpnPluginFailure

/-- The act of a supervisor that an effect is. SIGINT to the child alone is the second try of an
interrupt, where its group cannot be signalled. -/
def Effect.act : Effect → Option (Act Report)
  | .addChildWatch _ => some .opened
  | .kill (.group _) .sigint => some .interrupt
  | .kill _ .sigkill => some .kill
  | .failure reason => some (.report (some reason))
  | .pluginDisconnect => some (.report none)
  | .mainLoopQuit => some .leave
  | _ => none

/-- The acts of an event: the exit it is, and its effects. -/
def Event.acts (w : World) (e : Event) : List (Act Report) :=
  (if e.isExit then [.closed] else []) ++ (w.effects (e.step w)).filterMap Effect.act

/-- Where the service is with its child. -/
def World.phase (w : World) : Phase :=
  if w.priv.pid = 0 then .idle
  else if w.priv.disconnectRequested then .stopping (decide (w.priv.killTimeout ≠ 0))
  else .running

/-- The supervisor that a state stands for. -/
def World.supervisor (w : World) : Supervisor := ⟨w.phase, w.priv.quitPending⟩

/-- What would be reported of an exit. -/
def exitReported (status : Nat) : Report :=
  match exitError status with
  | 2 => some .loginFailed
  | 1 => some .connectFailed
  | _ => none

/-- A call of libnm back into the plugin is an order. -/
def LibnmCall.order : LibnmCall → Order Report
  | .disconnect _ => .stop
  | .quit _ => .leave

/-- The orders that an event is. -/
def Event.orders (w : World) : Event → List (Order Report)
  | .connect connection a =>
    match spawned connection a w.tun with
    | some (_, cookie) => if a.feeds cookie then [.start] else []
    | none => []
  | .disconnect _ => [.stop]
  | .quit _ => [.leave]
  | .killTimeout _ a => [.deadline (a.group || a.process)]
  | .childExit _ status a => .exit (exitReported status) ::
      if w.priv.disconnectRequested then [] else a.nested.map LibnmCall.order
  | .needSecrets .. | .libnmState _ | .unixSignal => []

/-- A Connect that tracks a new child finds none tracked, and no Unix signal stops the main loop. -/
def Event.Orderly (w : World) : Event → Prop
  | .unixSignal => False
  | e => e.StartsAlone w

instance (w : World) : DecidablePred (Event.Orderly w)
  | .connect connection a =>
      inferInstanceAs (Decidable (Event.StartsAlone w (.connect connection a)))
  | .unixSignal => .isFalse id
  | .needSecrets .. | .disconnect _ | .quit _ | .killTimeout .. | .childExit .. | .libnmState _ =>
      .isTrue trivial

/-- What the supervisor relies on: the sessions are apart, the kill timeout is that of a requested
disconnect, and the main loop is there. -/
structure Supervised (w : World) : Prop where
  apart : SessionsApart w
  requested : w.timers ≠ [] → w.priv.disconnectRequested = true
  loop : w.gl.loop = true

/-- An event does what the supervisor does at its orders. -/
structure Event.Simulated (w : World) (e : Event) : Prop where
  valid : (NmGpclient.supervisor Report).Valid w.supervisor (e.orders w)
  run : (NmGpclient.supervisor Report).run w.supervisor (e.orders w) = (e.step w).supervisor
  acts : e.acts w = (NmGpclient.supervisor Report).outputs Order.acts w.supervisor (e.orders w)

/-! ## Effects and acts -/

/-- The visible effects of a log that grew are appended. -/
theorem World.Grows.visible_eq {P : Effect → Prop} {w w' : World} (h : w.Grows P w') :
    w'.visible = w.visible ++ w.effects w' := by
  obtain ⟨es, htrace, -⟩ := h
  have hvisible : w'.visible = w.visible ++ es.filter fun e => !e.auxiliary := by
    rw [World.visible, htrace, List.filter_append, World.visible]
  rw [World.effects_of_visible hvisible, hvisible]

theorem Event.effects_act_of_visible {w : World} {e : Event} {es : List Effect}
    (h : (e.step w).visible = w.visible ++ es) :
    (w.effects (e.step w)).filterMap Effect.act = es.filterMap Effect.act := by
  rw [World.effects_of_visible h]

/-! ## Connect opens what it tracks -/

/-- The act of a Connect that returns. -/
def openedIf (started : Bool) : List (Act Report) := if started then [.opened] else []

/-- A launch opens a child exactly when it starts it. -/
theorem launchEffects_act (argv : List CStr) (envp : StrMap) (cookie : CStr) (a : ConnectAnswers) :
    (launchEffects argv envp cookie a).filterMap Effect.act = openedIf (a.starts cookie) := by
  have hfeed : (feedEffects cookie a).filterMap Effect.act = [] := by
    unfold feedEffects
    split <;> rfl
  unfold launchEffects ConnectAnswers.starts
  cases a.spawn with
  | error e => rfl
  | ok pid =>
    rw [List.filterMap_cons_none rfl, List.filterMap_append, hfeed, List.nil_append]
    cases a.feeds cookie <;> rfl

/-- A child is opened exactly by a Connect that returns `TRUE`. -/
theorem connect_acts (connection : NMConnection) (a : ConnectAnswers) (w : World) :
    Event.acts w (.connect connection a) =
      match (realConnect connection a (w.setLibnm .starting)).1 with
      | .returned ret _ => openedIf ret
      | .aborted => [] := by
  obtain ⟨es, hvisible, hshows⟩ := realConnect_shows connection a (w.setLibnm .starting)
  have hstep : (Event.step w (.connect connection a)).visible = w.visible ++ es := hvisible
  rw [Event.acts, Event.effects_act_of_visible hstep]
  generalize (realConnect connection a (w.setLibnm .starting)).1 = ret at hshows ⊢
  cases hshows with
  | aborted => rfl
  | refused => rfl
  | launched =>
    rw [launchEffects_act]
    rfl

/-! ## Each event -/

section
variable {w : World}

/-- An event that shows nothing and keeps what the supervisor sees is no order. -/
theorem Event.Simulated.silent {e : Event} (horders : e.orders w = []) (hexit : e.isExit = false)
    (hcore : (e.step w).core = { w.core with libnm := (e.step w).libnm }) : e.Simulated w := by
  have hvisible : (e.step w).visible = w.visible ++ [] :=
    (congrArg Core.visible hcore).trans (List.append_nil _).symm
  have hpriv : (e.step w).priv = w.priv := congrArg Core.priv hcore
  refine ⟨by rw [horders]; trivial, ?_, ?_⟩
  · rw [horders, Machine.run_nil, World.supervisor, World.supervisor, World.phase, World.phase,
      hpriv]
  · rw [horders, Event.acts, Event.effects_act_of_visible hvisible, hexit]
    rfl

theorem disconnectEffects_act (groupKilled : Bool) (w : World) :
    (disconnectEffects groupKilled w).filterMap Effect.act = [.interrupt] := by
  unfold disconnectEffects
  cases groupKilled <;> split_ifs <;> rfl

theorem killEffects_act (a : ProbeAnswers) {w : World} (hpid : w.priv.pid ≠ 0) :
    (killEffects a w).filterMap Effect.act = if a.group || a.process then [.kill] else [] := by
  obtain ⟨group, process⟩ := a
  unfold killEffects
  rw [if_neg hpid]
  cases group <;> cases process <;> rfl

/-- `real_disconnect` is a stop. -/
theorem realDisconnect_simulated (groupKilled : Bool) (w : World) :
    (realDisconnect groupKilled w).supervisor = Order.step (ρ := Report) w.supervisor .stop ∧
      ∃ es, (realDisconnect groupKilled w).visible = w.visible ++ es ∧
        es.filterMap Effect.act = Order.acts w.supervisor (.stop (ρ := Report)) := by
  by_cases hpid : w.priv.pid = 0
  · have hidle : w.phase = .idle := if_pos hpid
    rw [realDisconnect_idle hpid]
    exact ⟨by simp [Order.step, World.supervisor, hidle], [], (List.append_nil _).symm,
      by simp [Order.acts, World.supervisor, hidle]⟩
  · have hcore := @realDisconnect_core groupKilled w hpid
    have hpriv : (realDisconnect groupKilled w).priv = { w.priv with
        disconnectRequested := true
        killTimeout := if w.priv.killTimeout = 0 then w.nextSource + 1 else w.priv.killTimeout } :=
      congrArg Core.priv hcore
    have hphase : (realDisconnect groupKilled w).phase = .stopping true := by
      rw [World.phase, hpriv]
      simp only [if_neg hpid, if_true]
      split_ifs with hkill
      · simp
      · simp [hkill]
    have hstop : Order.step (ρ := Report) w.supervisor .stop =
        ⟨.stopping true, w.priv.quitPending⟩ ∧
        Order.acts w.supervisor (.stop (ρ := Report)) = [.interrupt] := by
      simp only [Order.step, Order.acts, World.supervisor, World.phase, if_neg hpid]
      cases w.priv.disconnectRequested <;> exact ⟨rfl, rfl⟩
    refine ⟨?_, disconnectEffects groupKilled w, congrArg Core.visible hcore, ?_⟩
    · rw [hstop.1, World.supervisor, hphase, hpriv]
    · rw [hstop.2, disconnectEffects_act]

/-- `quit_mainloop` is a leave. -/
theorem quitMainloop_simulated (groupKilled : Bool) (w : World) :
    (quitMainloop groupKilled w).supervisor = Order.step (ρ := Report) w.supervisor .leave ∧
      ∃ es, (quitMainloop groupKilled w).visible = w.visible ++ es ∧
        es.filterMap Effect.act = Order.acts w.supervisor (.leave (ρ := Report)) := by
  by_cases hpid : w.priv.pid = 0
  · have hidle : w.phase = .idle := if_pos hpid
    rw [quitMainloop_idle hpid]
    refine ⟨?_, [.mainLoopQuit], World.visible_emit _ _, ?_⟩
    · simp only [Order.step, World.supervisor, hidle]
      rw [show (w.emit .mainLoopQuit).phase = w.phase from rfl, hidle]
      rfl
    · simp [Order.acts, World.supervisor, hidle, Effect.act]
  · rw [quitMainloop_tracked hpid]
    cases hreq : w.priv.disconnectRequested with
    | true =>
      have hphase : w.phase = .stopping (decide (w.priv.killTimeout ≠ 0)) := by
        rw [World.phase, if_neg hpid, hreq, if_pos rfl]
      have hpending : (w.setPriv { w.priv with quitPending := true }).phase = w.phase := rfl
      rw [if_pos rfl]
      refine ⟨?_, [], (List.append_nil _).symm, ?_⟩
      · rw [World.supervisor, hpending, hphase]
        simp only [Order.step, World.supervisor, hphase]
        rfl
      · simp [Order.acts, World.supervisor, hphase]
    | false =>
      have hphase : w.phase = .running := by
        rw [World.phase, if_neg hpid, hreq, if_neg (by simp)]
      have hpending : (w.setPriv { w.priv with quitPending := true }).supervisor =
          ⟨.running, true⟩ := by
        rw [World.supervisor, show (w.setPriv { w.priv with quitPending := true }).phase = w.phase
          from rfl, hphase]
        rfl
      obtain ⟨hstop, es, hvisible, hacts⟩ := realDisconnect_simulated groupKilled
        (w.setPriv { w.priv with quitPending := true })
      rw [if_neg (by simp)]
      rw [hpending] at hstop hacts
      refine ⟨?_, es, hvisible, ?_⟩
      · rw [hstop]
        simp only [Order.step, World.supervisor, hphase]
      · rw [hacts]
        simp only [Order.acts, World.supervisor, hphase]

/-- The one order of an event that is no exit. -/
theorem Event.Simulated.single {e : Event} {o : Order Report} (horders : e.orders w = [o])
    (hexit : e.isExit = false) (henabled : o.enabled w.supervisor)
    (hstep : (e.step w).supervisor = o.step w.supervisor) {es : List Effect}
    (hvisible : (e.step w).visible = w.visible ++ es)
    (hacts : es.filterMap Effect.act = o.acts w.supervisor) : e.Simulated w := by
  refine ⟨by rw [horders]; exact ⟨henabled, trivial⟩, by rw [horders]; exact hstep.symm, ?_⟩
  rw [horders, Event.acts, Event.effects_act_of_visible hvisible, hexit, hacts]
  exact (List.append_nil _).symm

/-- libnm's calls back while no child is tracked are orders to an idle supervisor. -/
theorem nested_orders (calls : List LibnmCall) (leaving : Bool) :
    (supervisor Report).Valid ⟨.idle, leaving⟩ (calls.map LibnmCall.order) ∧
      (supervisor Report).run ⟨.idle, leaving⟩ (calls.map LibnmCall.order) = ⟨.idle, leaving⟩ ∧
      (supervisor Report).outputs Order.acts ⟨.idle, leaving⟩ (calls.map LibnmCall.order) =
        (nestedEffects calls).filterMap Effect.act := by
  induction calls with
  | nil => exact ⟨trivial, rfl, rfl⟩
  | cons call calls ih =>
    obtain ⟨hvalid, hrun, hacts⟩ := ih
    cases call with
    | disconnect groupKilled => exact ⟨⟨trivial, hvalid⟩, hrun, hacts⟩
    | quit groupKilled => exact ⟨⟨trivial, hvalid⟩, hrun, congrArg _ hacts⟩

theorem exitReport_act (status : Nat) :
    (exitReport status).act = some (.report (exitReported status)) := by
  unfold exitReport exitReported
  rcases exitError status with _ | _ | _ | code <;> rfl

/-- The exit of the tracked child is an exit, and libnm's calls back are orders after it. -/
theorem childExit_simulated (hs : Supervised w) (pid : GPid) (status : Nat) (a : ExitAnswers)
    (henabled : Event.enabled w (.childExit pid status a)) :
    Event.Simulated w (.childExit pid status a) := by
  obtain ⟨c, hc, rfl, hwatched⟩ := henabled
  obtain ⟨hpid, hne⟩ := hs.apart.children c hc hwatched
  rw [hpid] at hne
  have hcore := openconnectWatchCb_core status a (w.reap c.pid)
  have hpriv : (Event.step w (.childExit c.pid status a)).priv =
      { quitPending := w.priv.quitPending } := congrArg Core.priv hcore
  have hvisible : (Event.step w (.childExit c.pid status a)).visible =
      w.visible ++ exitEffects status a w := congrArg Core.visible hcore
  have hidle : (Event.step w (.childExit c.pid status a)).supervisor =
      ⟨.idle, w.priv.quitPending⟩ := by
    rw [World.supervisor, World.phase, hpriv]
    rfl
  have hsource : (if w.priv.killTimeout = 0 then [] else
      [Effect.removeSource w.priv.killTimeout]).filterMap Effect.act = [] := by
    split_ifs <;> rfl
  obtain ⟨hnested, hrun, hacts⟩ := nested_orders a.nested w.priv.quitPending
  have hexit : Order.enabled w.supervisor (.exit (exitReported status)) := by
    simp only [Order.enabled, World.supervisor, World.phase, if_neg hne]
    split <;> simp
  have hshown : Event.acts w (.childExit c.pid status a) =
      .closed :: (exitEffects status a w).filterMap Effect.act := by
    rw [Event.acts, Event.effects_act_of_visible hvisible]
    rfl
  cases hreq : w.priv.disconnectRequested with
  | true =>
    have hphase : w.phase = .stopping (decide (w.priv.killTimeout ≠ 0)) := by
      rw [World.phase, if_neg hne, hreq, if_pos rfl]
    have horders : Event.orders w (.childExit c.pid status a) = [.exit (exitReported status)] := by
      rw [Event.orders, hreq, if_pos rfl]
    refine ⟨by rw [horders]; exact ⟨hexit, trivial⟩, by rw [horders, hidle]; rfl, ?_⟩
    rw [hshown, horders, exitEffects, List.filterMap_append, hsource, hreq, if_pos rfl,
      Machine.outputs_cons, Machine.outputs_nil]
    simp only [Order.acts, World.supervisor, hphase, hs.loop, Bool.and_true]
    cases w.priv.quitPending <;> rfl
  | false =>
    have hphase : w.phase = .running := by
      rw [World.phase, if_neg hne, hreq, if_neg (by simp)]
    have horders : Event.orders w (.childExit c.pid status a) =
        .exit (exitReported status) :: a.nested.map LibnmCall.order := by
      rw [Event.orders, hreq, if_neg (by simp)]
    refine ⟨by rw [horders]; exact ⟨hexit, hnested⟩, by rw [horders, hidle]; exact hrun, ?_⟩
    rw [hshown, horders, exitEffects, List.filterMap_append, hsource, hreq, if_neg (by simp),
      List.nil_append, List.filterMap_cons_some (exitReport_act status), ← hacts,
      Machine.outputs_cons]
    simp only [Order.acts, World.supervisor, hphase]
    rfl

/-- The pending kill timeout is a deadline. -/
theorem killTimeout_simulated (hs : Supervised w) (id : Nat) (a : ProbeAnswers)
    (henabled : Event.enabled w (.killTimeout id a)) : Event.Simulated w (.killTimeout id a) := by
  obtain ⟨t, ht, rfl⟩ := henabled
  obtain ⟨hid, hne, harmed, hpos⟩ := hs.apart.timers t ht
  have hpid : w.priv.pid ≠ 0 := harmed ▸ hpos
  have hreq := hs.requested (List.ne_nil_of_mem ht)
  have hphase : w.phase = .stopping true := by
    rw [World.phase, if_neg hpid, hreq, if_pos rfl]
    simp [← hid, hne]
  have hcore := ensureKilled_core a (w.dropSource t.id)
  have hpriv : (Event.step w (.killTimeout t.id a)).priv = { w.priv with killTimeout := 0 } :=
    congrArg Core.priv hcore
  refine .single (o := .deadline (a.group || a.process)) rfl rfl hphase ?_
    (congrArg Core.visible hcore) ?_
  · rw [World.supervisor, World.phase, hpriv]
    simp [hpid, hreq, Order.step, World.supervisor]
  · exact killEffects_act a hpid

/-- A Connect that tracks its child is a start, another is none. -/
theorem connect_simulated (connection : NMConnection) (a : ConnectAnswers)
    (henabled : Event.enabled w (.connect connection a))
    (halone : Event.StartsAlone w (.connect connection a)) :
    Event.Simulated w (.connect connection a) := by
  have hshown := connect_acts connection a w
  have hsame : ∀ priv' : Priv, (Event.step w (.connect connection a)).priv = priv' →
      priv'.pid = w.priv.pid → priv'.disconnectRequested = w.priv.disconnectRequested →
      priv'.killTimeout = w.priv.killTimeout → priv'.quitPending = w.priv.quitPending →
      w.supervisor = (Event.step w (.connect connection a)).supervisor := by
    intro priv' hpriv hpid hreq hkill hquit
    rw [World.supervisor, World.supervisor, World.phase, World.phase, hpriv, hpid, hreq, hkill,
      hquit]
  cases hspawn : spawned connection a w.tun with
  | none =>
    obtain ⟨hret, tunName, t, es, owner, group, hleft⟩ :=
      realConnect_of_not_spawned (w := w.setLibnm .starting) hspawn
    have horders : Event.orders w (.connect connection a) = [] := by rw [Event.orders, hspawn]
    have hpriv := congrArg World.priv hleft
    refine ⟨by rw [horders]; trivial, by rw [horders]; exact hsame _ hpriv rfl rfl rfl rfl, ?_⟩
    rw [hshown, horders]
    rcases hret with hret | ⟨error, hret⟩
    · rw [hret]
      rfl
    · rw [hret]
      rfl
  | some child =>
    obtain ⟨pid, cookie⟩ := child
    have hpos : pid ≠ 0 := (henabled.2 pid (spawn_of_spawned hspawn)).1
    rcases realConnect_of_spawned (w := w.setLibnm .starting) hspawn with
      ⟨hfeed, hret, tunName, t, es, owner, group, hleft⟩ |
      ⟨hfeed, hret, tunName, t, stdin, es, owner, group, hleft⟩
    · have hpid : w.priv.pid = 0 := halone (pid, cookie) hspawn hfeed
      have hidle : w.phase = .idle := if_pos hpid
      have horders : Event.orders w (.connect connection a) = [.start] := by
        simp only [Event.orders, hspawn, hfeed, if_true]
      have hpriv : (Event.step w (.connect connection a)).priv =
          { w.priv with tunName := tunName, pid := pid, disconnectRequested := false } :=
        congrArg World.priv hleft
      have hrunning : (Event.step w (.connect connection a)).phase = .running := by
        rw [World.phase, hpriv]
        simp [hpos]
      refine ⟨by rw [horders]; exact ⟨hidle, trivial⟩, ?_, ?_⟩
      · rw [horders, World.supervisor, World.supervisor, hrunning, hpriv]
        rfl
      · rw [hshown, horders, hret]
        rfl
    · have horders : Event.orders w (.connect connection a) = [] := by
        simp [Event.orders, hspawn, hfeed]
      have hpriv := congrArg World.priv hleft
      refine ⟨by rw [horders]; trivial, by rw [horders]; exact hsame _ hpriv rfl rfl rfl rfl, ?_⟩
      rw [hshown, horders, hret]
      rfl

/-- What an orderly event does, the supervisor does at its orders. -/
theorem Event.simulated (hs : Supervised w) {e : Event} (henabled : service.enabled w e)
    (horderly : e.Orderly w) : e.Simulated w := by
  cases e with
  | connect connection a => exact connect_simulated connection a henabled horderly
  | needSecrets connection bus =>
    have hcore := realNeedSecrets_core connection bus w
    have hlibnm : (Event.step w (.needSecrets connection bus)).libnm = w.libnm :=
      congrArg Core.libnm hcore
    refine .silent rfl rfl ?_
    rw [hlibnm]
    exact hcore
  | disconnect groupKilled =>
    obtain ⟨hstep, es, hvisible, hacts⟩ := realDisconnect_simulated groupKilled w
    exact .single rfl rfl trivial hstep hvisible hacts
  | quit groupKilled =>
    obtain ⟨hstep, es, hvisible, hacts⟩ := quitMainloop_simulated groupKilled w
    exact .single rfl rfl trivial hstep hvisible hacts
  | killTimeout id a => exact killTimeout_simulated hs id a henabled
  | childExit pid status a => exact childExit_simulated hs pid status a henabled
  | libnmState state => exact .silent rfl rfl rfl
  | unixSignal => exact horderly.elim

/-! ## What the supervisor relies on -/

theorem Supervised.start (tun : TunTable IfName) : Supervised (.start tun) where
  apart := .start tun
  requested := absurd rfl
  loop := rfl

theorem Supervised.realDisconnect (hs : Supervised w) (groupKilled : Bool) :
    Supervised (realDisconnect groupKilled w) := by
  by_cases hpid : w.priv.pid = 0
  · rw [realDisconnect_idle hpid]
    exact hs
  · have hcore := @realDisconnect_core groupKilled w hpid
    exact ⟨hs.apart.realDisconnect groupKilled,
      fun _ => congrArg (·.priv.disconnectRequested) hcore,
      (congrArg Core.loop hcore : _).trans hs.loop⟩

theorem Supervised.quitMainloop (hs : Supervised w) (groupKilled : Bool) :
    Supervised (quitMainloop groupKilled w) := by
  have hpending : Supervised (w.setPriv { w.priv with quitPending := true }) :=
    ⟨hs.apart.congr rfl rfl rfl rfl, hs.requested, hs.loop⟩
  by_cases hpid : w.priv.pid = 0
  · rw [quitMainloop_idle hpid]
    exact ⟨hs.apart.congr rfl rfl rfl rfl, hs.requested, hs.loop⟩
  · rw [quitMainloop_tracked hpid]
    split
    · exact hpending
    · exact hpending.realDisconnect groupKilled

/-- A Connect leaves the loop, and a kill timeout where it was. -/
theorem Supervised.connect (hs : Supervised w) {connection : NMConnection} {a : ConnectAnswers}
    (henabled : Event.enabled w (.connect connection a))
    (halone : Event.StartsAlone w (.connect connection a)) :
    Supervised (Event.step w (.connect connection a)) := by
  refine ⟨hs.apart.connect henabled halone, ?_, ?_⟩ <;>
    cases hspawn : spawned connection a w.tun with
    | none =>
      obtain ⟨-, tunName, t, es, owner, group, hleft⟩ :=
        realConnect_of_not_spawned (w := w.setLibnm .starting) hspawn
      rw [Event.step, hleft]
      first | exact hs.requested | exact hs.loop
    | some child =>
      rcases realConnect_of_spawned (w := w.setLibnm .starting) hspawn with
        ⟨hfeed, -, tunName, t, es, owner, group, hleft⟩ |
        ⟨-, -, tunName, t, stdin, es, owner, group, hleft⟩
      · rw [Event.step, hleft]
        first
          | exact fun htimers => absurd (hs.apart.idle (halone child hspawn hfeed)).2 htimers
          | exact hs.loop
      · rw [Event.step, hleft]
        first | exact hs.requested | exact hs.loop

/-- An orderly event keeps what the supervisor relies on. -/
theorem Supervised.step (hs : Supervised w) {e : Event} (henabled : service.enabled w e)
    (horderly : e.Orderly w) : Supervised (service.step w e) := by
  cases e with
  | connect connection a => exact hs.connect henabled horderly
  | needSecrets connection bus =>
    have hcore := realNeedSecrets_core connection bus w
    refine ⟨sessionsApart_step w _ hs.apart ⟨henabled, trivial⟩, ?_,
      (congrArg Core.loop hcore : _).trans hs.loop⟩
    rw [show (service.step w (.needSecrets connection bus)).timers = w.timers from
        congrArg Core.timers hcore,
      show (service.step w (.needSecrets connection bus)).priv = w.priv from
        congrArg Core.priv hcore]
    exact hs.requested
  | disconnect groupKilled =>
    have h := hs.realDisconnect groupKilled
    exact ⟨h.apart.congr rfl rfl rfl rfl, h.requested, h.loop⟩
  | quit groupKilled => exact hs.quitMainloop groupKilled
  | killTimeout id a =>
    obtain ⟨-, -, hnone⟩ := killTimeout_timers (a := a) hs.apart.recorded henabled
    exact ⟨hs.apart.killTimeout a henabled, absurd hnone,
      (congrArg Core.loop (ensureKilled_core a (w.dropSource id)) : _).trans hs.loop⟩
  | childExit pid status a =>
    exact ⟨hs.apart.childExit status a henabled,
      absurd (childExit_timers hs.apart.recorded pid status a),
      (congrArg Core.loop (openconnectWatchCb_core status a (w.reap pid)) : _).trans hs.loop⟩
  | libnmState state => exact ⟨hs.apart.congr rfl rfl rfl rfl, hs.requested, hs.loop⟩
  | unixSignal => exact horderly.elim

end

/-! ## The service refines the supervisor -/

/-- The service refines a supervisor, along orderly runs. -/
def supervision : Machine.Simulation service (supervisor Report)
    (fun w e => service.enabled w e ∧ e.Orderly w) where
  R w s := Supervised w ∧ s = w.supervisor
  label := Event.orders
  valid := by
    rintro w s e ⟨hs, rfl⟩ ⟨henabled, horderly⟩
    exact (Event.simulated hs henabled horderly).valid
  step := by
    rintro w s e ⟨hs, rfl⟩ ⟨henabled, horderly⟩
    exact ⟨hs.step henabled horderly, (Event.simulated hs henabled horderly).run⟩

section
variable {w : World} {es : List Event} (hs : Supervised w)
  (h : service.AllSteps (fun w e => service.enabled w e ∧ e.Orderly w) w es)

include hs h

/-- A run of the service is one of the supervisor, which ends where the service does. -/
theorem supervised_run :
    (supervisor Report).Valid w.supervisor (service.outputs Event.orders w es) ∧
      Supervised (service.run w es) ∧ (supervisor Report).run w.supervisor
        (service.outputs Event.orders w es) = (service.run w es).supervisor := by
  obtain ⟨hvalid, hend, heq⟩ := supervision.run ⟨hs, rfl⟩ h
  exact ⟨hvalid, hend, heq⟩

/-- A run of the service does what the supervisor does at its orders. -/
theorem supervised_acts : service.outputs Event.acts w es =
    (supervisor Report).outputs Order.acts w.supervisor (service.outputs Event.orders w es) := by
  refine supervision.outputs ?_ ⟨hs, rfl⟩ h
  rintro w s e ⟨hs, rfl⟩ ⟨henabled, horderly⟩
  exact (Event.simulated hs henabled horderly).acts

end

/-- Along an orderly run from the start the service is a supervisor: its acts are those of the
supervisor that is given its events as orders, they come in the order a supervisor acts in, and they
stand where the service does with its child. -/
theorem service_supervised (tun : TunTable IfName) (es : List Event)
    (h : service.AllSteps (fun w e => service.enabled w e ∧ e.Orderly w) (.start tun) es) :
    (supervisor Report).Valid ⟨.idle, false⟩ (service.outputs Event.orders (.start tun) es) ∧
      (supervisor Report).run ⟨.idle, false⟩ (service.outputs Event.orders (.start tun) es) =
        (service.run (.start tun) es).supervisor ∧
      service.outputs Event.acts (.start tun) es = (supervisor Report).outputs Order.acts
        ⟨.idle, false⟩ (service.outputs Event.orders (.start tun) es) ∧
      ∃ st, Status.idle.follow (service.outputs Event.acts (.start tun) es) = some st ∧
        (service.run (.start tun) es).phase.Shown st := by
  have hstart : (World.start tun).supervisor = ⟨.idle, false⟩ := rfl
  obtain ⟨hvalid, -, hrun⟩ := supervised_run (.start tun) h
  have hacts := supervised_acts (.start tun) h
  rw [hstart] at hvalid hrun hacts
  have hshown : (Supervisor.mk .idle false).phase.Shown .idle := .idle
  obtain ⟨st, hfollow, hend⟩ := supervisor_follows hshown hvalid
  rw [← hacts] at hfollow
  rw [hrun] at hend
  exact ⟨hvalid, hrun, hacts, st, hfollow, hend⟩

theorem service_supervised_oneSession : ∃ st, Status.idle.follow
      (service.outputs Event.acts (.start noDevices) oneSession) = some st ∧
    (service.run (.start noDevices) oneSession).phase.Shown st :=
  (service_supervised noDevices oneSession (by decide +kernel)).2.2.2

example : service.outputs Event.acts (.start noDevices) oneSession =
    [.opened, .interrupt, .closed] := by
  decide +kernel

/-! ## Quitting -/

/-- What a run adds to the log is what its events add. -/
theorem effects_run (w : World) (es : List Event) :
    w.effects (service.run w es) = service.outputs (fun w e => w.effects (e.step w)) w es := by
  have hvisible : (service.run w es).visible =
      w.visible ++ service.outputs (fun w e => w.effects (e.step w)) w es := by
    induction es generalizing w with
    | nil => exact (List.append_nil _).symm
    | cons e es ih =>
      rw [service.run_cons, Machine.outputs_cons, ih, ← List.append_assoc]
      exact congrArg (· ++ _) (Event.step_grows w e).visible_eq
  exact World.effects_of_visible hvisible

/-- The main loop is stopped in a run exactly when the supervisor leaves. -/
theorem mainLoopQuit_mem_effects (w : World) (es : List Event) :
    .mainLoopQuit ∈ w.effects (service.run w es) ↔ .leave ∈ service.outputs Event.acts w es := by
  have heffect : ∀ effect : Effect, effect.act = some .leave ↔ effect = .mainLoopQuit := by
    intro effect
    cases effect with
    | kill target signal => cases target <;> cases signal <;> simp [Effect.act]
    | _ => simp [Effect.act]
  rw [effects_run]
  induction es generalizing w with
  | nil => simp
  | cons e es ih =>
    rw [Machine.outputs_cons, Machine.outputs_cons, List.mem_append, List.mem_append]
    refine or_congr ?_ (ih (service.step w e))
    have hclosed : .leave ∉ (if e.isExit then [.closed] else [] : List (Act Report)) := by
      split <;> simp
    simp only [Event.acts, List.mem_append, hclosed, false_or, List.mem_filterMap, heffect,
      exists_eq_right]

/-- The exits among the orders are the exits among the events. -/
theorem exists_exit_orders (w : World) (es : List Event) :
    (∃ o ∈ service.outputs Event.orders w es, o.isExit = true) ↔ ∃ e ∈ es, e.isExit = true := by
  have hevent : ∀ (w : World) (e : Event), (∃ o ∈ e.orders w, o.isExit = true) ↔ e.isExit = true := by
    intro w e
    cases e with
    | connect connection a =>
      simp only [Event.orders, Event.isExit, Bool.false_eq_true, iff_false]
      rintro ⟨o, ho, hexit⟩
      split at ho
      · split at ho
        · rw [List.mem_singleton.1 ho] at hexit
          cases hexit
        · cases ho
      · cases ho
    | childExit pid status a => exact iff_of_true ⟨_, .head _, rfl⟩ rfl
    | _ => simp [Event.orders, Event.isExit, Order.isExit]
  induction es generalizing w with
  | nil => simp
  | cons e es ih =>
    rw [Machine.outputs_cons, List.exists_mem_cons_iff]
    simp only [List.mem_append, or_and_right, exists_or]
    exact or_congr (hevent w e) (ih (service.step w e))

/-- A quit signal in an orderly run has stopped the main loop exactly when no child was tracked, or
the exit of one was handled since. -/
theorem quit_stops_iff (tun : TunTable IfName) (pre post : List Event) (groupKilled : Bool)
    (h : service.AllSteps (fun w e => service.enabled w e ∧ e.Orderly w) (.start tun)
      (pre ++ .quit groupKilled :: post)) :
    .mainLoopQuit ∈ (service.run (.start tun) pre).effects
        (service.run (.start tun) (pre ++ .quit groupKilled :: post)) ↔
      (service.run (.start tun) pre).priv.pid = 0 ∨ ∃ e ∈ post, e.isExit = true := by
  obtain ⟨hpre, hpost⟩ := service.allSteps_append.1 h
  obtain ⟨-, hs, -⟩ := supervised_run (.start tun) hpre
  rw [service.run_append]
  generalize service.run (.start tun) pre = w at hs hpost ⊢
  obtain ⟨hvalid, -⟩ := supervised_run hs hpost
  have horders : service.outputs Event.orders w (.quit groupKilled :: post) =
      .leave :: service.outputs Event.orders (service.step w (.quit groupKilled)) post := rfl
  have hidle : w.supervisor.phase = .idle ↔ w.priv.pid = 0 := by
    unfold World.supervisor World.phase
    split_ifs with hpid <;> simp [hpid]
  rw [horders] at hvalid
  rw [mainLoopQuit_mem_effects, supervised_acts hs hpost, horders, supervisor_leaves_iff hvalid,
    hidle, exists_exit_orders]

theorem quit_stops_oneSession : .mainLoopQuit ∈
    (service.run (.start noDevices) [.connect directProfile startAnswers]).effects
      (service.run (.start noDevices) ([.connect directProfile startAnswers] ++
        [.quit true, .childExit 100 0 quietExit])) :=
  (quit_stops_iff noDevices [.connect directProfile startAnswers] [.childExit 100 0 quietExit] true
    (by decide +kernel)).2 (.inr ⟨_, .head _, rfl⟩)

end NmGpclient
