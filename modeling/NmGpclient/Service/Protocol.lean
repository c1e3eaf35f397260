import NmGpclient.Service.Children

/-!
# The disconnect protocol

One session, from the moment its child is tracked to the next Connect: Disconnects, quit signals,
the kill timeout and the exit of the child arrive in any order and number. A session is live until
the exit of its child is handled and dead afterwards (`Live`, `Dead`); each event has one lemma for
each phase, and `session_phase` carries them along a run.
-/

namespace NmGpclient

/-! ## The events of a session -/

/-- The events between the start of the session of `p` and the next Connect. -/
def Event.inSession (p : GPid) : Event → Prop
  | .connect .. | .unixSignal => False
  | .childExit q _ _ => q = p
  | _ => True

/-- A Disconnect or a quit signal. -/
def Event.requests : Event → Bool
  | .disconnect _ | .quit _ => true
  | _ => false

/-- The exit of a child. -/
def Event.isExit : Event → Bool
  | .childExit .. => true
  | _ => false

/-- A report to libnm: a failure, or a disconnect of the plugin's own. -/
def Effect.isReport : Effect → Bool
  | .failure _ | .pluginDisconnect => true
  | _ => false

/-- The reports among some effects. -/
def reports (es : List Effect) : List Effect := es.filter Effect.isReport

@[simp] theorem reports_append (es es' : List Effect) :
    reports (es ++ es') = reports es ++ reports es' := List.filter_append ..

/-- What is reported for the exit of a child that nobody asked for: a failure for the codes 1 and 2
of a normal exit, a disconnect otherwise. -/
def unrequestedReport (status : Nat) : Effect :=
  if wifexited status ∧ wexitstatus status = 1 then .failure .connectFailed
  else if wifexited status ∧ wexitstatus status = 2 then .failure .loginFailed
  else .pluginDisconnect

theorem exitReport_eq (status : Nat) : exitReport status = unrequestedReport status := by
  unfold exitReport unrequestedReport exitError
  cases wifexited status with
  | false => simp
  | true =>
    simp only [if_true, true_and]
    split
    next h => simp [h]
    next h => simp [h]
    next h₂ h₁ => rw [if_neg h₁, if_neg h₂]

/-- A child is tracked whose disconnect nobody has asked for, with no kill timeout and no pending
quit. -/
structure SessionStart (p : GPid) (w : World) : Prop where
  pid : w.priv.pid = p
  ne_zero : p ≠ 0
  disconnectRequested : w.priv.disconnectRequested = false
  quitPending : w.priv.quitPending = false
  killTimeout : w.priv.killTimeout = 0
  timers : w.timers = []

/-! ## The two phases -/

/-- The exit of `p` is not handled; `requested` is whether a Disconnect or a quit came. -/
structure Live (p : GPid) (requested : Bool) (w : World) : Prop where
  pid : w.priv.pid = p
  ne_zero : p ≠ 0
  disconnectRequested : w.priv.disconnectRequested = requested
  armed : w.priv.killTimeout ≠ 0 → requested = true
  timers : w.TimersRecorded

/-- The exit of `p` is handled. -/
structure Dead (p : GPid) (w : World) : Prop where
  pid : w.priv.pid = 0
  killTimeout : w.priv.killTimeout = 0
  timers : w.timers = []
  reaped : ∀ c ∈ w.children, c.pid ≠ p

theorem SessionStart.live {p : GPid} {w : World} (h : SessionStart p w) : Live p false w where
  pid := h.pid
  ne_zero := h.ne_zero
  disconnectRequested := h.disconnectRequested
  armed := absurd h.killTimeout
  timers := by simp [World.TimersRecorded, h.timers]

section
variable {p : GPid} {requested : Bool} {w : World}

/-- Only the fields the phase speaks about matter. -/
theorem Live.congr {w' : World} (h : Live p requested w) (hpid : w'.priv.pid = w.priv.pid)
    (hreq : w'.priv.disconnectRequested = w.priv.disconnectRequested)
    (hkill : w'.priv.killTimeout = w.priv.killTimeout) (htimers : w'.timers = w.timers) :
    Live p requested w' where
  pid := hpid.trans h.pid
  ne_zero := h.ne_zero
  disconnectRequested := hreq.trans h.disconnectRequested
  armed := hkill ▸ h.armed
  timers := by
    unfold World.TimersRecorded
    rw [htimers, hkill]
    exact h.timers

/-- `real_disconnect` in a live session: only the child is interrupted. -/
theorem Live.realDisconnect (h : Live p requested w) (groupKilled : Bool) :
    Live p true (realDisconnect groupKilled w) ∧
      (realDisconnect groupKilled w).visible = w.visible ++ disconnectEffects groupKilled w := by
  have hpid : w.priv.pid ≠ 0 := h.pid ▸ h.ne_zero
  have hcore := @realDisconnect_core groupKilled w hpid
  refine ⟨⟨(realDisconnect_same groupKilled w).1.trans h.pid, h.ne_zero,
    congrArg (·.priv.disconnectRequested) hcore, fun _ => rfl, ?_⟩, congrArg Core.visible hcore⟩
  unfold World.TimersRecorded
  rcases @realDisconnect_timers groupKilled w hpid h.timers with
    ⟨htimers, hne⟩ | ⟨htimers, htimeout⟩
  · rw [htimers]
    simpa using hne
  · rw [htimers, htimeout]
    exact h.timers

/-- What an event that is not the exit does in a live session: it reports nothing, signals only the
child, and kills it only as the pending kill timeout. -/
structure LiveEffects (p : GPid) (w : World) (e : Event) (es : List Effect) : Prop where
  reports : reports es = []
  pid : ∀ target signal, .kill target signal ∈ es → target.pid = p
  sigkill : ∀ target, .kill target .sigkill ∈ es →
    ∃ id a, e = .killTimeout id a ∧ id = w.priv.killTimeout ∧ id ≠ 0

theorem LiveEffects.nil {e : Event} : LiveEffects p w e [] := ⟨rfl, by simp, by simp⟩

theorem mem_disconnectEffects {groupKilled : Bool} {effect : Effect}
    (h : effect ∈ disconnectEffects groupKilled w) :
    effect = .kill (.group w.priv.pid) .sigint ∨ effect = .kill (.process w.priv.pid) .sigint ∨
      effect = .addTimeout (w.nextSource + 1) := by
  unfold disconnectEffects at h
  split_ifs at h <;> simp at h <;> tauto

theorem Live.disconnectEffects (h : Live p requested w) (e : Event) (groupKilled : Bool) :
    LiveEffects p w e (disconnectEffects groupKilled w) where
  reports := by
    rw [NmGpclient.reports, List.filter_eq_nil_iff]
    intro effect heffect
    rcases mem_disconnectEffects heffect with rfl | rfl | rfl <;> simp [Effect.isReport]
  pid := by
    intro target signal htarget
    rcases mem_disconnectEffects htarget with heq | heq | heq
    · cases heq
      exact h.pid
    · cases heq
      exact h.pid
    · cases heq
  sigkill := by
    intro target htarget
    rcases mem_disconnectEffects htarget with heq | heq | heq <;> cases heq

/-- The pending kill timeout of a live session kills the child. -/
theorem Live.killEffects (h : Live p requested w) {id : Nat} {a : ProbeAnswers}
    (henabled : Event.enabled w (.killTimeout id a)) :
    LiveEffects p w (.killTimeout id a) (killEffects a w) where
  reports := by
    rw [NmGpclient.reports, List.filter_eq_nil_iff]
    intro effect heffect
    rcases mem_killEffects heffect with rfl | rfl <;> simp [Effect.isReport]
  pid := by
    intro target signal htarget
    rcases mem_killEffects htarget with heq | heq
    · cases heq
      exact h.pid
    · cases heq
      exact h.pid
  sigkill := by
    intro target _
    obtain ⟨hid, hne, -⟩ := killTimeout_timers h.timers henabled
    exact ⟨id, a, rfl, hid, hne⟩

/-- An event of a live session that is not the exit. -/
theorem Live.step (h : Live p requested w) {e : Event} (hin : e.inSession p)
    (henabled : service.enabled w e) (hexit : e.isExit = false) :
    Live p (requested || e.requests) (service.step w e) ∧
      ∃ es, (service.step w e).visible = w.visible ++ es ∧ LiveEffects p w e es := by
  cases e with
  | connect | unixSignal => exact hin.elim
  | childExit => cases hexit
  | needSecrets connection bus =>
    have hcore := realNeedSecrets_core connection bus w
    refine ⟨?_, [], (congrArg Core.visible hcore).trans (List.append_nil _).symm, .nil⟩
    simp only [Event.requests, Bool.or_false]
    exact h.congr (congrArg (·.priv.pid) hcore) (congrArg (·.priv.disconnectRequested) hcore)
      (congrArg (·.priv.killTimeout) hcore) (congrArg Core.timers hcore)
  | disconnect groupKilled =>
    obtain ⟨hlive, hvisible⟩ := h.realDisconnect groupKilled
    simp only [Event.requests, Bool.or_true]
    exact ⟨hlive.congr rfl rfl rfl rfl, _, hvisible, h.disconnectEffects _ groupKilled⟩
  | quit groupKilled =>
    have hpid : w.priv.pid ≠ 0 := h.pid ▸ h.ne_zero
    have hpending : Live p requested (w.setPriv { w.priv with quitPending := true }) :=
      h.congr rfl rfl rfl rfl
    change Live p _ (quitMainloop groupKilled w) ∧
      ∃ es, (quitMainloop groupKilled w).visible = w.visible ++ es ∧ LiveEffects p w _ es
    simp only [quitMainloop_tracked hpid, Event.requests, Bool.or_true]
    split_ifs with hreq
    · have htrue : requested = true := h.disconnectRequested.symm.trans hreq
      exact ⟨htrue ▸ hpending, [], (List.append_nil _).symm, .nil⟩
    · obtain ⟨hlive, hvisible⟩ := hpending.realDisconnect groupKilled
      exact ⟨hlive, _, hvisible, h.disconnectEffects _ groupKilled⟩
  | killTimeout id a =>
    have hcore := ensureKilled_core a (w.dropSource id)
    have htimeout : (Event.step w (.killTimeout id a)).priv.killTimeout = 0 :=
      congrArg (·.priv.killTimeout) hcore
    obtain ⟨-, -, hnone⟩ := killTimeout_timers (a := a) h.timers henabled
    refine ⟨?_, _, congrArg Core.visible hcore, h.killEffects henabled⟩
    simp only [Event.requests, Bool.or_false]
    exact ⟨(congrArg (·.priv.pid) hcore : _).trans h.pid, h.ne_zero,
      (congrArg (·.priv.disconnectRequested) hcore : _).trans h.disconnectRequested,
      absurd htimeout, by simp [World.TimersRecorded, service, hnone]⟩
  | libnmState s =>
    refine ⟨?_, [], (List.append_nil _).symm, .nil⟩
    simp only [Event.requests, Bool.or_false]
    exact h.congr rfl rfl rfl rfl

theorem mem_nestedEffects {calls : List LibnmCall} {effect : Effect}
    (h : effect ∈ nestedEffects calls) : effect = .mainLoopQuit := by
  obtain ⟨call, -, hcall⟩ := List.mem_filterMap.1 h
  cases call with
  | disconnect => cases hcall
  | quit => exact (Option.some.inj hcall).symm

theorem unrequestedReport_isReport (status : Nat) : (unrequestedReport status).isReport = true := by
  unfold unrequestedReport
  split_ifs <;> rfl

/-- The exit callback reports exactly the exits that nobody asked for. -/
theorem reports_exitEffects (status : Nat) (a : ExitAnswers) (w : World) :
    reports (exitEffects status a w) =
      if w.priv.disconnectRequested then [] else [unrequestedReport status] := by
  have hnested : reports (nestedEffects a.nested) = [] := by
    rw [reports, List.filter_eq_nil_iff]
    intro effect heffect
    simp [mem_nestedEffects heffect, Effect.isReport]
  have hsource : reports (if w.priv.killTimeout = 0 then [] else
      [.removeSource w.priv.killTimeout]) = [] := by
    split_ifs <;> rfl
  unfold exitEffects
  rw [reports_append, hsource, List.nil_append]
  split_ifs
  · rfl
  · rfl
  · rw [exitReport_eq, reports, List.filter_cons_of_pos (unrequestedReport_isReport status)]
    exact congrArg _ hnested

/-- The exit callback signals nobody. -/
theorem kill_notMem_exitEffects (status : Nat) (a : ExitAnswers) (w : World)
    (target : KillTarget) (signal : Signal) : .kill target signal ∉ exitEffects status a w := by
  have hreport : exitReport status ≠ .kill target signal := by
    unfold exitReport
    split <;> simp
  have hnested : .kill target signal ∉ nestedEffects a.nested := by
    intro h
    cases mem_nestedEffects h
  unfold exitEffects
  split_ifs <;> simp [hreport.symm, hnested]

/-- The exit of the child ends a live session. It is reported exactly when nobody asked for it. -/
theorem Live.childExit (h : Live p requested w) (status : Nat) (a : ExitAnswers) :
    Dead p (service.step w (.childExit p status a)) ∧
      ∃ es, (service.step w (.childExit p status a)).visible = w.visible ++ es ∧
        reports es = (if requested then [] else [unrequestedReport status]) ∧
        ∀ target signal, .kill target signal ∉ es := by
  have hcore := openconnectWatchCb_core status a (w.reap p)
  have hchildren : (Event.step w (.childExit p status a)).children =
      w.children.filter fun d => d.pid ≠ p := congrArg Core.children hcore
  refine ⟨⟨congrArg (·.priv.pid) hcore, congrArg (·.priv.killTimeout) hcore,
    childExit_timers h.timers p status a, ?_⟩, exitEffects status a w, congrArg Core.visible hcore,
    ?_, kill_notMem_exitEffects status a w⟩
  · change ∀ c ∈ (Event.step w (.childExit p status a)).children, c.pid ≠ p
    rw [hchildren]
    intro c hc
    simpa using (List.mem_filter.1 hc).2
  · rw [reports_exitEffects, h.disconnectRequested]

/-- An event after the exit of the child. -/
theorem Dead.step (h : Dead p w) {e : Event} (hin : e.inSession p)
    (henabled : service.enabled w e) :
    e.isExit = false ∧ Dead p (service.step w e) ∧
      ∃ es, (service.step w e).visible = w.visible ++ es ∧ reports es = [] ∧
        ∀ target signal, .kill target signal ∉ es := by
  cases e with
  | connect | unixSignal => exact hin.elim
  | childExit q status a =>
    obtain ⟨c, hc, hcq, -⟩ := henabled
    exact absurd (hcq.trans hin) (h.reaped c hc)
  | killTimeout id a =>
    obtain ⟨t, ht, -⟩ := henabled
    simp [h.timers] at ht
  | needSecrets connection bus =>
    have hcore := realNeedSecrets_core connection bus w
    refine ⟨rfl, ⟨(congrArg (·.priv.pid) hcore : _).trans h.pid,
      (congrArg (·.priv.killTimeout) hcore : _).trans h.killTimeout,
      (congrArg Core.timers hcore : _).trans h.timers, ?_⟩, [],
      (congrArg Core.visible hcore).trans (List.append_nil _).symm, rfl, by simp⟩
    rw [show (service.step w (.needSecrets connection bus)).children = w.children from
      congrArg Core.children hcore]
    exact h.reaped
  | disconnect groupKilled =>
    have hidle := @realDisconnect_idle groupKilled w h.pid
    change _ ∧ Dead p ((realDisconnect groupKilled w).setLibnm .stopped) ∧
      ∃ es, ((realDisconnect groupKilled w).setLibnm .stopped).visible = w.visible ++ es ∧ _
    rw [hidle]
    exact ⟨rfl, ⟨h.pid, h.killTimeout, h.timers, h.reaped⟩, [], (List.append_nil _).symm, rfl,
      by simp⟩
  | quit groupKilled =>
    have hidle := @quitMainloop_idle groupKilled w h.pid
    change _ ∧ Dead p (quitMainloop groupKilled w) ∧
      ∃ es, (quitMainloop groupKilled w).visible = w.visible ++ es ∧ _
    rw [hidle]
    exact ⟨rfl, ⟨h.pid, h.killTimeout, h.timers, h.reaped⟩, [.mainLoopQuit], World.visible_emit _ _,
      rfl, by simp⟩
  | libnmState s =>
    exact ⟨rfl, ⟨h.pid, h.killTimeout, h.timers, h.reaped⟩, [], (List.append_nil _).symm, rfl,
      by simp⟩

/-! ## A whole session -/

/-- After the exit nothing more is reported, and no other exit comes. -/
theorem Dead.run : ∀ {es : List Event} {w : World}, Dead p w → service.Valid w es →
    (∀ e ∈ es, e.inSession p) → ∃ effects, (service.run w es).visible = w.visible ++ effects ∧
      reports effects = []
  | [], _, _, _, _ => ⟨[], (List.append_nil _).symm, rfl⟩
  | e :: es, w, h, hvalid, hin => by
      obtain ⟨-, hdead, es₁, hstep, hrep₁, -⟩ := h.step (hin e (.head _)) hvalid.1
      obtain ⟨es₂, hrun, hrep₂⟩ := hdead.run hvalid.2 fun e' he' => hin e' (.tail _ he')
      refine ⟨es₁ ++ es₂, ?_, by rw [reports_append, hrep₁, hrep₂, List.append_nil]⟩
      rw [service.run_cons, hrun, hstep, List.append_assoc]

/-- Where a session is after some events: live while none was the exit, dead after. -/
theorem session_phase (h : SessionStart p w) {es : List Event} (hvalid : service.Valid w es)
    (hin : ∀ e ∈ es, e.inSession p) :
    ((∀ e ∈ es, e.isExit = false) ∧ Live p (es.any Event.requests) (service.run w es) ∧
        ∃ effects, (service.run w es).visible = w.visible ++ effects ∧ reports effects = []) ∨
      ((∃ e ∈ es, e.isExit = true) ∧ Dead p (service.run w es)) := by
  induction es using List.reverseRecOn with
  | nil => exact .inl ⟨by simp, h.live, [], (List.append_nil _).symm, rfl⟩
  | append_singleton es e ih =>
    have hrun : service.run w (es ++ [e]) = service.step (service.run w es) e :=
      service.run_append w es [e]
    obtain ⟨hvalid, henabled, -⟩ := service.valid_append.1 hvalid
    have hine : e.inSession p := hin e (by simp)
    rw [hrun]
    rcases ih hvalid (fun e' he' => hin e' (by simp [he'])) with
      ⟨hnone, hlive, es₁, hvisible, hrep⟩ | ⟨⟨x, hx, hexit⟩, hdead⟩
    · cases hexit : e.isExit with
      | false =>
        obtain ⟨hlive', es₂, hstep, heffects⟩ := hlive.step hine henabled hexit
        refine .inl ⟨?_, by simpa using hlive', es₁ ++ es₂, ?_, ?_⟩
        · intro x hx
          rcases List.mem_append.1 hx with hx | hx
          · exact hnone x hx
          · exact List.mem_singleton.1 hx ▸ hexit
        · rw [hstep, hvisible, List.append_assoc]
        · rw [reports_append, hrep, heffects.reports, List.append_nil]
      | true =>
        cases e with
        | childExit q status a =>
          obtain rfl : q = p := hine
          exact .inr ⟨⟨_, List.mem_append_right _ (.head _), rfl⟩, (hlive.childExit status a).1⟩
        | _ => cases hexit
    · obtain ⟨-, hdead', -⟩ := hdead.step hine henabled
      exact .inr ⟨⟨x, by simp [hx], hexit⟩, hdead'⟩

end

/-- What holds of a session of `p` that starts in `w` and sees the events `es`.

An exit is reported once, unless a Disconnect or a quit came before it, and nothing else is
reported. A signal goes to the child or its group and before the exit is handled, and SIGKILL comes
only from the recorded kill timeout. The recorded kill timeout is that of a requested disconnect of
the child, and is cleared by the exit. -/
structure DisconnectProtocol (p : GPid) (w : World) (es : List Event) : Prop where
  unreported : (∀ e ∈ es, e.isExit = false) → reports (w.effects (service.run w es)) = []
  reported : ∀ pre status a post, es = pre ++ .childExit p status a :: post →
    reports (w.effects (service.run w es)) =
      if pre.any Event.requests then [] else [unrequestedReport status]
  signals : ∀ pre e post, es = pre ++ e :: post → ∀ target signal,
    .kill target signal ∈ (service.run w pre).effects (service.run w (pre ++ [e])) →
    target.pid = p ∧ p ≠ 0 ∧ (∀ e' ∈ pre ++ [e], e'.isExit = false) ∧
      (signal = .sigkill → ∃ id a, e = .killTimeout id a ∧
        id = (service.run w pre).priv.killTimeout ∧ id ≠ 0)
  timeout : ∀ pre post, es = pre ++ post →
    ((service.run w pre).priv.killTimeout ≠ 0 → (service.run w pre).priv.pid = p ∧
      (service.run w pre).priv.disconnectRequested = true) ∧
    ((∃ e ∈ pre, e.isExit = true) → (service.run w pre).priv.killTimeout = 0)

section
variable {p : GPid} {w : World} {es : List Event}

theorem session_reported (h : SessionStart p w) (hvalid : service.Valid w es)
    (hin : ∀ e ∈ es, e.inSession p) {pre post : List Event} {status : Nat} {a : ExitAnswers}
    (hes : es = pre ++ .childExit p status a :: post) :
    reports (w.effects (service.run w es)) =
      if pre.any Event.requests then [] else [unrequestedReport status] := by
  subst hes
  obtain ⟨hpre, henabled, hpost⟩ := service.valid_append.1 hvalid
  rcases session_phase h hpre (fun e he => hin e (by simp [he])) with
    ⟨-, hlive, es₁, hvisible, hrep⟩ | ⟨-, hdead⟩
  · obtain ⟨hdead, es₂, hstep, hreport, -⟩ := hlive.childExit status a
    obtain ⟨es₃, hrun, hrep₃⟩ := hdead.run hpost fun e he => hin e (by simp [he])
    have hall : (service.run w (pre ++ .childExit p status a :: post)).visible =
        w.visible ++ (es₁ ++ (es₂ ++ es₃)) := by
      rw [service.run_append, service.run_cons, hrun, hstep, hvisible]
      simp only [List.append_assoc]
    rw [World.effects_of_visible hall, reports_append, reports_append, hrep, hrep₃, hreport]
    simp
  · exact absurd (hdead.step (hin _ (by simp)) henabled).1 (by simp [Event.isExit])

theorem session_signals (h : SessionStart p w) (hvalid : service.Valid w es)
    (hin : ∀ e ∈ es, e.inSession p) {pre post : List Event} {e : Event}
    (hes : es = pre ++ e :: post) {target : KillTarget} {signal : Signal}
    (hkill : .kill target signal ∈ (service.run w pre).effects (service.run w (pre ++ [e]))) :
    target.pid = p ∧ p ≠ 0 ∧ (∀ e' ∈ pre ++ [e], e'.isExit = false) ∧
      (signal = .sigkill → ∃ id a, e = .killTimeout id a ∧
        id = (service.run w pre).priv.killTimeout ∧ id ≠ 0) := by
  subst hes
  obtain ⟨hpre, henabled, -⟩ := service.valid_append.1 hvalid
  rw [service.run_append, service.run_cons, service.run_nil] at hkill
  have hine : e.inSession p := hin e (by simp)
  rcases session_phase h hpre (fun e he => hin e (by simp [he])) with
    ⟨hnone, hlive, -⟩ | ⟨-, hdead⟩
  · cases hexit : e.isExit with
    | false =>
      obtain ⟨-, es, hstep, heffects⟩ := hlive.step hine henabled hexit
      rw [World.effects_of_visible hstep] at hkill
      refine ⟨heffects.pid target signal hkill, h.ne_zero, ?_, ?_⟩
      · intro x hx
        rcases List.mem_append.1 hx with hx | hx
        · exact hnone x hx
        · exact List.mem_singleton.1 hx ▸ hexit
      · rintro rfl
        exact heffects.sigkill target hkill
    | true =>
      cases e with
      | childExit q status a =>
        obtain rfl : q = p := hine
        obtain ⟨-, es, hstep, -, hnokill⟩ := hlive.childExit status a
        rw [World.effects_of_visible hstep] at hkill
        exact absurd hkill (hnokill target signal)
      | _ => cases hexit
  · obtain ⟨-, -, es, hstep, -, hnokill⟩ := hdead.step hine henabled
    rw [World.effects_of_visible hstep] at hkill
    exact absurd hkill (hnokill target signal)

/-- The disconnect protocol of one session, for any events before the next Connect in any order. -/
theorem disconnectProtocol (h : SessionStart p w) (hvalid : service.Valid w es)
    (hin : ∀ e ∈ es, e.inSession p) : DisconnectProtocol p w es where
  unreported := by
    intro hnone
    rcases session_phase h hvalid hin with ⟨-, -, effects, hvisible, hrep⟩ | ⟨⟨e, he, hexit⟩, -⟩
    · rw [World.effects_of_visible hvisible, hrep]
    · exact absurd (hnone e he) (by simp [hexit])
  reported _ _ _ _ hes := session_reported h hvalid hin hes
  signals _ _ _ hes _ _ hkill := session_signals h hvalid hin hes hkill
  timeout := by
    rintro pre post rfl
    obtain ⟨hpre, -⟩ := service.valid_append.1 hvalid
    rcases session_phase h hpre (fun e he => hin e (by simp [he])) with
      ⟨hnone, hlive, -⟩ | ⟨-, hdead⟩
    · refine ⟨fun hkill => ⟨hlive.pid, hlive.disconnectRequested.trans (hlive.armed hkill)⟩, ?_⟩
      rintro ⟨e, he, hexit⟩
      exact absurd (hnone e he) (by simp [hexit])
    · exact ⟨fun hkill => absurd hdead.killTimeout hkill, fun _ => hdead.killTimeout⟩

end

theorem disconnectProtocol_oneSession : DisconnectProtocol 100
    (service.run (.start noDevices) [.connect directProfile startAnswers])
    [.disconnect true, .quit false, .childExit 100 0 quietExit] :=
  disconnectProtocol
    ⟨by decide +kernel, by decide, by decide +kernel, by decide +kernel, by decide +kernel,
      by decide +kernel⟩
    (by decide +kernel) (by simp [Event.inSession])

end NmGpclient
