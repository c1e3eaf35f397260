import NmGpclient.Service.ConnectResult
import NmGpclient.Service.Lifecycle

/-!
# Child tracking

The service means to run one gpclient at a time: `priv->pid` is the child, or 0. It holds along a
run exactly when every Connect that spawns a child finds none tracked and feeds the new one whole.
libnm does not see to the first: it is `STOPPED`, and takes the next Connect, as soon as
`real_disconnect` returns, while the old child may still be dying.
-/

namespace NmGpclient

/-- At most one child is not reaped, and `priv->pid` is non-zero exactly when there is one and is
its id. -/
def ChildTracked (w : World) : Prop :=
  w.children.length ≤ 1 ∧ (w.priv.pid ≠ 0 ↔ w.children ≠ []) ∧ ∀ c ∈ w.children, c.pid = w.priv.pid

instance (w : World) : Decidable (ChildTracked w) := inferInstanceAs (Decidable (_ ∧ _ ∧ _))

/-- The steps that keep the children tracked: a Connect that spawns a child finds none tracked and
feeds it whole. -/
def Event.TracksChild (w : World) : Event → Prop
  | .connect connection a =>
      ∀ child ∈ spawned connection a w.tun, w.priv.pid = 0 ∧ a.feeds child.2 = true
  | _ => True

instance (w : World) : DecidablePred (Event.TracksChild w)
  | .connect connection a => inferInstanceAs (Decidable
      (∀ child ∈ spawned connection a w.tun, w.priv.pid = 0 ∧ a.feeds child.2 = true))
  | .needSecrets .. | .disconnect _ | .quit _ | .killTimeout .. | .childExit .. | .libnmState _
  | .unixSignal => .isTrue trivial

theorem ChildTracked.start (t : TunTable IfName) : ChildTracked (.start t) := by
  simp [ChildTracked, World.start]

/-- A step that keeps the children and the tracked one keeps the invariant. -/
theorem childTracked_congr {w w' : World} (hpid : w'.priv.pid = w.priv.pid)
    (hchildren : w'.children = w.children) : ChildTracked w' ↔ ChildTracked w := by
  unfold ChildTracked
  rw [hpid, hchildren]

/-- A Connect keeps the invariant exactly when it meets the condition. -/
theorem childTracked_connect_iff {w : World} {connection : NMConnection} {a : ConnectAnswers}
    (hw : ChildTracked w) (henabled : Event.enabled w (.connect connection a)) :
    ChildTracked (Event.step w (.connect connection a)) ↔
      Event.TracksChild w (.connect connection a) := by
  obtain ⟨hone, hpid, hids⟩ := hw
  simp only [Event.step, Event.TracksChild]
  cases hs : spawned connection a w.tun with
  | none =>
    obtain ⟨-, tunName, t, es, owner, group, hleft⟩ :=
      realConnect_of_not_spawned (w := w.setLibnm .starting) hs
    rw [hleft]
    exact iff_of_true ⟨hone, hpid, hids⟩ (by simp)
  | some child =>
    obtain ⟨pid, cookie⟩ := child
    have hpos : pid ≠ 0 := (henabled.2 pid (spawn_of_spawned hs)).1
    have hnone : w.children.length = 0 ↔ w.priv.pid = 0 := by
      rw [List.length_eq_zero_iff]
      exact (not_iff_not.1 hpid).symm
    rcases realConnect_of_spawned (w := w.setLibnm .starting) hs with
      ⟨hfeed, -, tunName, t, es, owner, group, hleft⟩ |
      ⟨hfeed, -, tunName, t, stdin, es, owner, group, hleft⟩
    · rw [hleft]
      constructor
      · rintro ⟨hlen, -, -⟩ child h
        cases h
        simp only [World.setLibnm, List.length_append, List.length_singleton] at hlen
        exact ⟨hnone.1 (by omega), hfeed⟩
      · intro h
        have hempty : w.children = [] := List.eq_nil_of_length_eq_zero (hnone.2 (h _ rfl).1)
        simp [ChildTracked, World.setLibnm, hempty, hpos]
    · -- the child that nobody tracks breaks the invariant, whether or not there is another
      refine iff_of_false (fun h => ?_) (fun h => absurd (h _ rfl).2 (by simp [hfeed]))
      rw [hleft] at h
      obtain ⟨hlen, hpid', -⟩ := h
      simp only [World.setLibnm, List.length_append, List.length_singleton] at hlen hpid'
      exact hpid'.2 (by simp) (hnone.1 (by omega))

/-- The exit of a child keeps the invariant. -/
theorem childTracked_exit {w : World} {pid : GPid} {status : Nat} {a : ExitAnswers}
    (hw : ChildTracked w) (henabled : Event.enabled w (.childExit pid status a)) :
    ChildTracked (Event.step w (.childExit pid status a)) := by
  obtain ⟨hone, -, hids⟩ := hw
  obtain ⟨c, hc, rfl, -⟩ := henabled
  have hcore := openconnectWatchCb_core status a (w.reap c.pid)
  have hpid : (Event.step w (.childExit c.pid status a)).priv.pid = 0 := congrArg (·.priv.pid) hcore
  have hchildren : (Event.step w (.childExit c.pid status a)).children = [] := by
    have hfilter : (Event.step w (.childExit c.pid status a)).children =
        w.children.filter fun d => d.pid ≠ c.pid := congrArg Core.children hcore
    rw [hfilter, List.filter_eq_nil_iff]
    intro d hd
    simp [hids d hd, hids c hc]
  simp [ChildTracked, hpid, hchildren]

/-- A step keeps the invariant exactly when it meets the condition. -/
theorem childTracked_step_iff (w : World) (e : Event) (hw : ChildTracked w)
    (henabled : service.enabled w e) : ChildTracked (service.step w e) ↔ e.TracksChild w := by
  cases hquiet : e.quiet with
  | true =>
    obtain ⟨hpid, -, hchildren, -⟩ := Event.step_same (w := w) hquiet
    have hkept : ChildTracked (e.step w) := (childTracked_congr hpid hchildren).2 hw
    cases e with
    | connect => cases hquiet
    | _ => exact iff_of_true hkept trivial
  | false =>
    cases e with
    | connect connection a => exact childTracked_connect_iff hw henabled
    | childExit pid status a => exact iff_of_true (childTracked_exit hw henabled) trivial
    | _ => cases hquiet

/-- Along a run of the service the children are tracked in every state exactly when every Connect
that spawns a child finds none tracked and feeds it whole. -/
theorem childTracked_always_iff (tun : TunTable IfName) (es : List Event)
    (h : service.Valid (.start tun) es) :
    service.Always ChildTracked (.start tun) es ↔
      service.AllSteps (fun w e => e.TracksChild w) (.start tun) es :=
  Machine.AllSteps.always_iff childTracked_step_iff (ChildTracked.start tun) h

/-- One session, from its Connect to the exit of its child. -/
def oneSession : List Event :=
  [.connect directProfile startAnswers, .disconnect true, .childExit 100 0 quietExit]

theorem childTracked_oneSession :
    service.Valid (.start noDevices) oneSession ∧
      service.Always ChildTracked (.start noDevices) oneSession := by
  have hvalid : service.Valid (.start noDevices) oneSession := by decide +kernel
  exact ⟨hvalid, (childTracked_always_iff noDevices oneSession hvalid).2 (by decide +kernel)⟩

/-- A Connect whose child does not read its cookie leaves the child unreaped and untracked. -/
theorem childTracked_fails : ¬∀ tun es, service.Valid (.start tun) es →
    ChildTracked (service.run (.start tun) es) := by
  intro h
  have hvalid : service.Valid (.start noDevices) [.connect directProfile shortAnswers] := by
    decide +kernel
  have hnot : ¬ChildTracked
      (service.run (.start noDevices) [.connect directProfile shortAnswers]) := by
    decide +kernel
  exact hnot (h _ _ hvalid)

end NmGpclient
