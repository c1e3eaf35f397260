import NmGpclient.Lib.Simulation

/-!
# A supervisor of one process

A supervisor runs one process at a time. It is told to start the process, to stop it, to leave, and
hears that a deadline has passed or that the process has exited. A stop interrupts the process and
sets a deadline, at which a process that is still there is killed. An exit that nobody asked for is
reported. A supervisor that is told to leave does so when its process is gone.

`Status.next` is the order in which a supervisor may act, as an automaton on its acts alone;
`supervisor_follows` says that it always keeps to it, and `supervisor_leaves_iff` when one that is
told to leave has left.
-/

namespace NmGpclient

/-- Where a supervisor is with its process: there is none, it runs, or it was told to stop, and
whether the deadline of that is still to come. -/
inductive Phase where
  | idle
  | running
  | stopping (due : Bool)
deriving DecidableEq, Repr

/-- What a supervisor does, with reports of type `ρ`. `closed` is the handling of an exit. -/
inductive Act (ρ : Type*) where
  | opened
  | interrupt
  | kill
  | closed
  | report (r : ρ)
  | leave
deriving DecidableEq, Repr

/-- What a supervisor is told. At a deadline it looks whether the process is `alive`, and an exit
comes with what would be reported of it. -/
inductive Order (ρ : Type*) where
  | start
  | stop
  | deadline (alive : Bool)
  | exit (r : ρ)
  | leave
deriving DecidableEq, Repr

/-- The state of a supervisor: `leaving` when it was told to leave while a process was there. -/
structure Supervisor where
  phase : Phase
  leaving : Bool
deriving DecidableEq, Repr

variable {ρ : Type*}

namespace Order

/-- The orders that can come: a start while there is no process, a deadline that is due, and the
exit of a process that is there. -/
def enabled (s : Supervisor) : Order ρ → Prop
  | .start => s.phase = .idle
  | .deadline _ => s.phase = .stopping true
  | .exit _ => s.phase ≠ .idle
  | .stop | .leave => True

/-- The state after an order. -/
def step (s : Supervisor) : Order ρ → Supervisor
  | .start => { s with phase := .running }
  | .stop =>
    match s.phase with
    | .idle => s
    | .running | .stopping _ => { s with phase := .stopping true }
  | .deadline _ => { s with phase := .stopping false }
  | .exit _ => { s with phase := .idle }
  | .leave =>
    match s.phase with
    | .idle => s
    | .running => ⟨.stopping true, true⟩
    | .stopping due => ⟨.stopping due, true⟩

/-- What the supervisor does at an order. -/
def acts (s : Supervisor) : Order ρ → List (Act ρ)
  | .start => [.opened]
  | .stop =>
    match s.phase with
    | .idle => []
    | .running | .stopping _ => [.interrupt]
  | .deadline alive => if alive then [.kill] else []
  | .exit r =>
    match s.phase with
    | .stopping _ => .closed :: if s.leaving then [.leave] else []
    | .idle | .running => [.closed, .report r]
  | .leave =>
    match s.phase with
    | .idle => [.leave]
    | .running => [.interrupt]
    | .stopping _ => []

/-- The exit of the process. -/
def isExit : Order ρ → Bool
  | .exit _ => true
  | _ => false

end Order

/-- The supervisor. -/
def supervisor (ρ : Type*) : Machine Supervisor (Order ρ) := ⟨Order.enabled, Order.step⟩

/-! ## The order of the acts -/

/-- Where the acts of a supervisor stand: `unreported` after an exit that nobody asked for, and
`stopping true` while an interrupt has not been followed by a kill. -/
inductive Status where
  | idle
  | running
  | unreported
  | stopping (pending : Bool)
deriving DecidableEq, Repr

/-- The acts that may come next. A process is opened when there is none, interrupted while it is
there, and killed at most once after each interrupt; the exit of one that was not interrupted is
reported before anything else, that of another is not; and a supervisor leaves when there is no
process. -/
def Status.next : Status → Act ρ → Option Status
  | .idle, .opened => some .running
  | .idle, .leave => some .idle
  | .running, .interrupt | .stopping _, .interrupt => some (.stopping true)
  | .stopping true, .kill => some (.stopping false)
  | .running, .closed => some .unreported
  | .stopping _, .closed => some .idle
  | .unreported, .report _ => some .idle
  | _, _ => none

/-- Where a sequence of acts leads, if each of them may come. -/
def Status.follow (st : Status) (acts : List (Act ρ)) : Option Status := acts.foldlM Status.next st

theorem Status.follow_append (st : Status) (acts acts' : List (Act ρ)) :
    st.follow (acts ++ acts') = (st.follow acts).bind fun st' => st'.follow acts' :=
  List.foldlM_append

/-- The acts stand where the process does. An interrupt whose deadline is due is pending. -/
inductive Phase.Shown : Phase → Status → Prop
  | idle : Phase.Shown .idle .idle
  | running : Phase.Shown .running .running
  | stopping {due pending : Bool} (h : due = true → pending = true) :
      Phase.Shown (.stopping due) (.stopping pending)

/-- One order leads from a status to one. -/
theorem Order.follow_acts {s : Supervisor} {st : Status} {o : Order ρ} (h : s.phase.Shown st)
    (henabled : o.enabled s) :
    ∃ st', st.follow (o.acts s) = some st' ∧ (o.step s).phase.Shown st' := by
  obtain ⟨phase, leaving⟩ := s
  cases o with
  | start =>
    obtain rfl : phase = .idle := henabled
    cases h
    exact ⟨_, rfl, .running⟩
  | stop =>
    cases h with
    | idle => exact ⟨_, rfl, .idle⟩
    | running => exact ⟨_, rfl, .stopping fun _ => rfl⟩
    | stopping => exact ⟨_, rfl, .stopping fun _ => rfl⟩
  | deadline alive =>
    obtain rfl : phase = .stopping true := henabled
    cases h with
    | stopping hdue =>
      obtain rfl := hdue rfl
      cases alive with
      | true => exact ⟨_, rfl, .stopping nofun⟩
      | false => exact ⟨_, rfl, .stopping nofun⟩
  | exit r =>
    cases h with
    | idle => exact absurd rfl henabled
    | running => exact ⟨_, rfl, .idle⟩
    | stopping =>
      cases leaving with
      | true => exact ⟨_, rfl, .idle⟩
      | false => exact ⟨_, rfl, .idle⟩
  | leave =>
    cases h with
    | idle => exact ⟨_, rfl, .idle⟩
    | running => exact ⟨_, rfl, .stopping fun _ => rfl⟩
    | stopping hdue => exact ⟨_, rfl, .stopping hdue⟩

/-- A supervisor keeps to the order of the acts, whatever it is told and when. -/
theorem supervisor_follows {s : Supervisor} {st : Status} {os : List (Order ρ)}
    (h : s.phase.Shown st) (hvalid : (supervisor ρ).Valid s os) :
    ∃ st', st.follow ((supervisor ρ).outputs Order.acts s os) = some st' ∧
      ((supervisor ρ).run s os).phase.Shown st' := by
  induction os generalizing s st with
  | nil => exact ⟨st, rfl, h⟩
  | cons o os ih =>
    obtain ⟨st₁, hacts, hshown⟩ := Order.follow_acts h hvalid.1
    obtain ⟨st₂, hrest, hend⟩ := ih hshown hvalid.2
    refine ⟨st₂, ?_, hend⟩
    rw [Machine.outputs_cons, Status.follow_append, hacts]
    exact hrest

/-! ## Leaving -/

/-- While it stops its process, a supervisor that is to leave does so at the exit and not before. -/
theorem supervisor_leaves_of_stopping (due : Bool) {os : List (Order ρ)}
    (hvalid : (supervisor ρ).Valid ⟨.stopping due, true⟩ os) :
    .leave ∈ (supervisor ρ).outputs Order.acts ⟨.stopping due, true⟩ os ↔
      ∃ o ∈ os, o.isExit = true := by
  induction os generalizing due with
  | nil => simp
  | cons o os ih =>
    obtain ⟨henabled, hrest⟩ := hvalid
    rw [Machine.outputs_cons, List.mem_append, List.exists_mem_cons_iff]
    cases o with
    | start => cases henabled
    | exit r => exact iff_of_true (.inl (.tail _ (.head _))) (.inl rfl)
    | stop =>
      have ih := ih true hrest
      simp only [Order.acts, Order.isExit, List.mem_singleton, reduceCtorEq, false_or,
        Bool.false_eq_true]
      exact ih
    | deadline alive =>
      have ih := ih false hrest
      have hacts : .leave ∉ Order.acts ⟨.stopping due, true⟩ (Order.deadline (ρ := ρ) alive) := by
        cases alive <;> simp [Order.acts]
      simp only [hacts, Order.isExit, false_or, Bool.false_eq_true]
      exact ih
    | leave =>
      have ih := ih due hrest
      simp only [Order.acts, Order.isExit, List.not_mem_nil, false_or, Bool.false_eq_true]
      exact ih

/-- A supervisor that is told to leave has left exactly when it had no process then, or its process
has exited since. -/
theorem supervisor_leaves_iff {s : Supervisor} {os : List (Order ρ)}
    (hvalid : (supervisor ρ).Valid s (.leave :: os)) :
    .leave ∈ (supervisor ρ).outputs Order.acts s (.leave :: os) ↔
      s.phase = .idle ∨ ∃ o ∈ os, o.isExit = true := by
  obtain ⟨phase, leaving⟩ := s
  obtain ⟨-, hrest⟩ := hvalid
  rw [Machine.outputs_cons, List.mem_append]
  cases phase with
  | idle => exact iff_of_true (.inl (.head _)) (.inl rfl)
  | running =>
    have h := supervisor_leaves_of_stopping true hrest
    simp only [Order.acts, List.mem_singleton, reduceCtorEq, false_or]
    exact h
  | stopping due =>
    have h := supervisor_leaves_of_stopping due hrest
    simp only [Order.acts, List.not_mem_nil, reduceCtorEq, false_or]
    exact h

end NmGpclient
