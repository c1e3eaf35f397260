import NmGpclient.Dialog.Collect
import NmGpclient.Lib.History

/-!
# What the collecting loop has seen

The variables of `collect_auth` are determined by the trace of the loop: `CollectInv` says how, each
block of a turn keeps it, and so does every run of the loop. What `collect_auth` returns is then a
statement about the trace alone (`collectAuth_ret_iff`), and how it controls its child is a
statement about the order of the trace (`ChildControl`).
-/

namespace NmGpclient

/-! ## Reading a trace -/

/-- The loop is cancelled: a failed poll, a caught signal, or the end of the standard input. -/
def Obs.cancels : Obs → Bool
  | .polled .failed | .interrupted | .stdinRead .eof | .stdinRead .failed => true
  | _ => false

/-- `waitpid` reports that the child is gone, or that it cannot tell. -/
def Obs.gone : Obs → Bool
  | .waited (.reaped _) | .waited .failed => true
  | _ => false

/-- The pipe is read to its end, or fails. -/
def Obs.ends (p : Pipe) : Obs → Bool
  | .pipeRead q .eof | .pipeRead q .failed => q = p
  | _ => false

/-- A call failed in a way that spoils the result. -/
def Obs.fails : Obs → Bool
  | .polled .failed | .pipeRead _ .failed | .waited .failed => true
  | _ => false

/-- The byte that was read from the standard input. -/
def Obs.stdinByte : Obs → Option UInt8
  | .stdinRead (.byte c) => some c
  | _ => none

/-- The bytes that were read from a pipe. -/
def Obs.pipeBytes (p : Pipe) : Obs → List UInt8
  | .pipeRead q (.chunk b bs) => if q = p then b :: bs else []
  | _ => []

/-- The bytes read from the standard input, in order. -/
def stdinBytes (trace : List Obs) : List UInt8 := trace.filterMap Obs.stdinByte

/-- The bytes read from a pipe, in order. -/
def pipeBytes (p : Pipe) (trace : List Obs) : List UInt8 := trace.flatMap (Obs.pipeBytes p)

@[simp] theorem stdinBytes_nil : stdinBytes [] = [] := rfl

@[simp] theorem stdinBytes_cons (o : Obs) (trace : List Obs) :
    stdinBytes (o :: trace) = o.stdinByte.toList ++ stdinBytes trace := by
  cases h : o.stdinByte <;> simp [stdinBytes, h]

@[simp] theorem stdinBytes_append (trace trace' : List Obs) :
    stdinBytes (trace ++ trace') = stdinBytes trace ++ stdinBytes trace' := List.filterMap_append

@[simp] theorem pipeBytes_nil (p : Pipe) : pipeBytes p [] = [] := rfl

@[simp] theorem pipeBytes_cons (p : Pipe) (o : Obs) (trace : List Obs) :
    pipeBytes p (o :: trace) = o.pipeBytes p ++ pipeBytes p trace := rfl

@[simp] theorem pipeBytes_append (p : Pipe) (trace trace' : List Obs) :
    pipeBytes p (trace ++ trace') = pipeBytes p trace ++ pipeBytes p trace' :=
  List.flatMap_append

/-- A `QUIT` line was read from the standard input. -/
def SawQuit (trace : List Obs) : Prop := HasSegment isLineEnd quitWord (stdinBytes trace)

/-- A byte completes a `QUIT` line when the buffer holds the word and the byte ends the line. -/
theorem sawQuit_append_singleton (trace : List Obs) (o : Obs) :
    SawQuit (trace ++ [o]) ↔ SawQuit trace ∨ ∃ c ∈ o.stdinByte, isLineEnd c = true ∧
      buffered isLineEnd 15 (stdinBytes trace) = quitWord := by
  unfold SawQuit
  rw [stdinBytes_append, stdinBytes_cons, stdinBytes_nil, List.append_nil]
  cases o.stdinByte with
  | none => simp
  | some c =>
    have hword : quitWord.length < 15 := by decide
    simp [hasSegment_append_singleton isLineEnd hword]

/-- The loop saw an event that cancels. -/
def SawCancel (trace : List Obs) : Prop := trace.any Obs.cancels = true ∨ SawQuit trace

/-- What one signal of the trace must meet with what came before it: it goes to the child, which
`waitpid` has not reported gone, and it is the first SIGTERM, or a SIGKILL at least two seconds
after the SIGTERM. -/
def SignalOk (pid : GPid) (pre : List Obs) (o : Obs) : Prop :=
  ∀ target signal time, o = .kill target signal time →
    target = .process pid ∧ pre.any Obs.gone = false ∧
      (signal = .sigterm ∧ (∀ target' time', .kill target' .sigterm time' ∉ pre) ∨
        signal = .sigkill ∧ ∃ time', .kill (.process pid) .sigterm time' ∈ pre ∧
          time' + killDelay ≤ time)

/-! ## The invariant

It has a part for the standard input, one for each pipe and one for the child, and every observation
belongs to one of them. A block of the loop changes the variables of one part and logs observations
of that part, so it leaves the others alone (`CancelInv.frame`, `PipeInv.frame`,
`ChildInv.frame`). -/

/-- The parts of the loop. -/
inductive Part where
  | input
  | pipe (p : Pipe)
  | child
deriving DecidableEq

/-- The part that an observation belongs to. -/
def Obs.part : Obs → Part
  | .polled _ | .interrupted | .stdinRead _ => .input
  | .pipeRead p _ | .closed p => .pipe p
  | .kill .. | .waited _ => .child

/-- The cancel flag and the line buffer. -/
structure CancelInv (s : Collect) : Prop where
  cancelled : s.cancelled = true ↔ SawCancel s.trace
  line : s.line = buffered isLineEnd 15 (stdinBytes s.trace)

/-- The end of a pipe. -/
structure PipeInv (p : Pipe) (s : Collect) : Prop where
  isOpen : (s.pipes p).isOpen = !s.trace.any (Obs.ends p)
  buffer : (s.pipes p).buffer = pipeBytes p s.trace
  closed : s.trace.count (.closed p) = if (s.pipes p).isOpen then 0 else 1

/-- The child and the signals sent to it. -/
structure ChildInv (pid : GPid) (s : Collect) : Prop where
  child : s.pid = pid
  exited : s.exited = s.trace.any Obs.gone
  killAt : (s.killAt = 0 ∧ ∀ target time, .kill target .sigterm time ∉ s.trace) ∨
    ∃ time, s.killAt = time + killDelay ∧ .kill (.process pid) .sigterm time ∈ s.trace
  signals : EachAfter (SignalOk pid) s.trace
  status : ∀ status, .waited (.reaped status) ∈ s.trace →
    s.exited = true ∧ s.status = status ∧ .waited .failed ∉ s.trace

/-- The variables of the loop are determined by its trace. -/
structure CollectInv (pid : GPid) (s : Collect) : Prop where
  cancel : CancelInv s
  pipe : ∀ p, PipeInv p s
  child : ChildInv pid s
  ok : s.ok = !s.trace.any Obs.fails

theorem CollectInv.init (pid : GPid) : CollectInv pid (.init pid) where
  cancel := ⟨by simp [Collect.init, SawCancel, SawQuit, HasSegment, stdinBytes],
    by simp [Collect.init, stdinBytes]⟩
  pipe _ := ⟨rfl, rfl, rfl⟩
  child := ⟨rfl, rfl, .inl ⟨rfl, by simp [Collect.init]⟩, eachAfter_nil _, by simp [Collect.init]⟩
  ok := rfl

/-- From `s` to `s'` the trace grew by observations of one part. -/
def Logged (part : Part) (s s' : Collect) : Prop :=
  ∃ os, s'.trace = s.trace ++ os ∧ ∀ o ∈ os, o.part = part

section
variable {s s' : Collect} {part : Part} {p : Pipe} {pid : GPid}

theorem CancelInv.frame (h : CancelInv s) (hlog : Logged part s s') (hpart : part ≠ .input)
    (hcancelled : s'.cancelled = s.cancelled) (hline : s'.line = s.line) : CancelInv s' := by
  obtain ⟨os, htrace, hos⟩ := hlog
  have hcancels : os.any Obs.cancels = false := by
    rw [List.any_eq_false]
    intro o ho
    have := hos o ho
    cases o <;> simp_all [Obs.part, Obs.cancels]
  have hbytes : stdinBytes (s.trace ++ os) = stdinBytes s.trace := by
    have hnone : os.filterMap Obs.stdinByte = [] := by
      rw [List.filterMap_eq_nil_iff]
      intro o ho
      have := hos o ho
      cases o <;> simp_all [Obs.part, Obs.stdinByte]
    rw [stdinBytes_append, stdinBytes, stdinBytes, hnone, List.append_nil]
  constructor
  · rw [hcancelled, htrace, h.cancelled, SawCancel, SawCancel, SawQuit, SawQuit, List.any_append,
      hcancels, Bool.or_false, hbytes]
  · rw [hline, htrace, h.line, hbytes]

theorem PipeInv.frame (h : PipeInv p s) (hlog : Logged part s s') (hpart : part ≠ .pipe p)
    (hpipe : s'.pipes p = s.pipes p) : PipeInv p s' := by
  obtain ⟨os, htrace, hos⟩ := hlog
  have hends : os.any (Obs.ends p) = false := by
    rw [List.any_eq_false]
    intro o ho
    have := hos o ho
    cases o with
    | pipeRead q a =>
      have hq : q ≠ p := fun hq => hpart (by rw [← this, hq]; rfl)
      cases a <;> simp [Obs.ends, hq]
    | _ => simp [Obs.ends]
  have hbytes : pipeBytes p os = [] := by
    rw [pipeBytes, List.flatMap_eq_nil_iff]
    intro o ho
    have := hos o ho
    cases o with
    | pipeRead q a =>
      have hq : q ≠ p := fun hq => hpart (by rw [← this, hq]; rfl)
      cases a <;> simp [Obs.pipeBytes, hq]
    | _ => rfl
  have hclosed : os.count (.closed p) = 0 := by
    rw [List.count_eq_zero]
    intro ho
    exact hpart (hos _ ho).symm
  constructor
  · rw [hpipe, htrace, h.isOpen, List.any_append, hends, Bool.or_false]
  · rw [hpipe, htrace, h.buffer, pipeBytes_append, hbytes, List.append_nil]
  · rw [hpipe, htrace, List.count_append, hclosed, Nat.add_zero, h.closed]

theorem ChildInv.frame (h : ChildInv pid s) (hlog : Logged part s s') (hpart : part ≠ .child)
    (hpid : s'.pid = s.pid) (hexited : s'.exited = s.exited) (hkillAt : s'.killAt = s.killAt)
    (hstatus : s'.status = s.status) : ChildInv pid s' := by
  obtain ⟨os, htrace, hos⟩ := hlog
  have hgone : os.any Obs.gone = false := by
    rw [List.any_eq_false]
    intro o ho
    have := hos o ho
    cases o <;> simp_all [Obs.part, Obs.gone]
  have hmem : ∀ o, o.part = .child → (o ∈ s'.trace ↔ o ∈ s.trace) := by
    intro o ho
    rw [htrace, List.mem_append]
    exact or_iff_left fun hin => hpart ((hos o hin).symm.trans ho)
  refine ⟨hpid.trans h.child, ?_, ?_, ?_, fun status hin => ?_⟩
  · rw [hexited, htrace, h.exited, List.any_append, hgone, Bool.or_false]
  · simpa only [hkillAt, hmem (.kill _ .sigterm _) rfl] using h.killAt
  · rw [htrace]
    refine h.signals.append fun o ho pre target signal time heq => ?_
    exact absurd ((hos o ho).symm.trans (by rw [heq]; rfl)) hpart
  · rw [hexited, hstatus, hmem _ rfl]
    exact h.status status ((hmem _ rfl).1 hin)

end

/-! ## The blocks of a turn -/

section
variable {s : Collect} {p : Pipe} {pid : GPid} (t : Turn)

theorem pollBlock_trace : ∃ os, (pollBlock t s).trace = s.trace ++ os ∧
    ∀ o ∈ os, o = .polled t.poll ∨ o = .interrupted := by
  unfold pollBlock
  by_cases hpoll : t.poll = .failed <;> cases t.interrupted
  · exact ⟨[.polled t.poll], by simp [hpoll, Collect.log], by simp⟩
  · exact ⟨[.polled t.poll, .interrupted], by simp [hpoll, Collect.log], by simp⟩
  · exact ⟨[.polled t.poll], by simp [hpoll, Collect.log], by simp⟩
  · exact ⟨[.polled t.poll, .interrupted], by simp [hpoll, Collect.log], by simp⟩

theorem pollBlock_logged : Logged .input s (pollBlock t s) := by
  obtain ⟨os, htrace, hos⟩ := pollBlock_trace (s := s) t
  exact ⟨os, htrace, fun o ho => by rcases hos o ho with rfl | rfl <;> rfl⟩

theorem pollBlock_keeps : (pollBlock t s).pipes = s.pipes ∧ (pollBlock t s).line = s.line ∧
    (pollBlock t s).pid = s.pid ∧ (pollBlock t s).exited = s.exited ∧
    (pollBlock t s).killAt = s.killAt ∧ (pollBlock t s).status = s.status := by
  unfold pollBlock
  dsimp only
  split_ifs <;> exact ⟨rfl, rfl, rfl, rfl, rfl, rfl⟩

theorem pollBlock_ok (h : s.ok = !s.trace.any Obs.fails) :
    (pollBlock t s).ok = !(pollBlock t s).trace.any Obs.fails := by
  unfold pollBlock
  by_cases hpoll : t.poll = .failed <;> cases t.interrupted <;>
    simp [hpoll, Collect.log, Obs.fails, h]

/-- A failed poll and a caught signal cancel. -/
theorem pollBlock_cancel (h : CancelInv s) : CancelInv (pollBlock t s) := by
  obtain ⟨hcancelled, hline⟩ := h
  unfold pollBlock
  by_cases hpoll : t.poll = .failed <;> cases t.interrupted <;> constructor <;>
    simp [hpoll, Collect.log, SawCancel, SawQuit, Obs.cancels, Obs.stdinByte, hcancelled, hline]

theorem stdinBlock_logged : Logged .input s (stdinBlock t s) := by
  unfold stdinBlock
  cases stdinReady t s with
  | false => exact ⟨[], (List.append_nil _).symm, by simp⟩
  | true =>
    refine ⟨[.stdinRead t.stdin], ?_, by simp [Obs.part]⟩
    simp only [if_true]
    cases hread : t.stdin with
    | byte c =>
      dsimp only
      split_ifs <;> rfl
    | eof | eintr | failed => rfl

theorem stdinBlock_keeps : (stdinBlock t s).pipes = s.pipes ∧ (stdinBlock t s).pid = s.pid ∧
    (stdinBlock t s).exited = s.exited ∧ (stdinBlock t s).killAt = s.killAt ∧
    (stdinBlock t s).status = s.status := by
  unfold stdinBlock
  cases stdinReady t s with
  | false => exact ⟨rfl, rfl, rfl, rfl, rfl⟩
  | true =>
    simp only [if_true]
    cases t.stdin with
    | byte c =>
      dsimp only
      split_ifs <;> exact ⟨rfl, rfl, rfl, rfl, rfl⟩
    | eof | eintr | failed => exact ⟨rfl, rfl, rfl, rfl, rfl⟩

theorem stdinBlock_ok (h : s.ok = !s.trace.any Obs.fails) :
    (stdinBlock t s).ok = !(stdinBlock t s).trace.any Obs.fails := by
  unfold stdinBlock
  cases stdinReady t s with
  | false => exact h
  | true =>
    simp only [if_true]
    cases t.stdin with
    | byte c =>
      dsimp only
      split_ifs <;> simp [Collect.log, Obs.fails, h]
    | eof | eintr | failed => simp [Collect.log, Obs.fails, h]

/-- The end of the standard input and a `QUIT` line cancel. -/
theorem stdinBlock_cancel (h : CancelInv s) : CancelInv (stdinBlock t s) := by
  obtain ⟨hcancelled, hline⟩ := h
  unfold stdinBlock
  cases stdinReady t s with
  | false => exact ⟨hcancelled, hline⟩
  | true =>
    simp only [if_true]
    cases t.stdin with
    | eof | eintr | failed =>
      constructor <;> simp [Collect.log, SawCancel, SawQuit, Obs.cancels, Obs.stdinByte, hcancelled,
        hline]
    | byte c =>
      have hbuffered := buffered_append_singleton isLineEnd 15 (stdinBytes s.trace) c
      have hquit := sawQuit_append_singleton s.trace (.stdinRead (.byte c))
      simp only [Obs.stdinByte, Option.mem_def, Option.some.injEq, exists_eq_left',
        ← hline] at hquit
      rw [← hline, bufferItem] at hbuffered
      dsimp only [Collect.log]
      cases hend : isLineEnd c with
      | true =>
        simp only [hend, if_true, true_and] at hbuffered hquit ⊢
        constructor
        · simp only [Bool.or_eq_true, beq_iff_eq, hcancelled, SawCancel, hquit, List.any_append]
          simp [Obs.cancels, or_assoc]
        · simp [Obs.stdinByte, hbuffered]
      | false =>
        simp only [hend, Bool.false_eq_true, if_false, false_and, or_false] at hbuffered hquit ⊢
        have hsaw : SawCancel (s.trace ++ [.stdinRead (.byte c)]) ↔ SawCancel s.trace := by
          simp [SawCancel, hquit, Obs.cancels]
        have hsize : s.line.length + 1 < lineSize ↔ s.line.length < 15 := by
          unfold lineSize
          omega
        simp only [hsize]
        split_ifs at hbuffered ⊢ <;>
          exact ⟨hcancelled.trans hsaw.symm, by simp [Obs.stdinByte, hbuffered]⟩

theorem pipeBlock_logged : Logged (.pipe p) s (pipeBlock p t s) := by
  unfold pipeBlock
  cases pipeReady p t s with
  | false => exact ⟨[], (List.append_nil _).symm, by simp⟩
  | true =>
    cases hread : t.pipe p with
    | chunk | eintr => exact ⟨[.pipeRead p (t.pipe p)], by simp [hread, Collect.log, Collect.setPipe],
        by simp [Obs.part]⟩
    | eof | failed =>
      refine ⟨[.pipeRead p (t.pipe p), .closed p], ?_, by simp [Obs.part]⟩
      simp [hread, Collect.log, Collect.closePipe, Collect.setPipe]

theorem pipeBlock_keeps : (pipeBlock p t s).cancelled = s.cancelled ∧
    (pipeBlock p t s).line = s.line ∧ (pipeBlock p t s).pid = s.pid ∧
    (pipeBlock p t s).exited = s.exited ∧ (pipeBlock p t s).killAt = s.killAt ∧
    (pipeBlock p t s).status = s.status ∧ ∀ q, q ≠ p → (pipeBlock p t s).pipes q = s.pipes q := by
  unfold pipeBlock
  cases pipeReady p t s with
  | false => exact ⟨rfl, rfl, rfl, rfl, rfl, rfl, fun _ _ => rfl⟩
  | true =>
    simp only [if_true]
    cases t.pipe p with
    | eintr => exact ⟨rfl, rfl, rfl, rfl, rfl, rfl, fun _ _ => rfl⟩
    | chunk | eof | failed =>
      exact ⟨rfl, rfl, rfl, rfl, rfl, rfl, fun q hq => Function.update_of_ne hq ..⟩

theorem pipeBlock_ok (h : s.ok = !s.trace.any Obs.fails) :
    (pipeBlock p t s).ok = !(pipeBlock p t s).trace.any Obs.fails := by
  unfold pipeBlock
  cases pipeReady p t s with
  | false => exact h
  | true =>
    simp only [if_true]
    cases t.pipe p <;>
      simp [Collect.log, Collect.closePipe, Collect.setPipe, Obs.fails, h]

theorem isOpen_of_pipeReady {t : Turn} (h : pipeReady p t s = true) :
    (s.pipes p).isOpen = true := by
  unfold pipeReady at h
  split at h
  · exact (Bool.and_eq_true _ _ ▸ h).1
  · exact (Bool.and_eq_true _ _ ▸ h).1
  · cases h

/-- A pipe is read in order, and closed once, at its end or when it fails. -/
theorem pipeBlock_pipe (h : PipeInv p s) : PipeInv p (pipeBlock p t s) := by
  obtain ⟨hopen, hbuffer, hclosed⟩ := h
  unfold pipeBlock
  cases hready : pipeReady p t s with
  | false => exact ⟨hopen, hbuffer, hclosed⟩
  | true =>
    have hwas := isOpen_of_pipeReady hready
    rw [hwas] at hopen hclosed
    have hends : s.trace.any (Obs.ends p) = false := by simpa using hopen.symm
    simp only [if_true]
    cases t.pipe p with
    | chunk b bs | eintr =>
      constructor <;> simp [Collect.log, Collect.setPipe, Obs.ends, Obs.pipeBytes, hwas, hends,
        hbuffer, hclosed]
    | eof | failed =>
      constructor <;> simp [Collect.log, Collect.closePipe, Collect.setPipe, Obs.ends,
        Obs.pipeBytes, hbuffer, hclosed]

theorem killBlock_logged : Logged .child s (killBlock t s) := by
  unfold killBlock
  split_ifs
  · dsimp only
    split_ifs
    · exact ⟨[_], rfl, by simp [Obs.part]⟩
    · exact ⟨[_], rfl, by simp [Obs.part]⟩
    · exact ⟨[], (List.append_nil _).symm, by simp⟩
  · exact ⟨[], (List.append_nil _).symm, by simp⟩

theorem killBlock_keeps : (killBlock t s).cancelled = s.cancelled ∧
    (killBlock t s).line = s.line ∧ (killBlock t s).pipes = s.pipes := by
  unfold killBlock
  dsimp only
  split_ifs <;> exact ⟨rfl, rfl, rfl⟩

theorem killBlock_ok (h : s.ok = !s.trace.any Obs.fails) :
    (killBlock t s).ok = !(killBlock t s).trace.any Obs.fails := by
  unfold killBlock
  dsimp only
  split_ifs <;> simp [Collect.log, Obs.fails, h]

/-- The child is sent SIGTERM once, and SIGKILL when its time is over. -/
theorem killBlock_child (h : ChildInv pid s) : ChildInv pid (killBlock t s) := by
  obtain ⟨hpid, hexited, hkillAt, hsignals, hstatus⟩ := h
  unfold killBlock
  split_ifs with hcancelled
  · dsimp only
    split_ifs with hterm hkill
    · simp only [Bool.and_eq_true, Bool.not_eq_true', beq_iff_eq] at hterm
      obtain ⟨halive, hzero⟩ := hterm
      have hnone : ∀ target time, .kill target .sigterm time ∉ s.trace := by
        rcases hkillAt with ⟨-, hnone⟩ | ⟨time, htime, -⟩
        · exact hnone
        · rw [htime, killDelay] at hzero
          omega
      refine ⟨hpid, by simpa [Collect.log, Obs.gone] using hexited, ?_, ?_, ?_⟩
      · exact .inr ⟨t.clock, rfl, by simp [Collect.log, hpid]⟩
      · refine eachAfter_append_singleton.2 ⟨hsignals, fun target signal time heq => ?_⟩
        cases heq
        exact ⟨by rw [hpid], by rw [← hexited, halive], .inl ⟨rfl, hnone⟩⟩
      · simpa [Collect.log] using hstatus
    · simp only [Bool.and_eq_true, Bool.not_eq_true', decide_eq_true_eq] at hkill
      obtain ⟨halive, hdue⟩ := hkill
      have hsent : ∃ time, s.killAt = time + killDelay ∧
          .kill (.process pid) .sigterm time ∈ s.trace := by
        rcases hkillAt with ⟨hzero, -⟩ | hsent
        · simp [halive, hzero] at hterm
        · exact hsent
      obtain ⟨time, htime, hmem⟩ := hsent
      refine ⟨hpid, by simpa [Collect.log, Obs.gone] using hexited, ?_, ?_, ?_⟩
      · exact .inr ⟨time, htime, by simp [Collect.log, hmem]⟩
      · refine eachAfter_append_singleton.2 ⟨hsignals, fun target signal time' heq => ?_⟩
        cases heq
        exact ⟨by rw [hpid], by rw [← hexited, halive], .inr ⟨rfl, time, hmem, htime ▸ hdue⟩⟩
      · simpa [Collect.log] using hstatus
    · exact ⟨hpid, hexited, hkillAt, hsignals, hstatus⟩
  · exact ⟨hpid, hexited, hkillAt, hsignals, hstatus⟩

theorem waitBlock_logged : Logged .child s (waitBlock t s) := by
  unfold waitBlock
  split_ifs
  · exact ⟨[], (List.append_nil _).symm, by simp⟩
  · dsimp only
    split <;> exact ⟨[.waited t.wait], rfl, by simp [Obs.part]⟩

theorem waitBlock_keeps : (waitBlock t s).cancelled = s.cancelled ∧
    (waitBlock t s).line = s.line ∧ (waitBlock t s).pipes = s.pipes := by
  unfold waitBlock
  split_ifs
  · exact ⟨rfl, rfl, rfl⟩
  · dsimp only
    split <;> exact ⟨rfl, rfl, rfl⟩

theorem waitBlock_ok (h : s.ok = !s.trace.any Obs.fails) :
    (waitBlock t s).ok = !(waitBlock t s).trace.any Obs.fails := by
  unfold waitBlock
  split_ifs
  · exact h
  · dsimp only
    cases t.wait <;> simp [Collect.log, Obs.fails, h]

/-- The child is waited for until it is gone. -/
theorem waitBlock_child (h : ChildInv pid s) : ChildInv pid (waitBlock t s) := by
  obtain ⟨hpid, hexited, hkillAt, hsignals, hstatus⟩ := h
  unfold waitBlock
  split_ifs with hwas
  · exact ⟨hpid, hexited, hkillAt, hsignals, hstatus⟩
  · have hgone : s.trace.any Obs.gone = false := by rw [← hexited]; simpa using hwas
    have hnone : ∀ status, .waited (.reaped status) ∉ s.trace := fun status hin =>
      hwas (hstatus status hin).1
    have hkept : ∀ o : Obs, (∀ target signal time, o ≠ .kill target signal time) →
        ((s.killAt = 0 ∧ ∀ target time, .kill target .sigterm time ∉ s.trace ++ [o]) ∨
          ∃ time, s.killAt = time + killDelay ∧
            .kill (.process pid) .sigterm time ∈ s.trace ++ [o]) ∧
        EachAfter (SignalOk pid) (s.trace ++ [o]) := by
      intro o ho
      refine ⟨?_, eachAfter_append_singleton.2 ⟨hsignals, fun target signal time heq =>
        absurd heq (ho target signal time)⟩⟩
      simpa [Ne.symm (ho _ _ _)] using hkillAt
    have hlost : .waited .failed ∉ s.trace := fun hin =>
      absurd (List.any_eq_false.1 hgone _ hin) (by simp [Obs.gone])
    dsimp only
    cases t.wait with
    | reaped status =>
      exact ⟨hpid, by simp [Collect.log, Obs.gone], (hkept _ (by simp)).1, (hkept _ (by simp)).2,
        by simp [Collect.log, hnone, hlost]⟩
    | running | eintr | failed =>
      exact ⟨hpid, by simp [Collect.log, Obs.gone, hgone, hwas], (hkept _ (by simp)).1,
        (hkept _ (by simp)).2, by simp [Collect.log, hnone]⟩

theorem pollBlock_inv (h : CollectInv pid s) : CollectInv pid (pollBlock t s) := by
  obtain ⟨hpipes, -, hpid, hexited, hkillAt, hstatus⟩ := pollBlock_keeps (s := s) t
  exact ⟨pollBlock_cancel t h.cancel,
    fun p => (h.pipe p).frame (pollBlock_logged t) (by simp) (congrFun hpipes p),
    h.child.frame (pollBlock_logged t) (by simp) hpid hexited hkillAt hstatus,
    pollBlock_ok t h.ok⟩

theorem stdinBlock_inv (h : CollectInv pid s) : CollectInv pid (stdinBlock t s) := by
  obtain ⟨hpipes, hpid, hexited, hkillAt, hstatus⟩ := stdinBlock_keeps (s := s) t
  exact ⟨stdinBlock_cancel t h.cancel,
    fun p => (h.pipe p).frame (stdinBlock_logged t) (by simp) (congrFun hpipes p),
    h.child.frame (stdinBlock_logged t) (by simp) hpid hexited hkillAt hstatus,
    stdinBlock_ok t h.ok⟩

theorem pipeBlock_inv (p : Pipe) (h : CollectInv pid s) : CollectInv pid (pipeBlock p t s) := by
  obtain ⟨hcancelled, hline, hpid, hexited, hkillAt, hstatus, hpipes⟩ :=
    pipeBlock_keeps (s := s) (p := p) t
  refine ⟨h.cancel.frame (pipeBlock_logged t) (by simp) hcancelled hline, fun q => ?_,
    h.child.frame (pipeBlock_logged t) (by simp) hpid hexited hkillAt hstatus,
    pipeBlock_ok t h.ok⟩
  by_cases hq : q = p
  · subst hq
    exact pipeBlock_pipe t (h.pipe q)
  · exact (h.pipe q).frame (pipeBlock_logged t) (by simpa using Ne.symm hq) (hpipes q hq)

theorem killBlock_inv (h : CollectInv pid s) : CollectInv pid (killBlock t s) := by
  obtain ⟨hcancelled, hline, hpipes⟩ := killBlock_keeps (s := s) t
  exact ⟨h.cancel.frame (killBlock_logged t) (by simp) hcancelled hline,
    fun p => (h.pipe p).frame (killBlock_logged t) (by simp) (congrFun hpipes p),
    killBlock_child t h.child, killBlock_ok t h.ok⟩

theorem waitBlock_inv (h : CollectInv pid s) : CollectInv pid (waitBlock t s) := by
  obtain ⟨hcancelled, hline, hpipes⟩ := waitBlock_keeps (s := s) t
  exact ⟨h.cancel.frame (waitBlock_logged t) (by simp) hcancelled hline,
    fun p => (h.pipe p).frame (waitBlock_logged t) (by simp) (congrFun hpipes p),
    waitBlock_child t h.child, waitBlock_ok t h.ok⟩

/-- A turn keeps the invariant. -/
theorem CollectInv.turn (h : CollectInv pid s) : CollectInv pid (s.turn t) :=
  waitBlock_inv t (killBlock_inv t (pipeBlock_inv t .stderr (pipeBlock_inv t .stdout
    (stdinBlock_inv t (pollBlock_inv t h)))))

end

/-- The invariant holds after any number of turns. -/
theorem CollectInv.loop {pid : GPid} : ∀ (turns : List Turn) {s : Collect}, CollectInv pid s →
    CollectInv pid (collectLoop turns s)
  | [], _, h => h
  | t :: turns, s, h => by
      unfold collectLoop
      split
      · exact h
      · exact (h.turn t).loop turns

/-! ## The result -/

/-- A trace that saw no cancellation, and in which `waitpid` returned the child and both pipes were
read to their ends without an error. -/
structure Completed (trace : List Obs) : Prop where
  uncancelled : ¬SawCancel trace
  reaped : ∃ status, .waited (.reaped status) ∈ trace
  eof : ∀ p, .pipeRead p .eof ∈ trace ∧ .pipeRead p .failed ∉ trace

/-- A pipe is closed once its end, or an error on it, has been read. -/
theorem PipeInv.closed_iff {p : Pipe} {s : Collect} (h : PipeInv p s) :
    (s.pipes p).isOpen = false ↔
      .pipeRead p .eof ∈ s.trace ∨ .pipeRead p .failed ∈ s.trace := by
  rw [h.isOpen, Bool.not_eq_false', List.any_eq_true]
  constructor
  · rintro ⟨o, ho, hends⟩
    unfold Obs.ends at hends
    split at hends
    · exact .inl (of_decide_eq_true hends ▸ ho)
    · exact .inr (of_decide_eq_true hends ▸ ho)
    · cases hends
  · rintro (hin | hin)
    · exact ⟨_, hin, by simp [Obs.ends]⟩
    · exact ⟨_, hin, by simp [Obs.ends]⟩

/-- The loop is over with a good result exactly when its trace is complete. -/
theorem completed_iff {pid : GPid} {s : Collect} (h : CollectInv pid s) :
    (s.finished = true ∧ s.ok = true ∧ s.cancelled = false) ↔ Completed s.trace := by
  have hcancelled : s.cancelled = false ↔ ¬SawCancel s.trace := by
    rw [← h.cancel.cancelled, Bool.not_eq_true]
  constructor
  · rintro ⟨hfinished, hok, huncancelled⟩
    have hclean : ∀ o ∈ s.trace, o.fails = false := by
      have hnone : s.trace.any Obs.fails = false := by simpa [hok] using h.ok
      simpa using hnone
    simp only [Collect.finished, huncancelled, Bool.false_or, Bool.and_eq_true,
      Bool.not_eq_true'] at hfinished
    obtain ⟨hexited, hout, herr⟩ := hfinished
    have hfailed : ∀ p, .pipeRead p .failed ∉ s.trace := by
      intro p hin
      exact absurd (hclean _ hin) (by simp [Obs.fails])
    refine ⟨hcancelled.1 huncancelled, ?_, fun p => ⟨?_, hfailed p⟩⟩
    · rw [h.child.exited, List.any_eq_true] at hexited
      obtain ⟨o, ho, hgone⟩ := hexited
      unfold Obs.gone at hgone
      split at hgone
      · exact ⟨_, ho⟩
      · exact absurd (hclean _ ho) (by simp [Obs.fails])
      · cases hgone
    · have hclosed : (s.pipes p).isOpen = false := by
        cases p with
        | stdout => exact hout
        | stderr => exact herr
      exact ((h.pipe p).closed_iff.1 hclosed).resolve_right (hfailed p)
  · rintro ⟨huncancelled, ⟨status, hreaped⟩, heof⟩
    obtain ⟨hexited, -, hlost⟩ := h.child.status status hreaped
    have hok : s.ok = true := by
      rw [h.ok, Bool.not_eq_true', List.any_eq_false]
      intro o ho hfails
      unfold Obs.fails at hfails
      split at hfails
      · exact huncancelled (.inl (List.any_eq_true.2 ⟨_, ho, rfl⟩))
      · exact (heof _).2 ho
      · exact hlost ho
      · cases hfails
    refine ⟨?_, hok, hcancelled.2 huncancelled⟩
    have hout := (h.pipe .stdout).closed_iff.2 (.inl (heof .stdout).1)
    have herr := (h.pipe .stderr).closed_iff.2 (.inl (heof .stderr).1)
    simp [Collect.finished, hexited, hout, herr]

/-- What `collect_auth` returns while its loop is not over, or after it. -/
theorem collectAuth_spawned (pid : GPid) (turns : List Turn) :
    collectAuth false (.ok pid) turns =
      if (collectLoop turns (.init pid)).finished then some {
        ret := (collectLoop turns (.init pid)).ok && !(collectLoop turns (.init pid)).cancelled
        output := some (pipeBytes .stdout (collectLoop turns (.init pid)).trace)
        errors := some (pipeBytes .stderr (collectLoop turns (.init pid)).trace)
        status := (collectLoop turns (.init pid)).status
        error := none
        printed := if (collectLoop turns (.init pid)).cancelled then
          [cstr "Authentication cancelled\n"] else []
        trace := (closePipes (collectLoop turns (.init pid))).trace }
      else none := by
  have h := (CollectInv.init pid).loop turns
  simp only [collectAuth, Bool.false_eq_true, if_false]
  generalize collectLoop turns (.init pid) = s at h ⊢
  have hkept : (closePipes s).ok = s.ok ∧ (closePipes s).cancelled = s.cancelled ∧
      (closePipes s).status = s.status ∧
      ∀ p, ((closePipes s).pipes p).buffer = (s.pipes p).buffer := by
    unfold closePipes
    dsimp only
    split_ifs <;> refine ⟨rfl, rfl, rfl, fun p => ?_⟩ <;> cases p <;> rfl
  obtain ⟨hok, hcancelled, hstatus, hbuffer⟩ := hkept
  rw [hok, hcancelled, hstatus, hbuffer, hbuffer, (h.pipe .stdout).buffer, (h.pipe .stderr).buffer]

/-- A good result of `collect_auth` is that of a complete trace, with all the bytes of each pipe in
their order and the status that `waitpid` gave. -/
theorem collectAuth_good {interrupted : Bool} {spawn : Except GError GPid} {turns : List Turn}
    {r : CollectResult} (h : collectAuth interrupted spawn turns = some r) (hret : r.ret = true) :
    ∃ pid, interrupted = false ∧ spawn = .ok pid ∧
      Completed (collectLoop turns (.init pid)).trace ∧
      r.output = some (pipeBytes .stdout (collectLoop turns (.init pid)).trace) ∧
      r.errors = some (pipeBytes .stderr (collectLoop turns (.init pid)).trace) ∧
      .waited (.reaped r.status) ∈ (collectLoop turns (.init pid)).trace := by
  cases interrupted with
  | true =>
    cases h
    cases hret
  | false =>
    cases spawn with
    | error e =>
      cases h
      cases hret
    | ok pid =>
      have hinv := (CollectInv.init pid).loop turns
      rw [collectAuth_spawned] at h
      split at h
      next hfinished =>
        obtain rfl := Option.some.inj h
        simp only [Bool.and_eq_true, Bool.not_eq_true'] at hret
        have hcompleted := (completed_iff hinv).1 ⟨hfinished, hret⟩
        obtain ⟨status, hreaped⟩ := hcompleted.reaped
        have hstatus := (hinv.child.status status hreaped).2.1
        exact ⟨pid, rfl, rfl, hcompleted, rfl, rfl, hstatus ▸ hreaped⟩
      next => cases h

/-- `collect_auth` returns `TRUE` exactly when it was not interrupted before the spawn, the spawn
succeeded and the trace of its loop is complete. -/
theorem collectAuth_ret_iff (interrupted : Bool) (spawn : Except GError GPid) (turns : List Turn) :
    (∃ r, collectAuth interrupted spawn turns = some r ∧ r.ret = true) ↔
      ∃ pid, interrupted = false ∧ spawn = .ok pid ∧
        Completed (collectLoop turns (.init pid)).trace := by
  constructor
  · rintro ⟨r, h, hret⟩
    obtain ⟨pid, hint, hspawn, hcompleted, -⟩ := collectAuth_good h hret
    exact ⟨pid, hint, hspawn, hcompleted⟩
  · rintro ⟨pid, rfl, rfl, hcompleted⟩
    obtain ⟨hfinished, hok, hcancelled⟩ :=
      (completed_iff ((CollectInv.init pid).loop turns)).2 hcompleted
    rw [collectAuth_spawned, if_pos hfinished]
    exact ⟨_, rfl, by simp [hok, hcancelled]⟩

/-! ## The child -/

section
variable {s : Collect} (t : Turn)

/-- The block of the signals leaves the standard input alone once cancelled. -/
theorem turn_stdinClosed (h : (s.turn t).cancelled = true) : (s.turn t).stdinOpen = false := by
  unfold Collect.turn at h ⊢
  generalize pipeBlock .stderr t _ = s' at h ⊢
  have hcancelled : s'.cancelled = true := by
    rw [← (killBlock_keeps (s := s') t).1, ← (waitBlock_keeps (s := killBlock t s') t).1]
    exact h
  have hwait : (waitBlock t (killBlock t s')).stdinOpen = (killBlock t s').stdinOpen := by
    unfold waitBlock
    split_ifs
    · rfl
    · dsimp only
      split <;> rfl
  rw [hwait]
  unfold killBlock
  dsimp only
  split_ifs <;> rfl

/-- A standard input that is not polled any more is not read. -/
theorem stdinBlock_of_closed (h : s.stdinOpen = false) : stdinBlock t s = s := by
  have hready : stdinReady t s = false := by
    unfold stdinReady
    cases t.poll <;> simp [h]
  unfold stdinBlock
  rw [hready]
  rfl

/-- A turn of a cancelled loop stays cancelled and does not read the standard input. -/
theorem turn_of_cancelled (hcancelled : s.cancelled = true) (hclosed : s.stdinOpen = false) :
    (s.turn t).cancelled = true ∧ ∃ os, (s.turn t).trace = s.trace ++ os ∧
      ∀ o ∈ os, ∀ a, o ≠ .stdinRead a := by
  have hpoll : (pollBlock t s).cancelled = true ∧ (pollBlock t s).stdinOpen = false := by
    unfold pollBlock
    dsimp only
    split_ifs <;> exact ⟨by first | rfl | exact hcancelled, hclosed⟩
  unfold Collect.turn
  rw [stdinBlock_of_closed t hpoll.2]
  obtain ⟨os₁, htrace₁, hos₁⟩ := pollBlock_trace (s := s) t
  generalize pollBlock t s = s₁ at hpoll htrace₁ ⊢
  obtain ⟨os₂, htrace₂, hos₂⟩ := pipeBlock_logged (s := s₁) (p := .stdout) t
  have hout := (pipeBlock_keeps (s := s₁) (p := .stdout) t).1
  generalize pipeBlock .stdout t s₁ = s₂ at htrace₂ hout ⊢
  obtain ⟨os₃, htrace₃, hos₃⟩ := pipeBlock_logged (s := s₂) (p := .stderr) t
  have herr := (pipeBlock_keeps (s := s₂) (p := .stderr) t).1
  generalize pipeBlock .stderr t s₂ = s₃ at htrace₃ herr ⊢
  obtain ⟨os₄, htrace₄, hos₄⟩ := killBlock_logged (s := s₃) t
  have hkill := (killBlock_keeps (s := s₃) t).1
  generalize killBlock t s₃ = s₄ at htrace₄ hkill ⊢
  obtain ⟨os₅, htrace₅, hos₅⟩ := waitBlock_logged (s := s₄) t
  have hwait := (waitBlock_keeps (s := s₄) t).1
  refine ⟨by rw [hwait, hkill, herr, hout, hpoll.1], os₁ ++ (os₂ ++ (os₃ ++ (os₄ ++ os₅))), ?_, ?_⟩
  · rw [htrace₅, htrace₄, htrace₃, htrace₂, htrace₁]
    simp only [List.append_assoc]
  · intro o ho a heq
    subst heq
    simp only [List.mem_append] at ho
    rcases ho with ho | ho | ho | ho | ho
    · rcases hos₁ _ ho with h | h <;> cases h
    · exact absurd (hos₂ _ ho) (by simp [Obs.part])
    · exact absurd (hos₃ _ ho) (by simp [Obs.part])
    · exact absurd (hos₄ _ ho) (by simp [Obs.part])
    · exact absurd (hos₅ _ ho) (by simp [Obs.part])

end

/-- A cancelled loop stays cancelled and reads its standard input no more. -/
theorem loop_of_cancelled : ∀ (turns : List Turn) {s : Collect}, s.cancelled = true →
    s.stdinOpen = false → (collectLoop turns s).cancelled = true ∧
      ∃ os, (collectLoop turns s).trace = s.trace ++ os ∧ ∀ o ∈ os, ∀ a, o ≠ .stdinRead a
  | [], _, hcancelled, _ => ⟨hcancelled, [], (List.append_nil _).symm, by simp⟩
  | t :: turns, s, hcancelled, hclosed => by
      unfold collectLoop
      split
      · exact ⟨hcancelled, [], (List.append_nil _).symm, by simp⟩
      · obtain ⟨hturn, os₁, htrace₁, hos₁⟩ := turn_of_cancelled t hcancelled hclosed
        obtain ⟨hloop, os₂, htrace₂, hos₂⟩ :=
          loop_of_cancelled turns hturn (turn_stdinClosed t hturn)
        refine ⟨hloop, os₁ ++ os₂, by rw [htrace₂, htrace₁, List.append_assoc], fun o ho => ?_⟩
        exact (List.mem_append.1 ho).elim (hos₁ o) (hos₂ o)

/-- A loop that is over makes no more turns. -/
theorem collectLoop_of_finished {s : Collect} (h : s.finished = true) :
    ∀ turns, collectLoop turns s = s
  | [] => rfl
  | t :: turns => by rw [collectLoop, if_pos h]

/-- A loop over more turns goes on where the first ones left it. -/
theorem collectLoop_append : ∀ (turns more : List Turn) (s : Collect),
    collectLoop (turns ++ more) s = collectLoop more (collectLoop turns s)
  | [], _, _ => rfl
  | t :: turns, more, s => by
      rw [List.cons_append, collectLoop, collectLoop]
      split
      next hfinished => exact (collectLoop_of_finished hfinished more).symm
      next => exact collectLoop_append turns more _

/-- A state of the loop that is cancelled has given up its standard input. -/
theorem stdinClosed_of_loop {pid : GPid} (turns : List Turn)
    (h : (collectLoop turns (.init pid)).cancelled = true) :
    (collectLoop turns (.init pid)).stdinOpen = false := by
  induction turns using List.reverseRecOn with
  | nil => cases h
  | append_singleton turns t ih =>
    rw [collectLoop_append] at h ⊢
    unfold collectLoop at h ⊢
    split at h
    next hfinished =>
      rw [if_pos hfinished]
      exact ih h
    next hfinished =>
      rw [if_neg hfinished]
      exact turn_stdinClosed t h

/-- When the loop is over, closing the pipes leaves each closed exactly once, and logs nothing
else. -/
theorem closePipes_trace {pid : GPid} {s : Collect} (h : CollectInv pid s) :
    ∃ os, (closePipes s).trace = s.trace ++ os ∧ (∀ o ∈ os, ∃ p, o = .closed p) ∧
      ∀ p, (closePipes s).trace.count (.closed p) = 1 := by
  have hout := (h.pipe .stdout).closed
  have herr := (h.pipe .stderr).closed
  unfold closePipes
  dsimp only
  cases ho : (s.pipes .stdout).isOpen <;> cases he : (s.pipes .stderr).isOpen <;>
    simp only [ho, he, Bool.false_eq_true, if_false, if_true] at hout herr ⊢
  · refine ⟨[], (List.append_nil _).symm, by simp, fun p => ?_⟩
    cases p with
    | stdout => exact hout
    | stderr => exact herr
  · refine ⟨[.closed .stderr], by simp [Collect.closePipe, Collect.log, Collect.setPipe],
      by simp, fun p => ?_⟩
    cases p <;> simp [Collect.closePipe, Collect.log, Collect.setPipe, hout, herr]
  · refine ⟨[.closed .stdout], by simp [he, Collect.closePipe, Collect.log, Collect.setPipe],
      by simp, fun p => ?_⟩
    cases p <;> simp [he, Collect.closePipe, Collect.log, Collect.setPipe, hout, herr]
  · refine ⟨[.closed .stdout, .closed .stderr],
      by simp [he, Collect.closePipe, Collect.log, Collect.setPipe], by simp, fun p => ?_⟩
    cases p <;> simp [he, Collect.closePipe, Collect.log, Collect.setPipe, hout, herr]

/-- How `collect_auth` treats its child, for the turns it is given.

Each signal goes to the child and comes before `waitpid` reports it gone; SIGTERM is sent once and
SIGKILL two seconds after it. Once cancelled the loop stays cancelled and no later turn reads the
standard input. When the function returns, `waitpid` has reported the child gone and each pipe was
closed exactly once. -/
structure ChildControl (pid : GPid) (turns : List Turn) : Prop where
  signals : EachAfter (SignalOk pid) (collectLoop turns (.init pid)).trace
  sticky : ∀ more, (collectLoop turns (.init pid)).cancelled = true →
    (collectLoop (turns ++ more) (.init pid)).cancelled = true ∧
      ∃ os, (collectLoop (turns ++ more) (.init pid)).trace =
        (collectLoop turns (.init pid)).trace ++ os ∧ ∀ o ∈ os, ∀ a, o ≠ .stdinRead a
  returns : ∀ r, collectAuth false (.ok pid) turns = some r →
    r.trace.any Obs.gone = true ∧ (∀ p, r.trace.count (.closed p) = 1) ∧
      EachAfter (SignalOk pid) r.trace

/-- `collect_auth` controls its child safely in every run that gets past the spawn. -/
theorem childControl (pid : GPid) (turns : List Turn) : ChildControl pid turns where
  signals := ((CollectInv.init pid).loop turns).child.signals
  sticky more hcancelled := by
    rw [collectLoop_append]
    exact loop_of_cancelled more hcancelled (stdinClosed_of_loop turns hcancelled)
  returns := by
    intro r hr
    have hinv := (CollectInv.init pid).loop turns
    rw [collectAuth_spawned] at hr
    split at hr
    next hfinished =>
      obtain rfl := Option.some.inj hr
      obtain ⟨os, htrace, hos, hclosed⟩ := closePipes_trace hinv
      have hgone : (collectLoop turns (.init pid)).trace.any Obs.gone = true := by
        rw [← hinv.child.exited]
        exact (Bool.and_eq_true _ _ ▸ hfinished).1
      refine ⟨by simp only [htrace, List.any_append, hgone, Bool.true_or], hclosed, ?_⟩
      simp only [htrace]
      refine hinv.child.signals.append fun o ho pre target signal time heq => ?_
      obtain ⟨p, rfl⟩ := hos o ho
      cases heq
    next => cases hr

end NmGpclient
