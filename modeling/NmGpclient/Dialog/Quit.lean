import NmGpclient.Dialog.CollectTrace
import NmGpclient.Dialog.Main

/-!
# A `QUIT` in two phases

NetworkManager may cancel at any time by a `QUIT` line. While gpauth runs `collect_auth` reads the
standard input, after the response `wait_for_quit_or_eof` does, each a byte at a time into a buffer
of its own. What `collect_auth` has read of a line that has not ended is lost when gpauth exits: the
wait starts with an empty buffer, misses a `QUIT` of which the first bytes came before, and takes
the rest of another line for one.
-/

namespace NmGpclient

/-- A turn of the wait that reads a byte, without a signal or a timeout. -/
def QuitTurn.ofByte (c : UInt8) : QuitTurn := ⟨false, true, some c⟩

/-- `collect_auth` has cancelled, or the wait that follows it has ended, after the turns of the one
and the bytes that the other reads. -/
def quitRecognised (pid : GPid) (turns : List Turn) (post : List UInt8) : Prop :=
  (collectLoop turns (.init pid)).cancelled = true ∨
    waitForQuitOrEof (post.map QuitTurn.ofByte) [] = true

instance (pid : GPid) (turns : List Turn) (post : List UInt8) :
    Decidable (quitRecognised pid turns post) :=
  inferInstanceAs (Decidable (_ ∨ _))

/-- What `collect_auth` has read of the standard input. -/
def collectedBytes (pid : GPid) (turns : List Turn) : List UInt8 :=
  stdinBytes (collectLoop turns (.init pid)).trace

/-- A `QUIT` is recognised exactly when it is a line of all that was read, and no byte later: this
holds after each turn of `collect_auth` and after each byte of the wait. -/
structure QuitHonoured (pid : GPid) (turns : List Turn) (post : List UInt8) : Prop where
  collecting : ∀ n, (collectLoop (turns.take n) (.init pid)).cancelled = true ↔
    HasSegment isLineEnd quitWord (collectedBytes pid (turns.take n))
  waiting : ∀ n, quitRecognised pid turns (post.take n) ↔
    HasSegment isLineEnd quitWord (collectedBytes pid turns ++ post.take n)

/-! ## The wait -/

/-- The wait recognises the lines of what it reads, with what its buffer holds before them. -/
theorem waitForQuitOrEof_bytes : ∀ {input : List UInt8} (post : List UInt8),
    ¬HasSegment isLineEnd quitWord input →
    (waitForQuitOrEof (post.map QuitTurn.ofByte) (buffered isLineEnd 15 input) = true ↔
      HasSegment isLineEnd quitWord (input ++ post))
  | input, [], hnot => by simpa [waitForQuitOrEof] using hnot
  | input, c :: post, hnot => by
      have hword : quitWord.length < 15 := by decide
      have hnext := hasSegment_append_singleton isLineEnd hword input c
      have hbuffer := buffered_append_singleton isLineEnd 15 input c
      have hstep : HasSegment isLineEnd quitWord (input ++ c :: post) ↔
          HasSegment isLineEnd quitWord (input ++ [c] ++ post) := by simp
      rw [hstep, List.map_cons]
      unfold waitForQuitOrEof
      simp only [QuitTurn.ofByte, Bool.not_true, Bool.or_self, Bool.false_eq_true, if_false]
      cases hc : isLineEnd c with
      | true =>
        rw [if_pos rfl]
        by_cases hquit : buffered isLineEnd 15 input = quitWord
        · have hseen : HasSegment isLineEnd quitWord (input ++ [c]) := hnext.2 (.inr ⟨hc, hquit⟩)
          have hall : HasSegment isLineEnd quitWord (input ++ [c] ++ post) :=
            (hasSegment_append isLineEnd).2 (.inl hseen)
          exact ⟨fun _ => hall, fun _ => by simp [hquit]⟩
        · have hnot' : ¬HasSegment isLineEnd quitWord (input ++ [c]) := by
            rw [hnext]
            simp [hnot, hquit]
          have ih := waitForQuitOrEof_bytes post hnot'
          rw [hbuffer, bufferItem, hc, if_pos rfl] at ih
          simpa [hquit, QuitTurn.ofByte] using ih
      | false =>
        have hnot' : ¬HasSegment isLineEnd quitWord (input ++ [c]) := by
          rw [hnext]
          simp [hnot, hc]
        have ih := waitForQuitOrEof_bytes post hnot'
        have hroom : ∀ line : List UInt8, line.length + 1 < lineSize ↔ line.length < 15 := by
          intro line
          unfold lineSize
          omega
        rw [hbuffer, bufferItem, hc] at ih
        simpa [hroom, QuitTurn.ofByte] using ih

/-- The wait by itself recognises the lines of what it reads. -/
theorem waitForQuitOrEof_iff (post : List UInt8) :
    waitForQuitOrEof (post.map QuitTurn.ofByte) [] = true ↔
      HasSegment isLineEnd quitWord post := by
  have hnone : ¬HasSegment isLineEnd quitWord [] := by simp [HasSegment]
  have h := waitForQuitOrEof_bytes post hnone
  rwa [buffered_nil, List.nil_append] at h

/-! ## The two phases -/

/-- A turn adds to what the loop has seen. -/
theorem turn_trace (s : Collect) (t : Turn) : s.trace <+: (s.turn t).trace := by
  have hgrown : ∀ {part : Part} {s s' : Collect}, Logged part s s' → s.trace <+: s'.trace := by
    rintro part s s' ⟨os, htrace, -⟩
    exact ⟨os, htrace.symm⟩
  unfold Collect.turn
  exact (hgrown (pollBlock_logged t)).trans <| (hgrown (stdinBlock_logged t)).trans <|
    (hgrown (pipeBlock_logged t)).trans <| (hgrown (pipeBlock_logged t)).trans <|
    (hgrown (killBlock_logged t)).trans (hgrown (waitBlock_logged t))

theorem collectLoop_trace : ∀ (turns : List Turn) (s : Collect),
    s.trace <+: (collectLoop turns s).trace
  | [], _ => List.prefix_refl _
  | t :: turns, s => by
      unfold collectLoop
      split
      · exact List.prefix_refl _
      · exact (turn_trace s t).trans (collectLoop_trace turns _)

/-- Without another reason to cancel, the loop has cancelled exactly when it has read a `QUIT`. -/
theorem cancelled_iff_hasSegment (pid : GPid) (turns : List Turn)
    (hquiet : (collectLoop turns (.init pid)).trace.any Obs.cancels = false) :
    (collectLoop turns (.init pid)).cancelled = true ↔
      HasSegment isLineEnd quitWord (collectedBytes pid turns) := by
  rw [((CollectInv.init pid).loop turns).cancel.cancelled, SawCancel, hquiet]
  simp [SawQuit, collectedBytes]

/-- The ended segments of a part of an input are the first ones of the input's. -/
theorem ended_take_prefix (post : List UInt8) (n : Nat) :
    (segments isLineEnd (post.take n)).1 <+: (segments isLineEnd post).1 := by
  have h := segments_append isLineEnd (post.take n) (post.drop n)
  rw [List.take_append_drop] at h
  rw [h]
  cases (segments isLineEnd (post.drop n)).1 with
  | nil => exact List.prefix_refl _
  | cons l ls => exact ⟨_, rfl⟩

/-- The loop over some of the turns has seen a part of what it sees over all of them. -/
theorem collectLoop_take (turns : List Turn) (n : Nat) (s : Collect) :
    (collectLoop (turns.take n) s).trace <+: (collectLoop turns s).trace := by
  have hwhole := collectLoop_append (turns.take n) (turns.drop n) s
  rw [List.take_append_drop] at hwhole
  rw [hwhole]
  exact collectLoop_trace _ _

section
variable {pid : GPid} {turns : List Turn}
  (hquiet : (collectLoop turns (.init pid)).trace.any Obs.cancels = false)

include hquiet

/-- A `QUIT` is recognised in what the loop has read, or in what the wait reads. -/
theorem quitRecognised_iff (post : List UInt8) : quitRecognised pid turns post ↔
    HasSegment isLineEnd quitWord (collectedBytes pid turns) ∨
      HasSegment isLineEnd quitWord post := by
  rw [quitRecognised, cancelled_iff_hasSegment pid turns hquiet, waitForQuitOrEof_iff]

/-- When the wait is right up to the end of its first line, that line is a `QUIT` exactly when it is
one with what `collect_auth` has begun. -/
theorem firstLine_of_honoured {post l : List UInt8} (h : QuitHonoured pid turns post)
    (hunseen : ¬HasSegment isLineEnd quitWord (collectedBytes pid turns))
    (hl : l ∈ (segments isLineEnd post).1.head?) :
    quitWord = l ↔ quitWord = (segments isLineEnd (collectedBytes pid turns)).2 ++ l := by
  obtain ⟨ls, hended⟩ : ∃ ls, (segments isLineEnd post).1 = l :: ls :=
    List.head?_eq_some_iff.1 hl
  obtain ⟨d, rest, rfl, hd, hplain⟩ := eq_append_of_segments_eq_cons isLineEnd hended
  -- up to the end of that line the two recognisers see one line each
  have hfirst := h.waiting (l.length + 1)
  have htake : (l ++ d :: rest).take (l.length + 1) = l ++ [d] := by
    rw [List.take_append, List.take_of_length_le (Nat.le_succ _)]
    simp
  have hone : (segments isLineEnd (l ++ [d])).1 = [l] := by
    rw [segments_append_cons isLineEnd hplain hd]
    rfl
  have hwait : HasSegment isLineEnd quitWord (l ++ [d]) ↔ quitWord = l := by
    rw [HasSegment, hone, List.mem_singleton]
  have hwhole : HasSegment isLineEnd quitWord (collectedBytes pid turns ++ (l ++ [d])) ↔
      quitWord = (segments isLineEnd (collectedBytes pid turns)).2 ++ l := by
    rw [hasSegment_append, hone]
    simp [hunseen]
  rw [htake, quitRecognised_iff hquiet, hwait, hwhole] at hfirst
  simpa [hunseen] using hfirst

/-- The wait is right about any part of what it reads when `collect_auth` has begun no line, or no
`QUIT` is the first line with or without what it has begun. -/
theorem waiting_of_split {post : List UInt8}
    (hsplit : (segments isLineEnd (collectedBytes pid turns)).2 = [] ∨
      ∀ l ∈ (segments isLineEnd post).1.head?, l ≠ quitWord ∧
        (segments isLineEnd (collectedBytes pid turns)).2 ++ l ≠ quitWord) (n : Nat) :
    quitRecognised pid turns (post.take n) ↔
      HasSegment isLineEnd quitWord (collectedBytes pid turns ++ post.take n) := by
  rw [quitRecognised_iff hquiet, hasSegment_append]
  refine or_congr_right ?_
  rw [HasSegment]
  cases hended : (segments isLineEnd (post.take n)).1 with
  | nil => simp
  | cons l ls =>
    have hhead : l ∈ (segments isLineEnd post).1.head? := by
      obtain ⟨more, hmore⟩ := ended_take_prefix post n
      rw [← hmore, hended]
      rfl
    rcases hsplit with hempty | hline
    · simp [hempty]
    · obtain ⟨hl, hbegun⟩ := hline l hhead
      simp [hl.symm, hbegun.symm]

end

/-- A `QUIT` is honoured over the two phases exactly when `collect_auth` has read one, or has read
whole lines only, or the line it has begun and its rest, the first line of the wait, are not a `QUIT`
and the rest is not one by itself. -/
theorem quitHonoured_iff (pid : GPid) (turns : List Turn) (post : List UInt8)
    (hquiet : (collectLoop turns (.init pid)).trace.any Obs.cancels = false) :
    QuitHonoured pid turns post ↔
      HasSegment isLineEnd quitWord (collectedBytes pid turns) ∨
      (segments isLineEnd (collectedBytes pid turns)).2 = [] ∨
      ∀ l ∈ (segments isLineEnd post).1.head?, l ≠ quitWord ∧
        (segments isLineEnd (collectedBytes pid turns)).2 ++ l ≠ quitWord := by
  constructor
  · intro h
    by_contra hnot
    push Not at hnot
    obtain ⟨hunseen, hbegun, l, hl, hline⟩ := hnot
    have hsame := firstLine_of_honoured hquiet h hunseen hl
    by_cases hquit : l = quitWord
    · have hboth := hsame.1 hquit.symm
      rw [hquit] at hboth
      exact hbegun (List.self_eq_append_left.1 hboth)
    · exact hquit (hsame.2 (hline hquit).symm).symm
  · intro hsplit
    refine ⟨fun n => ?_, fun n => ?_⟩
    · refine cancelled_iff_hasSegment pid _ ?_
      obtain ⟨os, hos⟩ := collectLoop_take turns n (.init pid)
      rw [← hos, List.any_append, Bool.or_eq_false_iff] at hquiet
      exact hquiet.1
    · rcases hsplit with hseen | hsplit
      · rw [quitRecognised_iff hquiet, hasSegment_append]
        simp [hseen]
      · exact waiting_of_split hquiet hsplit n

/-- A turn of `collect_auth` that reads a byte of the standard input. -/
def byteTurn (c : UInt8) : Turn :=
  ⟨.ready true false false, false, .byte c, fun _ => .eof, 0, .running⟩

/-- A turn in which gpauth exits and both its pipes end. -/
def exitTurn : Turn := ⟨.ready false true true, false, .eof, fun _ => .eof, 0, .reaped 0⟩

/-- gpauth succeeds after two bytes of a `QUIT`. -/
def splitQuit : List Turn := [byteTurn 81, byteTurn 85, exitTurn]

theorem quitHonoured_split :
    QuitHonoured 100 splitQuit (cstr "X\n") ↔
      HasSegment isLineEnd quitWord (collectedBytes 100 splitQuit) ∨
      (segments isLineEnd (collectedBytes 100 splitQuit)).2 = [] ∨
      ∀ l ∈ (segments isLineEnd (cstr "X\n")).1.head?, l ≠ quitWord ∧
        (segments isLineEnd (collectedBytes 100 splitQuit)).2 ++ l ≠ quitWord :=
  quitHonoured_iff 100 splitQuit (cstr "X\n") (by decide)

/-- The rest of the `QUIT` comes after the response: `collect_auth` has returned and the wait goes
on, although the line is a `QUIT`. -/
theorem splitQuit_missed :
    ((collectAuth false (.ok 100) splitQuit).map CollectResult.ret = some true ∧
      ¬quitRecognised 100 splitQuit (cstr "IT\n")) ∧
    HasSegment isLineEnd quitWord (collectedBytes 100 splitQuit ++ cstr "IT\n") := by
  decide +kernel

end NmGpclient
