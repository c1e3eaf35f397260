import Mathlib.Logic.Function.Basic
import NmGpclient.Lib.Lines
import NmGpclient.Settings

/-!
# Collecting gpauth's answer

`collect_auth` runs gpauth, drains its two output pipes, and watches its own standard input for
NetworkManager's cancellation. One turn of its loop polls the three descriptors, reads what is
ready, escalates from SIGTERM to SIGKILL once cancelled, and asks `waitpid` about the child; the
answers of a turn's calls are a `Turn`. The state carries a trace of everything the loop has seen
and done, which the code does not keep.
-/

namespace NmGpclient

/-! ## What the calls answer -/

/-- `poll`: which of the standard input and the two pipes have events, a timeout, or an error. -/
inductive PollAnswer where
  | ready (stdin stdout stderr : Bool)
  | timeout
  | eintr
  | failed
deriving DecidableEq, Repr

/-- `read` of one byte of the standard input. -/
inductive StdinRead where
  | byte (c : UInt8)
  | eof
  | eintr
  | failed
deriving DecidableEq, Repr

/-- `read` of a pipe; a chunk is not empty. -/
inductive PipeRead where
  | chunk (b : UInt8) (bs : List UInt8)
  | eof
  | eintr
  | failed
deriving DecidableEq, Repr

/-- `waitpid` with `WNOHANG`: the child with its status, no change, or an error. -/
inductive WaitAnswer where
  | reaped (status : Nat)
  | running
  | eintr
  | failed
deriving DecidableEq, Repr

/-- The two pipes from gpauth. -/
inductive Pipe where
  | stdout
  | stderr
deriving DecidableEq, Repr

/-- The answers of one turn of the loop; `interrupted` is the flag of the signal handler and `clock`
the monotonic time in microseconds. -/
structure Turn where
  poll : PollAnswer
  interrupted : Bool
  stdin : StdinRead
  pipe : Pipe → PipeRead
  clock : Nat
  wait : WaitAnswer

/-- What the loop sees and does. A signal is logged with the clock that the loop read with it. -/
inductive Obs where
  | polled (a : PollAnswer)
  | interrupted
  | stdinRead (a : StdinRead)
  | pipeRead (p : Pipe) (a : PipeRead)
  | closed (p : Pipe)
  | kill (target : KillTarget) (signal : Signal) (time : Nat)
  | waited (a : WaitAnswer)
deriving DecidableEq, Repr

/-! ## The loop -/

/-- The reading end of a pipe: whether its descriptor is open, and what was read. -/
structure PipeEnd where
  isOpen : Bool
  buffer : List UInt8
deriving DecidableEq, Repr

/-- The local variables of `collect_auth`; `killAt` is 0 until SIGTERM is sent. -/
structure Collect where
  pid : GPid
  stdinOpen : Bool
  pipes : Pipe → PipeEnd
  line : List UInt8
  cancelled : Bool
  exited : Bool
  ok : Bool
  killAt : Nat
  status : Nat
  trace : List Obs

namespace Collect

/-- The variables after the spawn. -/
def init (pid : GPid) : Collect where
  pid := pid
  stdinOpen := true
  pipes := fun _ => ⟨true, []⟩
  line := []
  cancelled := false
  exited := false
  ok := true
  killAt := 0
  status := 0
  trace := []

variable (s : Collect)

/-- An observation is logged. -/
def log (o : Obs) : Collect := { s with trace := s.trace ++ [o] }

/-- A pipe's end changes. -/
def setPipe (p : Pipe) (e : PipeEnd) : Collect := { s with pipes := Function.update s.pipes p e }

/-- `close (fds[i].fd)`. -/
def closePipe (p : Pipe) : Collect :=
  (s.setPipe p { s.pipes p with isOpen := false }).log (.closed p)

end Collect

/-- The bytes that end a line. -/
def isLineEnd (c : UInt8) : Bool := c == 0 || c == 10

/-- The word that cancels. -/
def quitWord : List UInt8 := cstr "QUIT"

/-- The size of the line buffer, with its NUL. -/
def lineSize : Nat := 16

/-- `2 * G_USEC_PER_SEC`. -/
def killDelay : Nat := 2000000

/-- `poll`, and the look at the signal handler's flag. -/
def pollBlock (t : Turn) (s : Collect) : Collect :=
  let s := s.log (.polled t.poll)
  let s := if t.poll = .failed then { s with ok := false, cancelled := true } else s
  if t.interrupted then { s.log .interrupted with cancelled := true } else s

/-- The standard input has events; `poll` reports none for a descriptor that is -1. -/
def stdinReady (t : Turn) (s : Collect) : Bool :=
  match t.poll with
  | .ready stdin _ _ => stdin && s.stdinOpen
  | _ => false

/-- The standard input is read. -/
def stdinBlock (t : Turn) (s : Collect) : Collect :=
  if stdinReady t s then
    let s := s.log (.stdinRead t.stdin)
    match t.stdin with
    | .eof | .failed => { s with cancelled := true }
    | .eintr => s
    | .byte c =>
      if isLineEnd c then { s with cancelled := s.cancelled || s.line == quitWord, line := [] }
      else if s.line.length + 1 < lineSize then { s with line := s.line ++ [c] }
      else s
  else s

/-- A pipe is open and has events. -/
def pipeReady (p : Pipe) (t : Turn) (s : Collect) : Bool :=
  match t.poll, p with
  | .ready _ stdout _, .stdout => (s.pipes p).isOpen && stdout
  | .ready _ _ stderr, .stderr => (s.pipes p).isOpen && stderr
  | _, _ => false

/-- A pipe is read. -/
def pipeBlock (p : Pipe) (t : Turn) (s : Collect) : Collect :=
  if pipeReady p t s then
    let s := s.log (.pipeRead p (t.pipe p))
    match t.pipe p with
    | .chunk b bs => s.setPipe p { s.pipes p with buffer := (s.pipes p).buffer ++ b :: bs }
    | .eintr => s
    | .eof => s.closePipe p
    | .failed => { s with ok := false }.closePipe p
  else s

/-- Once cancelled the standard input is left alone and the child is signalled. -/
def killBlock (t : Turn) (s : Collect) : Collect :=
  if s.cancelled then
    let s := { s with stdinOpen := false }
    if !s.exited && s.killAt == 0 then
      { s.log (.kill (.process s.pid) .sigterm t.clock) with killAt := t.clock + killDelay }
    else if !s.exited && s.killAt ≤ t.clock then s.log (.kill (.process s.pid) .sigkill t.clock)
    else s
  else s

/-- `waitpid`. -/
def waitBlock (t : Turn) (s : Collect) : Collect :=
  if s.exited then s
  else
    let s := s.log (.waited t.wait)
    match t.wait with
    | .reaped status => { s with exited := true, status := status }
    | .failed => { s with exited := true, ok := false }
    | .running | .eintr => s

/-- One turn of the loop. -/
def Collect.turn (s : Collect) (t : Turn) : Collect :=
  waitBlock t (killBlock t (pipeBlock .stderr t (pipeBlock .stdout t (stdinBlock t (pollBlock t s)))))

/-- The loop is over: its condition is false, or the turn ended with `break`. -/
def Collect.finished (s : Collect) : Bool :=
  s.exited && (s.cancelled || !(s.pipes .stdout).isOpen && !(s.pipes .stderr).isOpen)

/-- The loop, for the answers of its turns; it makes as many turns as it needs. -/
def collectLoop : List Turn → Collect → Collect
  | [], s => s
  | t :: ts, s => if s.finished then s else collectLoop ts (s.turn t)

/-- The pipes that are still open are closed. -/
def closePipes (s : Collect) : Collect :=
  let s := if (s.pipes .stdout).isOpen then s.closePipe .stdout else s
  if (s.pipes .stderr).isOpen then s.closePipe .stderr else s

/-- What `collect_auth` returns and leaves in its out parameters; `printed` is what it writes to the
standard error. -/
structure CollectResult where
  ret : Bool
  output : Option (List UInt8)
  errors : Option (List UInt8)
  status : Nat
  error : Option GError
  printed : List CStr
  trace : List Obs
deriving DecidableEq

/-- `collect_auth`, for the flag at its start, the answer of the spawn and those of the turns; none
while the loop is not over. -/
def collectAuth (interrupted : Bool) (spawn : Except GError GPid) (turns : List Turn) :
    Option CollectResult :=
  if interrupted then some ⟨false, none, none, 0, none, [], []⟩
  else
    match spawn with
    | .error error => some ⟨false, none, none, 0, some error, [], []⟩
    | .ok pid =>
      let s := collectLoop turns (.init pid)
      if s.finished then
        let s := closePipes s
        some {
          ret := s.ok && !s.cancelled
          output := some (s.pipes .stdout).buffer
          errors := some (s.pipes .stderr).buffer
          status := s.status
          error := none
          printed := if s.cancelled then [cstr "Authentication cancelled\n"] else []
          trace := s.trace }
      else none

end NmGpclient
