import NmGpclient.Lib.CStr

/-!
# Processes

Signals, the targets of `kill`, the wait status, and what `g_spawn_sync` answers.
-/

namespace NmGpclient

/-- A process id; 0 is no process. -/
abbrev GPid := Nat

/-- The signals the programs send; `null` is the existence probe, signal 0. -/
inductive Signal where
  | null
  | sigint
  | sigterm
  | sigkill
deriving DecidableEq, Repr

/-- The target of `kill`: a process group (`kill (-pid, …)`) or a process. -/
inductive KillTarget where
  | group (pid : GPid)
  | process (pid : GPid)
deriving DecidableEq, Repr

/-- The process id a target names. -/
def KillTarget.pid : KillTarget → GPid
  | .group p => p
  | .process p => p

/-- The low seven bits of a wait status. -/
def wtermsig (status : Nat) : Nat := status % 128

/-- `WIFEXITED`. -/
def wifexited (status : Nat) : Bool := wtermsig status == 0

/-- `WEXITSTATUS`. -/
def wexitstatus (status : Nat) : Nat := status / 256 % 256

/-- `WIFSIGNALED`. -/
def wifsignaled (status : Nat) : Bool := wtermsig status != 0 && wtermsig status != 127

/-- `WIFSTOPPED`. -/
def wifstopped (status : Nat) : Bool := status % 256 == 127

/-- What `g_spawn_sync` answers: an error of the `GSpawn` domain, or the wait status and the
standard output. -/
inductive SpawnSync where
  | failed (code : Nat) (message : CStr)
  | done (status : Nat) (output : Option CStr)
deriving DecidableEq, Repr

/-- An entry of the account database. -/
structure Passwd where
  name : CStr
  uid : Nat
  gid : Nat
  dir : CStr
deriving DecidableEq, Repr

/-- `write` to a pipe that takes at most `room` bytes, `none` when it fails: how many bytes it
returns. -/
def write (bytes : List UInt8) (room : Option Nat) : Option Nat := room.map (min bytes.length)

/-- The bytes that such a `write` delivers. -/
def written (bytes : List UInt8) (room : Option Nat) : List UInt8 :=
  bytes.take ((write bytes room).getD 0)

/-- A `write` that returns the length has delivered everything. -/
theorem written_of_write {bytes : List UInt8} {room : Option Nat}
    (h : write bytes room = some bytes.length) : written bytes room = bytes := by
  simp [written, h]

/-- The decimal rendering of a number, `%d`. -/
def decimal (n : Int) : CStr := cstr (toString n)

end NmGpclient
