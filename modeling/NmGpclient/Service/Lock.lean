import NmGpclient.Service.Tun

/-!
# The gpclient lock file

`prepare_gpclient_lock` refuses to start over a lock file whose number is a running process and
removes any other lock file.
-/

namespace NmGpclient

/-- What `kill (pid, 0)` answers. -/
inductive PidProbe where
  | ok
  | eperm
  | esrch
deriving DecidableEq, Repr

/-- What reading `/proc/PID/comm` answers: the file does not open, it is empty, or its line. -/
inductive CommAnswer where
  | noFile
  | empty
  | line (s : CStr)
deriving DecidableEq, Repr

/-- What `unlink` answers; a failure other than `ENOENT` has the text of its `errno`. -/
inductive UnlinkAnswer where
  | removed
  | enoent
  | failed (strerror : CStr)
deriving DecidableEq, Repr

/-- What the calls of `prepare_gpclient_lock` answer. -/
structure LockAnswers where
  fileExists : Bool
  contents : Option (List UInt8)
  probe : GPid → PidProbe
  comm : GPid → CommAnswer
  unlink : UnlinkAnswer

/-- The greatest `int`. -/
def intMax : Int := 2147483647

/-- `read_gpclient_lock_pid`, on the contents of the file when it can be read. -/
def readGpclientLockPid (contents : Option (List UInt8)) : Option GPid :=
  match contents with
  | none => none
  | some contents =>
    let parsed := strtol contents
    if parsed.erange || parsed.consumed == 0 || parsed.value ≤ 0 || intMax < parsed.value then none
    else some parsed.value.toNat

/-- `pid_is_running`. -/
def pidIsRunning : PidProbe → Bool
  | .ok | .eperm => true
  | .esrch => false

/-- `pid_comm_is_gpclient`. -/
def pidCommIsGpclient : CommAnswer → Bool
  | .noFile => true
  | .empty => false
  | .line s => strchomp s == cstr "gpclient"

/-- The process that owns the lock, when the file names a running one. -/
def lockOwner (a : LockAnswers) : Option GPid :=
  (readGpclientLockPid a.contents).filter fun pid => pidIsRunning (a.probe pid)

/-- `prepare_gpclient_lock`: the error it sets when it returns `FALSE`. -/
def prepareGpclientLock (a : LockAnswers) (w : World) : Option GError × World :=
  let w := w.emit .testLock
  if a.fileExists then
    let w := w.emit .readLock
    let w := (readGpclientLockPid a.contents).elim w fun pid =>
      w.emit (.kill (.process pid) .null)
    match lockOwner a with
    | some pid =>
      let w := w.emit (.readComm pid)
      if pidCommIsGpclient (a.comm pid) then
        (some (launchFailed (cstr "gpclient is already running with pid " ++ decimal pid)), w)
      else
        (some (launchFailed (cstr "Refusing to remove gpclient lock file owned by running pid " ++
          decimal pid)), w)
    | none =>
      let w := w.emit .unlinkLock
      match a.unlink with
      | .failed strerror =>
        (some (launchFailed (cstr "Could not remove stale gpclient lock file: " ++ strerror)), w)
      | .removed | .enoent => (none, w.log logNotice (cstr "Removed stale gpclient lock file"))
  else (none, w)

/-- The lock does not stand in the way: there is no file, or a stale one that can be removed. -/
def lockFree (a : LockAnswers) : Bool :=
  !a.fileExists || (lockOwner a).isNone && (match a.unlink with | .failed _ => false | _ => true)

/-- `prepare_gpclient_lock` succeeds exactly when the lock is free, with an error otherwise, and
touches nothing but the lock file. -/
theorem prepareGpclientLock_spec (a : LockAnswers) (w : World) :
    ((prepareGpclientLock a w).1 = none ↔ lockFree a = true) ∧
      w.OnlyTun w.tun (prepareGpclientLock a w).2 := by
  have htest := (World.OnlyTun.refl (w := w)).emit .testLock
  unfold prepareGpclientLock lockFree
  cases hf : a.fileExists with
  | false => exact ⟨by simp, htest⟩
  | true =>
    have hread := htest.emit .readLock
    have hprobe : w.OnlyTun w.tun ((readGpclientLockPid a.contents).elim
        ((w.emit .testLock).emit .readLock) fun pid =>
          ((w.emit .testLock).emit .readLock).emit (.kill (.process pid) .null)) := by
      cases readGpclientLockPid a.contents with
      | none => exact hread
      | some pid => exact hread.emit _
    cases ho : lockOwner a with
    | some pid =>
      simp only [if_true]
      split <;> exact ⟨by simp, hprobe.emit _⟩
    | none =>
      cases hu : a.unlink with
      | failed s => exact ⟨by simp, hprobe.emit _⟩
      | removed | enoent => exact ⟨by simp, (hprobe.emit _).log _ _⟩

end NmGpclient
