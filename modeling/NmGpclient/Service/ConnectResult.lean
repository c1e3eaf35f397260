import NmGpclient.Service.Connect

/-!
# What a Connect tells and leaves

Two promises of `real_connect` to libnm: its result tells the truth, and a Connect that fails
leaves things as they were. The code keeps neither in all cases. A write to the child that is short
makes it fail without an error, and with the child running unwatched; a failure after the TUN device
was created leaves the device, and a new value of `priv->tun_name`, behind. The theorems say exactly
when each promise is kept, in terms of what the calls answer.
-/

namespace NmGpclient

/-! ## The child a Connect spawns -/

/-- The child that a Connect spawns, if it gets that far: its id, and the cookie it is fed. -/
def spawned (connection : NMConnection) (a : ConnectAnswers) (t : TunTable IfName) :
    Option (GPid × CStr) :=
  (request connection a.version).bind fun req =>
    if tunReady req.interfaceName a.tun t && lockFree a.lock then
      a.spawn.toOption.map fun pid => (pid, req.cookie)
    else none

section
variable {connection : NMConnection} {a : ConnectAnswers} {w : World}

/-- A Connect that spawns no child fails with an error, and tracks what it tracked. -/
theorem realConnect_of_not_spawned (h : spawned connection a w.tun = none) :
    ((realConnect connection a w).1 = .aborted ∨
        ∃ e, (realConnect connection a w).1 = .returned false (some e)) ∧
      ∃ tunName t, w.Leaves { w.priv with tunName := tunName } w.children t
        (realConnect connection a w).2 := by
  have hexit := realConnect_exit connection a w
  unfold spawned at h
  generalize request connection a.version = req at hexit h
  generalize realConnect connection a w = r at hexit
  obtain ⟨r, w'⟩ := r
  cases hexit with
  | aborted => exact ⟨.inl rfl, _, _, World.OnlyTun.refl.leaves⟩
  | rejected e hleft => exact ⟨.inr ⟨e, rfl⟩, _, _, hleft⟩
  | noTun _ hleft => exact ⟨.inr ⟨_, rfl⟩, _, _, hleft⟩
  | launched hcreate hlaunch =>
    cases hlaunch with
    | locked _ e hleft => exact ⟨.inr ⟨e, rfl⟩, _, _, hleft⟩
    | notSpawned _ _ hleft => exact ⟨.inr ⟨_, rfl⟩, _, _, hleft⟩
    | unfed hlock hspawn => simp [hcreate.ready.1, hlock, hspawn, Except.toOption] at h
    | started hlock hspawn => simp [hcreate.ready.1, hlock, hspawn, Except.toOption] at h

/-- A Connect that spawns a child either feeds it whole and tracks it, or fails without an error and
leaves it unwatched. -/
theorem realConnect_of_spawned {pid : GPid} {cookie : CStr}
    (h : spawned connection a w.tun = some (pid, cookie)) :
    (a.feeds cookie = true ∧ (realConnect connection a w).1 = .returned true none ∧
      ∃ tunName t, w.Leaves
        { w.priv with tunName := tunName, pid := pid, disconnectRequested := false }
        (w.children ++ [⟨pid, cookie ++ newline, true⟩]) t (realConnect connection a w).2) ∨
    (a.feeds cookie = false ∧ (realConnect connection a w).1 = .returned false none ∧
      ∃ tunName t stdin, w.Leaves { w.priv with tunName := tunName }
        (w.children ++ [⟨pid, stdin, false⟩]) t (realConnect connection a w).2) := by
  have hexit := realConnect_exit connection a w
  unfold spawned at h
  generalize request connection a.version = req at hexit h
  generalize realConnect connection a w = r at hexit
  obtain ⟨r, w'⟩ := r
  cases hexit with
  | aborted | rejected => simp at h
  | noTun hcreate => simp [hcreate.not_ready] at h
  | launched hcreate hlaunch =>
    cases hlaunch with
    | locked hlock => simp [hlock] at h
    | notSpawned _ hspawn => simp [hspawn, Except.toOption] at h
    | unfed hlock hspawn hfeed stdin hleft =>
      simp only [Option.bind_some, hcreate.ready.1, hlock, hspawn, Except.toOption, Bool.and_true,
        if_true, Option.map_some, Option.some.injEq, Prod.mk.injEq] at h
      obtain ⟨rfl, rfl⟩ := h
      exact .inr ⟨hfeed, rfl, _, _, stdin, hleft⟩
    | started hlock hspawn hfeed hleft =>
      simp only [Option.bind_some, hcreate.ready.1, hlock, hspawn, Except.toOption, Bool.and_true,
        if_true, Option.map_some, Option.some.injEq, Prod.mk.injEq] at h
      obtain ⟨rfl, rfl⟩ := h
      exact .inl ⟨hfeed, rfl, _, _, hleft⟩

/-- The id of a spawned child is what the spawn answered. -/
theorem spawn_of_spawned {t : TunTable IfName} {pid : GPid} {cookie : CStr}
    (h : spawned connection a t = some (pid, cookie)) : pid ∈ a.spawn.toOption := by
  obtain ⟨req, -, hspawn⟩ := Option.bind_eq_some_iff.1 h
  split at hspawn
  · obtain ⟨p, hp, hpair⟩ := Option.map_eq_some_iff.1 hspawn
    cases hpair
    exact hp
  · cases hspawn

/-- The cookie of a spawned child is the connection's. -/
theorem cookie_of_spawned {t : TunTable IfName} {pid : GPid} {cookie : CStr}
    (h : spawned connection a t = some (pid, cookie)) :
    connection.settingVpn.bind propsCookie = some cookie := by
  obtain ⟨req, hreq, hspawn⟩ := Option.bind_eq_some_iff.1 h
  obtain ⟨_, s_vpn, -, hvpn, -, hchecks, -⟩ := request_eq_some.1 hreq
  have hcookie : connection.settingVpn.bind propsCookie = some req.cookie := by
    rw [hvpn]
    exact propsCookie_of_startChecks hchecks
  split at hspawn
  · obtain ⟨_, _, hpair⟩ := Option.map_eq_some_iff.1 hspawn
    cases hpair
    exact hcookie
  · cases hspawn

end

/-! ## A small session

A profile with a gateway and a cookie, and calls that all succeed. -/

/-- A profile that connects directly to a gateway. -/
def directProfile : NMConnection where
  settingConnection := some ⟨none, []⟩
  settingVpn := some {
    data := AList.singleton Key.gateway (cstr "vpn.example.com")
    secrets := AList.singleton Key.cookie (cstr "{}")
    secretFlags := fun _ => some nmSettingSecretFlagNotSaved }

/-- Calls that succeed: gpclient 3 starts as process 100 and reads its standard input. -/
def startAnswers : ConnectAnswers where
  version := .done 0 (some (cstr "gpclient 3.0.0"))
  euid := 1000
  getpwnam := fun _ => none
  environ := ∅
  fileExists := fun _ => false
  tun := ⟨some ⟨nmOpenconnectUser, 990, 990, cstr "/"⟩, true, fun _ => false, fun _ => false, true, true⟩
  lock := ⟨false, none, fun _ => .esrch, fun _ => .noFile, .removed⟩
  destroy := ⟨true, false, false, true⟩
  spawn := .ok 100
  writeCookie := some 65536
  writeNewline := some 65536

/-- Calls where the child has closed its standard input. -/
def shortAnswers : ConnectAnswers := { startAnswers with writeCookie := none }

/-- A host without TUN devices. -/
def noDevices : TunTable IfName := fun _ => none

example : (realConnect directProfile startAnswers (.start noDevices)).1 = .returned true none := by
  decide +kernel

/-! ## The result of Connect -/

/-- A child was spawned, the whole cookie and one newline were written to its standard input, its
id is recorded and a child watch is attached. -/
def Started (connection : NMConnection) (w w' : World) : Prop :=
  ∃ cookie c, connection.settingVpn.bind propsCookie = some cookie ∧
    w'.children = w.children ++ [c] ∧ c.stdin = cookie ++ newline ∧ c.watched = true ∧
    w'.priv.pid = c.pid

/-- What a return of `real_connect` promises: `TRUE` exactly when a child was started, without an
error then, and `FALSE` exactly when an error is set. -/
def ConnectReturn.Truthful (r : ConnectReturn) (started : Prop) : Prop :=
  ∀ ret error, r = .returned ret error →
    (ret = true ↔ started) ∧ (ret = true → error = none) ∧ (ret = false ↔ error ≠ none)

/-- Every child the Connect spawns takes the whole cookie and the newline. -/
def Feeds (connection : NMConnection) (a : ConnectAnswers) (t : TunTable IfName) : Prop :=
  ∀ child ∈ spawned connection a t, a.feeds child.2 = true

/-- `real_connect` tells the truth exactly when it does not spawn a child that takes less than the
cookie and its newline. -/
theorem realConnect_truthful_iff (connection : NMConnection) (a : ConnectAnswers) (w : World) :
    (realConnect connection a w).1.Truthful
        (Started connection w (realConnect connection a w).2) ↔ Feeds connection a w.tun := by
  cases hs : spawned connection a w.tun with
  | none =>
    obtain ⟨hret, tunName, t, es, owner, group, hleft⟩ := realConnect_of_not_spawned hs
    refine ⟨fun _ child h => by simp [hs] at h, fun _ ret error hr => ?_⟩
    have hnot : ¬Started connection w (realConnect connection a w).2 := by
      rintro ⟨cookie, c, -, hc, -⟩
      rw [hleft] at hc
      simp at hc
    rcases hret with habort | ⟨e, hfail⟩
    · rw [habort] at hr
      cases hr
    · rw [hfail] at hr
      cases hr
      simp [hnot]
  | some child =>
    obtain ⟨pid, cookie⟩ := child
    have hcookie := cookie_of_spawned hs
    rcases realConnect_of_spawned hs with
      ⟨hfeed, hret, tunName, t, es, owner, group, hleft⟩ |
      ⟨hfeed, hret, tunName, t, stdin, es, owner, group, hleft⟩
    · have hstarted : Started connection w (realConnect connection a w).2 :=
        ⟨cookie, _, hcookie, by rw [hleft], rfl, rfl, by rw [hleft]⟩
      refine ⟨fun _ child h => ?_, fun _ ret error hr => ?_⟩
      · rw [hs] at h
        cases h
        exact hfeed
      · rw [hret] at hr
        cases hr
        simp [hstarted]
    · refine ⟨fun h => ?_, fun h => absurd (h (pid, cookie) hs) (by simp [hfeed])⟩
      have herror := (h false none hret).2.2
      simp at herror

/-- A write that fails makes Connect return `FALSE` without an error. -/
theorem realConnect_not_truthful : ¬∀ connection a w,
    (realConnect connection a w).1.Truthful
      (Started connection w (realConnect connection a w).2) := by
  intro h
  have hret : (realConnect directProfile shortAnswers (.start noDevices)).1 = .returned false none := by
    decide +kernel
  have herror := (h directProfile shortAnswers (.start noDevices) false none hret).2.2
  simp at herror

/-! ## Failure -/

/-- Of what a Connect creates nothing is left: no TUN device is new, no more children run without a
child watch, and the data of the plugin is as it was. A device that was there before may have
another owner or be gone, and a descriptor on it may still be open. -/
def Restored (w w' : World) : Prop :=
  w.tun.NoNew w'.tun ∧ w'.unwatched = w.unwatched ∧ w'.priv = w.priv

/-- What a Connect acquires before it fails is not new, or is released: once the checks pass, a
failed device is none that was free, a refused lock destroys the device, a failed spawn finds the
device and its name already there, and a spawned child is fed whole. -/
def CleansUp (connection : NMConnection) (a : ConnectAnswers) (w : World) : Prop :=
  ∀ req, request connection a.version = some req →
    let tunName := createdName req.interfaceName a.tun w.tun
    if tunReady req.interfaceName a.tun w.tun then
      if lockFree a.lock then
        match a.spawn with
        | .ok _ => a.feeds req.cookie = true
        | .error _ => w.priv.tunName = tunName ∧ ∀ n, tunName = some n → w.tun n ≠ none
      else w.priv.tunName = none ∧
        ∀ n, tunName = some n → w.tun n ≠ none ∨ a.destroy.succeeds = true
    else w.priv.tunName = none ∧
      ∀ n, attachedName req.interfaceName a.tun w.tun = some n → w.tun n ≠ none

/-- A state that differs in the name of the device and in the devices is restored when they are. -/
theorem World.Leaves.restored_iff {w w' : World} {tunName : Option IfName} {t : TunTable IfName}
    (h : w.Leaves { w.priv with tunName := tunName } w.children t w') :
    Restored w w' ↔ w.priv.tunName = tunName ∧ w.tun.NoNew t := by
  obtain ⟨es, owner, group, rfl⟩ := h
  obtain ⟨priv, _, _, _, _, _, _, _⟩ := w
  obtain ⟨_, _, _, _, _⟩ := priv
  simp [Restored, World.unwatched, and_comm, eq_comm]

/-- A Connect that fails restores what it found exactly when it cleans up. -/
theorem realConnect_atomic_iff (connection : NMConnection) (a : ConnectAnswers) (w : World) :
    (∀ error, (realConnect connection a w).1 = .returned false error →
        Restored w (realConnect connection a w).2) ↔ CleansUp connection a w := by
  have hexit := realConnect_exit connection a w
  unfold CleansUp
  generalize request connection a.version = req at hexit ⊢
  generalize realConnect connection a w = r at hexit ⊢
  obtain ⟨r, w'⟩ := r
  cases hexit with
  | aborted => simp
  | rejected e hleft =>
    have hrestored : Restored w w' := hleft.restored_iff.2 ⟨rfl, fun _ => id⟩
    simpa using hrestored
  | noTun hcreate hleft =>
    simp [hleft.restored_iff, hcreate.not_ready, hcreate.noNew_of_failed]
  | launched hcreate hlaunch =>
    obtain ⟨hready, hname, htun⟩ := hcreate.ready
    cases hlaunch with
    | locked hlock e hleft =>
      rcases htun with ⟨rfl, rfl⟩ | ⟨n, uid, rfl, -, rfl⟩
      · have hrestored := hleft.restored_iff
        simp [hrestored, hready, hlock, ← hname, TunTable.NoNew]
      · have hrestored := hleft.restored_iff
        simp [hrestored, hready, hlock, ← hname, noNew_destroyed_create]
    | notSpawned hlock hspawn hleft =>
      rcases htun with ⟨rfl, rfl⟩ | ⟨n, uid, rfl, -, rfl⟩
      · have hrestored := hleft.restored_iff
        simp [hrestored, hready, hlock, hspawn, ← hname, TunTable.NoNew]
      · have hrestored := hleft.restored_iff
        simp [hrestored, hready, hlock, hspawn, ← hname, TunTable.noNew_create]
    | unfed hlock hspawn hfeed stdin hleft =>
      have hnot : ¬Restored w w' := by
        obtain ⟨es, owner, group, rfl⟩ := hleft
        rintro ⟨-, hunwatched, -⟩
        simp [World.unwatched] at hunwatched
      simp [hready, hlock, hspawn, hfeed, hnot]
    | started hlock hspawn hfeed => simp [hready, hlock, hspawn, hfeed]

/-- A write that fails leaves the child running without a child watch. -/
theorem realConnect_not_atomic : ¬∀ connection a w error,
    (realConnect connection a w).1 = .returned false error →
      Restored w (realConnect connection a w).2 := by
  intro h
  have hret : (realConnect directProfile shortAnswers (.start noDevices)).1 = .returned false none := by
    decide +kernel
  have hchildren : (realConnect directProfile shortAnswers (.start noDevices)).2.unwatched ≠ [] := by
    decide +kernel
  exact hchildren (h directProfile shortAnswers (.start noDevices) none hret).2.1

end NmGpclient
