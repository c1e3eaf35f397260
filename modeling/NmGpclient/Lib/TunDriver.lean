import Mathlib.Logic.Function.Basic

/-!
# The kernel's TUN driver

The devices of a host as one process sees them through `/dev/net/tun`. A device exists while it is
persistent or while a descriptor is attached to it. `TUNSETIFF` on a free name creates the device
and attaches the descriptor; on an existing name it attaches only to a persistent device that
nobody is attached to. `TUNSETPERSIST` sets or clears persistence, and closing the last descriptor
of a device that is not persistent removes it. Attachments of other processes are not recorded:
they are the environment's, given by `busy` at each `TUNSETIFF`.
-/

namespace NmGpclient

/-- A TUN device: its owner, whether it outlives its descriptors, and how many descriptors of the
process are attached to it. -/
structure TunDev where
  owner : Option Nat
  persistent : Bool
  held : Nat
deriving DecidableEq, Repr

/-- The devices of a host by name. -/
abbrev TunTable (ν : Type*) := ν → Option TunDev

namespace TunTable

variable {ν : Type*} [DecidableEq ν] (t : TunTable ν)

/-- The device is persistent. -/
def Persistent (n : ν) : Prop := ∃ d, t n = some d ∧ d.persistent = true

/-- `TUNSETIFF` by root: a free name, or a persistent device nobody is attached to. -/
def accepts (busy : ν → Bool) (n : ν) : Bool :=
  match t n with
  | none => true
  | some d => d.persistent && d.held == 0 && !busy n

/-- A descriptor is attached to the device, which is created when it does not exist. -/
def attach (n : ν) : TunTable ν :=
  Function.update t n <| some <|
    match t n with
    | none => ⟨none, false, 1⟩
    | some d => { d with held := d.held + 1 }

/-- `TUNSETOWNER`. -/
def setOwner (n : ν) (uid : Nat) : TunTable ν :=
  Function.update t n ((t n).map fun d => { d with owner := some uid })

/-- `TUNSETPERSIST`. -/
def setPersist (n : ν) (on : Bool) : TunTable ν :=
  Function.update t n ((t n).map fun d => { d with persistent := on })

/-- An attached descriptor is closed. -/
def close (n : ν) : TunTable ν :=
  Function.update t n <| (t n).bind fun d =>
    if d.persistent || 1 < d.held then some { d with held := d.held - 1 } else none

/-! ## The two uses of a descriptor -/

/-- A descriptor that attached to `n`, set its owner, made it persistent and was closed. -/
def create (n : ν) (uid : Nat) : TunTable ν :=
  (((t.attach n).setOwner n uid).setPersist n true).close n

/-- A descriptor that attached to `n`, cleared its persistence and was closed. -/
def destroy (n : ν) : TunTable ν := ((t.attach n).setPersist n false).close n

@[simp] theorem attach_ne {n m : ν} (h : m ≠ n) : t.attach n m = t m :=
  Function.update_of_ne h ..

@[simp] theorem setOwner_ne {n m : ν} (uid : Nat) (h : m ≠ n) : t.setOwner n uid m = t m :=
  Function.update_of_ne h ..

@[simp] theorem setPersist_ne {n m : ν} (on : Bool) (h : m ≠ n) : t.setPersist n on m = t m :=
  Function.update_of_ne h ..

@[simp] theorem close_ne {n m : ν} (h : m ≠ n) : t.close n m = t m :=
  Function.update_of_ne h ..

@[simp] theorem create_ne {n m : ν} (uid : Nat) (h : m ≠ n) : t.create n uid m = t m := by
  simp [create, h]

@[simp] theorem destroy_ne {n m : ν} (h : m ≠ n) : t.destroy n m = t m := by
  simp [destroy, h]

/-- Attaching to a device leaves it there. -/
theorem attach_self_ne_none (n : ν) : t.attach n n ≠ none := by
  simp [attach]

/-- The device a `create` leaves is persistent, owned by `uid` and attached to as it was. -/
theorem create_self (n : ν) (uid : Nat) :
    t.create n uid n = some ⟨some uid, true, ((t n).map TunDev.held).getD 0⟩ := by
  cases h : t n with
  | none => simp [create, attach, setOwner, setPersist, close, h]
  | some d => simp [create, attach, setOwner, setPersist, close, h]

omit [DecidableEq ν] in
/-- A descriptor of the process holds no device that `TUNSETIFF` accepts. -/
theorem held_of_accepts {busy : ν → Bool} {n : ν} {d : TunDev} (h : t.accepts busy n = true)
    (hd : t n = some d) : d.held = 0 := by
  simp only [accepts, hd, Bool.and_eq_true, beq_iff_eq] at h
  exact h.1.2

/-- A device `TUNSETIFF` accepted is gone after a `destroy`. -/
theorem destroy_self {busy : ν → Bool} {n : ν} (h : t.accepts busy n = true) :
    t.destroy n n = none := by
  cases hn : t n with
  | none => simp [destroy, attach, setPersist, close, hn]
  | some d => simp [destroy, attach, setPersist, close, hn, t.held_of_accepts h hn]

/-- Every device of `t'` is one of `t`. -/
def NoNew (t t' : TunTable ν) : Prop := ∀ n, t n = none → t' n = none

omit [DecidableEq ν] in
/-- A change of one device is new only when the device is. -/
theorem noNew_iff {t t' : TunTable ν} {n : ν} (h : ∀ m, m ≠ n → t' m = t m) :
    t.NoNew t' ↔ (t n = none → t' n = none) := by
  refine ⟨fun hnew => hnew n, fun hn m hm => ?_⟩
  by_cases hmn : m = n
  · exact hmn ▸ hn (hmn ▸ hm)
  · rw [h m hmn, hm]

end TunTable

end NmGpclient
