import Mathlib.Data.List.DropRight
import Mathlib.Order.Lattice
import Mathlib.Data.Int.Order.Basic

/-!
# C strings

A C string is the list of its bytes before the terminating NUL. `strtol` is the C library's
conversion in base 10 on a 64-bit `long`: white space, an optional sign, the digits, and the
number clamped to the range of `long` with `ERANGE` when it does not fit.
-/

namespace NmGpclient

/-- A C string, as its bytes. -/
abbrev CStr := List UInt8

/-- The bytes of a string literal. -/
def cstr (s : String) : CStr := s.toUTF8.data.toList

/-- The bytes before the first NUL: what `strlen` and `%s` see of a buffer. -/
def cstrOf (b : List UInt8) : CStr := b.takeWhile (· ≠ 0)

/-- A present and non-empty string: the C test `s && strlen (s)`, or `s && s[0]`. -/
def nonempty : Option CStr → Option CStr
  | some [] => none
  | v => v

@[simp] theorem nonempty_none : nonempty none = none := rfl

@[simp] theorem nonempty_nil : nonempty (some []) = none := rfl

@[simp] theorem nonempty_cons (b : UInt8) (s : CStr) : nonempty (some (b :: s)) = some (b :: s) :=
  rfl

theorem nonempty_eq_some {v : Option CStr} {s : CStr} :
    nonempty v = some s ↔ v = some s ∧ s ≠ [] := by
  cases v with
  | none => simp
  | some t =>
      cases t with
      | nil => simp only [nonempty_nil]; grind
      | cons b t => simp only [nonempty_cons]; grind

@[simp] theorem nonempty_some_of_ne {s : CStr} (h : s ≠ []) : nonempty (some s) = some s :=
  nonempty_eq_some.2 ⟨rfl, h⟩

@[simp] theorem nonempty_nonempty (v : Option CStr) : nonempty (nonempty v) = nonempty v := by
  rcases v with _ | _ | _ <;> rfl

theorem isSome_nonempty_some {s : CStr} : (nonempty (some s)).isSome = true ↔ s ≠ [] := by
  cases s <;> simp

/-- `isspace` in the C locale. -/
def isSpace (b : UInt8) : Bool := b == 32 || (9 ≤ b && b ≤ 13)

/-- `isdigit`. -/
def isDigit (b : UInt8) : Bool := 48 ≤ b && b ≤ 57

/-- The value of a list of decimal digits. -/
def digitsValue (ds : List UInt8) : Nat := ds.foldl (fun n d => n * 10 + (d.toNat - 48)) 0

/-- What `strtol (s, &end, 10)` leaves behind: the value, how many bytes it consumed (0 when there
is no number, `end == s`), and whether it set `errno` to `ERANGE`. -/
structure Strtol where
  value : Int
  consumed : Nat
  erange : Bool
deriving DecidableEq, Repr

/-- The greatest 64-bit `long`. -/
def longMax : Int := 9223372036854775807

/-- The least 64-bit `long`. -/
def longMin : Int := -9223372036854775808

/-- The optional sign of a numeral: whether it is a minus, and the bytes after it. -/
def splitSign : CStr → Bool × CStr
  | 45 :: s => (true, s)
  | 43 :: s => (false, s)
  | s => (false, s)

/-- `strtol (s, &end, 10)`. -/
def strtol (s : CStr) : Strtol :=
  let t := s.dropWhile isSpace
  let (neg, u) := splitSign t
  let ds := u.takeWhile isDigit
  let n : Int := if neg then -(digitsValue ds : Int) else digitsValue ds
  if ds = [] then ⟨0, 0, false⟩
  else ⟨max longMin (min longMax n), s.length - u.length + ds.length, n < longMin || longMax < n⟩

example : strtol (cstr " -42x") = ⟨-42, 4, false⟩ := by decide

/-- Without a number `strtol` returns 0 and no error. -/
theorem strtol_of_consumed {s : CStr} (h : (strtol s).consumed = 0) : strtol s = ⟨0, 0, false⟩ := by
  unfold strtol at h ⊢
  dsimp only at h ⊢
  split
  next => rfl
  next hds =>
    rw [if_neg hds] at h
    have hlength := List.length_pos_iff.2 hds
    dsimp only at h
    omega

/-- A number of 0 is one that was read without overflow. -/
theorem erange_of_value_zero {s : CStr} (h : (strtol s).value = 0) : (strtol s).erange = false := by
  unfold strtol at h ⊢
  dsimp only at h ⊢
  generalize splitSign (s.dropWhile isSpace) = r at h ⊢
  obtain ⟨neg, u⟩ := r
  dsimp only at h ⊢
  split at h
  next hds => rw [if_pos hds]
  next hds =>
    rw [if_neg hds]
    generalize (if neg = true then _ else _ : Int) = n at h ⊢
    simp only [longMin, longMax, Bool.or_eq_false_iff] at h ⊢
    exact ⟨decide_eq_false (by omega), decide_eq_false (by omega)⟩

/-- The text begins with the decimal integer `n`: white space, an optional sign, and the digits up
to the first byte that is none. -/
inductive BeginsWithInt (n : Int) : CStr → Prop
  | intro (space sign ds rest : CStr) (hspace : ∀ b ∈ space, isSpace b = true)
      (hsign : sign = [] ∨ sign = [43] ∨ sign = [45]) (hne : ds ≠ [])
      (hds : ∀ b ∈ ds, isDigit b = true) (hrest : ∀ b ∈ rest.head?, isDigit b = false)
      (hn : n = if sign = [45] then -(digitsValue ds : Int) else digitsValue ds) :
      BeginsWithInt n (space ++ (sign ++ (ds ++ rest)))

/-- Bytes of a kind are taken up to the first byte of another. -/
theorem takeWhile_exact {p : UInt8 → Bool} {body rest : CStr} (hbody : ∀ b ∈ body, p b = true)
    (hrest : ∀ b ∈ rest.head?, p b = false) :
    (body ++ rest).takeWhile p = body ∧ (body ++ rest).dropWhile p = rest := by
  rw [List.takeWhile_append_of_pos hbody, List.dropWhile_append_of_pos hbody]
  cases rest with
  | nil => simp
  | cons b rest => simp [hrest b rfl]

/-- A byte that begins a numeral is no white space. -/
theorem isSpace_of_isDigit {b : UInt8} (h : isDigit b = true) :
    isSpace b = false ∧ b ≠ 43 ∧ b ≠ 45 := by
  unfold isDigit at h
  unfold isSpace
  grind

/-- `strtol` reads the integer that a text begins with, clamped to a `long`. -/
theorem strtol_of_begins {s : CStr} {n : Int} (h : BeginsWithInt n s) :
    (strtol s).consumed ≠ 0 ∧ (strtol s).value = max longMin (min longMax n) ∧
      (strtol s).erange = decide (n < longMin ∨ longMax < n) := by
  obtain ⟨space, sign, ds, rest, hspace, hsign, hne, hds, hrest, hn⟩ := h
  obtain ⟨d, ds, rfl⟩ := List.exists_cons_of_ne_nil hne
  obtain ⟨hd, hplus, hminus⟩ := isSpace_of_isDigit (hds d List.mem_cons_self)
  obtain ⟨htake, -⟩ := takeWhile_exact hds hrest
  have hdrop : (space ++ (sign ++ (d :: ds ++ rest))).dropWhile isSpace =
      sign ++ (d :: ds ++ rest) := by
    refine (takeWhile_exact hspace ?_).2
    rcases hsign with rfl | rfl | rfl
    · simpa using hd
    · rintro b ⟨⟩
      rfl
    · rintro b ⟨⟩
      rfl
  have hsplit : splitSign (sign ++ (d :: ds ++ rest)) =
      (decide (sign = [45]), d :: ds ++ rest) := by
    rcases hsign with rfl | rfl | rfl
    · unfold splitSign
      split <;> simp_all
    · rfl
    · rfl
  unfold strtol
  dsimp only
  rw [hdrop, hsplit]
  dsimp only
  rw [htake, if_neg hne]
  refine ⟨by simp, ?_, ?_⟩
  · rw [hn]
    simp
  · rw [hn]
    simp

/-- A text in which `strtol` finds a number begins with one. -/
theorem begins_of_consumed {s : CStr} (h : (strtol s).consumed ≠ 0) : ∃ n, BeginsWithInt n s := by
  have hsign : ∀ t, ∃ sign u, t = sign ++ u ∧ (sign = [] ∨ sign = [43] ∨ sign = [45]) ∧
      (splitSign t).2 = u := by
    intro t
    unfold splitSign
    split
    · exact ⟨[45], _, rfl, by simp, rfl⟩
    · exact ⟨[43], _, rfl, by simp, rfl⟩
    · exact ⟨[], _, rfl, by simp, rfl⟩
  obtain ⟨sign, u, ht, hsign, hu⟩ := hsign (s.dropWhile isSpace)
  have hne : u.takeWhile isDigit ≠ [] := by
    rintro hnone
    unfold strtol at h
    dsimp only at h
    rw [hu, if_pos hnone] at h
    exact h rfl
  have hs : s.takeWhile isSpace ++ (sign ++ (u.takeWhile isDigit ++ u.dropWhile isDigit)) = s := by
    rw [List.takeWhile_append_dropWhile, ← ht, List.takeWhile_append_dropWhile]
  have hrest : ∀ b ∈ (u.dropWhile isDigit).head?, isDigit b = false := by
    intro b hb
    have hhead := List.head?_dropWhile_not isDigit u
    rw [Option.mem_def.1 hb] at hhead
    simpa using hhead
  have hbegins := BeginsWithInt.intro (s.takeWhile isSpace) sign _ _
    (fun b hb => List.mem_takeWhile_imp hb) hsign hne (fun b hb => List.mem_takeWhile_imp hb)
    hrest rfl
  rw [hs] at hbegins
  exact ⟨_, hbegins⟩

/-- `g_ascii_isspace`, which unlike `isspace` leaves out the vertical tab. -/
def gAsciiIsspace (b : UInt8) : Bool := b == 32 || b == 9 || b == 10 || b == 12 || b == 13

/-- The bytes without their trailing white space: `g_strchomp`. -/
def strchomp (s : CStr) : CStr := s.rdropWhile gAsciiIsspace

example : strchomp (cstr "vpn \t\n") = cstr "vpn" ∧ strchomp [118, 11] = [118, 11] := by decide

end NmGpclient
