import Mathlib.Algebra.Group.Nat.Defs
import NmGpclient.Lib.Posix

/-!
# Decimal numerals

`decimal n` is the text that `printf ("%d", n)` prints: an optional minus and the digits of the
number. `strtol` reads it back, whatever follows, as long as that does not begin with a digit.
-/

namespace NmGpclient

theorem cstr_append (s t : String) : cstr (s ++ t) = cstr s ++ cstr t := by
  simp [cstr]

theorem digitsValue_append_singleton (ds : List UInt8) (d : UInt8) :
    digitsValue (ds ++ [d]) = digitsValue ds * 10 + (d.toNat - 48) := by
  simp [digitsValue]

/-- One digit. -/
theorem cstr_digitChar {d : Nat} (hd : d < 10) :
    ∃ b, cstr (.singleton d.digitChar) = [b] ∧ isDigit b = true ∧ b.toNat - 48 = d := by
  have hall : ∀ d < 10, cstr (.singleton (Nat.digitChar d)) = [(48 + d).toUInt8] ∧
      isDigit (48 + d).toUInt8 = true ∧ (48 + d).toUInt8.toNat - 48 = d := by
    decide +kernel
  exact ⟨_, hall d hd⟩

/-- The digits of a number are digits, and have its value. -/
theorem cstr_repr (n : Nat) : cstr n.repr ≠ [] ∧ (∀ b ∈ cstr n.repr, isDigit b = true) ∧
    digitsValue (cstr n.repr) = n := by
  induction n using Nat.strong_induction_on with
  | _ n ih =>
    by_cases hn : n < 10
    · obtain ⟨b, hb, hdigit, hvalue⟩ := cstr_digitChar hn
      rw [Nat.repr_of_lt hn, hb]
      exact ⟨by simp, by simpa using hdigit, by simpa [digitsValue] using hvalue⟩
    · obtain ⟨b, hb, hdigit, hvalue⟩ := cstr_digitChar (Nat.mod_lt n (by decide : 0 < 10))
      obtain ⟨-, hdigits, hprefix⟩ := ih (n / 10) (by omega)
      rw [Nat.repr_of_ge (by omega), cstr_append, hb]
      refine ⟨by simp, ?_, ?_⟩
      · intro c hc
        rcases List.mem_append.1 hc with hc | hc
        · exact hdigits c hc
        · rw [List.mem_singleton.1 hc]
          exact hdigit
      · rw [digitsValue_append_singleton, hprefix, hvalue]
        omega

/-- A number below a power of ten has at most as many digits. -/
theorem length_cstr_repr {k : Nat} : ∀ {n : Nat}, n < 10 ^ (k + 1) →
    (cstr n.repr).length ≤ k + 1 := by
  induction k with
  | zero =>
    intro n hn
    obtain ⟨b, hb, -⟩ := cstr_digitChar (d := n) (by omega)
    rw [Nat.repr_of_lt (by omega), hb]
    simp
  | succ k ih =>
    intro n hn
    by_cases hten : n < 10
    · obtain ⟨b, hb, -⟩ := cstr_digitChar hten
      rw [Nat.repr_of_lt hten, hb]
      simp
    · obtain ⟨b, hb, -⟩ := cstr_digitChar (Nat.mod_lt n (by decide : 0 < 10))
      have hprefix := ih (n := n / 10) (by
        rw [Nat.pow_succ] at hn
        omega)
      rw [Nat.repr_of_ge (by omega), cstr_append, hb, List.length_append]
      simpa using hprefix

theorem decimal_natCast (n : Nat) : decimal (n : Int) = cstr n.repr := rfl

/-- The text is the integer `n`, after white space, and `rest`. -/
inductive Numeral (n : Int) (rest : CStr) : CStr → Prop
  | intro (space sign ds : CStr) (hspace : ∀ b ∈ space, isSpace b = true)
      (hsign : sign = [] ∨ sign = [43] ∨ sign = [45]) (hne : ds ≠ [])
      (hds : ∀ b ∈ ds, isDigit b = true)
      (hn : n = if sign = [45] then -(digitsValue ds : Int) else digitsValue ds) :
      Numeral n rest (space ++ (sign ++ (ds ++ rest)))

/-- A printed integer is a numeral. -/
theorem numeral_decimal (n : Int) (rest : CStr) : Numeral n rest (decimal n ++ rest) := by
  cases n with
  | ofNat m =>
    obtain ⟨hne, hdigits, hvalue⟩ := cstr_repr m
    exact .intro (n := (m : Int)) [] [] (cstr m.repr) (by simp) (by simp) hne hdigits
      (by simp [hvalue])
  | negSucc m =>
    obtain ⟨hne, hdigits, hvalue⟩ := cstr_repr (m + 1)
    have htext : decimal (Int.negSucc m) = [45] ++ cstr (m + 1).repr :=
      (cstr_append "-" (m + 1).repr).trans rfl
    rw [htext, List.append_assoc]
    exact .intro (n := Int.negSucc m) [] [45] (cstr (m + 1).repr) (by simp) (by simp) hne hdigits
      (by
        rw [if_pos rfl, hvalue]
        rfl)

/-- `strtol` reads the sign and the digits after the white space, and nothing else. -/
theorem consumed_strtol {space sign ds rest : CStr} (hspace : ∀ b ∈ space, isSpace b = true)
    (hsign : sign = [] ∨ sign = [43] ∨ sign = [45]) (hne : ds ≠ [])
    (hds : ∀ b ∈ ds, isDigit b = true) (hrest : ∀ b ∈ rest.head?, isDigit b = false) :
    (strtol (space ++ (sign ++ (ds ++ rest)))).consumed =
      (space ++ (sign ++ ds)).length := by
  obtain ⟨d, ds, rfl⟩ := List.exists_cons_of_ne_nil hne
  obtain ⟨hd, hplus, hminus⟩ := isSpace_of_isDigit (hds d List.mem_cons_self)
  obtain ⟨htake, -⟩ := takeWhile_exact hds hrest
  have hdrop : (space ++ (sign ++ (d :: ds ++ rest))).dropWhile isSpace =
      sign ++ (d :: ds ++ rest) := by
    refine (takeWhile_exact hspace ?_).2
    rcases hsign with rfl | rfl | rfl
    · simpa using hd
    · rintro b ⟨⟩
      rfl
    · rintro b ⟨⟩
      rfl
  have hsplit : (splitSign (sign ++ (d :: ds ++ rest))).2 = d :: ds ++ rest := by
    rcases hsign with rfl | rfl | rfl
    · unfold splitSign
      split <;> simp_all
    · rfl
    · rfl
  unfold strtol
  dsimp only
  rw [hdrop, hsplit, htake, if_neg hne]
  simp only [List.length_append]
  omega

theorem Numeral.begins {n : Int} {rest s : CStr} (h : Numeral n rest s)
    (hrest : ∀ b ∈ rest.head?, isDigit b = false) : BeginsWithInt n s := by
  obtain ⟨space, sign, ds, hspace, hsign, hne, hds, hn⟩ := h
  exact .intro space sign ds rest hspace hsign hne hds hrest hn

theorem numeral_of_begins {n : Int} {s : CStr} (h : BeginsWithInt n s) :
    ∃ rest, (∀ b ∈ rest.head?, isDigit b = false) ∧ Numeral n rest s := by
  obtain ⟨space, sign, ds, rest, hspace, hsign, hne, hds, hrest, hn⟩ := h
  exact ⟨rest, hrest, .intro space sign ds hspace hsign hne hds hn⟩

/-- `strtol` stops where the numeral does. -/
theorem Numeral.drop_consumed {n : Int} {rest s : CStr} (h : Numeral n rest s)
    (hrest : ∀ b ∈ rest.head?, isDigit b = false) : s.drop (strtol s).consumed = rest := by
  obtain ⟨space, sign, ds, hspace, hsign, hne, hds, -⟩ := h
  have hsplit : space ++ (sign ++ (ds ++ rest)) = (space ++ (sign ++ ds)) ++ rest := by simp
  rw [consumed_strtol hspace hsign hne hds hrest, hsplit, List.drop_left]

/-- `strtol` reads an unsigned number of 32 bits back. -/
theorem strtol_decimal {n : Nat} (hn : n < 4294967296) :
    (strtol (decimal n)).value = n ∧ (strtol (decimal n)).erange = false := by
  have hnumeral := numeral_decimal n []
  rw [List.append_nil] at hnumeral
  obtain ⟨-, hvalue, herange⟩ := strtol_of_begins (hnumeral.begins (by simp))
  have hmin : longMin ≤ n := by
    unfold longMin
    omega
  have hmax : n ≤ longMax := by
    unfold longMax
    omega
  rw [hvalue, herange, min_eq_right hmax, max_eq_right hmin]
  exact ⟨rfl, decide_eq_false (by omega)⟩

theorem decimal_ne_nil (n : Nat) : decimal n ≠ [] := (cstr_repr n).1

end NmGpclient
