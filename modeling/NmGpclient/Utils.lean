import NmGpclient.Lib.Decimal

/-!
# Integers in the environment

The service and its helper read their log level with `_nm_utils_ascii_str_to_int64`, which takes a
text that is a whole integer in a range and answers a fallback for any other. It is modelled for base
10, the one that is used. `strToInt64_iff` says which texts it takes: it skips white space around
the integer, by GLib's idea of white space after it, which lacks the vertical tab, and by that of
`strtoll`, which has it, before.
-/

namespace NmGpclient

/-- The values that `errno` is set to. -/
inductive Errno where
  | einval
  | erange
deriving DecidableEq, Repr

/-- `_nm_utils_ascii_str_to_int64 (str, 10, min, max, fallback)`, and `errno` when it is set. -/
def nmUtilsAsciiStrToInt64 (str : Option CStr) (min max fallback : Int) : Int × Option Errno :=
  match str.map (·.dropWhile gAsciiIsspace) with
  | none | some [] => (fallback, some .einval)
  | some str =>
    let v := strtol str
    if v.erange then (fallback, some .erange)
    else if (str.drop v.consumed).dropWhile gAsciiIsspace ≠ [] then (fallback, some .einval)
    else if max < v.value ∨ v.value < min then (fallback, some .erange)
    else (v.value, none)

example : nmUtilsAsciiStrToInt64 (some (cstr " 7\n")) 0 7 5 = (7, none) := by decide

/-- The text is the integer `n`, between white space. -/
def IsInt (n : Int) (s : CStr) : Prop :=
  ∃ trail : CStr, (∀ b ∈ trail, gAsciiIsspace b = true) ∧ Numeral n trail s

/-! ## White space -/

theorem isSpace_of_gAsciiIsspace {b : UInt8} (h : gAsciiIsspace b = true) : isSpace b = true := by
  simp only [gAsciiIsspace, Bool.or_eq_true, beq_iff_eq] at h
  rcases h with (((rfl | rfl) | rfl) | rfl) | rfl <;> rfl

theorem isDigit_of_gAsciiIsspace {b : UInt8} (h : gAsciiIsspace b = true) : isDigit b = false := by
  by_contra hdigit
  have hspace := (isSpace_of_isDigit (by simpa using hdigit)).1
  rw [isSpace_of_gAsciiIsspace h] at hspace
  cases hspace

theorem head_not_digit {trail : CStr} (htrail : ∀ b ∈ trail, gAsciiIsspace b = true) :
    ∀ b ∈ trail.head?, isDigit b = false :=
  fun b hb => isDigit_of_gAsciiIsspace (htrail b (List.mem_of_mem_head? hb))

theorem IsInt.begins {n : Int} {s : CStr} (h : IsInt n s) : BeginsWithInt n s := by
  obtain ⟨trail, htrail, hnumeral⟩ := h
  exact hnumeral.begins (head_not_digit htrail)

/-- White space before a numeral is white space to `strtol`. -/
theorem numeral_dropWhile {n : Int} {rest s : CStr} :
    Numeral n rest (s.dropWhile gAsciiIsspace) ↔ Numeral n rest s := by
  constructor
  · intro h
    have hs : s.takeWhile gAsciiIsspace ++ s.dropWhile gAsciiIsspace = s :=
      List.takeWhile_append_dropWhile
    generalize s.dropWhile gAsciiIsspace = t at h hs
    obtain ⟨space, sign, ds, hspace, hsign, hne, hds, hn⟩ := h
    rw [← hs, ← List.append_assoc]
    refine .intro _ sign ds (fun b hb => ?_) hsign hne hds hn
    rcases List.mem_append.1 hb with hb | hb
    · exact isSpace_of_gAsciiIsspace (List.mem_takeWhile_imp hb)
    · exact hspace b hb
  · rintro ⟨space, sign, ds, hspace, hsign, hne, hds, hn⟩
    obtain ⟨d, ds, rfl⟩ := List.exists_cons_of_ne_nil hne
    have hhead : ∀ b ∈ (sign ++ (d :: ds ++ rest)).head?, gAsciiIsspace b = false := by
      rcases hsign with rfl | rfl | rfl
      · rintro b ⟨⟩
        by_contra hblank
        have hno := isDigit_of_gAsciiIsspace (b := d) (by simpa using hblank)
        rw [hds d List.mem_cons_self] at hno
        cases hno
      · rintro b ⟨⟩
        rfl
      · rintro b ⟨⟩
        rfl
    have hdrop : (space ++ (sign ++ (d :: ds ++ rest))).dropWhile gAsciiIsspace =
        space.dropWhile gAsciiIsspace ++ (sign ++ (d :: ds ++ rest)) := by
      rw [List.dropWhile_append]
      split
      next hall =>
        rw [List.isEmpty_iff.1 hall, List.nil_append]
        generalize sign ++ (d :: ds ++ rest) = t at hhead
        cases t with
        | nil => rfl
        | cons c cs => simp [hhead c rfl]
      next => rfl
    rw [hdrop]
    exact .intro _ sign (d :: ds)
      (fun b hb => hspace b ((List.dropWhile_sublist _).subset hb)) hsign hne hds hn

theorem isInt_dropWhile {n : Int} {s : CStr} : IsInt n (s.dropWhile gAsciiIsspace) ↔ IsInt n s :=
  exists_congr fun _ => and_congr_right fun _ => numeral_dropWhile

theorem begins_dropWhile {n : Int} {s : CStr} :
    BeginsWithInt n (s.dropWhile gAsciiIsspace) ↔ BeginsWithInt n s := by
  constructor
  · intro h
    obtain ⟨rest, hrest, hnumeral⟩ := numeral_of_begins h
    exact (numeral_dropWhile.1 hnumeral).begins hrest
  · intro h
    obtain ⟨rest, hrest, hnumeral⟩ := numeral_of_begins h
    exact (numeral_dropWhile.2 hnumeral).begins hrest

/-! ## Which texts are taken -/

/-- The integer that a text begins with is what `strtol` reads. -/
theorem begins_unique {n m : Int} {s : CStr} (h : BeginsWithInt n s) (h' : BeginsWithInt m s)
    (hn : longMin ≤ n ∧ n ≤ longMax) : m = n := by
  obtain ⟨-, hvalue, herange⟩ := strtol_of_begins h
  obtain ⟨-, hvalue', herange'⟩ := strtol_of_begins h'
  rw [herange] at herange'
  have hiff := decide_eq_decide.1 herange'
  rw [hvalue] at hvalue'
  simp only [longMin, longMax] at *
  omega

/-- What follows the number that `strtol` reads is nothing but white space exactly when the text is
the integer. -/
theorem isInt_iff {n : Int} {s : CStr} (h : BeginsWithInt n s) :
    (s.drop (strtol s).consumed).dropWhile gAsciiIsspace = [] ↔ IsInt n s := by
  constructor
  · obtain ⟨rest, hrest, hnumeral⟩ := numeral_of_begins h
    rw [hnumeral.drop_consumed hrest]
    intro hblank
    exact ⟨rest, List.dropWhile_eq_nil_iff.1 hblank, hnumeral⟩
  · rintro ⟨trail, htrail, hnumeral⟩
    rw [hnumeral.drop_consumed (head_not_digit htrail)]
    exact List.dropWhile_eq_nil_iff.2 htrail

/-- What the function answers. It takes the text of an integer in the range; for one out of the range
or of `gint64` it answers the fallback with `ERANGE`, even when more follows the latter; and for any
other the fallback with `EINVAL`. -/
inductive ReadsInt64 (str : Option CStr) (min max fallback : Int) : Int × Option Errno → Prop
  | taken {s : CStr} {n : Int} (hstr : str = some s) (h : IsInt n s) (hmin : min ≤ n)
      (hmax : n ≤ max) : ReadsInt64 str min max fallback (n, none)
  | tooLarge {s : CStr} {n : Int} (hstr : str = some s) (h : BeginsWithInt n s)
      (hn : n < longMin ∨ longMax < n) : ReadsInt64 str min max fallback (fallback, some .erange)
  | outOfRange {s : CStr} {n : Int} (hstr : str = some s) (h : IsInt n s)
      (hn : n < min ∨ max < n) : ReadsInt64 str min max fallback (fallback, some .erange)
  | invalid (h : ∀ s n, str = some s → BeginsWithInt n s →
      ¬IsInt n s ∧ longMin ≤ n ∧ n ≤ longMax) :
      ReadsInt64 str min max fallback (fallback, some .einval)

section
variable {str : Option CStr} {min max fallback : Int}

theorem strToInt64_reads :
    ReadsInt64 str min max fallback (nmUtilsAsciiStrToInt64 str min max fallback) := by
  cases str with
  | none => exact .invalid nofun
  | some s =>
    unfold nmUtilsAsciiStrToInt64
    rw [Option.map_some]
    have hbegins : ∀ n, BeginsWithInt n (s.dropWhile gAsciiIsspace) ↔ BeginsWithInt n s :=
      fun n => begins_dropWhile
    have hint : ∀ n, IsInt n (s.dropWhile gAsciiIsspace) ↔ IsInt n s := fun n => isInt_dropWhile
    have hidem : (s.dropWhile gAsciiIsspace).dropWhile gAsciiIsspace =
        s.dropWhile gAsciiIsspace := List.dropWhile_idempotent gAsciiIsspace s
    generalize s.dropWhile gAsciiIsspace = t at hbegins hint hidem ⊢
    have hnone : (strtol t).consumed = 0 → ReadsInt64 (some s) min max fallback
        (fallback, some .einval) := by
      intro hconsumed
      refine .invalid fun s' n hs hn => ?_
      obtain rfl := Option.some.inj hs
      exact absurd hconsumed (strtol_of_begins ((hbegins n).2 hn)).1
    cases t with
    | nil => exact hnone rfl
    | cons c cs =>
      dsimp only
      by_cases hconsumed : (strtol (c :: cs)).consumed = 0
      · rw [strtol_of_consumed hconsumed]
        simp only [Bool.false_eq_true, if_false, List.drop_zero, hidem]
        rw [if_pos (by simp)]
        exact hnone hconsumed
      · obtain ⟨n, hn⟩ := begins_of_consumed hconsumed
        obtain ⟨-, hvalue, herange⟩ := strtol_of_begins hn
        have hs := (hbegins n).1 hn
        by_cases hlarge : n < longMin ∨ longMax < n
        · rw [if_pos (by rw [herange]; exact decide_eq_true hlarge)]
          exact .tooLarge rfl hs hlarge
        · have hclamp : (strtol (c :: cs)).value = n := by
            rw [hvalue]
            omega
          rw [if_neg (by rw [herange]; simpa using hlarge), hclamp]
          by_cases hwhole : IsInt n s
          · have hblank := (isInt_iff hn).2 ((hint n).2 hwhole)
            rw [if_neg (by simpa using hblank)]
            split_ifs with hrange
            · exact .outOfRange rfl hwhole hrange.symm
            · exact .taken rfl hwhole (by omega) (by omega)
          · have hmore := mt (isInt_iff hn).1 (mt (hint n).1 hwhole)
            rw [if_pos hmore]
            refine .invalid fun s' m hs' hm => ?_
            obtain rfl := Option.some.inj hs'
            have hbounds : longMin ≤ n ∧ n ≤ longMax := by omega
            obtain rfl := begins_unique hs hm hbounds
            exact ⟨hwhole, hbounds⟩

theorem ReadsInt64.unique (hmin : longMin ≤ min) (hmax : max ≤ longMax)
    {r r' : Int × Option Errno} (h : ReadsInt64 str min max fallback r)
    (h' : ReadsInt64 str min max fallback r') : r = r' := by
  have htaken : ∀ {s : CStr} {n : Int}, str = some s → IsInt n s → min ≤ n → n ≤ max →
      ∀ {r}, ReadsInt64 str min max fallback r → r = (n, none) := by
    rintro s n rfl hn hmin' hmax' r hr
    have hbounds : longMin ≤ n ∧ n ≤ longMax := by omega
    cases hr with
    | taken hs hm =>
      obtain rfl := Option.some.inj hs
      rw [begins_unique hn.begins hm.begins hbounds]
    | tooLarge hs hm hlarge =>
      obtain rfl := Option.some.inj hs
      obtain rfl := begins_unique hn.begins hm hbounds
      omega
    | outOfRange hs hm hrange =>
      obtain rfl := Option.some.inj hs
      obtain rfl := begins_unique hn.begins hm.begins hbounds
      omega
    | invalid hinvalid => exact absurd hn (hinvalid s n rfl hn.begins).1
  cases h with
  | taken hs hn hlow hhigh => exact (htaken hs hn hlow hhigh h').symm
  | tooLarge hs hn hlarge =>
    cases h' with
    | taken hs' hm hlow hhigh => exact htaken hs' hm hlow hhigh (.tooLarge hs hn hlarge)
    | tooLarge | outOfRange => rfl
    | invalid hinvalid =>
      have hbounds := (hinvalid _ _ hs hn).2
      omega
  | outOfRange hs hn hrange =>
    cases h' with
    | taken hs' hm hlow hhigh => exact htaken hs' hm hlow hhigh (.outOfRange hs hn hrange)
    | tooLarge | outOfRange => rfl
    | invalid hinvalid => exact absurd hn (hinvalid _ _ hs hn.begins).1
  | invalid hinvalid =>
    cases h' with
    | taken hs hn => exact absurd hn (hinvalid _ _ hs hn.begins).1
    | tooLarge hs hn hlarge =>
      have hbounds := (hinvalid _ _ hs hn).2
      omega
    | outOfRange hs hn => exact absurd hn (hinvalid _ _ hs hn.begins).1
    | invalid => rfl

/-- The function answers what its specification says, for every text and every range of `gint64`. -/
theorem strToInt64_iff (hmin : longMin ≤ min) (hmax : max ≤ longMax) (r : Int × Option Errno) :
    nmUtilsAsciiStrToInt64 str min max fallback = r ↔ ReadsInt64 str min max fallback r := by
  constructor
  · rintro rfl
    exact strToInt64_reads
  · exact fun h => strToInt64_reads.unique hmin hmax h

end

theorem strToInt64_iff_level : nmUtilsAsciiStrToInt64 (some (cstr "7 x")) 0 7 5 = (5, some .einval) ↔
    ReadsInt64 (some (cstr "7 x")) 0 7 5 (5, some .einval) :=
  strToInt64_iff (by decide) (by decide) _

/-- A printed integer is read back. -/
theorem strToInt64_decimal {n min max : Int} (hmin : longMin ≤ min) (hmax : max ≤ longMax)
    (hlow : min ≤ n) (hhigh : n ≤ max) (fallback : Int) :
    nmUtilsAsciiStrToInt64 (some (decimal n)) min max fallback = (n, none) := by
  have hnumeral := numeral_decimal n []
  rw [List.append_nil] at hnumeral
  exact strToInt64_reads.unique hmin hmax (.taken rfl ⟨[], by simp, hnumeral⟩ hlow hhigh)

end NmGpclient
