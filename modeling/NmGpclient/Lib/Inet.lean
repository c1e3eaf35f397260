import NmGpclient.Lib.CStr

/-!
# Internet addresses

`inet_pton` as the C library does it: a text is an address of a family or it is not. An address is
its bytes in network order.
-/

namespace NmGpclient

/-- The value of a decimal octet without a leading zero, at most 255. -/
def octet (s : CStr) : Option UInt8 :=
  if s ≠ [] ∧ s.all isDigit ∧ (s = [48] ∨ s.head? ≠ some 48) ∧ digitsValue s ≤ 255 then
    some (UInt8.ofNat (digitsValue s))
  else none

/-- `inet_pton (AF_INET, …)`: four octets with dots between them. -/
def inetPton4 (s : CStr) : Option (List UInt8) :=
  match s.splitOn 46 with
  | [a, b, c, d] => do [← octet a, ← octet b, ← octet c, ← octet d]
  | _ => none

/-- The value of a hexadecimal digit. -/
def hexDigitValue (c : UInt8) : Option Nat :=
  if isDigit c then some (c.toNat - 48)
  else if 97 ≤ c ∧ c ≤ 102 then some (c.toNat - 87)
  else if 65 ≤ c ∧ c ≤ 70 then some (c.toNat - 55)
  else none

/-- Where the scan of an IPv6 address stands: the bytes written, where `::` was, the text of the
current field, and its digits so far with their value. -/
structure Pton6 where
  bytes : List UInt8
  colon : Option Nat
  curtok : CStr
  seen : Nat
  val : Nat

/-- The current field is written. -/
def Pton6.put (p : Pton6) : Option Pton6 :=
  if p.bytes.length + 2 ≤ 16 then
    some { p with bytes := p.bytes ++ [UInt8.ofNat (p.val / 256), UInt8.ofNat p.val] }
  else none

/-- The scan of an IPv6 address: colons separate the fields, and the last one may be an IPv4
address. -/
def pton6Scan : CStr → Pton6 → Option Pton6
  | [], p => some p
  | c :: s, p =>
    match hexDigitValue c with
    | some digit =>
      if p.seen = 4 then none
      else pton6Scan s { p with seen := p.seen + 1, val := p.val * 16 + digit }
    | none =>
      if c = 58 then
        if p.seen = 0 then
          if p.colon.isSome then none
          else pton6Scan s { p with colon := some p.bytes.length, curtok := s }
        else if s = [] then none
        else
          match p.put with
          | none => none
          | some p => pton6Scan s { p with curtok := s, seen := 0, val := 0 }
      else if c = 46 ∧ p.bytes.length + 4 ≤ 16 then
        (inetPton4 p.curtok).map fun a => { p with bytes := p.bytes ++ a, seen := 0 }
      else none

/-- The last field is written and `::` is filled with zeros. -/
def pton6Finish (p : Pton6) : Option (List UInt8) := do
  let p ← if p.seen = 0 then some p else p.put
  match p.colon with
  | none => if p.bytes.length = 16 then some p.bytes else none
  | some n =>
    if p.bytes.length = 16 then none
    else some (p.bytes.take n ++ List.replicate (16 - p.bytes.length) 0 ++ p.bytes.drop n)

/-- `inet_pton (AF_INET6, …)`. -/
def inetPton6 (s : CStr) : Option (List UInt8) :=
  let scan (s : CStr) := (pton6Scan s ⟨[], none, s, 0, 0⟩).bind pton6Finish
  match s with
  | [] => none
  | 58 :: 58 :: rest => scan (58 :: rest)
  | 58 :: _ => none
  | s => scan s

example : inetPton4 (cstr "192.0.2.1") = some [192, 0, 2, 1] := by decide

example : inetPton6 (cstr "2001:db8::1") =
    some [32, 1, 13, 184, 0, 0, 0, 0, 0, 0, 0, 0, 0, 0, 0, 1] := by decide

/-- An octet is digits. -/
theorem octet_digits {s : CStr} {v : UInt8} (h : octet s = some v) : ∀ c ∈ s, isDigit c = true := by
  unfold octet at h
  split at h
  next hs => exact List.all_eq_true.1 hs.2.1
  next => cases h

/-- An IPv4 address is four octets with dots between them. -/
theorem inetPton4_eq_some {s : CStr} {addr : List UInt8} (h : inetPton4 s = some addr) :
    addr.length = 4 ∧ ∀ c ∈ s, isDigit c = true ∨ c = 46 := by
  unfold inetPton4 at h
  split at h
  next a b c d hparts =>
    simp only [Option.bind_eq_bind, Option.bind_eq_some_iff, Option.some.injEq] at h
    obtain ⟨va, ha, vb, hb, vc, hc, vd, hd, rfl⟩ := h
    refine ⟨rfl, fun x hx => ?_⟩
    have hjoin : [46].intercalate [a, b, c, d] = s := by
      rw [← hparts, List.intercalate_splitOn]
    rw [← hjoin] at hx
    simp only [List.intercalate, List.intersperse, List.flatten_cons, List.flatten_nil,
      List.mem_append, List.mem_singleton, List.not_mem_nil, or_false] at hx
    rcases hx with hx | hx | hx | hx | hx | hx | hx
    · exact .inl (octet_digits ha x hx)
    · exact .inr hx
    · exact .inl (octet_digits hb x hx)
    · exact .inr hx
    · exact .inl (octet_digits hc x hx)
    · exact .inr hx
    · exact .inl (octet_digits hd x hx)
  next => cases h

/-- The scan of a text without a colon meets at most one IPv4 address and no `::`. -/
theorem pton6Scan_of_no_colon : ∀ {s : CStr} {p q : Pton6}, (∀ c ∈ s, c ≠ 58) → p.colon = none →
    pton6Scan s p = some q → q.colon = none ∧ q.bytes.length ≤ p.bytes.length + 4
  | [], p, q, _, hcolon, h => by
      obtain rfl := Option.some.inj h
      exact ⟨hcolon, Nat.le_add_right _ _⟩
  | c :: s, p, q, hs, hcolon, h => by
      have hc : c ≠ 58 := hs c List.mem_cons_self
      have hrest : ∀ c ∈ s, c ≠ 58 := fun b hb => hs b (List.mem_cons_of_mem c hb)
      unfold pton6Scan at h
      split at h
      next digit hdigit =>
        split at h
        · cases h
        · exact pton6Scan_of_no_colon (p := { p with seen := p.seen + 1, val := p.val * 16 + digit })
            hrest hcolon h
      next =>
        rw [if_neg hc] at h
        split at h
        next hdot =>
          obtain ⟨addr, haddr, rfl⟩ := Option.map_eq_some_iff.1 h
          have hlength := (inetPton4_eq_some haddr).1
          exact ⟨hcolon, by simp [hlength]⟩
        next => cases h

/-- A text without a colon is no IPv6 address. -/
theorem inetPton6_of_no_colon {s : CStr} (hs : ∀ c ∈ s, c ≠ 58) : inetPton6 s = none := by
  have hscan : (pton6Scan s ⟨[], none, s, 0, 0⟩).bind pton6Finish = none := by
    cases hq : pton6Scan s ⟨[], none, s, 0, 0⟩ with
    | none => rfl
    | some q =>
      obtain ⟨hcolon, hlength⟩ := pton6Scan_of_no_colon hs rfl hq
      have hshort : q.bytes.length ≤ 4 := hlength
      rw [Option.bind_some]
      unfold pton6Finish Pton6.put
      by_cases hseen : q.seen = 0
      · simp [hseen, hcolon]
        omega
      · simp [hseen, hcolon]
        omega
  unfold inetPton6
  dsimp only
  split
  · rfl
  · exact absurd rfl (hs 58 List.mem_cons_self)
  · exact absurd rfl (hs 58 List.mem_cons_self)
  · exact hscan

/-- No text is an address of both families. -/
theorem inetPton6_of_inetPton4 {s : CStr} (h : (inetPton4 s).isSome = true) : inetPton6 s = none := by
  obtain ⟨addr, haddr⟩ := Option.isSome_iff_exists.1 h
  refine inetPton6_of_no_colon fun c hc hcolon => ?_
  rcases (inetPton4_eq_some haddr).2 c hc with hdigit | hdot
  · rw [hcolon] at hdigit
    exact absurd hdigit (by decide)
  · rw [hcolon] at hdot
    exact absurd hdot (by decide)

/-- What `pton6Scan` accepts has hexadecimal digits, colons and dots only. The current field is in
view until its end, so that an IPv4 address is the end of the text. -/
theorem pton6Scan_bytes : ∀ {s : CStr} {p q : Pton6}, s <:+ p.curtok → pton6Scan s p = some q →
    ∀ c ∈ s, (hexDigitValue c).isSome = true ∨ c = 58 ∨ c = 46
  | [], _, _, _, _ => by simp
  | c :: s, p, q, hsuffix, h => by
      have hnext : s <:+ p.curtok := (List.suffix_cons c s).trans hsuffix
      unfold pton6Scan at h
      rw [List.forall_mem_cons]
      split at h
      next digit hdigit =>
        split_ifs at h
        exact ⟨.inl (by rw [hdigit]; rfl), pton6Scan_bytes
          (p := { p with seen := p.seen + 1, val := p.val * 16 + digit }) hnext h⟩
      next =>
        split_ifs at h with hcolon hseen hsecond hend hdot
        · exact ⟨.inr (.inl hcolon), pton6Scan_bytes
            (p := { p with colon := some p.bytes.length, curtok := s }) (List.suffix_refl s) h⟩
        · cases hput : p.put with
          | none => simp [hput] at h
          | some p' =>
            rw [hput] at h
            exact ⟨.inr (.inl hcolon), pton6Scan_bytes
              (p := { p' with curtok := s, seen := 0, val := 0 }) (List.suffix_refl s) h⟩
        · obtain ⟨addr, haddr, -⟩ := Option.map_eq_some_iff.1 h
          have hbytes : ∀ b ∈ c :: s, (hexDigitValue b).isSome = true ∨ b = 58 ∨ b = 46 := by
            intro b hb
            rcases (inetPton4_eq_some haddr).2 b (hsuffix.subset hb) with hdigit | hdot
            · exact .inl (by simp [hexDigitValue, hdigit])
            · exact .inr (.inr hdot)
          exact List.forall_mem_cons.1 hbytes

/-- An IPv6 address has hexadecimal digits, colons and dots only. -/
theorem inetPton6_bytes {s : CStr} {addr : List UInt8} (h : inetPton6 s = some addr) :
    ∀ c ∈ s, (hexDigitValue c).isSome = true ∨ c = 58 ∨ c = 46 := by
  have hscan : ∀ {t : CStr}, (pton6Scan t ⟨[], none, t, 0, 0⟩).bind pton6Finish = some addr →
      ∀ c ∈ t, (hexDigitValue c).isSome = true ∨ c = 58 ∨ c = 46 := by
    intro t ht
    obtain ⟨q, hq, -⟩ := Option.bind_eq_some_iff.1 ht
    exact pton6Scan_bytes (List.suffix_refl t) hq
  unfold inetPton6 at h
  dsimp only at h
  split at h
  · cases h
  · exact List.forall_mem_cons.2 ⟨.inr (.inl rfl), hscan h⟩
  · cases h
  · exact hscan h

/-- `g_strsplit (s, …, -1)` at a byte: an empty text has no parts. -/
def gStrsplit (s : CStr) (delimiter : UInt8) : List CStr :=
  if s = [] then [] else s.splitOn delimiter

/-- `g_strsplit_set (s, …, -1)` at the bytes of a set. -/
def gStrsplitSet (s delimiters : CStr) : List CStr :=
  if s = [] then [] else s.splitOnP delimiters.contains

end NmGpclient
