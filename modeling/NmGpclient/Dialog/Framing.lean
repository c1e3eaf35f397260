import NmGpclient.Agreement

/-!
# Reading the response back

NetworkManager reads the dialog's response as lines, a key and its value in turn, up to the first
empty key. The dialog escapes nothing, so the two pairs come back exactly when neither value
contains a newline. A reader that also strips the white space at the end of a line, as that of the
program's own test does, changes a value that ends in white space as well.
-/

namespace NmGpclient

/-! ## The reader -/

/-- A newline ends a line. -/
def endsLine (c : UInt8) : Bool := c == 10

/-- The lines of an input, without their newlines. -/
def lines (input : List UInt8) : List CStr := splitSegments endsLine input

/-- The pairs on the lines, up to the first empty key; none when a key has no value line. -/
def decodeLines (trim : CStr → CStr) : List CStr → Option (List (CStr × CStr))
  | [] => some []
  | [key] => if key = [] then some [] else none
  | key :: value :: rest =>
    if key = [] then some []
    else (decodeLines trim rest).map fun pairs => (trim key, trim value) :: pairs

/-- The pairs of a response. -/
def decodeResponse (trim : CStr → CStr) (response : List UInt8) : Option (List (CStr × CStr)) :=
  decodeLines trim (lines response)

/-- A text without newlines. -/
def OneLine (s : CStr) : Prop := ∀ c ∈ s, endsLine c = false

instance (s : CStr) : Decidable (OneLine s) := inferInstanceAs (Decidable (∀ c ∈ s, _))

theorem oneLine_iff {s : CStr} : OneLine s ↔ 10 ∉ s := by
  simp only [OneLine, endsLine, beq_eq_false_iff_ne]
  exact ⟨fun h hmem => h 10 hmem rfl, fun h c hc heq => h (heq ▸ hc)⟩

theorem lines_cons {s : CStr} (hs : OneLine s) (rest : List UInt8) :
    lines (s ++ cstr "\n" ++ rest) = s :: lines rest := by
  have hnewline : cstr "\n" = [10] := by decide
  rw [hnewline, List.append_assoc]
  exact splitSegments_append_cons endsLine hs rfl rest

section
variable {trim : CStr → CStr}

/-- What is read is on lines of the input. -/
theorem mem_decodeLines : ∀ {ls : List CStr} {pairs : List (CStr × CStr)},
    decodeLines trim ls = some pairs → ∀ pair ∈ pairs, ∃ key ∈ ls, ∃ value ∈ ls,
      pair = (trim key, trim value)
  | [], _, h, _, hpair => by
      cases h
      cases hpair
  | [key], _, h, _, hpair => by
      unfold decodeLines at h
      split_ifs at h
      cases h
      cases hpair
  | key :: value :: rest, _, h, pair, hpair => by
      unfold decodeLines at h
      split_ifs at h
      · cases h
        cases hpair
      · obtain ⟨pairs, hpairs, rfl⟩ := Option.map_eq_some_iff.1 h
        rcases List.mem_cons.1 hpair with rfl | hpair
        · exact ⟨key, by simp, value, by simp, rfl⟩
        · obtain ⟨k, hk, v, hv, heq⟩ := mem_decodeLines hpairs pair hpair
          exact ⟨k, by simp [hk], v, by simp [hv], heq⟩

/-- Pairs of one-line texts are read back. -/
theorem decodeResponse_responseBytes : ∀ {pairs : List (CStr × CStr)},
    (∀ pair ∈ pairs, pair.1 ≠ [] ∧ OneLine pair.1 ∧ OneLine pair.2) →
      decodeResponse trim (DialogResult.responseBytes pairs) =
        some (pairs.map fun pair => (trim pair.1, trim pair.2))
  | [], _ => by
      have hend : lines (DialogResult.responseBytes []) = [[], []] := by decide
      simp [decodeResponse, hend, decodeLines]
  | (key, value) :: pairs, h => by
      obtain ⟨hne, hkey, hvalue⟩ := h (key, value) List.mem_cons_self
      have ih := decodeResponse_responseBytes fun pair hpair =>
        h pair (List.mem_cons_of_mem _ hpair)
      have hbytes : DialogResult.responseBytes ((key, value) :: pairs) =
          key ++ cstr "\n" ++ (value ++ cstr "\n" ++ DialogResult.responseBytes pairs) := by
        simp [DialogResult.responseBytes]
      unfold decodeResponse at ih ⊢
      rw [hbytes, lines_cons hkey, lines_cons hvalue, decodeLines, if_neg hne, ih]
      rfl

/-- For a trimming that can be repeated and adds nothing, the pairs are read back exactly when they
are one-line texts that it leaves alone. -/
theorem decodeResponse_eq_iff (htrim : ∀ s, trim (trim s) = trim s)
    (hsub : ∀ s, ∀ c ∈ trim s, c ∈ s) {pairs : List (CStr × CStr)}
    (hkeys : ∀ pair ∈ pairs, pair.1 ≠ [] ∧ OneLine pair.1 ∧ trim pair.1 = pair.1) :
    decodeResponse trim (DialogResult.responseBytes pairs) = some pairs ↔
      ∀ pair ∈ pairs, OneLine pair.2 ∧ trim pair.2 = pair.2 := by
  constructor
  · intro h pair hpair
    obtain ⟨-, -, value, hvalue, rfl⟩ := mem_decodeLines h pair hpair
    have hline : OneLine value := delim_of_mem_splitSegments endsLine hvalue
    exact ⟨fun c hc => hline c (hsub value c hc), htrim value⟩
  · intro h
    rw [decodeResponse_responseBytes fun pair hpair =>
      ⟨(hkeys pair hpair).1, (hkeys pair hpair).2.1, (h pair hpair).1⟩]
    have hsame : ∀ pair ∈ pairs, (trim pair.1, trim pair.2) = id pair := by
      intro pair hpair
      rw [(hkeys pair hpair).2.2, (h pair hpair).2]
      rfl
    rw [List.map_congr_left hsame, List.map_id]

end

/-! ## The response of the dialog -/

/-- The text ends in white space, as `g_ascii_isspace` has it. -/
def endsInSpace (s : CStr) : Bool := s.getLast?.elim false gAsciiIsspace

theorem strchomp_eq_self_iff {s : CStr} : strchomp s = s ↔ endsInSpace s = false := by
  rw [strchomp, List.rdropWhile_eq_self_iff, endsInSpace]
  cases s using List.reverseRecOn with
  | nil => simp
  | append_singleton s c => simp

theorem strchomp_idempotent (s : CStr) : strchomp (strchomp s) = strchomp s :=
  List.rdropWhile_idempotent gAsciiIsspace s

theorem strchomp_subset (s : CStr) : ∀ c ∈ strchomp s, c ∈ s :=
  fun _ hc => (List.rdropWhile_prefix gAsciiIsspace (l := s)).subset hc

/-- The keys of a response are whole lines that no reader changes. -/
theorem responseKeys {pair : CStr × CStr} {gateway cookie : CStr}
    (h : pair ∈ [(Key.gateway, gateway), (Key.cookie, cookie)]) :
    pair.1 ≠ [] ∧ OneLine pair.1 ∧ strchomp pair.1 = pair.1 := by
  have hkey : pair.1 = Key.gateway ∨ pair.1 = Key.cookie :=
    (List.mem_pair.1 h).imp (congrArg Prod.fst) (congrArg Prod.fst)
  rcases hkey with hkey | hkey <;> rw [hkey] <;>
    exact ⟨by decide, by decide +kernel, by decide +kernel⟩

section
variable {options secrets : StrMap}

/-- What the dialog answers with when it has a server: the gateway, or the portal in its place. -/
theorem dialogResponse_eq {server : CStr} (h : authServer options secrets = some server)
    (authJson : CStr) : ∃ gateway,
      (dialogGateway options secrets).or (dialogPortal options) = some gateway ∧
      dialogResponse options secrets authJson =
        [(Key.gateway, gateway), (Key.cookie, authJson)] := by
  unfold authServer at h
  unfold dialogResponse
  cases hgateway : dialogGateway options secrets with
  | some gateway => exact ⟨gateway, rfl, rfl⟩
  | none =>
    cases hportal : dialogPortal options with
    | some portal => exact ⟨portal, rfl, rfl⟩
    | none => simp [hgateway, hportal] at h

/-- A response after an interaction has the answer that was collected from gpauth. -/
theorem collected_of_response {i : DialogInput} {response : List (CStr × CStr)}
    (h : (authenticate options secrets i true).response = some response) :
    ∃ server c cookie, authServer options secrets = some server ∧
      (authenticate options secrets i true).collected = some c ∧ Answered c cookie ∧
      response = dialogResponse options secrets cookie := by
  unfold authenticate at h ⊢
  split at h
  · cases h
  next server hserver =>
    simp only [Bool.not_true, Bool.false_eq_true, if_false] at h ⊢
    split at h
    · cases h
    · cases h
    next authJson houtcome =>
      obtain ⟨⟨c, hc, hanswered⟩, -⟩ := collected_of_answered houtcome
      exact ⟨server, c, authJson, hserver, hc, hanswered, (respond_of_response _ h).1⟩

end

/-- The dialog's response can be read back exactly when its values are single lines.

A dialog that may interact and writes a response has the configured gateway, or the portal in its
place, and what gpauth printed without its trailing newlines. NetworkManager reads exactly these two
pairs if and only if neither contains a newline; a reader that strips white space with `g_strchomp`,
if and only if neither ends in such white space either. -/
theorem response_decodes_iff {i : DialogInput} {args : DialogArgs} {options secrets : StrMap}
    (hopts : parseOptions i.opts ⟨none, none, none, false⟩ = some args)
    (hallow : args.allowInteraction = true) (hdetails : i.vpnDetails = some (options, secrets))
    {response : List (CStr × CStr)} (hresponse : (dialogMain i).response = some response) :
    ∃ gateway cookie c,
      (dialogGateway options secrets).or (dialogPortal options) = some gateway ∧
      (dialogMain i).collected = some c ∧ Answered c cookie ∧
      (decodeResponse id (dialogMain i).paramf =
          some [(Key.gateway, gateway), (Key.cookie, cookie)] ↔
        10 ∉ gateway ∧ 10 ∉ cookie) ∧
      (decodeResponse strchomp (dialogMain i).paramf =
          some [(Key.gateway, gateway), (Key.cookie, cookie)] ↔
        (10 ∉ gateway ∧ endsInSpace gateway = false) ∧
          10 ∉ cookie ∧ endsInSpace cookie = false) := by
  obtain ⟨args', hargs, hmain⟩ := dialogMain_of_response hdetails hresponse
  obtain rfl : args' = args := Option.some.inj (hargs.symm.trans hopts)
  rw [hallow] at hmain
  rw [hmain] at hresponse ⊢
  obtain ⟨server, c, cookie, hserver, hc, hanswered, rfl⟩ := collected_of_response hresponse
  obtain ⟨gateway, hgateway, hpairs⟩ := dialogResponse_eq hserver cookie
  have hbytes : (authenticate options secrets i true).paramf =
      DialogResult.responseBytes [(Key.gateway, gateway), (Key.cookie, cookie)] := by
    rw [DialogResult.paramf, hresponse, hpairs]
    rfl
  rw [hbytes]
  refine ⟨gateway, cookie, c, hgateway, hc, hanswered, ?_, ?_⟩
  · have hid : ∀ s : CStr, id (id s) = id s := fun _ => rfl
    have hsub : ∀ s : CStr, ∀ c ∈ id s, c ∈ s := fun _ _ hc => hc
    rw [decodeResponse_eq_iff hid hsub fun pair hpair =>
      ⟨(responseKeys hpair).1, (responseKeys hpair).2.1, rfl⟩]
    simp [oneLine_iff]
  · rw [decodeResponse_eq_iff strchomp_idempotent strchomp_subset fun pair hpair =>
      responseKeys hpair]
    simp [oneLine_iff, strchomp_eq_self_iff]

theorem response_decodes_portal : ∃ gateway cookie c,
    (dialogGateway portalOptions ∅).or (dialogPortal portalOptions) = some gateway ∧
      (dialogMain portalInput).collected = some c ∧ Answered c cookie ∧
      (decodeResponse id (dialogMain portalInput).paramf =
          some [(Key.gateway, gateway), (Key.cookie, cookie)] ↔
        10 ∉ gateway ∧ 10 ∉ cookie) ∧
      (decodeResponse strchomp (dialogMain portalInput).paramf =
          some [(Key.gateway, gateway), (Key.cookie, cookie)] ↔
        (10 ∉ gateway ∧ endsInSpace gateway = false) ∧
          10 ∉ cookie ∧ endsInSpace cookie = false) := by
  have hresponse : (dialogMain portalInput).response = some portalResponse := by decide +kernel
  exact response_decodes_iff rfl rfl rfl hresponse

/-- gpauth prints two lines. -/
def twoLineTurns : List Turn :=
  [⟨.ready false true false, false, .eintr, fun _ => .chunk 97 [10, 98, 10], 0, .running⟩,
    ⟨.ready false true true, false, .eintr, fun _ => .eof, 100000, .reaped 0⟩]

/-- The dialog runs for the profile with a portal and gets these lines. -/
def twoLineInput : DialogInput := { portalInput with
  gpauth := { portalInput.gpauth with turns := twoLineTurns } }

/-- The second line of a cookie is read as the key of a third pair. -/
theorem response_decodes_fails : ¬∀ i args options secrets response,
    parseOptions i.opts ⟨none, none, none, false⟩ = some args → args.allowInteraction = true →
    i.vpnDetails = some (options, secrets) → (dialogMain i).response = some response →
    ∃ gateway cookie,
      decodeResponse id (dialogMain i).paramf =
        some [(Key.gateway, gateway), (Key.cookie, cookie)] := by
  intro h
  have hresponse : (dialogMain twoLineInput).response =
      some [(Key.gateway, cstr "vpn.example.org"), (Key.cookie, [97, 10, 98])] := by
    decide +kernel
  obtain ⟨gateway, cookie, hpairs⟩ := h twoLineInput _ _ _ _ rfl rfl rfl hresponse
  have hread : decodeResponse id (dialogMain twoLineInput).paramf =
      some [(Key.gateway, cstr "vpn.example.org"), (Key.cookie, cstr "a"), (cstr "b", [])] := by
    decide +kernel
  rw [hread] at hpairs
  simp at hpairs

end NmGpclient
