import NmGpclient.Dialog.Main

/-!
# What the auth dialog emits

A dialog that may interact writes its response exactly when gpauth's answer was collected whole,
gpauth exited with 0, the answer is not empty and no signal was seen. Every other run that ends
writes nothing and exits with 1.
-/

namespace NmGpclient

/-! ## gpauth's answer -/

/-- What was collected is an answer of gpauth: it was collected whole, gpauth exited with 0, and the
output without its trailing newlines is not empty. -/
structure Answered (c : CollectResult) (authJson : CStr) : Prop where
  ret : c.ret = true
  exited : wifexited c.status = true
  status : wexitstatus c.status = 0
  output : c.output.map stripOneTrailingNewline = some authJson
  ne_nil : authJson ≠ []

/-- `run_gpauth` accepts exactly the answers. -/
theorem gpauthOutcome_eq_answered {c : CollectResult} {authJson : CStr} :
    (gpauthOutcome c).1 = .answered authJson ↔ Answered c authJson := by
  constructor
  · intro h
    unfold gpauthOutcome at h
    split_ifs at h with hret hstatus
    simp only [Bool.not_eq_true', Bool.or_eq_true, bne_iff_ne, not_or, Bool.not_eq_false,
      ne_eq, not_not] at hret hstatus
    split at h
    · cases h
    next json hjson =>
      cases h
      obtain ⟨houtput, hne⟩ := nonempty_eq_some.1 hjson
      exact ⟨hret, hstatus.1, hstatus.2, houtput, hne⟩
  · rintro ⟨hret, hexited, hstatus, houtput, hne⟩
    simp [gpauthOutcome, hret, hexited, hstatus, houtput, nonempty_some_of_ne hne]

/-- `run_gpauth` is over once `collect_auth` has returned. -/
theorem gpauthOutcome_ne_running (c : CollectResult) : (gpauthOutcome c).1 ≠ .running := by
  unfold gpauthOutcome
  split_ifs
  · exact nofun
  · exact nofun
  · split <;> exact nofun

section
variable {server browser : CStr} {asGateway : Bool} {options secrets : StrMap} {calls : GpauthCalls}

/-- What a run of gpauth has collected is the result of `collect_auth`. -/
theorem collected_of_runGpauth {c : CollectResult}
    (h : (runGpauth server asGateway browser options secrets calls).collected = some c) :
    collectAuth calls.interrupted calls.spawn calls.turns = some c ∧
      (runGpauth server asGateway browser options secrets calls).outcome = (gpauthOutcome c).1 := by
  unfold runGpauth at h ⊢
  split at h
  · cases h
  · split at h
    · cases h
    next hcollect =>
      cases h
      exact ⟨hcollect, rfl⟩

/-- An accepted answer was collected from gpauth. -/
theorem collected_of_answered {authJson : CStr}
    (h : (runGpauth server asGateway browser options secrets calls).outcome = .answered authJson) :
    (∃ c, (runGpauth server asGateway browser options secrets calls).collected = some c ∧
      Answered c authJson) ∧
    (runGpauth server asGateway browser options secrets calls).argv =
      some (gpauthArgv server asGateway browser options secrets) := by
  unfold runGpauth at h ⊢
  split at h
  · cases h
  · split at h
    · cases h
    · exact ⟨⟨_, rfl, gpauthOutcome_eq_answered.1 h⟩, rfl⟩

/-- A run of gpauth that is not over is in the loop of `collect_auth`. -/
theorem collectAuth_of_running
    (h : (runGpauth server asGateway browser options secrets calls).outcome = .running) :
    collectAuth calls.interrupted calls.spawn calls.turns = none := by
  unfold runGpauth at h
  split at h
  · cases h
  · split at h
    next hcollect => exact hcollect
    next => exact absurd h (gpauthOutcome_ne_running _)

end

/-- The bytes of an answer are those gpauth wrote to its standard output, in their order. -/
theorem Answered.bytes {interrupted : Bool} {spawn : Except GError GPid} {turns : List Turn}
    {c : CollectResult} {authJson : CStr} (h : Answered c authJson)
    (hc : collectAuth interrupted spawn turns = some c) :
    ∃ pid, spawn = .ok pid ∧
      authJson = stripOneTrailingNewline (pipeBytes .stdout (collectLoop turns (.init pid)).trace) := by
  obtain ⟨pid, -, hspawn, -, houtput, -⟩ := collectAuth_good hc h.ret
  have hjson := h.output
  rw [houtput] at hjson
  exact ⟨pid, hspawn, (Option.some.inj hjson).symm⟩

/-! ## The response -/

/-- A dialog that may interact either gives up before it authenticates, or authenticates with the
profile it has read. -/
theorem dialogMain_interactive {i : DialogInput} {args : DialogArgs}
    (hopts : parseOptions i.opts ⟨none, none, none, false⟩ = some args)
    (hallow : args.allowInteraction = true) :
    (∃ printed, dialogMain i = .failure printed) ∨
      ∃ options secrets, i.vpnDetails = some (options, secrets) ∧
        dialogMain i = authenticate options secrets i true := by
  unfold dialogMain
  simp only [hopts, hallow]
  split_ifs
  · exact .inl ⟨_, rfl⟩
  · split
    · split_ifs
      · exact .inl ⟨_, rfl⟩
      · split
        · exact .inl ⟨_, rfl⟩
        next hdetails => exact .inr ⟨_, _, hdetails, rfl⟩
    · exact .inl ⟨_, rfl⟩

/-- The response has a gateway and the cookie; the gateway is the server when gpauth is run for a
gateway. -/
theorem dialogResponse_of_authServer {options secrets : StrMap} {server : CStr}
    (h : authServer options secrets = some server) (authJson : CStr) :
    ∃ gateway, dialogResponse options secrets authJson =
      [(Key.gateway, gateway), (Key.cookie, authJson)] ∧
      (dialogAsGateway options = true → gateway = server) := by
  unfold dialogResponse
  unfold authServer at h
  cases hgateway : dialogGateway options secrets with
  | some gateway =>
    refine ⟨gateway, rfl, fun hmode => ?_⟩
    rw [if_pos hmode, hgateway] at h
    exact Option.some.inj h
  | none =>
    cases hportal : dialogPortal options with
    | some portal =>
      refine ⟨portal, rfl, fun hmode => ?_⟩
      rw [if_pos hmode, hgateway] at h
      cases h
    | none => simp [hgateway, hportal] at h

/-- How the result of a dialog that may interact depends on what was collected.

The response is written exactly when what was collected is an answer and no signal was seen; its
cookie is what gpauth wrote to its standard output, without the trailing newlines. Otherwise nothing
is written, and the dialog exits with 1 unless `collect_auth` has not returned. -/
structure Emits (i : DialogInput) (r : DialogResult) : Prop where
  collected : ∀ c, r.collected = some c →
    collectAuth i.gpauth.interrupted i.gpauth.spawn i.gpauth.turns = some c
  answered : ∀ c authJson, r.collected = some c → Answered c authJson → i.interrupted = false →
    ∃ gateway pid, i.gpauth.spawn = .ok pid ∧
      authJson = stripOneTrailingNewline
        (pipeBytes .stdout (collectLoop i.gpauth.turns (.init pid)).trace) ∧
      r.paramf = DialogResult.responseBytes [(Key.gateway, gateway), (Key.cookie, authJson)] ∧
      ∀ code, r.exitCode = some code → code = 0
  silent : (∀ c authJson, r.collected = some c → Answered c authJson → i.interrupted = true) →
    r.paramf = [] ∧ (r.exitCode = some 1 ∨
      r.exitCode = none ∧ collectAuth i.gpauth.interrupted i.gpauth.spawn i.gpauth.turns = none)

theorem Emits.failure (i : DialogInput) (printed : List CStr) : Emits i (.failure printed) where
  collected := nofun
  answered := nofun
  silent _ := ⟨rfl, .inl rfl⟩

/-- The part of `main` that authenticates emits the answer, or nothing. -/
theorem authenticate_emits (options secrets : StrMap) (i : DialogInput) :
    Emits i (authenticate options secrets i true) := by
  unfold authenticate
  split
  · exact Emits.failure ..
  next server hserver =>
    simp only [Bool.not_true, Bool.false_eq_true, if_false]
    generalize hrun : runGpauth server (dialogAsGateway options) (dialogBrowser options) options
      secrets i.gpauth = run
    have hcollected : ∀ c, run.collected = some c →
        collectAuth i.gpauth.interrupted i.gpauth.spawn i.gpauth.turns = some c ∧
          run.outcome = (gpauthOutcome c).1 := by
      rw [← hrun]
      exact fun c => collected_of_runGpauth
    have hanswer : ∀ c authJson, run.collected = some c → Answered c authJson →
        run.outcome = .answered authJson := fun c authJson hc h =>
      (hcollected c hc).2.trans (gpauthOutcome_eq_answered.2 h)
    cases houtcome : run.outcome with
    | running =>
      refine ⟨fun c hc => (hcollected c hc).1, fun c json hc h => ?_, fun _ => ⟨rfl, .inr ⟨rfl, ?_⟩⟩⟩
      · cases houtcome.symm.trans (hanswer c json hc h)
      · exact collectAuth_of_running (hrun ▸ houtcome)
    | failed =>
      refine ⟨fun c hc => (hcollected c hc).1, fun c json hc h => ?_, fun _ => ⟨rfl, .inl rfl⟩⟩
      cases houtcome.symm.trans (hanswer c json hc h)
    | answered json =>
      refine ⟨fun c hc => (hcollected c hc).1, fun c json' hc h hint => ?_, fun hnone => ?_⟩
      · cases houtcome.symm.trans (hanswer c json' hc h)
        obtain ⟨gateway, hresponse, -⟩ := dialogResponse_of_authServer hserver json
        obtain ⟨pid, hspawn, hbytes⟩ := h.bytes (hcollected c hc).1
        refine ⟨gateway, pid, hspawn, hbytes, ?_, fun code hcode => ?_⟩
        · simp [respond, hint, DialogResult.paramf, hresponse]
        · simp only [respond, hint, Bool.false_eq_true, if_false] at hcode
          split_ifs at hcode
          cases hcode
          rfl
      · obtain ⟨⟨c, hc, h⟩, -⟩ := collected_of_answered (hrun ▸ houtcome)
        have hint := hnone c json (hrun ▸ hc) h
        exact ⟨by simp [respond, hint, DialogResult.paramf, DialogResult.failure],
          .inl (by simp [respond, hint, DialogResult.failure])⟩

/-- A cancelled authentication emits nothing, and a completed one emits what gpauth printed.

`collect_auth` returns `TRUE` exactly when the trace of its loop is complete, and then with all the
bytes of each pipe in their order; and a dialog that may interact emits that answer or nothing. -/
theorem authentication_emits :
    (∀ interrupted spawn turns,
      (∃ r, collectAuth interrupted spawn turns = some r ∧ r.ret = true) ↔
        ∃ pid, interrupted = false ∧ spawn = .ok pid ∧
          Completed (collectLoop turns (.init pid)).trace) ∧
    (∀ pid turns r, collectAuth false (.ok pid) turns = some r → r.ret = true →
      r.output = some (pipeBytes .stdout (collectLoop turns (.init pid)).trace) ∧
        r.errors = some (pipeBytes .stderr (collectLoop turns (.init pid)).trace)) ∧
    ∀ i args, parseOptions i.opts ⟨none, none, none, false⟩ = some args →
      args.allowInteraction = true → Emits i (dialogMain i) := by
  refine ⟨collectAuth_ret_iff, fun pid turns r hr hret => ?_, fun i args hopts hallow => ?_⟩
  · obtain ⟨pid', -, hspawn, -, houtput, herrors, -⟩ := collectAuth_good hr hret
    cases hspawn
    exact ⟨houtput, herrors⟩
  · rcases dialogMain_interactive hopts hallow with ⟨printed, h⟩ | ⟨options, secrets, -, h⟩
    · rw [h]
      exact Emits.failure ..
    · rw [h]
      exact authenticate_emits options secrets i

/-! ## A run through a portal -/

/-- gpauth answers `{}` in one chunk, closes its pipes and exits with 0. -/
def answeringTurns : List Turn :=
  [⟨.ready false true false, false, .eintr, fun _ => .chunk 123 [125, 10], 0, .running⟩,
    ⟨.ready false true true, false, .eintr, fun _ => .eof, 100000, .reaped 0⟩]

/-- A profile with a portal and nothing else. -/
def portalOptions : StrMap := AList.insert Key.portal (cstr "vpn.example.org") ∅

/-- The dialog runs for that profile and gets that answer. -/
def portalInput : DialogInput where
  opts := [.uuid (cstr "u"), .name (cstr "n"), .service nmVpnServiceTypeOpenconnect,
    .allowInteraction]
  superfluous := false
  vpnDetails := some (portalOptions, ∅)
  gpauth := ⟨.done 0 (some (cstr "gpauth 3.2.0")), false, .ok 7, answeringTurns⟩
  interrupted := false
  quit := [⟨false, false, none⟩]

theorem authentication_emits_portal :
    (∃ r, collectAuth false (.ok 7) answeringTurns = some r ∧ r.ret = true) ∧
      Emits portalInput (dialogMain portalInput) ∧
      (dialogMain portalInput).paramf =
        cstr "gateway\nvpn.example.org\ncookie\n\x7b\x7d\n\n\n" := by
  have hemits := authentication_emits.2.2 portalInput _ rfl rfl
  exact ⟨⟨_, rfl, by decide +kernel⟩, hemits, by decide +kernel⟩

end NmGpclient
