import NmGpclient.Lib.Simulation
import NmGpclient.Service.Alike
import NmGpclient.Service.Startup

/-!
# The log level changes nothing else

Debugging also keeps libnm from watching the plugin's peer. Two services that are both debugged, or
both not, and were started alike but for how they were told so and for `NM_VPN_LOG_LEVEL`, agree in
everything but what the log level decides: the same events may happen to them, they answer libnm the
same, and they make the same calls on their surroundings, in the same order and with the same
arguments. `verbosity` is the simulation of one by the other.
-/

namespace NmGpclient

/-! ## Whole runs -/

/-- What libnm is answered. -/
inductive Reply where
  | connect (r : ConnectReturn)
  | needSecrets (r : NeedSecrets)
deriving DecidableEq

/-- What an event answers libnm. -/
def Event.replies (w : World) : Event → List Reply
  | .connect connection a => [.connect (realConnect connection a (w.setLibnm .starting)).1]
  | .needSecrets connection bus => [.needSecrets (realNeedSecrets connection bus w).1]
  | _ => []

/-- The event, when the environment of the service is `environ`. -/
def Event.inEnviron (environ : StrMap) : Event → Event
  | .connect connection a => .connect connection { a with environ := environ }
  | e => e

/-- The service in the environment `environ`. -/
def serviceIn (environ : StrMap) : Machine World Event where
  enabled w e := Event.enabled w (e.inEnviron environ)
  step w e := Event.step w (e.inEnviron environ)

instance (environ : StrMap) (w : World) (e : Event) : Decidable ((serviceIn environ).enabled w e) :=
  inferInstanceAs (Decidable (Event.enabled w (e.inEnviron environ)))

/-- What the service in the environment `environ` answers libnm. -/
def repliesIn (environ : StrMap) (w : World) (e : Event) : List Reply :=
  Event.replies w (e.inEnviron environ)

section
variable {w w' : World} {environ environ' : StrMap}

theorem enabled_alike (h : w.Alike w') (e : Event) :
    (serviceIn environ).enabled w e ↔ (serviceIn environ').enabled w' e := by
  obtain ⟨level, trace, rfl, -⟩ := h
  cases e <;> exact Iff.rfl

/-- An event leads from states that are alike to such states, and is answered the same. -/
theorem step_alike (henviron : quietEnv environ' = quietEnv environ) (h : w.Alike w') (e : Event) :
    ((serviceIn environ).step w e).Alike ((serviceIn environ').step w' e) ∧
      repliesIn environ w e = repliesIn environ' w' e := by
  cases e with
  | connect connection a =>
    have hconnect := realConnect_alike connection { a with environ := environ } henviron
      (h.setLibnm .starting)
    exact ⟨hconnect.alike, congrArg (fun r => [Reply.connect r]) hconnect.ret_eq.symm⟩
  | needSecrets connection bus =>
    have hneeds := realNeedSecrets_alike connection bus h
    exact ⟨hneeds.alike, congrArg (fun r => [Reply.needSecrets r]) hneeds.ret_eq.symm⟩
  | disconnect groupKilled => exact ⟨(realDisconnect_alike groupKilled h).setLibnm .stopped, rfl⟩
  | quit groupKilled => exact ⟨quitMainloop_alike groupKilled h, rfl⟩
  | killTimeout id a => exact ⟨ensureKilled_alike a (h.update (·.dropSource id)), rfl⟩
  | childExit pid status a =>
    exact ⟨openconnectWatchCb_alike status a (h.update (·.reap pid)), rfl⟩
  | libnmState s => exact ⟨h.setLibnm s, rfl⟩
  | unixSignal => exact ⟨h.emit _, rfl⟩

/-- The service at one log level simulates it at another. -/
def verbosity (henviron : quietEnv environ' = quietEnv environ) :
    (serviceIn environ).Simulation (serviceIn environ') (serviceIn environ).enabled where
  R := World.Alike
  label _ e := [e]
  valid _ _ e h henabled := ⟨(enabled_alike h e).1 henabled, trivial⟩
  step _ _ e h _ := (step_alike henviron h e).1

/-- A run of one service is one of the other, is answered the same and ends alike. -/
theorem run_alike (henviron : quietEnv environ' = quietEnv environ) (h : w.Alike w')
    {es : List Event} (hvalid : (serviceIn environ).Valid w es) :
    (serviceIn environ').Valid w' es ∧
      ((serviceIn environ).run w es).Alike ((serviceIn environ').run w' es) ∧
      (serviceIn environ).outputs (repliesIn environ) w es =
        (serviceIn environ').outputs (repliesIn environ') w' es := by
  have hshown : ∀ v v' e, (verbosity henviron).R v v' → (serviceIn environ).enabled v e →
      repliesIn environ v e =
        (serviceIn environ').outputs (repliesIn environ') v' ((verbosity henviron).label v e) := by
    intro v v' e hR _
    rw [(step_alike henviron hR e).2]
    exact (List.append_nil _).symm
  obtain ⟨hvalid', hend⟩ := (verbosity henviron).run h hvalid
  have hreplies := (verbosity henviron).outputs hshown h hvalid
  have hlabel : (serviceIn environ).outputs (verbosity henviron).label w es = es :=
    Machine.outputs_singleton _ _ _
  rw [hlabel] at hvalid' hend hreplies
  exact ⟨hvalid', hend, hreplies⟩

/-! ## From the start -/

theorem lookup_quietEnv (envp : StrMap) {key : CStr} (hdebug : key ≠ cstr "OPENCONNECT_DEBUG")
    (hlevel : key ≠ cstr "NM_VPN_LOG_LEVEL") : (quietEnv envp).lookup key = envp.lookup key := by
  unfold quietEnv
  rw [AList.lookup_erase_ne hlevel, AList.lookup_erase_ne hdebug]

theorem setenvUnset_quiet {envp envp' : StrMap} (h : quietEnv envp' = quietEnv envp)
    {name : String} (hdebug : cstr name ≠ cstr "OPENCONNECT_DEBUG")
    (hlevel : cstr name ≠ cstr "NM_VPN_LOG_LEVEL") (value : CStr) :
    quietEnv (setenvUnset envp' name value) = quietEnv (setenvUnset envp name value) := by
  unfold setenvUnset
  rw [← lookup_quietEnv envp' hdebug hlevel, ← lookup_quietEnv envp hdebug hlevel, h]
  split_ifs
  · exact h
  · exact quietEnv_congr h name value

theorem loadTunModule_alike (modprobe : Option (CStr × SpawnSync)) (h : w.Alike w') :
    (loadTunModule modprobe w).Alike (loadTunModule modprobe w') := by
  unfold loadTunModule
  cases modprobe with
  | none => exact h
  | some loader =>
    obtain ⟨program, outcome⟩ := loader
    have hspawn := h.emit (.spawnSync [program, cstr "tun"])
    cases outcome with
    | failed _ _ => exact hspawn.log _ _
    | done status _ =>
      dsimp only
      split_ifs
      · exact hspawn
      · exact hspawn.log _ _

/-- The service that is started with other variables of the log level, or with `--debug` instead of
`OPENCONNECT_DEBUG`. -/
theorem serviceStart_alike (options : ServiceOptions) (debug : Bool)
    (henviron : quietEnv environ' = quietEnv environ)
    (hdebug : serviceDebug { options with debug := debug } environ' = serviceDebug options environ)
    (answers : StartAnswers) (tun : TunTable IfName) :
    quietEnv (serviceStart { options with debug := debug } environ' answers tun).1 =
        quietEnv (serviceStart options environ answers tun).1 ∧
      ∀ w ∈ (serviceStart options environ answers tun).2,
        ∃ w' ∈ (serviceStart { options with debug := debug } environ' answers tun).2,
          w.Alike w' := by
  unfold serviceStart
  dsimp only
  refine ⟨?_, ?_⟩
  · apply setenvUnset_quiet _ (by decide) (by decide)
    apply quietEnv_congr
    rw [quietEnv_environSetenv, quietEnv_environSetenv, if_pos (.inr rfl), if_pos (.inr rfl)]
    exact henviron
  · cases answers.pluginCreated with
    | false => simp
    | true =>
      have hlevels : ∀ level level' : Nat,
          World.Alike { World.start tun with gl := { logLevel := level } }
            { World.start tun with gl := { logLevel := level' } } :=
        fun _ level' => ⟨level', [], rfl, rfl⟩
      rintro _ ⟨⟩
      have hloaded := loadTunModule_alike answers.modprobe ((hlevels
        (serviceLogLevel options environ).toNat
        (serviceLogLevel { options with debug := debug } environ').toNat).log logInfo
          (cstr "nm-gpclient-service starting..."))
      refine ⟨_, rfl, hloaded.emit₂ ?_⟩
      rw [hdebug]

/-- Two services that were started alike but for the variables of the log level and the way in which
debugging is turned on start alike, may meet the same events, answer libnm the same, and end alike:
all they do, but for the log and the dumps of a connection, is the same, up to the `--verbose` at
the end of the command line of gpclient and the variables of the log level in its environment. -/
theorem verbosity_inert (options : ServiceOptions) (debug : Bool)
    (henviron : quietEnv environ' = quietEnv environ)
    (hdebug : serviceDebug { options with debug := debug } environ' = serviceDebug options environ)
    (answers : StartAnswers) (tun : TunTable IfName) {env : StrMap}
    (hstart : serviceStart options environ answers tun = (env, some w)) :
    ∃ env' w', serviceStart { options with debug := debug } environ' answers tun =
        (env', some w') ∧
      ∀ es, ((serviceIn env).Valid w es ↔ (serviceIn env').Valid w' es) ∧
        ((serviceIn env).Valid w es →
          (serviceIn env).outputs (repliesIn env) w es =
            (serviceIn env').outputs (repliesIn env') w' es ∧
          ((serviceIn env).run w es).Alike ((serviceIn env').run w' es)) := by
  obtain ⟨henv, halike⟩ := serviceStart_alike options debug henviron hdebug answers tun
  rw [hstart] at henv halike
  obtain ⟨w', hw', h⟩ := halike w rfl
  generalize serviceStart { options with debug := debug } environ' answers tun = r at henv hw' ⊢
  obtain ⟨env', state'⟩ := r
  obtain rfl : state' = some w' := hw'
  refine ⟨env', w', rfl, fun es => ⟨⟨fun hvalid => ?_, fun hvalid => ?_⟩, fun hvalid => ?_⟩⟩
  · exact (run_alike henv h hvalid).1
  · exact (run_alike henv.symm h.symm hvalid).1
  · obtain ⟨-, hend, hreplies⟩ := run_alike henv h hvalid
    exact ⟨hreplies, hend⟩

end

/-- An environment that asks for the highest log level. -/
def loudEnviron : StrMap := environSetenv ∅ "NM_VPN_LOG_LEVEL" (cstr "7")

theorem verbosity_inert_oneSession : ∃ env w, serviceStart {} loudEnviron ⟨42, none, true⟩
      noDevices = (env, some w) ∧ w.gl.logLevel = logDebug ∧
      (serviceIn env).Valid w oneSession := by
  have hquiet : quietEnv loudEnviron = quietEnv ∅ := by
    rw [loudEnviron, quietEnv_environSetenv, if_pos (.inr rfl)]
  obtain ⟨env, w, hstart, hruns⟩ := @verbosity_inert (plainStart.2.getD (.start noDevices)) ∅
    loudEnviron {} false hquiet (by decide +kernel) ⟨42, none, true⟩ noDevices plainStart.1 rfl
  have hlevel := logLevel_serviceStart (congrArg Prod.snd hstart)
  refine ⟨env, w, hstart, ?_, (hruns oneSession).1.1 (by decide +kernel)⟩
  have hread : serviceLogLevel {} loudEnviron = logDebug := by decide +kernel
  exact Int.ofNat.inj (hlevel.trans hread)

end NmGpclient
