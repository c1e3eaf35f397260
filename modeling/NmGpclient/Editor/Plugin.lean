import NmGpclient.Lib.CStr
import NmGpclient.Lib.Machine

/-!
# Loading the editor

The plugin that NetworkManager's clients load is free of GTK: `plugin_get_editor` loads the module
with the editor for the toolkit of the process, GTK 3 or 4, on its first call, and keeps it for the
life of the process. `nm_vpn_plugin_utils_load_editor` holds the module in a static variable, so what
a call does depends on the calls before it. `getEditor_run` says how: on the first of them that loads
a module, and on nothing else.

What the dynamic linker and the factory of a module answer is an argument of each call. The failure
of `dladdr` on the plugin's own function is left out: the program reports it, and goes on with a name
that was never set.
-/

namespace NmGpclient

/-! ## The loader -/

/-- The domains and codes of the errors. -/
inductive LoadErrorCode where
  | noent
  | failed
deriving DecidableEq, Repr

/-- A `GError` of the loader or of a factory. -/
structure LoadError where
  code : LoadErrorCode
  message : CStr
deriving DecidableEq, Repr

/-- `cached`, once it is set. -/
structure LoadedModule where
  factory : Nat
  dlModule : Nat
  moduleName : CStr
  factoryName : CStr
deriving DecidableEq, Repr

/-- `cached`, and the handles that are open. -/
structure Loader where
  cached : Option LoadedModule := none
  handles : List Nat := []
deriving DecidableEq, Repr

/-- What a call is answered: the directory of the plugin, the dynamic linker, which files exist, and
what a factory makes of the connection. -/
structure LoadAnswers (ε : Type*) where
  dirname : CStr
  dlopen : CStr → Except CStr Nat
  fileExists : CStr → Bool
  dlsym : Nat → CStr → Except CStr Nat
  factory : Nat → Option ε × Option LoadError

section
variable {ε : Type*}

/-- `g_path_is_absolute`. -/
def gPathIsAbsolute (path : CStr) : Bool := path.head? == some 47

/-- `g_build_filename` of two elements. -/
def gBuildFilename (dirname name : CStr) : CStr :=
  dirname.rdropWhile (· == 47) ++ [47] ++ name.dropWhile (· == 47)

/-- `module_path`. -/
def modulePath (dirname moduleName : CStr) : CStr :=
  if gPathIsAbsolute moduleName then moduleName else gBuildFilename dirname moduleName

/-- The end of `nm_vpn_plugin_utils_load_editor`: the editor of the factory, with an error when there
is none. -/
def makeEditor (a : LoadAnswers ε) (factory : Nat) : Option ε × Option LoadError :=
  match a.factory factory with
  | (none, none) => (none, some ⟨.failed, cstr "unknown error creating editor instance"⟩)
  | result => result

/-- `nm_vpn_plugin_utils_load_editor`: the editor, and the error it sets. An assertion that fails
returns neither. -/
def nmVpnPluginUtilsLoadEditor (moduleName factoryName : CStr) (a : LoadAnswers ε) (s : Loader) :
    (Option ε × Option LoadError) × Loader :=
  let path := modulePath a.dirname moduleName
  match s.cached with
  | some cached =>
    if cached.factoryName ≠ factoryName then ((none, none), s)
    else if cached.moduleName ≠ moduleName then ((none, none), s)
    else (makeEditor a cached.factory, s)
  | none =>
    match a.dlopen path with
    | .error dlerror =>
      if !a.fileExists path then
        ((none, some ⟨.noent, cstr "missing plugin file \"" ++ path ++ cstr "\""⟩), s)
      else ((none, some ⟨.failed, cstr "cannot load editor plugin: " ++ dlerror⟩), s)
    | .ok dlModule =>
      let s := { s with handles := dlModule :: s.handles }
      match a.dlsym dlModule factoryName with
      | .error dlerror =>
        ((none, some ⟨.failed, cstr "cannot load factory " ++ factoryName ++ cstr " from plugin: " ++
          dlerror⟩), { s with handles := s.handles.erase dlModule })
      | .ok factory =>
        (makeEditor a factory,
          { s with cached := some ⟨factory, dlModule, moduleName, factoryName⟩ })

/-! ## The plugin -/

/-- A call of `plugin_get_editor`: whether the process has GTK 3, and the answers. -/
structure EditorCall (ε : Type*) where
  gtk3 : Bool
  answers : LoadAnswers ε

/-- The module for the toolkit. -/
def editorModule (gtk3 : Bool) : CStr :=
  if gtk3 then cstr "libnm-vpn-plugin-gpclient-editor.so"
  else cstr "libnm-gtk4-vpn-plugin-gpclient-editor.so"

/-- The factory in either module. -/
def editorFactory : CStr := cstr "nm_vpn_editor_factory_gpclient"

/-- `plugin_get_editor`. -/
def pluginGetEditor (call : EditorCall ε) (s : Loader) : (Option ε × Option LoadError) × Loader :=
  nmVpnPluginUtilsLoadEditor (editorModule call.gtk3) editorFactory call.answers s

/-- The plugin in a process, from call to call. -/
def plugin (ε : Type*) : Machine Loader (EditorCall ε) :=
  ⟨fun _ _ => True, fun s call => (pluginGetEditor call s).2⟩

/-! ## The first module stays -/

/-- The module that a call loads, when none is loaded yet and it can. -/
def EditorCall.loads (call : EditorCall ε) : Option LoadedModule :=
  match call.answers.dlopen (modulePath call.answers.dirname (editorModule call.gtk3)) with
  | .error _ => none
  | .ok dlModule =>
    match call.answers.dlsym dlModule editorFactory with
    | .error _ => none
    | .ok factory => some ⟨factory, dlModule, editorModule call.gtk3, editorFactory⟩

/-- The loader with a module, or without one. -/
def Loader.holding (cached : Option LoadedModule) : Loader :=
  ⟨cached, (cached.map LoadedModule.dlModule).toList⟩

/-- A call keeps the module that is there, and else loads one if it can; what it does not keep it
closes. -/
theorem pluginGetEditor_holding (call : EditorCall ε) (cached : Option LoadedModule) :
    (pluginGetEditor call (.holding cached)).2 = .holding (cached.or call.loads) := by
  unfold pluginGetEditor nmVpnPluginUtilsLoadEditor EditorCall.loads Loader.holding
  cases cached with
  | some c =>
    dsimp only
    split_ifs <;> rfl
  | none =>
    dsimp only
    cases call.answers.dlopen (modulePath call.answers.dirname (editorModule call.gtk3)) with
    | error dlerror =>
      dsimp only
      split_ifs <;> rfl
    | ok dlModule =>
      dsimp only
      cases call.answers.dlsym dlModule editorFactory with
      | error dlerror => simp
      | ok factory => rfl

/-- After any calls the plugin holds the module that the first of them loaded that could, and no
other. -/
theorem run_plugin (calls : List (EditorCall ε)) (cached : Option LoadedModule) :
    (plugin ε).run (.holding cached) calls =
      .holding (cached.or (calls.findSome? EditorCall.loads)) := by
  induction calls generalizing cached with
  | nil => simp
  | cons call calls ih =>
    have hstep : (plugin ε).step (.holding cached) call = .holding (cached.or call.loads) :=
      pluginGetEditor_holding call cached
    rw [Machine.run_cons, hstep, ih, List.findSome?_cons, Option.or_assoc]
    cases call.loads <;> rfl

/-- A module that is loaded has the name of its toolkit and the factory of the plugin. -/
theorem names_of_loads {call : EditorCall ε} {cached : LoadedModule}
    (h : call.loads = some cached) :
    cached.moduleName = editorModule call.gtk3 ∧ cached.factoryName = editorFactory := by
  unfold EditorCall.loads at h
  split at h
  · cases h
  · split at h
    · cases h
    · cases h
      exact ⟨rfl, rfl⟩

/-- A factory leaves no silence. -/
theorem makeEditor_ne (a : LoadAnswers ε) (factory : Nat) : makeEditor a factory ≠ (none, none) := by
  unfold makeEditor
  split
  · simp
  next h => exact h

theorem factoryName_of_findSome {calls : List (EditorCall ε)} {cached : LoadedModule}
    (h : calls.findSome? EditorCall.loads = some cached) : cached.factoryName = editorFactory := by
  obtain ⟨call, -, hloads⟩ := List.exists_of_findSome?_eq_some h
  exact (names_of_loads hloads).2

/-- What a call returns in a process, after any others.

One module is open once a call could load it, the one of the first such call. A call for that module
returns what its factory makes of the connection; a call for the other toolkit returns neither an
editor nor an error, and it is the only one that does so. -/
theorem getEditor_run (calls : List (EditorCall ε)) (call : EditorCall ε) :
    ((plugin ε).run {} calls).handles =
        ((calls.findSome? EditorCall.loads).map LoadedModule.dlModule).toList ∧
      (∀ cached ∈ calls.findSome? EditorCall.loads, cached.moduleName = editorModule call.gtk3 →
        (pluginGetEditor call ((plugin ε).run {} calls)).1 =
          makeEditor call.answers cached.factory) ∧
      ((pluginGetEditor call ((plugin ε).run {} calls)).1 = (none, none) ↔
        ∃ cached ∈ calls.findSome? EditorCall.loads, cached.moduleName ≠ editorModule call.gtk3) := by
  have hrun : (plugin ε).run {} calls = .holding (calls.findSome? EditorCall.loads) :=
    run_plugin calls none
  have hname : ∀ cached ∈ calls.findSome? EditorCall.loads, cached.factoryName = editorFactory :=
    fun cached => factoryName_of_findSome
  rw [hrun]
  generalize calls.findSome? EditorCall.loads = first at hname ⊢
  have hloaded : ∀ cached ∈ first, cached.moduleName = editorModule call.gtk3 →
      (pluginGetEditor call (.holding first)).1 = makeEditor call.answers cached.factory := by
    rintro cached rfl hmodule
    unfold pluginGetEditor nmVpnPluginUtilsLoadEditor Loader.holding
    simp [hname cached rfl, hmodule]
  refine ⟨rfl, hloaded, ?_⟩
  cases first with
  | none =>
    refine iff_of_false ?_ (by simp)
    unfold pluginGetEditor nmVpnPluginUtilsLoadEditor Loader.holding
    dsimp only
    split
    · split_ifs <;> simp
    · split
      · simp
      · exact makeEditor_ne call.answers _
  | some cached =>
    by_cases hmodule : cached.moduleName = editorModule call.gtk3
    · rw [hloaded cached rfl hmodule]
      exact iff_of_false (makeEditor_ne call.answers _) (by simp [hmodule])
    · refine iff_of_true ?_ ⟨cached, rfl, hmodule⟩
      unfold pluginGetEditor nmVpnPluginUtilsLoadEditor Loader.holding
      simp [hname cached rfl, hmodule]

end

end NmGpclient
