import ModuleContext.Framework.Consistency

/-!
# What users of the module manager rely on

A batch load is all or nothing, the containers agree in every state that calls lead to, and
the service lookups answer for exactly the modules that are loaded.
-/

namespace ModuleContext.Framework
open Foundation Misc

variable {M P H : Type} [IModule M P H]

namespace ModuleManager

/-! ## Batch loads -/

/-- What a successful `LoadModules` has done with the entries of the file. -/
structure BatchLoaded (fs : FileSystem) (configFilePath : String)
    (entries : List ModuleConfigSpec) (before after : ModuleManager M) : Prop where
  listed : ∃ values, ListsModules fs configFilePath values ∧
    List.Forall₂ (EntryMatches fs (fs.getParentPath (fs.getAbsolutePath configFilePath))) values
      entries
  unloaded : ∀ name ∈ before.modulesByName, name ∉ entries.map (·.name)
  order : after.moduleOrder = before.moduleOrder ++ entries.map (·.name)
  adopted : ∀ entry ∈ entries, Adopted entry after
  kept : ∀ name, name ∉ entries.map (·.name) → SameAt name before after

/-- In a reachable manager whatever is filed under a name belongs to a loaded module. -/
theorem Consistent.filed {mgr : ModuleManager M} (consistent : Consistent mgr) {name : String}
    (filed : name ∈ mgr.configsByName ∨
      ∃ serviceKey, name ∈ mgr.serviceRegistry.providers serviceKey) :
    name ∈ mgr.modulesByName := by
  rw [consistent.modules]
  rcases filed with config | ⟨serviceKey, provided⟩
  · exact (consistent.configs name).mp config
  · by_cases key : serviceKey = messageBusServiceKey
    · subst key
      obtain ⟨provider, found⟩ := StringMap.mem_iff_lookup.mp provided
      obtain ⟨inst, held, -⟩ := (consistent.services name provider).mp found
      exact consistent.mem_order held
    · rw [consistent.otherServices serviceKey key] at provided
      exact absurd provided (AList.notMem_empty name)

/-- `LoadModules` fails and changes nothing, or succeeds and appends the modules of the file
in array order, each named, typed and configured as its entry says, with everything that was
loaded before untouched. -/
theorem loadModules_all_or_nothing (fs : FileSystem)
    (plugins : Nat → String → PluginOutcome P) (configFilePath : String)
    (mgr : ModuleManager M) :
    (∃ e, mgr.loadModules fs plugins configFilePath = (.error e, mgr)) ∨
    ∃ entries after, mgr.loadModules fs plugins configFilePath = (.ok (), after) ∧
      BatchLoaded fs configFilePath entries mgr after ∧
      (Reachable (H := H) mgr → ∀ name, (name ∈ mgr.configsByName ∨
        ∃ serviceKey, name ∈ mgr.serviceRegistry.providers serviceKey) →
        name ∉ entries.map (·.name)) := by
  rcases loadModules_cases fs plugins configFilePath mgr with failed |
    ⟨entries, staged, parsed, fresh, checked, loaded⟩
  · exact Or.inl failed
  · obtain ⟨values, listed, matched, distinct⟩ := readModuleConfig_ok parsed
    obtain ⟨order, adopted, kept⟩ :=
      commitModules_spec checked distinct (readModuleConfig_nonempty matched) fresh
    have unloaded : ∀ name ∈ mgr.modulesByName, name ∉ entries.map (·.name) := by
      intro name present member
      obtain ⟨entry, entryMember, rfl⟩ := List.mem_map.mp member
      exact fresh entry entryMember present
    exact Or.inr ⟨entries, _, loaded, ⟨⟨values, listed, matched⟩, unloaded, order, adopted, kept⟩,
      fun reached name filed => unloaded name (reached.consistent.filed filed)⟩

/-- A file system without configuration files, on which every path is absolute. -/
def noFiles : FileSystem where
  loadFromJsonFile _ := .error .notFound
  errorCodeToString _ := "not found"
  isAbsolute _ := true
  getAbsolutePath path := path
  getParentPath path := path
  join directory path := directory ++ "/" ++ path

/-- A plugin whose module lies at `address` and implements `IMessageBusService`. -/
def busPlugin (address : Nat) : PluginOutcome String :=
  ⟨.ok (), .ok (some (⟨address, true⟩, "Bus"))⟩

/-- A file `/etc/modules.json` that lists two buses, the first with a library next to the file. -/
def busFile : FileSystem :=
  let entry (name libraryPath : String) : ConfigValue :=
    .object [("config", .object [("bus", .string name)]), ("library_path", .string libraryPath),
      ("name", .string name), ("type", .string "Bus")]
  { noFiles with
    loadFromJsonFile := fun _ => .ok (.object
      [("modules", .array [entry "first" "bus.so", entry "second" "/lib/bus.so"]),
        ("schema_version", .int64 2)])
    isAbsolute := fun path => path == "/lib/bus.so"
    getParentPath := fun _ => "/etc" }

example :
    let loaded := new.loadModules busFile
      (fun index path => if path = "/etc/bus.so" ∨ path = "/lib/bus.so" then busPlugin index
        else ⟨.error ⟨.notFound, "no such library"⟩, .ok none⟩)
      "/etc/modules.json"
    loaded.1 = .ok () ∧ (loaded.2 : ModuleManager ModuleBase).moduleOrder = ["first", "second"] ∧
      loaded.2.moduleConfig "first" = .ok (.object [("bus", .string "first")]) := by
  decide

/-! ## Agreement of the containers -/

/-- Only `SetModuleName` changes what a module reports as its name. -/
class LawfulModule (M : Type) {P H : Type} [IModule M P H] : Prop where
  moduleName_call : ∀ (operation : Operation) (hooks : H) (module : M),
    IModule.moduleName (operation.call hooks module).2 = IModule.moduleName module

end ModuleManager

/-- The lifecycle methods of `ModuleBase` leave its name and type alone. -/
instance : ModuleManager.LawfulModule ModuleBase where
  moduleName_call := by
    intro operation hooks m
    have named : ∀ ctx state, ({ m with ctx, state } : ModuleBase).moduleName = m.moduleName :=
      fun _ _ => rfl
    cases operation with
    | init ctx =>
      by_cases ready : m.state = .created ∨ m.state = .fini
      · change (m.init ctx hooks).module.moduleName = m.moduleName
        rw [ModuleBase.init_of_ready ready]
        cases hooks.onInit <;> rfl
      · change (m.init ctx hooks).module.moduleName = m.moduleName
        rw [ModuleBase.init_of_active (by cases h : m.state <;> simp_all [ModuleBase.isActive])]
    | start =>
      by_cases ready : m.state = .inited ∨ m.state = .stopped
      · change (m.start hooks).module.moduleName = m.moduleName
        rw [ModuleBase.start_of_ready ready]
        cases hooks.onStart <;> rfl
      · change (m.start hooks).module.moduleName = m.moduleName
        rw [ModuleBase.start_of_not_ready (not_or.mp ready)]
    | stop =>
      by_cases running : m.state = .started
      · change (m.stop hooks).module.moduleName = m.moduleName
        rw [ModuleBase.stop_of_started running]
        cases hooks.onStop <;> rfl
      · change (m.stop hooks).module.moduleName = m.moduleName
        rw [ModuleBase.stop_of_not_started running]
    | fini =>
      change (m.fini hooks).module.moduleName = m.moduleName
      cases state : m.state with
      | created => rw [ModuleBase.fini_of_created state]; exact named _ _
      | inited => rw [ModuleBase.fini_of_idle (Or.inl state)]; exact named _ _
      | started => rw [ModuleBase.fini_of_started state]; exact named _ _
      | stopped => rw [ModuleBase.fini_of_idle (Or.inr state)]; exact named _ _
      | fini => rw [ModuleBase.fini_of_fini state]

namespace ModuleManager

/-- Every module reports the name under which it is stored. -/
def ReportsNames (mgr : ModuleManager M) : Prop :=
  ∀ name inst, mgr.instanceOf name = some inst → IModule.moduleName inst.module = name

theorem ReportsNames.setModule [LawfulModule M] {mgr : ModuleManager M}
    (reports : ReportsNames mgr) {name : String} {inst : Instance M}
    (held : mgr.instanceOf name = some inst) (operation : Operation) (hooks : H) :
    ReportsNames (mgr.setModule name inst (operation.call hooks inst.module).2) := by
  intro other found foundHeld
  by_cases same : other = name
  · subst same
    rw [instanceOf_setModule_self, Option.some.injEq] at foundHeld
    subst foundHeld
    exact (LawfulModule.moduleName_call operation hooks inst.module).trans (reports other inst held)
  · rw [instanceOf_setModule_ne same] at foundHeld
    exact reports other found foundHeld

theorem ReportsNames.walked [LawfulModule M] {operation : Operation} {hooks : String → H}
    {mgr final : ModuleManager M} {names : List String} {visits : List (Visit M H)}
    (reports : ReportsNames mgr) (walk : Traversal operation hooks mgr names visits final) :
    ReportsNames final := by
  induction walk with
  | done mgr names => exact reports
  | visit held _ ih => exact ih (reports.setModule held operation _)

theorem ReportsNames.adopt {mgr : ModuleManager M} (reports : ReportsNames mgr) {name : String}
    {inst : Instance M} {config : ConfigValue} (nonempty : name.isEmpty = false)
    (fresh : name ∉ mgr.modulesByName) (named : IModule.moduleName inst.module = name) :
    ReportsNames (mgr.adopt name (some inst) config) := by
  intro other found held
  by_cases same : other = name
  · subst same
    rw [instanceOf_adopt_self fresh, Option.some.injEq] at held
    exact held ▸ named
  · rw [(sameAt_adopt same nonempty).instanceOf_eq] at held
    exact reports other found held

theorem Reachable.reportsNames [LawfulModule M] {mgr : ModuleManager M}
    (reached : Reachable (H := H) mgr) : ReportsNames mgr := by
  have nothing : ∀ registry, ReportsNames (⟨∅, ∅, [], registry⟩ : ModuleManager M) := by
    intro registry name inst held
    simp [instanceOf] at held
  refine (Reachable.invariant ReportsNames (nothing _) (fun _ => nothing _) ?_ ?_ reached).2
  · intro mgr name inst config _ reports nonempty fresh named
    exact reports.adopt nonempty fresh named.reports
  · intro mgr operation hooks names visits final reports walk
    exact reports.walked walk

/-- In a walk over distinct names every visit finds names reported truly. -/
theorem ReportsNames.at_visit [LawfulModule M] {operation : Operation} {hooks : String → H}
    {mgr final : ModuleManager M} {names : List String} {visits : List (Visit M H)}
    (reports : ReportsNames mgr) (walk : Traversal operation hooks mgr names visits final) :
    ∀ visit ∈ visits, visit.manager.instanceOf visit.name = some visit.instance' ∧
      IModule.moduleName visit.instance'.module = visit.name ∧ SameModules mgr visit.manager := by
  induction walk with
  | done mgr names => simp
  | visit held _ ih =>
    intro visit member
    rcases List.mem_cons.mp member with rfl | member
    · exact ⟨held, reports _ _ held, .refl _⟩
    · obtain ⟨found, named, same⟩ := ih (reports.setModule held operation _) visit member
      exact ⟨found, named, (sameModules_setModule held _).trans same⟩

/-- A forward pass called the loaded modules in load order: all of them if it succeeded, and
otherwise those up to and including the first whose call failed. -/
structure CalledForward (operation : Operation) (mgr : ModuleManager M)
    (pass : PassResult M H) : Prop where
  whole : isOk pass.result = true → pass.visits.map (·.name) = mgr.moduleOrder ∧
    ∀ visit ∈ pass.visits, visit.result operation = .ok ()
  partly : isOk pass.result = false → ∃ before visit later,
    pass.visits = before ++ [visit] ∧
    mgr.moduleOrder = before.map (·.name) ++ visit.name :: later ∧
    (∀ earlier ∈ before, earlier.result operation = .ok ()) ∧
    isOk (visit.result operation) = false

theorem Consistent.calledForward {mgr : ModuleManager M} (consistent : Consistent mgr)
    (operation : Operation) (hooks : String → H) :
    CalledForward operation mgr (forwardPass operation hooks mgr.moduleOrder mgr) := by
  obtain ⟨walk, earlierOk, whole, failing⟩ := forwardPass_spec hooks consistent.valid
  refine ⟨whole, ?_⟩
  intro failed
  obtain ⟨before, visit, split, bad⟩ := failing failed
  obtain ⟨later, covered⟩ := walk.names_prefix
  rw [split, List.map_append, List.append_assoc] at covered
  exact ⟨before, visit, later, split, covered.symm, earlierOk before visit [] split, bad⟩

/-- The containers of a reachable manager agree: each loaded module is stored once, under
the name it reports, with a config. So `Stop` and `Fini` call every loaded module exactly
once, `Init` and `Start` call them exactly once up to the first failure, no pass skips a
name, and whenever a module is called its config can be looked up under its own name. -/
theorem reachable_containers_agree [LawfulModule M] {mgr : ModuleManager M}
    (reached : Reachable (H := H) mgr) :
    mgr.moduleOrder.Nodup ∧
    (∀ name, name ∈ mgr.modulesByName ↔ name ∈ mgr.moduleOrder) ∧
    (∀ name, name ∈ mgr.configsByName ↔ name ∈ mgr.moduleOrder) ∧
    (∀ name ∈ mgr.moduleOrder, ∃ inst, mgr.modulesByName.lookup name = some (some inst) ∧
      IModule.moduleName inst.module = name) ∧
    (∀ hooks : String → H, (mgr.stop hooks).visits.map (·.name) = mgr.moduleOrder.reverse) ∧
    (∀ hooks : String → H, (mgr.fini hooks).visits.map (·.name) = mgr.moduleOrder.reverse) ∧
    (∀ ctx (hooks : String → H), CalledForward (.init ctx) mgr (mgr.init ctx hooks)) ∧
    (∀ hooks : String → H, CalledForward .start mgr (mgr.start hooks)) ∧
    ∀ operation (hooks : String → H), ∀ visit ∈ (mgr.runPass operation hooks).visits,
      visit.manager.modulesByName.lookup visit.name = some (some visit.instance') ∧
      IModule.moduleName visit.instance'.module = visit.name ∧
      ∃ config, visit.manager.moduleConfig (IModule.moduleName visit.instance'.module) =
        .ok config := by
  have consistent := reached.consistent
  have reports := reached.reportsNames
  have validReverse : AllValid mgr.moduleOrder.reverse mgr :=
    fun name member => consistent.valid name (List.mem_reverse.mp member)
  refine ⟨consistent.distinct, consistent.modules, consistent.configs, ?_,
    fun hooks => (reversePass_spec hooks makeSuccess validReverse).2,
    fun hooks => (reversePass_spec hooks makeSuccess validReverse).2,
    fun ctx hooks => consistent.calledForward (.init ctx) hooks,
    fun hooks => consistent.calledForward .start hooks, ?_⟩
  · intro name member
    obtain ⟨inst, held⟩ := Option.isSome_iff_exists.mp (consistent.valid name member)
    exact ⟨inst, instanceOf_eq_some.mp held, reports name inst held⟩
  · intro operation hooks visit member
    obtain ⟨names, final, -, walk, -⟩ := consistent.traversal operation hooks
    obtain ⟨held, named, same⟩ := reports.at_visit walk visit member
    have visited := consistent.of_sameModules same
    have configured := (visited.configs visit.name).mpr (visited.mem_order held)
    obtain ⟨config, found⟩ := StringMap.mem_iff_lookup.mp configured
    exact ⟨instanceOf_eq_some.mp held, named, config, by rw [named, moduleConfig, found]⟩

/-- The manager after `LoadModule` of two bus plugins. -/
def twoBuses : ModuleManager ModuleBase :=
  let first := (new.loadModule noFiles (fun _ => busPlugin 1) "first" "/lib/bus.so").2
  (first.loadModule noFiles (fun _ => busPlugin 2) "second" "/lib/bus.so").2

theorem twoBuses_reachable : Reachable (H := Hooks) twoBuses :=
  ⟨_, (Run.nil.snoc (l := .loadModule noFiles (fun _ => busPlugin 1) "first" "/lib/bus.so")
    rfl).snoc (l := .loadModule noFiles (fun _ => busPlugin 2) "second" "/lib/bus.so") rfl⟩

theorem twoBuses_containers_agree :
    twoBuses.moduleOrder = ["first", "second"] ∧ twoBuses.moduleOrder.Nodup :=
  ⟨by decide, (reachable_containers_agree twoBuses_reachable).1⟩

/-- `Init` does not call the modules after the first one that fails. -/
theorem init_skips_after_failure :
    ¬ ∀ mgr : ModuleManager ModuleBase, Reachable (H := Hooks) mgr →
      ∀ operation (hooks : String → Hooks), ∀ name ∈ mgr.moduleOrder,
        ((mgr.runPass operation hooks).visits.map (·.name)).count name = 1 := by
  intro everyModule
  let failing : Hooks := ⟨.error ⟨.notFound, "no broker"⟩, .ok (), .ok (), .ok ()⟩
  have visited := everyModule twoBuses twoBuses_reachable (.init 0) (fun _ => failing) "second"
    (by decide)
  exact absurd visited (by decide)

/-! ## Service discovery -/

/-- The loaded modules that implement `IMessageBusService`, in load order. -/
def messageBusModules (mgr : ModuleManager M) : List String :=
  mgr.moduleOrder.filter fun name => (mgr.instanceOf name).any (·.ref.isMessageBusService)

theorem lookupModuleRaw_eq_ok {mgr : ModuleManager M} {name : String} {ref : ModuleRef} :
    mgr.lookupModuleRaw name = .ok ref ↔
      ∃ inst, mgr.instanceOf name = some inst ∧ inst.ref = ref := by
  unfold lookupModuleRaw instanceOf
  cases mgr.modulesByName.lookup name with
  | none => simp
  | some handle => cases handle <;> simp

theorem Consistent.mem_messageBusModules {mgr : ModuleManager M} (consistent : Consistent mgr)
    {name : String} : name ∈ mgr.messageBusModules ↔
      name ∈ mgr.serviceRegistry.providers messageBusServiceKey := by
  rw [messageBusModules, List.mem_filter, StringMap.mem_iff_lookup]
  constructor
  · rintro ⟨-, implements⟩
    obtain ⟨inst, held, implements⟩ := (Option.any_eq_true _ _).mp implements
    exact ⟨_, (consistent.services name _).mpr ⟨inst, held, implements, rfl⟩⟩
  · rintro ⟨provider, found⟩
    obtain ⟨inst, held, implements, -⟩ := (consistent.services name provider).mp found
    exact ⟨consistent.mem_order held, by simp [held, implements]⟩

/-- The provider map has one entry for each module that implements the service. -/
theorem Consistent.keys_perm {mgr : ModuleManager M} (consistent : Consistent mgr) :
    (mgr.serviceRegistry.providers messageBusServiceKey).keys.Perm mgr.messageBusModules := by
  apply (List.perm_ext_iff_of_nodup (AList.keys_nodup _)
    (consistent.distinct.filter _)).mpr
  intro name
  exact consistent.mem_messageBusModules.symm

theorem Consistent.lookupNamedService {mgr : ModuleManager M} (consistent : Consistent mgr)
    (name : String) (ref : ModuleRef) :
    mgr.lookupNamedService messageBusServiceKey name = .ok ref ↔
      mgr.lookupModuleRaw name = .ok ref ∧ ref.isMessageBusService = true := by
  constructor
  · intro found
    have registered := ServiceRegistry.lookup_ok found
    obtain ⟨inst, held, implements, same⟩ := (consistent.services name _).mp registered
    rw [Option.some.injEq] at same
    exact ⟨lookupModuleRaw_eq_ok.mpr ⟨inst, held, same.symm⟩, same ▸ implements⟩
  · rintro ⟨found, implements⟩
    obtain ⟨inst, held, rfl⟩ := lookupModuleRaw_eq_ok.mp found
    -- no module has an empty name, so the registry does not refuse it
    have nonempty := consistent.nonempty name (consistent.mem_order held)
    exact (ServiceRegistry.lookup_eq_ok (by decide) nonempty _ _).mpr
      ((consistent.services name _).mpr ⟨inst, held, implements, rfl⟩)

/-- The three outcomes of `LookupUniqueService`, by the number of modules that qualify. -/
theorem Consistent.lookupUniqueService {mgr : ModuleManager M} (consistent : Consistent mgr) :
    (mgr.messageBusModules = [] ∧ ∃ message,
      mgr.lookupUniqueService messageBusServiceKey = .error ⟨.notFound, message⟩) ∨
    (∃ name ref, mgr.messageBusModules = [name] ∧ mgr.lookupModuleRaw name = .ok ref ∧
      mgr.lookupUniqueService messageBusServiceKey = .ok ref) ∨
    (2 ≤ mgr.messageBusModules.length ∧ ∃ message,
      mgr.lookupUniqueService messageBusServiceKey = .error ⟨.invalidState, message⟩) := by
  have keys := consistent.keys_perm
  have unique := mgr.serviceRegistry.lookupUnique_eq (by decide :
    messageBusServiceKey.isEmpty = false)
  unfold ModuleManager.lookupUniqueService
  rw [unique]
  cases providers : (mgr.serviceRegistry.providers messageBusServiceKey).entries with
  | nil =>
    simp only [AList.keys, providers, List.keys, List.map_nil, List.nil_perm] at keys
    exact Or.inl ⟨keys, _, rfl⟩
  | cons first rest =>
    obtain ⟨name, provider⟩ := first
    simp only [AList.keys, providers, List.keys, List.map_cons] at keys
    cases rest with
    | nil =>
      have found : (mgr.serviceRegistry.providers messageBusServiceKey).lookup name =
          some provider := StringMap.lookup_iff_entry.mpr (by simp [providers])
      obtain ⟨inst, held, -, rfl⟩ := (consistent.services name provider).mp found
      exact Or.inr (Or.inl ⟨name, inst.ref, List.singleton_perm.mp keys |>.symm,
        lookupModuleRaw_eq_ok.mpr ⟨inst, held, rfl⟩, rfl⟩)
    | cons second rest =>
      refine Or.inr (Or.inr ⟨?_, ?_⟩)
      · rw [← keys.length_eq]
        simp
      · cases provider <;> exact ⟨_, rfl⟩

/-- Whatever a service lookup returns, under any key, is a module the manager owns. -/
theorem Consistent.service_owned {mgr : ModuleManager M} (consistent : Consistent mgr)
    {serviceKey name : String} {provider : Option ModuleRef}
    (found : (mgr.serviceRegistry.providers serviceKey).lookup name = some provider) :
    ∃ ref, provider = some ref ∧ mgr.lookupModuleRaw name = .ok ref := by
  by_cases key : serviceKey = messageBusServiceKey
  · subst key
    obtain ⟨inst, held, -, rfl⟩ := (consistent.services name provider).mp found
    exact ⟨inst.ref, rfl, lookupModuleRaw_eq_ok.mpr ⟨inst, held, rfl⟩⟩
  · rw [consistent.otherServices serviceKey key, AList.lookup_empty] at found
    cases found

/-- Service discovery agrees with the loaded modules. The named lookup finds exactly the
loaded implementations, as the same objects; the unique lookup succeeds, finds none or finds
too many by the number of loaded implementations; no lookup returns anything else. -/
theorem service_lookup_agrees {mgr : ModuleManager M} (reached : Reachable (H := H) mgr) :
    (∀ name ref,
      mgr.lookupNamedService messageBusServiceKey name = .ok ref ↔
        mgr.lookupModuleRaw name = .ok ref ∧ ref.isMessageBusService = true) ∧
    (∀ ref, mgr.lookupUniqueService messageBusServiceKey = .ok ref ↔
      ∃ name, mgr.messageBusModules = [name] ∧ mgr.lookupModuleRaw name = .ok ref) ∧
    ((∃ message, mgr.lookupUniqueService messageBusServiceKey = .error ⟨.notFound, message⟩) ↔
      mgr.messageBusModules = []) ∧
    ((∃ message, mgr.lookupUniqueService messageBusServiceKey =
        .error ⟨.invalidState, message⟩) ↔ 2 ≤ mgr.messageBusModules.length) ∧
    (∀ serviceKey name ref, mgr.lookupNamedService serviceKey name = .ok ref →
      mgr.lookupModuleRaw name = .ok ref) ∧
    ∀ serviceKey ref, mgr.lookupUniqueService serviceKey = .ok ref →
      ∃ name, mgr.lookupModuleRaw name = .ok ref := by
  have consistent := reached.consistent
  refine ⟨consistent.lookupNamedService, ?_, ?_, ?_, ?_, ?_⟩
  · intro ref
    rcases consistent.lookupUniqueService with ⟨none, message, outcome⟩ |
      ⟨name, owner, single, owned, outcome⟩ | ⟨many, message, outcome⟩
    · simp [outcome, none]
    · rw [outcome, single, Except.ok.injEq]
      constructor
      · rintro rfl
        exact ⟨name, rfl, owned⟩
      · rintro ⟨other, same, found⟩
        rw [← List.singleton_inj.mp same, owned, Except.ok.injEq] at found
        exact found
    · rw [outcome]
      constructor
      · intro impossible
        cases impossible
      · rintro ⟨name, single, -⟩
        simp [single] at many
  · rcases consistent.lookupUniqueService with ⟨none, message, outcome⟩ |
      ⟨name, owner, single, -, outcome⟩ | ⟨many, message, outcome⟩
    · simp [outcome, none]
    · simp [outcome, single]
    · have some : mgr.messageBusModules ≠ [] := by
        intro none
        simp [none] at many
      simp [outcome, some]
  · rcases consistent.lookupUniqueService with ⟨none, message, outcome⟩ |
      ⟨name, owner, single, -, outcome⟩ | ⟨many, message, outcome⟩
    · simp [outcome, none]
    · simp [outcome, single]
    · simp [outcome, many]
  · intro serviceKey name ref found
    obtain ⟨ref', same, owned⟩ := consistent.service_owned (ServiceRegistry.lookup_ok found)
    rw [Option.some.inj same]
    exact owned
  · intro serviceKey ref found
    obtain ⟨name, registered⟩ := ServiceRegistry.lookupUnique_ok found
    obtain ⟨ref', same, owned⟩ := consistent.service_owned registered
    rw [Option.some.inj same]
    exact ⟨name, owned⟩

theorem twoBuses_service_lookup :
    twoBuses.lookupNamedService messageBusServiceKey "second" = .ok ⟨2, true⟩ ∧
      ∃ message, twoBuses.lookupUniqueService messageBusServiceKey =
        .error ⟨.invalidState, message⟩ := by
  obtain ⟨named, -, -, tooMany, -⟩ := service_lookup_agrees twoBuses_reachable
  exact ⟨(named "second" ⟨2, true⟩).mpr (by decide), tooMany.mpr (by decide)⟩

end ModuleManager

end ModuleContext.Framework
