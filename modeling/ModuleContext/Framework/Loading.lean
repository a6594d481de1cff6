import ModuleContext.Framework.Traversal

/-!
# What the load operations do to the manager

Both load operations end in the same commit of one prepared module under a fresh name
(`adopt`). A batch is staged completely before its first commit, so that an error anywhere
in the staging leaves the manager as it was.
-/

namespace ModuleContext.Framework
open Foundation Misc

variable {M P H : Type} [IModule M P H]

/-- A module as it is when it has been created and named: no lifecycle method was called on it,
and it reports its name. -/
structure JustNamed (name : String) (module : M) : Prop where
  created : ∃ plugin : P, module = (IModule.setModuleName name (IModule.construct plugin)).2
  reports : IModule.moduleName module = name

/-- A handle that may be stored under `name`. -/
def Named (name : String) (handle : ModuleHandle M) : Prop :=
  ∃ inst, handle = some inst ∧ JustNamed name inst.module

theorem assignModuleName_ok {name : String} {inst : Instance M} {renamed : ModuleHandle M}
    (assigned : assignModuleName name (some inst) = (.ok (), renamed)) :
    ∃ module, renamed = some { inst with module } ∧
      module = (IModule.setModuleName name inst.module).2 ∧ IModule.moduleName module = name := by
  unfold assignModuleName at assigned
  dsimp only at assigned
  split at assigned
  · simp at assigned
  · split at assigned
    · simp at assigned
    · rename_i same
      simp only [makeSuccess, Prod.mk.injEq, true_and] at assigned
      exact ⟨_, assigned.symm, rfl, not_not.mp same⟩

theorem createModuleHandle_ok {outcome : PluginOutcome P} {libraryPath : String}
    {inst : Instance M} (made : createModuleHandle outcome libraryPath = .ok (some inst)) :
    ∃ plugin : P, inst.module = IModule.construct plugin := by
  unfold createModuleHandle at made
  repeat' split at made
  all_goals cases made
  exact ⟨_, rfl⟩

theorem prepareModule_ok {outcome : PluginOutcome P} {name libraryPath : String}
    {handle : ModuleHandle M} (prepared : prepareModule outcome name libraryPath = .ok handle) :
    Named name handle := by
  unfold prepareModule at prepared
  split at prepared
  · cases prepared
  · rename_i created made
    split at prepared
    · cases prepared
    · rename_i assigned
      cases prepared
      cases created with
      | none => simp [assignModuleName] at assigned
      | some inst =>
        obtain ⟨plugin, constructed⟩ := createModuleHandle_ok made
        obtain ⟨module, rfl, renamed, reports⟩ := assignModuleName_ok assigned
        exact ⟨_, rfl, ⟨plugin, constructed ▸ renamed⟩, reports⟩

/-- What a staged handle has been checked for against its entry. -/
def StagedFor (entry : ModuleConfigSpec) (staged : String × ModuleHandle M) : Prop :=
  staged.1 = entry.name ∧ ∃ inst, staged.2 = some inst ∧
    JustNamed entry.name inst.module ∧ IModule.moduleType inst.module = entry.type

theorem validateConfiguredModule_ok {spec : ModuleConfigSpec} {inst : Instance M}
    (validated : validateConfiguredModule spec (some inst) = .ok ()) :
    IModule.moduleType inst.module = spec.type := by
  unfold validateConfiguredModule at validated
  dsimp only at validated
  split at validated
  · cases validated
  · split at validated
    · cases validated
    · split at validated
      · cases validated
      · rename_i sameType
        exact not_not.mp sameType

theorem stageModules_ok {plugins : Nat → String → PluginOutcome P}
    {entries : List ModuleConfigSpec} {index : Nat} {staged : List (String × ModuleHandle M)}
    (done : stageModules plugins entries index = .ok staged) :
    List.Forall₂ StagedFor entries staged := by
  induction entries generalizing index staged with
  | nil =>
    simp only [stageModules, Except.ok.injEq] at done
    subst done
    exact .nil
  | cons entry entries ih =>
    unfold stageModules at done
    split at done
    case h_1 => cases done
    rename_i created prepared
    split at done
    case h_1 => cases done
    rename_i validated
    split at done
    case h_1 => cases done
    rename_i rest restStaged
    cases done
    obtain ⟨inst, rfl, justNamed⟩ := prepareModule_ok prepared
    exact .cons ⟨rfl, inst, rfl, justNamed, validateConfiguredModule_ok validated⟩
      (ih restStaged)

namespace ModuleManager

/-- The commit of one module: `StoreLoadedModule`, then the assignment of its config. -/
def adopt (name : String) (handle : ModuleHandle M) (config : ConfigValue)
    (mgr : ModuleManager M) : ModuleManager M :=
  let stored := mgr.storeLoadedModule name handle
  { stored with configsByName := stored.configsByName.insert name config }

section Adopt

variable {name other : String} {inst : Instance M} {config : ConfigValue}
  {mgr : ModuleManager M}

@[simp] theorem moduleOrder_adopt (handle : ModuleHandle M) :
    (mgr.adopt name handle config).moduleOrder = mgr.moduleOrder ++ [name] := rfl

@[simp] theorem configsByName_adopt (handle : ModuleHandle M) :
    (mgr.adopt name handle config).configsByName = mgr.configsByName.insert name config := rfl

@[simp] theorem modulesByName_adopt (handle : ModuleHandle M) :
    (mgr.adopt name handle config).modulesByName = mgr.modulesByName.emplace name handle := rfl

@[simp] theorem serviceRegistry_adopt (handle : ModuleHandle M) :
    (mgr.adopt name handle config).serviceRegistry =
      mgr.serviceRegistry.registerKnownServices name (handle.map (·.ref)) := rfl

theorem instanceOf_adopt_self (fresh : name ∉ mgr.modulesByName) :
    (mgr.adopt name (some inst) config).instanceOf name = some inst := by
  rw [instanceOf_eq_some, modulesByName_adopt, StringMap.emplace_of_absent fresh,
    AList.lookup_insert]

/-- Nothing is changed under any other name. -/
structure SameAt (other : String) (a b : ModuleManager M) : Prop where
  modules : b.modulesByName.lookup other = a.modulesByName.lookup other
  configs : b.configsByName.lookup other = a.configsByName.lookup other
  services : ∀ serviceKey, (b.serviceRegistry.providers serviceKey).lookup other =
    (a.serviceRegistry.providers serviceKey).lookup other

theorem SameAt.refl (other : String) (a : ModuleManager M) : SameAt other a a :=
  ⟨rfl, rfl, fun _ => rfl⟩

theorem SameAt.trans {a b c : ModuleManager M} (first : SameAt other a b)
    (second : SameAt other b c) : SameAt other a c :=
  ⟨second.modules.trans first.modules, second.configs.trans first.configs,
    fun key => (second.services key).trans (first.services key)⟩

theorem SameAt.instanceOf_eq {a b : ModuleManager M} (same : SameAt other a b) :
    b.instanceOf other = a.instanceOf other := by
  simp only [instanceOf, same.modules]

theorem sameAt_adopt (different : other ≠ name) (nonempty : name.isEmpty = false) :
    SameAt other mgr (mgr.adopt name (some inst) config) where
  modules := by rw [modulesByName_adopt, StringMap.lookup_emplace_ne different]
  configs := by rw [configsByName_adopt, AList.lookup_insert_ne different]
  services := by
    intro serviceKey
    rw [serviceRegistry_adopt]
    by_cases key : serviceKey = messageBusServiceKey
    · subst key
      rw [Option.map_some, ServiceRegistry.lookup_providers_registerKnownServices nonempty]
      simp [different]
    · rw [ServiceRegistry.providers_registerKnownServices_ne key]

/-- The service entry of the committed module itself. -/
theorem lookup_providers_adopt_self (nonempty : name.isEmpty = false) :
    ((mgr.adopt name (some inst) config).serviceRegistry.providers
        messageBusServiceKey).lookup name =
      if inst.ref.isMessageBusService = true then some (some inst.ref)
      else (mgr.serviceRegistry.providers messageBusServiceKey).lookup name := by
  rw [serviceRegistry_adopt, Option.map_some,
    ServiceRegistry.lookup_providers_registerKnownServices nonempty]
  simp

end Adopt

theorem commitModules_cons (staged : String × ModuleHandle M) (entry : ModuleConfigSpec)
    (same : staged.1 = entry.name) (stagedModules : List (String × ModuleHandle M))
    (entries : List ModuleConfigSpec) (mgr : ModuleManager M) :
    commitModules (staged :: stagedModules) (entry :: entries) mgr =
      commitModules stagedModules entries (mgr.adopt entry.name staged.2 entry.config) := by
  rw [commitModules, same]
  rfl

/-- What a batch leaves under the name of one of its entries. -/
structure Adopted (entry : ModuleConfigSpec) (mgr : ModuleManager M) : Prop where
  config : mgr.configsByName.lookup entry.name = some entry.config
  module : ∃ inst, mgr.instanceOf entry.name = some inst ∧
    IModule.moduleName inst.module = entry.name ∧ IModule.moduleType inst.module = entry.type

theorem Adopted.of_sameAt {entry : ModuleConfigSpec} {a b : ModuleManager M}
    (adopted : Adopted entry a) (same : SameAt entry.name a b) : Adopted entry b := by
  obtain ⟨config, inst, held, checked⟩ := adopted
  exact ⟨same.configs.trans config, inst, same.instanceOf_eq.trans held, checked⟩

/-- The commit loop over entries with distinct names that are not loaded yet. -/
theorem commitModules_spec {entries : List ModuleConfigSpec}
    {staged : List (String × ModuleHandle M)} {mgr : ModuleManager M}
    (checked : List.Forall₂ StagedFor entries staged)
    (distinct : (entries.map (·.name)).Nodup)
    (nonempty : ∀ entry ∈ entries, entry.name.isEmpty = false)
    (fresh : ∀ entry ∈ entries, entry.name ∉ mgr.modulesByName) :
    (mgr.commitModules staged entries).moduleOrder = mgr.moduleOrder ++ entries.map (·.name) ∧
    (∀ entry ∈ entries, Adopted entry (mgr.commitModules staged entries)) ∧
    ∀ other, other ∉ entries.map (·.name) →
      SameAt other mgr (mgr.commitModules staged entries) := by
  induction checked generalizing mgr with
  | nil => exact ⟨by simp [commitModules], by simp, fun other _ => .refl other mgr⟩
  | @cons entry staged entries stagedModules here checked ih =>
    obtain ⟨name, inst, held, justNamed, reportsType⟩ := here
    rw [List.map_cons, List.nodup_cons] at distinct
    have entryFresh := fresh entry List.mem_cons_self
    have entryNonempty := nonempty entry List.mem_cons_self
    rw [commitModules_cons _ _ name, held]
    have laterNonempty : ∀ later ∈ entries, later.name.isEmpty = false := by
      intro later member
      exact nonempty later (List.mem_cons_of_mem _ member)
    have laterFresh : ∀ later ∈ entries,
        later.name ∉ (mgr.adopt entry.name (some inst) entry.config).modulesByName := by
      intro later member present
      rw [modulesByName_adopt, StringMap.mem_emplace] at present
      rcases present with same | present
      · exact distinct.1 (same ▸ List.mem_map_of_mem member)
      · exact fresh later (List.mem_cons_of_mem _ member) present
    obtain ⟨order, adopted, frame⟩ := ih distinct.2 laterNonempty laterFresh
    refine ⟨?_, ?_, ?_⟩
    · rw [order, moduleOrder_adopt, List.map_cons, List.append_assoc, List.singleton_append]
    · intro later member
      rcases List.mem_cons.mp member with rfl | member
      · have placed : Adopted later (mgr.adopt later.name (some inst) later.config) :=
          ⟨by simp, inst, instanceOf_adopt_self entryFresh, justNamed.reports, reportsType⟩
        exact placed.of_sameAt (frame _ distinct.1)
      · exact adopted later member
    · intro other absent
      rw [List.map_cons, List.mem_cons, not_or] at absent
      exact (sameAt_adopt absent.1 entryNonempty).trans (frame other absent.2)

/-- Every way through `LoadModules`: an error with the manager untouched, or the commit of
a batch that has been read, found fresh, and staged. -/
theorem loadModules_cases (fs : FileSystem) (plugins : Nat → String → PluginOutcome P)
    (configFilePath : String) (mgr : ModuleManager M) :
    (∃ e, mgr.loadModules fs plugins configFilePath = (.error e, mgr)) ∨
    ∃ entries staged, readModuleConfig fs configFilePath = .ok entries ∧
      (∀ entry ∈ entries, entry.name ∉ mgr.modulesByName) ∧
      List.Forall₂ StagedFor entries staged ∧
      mgr.loadModules fs plugins configFilePath = (.ok (), mgr.commitModules staged entries) := by
  unfold loadModules
  split
  · exact Or.inl ⟨_, rfl⟩
  · cases parsed : readModuleConfig fs configFilePath with
    | error e => exact Or.inl ⟨_, rfl⟩
    | ok entries =>
      dsimp only
      split
      · exact Or.inl ⟨_, rfl⟩
      · rename_i unloaded
        cases staging : stageModules (M := M) plugins entries 0 with
        | error e => exact Or.inl ⟨_, rfl⟩
        | ok staged =>
          refine Or.inr ⟨entries, staged, rfl, ?_, stageModules_ok staging, rfl⟩
          intro entry member
          have := List.find?_eq_none.mp unloaded entry member
          simpa using this

/-- Every way through `LoadModule`. -/
theorem loadModule_cases (fs : FileSystem) (plugin : String → PluginOutcome P)
    (name libraryPath : String) (mgr : ModuleManager M) :
    (∃ e, mgr.loadModule fs plugin name libraryPath = (.error e, mgr)) ∨
    ∃ handle, name.isEmpty = false ∧ name ∉ mgr.modulesByName ∧ Named name handle ∧
      mgr.loadModule fs plugin name libraryPath = (.ok (), mgr.adopt name handle .makeObject) := by
  unfold loadModule
  split
  · exact Or.inl ⟨_, rfl⟩
  · rename_i given
    simp only [Bool.or_eq_true, not_or, Bool.not_eq_true] at given
    split
    · exact Or.inl ⟨_, rfl⟩
    · rename_i fresh
      dsimp only
      split
      · exact Or.inl ⟨_, rfl⟩
      · rename_i handle prepared
        exact Or.inr ⟨handle, given.1, fresh, prepareModule_ok prepared, rfl⟩

end ModuleManager

end ModuleContext.Framework
