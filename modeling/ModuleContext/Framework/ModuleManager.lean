import ModuleContext.Framework.ModuleBase
import ModuleContext.Framework.ModuleConfig
import ModuleContext.Framework.ServiceRegistry
import ModuleContext.Misc.LabelledRun

/-!
# The module manager

`src/framework/ModuleManager.cpp`, over any implementation of the `IModule` interface.
`PluginLoader` belongs to the `foundation` library: what opening a library and creating an
instance yield is an input of the load operations. A lifecycle pass takes, for each module,
the choices its implementation makes in that pass (for `ModuleBase`, what its hooks return)
and reports the modules it called, each with the manager at the time of the call.
-/

namespace ModuleContext.Framework
open Foundation Misc

/-- The virtual interface `IModule`. `P` describes the plugin classes and `H` the choices
an implementation makes during one lifecycle call. -/
class IModule (M : Type) (P H : outParam Type) where
  construct : P → M
  moduleName : M → String
  moduleType : M → String
  setModuleName : String → M → Result Unit × M
  init : IContext → H → M → Result Unit × M
  start : H → M → Result Unit × M
  stop : H → M → Result Unit × M
  fini : H → M → Result Unit × M

/-- A module derived from `ModuleBase`: its class is known by its `ModuleType()`. -/
instance : IModule ModuleBase String Hooks where
  construct := ModuleBase.construct
  moduleName := ModuleBase.moduleName
  moduleType := ModuleBase.moduleType
  setModuleName := ModuleBase.setModuleName
  init ctx hooks m := ((m.init ctx hooks).result, (m.init ctx hooks).module)
  start hooks m := ((m.start hooks).result, (m.start hooks).module)
  stop hooks m := ((m.stop hooks).result, (m.stop hooks).module)
  fini hooks m := ((m.fini hooks).result, (m.fini hooks).module)

/-- A module object behind a non-null pointer. -/
structure Instance (M : Type) where
  ref : ModuleRef
  module : M

/-- `ModuleLoader::PluginHandle`; an invalid handle is `none`. -/
abbrev ModuleHandle (M : Type) := Option (Instance M)

/-- What `PluginLoader` makes of a library path: the result of `Open`, and the result of
`Create` with the address, the dynamic type and the class of the object created. -/
structure PluginOutcome (P : Type) where
  openResult : Result Unit
  createResult : Result (Option (ModuleRef × P))

/-- The fields of `ModuleManager`. -/
structure ModuleManager (M : Type) where
  modulesByName : StringMap (ModuleHandle M)
  configsByName : StringMap ConfigValue
  moduleOrder : List String
  serviceRegistry : ServiceRegistry

/-- The four passes over the loaded modules. -/
inductive Operation where
  | init (ctx : IContext)
  | start
  | stop
  | fini

/-- A module called by a pass: the manager, the module and its choices at that time. -/
structure Visit (M H : Type) where
  manager : ModuleManager M
  name : String
  instance' : Instance M
  hooks : H

/-- What a pass returns, the manager it leaves and the modules it called, in call order. -/
structure PassResult (M H : Type) where
  result : Result Unit
  manager : ModuleManager M
  visits : List (Visit M H)

def prefixModuleError (operation moduleName : String) (e : Error) : Error :=
  ⟨e.code, buildMessage ("ModuleManager::" ++ operation ++ " failed for module '" ++
    moduleName ++ "'") e.message⟩

variable {M P H : Type} [IModule M P H]

/-- The virtual call that a pass makes on each module. -/
def Operation.call (operation : Operation) (hooks : H) (module : M) : Result Unit × M :=
  match operation with
  | .init ctx => IModule.init ctx hooks module
  | .start => IModule.start hooks module
  | .stop => IModule.stop hooks module
  | .fini => IModule.fini hooks module

def Operation.name : Operation → String
  | .init _ => "Init"
  | .start => "Start"
  | .stop => "Stop"
  | .fini => "Fini"

/-- `AssignModuleName`: the result, and the handle with the module renamed. -/
def assignModuleName (configName : String) (handle : ModuleHandle M) :
    Result Unit × ModuleHandle M :=
  match handle with
  | none => (.error ⟨.createFailed, "created module instance is null"⟩, none)
  | some inst =>
      let (setResult, module) := IModule.setModuleName configName inst.module
      let renamed : ModuleHandle M := some { inst with module }
      match setResult with
      | .error e => (.error ⟨.createFailed, buildMessage
          ("failed to assign module instance name '" ++ configName ++ "'") e.message⟩, renamed)
      | .ok () =>
          if IModule.moduleName module ≠ configName then
            (.error ⟨.invalidState, "module name mismatch after creation, config.name=" ++
              configName ++ ", runtime.name=" ++ IModule.moduleName module⟩, renamed)
          else (makeSuccess, renamed)

def validateConfiguredModule (spec : ModuleConfigSpec) (handle : ModuleHandle M) :
    Result Unit :=
  match handle with
  | none => .error ⟨.createFailed, "created module instance is null"⟩
  | some inst =>
      let runtimeName := IModule.moduleName inst.module
      let runtimeType := IModule.moduleType inst.module
      if runtimeName ≠ spec.name then
        .error ⟨.invalidState, "module name mismatch after creation, config.name=" ++
          spec.name ++ ", runtime.name=" ++ runtimeName⟩
      else if runtimeType.isEmpty then
        .error ⟨.invalidState, "module type is empty after creation, config.name=" ++
          spec.name ++ ", config.type=" ++ spec.type ++ ", runtime.name=" ++ runtimeName⟩
      else if runtimeType ≠ spec.type then
        .error ⟨.invalidState, "module type mismatch after creation, config.name=" ++
          spec.name ++ ", config.type=" ++ spec.type ++ ", runtime.name=" ++ runtimeName ++
          ", runtime.type=" ++ runtimeType⟩
      else makeSuccess

/-- `ModuleManager::CreateModuleHandle`. -/
def createModuleHandle (outcome : PluginOutcome P) (normalizedLibraryPath : String) :
    Result (ModuleHandle M) :=
  match outcome.openResult with
  | .error e => .error ⟨e.code, buildMessage
      ("ModuleManager failed to open plugin '" ++ normalizedLibraryPath ++ "'") e.message⟩
  | .ok () =>
      match outcome.createResult with
      | .error e => .error ⟨e.code, buildMessage
          ("ModuleManager failed to create plugin instance from '" ++ normalizedLibraryPath ++
            "'") e.message⟩
      | .ok none => .ok none
      | .ok (some (ref, plugin)) => .ok (some ⟨ref, IModule.construct plugin⟩)

/-- Creation and naming of one plugin instance, common to the two load operations. -/
def prepareModule (outcome : PluginOutcome P) (name libraryPath : String) :
    Result (ModuleHandle M) :=
  match createModuleHandle (M := M) outcome libraryPath with
  | .error e => .error e
  | .ok created =>
      match assignModuleName name created with
      | (.error e, _) => .error ⟨e.code, buildMessage
          ("ModuleManager failed to prepare plugin instance from '" ++ libraryPath ++ "'")
          e.message⟩
      | (.ok (), renamed) => .ok renamed

/-- The first loop of `LoadModules`: creates, names and validates the entries from `index`
on, without touching the manager. -/
def stageModules (plugins : Nat → String → PluginOutcome P) :
    List ModuleConfigSpec → Nat → Result (List (String × ModuleHandle M))
  | [], _ => .ok []
  | entry :: entries, index =>
      match prepareModule (M := M) (plugins index entry.libraryPath) entry.name
          entry.libraryPath with
      | .error e => .error e
      | .ok created =>
          match validateConfiguredModule entry created with
          | .error e => .error ⟨e.code, buildMessage
              ("ModuleManager failed to validate plugin instance from '" ++
                entry.libraryPath ++ "'") e.message⟩
          | .ok () =>
              match stageModules plugins entries (index + 1) with
              | .error e => .error e
              | .ok staged => .ok ((entry.name, created) :: staged)

namespace ModuleManager

/-- `ModuleManager::ModuleManager()`. -/
def new : ModuleManager M := ⟨∅, ∅, [], .empty⟩

def registerKnownServices (name : String) (module : Option ModuleRef) (mgr : ModuleManager M) :
    ModuleManager M :=
  { mgr with serviceRegistry := mgr.serviceRegistry.registerKnownServices name module }

def storeLoadedModule (name : String) (module : ModuleHandle M) (mgr : ModuleManager M) :
    ModuleManager M :=
  let stored :=
    { mgr with
      modulesByName := mgr.modulesByName.emplace name module
      moduleOrder := mgr.moduleOrder ++ [name] }
  stored.registerKnownServices name (module.map (·.ref))

/-- The second loop of `LoadModules`: the staged list and the parsed list side by side. -/
def commitModules :
    List (String × ModuleHandle M) → List ModuleConfigSpec → ModuleManager M → ModuleManager M
  | staged :: stagedModules, entry :: entries, mgr =>
      let stored := mgr.storeLoadedModule staged.1 staged.2
      commitModules stagedModules entries
        { stored with configsByName := stored.configsByName.insert entry.name entry.config }
  | _, _, mgr => mgr

def loadModules (fs : FileSystem) (plugins : Nat → String → PluginOutcome P)
    (configFilePath : String) (mgr : ModuleManager M) : Result Unit × ModuleManager M :=
  if configFilePath.isEmpty then
    (.error ⟨.invalidArgument,
      "ModuleManager::LoadModules failed: config file path is empty"⟩, mgr)
  else
    match readModuleConfig fs configFilePath with
    | .error e => (.error e, mgr)
    | .ok entries =>
        match entries.find? (fun entry => entry.name ∈ mgr.modulesByName) with
        | some entry => (.error ⟨.alreadyExists, "ModuleManager::LoadModules failed: module '" ++
            entry.name ++ "' is already loaded"⟩, mgr)
        | none =>
            match stageModules plugins entries 0 with
            | .error e => (.error e, mgr)
            | .ok staged => (makeSuccess, mgr.commitModules staged entries)

def loadModule (fs : FileSystem) (plugin : String → PluginOutcome P)
    (name libraryPath : String) (mgr : ModuleManager M) : Result Unit × ModuleManager M :=
  if name.isEmpty || libraryPath.isEmpty then
    (.error ⟨.invalidArgument,
      "ModuleManager::LoadModule failed: name or library path is empty"⟩, mgr)
  else if name ∈ mgr.modulesByName then
    (.error ⟨.alreadyExists, "ModuleManager::LoadModule failed: module '" ++ name ++
      "' is already loaded"⟩, mgr)
  else
    let normalizedLibraryPath := fs.getAbsolutePath libraryPath
    match prepareModule (M := M) (plugin normalizedLibraryPath) name normalizedLibraryPath with
    | .error e => (.error e, mgr)
    | .ok created =>
        let stored := mgr.storeLoadedModule name created
        (makeSuccess,
          { stored with configsByName := stored.configsByName.insert name .makeObject })

/-- The module object under a name, after a call has changed it. -/
def setModule (name : String) (inst : Instance M) (module : M) (mgr : ModuleManager M) :
    ModuleManager M :=
  { mgr with modulesByName := mgr.modulesByName.insert name (some { inst with module }) }

/-- The loop of `Init` and `Start`: it skips names without a valid handle and returns at
the first failure. -/
def forwardPass (operation : Operation) (hooks : String → H) :
    List String → ModuleManager M → PassResult M H
  | [], mgr => ⟨makeSuccess, mgr, []⟩
  | name :: rest, mgr =>
      match mgr.modulesByName.lookup name with
      | some (some inst) =>
          let (callResult, module) := operation.call (hooks name) inst.module
          let visit := ⟨mgr, name, inst, hooks name⟩
          let after := mgr.setModule name inst module
          match callResult with
          | .error e => ⟨.error (prefixModuleError operation.name name e), after, [visit]⟩
          | .ok () =>
              let remaining := forwardPass operation hooks rest after
              { remaining with visits := visit :: remaining.visits }
      | _ => forwardPass operation hooks rest mgr

/-- The loop of `Stop` and `Fini`, over the reversed order: it goes on after a failure and
keeps the first error. -/
def reversePass (operation : Operation) (hooks : String → H) :
    List String → Result Unit → ModuleManager M → PassResult M H
  | [], firstError, mgr => ⟨firstError, mgr, []⟩
  | name :: rest, firstError, mgr =>
      match mgr.modulesByName.lookup name with
      | some (some inst) =>
          let (callResult, module) := operation.call (hooks name) inst.module
          let visit := ⟨mgr, name, inst, hooks name⟩
          let firstError :=
            if isOk firstError then
              callResult.mapError (prefixModuleError operation.name name)
            else firstError
          let remaining :=
            reversePass operation hooks rest firstError (mgr.setModule name inst module)
          { remaining with visits := visit :: remaining.visits }
      | _ => reversePass operation hooks rest firstError mgr

def init (ctx : IContext) (hooks : String → H) (mgr : ModuleManager M) : PassResult M H :=
  forwardPass (.init ctx) hooks mgr.moduleOrder mgr

def start (hooks : String → H) (mgr : ModuleManager M) : PassResult M H :=
  forwardPass .start hooks mgr.moduleOrder mgr

def stop (hooks : String → H) (mgr : ModuleManager M) : PassResult M H :=
  reversePass .stop hooks mgr.moduleOrder.reverse makeSuccess mgr

/-- `ModuleManager::Fini`. The containers are emptied after the last module was called. -/
def fini (hooks : String → H) (mgr : ModuleManager M) : PassResult M H :=
  let pass := reversePass .fini hooks mgr.moduleOrder.reverse makeSuccess mgr
  { pass with
    manager :=
      { modulesByName := ∅
        configsByName := ∅
        moduleOrder := []
        serviceRegistry := pass.manager.serviceRegistry.clear } }

def lookupModuleRaw (name : String) (mgr : ModuleManager M) : Result ModuleRef :=
  match mgr.modulesByName.lookup name with
  | none => .error ⟨.notFound, "ModuleManager::LookupModuleRaw failed: module '" ++ name ++
      "' was not found"⟩
  | some none => .error ⟨.invalidState, "ModuleManager::LookupModuleRaw failed: module '" ++
      name ++ "' is not available"⟩
  | some (some inst) => .ok inst.ref

def moduleConfig (name : String) (mgr : ModuleManager M) : Result ConfigValue :=
  match mgr.configsByName.lookup name with
  | none => .error ⟨.notFound, "ModuleManager::ModuleConfig failed: module '" ++ name ++
      "' was not found"⟩
  | some config => .ok config

def lookupNamedService (serviceKey name : String) (mgr : ModuleManager M) : Result ModuleRef :=
  mgr.serviceRegistry.lookup serviceKey name

def lookupUniqueService (serviceKey : String) (mgr : ModuleManager M) : Result ModuleRef :=
  mgr.serviceRegistry.lookupUnique serviceKey

end ModuleManager

/-- A public call on the manager, with everything its environment answers. -/
inductive ManagerCall (P H : Type) where
  | loadModules (fs : FileSystem) (plugins : Nat → String → PluginOutcome P)
      (configFilePath : String)
  | loadModule (fs : FileSystem) (plugin : String → PluginOutcome P) (name libraryPath : String)
  | pass (operation : Operation) (hooks : String → H)

namespace ModuleManager

/-- The pass that an operation makes. -/
def runPass (operation : Operation) (hooks : String → H) (mgr : ModuleManager M) :
    PassResult M H :=
  match operation with
  | .init ctx => mgr.init ctx hooks
  | .start => mgr.start hooks
  | .stop => mgr.stop hooks
  | .fini => mgr.fini hooks

def step (mgr : ModuleManager M) : ManagerCall P H → Option (ModuleManager M)
  | .loadModules fs plugins configFilePath => some (mgr.loadModules fs plugins configFilePath).2
  | .loadModule fs plugin name libraryPath => some (mgr.loadModule fs plugin name libraryPath).2
  | .pass operation hooks => some (mgr.runPass operation hooks).manager

/-- The managers that some sequence of calls leads to. -/
def Reachable (mgr : ModuleManager M) : Prop :=
  ∃ past, Run (step (M := M) (P := P) (H := H)) new past mgr

end ModuleManager

end ModuleContext.Framework
