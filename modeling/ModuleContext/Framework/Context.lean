import ModuleContext.Framework.ManagerGuarantees

/-!
# The context

`src/framework/Context.cpp` and the typed lookups of `IContext.h` and `IModuleManager.h`. A
context owns a manager, hands itself to the modules that it initialises, and looks services up
by interface. `dynamic_cast` is a partial function on module objects.
-/

namespace ModuleContext.Framework
open Foundation Misc

/-- `Context`, at its own address. Its manager is behind a `unique_ptr`. -/
structure Context (M : Type) where
  address : IContext
  moduleManager : Option (ModuleManager M)

/-- A service interface: its `ServiceTypeTraits<T>::Key()`, and what `dynamic_cast<T*>` makes of
a module. -/
structure ServiceType (T : Type) where
  key : String
  cast : ModuleRef → Option T

/-- A module seen through `IMessageBusService`. -/
abbrev MessageBusService := { ref : ModuleRef // ref.isMessageBusService = true }

def messageBusService : ServiceType MessageBusService where
  key := messageBusServiceKey
  cast ref := if implements : ref.isMessageBusService = true then some ⟨ref, implements⟩ else none

/-- The result of a raw lookup, cast to the type that was asked for. -/
def castResult {T : Type} (cast : ModuleRef → Option T) (message : String) :
    Result ModuleRef → Result T
  | .error e => .error e
  | .ok ref =>
      match cast ref with
      | none => .error ⟨.invalidState, message⟩
      | some typed => .ok typed

variable {M P H T : Type} [IModule M P H]

/-- `IModuleManager::Module<T>`. -/
def ModuleManager.module (cast : ModuleRef → Option T) (name : String) (mgr : ModuleManager M) :
    Result T :=
  castResult cast "Module type cast failed" (mgr.lookupModuleRaw name)

/-- A call on a context, or a load on its manager. -/
inductive ContextCall (P H : Type) where
  | loadModules (fs : FileSystem) (plugins : Nat → String → PluginOutcome P)
      (configFilePath : String)
  | loadModule (fs : FileSystem) (plugin : String → PluginOutcome P) (name libraryPath : String)
  | init (hooks : String → H)
  | start (hooks : String → H)
  | stop (hooks : String → H)
  | fini (hooks : String → H)

/-- What the manager of a context at `address` is called with. -/
def ContextCall.managerCall (address : IContext) : ContextCall P H → ManagerCall P H
  | .loadModules fs plugins configFilePath => .loadModules fs plugins configFilePath
  | .loadModule fs plugin name libraryPath => .loadModule fs plugin name libraryPath
  | .init hooks => .pass (.init address) hooks
  | .start hooks => .pass .start hooks
  | .stop hooks => .pass .stop hooks
  | .fini hooks => .pass .fini hooks

namespace Context

/-- `Context::Context()`. -/
def new (address : IContext) : Context M := ⟨address, some .new⟩

def unavailable (method : String) : Error :=
  ⟨.invalidState, "Context::" ++ method ++ " failed: module manager is unavailable"⟩

/-- The lifecycle methods; `absent` is what they return without a manager. -/
def runPass (absent : Result Unit) (operation : Operation) (hooks : String → H)
    (context : Context M) : Result Unit × Context M :=
  match context.moduleManager with
  | none => (absent, context)
  | some mgr =>
      let pass := mgr.runPass operation hooks
      (pass.result, { context with moduleManager := some pass.manager })

def init (hooks : String → H) (context : Context M) : Result Unit × Context M :=
  context.runPass (.error (unavailable "Init")) (.init context.address) hooks

def start (hooks : String → H) (context : Context M) : Result Unit × Context M :=
  context.runPass (.error (unavailable "Start")) .start hooks

def stop (hooks : String → H) (context : Context M) : Result Unit × Context M :=
  context.runPass (.error (unavailable "Stop")) .stop hooks

def fini (hooks : String → H) (context : Context M) : Result Unit × Context M :=
  context.runPass makeSuccess .fini hooks

def lookupServiceRaw (serviceKey name : String) (context : Context M) : Result ModuleRef :=
  match context.moduleManager with
  | none => .error (unavailable "GetService")
  | some mgr => mgr.lookupNamedService serviceKey name

def lookupUniqueServiceRaw (serviceKey : String) (context : Context M) : Result ModuleRef :=
  match context.moduleManager with
  | none => .error (unavailable "GetService")
  | some mgr => mgr.lookupUniqueService serviceKey

/-- `IContext::GetService<T>(name)`. -/
def getService (type : ServiceType T) (name : String) (context : Context M) : Result T :=
  castResult type.cast "Service type cast failed" (context.lookupServiceRaw type.key name)

/-- `IContext::GetService<T>()`. -/
def getUniqueService (type : ServiceType T) (context : Context M) : Result T :=
  castResult type.cast "Service type cast failed" (context.lookupUniqueServiceRaw type.key)

/-- The load operations, which are called on `ModuleManager()`. -/
def load (call : ManagerCall P H) (context : Context M) : Option (Context M) :=
  match context.moduleManager with
  | none => none
  | some mgr =>
      (mgr.step call).map fun loaded => { context with moduleManager := some loaded }

def step (context : Context M) : ContextCall P H → Option (Context M)
  | .loadModules fs plugins configFilePath =>
      context.load (.loadModules (H := H) fs plugins configFilePath)
  | .loadModule fs plugin name libraryPath =>
      context.load (.loadModule (H := H) fs plugin name libraryPath)
  | .init hooks => some (context.init hooks).2
  | .start hooks => some (context.start hooks).2
  | .stop hooks => some (context.stop hooks).2
  | .fini hooks => some (context.fini hooks).2

/-- The runs of a context from its construction on. -/
abbrev ContextRun (address : IContext) (past : List (Context M × ContextCall P H))
    (context : Context M) : Prop := Run step (new address) past context

/-! ## What a context makes of its manager -/

/-- The manager, with the calls that have reached it. -/
def managerPast (past : List (Context M × ContextCall P H)) :
    List (ModuleManager M × ManagerCall P H) :=
  past.map fun (context, call) =>
    (context.moduleManager.getD .new, call.managerCall context.address)

/-- A call on a context that has its manager is a call on this manager. -/
theorem step_managed {mgr : ModuleManager M} {context context' : Context M}
    {call : ContextCall P H} (managed : context.moduleManager = some mgr)
    (taken : context.step call = some context') :
    ∃ mgr', mgr.step (call.managerCall context.address) = some mgr' ∧
      context' = { context with moduleManager := some mgr' } := by
  cases call with
  | loadModules fs plugins configFilePath =>
    simp only [step, load, managed, Option.map_eq_some_iff] at taken
    obtain ⟨mgr', loaded, rfl⟩ := taken
    exact ⟨mgr', loaded, rfl⟩
  | loadModule fs plugin name libraryPath =>
    simp only [step, load, managed, Option.map_eq_some_iff] at taken
    obtain ⟨mgr', loaded, rfl⟩ := taken
    exact ⟨mgr', loaded, rfl⟩
  | init hooks =>
    simp only [step, init, runPass, managed, Option.some.injEq] at taken
    exact ⟨_, rfl, taken.symm⟩
  | start hooks =>
    simp only [step, start, runPass, managed, Option.some.injEq] at taken
    exact ⟨_, rfl, taken.symm⟩
  | stop hooks =>
    simp only [step, stop, runPass, managed, Option.some.injEq] at taken
    exact ⟨_, rfl, taken.symm⟩
  | fini hooks =>
    simp only [step, fini, runPass, managed, Option.some.injEq] at taken
    exact ⟨_, rfl, taken.symm⟩

/-- A context keeps its address and its manager, which goes through a run of its own. -/
theorem run_managed {address : IContext} {past : List (Context M × ContextCall P H)}
    {context : Context M} (run : ContextRun address past context) :
    context.address = address ∧ ∃ mgr, context.moduleManager = some mgr ∧
      Run ModuleManager.step .new (managerPast past) mgr := by
  refine run.invariant_past (fun past context => context.address = address ∧
    ∃ mgr, context.moduleManager = some mgr ∧
      Run ModuleManager.step .new (managerPast past) mgr) ?_ ?_
  · exact ⟨rfl, .new, rfl, .nil⟩
  · rintro past context call context' - ⟨rfl, mgr, managed, reached⟩ taken
    obtain ⟨mgr', called, rfl⟩ := step_managed managed taken
    refine ⟨rfl, mgr', rfl, ?_⟩
    have entry : managerPast ((context, call) :: past) =
        (mgr, call.managerCall context.address) :: managerPast past := by
      rw [managerPast, List.map_cons]
      dsimp only
      rw [managed]
      rfl
    rw [entry]
    exact reached.snoc called

/-! ## Typed lookups -/

theorem castResult_eq_ok {cast : ModuleRef → Option T} {message : String}
    {found : Result ModuleRef} {typed : T} :
    castResult cast message found = .ok typed ↔ ∃ ref, found = .ok ref ∧ cast ref = some typed := by
  cases found with
  | error e => simp [castResult]
  | ok ref => cases made : cast ref <;> simp [castResult, made]

theorem cast_messageBusService {ref : ModuleRef} {service : MessageBusService} :
    messageBusService.cast ref = some service ↔ service.val = ref := by
  unfold messageBusService
  dsimp only
  split
  · rename_i implements
    rw [Option.some.injEq]
    constructor
    · rintro rfl
      rfl
    · intro same
      exact Subtype.ext same.symm
  · rename_i lacks
    constructor
    · exact nofun
    · rintro rfl
      exact absurd service.property lacks

theorem castResult_messageBusService {message : String} {found : Result ModuleRef}
    {service : MessageBusService} :
    castResult messageBusService.cast message found = .ok service ↔ found = .ok service.val := by
  rw [castResult_eq_ok]
  constructor
  · rintro ⟨ref, rfl, same⟩
    rw [cast_messageBusService.mp same]
  · intro same
    exact ⟨service.val, same, cast_messageBusService.mpr rfl⟩

/-- An error of a typed lookup is the error of the raw one, if no cast can fail. -/
theorem castResult_error {cast : ModuleRef → Option T} {message : String}
    {found : Result ModuleRef} {e : Error} (casts : ∀ ref, found = .ok ref → (cast ref).isSome)
    (failed : castResult cast message found = .error e) : found = .error e := by
  cases found with
  | error e' =>
    cases failed
    rfl
  | ok ref =>
    obtain ⟨typed, made⟩ := Option.isSome_iff_exists.mp (casts ref rfl)
    simp only [castResult, made, reduceCtorEq] at failed

/-- Typed lookups in a context with manager `mgr`. -/
structure LookupsAgree (context : Context M) (mgr : ModuleManager M) : Prop where
  /-- By name, a context finds what its manager finds under the same type. -/
  named : ∀ name service, context.getService messageBusService name = .ok service ↔
    mgr.module messageBusService.cast name = .ok service
  /-- Without a name, it finds the module that alone implements the service. -/
  unique : ∀ service, context.getUniqueService messageBusService = .ok service ↔
    ∃ name, mgr.messageBusModules = [name] ∧
      context.getService messageBusService name = .ok service
  /-- A lookup that fails fails in the registry: no cast ever does. -/
  namedError : ∀ name e, context.getService messageBusService name = .error e →
    mgr.lookupNamedService messageBusServiceKey name = .error e
  uniqueError : ∀ e, context.getUniqueService messageBusService = .error e →
    mgr.lookupUniqueService messageBusServiceKey = .error e
  /-- Under a type that no module is registered for there is nothing to find or to cast. -/
  otherTypes : ∀ (T : Type) (type : ServiceType T) (name : String),
    type.key ≠ messageBusServiceKey →
      (∃ e, context.getService type name = .error e ∧ e.code ≠ .invalidState) ∧
      ∃ e, context.getUniqueService type = .error e ∧ e.code ≠ .invalidState

section Raw

variable {mgr : ModuleManager M} {ref : ModuleRef} {name : String}

theorem implements_of_named (consistent : mgr.Consistent)
    (found : mgr.lookupNamedService messageBusServiceKey name = .ok ref) :
    ref.isMessageBusService = true := by
  have registered := ServiceRegistry.lookup_ok found
  obtain ⟨inst, -, implements, same⟩ := (consistent.services name (some ref)).mp registered
  rw [Option.some.inj same]
  exact implements

/-- What the unique lookup finds is the only implementation that is loaded. -/
theorem lookupUniqueService_eq_ok (consistent : mgr.Consistent) :
    mgr.lookupUniqueService messageBusServiceKey = .ok ref ↔
      ∃ name, mgr.messageBusModules = [name] ∧
        mgr.lookupNamedService messageBusServiceKey name = .ok ref := by
  have owned {name : String} {owner : ModuleRef} (single : mgr.messageBusModules = [name]) :
      mgr.lookupNamedService messageBusServiceKey name = .ok owner ↔
        mgr.lookupModuleRaw name = .ok owner := by
    have listed : name ∈ mgr.messageBusModules := single ▸ List.mem_singleton_self name
    rw [consistent.lookupNamedService, and_iff_left_iff_imp]
    intro found
    obtain ⟨inst, held, rfl⟩ := ModuleManager.lookupModuleRaw_eq_ok.mp found
    simpa [held] using (List.mem_filter.mp listed).2
  rcases consistent.lookupUniqueService with ⟨none, message, outcome⟩ |
    ⟨name, owner, single, found, outcome⟩ | ⟨many, message, outcome⟩
  · simp [outcome, none]
  · rw [outcome, Except.ok.injEq]
    constructor
    · rintro rfl
      exact ⟨name, single, (owned single).mpr found⟩
    · rintro ⟨other, isSingle, named⟩
      have same : name = other := List.singleton_inj.mp (single.symm.trans isSingle)
      subst same
      exact Except.ok.inj (found.symm.trans ((owned single).mp named))
  · rw [outcome]
    constructor
    · exact nofun
    · rintro ⟨name, single, -⟩
      rw [single, List.length_singleton] at many
      omega

/-- The registry has nothing for a type without modules. -/
theorem other_lookup (consistent : mgr.Consistent) {serviceKey : String}
    (other : serviceKey ≠ messageBusServiceKey) (name : String) :
    (∃ e, mgr.lookupNamedService serviceKey name = .error e ∧ e.code ≠ .invalidState) ∧
      ∃ e, mgr.lookupUniqueService serviceKey = .error e ∧ e.code ≠ .invalidState := by
  have none := consistent.otherServices serviceKey other
  rw [ServiceRegistry.providers] at none
  constructor
  · unfold ModuleManager.lookupNamedService ServiceRegistry.lookup
    dsimp only
    split
    · exact ⟨_, rfl, fun same => by cases same⟩
    · split
      · exact ⟨_, rfl, fun same => by cases same⟩
      · rename_i byName found
        rw [found, Option.getD_some] at none
        subst none
        exact ⟨_, rfl, fun same => by cases same⟩
  · unfold ModuleManager.lookupUniqueService ServiceRegistry.lookupUnique
    dsimp only
    split
    · exact ⟨_, rfl, fun same => by cases same⟩
    · split
      · exact ⟨_, rfl, fun same => by cases same⟩
      · rename_i byName found
        rw [found, Option.getD_some] at none
        subst none
        exact ⟨_, rfl, fun same => by cases same⟩

end Raw

/-- In every state of a context its typed lookups agree with those of its manager, and the
branch of a failed cast is dead. -/
theorem typed_lookups_agree {address : IContext} {past : List (Context M × ContextCall P H)}
    {context : Context M} (run : ContextRun address past context) :
    ∃ mgr, context.moduleManager = some mgr ∧ LookupsAgree context mgr := by
  obtain ⟨-, mgr, managed, reached⟩ := run_managed run
  have consistent := (ModuleManager.Reachable.consistent (M := M) (P := P) (H := H) ⟨_, reached⟩)
  have raw (serviceKey name : String) :
      context.lookupServiceRaw serviceKey name = mgr.lookupNamedService serviceKey name := by
    rw [lookupServiceRaw, managed]
  have rawUnique (serviceKey : String) :
      context.lookupUniqueServiceRaw serviceKey = mgr.lookupUniqueService serviceKey := by
    rw [lookupUniqueServiceRaw, managed]
  have casts {ref : ModuleRef} (implements : ref.isMessageBusService = true) :
      (messageBusService.cast ref).isSome = true :=
    Option.isSome_iff_exists.mpr ⟨⟨ref, implements⟩, cast_messageBusService.mpr rfl⟩
  have byName (name : String) (service : MessageBusService) :
      context.getService messageBusService name = .ok service ↔
        mgr.lookupNamedService messageBusServiceKey name = .ok service.val := by
    rw [getService, raw]
    exact castResult_messageBusService
  refine ⟨mgr, managed, ⟨?_, ?_, ?_, ?_, ?_⟩⟩
  · intro name service
    rw [byName, consistent.lookupNamedService, ModuleManager.module,
      castResult_messageBusService, and_iff_left service.property]
  · intro service
    rw [getUniqueService, rawUnique]
    refine castResult_messageBusService.trans ((lookupUniqueService_eq_ok consistent).trans ?_)
    simp only [byName]
  · intro name e failed
    rw [getService, raw] at failed
    exact castResult_error (fun ref found => casts (implements_of_named consistent found)) failed
  · intro e failed
    rw [getUniqueService, rawUnique] at failed
    refine castResult_error ?_ failed
    intro ref found
    obtain ⟨name, -, named⟩ := (lookupUniqueService_eq_ok consistent).mp found
    exact casts (implements_of_named consistent named)
  · intro T type name other
    obtain ⟨⟨e, named, code⟩, ⟨e', unique, code'⟩⟩ := other_lookup consistent other name
    refine ⟨⟨e, ?_, code⟩, ⟨e', ?_, code'⟩⟩
    · rw [getService, raw, named]
      rfl
    · rw [getUniqueService, rawUnique, unique]
      rfl

/-- A context with two message buses has no unique one. -/
theorem typed_lookups_agree_twoBuses :
    ∃ mgr, (⟨7, some ModuleManager.twoBuses⟩ : Context ModuleBase).moduleManager = some mgr ∧
      LookupsAgree ⟨7, some ModuleManager.twoBuses⟩ mgr ∧ mgr.messageBusModules.length = 2 := by
  have run : ContextRun (P := String) (H := Hooks) 7 _ ⟨7, some ModuleManager.twoBuses⟩ :=
    (Run.nil.snoc (l := .loadModule ModuleManager.noFiles (fun _ => ModuleManager.busPlugin 1)
      "first" "/lib/bus.so") rfl).snoc
      (l := .loadModule ModuleManager.noFiles (fun _ => ModuleManager.busPlugin 2)
        "second" "/lib/bus.so") rfl
  obtain ⟨mgr, managed, agree⟩ := typed_lookups_agree run
  cases managed
  exact ⟨_, rfl, agree, by decide⟩

end Context

end ModuleContext.Framework
