import ModuleContext.Framework.ActivePrefix
import ModuleContext.Framework.Context

/-!
# What a hook finds

`Context()` and `ModuleConfig(ModuleName())` are what a hook starts from. In a context the
first is always that context, whose manager is running the hook, and the second is the `config`
object of the entry that the module was loaded by.
-/

namespace ModuleContext.Framework
open Foundation Misc

variable {M P H : Type} [IModule M P H]

namespace ModuleManager

/-! ## Configurations -/

/-- The configuration in the entry of `name`, in a file that was loaded. -/
def entryConfig (name : String) (entries : List ModuleConfigSpec) : Option ConfigValue :=
  (entries.find? (·.name == name)).map (·.config)

/-- The configuration that `name` was last loaded with, since the last `Fini`. `LoadModule`
gives an empty object. -/
def loadedConfig (name : String) : List (ModuleManager M × ManagerCall P H) → Option ConfigValue
  | [] => none
  | (mgr, .loadModules fs plugins configFilePath) :: past =>
      match (mgr.loadModules fs plugins configFilePath).1, readModuleConfig fs configFilePath with
      | .ok (), .ok entries => (entryConfig name entries).or (loadedConfig name past)
      | _, _ => loadedConfig name past
  | (mgr, .loadModule fs plugin loaded libraryPath) :: past =>
      match (mgr.loadModule fs plugin loaded libraryPath).1 with
      | .ok () => if loaded = name then some .makeObject else loadedConfig name past
      | .error _ => loadedConfig name past
  | (_, .pass operation _) :: past =>
      match operation with
      | .fini => none
      | .init _ | .start | .stop => loadedConfig name past

theorem entryConfig_of_mem {entries : List ModuleConfigSpec} {entry : ModuleConfigSpec}
    (distinct : (entries.map (·.name)).Nodup) (member : entry ∈ entries) :
    entryConfig entry.name entries = some entry.config := by
  induction entries with
  | nil => cases member
  | cons first entries ih =>
    rw [List.map_cons, List.nodup_cons] at distinct
    rw [entryConfig, List.find?_cons]
    rcases List.mem_cons.mp member with rfl | member
    · simp
    · have different : first.name ≠ entry.name := by
        intro same
        exact distinct.1 (same ▸ List.mem_map_of_mem member)
      simp only [beq_eq_false_iff_ne.mpr different]
      exact ih distinct.2 member

theorem entryConfig_of_absent {entries : List ModuleConfigSpec} {name : String}
    (absent : name ∉ entries.map (·.name)) : entryConfig name entries = none := by
  rw [entryConfig, Option.map_eq_none_iff, List.find?_eq_none]
  intro entry member same
  exact absent (List.mem_map.mpr ⟨entry, member, by simpa using same⟩)

/-- A pass other than `Fini` only changes the module objects. -/
theorem Consistent.sameModules_runPass {mgr : ModuleManager M} (consistent : Consistent mgr)
    {operation : Operation} (notFini : operation ≠ .fini) (hooks : String → H) :
    SameModules mgr (mgr.runPass operation hooks).manager := by
  cases operation with
  | init ctx => exact (forwardPass_spec hooks consistent.valid).1.sameModules
  | start => exact (forwardPass_spec hooks consistent.valid).1.sameModules
  | stop =>
    exact (reversePass_spec hooks makeSuccess
      fun name member => consistent.valid name (List.mem_reverse.mp member)).1.sameModules
  | fini => exact absurd rfl notFini

/-- The manager keeps for every module the configuration that it was loaded with. -/
theorem run_loadedConfig {past : List (ModuleManager M × ManagerCall P H)} {mgr : ModuleManager M}
    (run : Run step new past mgr) :
    Consistent mgr ∧ ∀ name, mgr.configsByName.lookup name = loadedConfig name past := by
  refine run.invariant_past (fun past mgr => Consistent mgr ∧
    ∀ name, mgr.configsByName.lookup name = loadedConfig name past) ?_ ?_
  · exact ⟨consistent_of_empty .empty fun _ => rfl, fun name => AList.lookup_empty name⟩
  · rintro past mgr call mgr' - ⟨consistent, kept⟩ taken
    refine ⟨consistent.step taken, ?_⟩
    intro name
    cases call with
    | loadModules fs plugins configFilePath =>
      cases taken
      rcases loadModules_cases fs plugins configFilePath mgr with ⟨e, failed⟩ |
        ⟨entries, staged, parsed, fresh, checked, loaded⟩
      · rw [loadedConfig, failed]
        exact kept name
      · obtain ⟨values, -, matched, distinct⟩ := readModuleConfig_ok parsed
        obtain ⟨-, adopted, frame⟩ :=
          commitModules_spec checked distinct (readModuleConfig_nonempty matched) fresh
        rw [loadedConfig, loaded, parsed]
        by_cases member : name ∈ entries.map (·.name)
        · obtain ⟨entry, listed, rfl⟩ := List.mem_map.mp member
          dsimp only
          rw [entryConfig_of_mem distinct listed, Option.some_or]
          exact (adopted entry listed).config
        · dsimp only
          rw [entryConfig_of_absent member, Option.none_or]
          exact (frame name member).configs.trans (kept name)
    | loadModule fs plugin loadedName libraryPath =>
      cases taken
      rcases loadModule_cases fs plugin loadedName libraryPath mgr with ⟨e, failed⟩ |
        ⟨handle, nonempty, fresh, ⟨inst, rfl, justNamed⟩, loaded⟩
      · rw [loadedConfig, failed]
        exact kept name
      · rw [loadedConfig, loaded]
        dsimp only
        split
        · rename_i same
          subst same
          rw [configsByName_adopt, AList.lookup_insert]
        · rename_i different
          have other : name ≠ loadedName := fun same => different same.symm
          rw [(sameAt_adopt other nonempty).configs]
          exact kept name
    | pass operation hooks =>
      cases taken
      cases operation with
      | fini => exact AList.lookup_empty name
      | init ctx =>
        have notFini : Operation.init ctx ≠ .fini := nofun
        have same := consistent.sameModules_runPass notFini hooks
        exact (congrArg (AList.lookup name) same.configs).trans (kept name)
      | start =>
        have notFini : Operation.start ≠ .fini := nofun
        have same := consistent.sameModules_runPass notFini hooks
        exact (congrArg (AList.lookup name) same.configs).trans (kept name)
      | stop =>
        have notFini : Operation.stop ≠ .fini := nofun
        have same := consistent.sameModules_runPass notFini hooks
        exact (congrArg (AList.lookup name) same.configs).trans (kept name)

end ModuleManager

open ModuleBase (isActive)

/-! ## Contexts -/

namespace ModuleBase

/-- An active module has `address` as its context. -/
def In (address : IContext) (m : ModuleBase) : Prop :=
  isActive m.state = true → m.ctx = some address

variable {address : IContext} {m : ModuleBase}

theorem In.init (inside : m.In address) (hooks : Hooks) :
    (m.init address hooks).module.In address := by
  by_cases ready : m.state = .created ∨ m.state = .fini
  · rw [init_of_ready ready]
    cases hooks.onInit with
    | error e =>
      intro active
      rcases ready with state | state
      · rw [state] at active
        cases active
      · rw [state] at active
        cases active
    | ok u => exact fun _ => rfl
  · have active : isActive m.state = true := by
      cases state : m.state <;> simp_all [isActive]
    rw [init_of_active active]
    exact inside

theorem In.start (inside : m.In address) (hooks : Hooks) : (m.start hooks).module.In address := by
  by_cases ready : m.state = .inited ∨ m.state = .stopped
  · have active : isActive m.state = true := by
      rcases ready with state | state
      · rw [state]
        rfl
      · rw [state]
        rfl
    rw [start_of_ready ready]
    cases hooks.onStart with
    | error e => exact inside
    | ok u => exact fun _ => inside active
  · rw [start_of_not_ready (not_or.mp ready)]
    exact inside

theorem In.stop (inside : m.In address) (hooks : Hooks) : (m.stop hooks).module.In address := by
  by_cases running : m.state = .started
  · have active : isActive m.state = true := by
      rw [running]
      rfl
    rw [stop_of_started running]
    cases hooks.onStop with
    | error e => exact inside
    | ok u => exact fun _ => inside active
  · rw [stop_of_not_started running]
    exact inside

theorem In.fini (m : ModuleBase) (hooks : Hooks) : (m.fini hooks).module.In address := by
  intro active
  rw [fini_leaves_fini] at active
  cases active

end ModuleBase

/-- The lifecycle calls of a context at `address` initialise modules with it. -/
def Operation.Within (address : IContext) (operation : Operation) : Prop :=
  ∀ ctx, operation = .init ctx → ctx = address

theorem Operation.Within.call {address : IContext} {operation : Operation}
    (within : operation.Within address) {m : ModuleBase} (inside : m.In address)
    (hooks : Hooks) : (operation.call hooks m).2.In address := by
  cases operation with
  | init ctx =>
    rw [within ctx rfl]
    exact inside.init hooks
  | start => exact inside.start hooks
  | stop => exact inside.stop hooks
  | fini => exact .fini m hooks

/-- The module as a hook finds it: with the context it is initialised with, or active. -/
theorem Visit.hookCall_module {operation : Operation} {visit : Visit ModuleBase Hooks}
    {call : HookCall} (ran : call ∈ visit.hookCalls operation) :
    (∃ ctx, operation = .init ctx ∧ call.module = { visit.instance'.module with ctx := some ctx }) ∨
      (call.module = visit.instance'.module ∧ isActive visit.instance'.module.state = true) := by
  cases operation with
  | init ctx =>
    refine .inl ⟨ctx, rfl, ?_⟩
    have here : call ∈ (visit.instance'.module.init ctx visit.hooks).calls := ran
    by_cases ready : visit.instance'.module.state = .created ∨ visit.instance'.module.state = .fini
    · rw [ModuleBase.init_of_ready ready] at here
      cases outcome : visit.hooks.onInit <;> simp [outcome] at here <;> rw [here]
    · have active : isActive visit.instance'.module.state = true := by
        cases state : visit.instance'.module.state <;> simp_all [isActive]
      simp [ModuleBase.init_of_active active] at here
  | start =>
    have here : call ∈ (visit.instance'.module.start visit.hooks).calls := ran
    by_cases ready : visit.instance'.module.state = .inited ∨
        visit.instance'.module.state = .stopped
    · rw [ModuleBase.start_of_ready ready] at here
      refine .inr ⟨?_, ?_⟩
      · cases outcome : visit.hooks.onStart <;> simp [outcome] at here <;> rw [here]
      · rcases ready with state | state <;> rw [state] <;> rfl
    · simp [ModuleBase.start_of_not_ready (not_or.mp ready)] at here
  | stop =>
    have here : call ∈ (visit.instance'.module.stop visit.hooks).calls := ran
    by_cases running : visit.instance'.module.state = .started
    · rw [ModuleBase.stop_of_started running] at here
      refine .inr ⟨?_, by rw [running]; rfl⟩
      cases outcome : visit.hooks.onStop <;> simp [outcome] at here <;> rw [here]
    · simp [ModuleBase.stop_of_not_started running] at here
  | fini =>
    have here : call ∈ (visit.instance'.module.fini visit.hooks).calls := ran
    cases state : visit.instance'.module.state with
    | created => simp [ModuleBase.fini_of_created state] at here
    | fini => simp [ModuleBase.fini_of_fini state] at here
    | inited =>
      simp [ModuleBase.fini_of_idle (Or.inl state)] at here
      exact .inr ⟨by rw [here], rfl⟩
    | stopped =>
      simp [ModuleBase.fini_of_idle (Or.inr state)] at here
      exact .inr ⟨by rw [here], rfl⟩
    | started =>
      simp [ModuleBase.fini_of_started state] at here
      exact .inr ⟨by rcases here with same | same <;> rw [same], rfl⟩

namespace ModuleManager

/-- Every module is one of the context at `address`. -/
def AllIn (address : IContext) (mgr : ModuleManager ModuleBase) : Prop :=
  ∀ name inst, mgr.instanceOf name = some inst → inst.module.In address

variable {address : IContext} {mgr : ModuleManager ModuleBase}

theorem AllIn.setModule (inside : mgr.AllIn address) {name : String} {inst : Instance ModuleBase}
    {module : ModuleBase} (here : module.In address) :
    (mgr.setModule name inst module).AllIn address := by
  intro other found held
  by_cases same : other = name
  · subst same
    rw [instanceOf_setModule_self] at held
    cases held
    exact here
  · rw [instanceOf_setModule_ne same] at held
    exact inside other found held

theorem AllIn.walked {operation : Operation} {hooks : String → Hooks}
    {final : ModuleManager ModuleBase} {names : List String}
    {visits : List (Visit ModuleBase Hooks)} (within : operation.Within address)
    (walk : Traversal operation hooks mgr names visits final) (inside : mgr.AllIn address) :
    final.AllIn address ∧ ∀ visit ∈ visits, visit.instance'.module.In address := by
  induction walk with
  | done mgr names => exact ⟨inside, fun visit member => absurd member List.not_mem_nil⟩
  | @visit mgr final name rest inst visits held walk ih =>
    have here := inside name inst held
    have called : (operation.call (hooks name) inst.module).2.In address :=
      within.call here (hooks name)
    obtain ⟨left, visited⟩ := ih (inside.setModule called)
    refine ⟨left, ?_⟩
    intro visit member
    rcases List.mem_cons.mp member with rfl | member
    · exact here
    · exact visited visit member

theorem AllIn.adopt (inside : mgr.AllIn address) {name : String} {inst : Instance ModuleBase}
    {config : ConfigValue} (nonempty : name.isEmpty = false) (fresh : name ∉ mgr.modulesByName)
    (justNamed : JustNamed name inst.module) :
    (mgr.adopt name (some inst) config).AllIn address := by
  intro other found held
  by_cases same : other = name
  · subst same
    rw [instanceOf_adopt_self fresh] at held
    cases held
    intro active
    rw [justNamed.created_state] at active
    cases active
  · rw [(sameAt_adopt same nonempty).instanceOf_eq] at held
    exact inside other found held

/-- A call of a context at `address`. -/
def WithinCall (address : IContext) : ManagerCall String Hooks → Prop
  | .pass operation _ => operation.Within address
  | _ => True

theorem AllIn.step (inside : mgr.AllIn address) (consistent : Consistent mgr)
    {call : ManagerCall String Hooks} (within : WithinCall address call)
    {mgr' : ModuleManager ModuleBase} (taken : mgr.step call = some mgr') : mgr'.AllIn address := by
  by_cases load : ∀ operation hooks, call ≠ .pass operation hooks
  · exact (step_load_invariant (fun mgr => mgr.AllIn address)
      (fun mgr name inst config _ inside nonempty fresh justNamed =>
        inside.adopt nonempty fresh justNamed) load taken consistent inside).2
  simp only [ne_eq, not_forall, not_not] at load
  obtain ⟨operation, hooks, rfl⟩ := load
  cases taken
  obtain ⟨names, final, -, walk, left | left⟩ := consistent.traversal operation hooks
  · rw [left]
    exact (inside.walked within walk).1
  · rw [left]
    intro name inst held
    simp [instanceOf] at held

end ModuleManager

namespace Context

theorem within_managerCall (address : IContext) (call : ContextCall String Hooks) :
    ModuleManager.WithinCall address (call.managerCall address) := by
  cases call with
  | loadModules fs plugins configFilePath => trivial
  | loadModule fs plugin name libraryPath => trivial
  | init hooks =>
    intro ctx same
    cases same
    rfl
  | start hooks => exact nofun
  | stop hooks => exact nofun
  | fini hooks => exact nofun

theorem run_allIn {address : IContext} {past : List (Context ModuleBase × ContextCall String Hooks)}
    {context : Context ModuleBase} (run : ContextRun address past context) :
    context.address = address ∧ ∃ mgr, context.moduleManager = some mgr ∧
      mgr.Consistent ∧ mgr.AllIn address := by
  refine run.invariant (fun context => context.address = address ∧
    ∃ mgr, context.moduleManager = some mgr ∧ mgr.Consistent ∧ mgr.AllIn address) ?_ ?_
  · refine ⟨rfl, .new, rfl, ModuleManager.consistent_of_empty .empty fun _ => rfl, ?_⟩
    intro name inst held
    simp [ModuleManager.new, ModuleManager.instanceOf] at held
  · rintro context call context' ⟨rfl, mgr, managed, consistent, inside⟩ taken
    obtain ⟨mgr', called, rfl⟩ := step_managed managed taken
    exact ⟨rfl, mgr', rfl, consistent.step called,
      inside.step consistent (within_managerCall _ call) called⟩

/-- What a hook that a manager runs in the course of a pass finds. -/
structure Finds (address : IContext)
    (past : List (ModuleManager ModuleBase × ManagerCall String Hooks))
    (visit : Visit ModuleBase Hooks) (call : HookCall) : Prop where
  context : call.module.ctx = some address
  name : call.module.moduleName = visit.name
  config : ∃ config, ModuleManager.loadedConfig visit.name past = some config ∧
    visit.manager.moduleConfig call.module.moduleName = .ok config

/-- Every hook that a context makes its manager run finds this context, and under its own name
the configuration that its module was loaded with. -/
theorem hooks_find {address : IContext}
    {past : List (Context ModuleBase × ContextCall String Hooks)} {context : Context ModuleBase}
    (run : ContextRun address past context) :
    ∃ mgr, context.moduleManager = some mgr ∧
      ∀ (call : ContextCall String Hooks) (operation : Operation) (hooks : String → Hooks),
        call.managerCall address = .pass operation hooks →
        ∀ visit ∈ (mgr.runPass operation hooks).visits, ∀ hookCall ∈ visit.hookCalls operation,
          Finds address (managerPast past) visit hookCall := by
  obtain ⟨-, mgr, managed, reached⟩ := run_managed run
  obtain ⟨-, mgr', managed', consistent, inside⟩ := run_allIn run
  have same : mgr = mgr' := Option.some.inj (managed.symm.trans managed')
  subst same
  refine ⟨mgr, managed, ?_⟩
  intro call operation hooks called visit visited hookCall ran
  have within : operation.Within address := by
    have here := within_managerCall address call
    rw [called] at here
    exact here
  obtain ⟨names, final, -, walk, -⟩ := consistent.traversal operation hooks
  have reachable : ModuleManager.Reachable (H := Hooks) mgr := ⟨_, reached⟩
  have reports := reachable.reportsNames
  obtain ⟨held, named, sameModules⟩ := reports.at_visit walk visit visited
  have here := (inside.walked within walk).2 visit visited
  have name : hookCall.module.moduleName = visit.name := by
    rcases Visit.hookCall_module ran with ⟨ctx, -, finds⟩ | ⟨finds, -⟩
    · rw [finds]
      exact named
    · rw [finds]
      exact named
  refine ⟨?_, name, ?_⟩
  · rcases Visit.hookCall_module ran with ⟨ctx, initialises, finds⟩ | ⟨finds, active⟩
    · rw [finds, within ctx initialises]
    · rw [finds]
      exact here active
  · have listed := (sameModules.order ▸ (consistent.of_sameModules sameModules).mem_order held :
      visit.name ∈ mgr.moduleOrder)
    have configured := (consistent.configs visit.name).mpr listed
    obtain ⟨config, found⟩ := StringMap.mem_iff_lookup.mp configured
    refine ⟨config, ?_, ?_⟩
    · rw [← (ModuleManager.run_loadedConfig reached).2]
      exact found
    · rw [name, ModuleManager.moduleConfig, sameModules.configs, found]

/-- Both buses of a context find it, and the empty configuration that `LoadModule` gives. -/
theorem hooks_find_twoBuses :
    let succeed : String → Hooks := fun _ => ⟨.ok (), .ok (), .ok (), .ok ()⟩
    ∃ past mgr, (⟨7, some .twoBuses⟩ : Context ModuleBase).moduleManager = some mgr ∧
      (mgr.init 7 succeed).visits.map (·.name) = ["first", "second"] ∧
      ModuleManager.loadedConfig "second" past = some .makeObject ∧
      ∀ visit ∈ (mgr.init 7 succeed).visits, ∀ hookCall ∈ visit.hookCalls (.init 7),
        Finds 7 past visit hookCall := by
  intro succeed
  have run : ContextRun (P := String) (H := Hooks) 7 _ ⟨7, some ModuleManager.twoBuses⟩ :=
    (Run.nil.snoc (l := .loadModule ModuleManager.noFiles (fun _ => ModuleManager.busPlugin 1)
      "first" "/lib/bus.so") rfl).snoc
      (l := .loadModule ModuleManager.noFiles (fun _ => ModuleManager.busPlugin 2)
        "second" "/lib/bus.so") rfl
  obtain ⟨mgr, managed, finds⟩ := hooks_find run
  cases managed
  exact ⟨_, _, rfl, by decide, rfl, finds (.init succeed) (.init 7) succeed rfl⟩

end Context

end ModuleContext.Framework
