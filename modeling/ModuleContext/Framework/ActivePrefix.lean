import ModuleContext.Framework.DependencyOrder

/-!
# Which modules can be active

A module is active from a successful `Init` to the next `Fini`. `Init` walks the load order and
stops at the first failure, so that the active modules are those of an initial part of the load
order. As long as this part is not empty, a further `Init` fails at its first module, and the
part stays as it is until `Fini` empties the manager.
-/

namespace ModuleContext.Framework
open Foundation Misc

namespace ModuleBase

variable {m : ModuleBase}

/-- A failed `Init` leaves a created module created. -/
theorem init_of_created (fresh : m.state = .created) (ctx : IContext) (hooks : Hooks) :
    (isOk (m.init ctx hooks).result = true ∧ (m.init ctx hooks).module.state = .inited) ∨
      (isOk (m.init ctx hooks).result = false ∧ (m.init ctx hooks).module.state = .created) := by
  rw [init_of_ready (Or.inl fresh)]
  cases hooks.onInit with
  | error e => exact Or.inr ⟨rfl, fresh⟩
  | ok _ => exact Or.inl ⟨rfl, rfl⟩

/-- A module that is created or active stays so when it is called. -/
def KeepsActive (call : ModuleBase → ModuleBase) : Prop :=
  ∀ m, (m.state = .created → (call m).state = .created) ∧
    (isActive m.state = true → isActive (call m).state = true)

theorem start_keepsActive (hooks : Hooks) : KeepsActive fun m => (m.start hooks).module := by
  intro m
  dsimp only
  refine ⟨?_, ?_⟩
  · intro fresh
    have notReady : m.state ≠ .inited ∧ m.state ≠ .stopped := by simp [fresh]
    rw [start_of_not_ready notReady]
    exact fresh
  · intro active
    by_cases ready : m.state = .inited ∨ m.state = .stopped
    · rw [start_of_ready ready]
      cases hooks.onStart with
      | error e => exact active
      | ok _ => rfl
    · rw [start_of_not_ready (not_or.mp ready)]
      exact active

theorem stop_keepsActive (hooks : Hooks) : KeepsActive fun m => (m.stop hooks).module := by
  intro m
  dsimp only
  by_cases running : m.state = .started
  · rw [stop_of_started running]
    refine ⟨fun fresh => ?_, fun active => ?_⟩
    · rw [running] at fresh
      cases fresh
    · cases hooks.onStop with
      | error e => exact active
      | ok _ => rfl
  · rw [stop_of_not_started running]
    exact ⟨id, id⟩

end ModuleBase

open ModuleBase (isActive)

/-- Loading does not call the lifecycle methods. -/
theorem JustNamed.created_state {name : String} {m : ModuleBase} (justNamed : JustNamed name m) :
    m.state = .created := by
  obtain ⟨⟨plugin, rfl⟩, -⟩ := justNamed
  change (ModuleBase.setModuleName name (ModuleBase.construct plugin)).2.state = .created
  unfold ModuleBase.setModuleName
  split
  · rfl
  · split
    · rfl
    · rfl

/-- The call is `Fini`. -/
def ManagerCall.isFini {P H : Type} : ManagerCall P H → Bool
  | .pass .fini _ => true
  | _ => false

namespace ModuleManager

/-- The active modules are those of `front`, an initial part of the load order; all later ones
are still created. -/
structure ActivePrefix (front : List String) (mgr : ModuleManager ModuleBase) : Prop where
  initial : front <+: mgr.moduleOrder
  active : ∀ name ∈ front, ∃ state, mgr.stateOf name = some state ∧ isActive state = true
  created : ∀ name ∈ mgr.moduleOrder, name ∉ front → mgr.stateOf name = some .created

variable {front : List String} {mgr : ModuleManager ModuleBase}

theorem stateOf_setModule_self (name : String) (inst : Instance ModuleBase)
    (module : ModuleBase) (mgr : ModuleManager ModuleBase) :
    (mgr.setModule name inst module).stateOf name = some module.state := by
  rw [stateOf, instanceOf_setModule_self, Option.map_some]

theorem stateOf_setModule_ne {name other : String} (different : other ≠ name)
    (inst : Instance ModuleBase) (module : ModuleBase) (mgr : ModuleManager ModuleBase) :
    (mgr.setModule name inst module).stateOf other = mgr.stateOf other := by
  rw [stateOf, stateOf, instanceOf_setModule_ne different]

theorem stateOf_of_held {name : String} {inst : Instance ModuleBase}
    (held : mgr.instanceOf name = some inst) : mgr.stateOf name = some inst.module.state := by
  rw [stateOf, held, Option.map_some]

/-- One call that keeps a module created or active. -/
theorem ActivePrefix.setModule (holds : mgr.ActivePrefix front) {name : String}
    {inst : Instance ModuleBase} (held : mgr.instanceOf name = some inst)
    {call : ModuleBase → ModuleBase} (keeps : ModuleBase.KeepsActive call) :
    (mgr.setModule name inst (call inst.module)).ActivePrefix front where
  initial := holds.initial
  active := by
    intro other member
    by_cases same : other = name
    · subst same
      obtain ⟨state, here, active⟩ := holds.active other member
      rw [stateOf_of_held held, Option.some.injEq] at here
      rw [stateOf_setModule_self]
      exact ⟨_, rfl, (keeps inst.module).2 (here ▸ active)⟩
    · rw [stateOf_setModule_ne same]
      exact holds.active other member
  created := by
    intro other member outside
    by_cases same : other = name
    · subst same
      have here := holds.created other member outside
      rw [stateOf_of_held held, Option.some.injEq] at here
      rw [stateOf_setModule_self, (keeps inst.module).1 here]
    · rw [stateOf_setModule_ne same]
      exact holds.created other member outside

theorem ActivePrefix.walked {operation : Operation} {hooks : String → Hooks}
    {final : ModuleManager ModuleBase} {names : List String}
    {visits : List (Visit ModuleBase Hooks)}
    (keeps : ∀ hooks, ModuleBase.KeepsActive fun m => (operation.call hooks m).2)
    (walk : Traversal operation hooks mgr names visits final) (holds : mgr.ActivePrefix front) :
    final.ActivePrefix front := by
  induction walk with
  | done mgr names => exact holds
  | visit held _ ih => exact ih (holds.setModule held (keeps _))

/-- A module that is loaded comes behind the active ones and is created. -/
theorem ActivePrefix.adopt (holds : mgr.ActivePrefix front) (consistent : Consistent mgr)
    {name : String} {inst : Instance ModuleBase} {config : ConfigValue}
    (nonempty : name.isEmpty = false) (fresh : name ∉ mgr.modulesByName)
    (justNamed : JustNamed name inst.module) :
    (mgr.adopt name (some inst) config).ActivePrefix front where
  initial := by
    rw [moduleOrder_adopt]
    exact holds.initial.trans (List.prefix_append _ _)
  active := by
    intro other member
    have different : other ≠ name := by
      rintro rfl
      exact fresh ((consistent.modules other).mpr (holds.initial.subset member))
    rw [stateOf, (sameAt_adopt different nonempty).instanceOf_eq]
    exact holds.active other member
  created := by
    intro other member outside
    by_cases same : other = name
    · subst same
      rw [stateOf, instanceOf_adopt_self fresh, Option.map_some, justNamed.created_state]
    · rw [moduleOrder_adopt, List.mem_append, List.mem_singleton] at member
      rw [stateOf, (sameAt_adopt same nonempty).instanceOf_eq]
      exact holds.created other (member.resolve_right same) outside

/-- `Init` on modules that are all created initialises an initial part of them. -/
theorem forwardPass_init (ctx : IContext) (hooks : String → Hooks) {names : List String}
    (distinct : names.Nodup) (valid : AllValid names mgr)
    (fresh : ∀ name ∈ names, mgr.stateOf name = some .created) :
    ∃ done, done <+: names ∧
      (∀ name ∈ done,
        (forwardPass (.init ctx) hooks names mgr).manager.stateOf name = some .inited) ∧
      ∀ name, name ∉ done →
        (forwardPass (.init ctx) hooks names mgr).manager.stateOf name = mgr.stateOf name := by
  induction names generalizing mgr with
  | nil => exact ⟨[], List.prefix_rfl, by simp, fun _ _ => rfl⟩
  | cons name names ih =>
    obtain ⟨inst, held⟩ := Option.isSome_iff_exists.mp (valid name List.mem_cons_self)
    have found := instanceOf_eq_some.mp held
    have here := fresh name List.mem_cons_self
    rw [stateOf_of_held held, Option.some.injEq] at here
    rw [List.nodup_cons] at distinct
    have outcome : (Operation.init ctx).call (hooks name) inst.module =
        ((inst.module.init ctx (hooks name)).result, (inst.module.init ctx (hooks name)).module) :=
      rfl
    rcases ModuleBase.init_of_created here ctx (hooks name) with ⟨ok, after⟩ | ⟨failed, after⟩
    · cases result : (inst.module.init ctx (hooks name)).result with
      | error e => simp [result] at ok
      | ok _ =>
        have rest := @ih (mgr.setModule name inst (inst.module.init ctx (hooks name)).module)
          distinct.2
          (AllValid.of_sameModules (fun other member => valid other (List.mem_cons_of_mem _ member))
            (sameModules_setModule held _)) (by
            intro other member
            have different : other ≠ name := by
              rintro rfl
              exact distinct.1 member
            rw [stateOf_setModule_ne different]
            exact fresh other (List.mem_cons_of_mem _ member))
        obtain ⟨done, initial, inited, untouched⟩ := rest
        refine ⟨name :: done, List.cons_prefix_cons.mpr ⟨rfl, initial⟩, ?_, ?_⟩
        · intro other member
          simp only [forwardPass, found, outcome, result]
          by_cases later : other ∈ done
          · exact inited other later
          · have same := (List.mem_cons.mp member).resolve_right later
            subst same
            rw [untouched other later, stateOf_setModule_self, after]
        · intro other outside
          rw [List.mem_cons, not_or] at outside
          simp only [forwardPass, found, outcome, result]
          rw [untouched other outside.2, stateOf_setModule_ne outside.1]
    · refine ⟨[], List.nil_prefix, by simp, ?_⟩
      intro other _
      cases result : (inst.module.init ctx (hooks name)).result with
      | ok _ => simp [result] at failed
      | error e =>
        simp only [forwardPass, found, outcome, result]
        by_cases same : other = name
        · subst same
          rw [stateOf_setModule_self, after, stateOf_of_held held, here]
        · rw [stateOf_setModule_ne same]

/-- A further `Init`: the error, the hooks that run, and the manager afterwards. -/
structure InitRefused (ctx : IContext) (hooks : String → Hooks)
    (mgr : ModuleManager ModuleBase) : Prop where
  error : ∃ message, (mgr.init ctx hooks).result = .error ⟨.invalidState, message⟩
  noHook : ∀ visit ∈ (mgr.init ctx hooks).visits, visit.hookCalls (.init ctx) = []
  modules : ∀ name, (mgr.init ctx hooks).manager.modulesByName.lookup name =
    mgr.modulesByName.lookup name
  configs : (mgr.init ctx hooks).manager.configsByName = mgr.configsByName
  order : (mgr.init ctx hooks).manager.moduleOrder = mgr.moduleOrder
  registry : (mgr.init ctx hooks).manager.serviceRegistry = mgr.serviceRegistry

/-- With an active module, `Init` fails at the first one. -/
theorem ActivePrefix.init_refused (holds : mgr.ActivePrefix front) (consistent : Consistent mgr)
    (nonempty : front ≠ []) (ctx : IContext) (hooks : String → Hooks) :
    mgr.InitRefused ctx hooks := by
  obtain ⟨name, more, rfl⟩ := List.exists_cons_of_ne_nil nonempty
  obtain ⟨later, order⟩ := holds.initial
  rw [List.cons_append] at order
  have listed : name ∈ mgr.moduleOrder := order ▸ List.mem_cons_self
  obtain ⟨inst, held⟩ := Option.isSome_iff_exists.mp (consistent.valid name listed)
  obtain ⟨state, here, active⟩ := holds.active name List.mem_cons_self
  rw [stateOf_of_held held, Option.some.injEq] at here
  have refused := ModuleBase.init_of_active (here ▸ active) ctx (hooks name)
  have outcome : (Operation.init ctx).call (hooks name) inst.module =
      ((inst.module.init ctx (hooks name)).result, (inst.module.init ctx (hooks name)).module) :=
    rfl
  rw [refused] at outcome
  have pass : mgr.init ctx hooks = ⟨.error (prefixModuleError "Init" name
      (makeStateError "Init" inst.module.moduleName inst.module.state)),
      mgr.setModule name inst inst.module, [⟨mgr, name, inst, hooks name⟩]⟩ := by
    simp only [init, ← order, forwardPass, instanceOf_eq_some.mp held, outcome]
    rfl
  refine ⟨?_, ?_, ?_, ?_, ?_, ?_⟩
  · rw [pass]
    exact ⟨_, rfl⟩
  · intro visit member
    rw [pass, List.mem_singleton] at member
    subst member
    exact congrArg Outcome.calls refused
  · intro other
    rw [pass]
    by_cases same : other = name
    · subst same
      rw [instanceOf_eq_some.mp held]
      exact AList.lookup_insert _
    · exact AList.lookup_insert_ne same
  all_goals rw [pass]; rfl

/-- Whenever `Start` or `Stop` calls a module, the active modules are still the same. -/
theorem ActivePrefix.at_visit {operation : Operation} {hooks : String → Hooks}
    {final : ModuleManager ModuleBase} {names : List String}
    {visits : List (Visit ModuleBase Hooks)}
    (keeps : ∀ hooks, ModuleBase.KeepsActive fun m => (operation.call hooks m).2)
    (walk : Traversal operation hooks mgr names visits final) (holds : mgr.ActivePrefix front) :
    ∀ visit ∈ visits, visit.manager.ActivePrefix front ∧ SameModules mgr visit.manager ∧
      visit.manager.instanceOf visit.name = some visit.instance' := by
  induction walk with
  | done mgr names => simp
  | visit held _ ih =>
    intro visit member
    rcases List.mem_cons.mp member with rfl | member
    · exact ⟨holds, .refl _, held⟩
    · obtain ⟨holds', same, held'⟩ := ih (holds.setModule held (keeps _)) visit member
      exact ⟨holds', (sameModules_setModule held _).trans same, held'⟩

theorem keepsActive_start (hooks : Hooks) :
    ModuleBase.KeepsActive fun m => (Operation.start.call hooks m).2 :=
  ModuleBase.start_keepsActive hooks

theorem keepsActive_stop (hooks : Hooks) :
    ModuleBase.KeepsActive fun m => (Operation.stop.call hooks m).2 :=
  ModuleBase.stop_keepsActive hooks

theorem start_walk (consistent : Consistent mgr) (hooks : String → Hooks) :
    Traversal .start hooks mgr mgr.moduleOrder (mgr.start hooks).visits
      (mgr.start hooks).manager :=
  (forwardPass_spec hooks consistent.valid).1

theorem stop_walk (consistent : Consistent mgr) (hooks : String → Hooks) :
    Traversal .stop hooks mgr mgr.moduleOrder.reverse (mgr.stop hooks).visits
      (mgr.stop hooks).manager :=
  (reversePass_spec hooks makeSuccess
    fun name member => consistent.valid name (List.mem_reverse.mp member)).1

/-- Before `Fini`, a module behind the active ones runs no hook. -/
theorem ActivePrefix.no_hook_outside (holds : mgr.ActivePrefix front)
    (consistent : Consistent mgr) (nonempty : front ≠ []) {operation : Operation}
    (hooks : String → Hooks) (notFini : operation ≠ .fini) :
    ∀ visit ∈ (mgr.runPass operation hooks).visits, visit.name ∉ front →
      visit.hookCalls operation = [] := by
  intro visit member outside
  have created {mgr' : ModuleManager ModuleBase} (holds' : mgr'.ActivePrefix front)
      (consistent' : Consistent mgr') {inst : Instance ModuleBase}
      (held : mgr'.instanceOf visit.name = some inst) : inst.module.state = .created := by
    have here := holds'.created visit.name (consistent'.mem_order held) outside
    rw [stateOf_of_held held, Option.some.injEq] at here
    exact here
  cases operation with
  | init ctx => exact (holds.init_refused consistent nonempty ctx hooks).noHook visit member
  | start =>
    have walk := start_walk consistent hooks
    obtain ⟨holds', same, held⟩ := holds.at_visit keepsActive_start walk visit member
    have fresh := created holds' (consistent.of_sameModules same) held
    have notReady : visit.instance'.module.state ≠ .inited ∧
        visit.instance'.module.state ≠ .stopped := by simp [fresh]
    exact congrArg Outcome.calls (ModuleBase.start_of_not_ready notReady _)
  | stop =>
    have walk := stop_walk consistent hooks
    obtain ⟨holds', same, held⟩ := holds.at_visit keepsActive_stop walk visit member
    have fresh := created holds' (consistent.of_sameModules same) held
    have idle : visit.instance'.module.state ≠ .started := by simp [fresh]
    exact congrArg Outcome.calls (ModuleBase.stop_of_not_started idle _)
  | fini => exact absurd rfl notFini

/-- Only `Fini`, or an `Init` while no module is active, changes which modules are active. -/
theorem ActivePrefix.step (holds : mgr.ActivePrefix front) (consistent : Consistent mgr)
    {call : ManagerCall String Hooks} (notFini : call.isFini = false)
    (initialised : ∀ ctx hooks, call = .pass (.init ctx) hooks → front ≠ [])
    {mgr' : ModuleManager ModuleBase} (taken : mgr.step call = some mgr') :
    mgr'.ActivePrefix front := by
  by_cases load : ∀ operation hooks, call ≠ .pass operation hooks
  · exact (step_load_invariant (fun mgr => mgr.ActivePrefix front)
      (fun mgr name inst config consistent holds nonempty fresh justNamed =>
        holds.adopt consistent nonempty fresh justNamed)
      load taken consistent holds).2
  simp only [ne_eq, not_forall, not_not] at load
  obtain ⟨operation, hooks, rfl⟩ := load
  simp only [ModuleManager.step, Option.some.injEq] at taken
  subst taken
  cases operation with
  | init ctx =>
    have refused := holds.init_refused consistent (initialised ctx hooks rfl) ctx hooks
    have sameState : ∀ name, (mgr.init ctx hooks).manager.stateOf name = mgr.stateOf name := by
      intro name
      rw [stateOf, stateOf, instanceOf, instanceOf, refused.modules]
    exact ⟨refused.order ▸ holds.initial, fun name member => sameState name ▸
      holds.active name member, fun name member => sameState name ▸
      holds.created name (refused.order ▸ member)⟩
  | start => exact holds.walked keepsActive_start (start_walk consistent hooks)
  | stop => exact holds.walked keepsActive_stop (stop_walk consistent hooks)
  | fini => cases notFini

/-- After every call the active modules are an initial part of the load order. -/
theorem ActivePrefix.exists_step (holds : mgr.ActivePrefix front) (consistent : Consistent mgr)
    {call : ManagerCall String Hooks} {mgr' : ModuleManager ModuleBase}
    (taken : mgr.step call = some mgr') : ∃ front', mgr'.ActivePrefix front' := by
  by_cases init : ∃ ctx hooks, call = .pass (.init ctx) hooks ∧ front = []
  · obtain ⟨ctx, hooks, rfl, rfl⟩ := init
    simp only [ModuleManager.step, Option.some.injEq] at taken
    subst taken
    have walk := (@forwardPass_spec _ _ _ _ (.init ctx) hooks _ _ consistent.valid).1
    obtain ⟨done, initial, inited, untouched⟩ := forwardPass_init ctx hooks consistent.distinct
      consistent.valid fun name member => holds.created name member List.not_mem_nil
    refine ⟨done, ?_, ?_, ?_⟩
    · exact walk.sameModules.order ▸ initial
    · intro name member
      exact ⟨.inited, inited name member, rfl⟩
    · intro name member outside
      exact (untouched name outside).trans
        (holds.created name (walk.sameModules.order ▸ member) List.not_mem_nil)
  by_cases fini : call.isFini = true
  · refine ⟨[], List.nil_prefix, by simp, ?_⟩
    have emptied : mgr'.moduleOrder = [] := by
      unfold ManagerCall.isFini at fini
      split at fini
      · simp only [ModuleManager.step, Option.some.injEq] at taken
        subst taken
        rfl
      · cases fini
    simp [emptied]
  · refine ⟨front, holds.step consistent (by simpa using fini) ?_ taken⟩
    intro ctx hooks called empty
    exact init ⟨ctx, hooks, called, empty⟩

theorem Reachable.activePrefix (reached : Reachable (H := Hooks) mgr) :
    ∃ front, mgr.ActivePrefix front := by
  obtain ⟨past, run⟩ := reached
  have both := run.invariant (fun mgr => Consistent mgr ∧ ∃ front, mgr.ActivePrefix front)
    ⟨consistent_of_empty .empty fun _ => rfl, [], List.nil_prefix, by simp, by simp⟩ (by
      rintro mgr call mgr' ⟨consistent, front, holds⟩ taken
      exact ⟨consistent.step taken, holds.exists_step consistent taken⟩)
  exact both.2

/-- The active modules of a reachable manager are an initial part of the load order, and all
later modules are created. Once a module is active, this part is the same after any calls
without `Fini`; every further `Init` is refused, and no module behind the part runs a hook, so
that what a failed `Init` left or what was loaded later is never initialised or started. -/
theorem active_prefix_fixed (reached : Reachable (H := Hooks) mgr) :
    ∃ front, mgr.ActivePrefix front ∧ (front ≠ [] →
      ∀ past later, Run (step (M := ModuleBase)) mgr past later →
        (∀ entry ∈ past, entry.2.isFini = false) →
        later.ActivePrefix front ∧ (∀ ctx hooks, later.InitRefused ctx hooks) ∧
        ∀ operation hooks, operation ≠ .fini →
          ∀ visit ∈ (later.runPass operation hooks).visits, visit.name ∉ front →
            visit.hookCalls operation = []) := by
  obtain ⟨front, holds⟩ := reached.activePrefix
  refine ⟨front, holds, ?_⟩
  intro nonempty past later run
  have both : (∀ entry ∈ past, entry.2.isFini = false) →
      Consistent later ∧ later.ActivePrefix front := by
    refine run.invariant_past (fun past later => (∀ entry ∈ past, entry.2.isFini = false) →
      Consistent later ∧ later.ActivePrefix front) (fun _ => ⟨reached.consistent, holds⟩) ?_
    intro past before call after _ ih taken withoutFini
    obtain ⟨consistent, holds'⟩ := ih fun entry member =>
      withoutFini entry (List.mem_cons_of_mem _ member)
    exact ⟨consistent.step taken, holds'.step consistent
      (withoutFini _ List.mem_cons_self) (fun _ _ _ => nonempty) taken⟩
  intro withoutFini
  obtain ⟨consistent, holds'⟩ := both withoutFini
  exact ⟨holds', holds'.init_refused consistent nonempty,
    fun operation hooks notFini => holds'.no_hook_outside consistent nonempty hooks notFini⟩

/-- Of two modules, the second one fails to initialise. -/
def secondFails (name : String) : Hooks :=
  ⟨if name = "second" then .error ⟨.notFound, "no broker"⟩ else .ok (), .ok (), .ok (), .ok ()⟩

/-- A retry after the failure is refused, although the second module is still created. -/
theorem active_prefix_fixed_retry :
    (twoBuses.init 0 secondFails).manager.stateOf "second" = some .created ∧
      (twoBuses.init 0 secondFails).manager.InitRefused 0 secondFails := by
  have reached : Reachable (H := Hooks) (twoBuses.init 0 secondFails).manager := by
    obtain ⟨past, run⟩ := twoBuses_reachable
    exact ⟨_, run.snoc (l := .pass (.init 0) secondFails) rfl⟩
  refine ⟨by decide, ?_⟩
  obtain ⟨front, holds, kept⟩ := active_prefix_fixed reached
  have nonempty : front ≠ [] := by
    rintro rfl
    exact absurd (holds.created "first" (by decide) List.not_mem_nil) (by decide)
  exact (kept nonempty [] _ .nil (by simp)).2.1 0 secondFails

end ModuleManager

end ModuleContext.Framework
