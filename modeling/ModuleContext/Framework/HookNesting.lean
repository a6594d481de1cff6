import ModuleContext.Framework.Finalisation
import ModuleContext.Misc.Scopes

/-!
# How the hooks of a manager nest

A successful `OnInit` opens the scope of a module and `OnFini` closes it. Over the whole life of
a manager, from its construction to its destructor, these scopes are nested: what is finalised
is always the module that was initialised last, and the hooks of a module run inside its scope.
-/

namespace ModuleContext.Framework
open Foundation Misc

/-- What a hook of the module `name` does to the scopes. -/
def HookCall.event (name : String) (call : HookCall) : ScopeEvent String :=
  match call.hook with
  | .onInit => if isOk call.result then .opened name else .failed name
  | .onStart | .onStop => .used name
  | .onFini => .closed name

namespace ModuleManager

/-- The hooks that a call of the manager runs, in order. -/
def scopeEvents (call : ManagerCall String Hooks) (mgr : ModuleManager ModuleBase) :
    List (ScopeEvent String) :=
  match call with
  | .pass operation hooks => (mgr.runPass operation hooks).visits.flatMap fun visit =>
      (visit.hookCalls operation).map (HookCall.event visit.name)
  | _ => []

/-- The hooks that have run, oldest first. -/
def hookTrace : List (ModuleManager ModuleBase × ManagerCall String Hooks) →
    List (ScopeEvent String)
  | [] => []
  | (mgr, call) :: past => hookTrace past ++ mgr.scopeEvents call

/-- The hooks over the life of a manager, whose destructor calls `Fini`. -/
def lifetimeTrace (past : List (ModuleManager ModuleBase × ManagerCall String Hooks))
    (finiHooks : String → Hooks) (mgr : ModuleManager ModuleBase) : List (ScopeEvent String) :=
  hookTrace past ++ mgr.scopeEvents (.pass .fini finiHooks)

variable {mgr : ModuleManager ModuleBase} {front : List String}

/-! ## Passes that only use what is initialised -/

/-- A module in front of the others is active; one behind them is created. -/
theorem ActivePrefix.created_of_outside (holds : mgr.ActivePrefix front)
    (consistent : Consistent mgr) {name : String} {inst : Instance ModuleBase}
    (held : mgr.instanceOf name = some inst) (outside : name ∉ front) :
    inst.module.state = .created := by
  have here := holds.created name (consistent.mem_order held) outside
  rw [stateOf_of_held held, Option.some.injEq] at here
  exact here

/-- A pass whose hooks are those of active modules leaves the scopes as they are. -/
theorem accept_of_uses {operation : Operation} {visits : List (Visit ModuleBase Hooks)}
    (uses : ∀ visit ∈ visits, ∀ call ∈ visit.hookCalls operation,
      visit.name ∈ front ∧ (call.hook = .onStart ∨ call.hook = .onStop)) :
    Scopes.accept front.reverse (visits.flatMap fun visit =>
      (visit.hookCalls operation).map (HookCall.event visit.name)) = some front.reverse := by
  apply Scopes.accept_used
  intro event member
  obtain ⟨visit, visited, member⟩ := List.mem_flatMap.mp member
  obtain ⟨call, ran, rfl⟩ := List.mem_map.mp member
  obtain ⟨isOpen, hook⟩ := uses visit visited call ran
  refine ⟨visit.name, List.mem_reverse.mpr isOpen, ?_⟩
  rcases hook with hook | hook
  · rw [HookCall.event, hook]
  · rw [HookCall.event, hook]

theorem ActivePrefix.start_events (holds : mgr.ActivePrefix front) (consistent : Consistent mgr)
    (hooks : String → Hooks) :
    Scopes.accept front.reverse (mgr.scopeEvents (.pass .start hooks)) = some front.reverse := by
  apply accept_of_uses
  intro visit visited call ran
  obtain ⟨-, held, -⟩ := (start_walk consistent hooks).called consistent.distinct visit visited
  refine ⟨?_, .inl (ModuleBase.hook_of_start ran)⟩
  by_contra outside
  have fresh := holds.created_of_outside consistent held outside
  have notReady : visit.instance'.module.state ≠ .inited ∧
      visit.instance'.module.state ≠ .stopped := by simp [fresh]
  have calls : visit.hookCalls .start = [] :=
    congrArg Outcome.calls (ModuleBase.start_of_not_ready notReady visit.hooks)
  rw [calls] at ran
  cases ran

theorem ActivePrefix.stop_events (holds : mgr.ActivePrefix front) (consistent : Consistent mgr)
    (hooks : String → Hooks) :
    Scopes.accept front.reverse (mgr.scopeEvents (.pass .stop hooks)) = some front.reverse := by
  apply accept_of_uses
  intro visit visited call ran
  obtain ⟨-, held, -⟩ := (stop_walk consistent hooks).called
    (List.nodup_reverse.mpr consistent.distinct) visit visited
  refine ⟨?_, .inr (ModuleBase.hook_of_stop ran)⟩
  by_contra outside
  have fresh := holds.created_of_outside consistent held outside
  have idle : visit.instance'.module.state ≠ .started := by simp [fresh]
  have calls : visit.hookCalls .stop = [] :=
    congrArg Outcome.calls (ModuleBase.stop_of_not_started idle visit.hooks)
  rw [calls] at ran
  cases ran

/-! ## `Init` opens scopes -/

/-- The next created module is initialised. -/
theorem ActivePrefix.extend (holds : mgr.ActivePrefix front) {name : String}
    {inst : Instance ModuleBase} {module : ModuleBase}
    (initial : front ++ [name] <+: mgr.moduleOrder) (active : ModuleBase.isActive module.state) :
    (mgr.setModule name inst module).ActivePrefix (front ++ [name]) where
  initial := initial
  active := by
    intro other member
    by_cases same : other = name
    · subst same
      exact ⟨_, stateOf_setModule_self _ _ _ _, active⟩
    · rw [stateOf_setModule_ne same]
      rcases List.mem_append.mp member with before | last
      · exact holds.active other before
      · exact absurd (List.mem_singleton.mp last) same
  created := by
    intro other member outside
    rw [List.mem_append, not_or] at outside
    have different : other ≠ name := fun same => outside.2 (List.mem_singleton.mpr same)
    rw [stateOf_setModule_ne different]
    exact holds.created other member outside.1

/-- A created module whose `OnInit` fails is created again. -/
theorem ActivePrefix.setCreated (holds : mgr.ActivePrefix front) {name : String}
    {inst : Instance ModuleBase} {module : ModuleBase} (outside : name ∉ front)
    (created : module.state = .created) :
    (mgr.setModule name inst module).ActivePrefix front where
  initial := holds.initial
  active := by
    intro other member
    have different : other ≠ name := by
      rintro rfl
      exact outside member
    rw [stateOf_setModule_ne different]
    exact holds.active other member
  created := by
    intro other member notFront
    by_cases same : other = name
    · subst same
      rw [stateOf_setModule_self, created]
    · rw [stateOf_setModule_ne same]
      exact holds.created other member notFront

/-- `Init` over the created modules behind the active ones. Each success opens a scope on top
of the others, and the first failure ends the pass. -/
theorem ActivePrefix.init_walk {ctx : IContext} {hooks : String → Hooks} {names : List String}
    (holds : mgr.ActivePrefix front) (order : mgr.moduleOrder = front ++ names)
    (distinct : mgr.moduleOrder.Nodup) (valid : AllValid names mgr) :
    let pass := forwardPass (.init ctx) hooks names mgr
    ∃ front', pass.manager.ActivePrefix front' ∧
      Scopes.accept front.reverse (pass.visits.flatMap fun visit =>
        (visit.hookCalls (.init ctx)).map (HookCall.event visit.name)) = some front'.reverse := by
  induction names generalizing mgr front with
  | nil => exact ⟨front, holds, rfl⟩
  | cons name names ih =>
    obtain ⟨inst, held⟩ := Option.isSome_iff_exists.mp (valid name List.mem_cons_self)
    have found := instanceOf_eq_some.mp held
    have outside : name ∉ front := by
      intro member
      rw [order] at distinct
      exact (List.nodup_append.mp distinct).2.2 name member name List.mem_cons_self rfl
    have listed : name ∈ mgr.moduleOrder := by
      rw [order]
      exact List.mem_append_right _ List.mem_cons_self
    have fresh := holds.created name listed outside
    rw [stateOf_of_held held, Option.some.injEq] at fresh
    have notOpen : name ∉ front.reverse := fun member => outside (List.mem_reverse.mp member)
    have ready := ModuleBase.init_of_ready (Or.inl fresh) ctx (hooks name)
    have outcome : (Operation.init ctx).call (hooks name) inst.module =
        ((inst.module.init ctx (hooks name)).result, (inst.module.init ctx (hooks name)).module) :=
      rfl
    cases returned : (hooks name).onInit with
    | error e =>
      rw [returned] at ready
      rw [ready] at outcome
      have calls : Visit.hookCalls (.init ctx) ⟨mgr, name, inst, hooks name⟩ =
          [⟨.onInit, { inst.module with ctx := some ctx }, .error e⟩] :=
        congrArg Outcome.calls ready
      have pass : forwardPass (.init ctx) hooks (name :: names) mgr =
          ⟨.error (prefixModuleError "Init" name (prefixHookError "Init" inst.module.moduleName e)),
            mgr.setModule name inst { inst.module with ctx := none },
            [⟨mgr, name, inst, hooks name⟩]⟩ := by
        simp only [forwardPass, found, outcome]
        rfl
      refine ⟨front, ?_, ?_⟩
      · rw [pass]
        exact holds.setCreated outside fresh
      · rw [pass, List.flatMap_singleton, calls]
        show (Scopes.next front.reverse (.failed name)).bind _ = _
        rw [Scopes.next_failed notOpen]
        rfl
    | ok u =>
      rw [returned] at ready
      rw [ready] at outcome
      have calls : Visit.hookCalls (.init ctx) ⟨mgr, name, inst, hooks name⟩ =
          [⟨.onInit, { inst.module with ctx := some ctx }, .ok u⟩] :=
        congrArg Outcome.calls ready
      have initial : front ++ [name] <+: mgr.moduleOrder :=
        ⟨names, by rw [order, List.append_assoc]; rfl⟩
      have extended : (mgr.setModule name inst
          { inst.module with ctx := some ctx, state := .inited }).ActivePrefix (front ++ [name]) :=
        holds.extend initial rfl
      have validRest : AllValid names (mgr.setModule name inst
          { inst.module with ctx := some ctx, state := .inited }) :=
        AllValid.of_sameModules (fun other member => valid other (List.mem_cons_of_mem _ member))
          (sameModules_setModule held _)
      obtain ⟨front', reached, accepted⟩ := ih extended
        (order.trans (by rw [List.append_assoc]; rfl)) distinct validRest
      have pass : forwardPass (.init ctx) hooks (name :: names) mgr =
          let rest := forwardPass (.init ctx) hooks names
            (mgr.setModule name inst { inst.module with ctx := some ctx, state := .inited })
          { rest with visits := ⟨mgr, name, inst, hooks name⟩ :: rest.visits } := by
        simp only [forwardPass, found, outcome]
        rfl
      refine ⟨front', ?_, ?_⟩
      · rw [pass]
        exact reached
      · rw [pass]
        dsimp only
        rw [List.flatMap_cons, calls]
        show (Scopes.next front.reverse (.opened name)).bind _ = _
        rw [Scopes.next_opened notOpen]
        rw [List.reverse_append] at accepted
        exact accepted

theorem ActivePrefix.init_events (holds : mgr.ActivePrefix front) (consistent : Consistent mgr)
    (ctx : IContext) (hooks : String → Hooks) :
    ∃ front', (mgr.init ctx hooks).manager.ActivePrefix front' ∧
      Scopes.accept front.reverse (mgr.scopeEvents (.pass (.init ctx) hooks)) =
        some front'.reverse := by
  by_cases empty : front = []
  · subst empty
    exact holds.init_walk rfl consistent.distinct consistent.valid
  · refine ⟨front, ?_, ?_⟩
    · have taken : mgr.step (.pass (.init ctx) hooks) = some (mgr.init ctx hooks).manager := rfl
      exact holds.step consistent rfl (fun _ _ _ => empty) taken
    · have refused := holds.init_refused consistent empty ctx hooks
      apply accept_of_uses
      intro visit visited call ran
      rw [refused.noHook visit visited] at ran
      cases ran

/-! ## `Fini` closes them -/

/-- What `Fini` does to the scope of one module: `OnStop` is inside it, `OnFini` ends it. -/
theorem accept_finiHooks {hooks : Hooks} {m : ModuleBase} {name : String} {stack : List String}
    (active : ModuleBase.isActive m.state = true) :
    Scopes.accept (name :: stack) ((m.fini hooks).calls.map (HookCall.event name)) =
      some stack := by
  have isOpen : name ∈ name :: stack := List.mem_cons_self
  have closing : Scopes.accept (name :: stack) [.closed name] = some stack := by
    rw [Scopes.accept, Scopes.next_closed]
    rfl
  cases state : m.state with
  | created =>
    rw [state] at active
    cases active
  | fini =>
    rw [state] at active
    cases active
  | inited =>
    rw [ModuleBase.fini_of_idle (Or.inl state)]
    exact closing
  | stopped =>
    rw [ModuleBase.fini_of_idle (Or.inr state)]
    exact closing
  | started =>
    rw [ModuleBase.fini_of_started state]
    show (Scopes.next (name :: stack) (.used name)).bind _ = _
    rw [Scopes.next_used isOpen]
    exact closing

/-- Visits of the active modules, the last one first, close all scopes. -/
theorem accept_active {visits : List (Visit ModuleBase Hooks)}
    (active : ∀ visit ∈ visits, ModuleBase.isActive visit.instance'.module.state = true) :
    Scopes.accept (visits.map (·.name)) (visits.flatMap fun visit =>
      (visit.hookCalls .fini).map (HookCall.event visit.name)) = some [] := by
  induction visits with
  | nil => rfl
  | cons visit visits ih =>
    rw [List.map_cons, List.flatMap_cons]
    refine Scopes.accept_of_append (accept_finiHooks (active visit List.mem_cons_self)) ?_
    exact ih fun other member => active other (List.mem_cons_of_mem _ member)

/-- Visits of created modules run no hook. -/
theorem events_of_created {visits : List (Visit ModuleBase Hooks)}
    (created : ∀ visit ∈ visits, visit.instance'.module.state = .created) :
    (visits.flatMap fun visit => (visit.hookCalls .fini).map (HookCall.event visit.name)) = [] := by
  rw [List.flatMap_eq_nil_iff]
  intro visit member
  have calls : visit.hookCalls .fini = [] :=
    congrArg Outcome.calls (ModuleBase.fini_of_created (created visit member) visit.hooks)
  rw [calls]
  rfl

/-- `Fini` passes the created modules by and closes the scopes of the active ones. -/
theorem ActivePrefix.fini_events (holds : mgr.ActivePrefix front) (consistent : Consistent mgr)
    (hooks : String → Hooks) :
    Scopes.accept front.reverse (mgr.scopeEvents (.pass .fini hooks)) = some [] := by
  obtain ⟨final, walk, covered⟩ := fini_walk consistent hooks
  have called := walk.called (List.nodup_reverse.mpr consistent.distinct)
  obtain ⟨behind, order⟩ := holds.initial
  have distinct := consistent.distinct
  rw [← order] at distinct
  rw [← order, List.reverse_append] at covered
  obtain ⟨first, second, split, firstNames, secondNames⟩ := List.map_eq_append_iff.mp covered
  show Scopes.accept _ ((mgr.fini hooks).visits.flatMap _) = _
  rw [split, List.flatMap_append, events_of_created, List.nil_append, ← secondNames]
  · apply accept_active
    intro visit member
    obtain ⟨-, held, -⟩ := called visit (split ▸ List.mem_append_right _ member)
    have inFront : visit.name ∈ front :=
      List.mem_reverse.mp (secondNames ▸ List.mem_map_of_mem member)
    obtain ⟨state, here, active⟩ := holds.active visit.name inFront
    rw [stateOf_of_held held, Option.some.injEq] at here
    rw [here]
    exact active
  · intro visit member
    obtain ⟨-, held, -⟩ := called visit (split ▸ List.mem_append_left _ member)
    have inBehind : visit.name ∈ behind :=
      List.mem_reverse.mp (firstNames ▸ List.mem_map_of_mem member)
    apply holds.created_of_outside consistent held
    intro inFront
    exact (List.nodup_append.mp distinct).2.2 _ inFront _ inBehind rfl

/-! ## Whole lives -/

/-- Every call runs hooks that fit on the scopes of the active modules. -/
theorem ActivePrefix.events (holds : mgr.ActivePrefix front) (consistent : Consistent mgr)
    {call : ManagerCall String Hooks} {mgr' : ModuleManager ModuleBase}
    (taken : mgr.step call = some mgr') :
    ∃ front', mgr'.ActivePrefix front' ∧
      Scopes.accept front.reverse (mgr.scopeEvents call) = some front'.reverse := by
  cases call with
  | loadModules fs plugins configFilePath =>
    exact ⟨front, holds.step consistent rfl (fun _ _ called => by cases called) taken, rfl⟩
  | loadModule fs plugin name libraryPath =>
    exact ⟨front, holds.step consistent rfl (fun _ _ called => by cases called) taken, rfl⟩
  | pass operation hooks =>
    cases operation with
    | init ctx =>
      obtain ⟨front', reached, accepted⟩ := holds.init_events consistent ctx hooks
      cases taken
      exact ⟨front', reached, accepted⟩
    | start =>
      exact ⟨front, holds.step consistent rfl (fun _ _ called => by cases called) taken,
        holds.start_events consistent hooks⟩
    | stop =>
      exact ⟨front, holds.step consistent rfl (fun _ _ called => by cases called) taken,
        holds.stop_events consistent hooks⟩
    | fini =>
      cases taken
      exact ⟨[], ⟨List.nil_prefix, by simp, by simp [runPass, fini]⟩,
        holds.fini_events consistent hooks⟩

/-- The scopes that are open after a run are those of the active modules. -/
theorem run_hookTrace {past : List (ModuleManager ModuleBase × ManagerCall String Hooks)}
    (run : Run step new past mgr) :
    Consistent mgr ∧ ∃ front, mgr.ActivePrefix front ∧
      Scopes.accept [] (hookTrace past) = some front.reverse := by
  refine run.invariant_past (fun past mgr => Consistent mgr ∧ ∃ front, mgr.ActivePrefix front ∧
    Scopes.accept [] (hookTrace past) = some front.reverse) ?_ ?_
  · exact ⟨consistent_of_empty .empty fun _ => rfl, [], ⟨List.nil_prefix, nofun, nofun⟩, rfl⟩
  · rintro past mgr call mgr' - ⟨consistent, front, holds, accepted⟩ taken
    obtain ⟨front', reached, events⟩ := holds.events consistent taken
    exact ⟨consistent.step taken, front', reached, Scopes.accept_of_append accepted events⟩

/-- The hooks of a life are nested: what the stack of scopes is at any time, and how each scope
ends. -/
structure HooksNested (past : List (ModuleManager ModuleBase × ManagerCall String Hooks))
    (mgr : ModuleManager ModuleBase) (finiHooks : String → Hooks) : Prop where
  /-- So far the open scopes are those of the active modules, which come first in load order. -/
  scopes : ∃ front, mgr.ActivePrefix front ∧ Scopes.accept [] (hookTrace past) = some front.reverse
  /-- The destructor closes them all. -/
  closed : Scopes.accept [] (lifetimeTrace past finiHooks mgr) = some []
  /-- A module that was initialised is finalised after all that were initialised later. -/
  matched : Scopes.Matched (lifetimeTrace past finiHooks mgr)
  /-- It is finalised as often as it was initialised. -/
  balanced : ∀ name, (lifetimeTrace past finiHooks mgr).count (.opened name) =
    (lifetimeTrace past finiHooks mgr).count (.closed name)

/-- From construction to destruction the hooks of the modules are nested, whatever is loaded,
whatever passes are made and whatever hooks fail. -/
theorem hooks_nested {past : List (ModuleManager ModuleBase × ManagerCall String Hooks)}
    (run : Run step new past mgr) (finiHooks : String → Hooks) :
    HooksNested past mgr finiHooks := by
  obtain ⟨consistent, front, holds, accepted⟩ := run_hookTrace run
  have closed : Scopes.accept [] (lifetimeTrace past finiHooks mgr) = some [] :=
    Scopes.accept_of_append accepted (holds.fini_events consistent finiHooks)
  refine ⟨⟨front, holds, accepted⟩, closed, Scopes.matched_of_accept closed, ?_⟩
  intro name
  simpa using Scopes.accept_count closed name

/-- Two modules are initialised, the second does not start, and the manager is destroyed. -/
theorem hooks_nested_partlyStarted :
    ∃ past, hookTrace past = [.opened "first", .opened "second", .used "first", .used "second"] ∧
      partlyStarted.scopeEvents (.pass .fini fun _ => ⟨.ok (), .ok (), .ok (), .ok ()⟩) =
        [.closed "second", .used "first", .closed "first"] ∧
      HooksNested past partlyStarted fun _ => ⟨.ok (), .ok (), .ok (), .ok ()⟩ := by
  have run : Run step new _ partlyStarted :=
    (((Run.nil.snoc (l := .loadModule noFiles (fun _ => busPlugin 1) "first" "/lib/bus.so")
      rfl).snoc
      (l := .loadModule noFiles (fun _ => busPlugin 2) "second" "/lib/bus.so") rfl).snoc
      (l := .pass (.init 0) fun _ => ⟨.ok (), .ok (), .ok (), .ok ()⟩) rfl).snoc
      (l := .pass .start fun name => ⟨.ok (),
        if name = "second" then .error ⟨.notFound, "no broker"⟩ else .ok (), .ok (), .ok ()⟩) rfl
  exact ⟨_, by decide, by decide, hooks_nested run _⟩

end ModuleManager

end ModuleContext.Framework
