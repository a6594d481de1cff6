import ModuleContext.Framework.ManagerGuarantees

/-!
# Dependency order of the hooks

The order in which modules are loaded is the order in which they may depend on one another.
For modules derived from `ModuleBase` that only the manager drives, this file says in which
states a hook finds the modules loaded before and after its own.
-/

namespace ModuleContext.Framework
open Foundation Misc

namespace ModuleBase

variable {m : ModuleBase}

theorem init_succeeded {ctx : IContext} {hooks : Hooks}
    (succeeded : (m.init ctx hooks).result = .ok ()) :
    (m.init ctx hooks).module.state = .inited := by
  by_cases ready : m.state = .created ∨ m.state = .fini
  · rw [init_of_ready ready] at succeeded ⊢
    cases ran : hooks.onInit with
    | error e => simp [ran] at succeeded
    | ok _ => rfl
  · have active : isActive m.state = true := by
      cases state : m.state <;> simp_all [isActive]
    simp [init_of_active active] at succeeded

theorem start_succeeded {hooks : Hooks} (succeeded : (m.start hooks).result = .ok ()) :
    (m.start hooks).module.state = .started := by
  by_cases ready : m.state = .inited ∨ m.state = .stopped
  · rw [start_of_ready ready] at succeeded ⊢
    cases ran : hooks.onStart with
    | error e => simp [ran] at succeeded
    | ok _ => rfl
  · simp [start_of_not_ready (not_or.mp ready)] at succeeded

/-- A module stays started through `Stop` only when its own stop hook failed. -/
theorem stop_leaves_started {hooks : Hooks} (started : (m.stop hooks).module.state = .started) :
    ∃ call ∈ (m.stop hooks).calls, call.hook = .onStop ∧ isOk call.result = false := by
  by_cases running : m.state = .started
  · rw [stop_of_started running] at started ⊢
    cases ran : hooks.onStop with
    | error e => exact ⟨⟨.onStop, m, .error e⟩, List.mem_cons_self, rfl, rfl⟩
    | ok _ => simp [ran] at started
  · rw [stop_of_not_started running] at started
    exact absurd started running

theorem fini_leaves_fini (m : ModuleBase) (hooks : Hooks) :
    (m.fini hooks).module.state = .fini := by
  cases state : m.state with
  | created => rw [fini_of_created state]
  | inited => rw [fini_of_idle (Or.inl state)]
  | started => rw [fini_of_started state]
  | stopped => rw [fini_of_idle (Or.inr state)]
  | fini => rw [fini_of_fini state]; exact state

theorem hook_of_init {ctx : IContext} {hooks : Hooks} {call : HookCall}
    (ran : call ∈ (m.init ctx hooks).calls) : call.hook = .onInit := by
  by_cases ready : m.state = .created ∨ m.state = .fini
  · rw [init_of_ready ready] at ran
    cases outcome : hooks.onInit <;> simp [outcome] at ran <;> rw [ran]
  · have active : isActive m.state = true := by
      cases state : m.state <;> simp_all [isActive]
    simp [init_of_active active] at ran

theorem hook_of_start {hooks : Hooks} {call : HookCall}
    (ran : call ∈ (m.start hooks).calls) : call.hook = .onStart := by
  by_cases ready : m.state = .inited ∨ m.state = .stopped
  · rw [start_of_ready ready] at ran
    cases outcome : hooks.onStart <;> simp [outcome] at ran <;> rw [ran]
  · simp [start_of_not_ready (not_or.mp ready)] at ran

theorem hook_of_stop {hooks : Hooks} {call : HookCall}
    (ran : call ∈ (m.stop hooks).calls) : call.hook = .onStop := by
  by_cases running : m.state = .started
  · rw [stop_of_started running] at ran
    cases outcome : hooks.onStop <;> simp [outcome] at ran <;> rw [ran]
  · simp [stop_of_not_started running] at ran

theorem hook_of_fini {hooks : Hooks} {call : HookCall}
    (ran : call ∈ (m.fini hooks).calls) : call.hook = .onStop ∨ call.hook = .onFini := by
  cases state : m.state with
  | created => simp [fini_of_created state] at ran
  | inited =>
    simp only [fini_of_idle (Or.inl state), List.mem_singleton] at ran
    exact Or.inr (ran ▸ rfl)
  | started =>
    simp only [fini_of_started state, List.mem_cons, List.not_mem_nil, or_false] at ran
    rcases ran with rfl | rfl
    · exact Or.inl rfl
    · exact Or.inr rfl
  | stopped =>
    simp only [fini_of_idle (Or.inr state), List.mem_singleton] at ran
    exact Or.inr (ran ▸ rfl)
  | fini => simp [fini_of_fini state] at ran

end ModuleBase

/-- The hooks that ran while a pass called the module of a visit. -/
def Visit.hookCalls (operation : Operation) (visit : Visit ModuleBase Hooks) : List HookCall :=
  match operation with
  | .init ctx => (visit.instance'.module.init ctx visit.hooks).calls
  | .start => (visit.instance'.module.start visit.hooks).calls
  | .stop => (visit.instance'.module.stop visit.hooks).calls
  | .fini => (visit.instance'.module.fini visit.hooks).calls

namespace ModuleManager

/-- `first` was loaded before `second`. -/
def LoadedBefore (mgr : ModuleManager ModuleBase) (first second : String) : Prop :=
  [first, second].Sublist mgr.moduleOrder

def stateOf (name : String) (mgr : ModuleManager ModuleBase) : Option ModuleState :=
  (mgr.instanceOf name).map (·.module.state)

/-- In a list without repetition, what comes before the middle is in the first part. -/
theorem mem_of_precedes {first second : String} {front back : List String}
    (distinct : (front ++ second :: back).Nodup)
    (precedes : [first, second].Sublist (front ++ second :: back)) : first ∈ front := by
  induction front with
  | nil =>
    rw [List.nil_append] at distinct precedes
    have unique := (List.nodup_cons.mp distinct).1
    cases precedes with
    | cons _ inside => exact absurd (inside.subset (by simp)) unique
    | cons_cons _ inside => exact absurd (inside.subset (by simp)) unique
  | cons head front ih =>
    rw [List.cons_append] at distinct precedes
    cases precedes with
    | cons _ inside => exact List.mem_cons_of_mem _ (ih (List.nodup_cons.mp distinct).2 inside)
    | cons_cons _ _ => exact List.mem_cons_self

/-- The state in which a pass has left a module that it called before a given visit. -/
theorem stateOf_called {operation : Operation} {hooks : String → Hooks}
    {mgr final : ModuleManager ModuleBase} {names : List String}
    {visits before after : List (Visit ModuleBase Hooks)} {visit : Visit ModuleBase Hooks}
    (walk : Traversal operation hooks mgr names visits final) (distinct : names.Nodup)
    (split : visits = before ++ visit :: after) {other : String}
    (precedes : [other, visit.name].Sublist names) :
    ∃ earlier ∈ before, earlier.name = other ∧
      visit.manager.stateOf other = some (earlier.after operation).module.state := by
  obtain ⟨-, -, -, ⟨later, namesEq⟩, left, -⟩ := walk.at_visit distinct split
  rw [namesEq] at distinct precedes
  obtain ⟨earlier, member, rfl⟩ := List.mem_map.mp (mem_of_precedes distinct precedes)
  exact ⟨earlier, member, rfl, by rw [stateOf, left earlier member, Option.map_some]⟩

/-- Before a hook of a forward pass, every module loaded earlier was called with success. -/
theorem called_forward {mgr : ModuleManager ModuleBase} (consistent : Consistent mgr)
    {operation : Operation} {hooks : String → Hooks}
    {before after : List (Visit ModuleBase Hooks)} {visit : Visit ModuleBase Hooks}
    (split : (forwardPass operation hooks mgr.moduleOrder mgr).visits = before ++ visit :: after)
    {other : String} (precedes : mgr.LoadedBefore other visit.name) :
    ∃ earlier ∈ before, earlier.name = other ∧ earlier.result operation = .ok () ∧
      visit.manager.stateOf other = some (earlier.after operation).module.state := by
  obtain ⟨walk, earlierOk, -, -⟩ := forwardPass_spec hooks consistent.valid
  obtain ⟨earlier, member, named, state⟩ :=
    stateOf_called walk consistent.distinct split precedes
  exact ⟨earlier, member, named, earlierOk before visit after split earlier member, state⟩

/-- Before a hook of a backward pass, every module loaded later was called. -/
theorem called_backward {mgr : ModuleManager ModuleBase} (consistent : Consistent mgr)
    {operation : Operation} {hooks : String → Hooks}
    {before after : List (Visit ModuleBase Hooks)} {visit : Visit ModuleBase Hooks}
    (split : (reversePass operation hooks mgr.moduleOrder.reverse makeSuccess mgr).visits =
      before ++ visit :: after)
    {other : String} (precedes : mgr.LoadedBefore visit.name other) :
    ∃ earlier ∈ before, earlier.name = other ∧
      visit.manager.stateOf other = some (earlier.after operation).module.state := by
  have validReverse : AllValid mgr.moduleOrder.reverse mgr :=
    fun name member => consistent.valid name (List.mem_reverse.mp member)
  exact stateOf_called (reversePass_spec hooks makeSuccess validReverse).1
    (List.nodup_reverse.mpr consistent.distinct) split precedes.reverse

/-- Dependency order. An init hook finds every module loaded earlier inited and a start hook
finds them started; a fini hook finds every module loaded later finalised by the same pass;
a stop hook finds none of those started, except one whose own stop hook failed in the same
`Stop`. -/
theorem dependency_order {mgr : ModuleManager ModuleBase}
    (reached : Reachable (H := Hooks) mgr) (operation : Operation) (hooks : String → Hooks)
    {before after : List (Visit ModuleBase Hooks)} {visit : Visit ModuleBase Hooks}
    (split : (mgr.runPass operation hooks).visits = before ++ visit :: after)
    {call : HookCall} (ran : call ∈ visit.hookCalls operation) :
    (call.hook = .onInit → ∀ other, mgr.LoadedBefore other visit.name →
      visit.manager.stateOf other = some .inited) ∧
    (call.hook = .onStart → ∀ other, mgr.LoadedBefore other visit.name →
      visit.manager.stateOf other = some .started) ∧
    (call.hook = .onFini → ∀ other, mgr.LoadedBefore visit.name other →
      operation = .fini ∧ other ∈ before.map (·.name) ∧
        visit.manager.stateOf other = some .fini) ∧
    (call.hook = .onStop → ∀ other, mgr.LoadedBefore visit.name other →
      visit.manager.stateOf other ≠ some .started ∨
        operation = .stop ∧ ∃ earlier ∈ before, earlier.name = other ∧
          ∃ failed ∈ earlier.hookCalls operation,
            failed.hook = .onStop ∧ isOk failed.result = false) := by
  have consistent := reached.consistent
  have otherHook {kind other : Hook} {conclusion : Prop} (hook : call.hook = kind)
      (differs : kind ≠ other) : call.hook = other → conclusion := by
    intro same
    exact absurd (hook.symm.trans same) differs
  cases operation with
  | init ctx =>
    have hook := ModuleBase.hook_of_init ran
    refine ⟨?_, ?_, ?_, ?_⟩
    · intro _ other precedes
      obtain ⟨earlier, -, -, succeeded, state⟩ := called_forward consistent split precedes
      rw [state]
      exact congrArg some (ModuleBase.init_succeeded succeeded)
    all_goals exact otherHook hook (by decide)
  | start =>
    have hook := ModuleBase.hook_of_start ran
    refine ⟨?_, ?_, ?_, ?_⟩
    · exact otherHook hook (by decide)
    · intro _ other precedes
      obtain ⟨earlier, -, -, succeeded, state⟩ := called_forward consistent split precedes
      rw [state]
      exact congrArg some (ModuleBase.start_succeeded succeeded)
    all_goals exact otherHook hook (by decide)
  | stop =>
    have hook := ModuleBase.hook_of_stop ran
    refine ⟨?_, ?_, ?_, ?_⟩
    · exact otherHook hook (by decide)
    · exact otherHook hook (by decide)
    · exact otherHook hook (by decide)
    · intro _ other precedes
      obtain ⟨earlier, member, named, state⟩ := called_backward consistent split precedes
      by_cases started : (earlier.after .stop).module.state = .started
      · right
        exact ⟨rfl, earlier, member, named, ModuleBase.stop_leaves_started started⟩
      · left
        rw [state]
        intro same
        exact started (Option.some.inj same)
  | fini =>
    have finalised : ∀ other, mgr.LoadedBefore visit.name other →
        other ∈ before.map (·.name) ∧ visit.manager.stateOf other = some .fini := by
      intro other precedes
      obtain ⟨earlier, member, named, state⟩ := called_backward consistent split precedes
      refine ⟨named ▸ List.mem_map_of_mem member, ?_⟩
      rw [state]
      exact congrArg some (ModuleBase.fini_leaves_fini _ _)
    have hook := ModuleBase.hook_of_fini ran
    refine ⟨?_, ?_, ?_, ?_⟩
    · intro wrong
      rw [wrong] at hook
      rcases hook with hook | hook <;> cases hook
    · intro wrong
      rw [wrong] at hook
      rcases hook with hook | hook <;> cases hook
    · intro _ other precedes
      exact ⟨rfl, finalised other precedes⟩
    · intro _ other precedes
      left
      rw [(finalised other precedes).2]
      decide

/-- The second of two modules is initialised when the first one is. -/
theorem twoBuses_dependency_order :
    let hooks : Hooks := ⟨.ok (), .ok (), .ok (), .ok ()⟩
    let visits := (twoBuses.runPass (.init 7) fun _ => hooks).visits
    ∃ visit, visits.getLast? = some visit ∧ visit.name = "second" ∧
      visit.manager.stateOf "first" = some .inited := by
  intro hooks visits
  refine ⟨visits.getLast (by decide), rfl, by decide, ?_⟩
  have split : visits = visits.take 1 ++ visits.getLast (by decide) :: [] := rfl
  exact (dependency_order twoBuses_reachable (.init 7) (fun _ => hooks) split
    List.mem_cons_self).1 rfl "first" (List.Sublist.refl _)

end ModuleManager

end ModuleContext.Framework
