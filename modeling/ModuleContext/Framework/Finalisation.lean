import ModuleContext.Framework.ActivePrefix

/-!
# Finalisation

`Fini` of the manager calls every module in reverse load order and goes on after a failure.
This file says which hooks it runs, what it returns, and that it leaves a new manager.
-/

namespace ModuleContext.Framework
open Foundation Misc

/-- The error of a hook that has failed. -/
def errorOf : Result Unit → Option Error
  | .error e => some e
  | .ok () => none

theorem errorOf_elim (failure : Option Error) :
    errorOf (failure.elim (.ok ()) .error) = failure := by
  cases failure <;> rfl

namespace ModuleBase

/-- The hooks that `Fini` owes a module in each state, with what they return. -/
def finiHooks (hooks : Hooks) : ModuleState → List (Hook × Result Unit)
  | .created | .fini => []
  | .inited | .stopped => [(.onFini, hooks.onFini)]
  | .started => [(.onStop, hooks.onStop), (.onFini, hooks.onFini)]

theorem fini_calls (m : ModuleBase) (hooks : Hooks) :
    (m.fini hooks).calls.map (fun call => (call.hook, call.result)) =
      finiHooks hooks m.state := by
  cases state : m.state with
  | created => rw [fini_of_created state]; rfl
  | inited => rw [fini_of_idle (Or.inl state)]; rfl
  | started => rw [fini_of_started state]; rfl
  | stopped => rw [fini_of_idle (Or.inr state)]; rfl
  | fini => rw [fini_of_fini state]; rfl

/-- `Fini` of a module returns the error of the first hook that fails, the stop hook first. -/
theorem fini_error {m : ModuleBase} (unfinished : m.state ≠ .fini) (hooks : Hooks) :
    errorOf (m.fini hooks).result =
      ((finiHooks hooks m.state).findSome? fun ran => errorOf ran.2).map
        (prefixHookError "Fini" m.moduleName) := by
  cases state : m.state with
  | created => rw [fini_of_created state]; rfl
  | inited =>
    rw [fini_of_idle (Or.inl state)]
    cases onFini : hooks.onFini <;> simp [finiHooks, errorOf, onFini]
  | started =>
    rw [fini_of_started state]
    cases onStop : hooks.onStop <;> cases onFini : hooks.onFini <;>
      simp [finiHooks, errorOf, onStop, onFini]
  | stopped =>
    rw [fini_of_idle (Or.inr state)]
    cases onFini : hooks.onFini <;> simp [finiHooks, errorOf, onFini]
  | fini => exact absurd state unfinished

end ModuleBase

/-- The hooks that a pass ran on each module, in order, with what they returned. -/
def PassResult.hooksRun (operation : Operation) (pass : PassResult ModuleBase Hooks) :
    List (String × Hook × Result Unit) :=
  pass.visits.flatMap fun visit =>
    (visit.hookCalls operation).map fun call => (visit.name, call.hook, call.result)

namespace ModuleManager

variable {mgr : ModuleManager ModuleBase}

/-- The hooks that `Fini` owes the loaded modules, module by module in reverse load order. -/
def finiHooks (hooks : String → Hooks) (mgr : ModuleManager ModuleBase) :
    List (String × Hook × Result Unit) :=
  mgr.moduleOrder.reverse.flatMap fun name =>
    match mgr.stateOf name with
    | none => []
    | some state => (ModuleBase.finiHooks (hooks name) state).map (name, ·)

/-- The manager returns the code of the hook, and its message behind the module and the two
operations. -/
theorem prefixModuleError_prefixHookError (name : String) (e : Error) :
    prefixModuleError "Fini" name (prefixHookError "Fini" name e) =
      ⟨e.code, "ModuleManager::Fini failed for module '" ++ name ++
        "': ModuleBase::Fini failed for module '" ++ name ++ "': " ++ e.message⟩ := by
  have nonempty : (prefixHookError "Fini" name e).message ≠ "" := by
    simp [prefixHookError, String.append_eq_empty_iff]
  have manager : "ModuleManager::" ++ "Fini" ++ " failed for module '" =
      "ModuleManager::Fini failed for module '" := by decide
  have base : "'" ++ (": " ++ ("ModuleBase::" ++ ("Fini" ++ " failed for module '"))) =
      "': ModuleBase::Fini failed for module '" := by decide
  rw [prefixModuleError, buildMessage, if_neg (mt String.isEmpty_iff.mp nonempty)]
  simp only [prefixHookError, ← manager, ← base, String.append_assoc]

/-- What one `Fini` of the manager does. -/
structure Finalises (hooks : String → Hooks) (mgr : ModuleManager ModuleBase) : Prop where
  /-- It runs the hooks that are owed, each once and in order, whether they fail or not. -/
  ran : (mgr.fini hooks).hooksRun .fini = mgr.finiHooks hooks
  /-- It returns the error of the first of them that fails, with the module and the two operations
  named in front of its message; it succeeds when none fails. -/
  result : errorOf (mgr.fini hooks).result =
    (mgr.finiHooks hooks).findSome? fun ran => (errorOf ran.2.2).map fun e =>
      ⟨e.code, "ModuleManager::Fini failed for module '" ++ ran.1 ++
        "': ModuleBase::Fini failed for module '" ++ ran.1 ++ "': " ++ e.message⟩
  emptied : (mgr.fini hooks).manager = new
  again : ∀ hooks', ((mgr.fini hooks).manager.fini hooks').visits = [] ∧
    ((mgr.fini hooks).manager.fini hooks').result = .ok ()

theorem fini_walk (consistent : Consistent mgr) (hooks : String → Hooks) :
    ∃ final, Traversal .fini hooks mgr mgr.moduleOrder.reverse (mgr.fini hooks).visits final ∧
      (mgr.fini hooks).visits.map (·.name) = mgr.moduleOrder.reverse :=
  ⟨_, reversePass_spec hooks makeSuccess
    fun name member => consistent.valid name (List.mem_reverse.mp member)⟩

/-- A loaded module is not in the state that `Fini` leaves. -/
theorem ActivePrefix.unfinished {front : List String} (holds : mgr.ActivePrefix front)
    {name : String} (listed : name ∈ mgr.moduleOrder) : mgr.stateOf name ≠ some .fini := by
  intro finished
  by_cases member : name ∈ front
  · obtain ⟨state, here, active⟩ := holds.active name member
    rw [finished, Option.some.injEq] at here
    subst here
    cases active
  · rw [holds.created name listed member] at finished
    cases finished

/-- The first result in a list of lists is the first one of the first list that has one. -/
theorem findSome?_flatMap {α β γ : Type} (f : β → Option γ) (g : α → List β) (xs : List α) :
    (xs.flatMap g).findSome? f = xs.findSome? fun x => (g x).findSome? f := by
  induction xs with
  | nil => rfl
  | cons x xs ih =>
    rw [List.flatMap_cons, List.findSome?_append, ih, List.findSome?_cons]
    cases (g x).findSome? f <;> rfl

theorem findSome?_congr {α β : Type} {f g : α → Option β} {xs : List α}
    (same : ∀ x ∈ xs, f x = g x) : xs.findSome? f = xs.findSome? g := by
  induction xs with
  | nil => rfl
  | cons x xs ih =>
    rw [List.findSome?_cons, List.findSome?_cons, same x List.mem_cons_self,
      ih fun y member => same y (List.mem_cons_of_mem x member)]

/-- What the visit of a module in `Fini` runs. -/
theorem fini_visit_ran {visit : Visit ModuleBase Hooks}
    (held : mgr.instanceOf visit.name = some visit.instance') :
    ((visit.hookCalls .fini).map fun call => (visit.name, call.hook, call.result)) =
      match mgr.stateOf visit.name with
      | none => []
      | some state => (ModuleBase.finiHooks visit.hooks state).map (visit.name, ·) := by
  simp only [stateOf_of_held held, ← ModuleBase.fini_calls visit.instance'.module visit.hooks,
    List.map_map]
  rfl

/-- What the visit of a module in `Fini` fails with. -/
theorem fini_visit_failure {visit : Visit ModuleBase Hooks}
    (held : mgr.instanceOf visit.name = some visit.instance')
    (unfinished : mgr.stateOf visit.name ≠ some .fini)
    (named : visit.instance'.module.moduleName = visit.name) :
    visit.failure .fini =
      ((visit.hookCalls .fini).map fun call => (visit.name, call.hook, call.result)).findSome?
        fun ran => (errorOf ran.2.2).map fun e =>
          prefixModuleError "Fini" ran.1 (prefixHookError "Fini" ran.1 e) := by
  rw [stateOf_of_held held, ne_eq, Option.some.injEq] at unfinished
  have error := ModuleBase.fini_error unfinished visit.hooks
  have calls := ModuleBase.fini_calls visit.instance'.module visit.hooks
  calc visit.failure .fini
      = (errorOf (visit.instance'.module.fini visit.hooks).result).map
          (prefixModuleError "Fini" visit.name) := by
        show (match (visit.instance'.module.fini visit.hooks).result with
          | .error e => some (prefixModuleError "Fini" visit.name e)
          | .ok () => none) = _
        cases (visit.instance'.module.fini visit.hooks).result <;> rfl
    _ = ((visit.hookCalls .fini).findSome? fun call => errorOf call.result).map
          (fun e => prefixModuleError "Fini" visit.name
            (prefixHookError "Fini" visit.name e)) := by
        rw [error, named, ← calls, List.findSome?_map, Option.map_map]
        rfl
    _ = _ := by
        rw [List.findSome?_map, List.map_findSome?]
        rfl

/-- Every loaded module is finalised by its hooks in reverse load order; the first error is
returned, and the manager is as a new one afterwards. -/
theorem fini_finalises (reached : Reachable (H := Hooks) mgr) (hooks : String → Hooks) :
    mgr.Finalises hooks := by
  have consistent := reached.consistent
  obtain ⟨front, holds⟩ := reached.activePrefix
  obtain ⟨final, walk, covered⟩ := fini_walk consistent hooks
  have called := walk.called (List.nodup_reverse.mpr consistent.distinct)
  have ran : (mgr.fini hooks).hooksRun .fini = mgr.finiHooks hooks := by
    rw [finiHooks, ← covered, List.flatMap_map]
    refine List.flatMap_congr fun visit member => ?_
    obtain ⟨hooksEq, held, _⟩ := called visit member
    rw [fini_visit_ran held, hooksEq]
  have firstFailure : (mgr.fini hooks).visits.findSome? (Visit.failure .fini) =
      (mgr.finiHooks hooks).findSome? fun ran => (errorOf ran.2.2).map fun e =>
        prefixModuleError "Fini" ran.1 (prefixHookError "Fini" ran.1 e) := by
    rw [← ran, PassResult.hooksRun, findSome?_flatMap]
    refine findSome?_congr fun visit member => ?_
    obtain ⟨_, held, _⟩ := called visit member
    have listed := consistent.mem_order held
    exact fini_visit_failure held (holds.unfinished listed) (reached.reportsNames _ _ held)
  refine ⟨ran, ?_, rfl, fun _ => ⟨rfl, rfl⟩⟩
  simp only [← prefixModuleError_prefixHookError]
  rw [← firstFailure, mgr.fini_first_failure hooks]
  exact errorOf_elim _

/-- Two modules, of which the second one does not start. -/
def partlyStarted : ModuleManager ModuleBase :=
  let noBroker : Error := ⟨.notFound, "no broker"⟩
  let inited := (twoBuses.init 0 fun _ => ⟨.ok (), .ok (), .ok (), .ok ()⟩).manager
  (inited.start fun name =>
    ⟨.ok (), if name = "second" then .error noBroker else .ok (), .ok (), .ok ()⟩).manager

theorem partlyStarted_reachable : Reachable (H := Hooks) partlyStarted := by
  obtain ⟨past, run⟩ := twoBuses_reachable
  exact ⟨_, (run.snoc (l := .pass (.init 0) fun _ => ⟨.ok (), .ok (), .ok (), .ok ()⟩)
    rfl).snoc (l := .pass .start fun name => ⟨.ok (),
      if name = "second" then .error ⟨.notFound, "no broker"⟩ else .ok (), .ok (), .ok ()⟩) rfl⟩

/-- Every hook fails; the two that are owed to the started module run all the same. -/
theorem fini_finalises_partlyStarted :
    let busy : Result Unit := .error ⟨.operationFailed, "busy"⟩
    partlyStarted.finiHooks (fun _ => ⟨busy, busy, busy, busy⟩) =
        [("second", .onFini, busy), ("first", .onStop, busy), ("first", .onFini, busy)] ∧
      partlyStarted.Finalises fun _ => ⟨busy, busy, busy, busy⟩ :=
  ⟨by decide, fini_finalises partlyStarted_reachable _⟩

end ModuleManager

end ModuleContext.Framework
