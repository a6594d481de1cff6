import ModuleContext.Framework.Finalisation

/-!
# Stopping and starting again

After a `Start` that failed half way some modules are started and others are not. `Stop` stops
the started ones, reports the others as an error, and leaves a manager that `Start` can start.
-/

namespace ModuleContext.Framework
open Foundation Misc

namespace ModuleManager

variable {mgr : ModuleManager ModuleBase}

/-- Every loaded module is inited, started or stopped. -/
def AllActive (mgr : ModuleManager ModuleBase) : Prop :=
  ∀ name ∈ mgr.moduleOrder,
    ∃ state, mgr.stateOf name = some state ∧ ModuleBase.isActive state = true

/-- Every loaded module is inited or stopped. -/
def AllReady (mgr : ModuleManager ModuleBase) : Prop :=
  ∀ name ∈ mgr.moduleOrder, mgr.stateOf name = some .inited ∨ mgr.stateOf name = some .stopped

def AllStarted (mgr : ModuleManager ModuleBase) : Prop :=
  ∀ name ∈ mgr.moduleOrder, mgr.stateOf name = some .started

/-- Every hook that a pass ran has succeeded. -/
def HooksSucceed (operation : Operation) (pass : PassResult ModuleBase Hooks) : Prop :=
  ∀ ran ∈ pass.hooksRun operation, ran.2.2 = .ok ()

theorem HooksSucceed.at_visit {operation : Operation} {pass : PassResult ModuleBase Hooks}
    (succeed : HooksSucceed operation pass) {visit : Visit ModuleBase Hooks}
    (member : visit ∈ pass.visits) : ∀ call ∈ visit.hookCalls operation, call.result = .ok () := by
  intro call ran
  exact succeed (visit.name, call.hook, call.result)
    (List.mem_flatMap.mpr ⟨visit, member, List.mem_map.mpr ⟨call, ran, rfl⟩⟩)

/-! ## One visit -/

/-- The visit of a started module in `Stop`, if its hook succeeds. -/
theorem stop_visit_started {visit : Visit ModuleBase Hooks}
    (running : visit.instance'.module.state = .started)
    (succeeds : ∀ call ∈ visit.hookCalls .stop, call.result = .ok ()) :
    visit.hookCalls .stop = [⟨.onStop, visit.instance'.module, .ok ()⟩] ∧
      visit.result .stop = .ok () ∧ (visit.after .stop).module.state = .stopped := by
  have stop := ModuleBase.stop_of_started running visit.hooks
  have ran : (visit.hookCalls .stop) = [⟨.onStop, visit.instance'.module, visit.hooks.onStop⟩] := by
    show (visit.instance'.module.stop visit.hooks).calls = _
    rw [stop]
    cases visit.hooks.onStop <;> rfl
  have succeeded : visit.hooks.onStop = .ok () :=
    succeeds ⟨.onStop, visit.instance'.module, visit.hooks.onStop⟩ (by rw [ran]; simp)
  rw [succeeded] at stop ran
  exact ⟨ran, congrArg Outcome.result stop, congrArg (·.module.state) stop⟩

/-- The visit of a module that is not started in `Stop`. -/
theorem stop_visit_idle {visit : Visit ModuleBase Hooks}
    (idle : visit.instance'.module.state ≠ .started) :
    visit.hookCalls .stop = [] ∧
      visit.result .stop = .error (makeStateError "Stop" visit.instance'.module.moduleName
        visit.instance'.module.state) ∧
      (visit.after .stop).module.state = visit.instance'.module.state := by
  have stop := ModuleBase.stop_of_not_started idle visit.hooks
  exact ⟨congrArg Outcome.calls stop, congrArg Outcome.result stop,
    congrArg (·.module.state) stop⟩

/-- The visit of a ready module in `Start`, if its hook succeeds. -/
theorem start_visit_ready {visit : Visit ModuleBase Hooks}
    (ready : visit.instance'.module.state = .inited ∨ visit.instance'.module.state = .stopped)
    (succeeds : ∀ call ∈ visit.hookCalls .start, call.result = .ok ()) :
    visit.hookCalls .start = [⟨.onStart, visit.instance'.module, .ok ()⟩] ∧
      visit.result .start = .ok () ∧ (visit.after .start).module.state = .started := by
  have start := ModuleBase.start_of_ready ready visit.hooks
  have ran : (visit.hookCalls .start) =
      [⟨.onStart, visit.instance'.module, visit.hooks.onStart⟩] := by
    show (visit.instance'.module.start visit.hooks).calls = _
    rw [start]
    cases visit.hooks.onStart <;> rfl
  have succeeded : visit.hooks.onStart = .ok () :=
    succeeds ⟨.onStart, visit.instance'.module, visit.hooks.onStart⟩ (by rw [ran]; simp)
  rw [succeeded] at start ran
  exact ⟨ran, congrArg Outcome.result start, congrArg (·.module.state) start⟩

/-! ## The two passes -/

/-- What `Stop` does to a manager whose modules are all active, if its hooks succeed. -/
structure StopsActive (hooks : String → Hooks) (mgr : ModuleManager ModuleBase) : Prop where
  /-- `OnStop` is run on the started modules, the last loaded one first. -/
  ran : (mgr.stop hooks).hooksRun .stop =
    (mgr.moduleOrder.reverse.filter fun name => mgr.stateOf name = some .started).map
      (·, .onStop, .ok ())
  order : (mgr.stop hooks).manager.moduleOrder = mgr.moduleOrder
  ready : (mgr.stop hooks).manager.AllReady
  result : (mgr.stop hooks).result = .ok () ↔ mgr.AllStarted
  /-- A module that was not started is reported, although nothing runs any more. -/
  refused : ∀ e, (mgr.stop hooks).result = .error e → e.code = .invalidState

/-- What `Start` does to a manager whose modules are all ready, if its hooks succeed. -/
structure StartsReady (hooks : String → Hooks) (mgr : ModuleManager ModuleBase) : Prop where
  ran : (mgr.start hooks).hooksRun .start = mgr.moduleOrder.map (·, .onStart, .ok ())
  result : (mgr.start hooks).result = .ok ()
  order : (mgr.start hooks).manager.moduleOrder = mgr.moduleOrder
  started : (mgr.start hooks).manager.AllStarted

/-- The state of a module that a pass found is the one it has at the beginning. -/
theorem stateOf_visit {operation : Operation} {hooks : String → Hooks}
    {final : ModuleManager ModuleBase} {names : List String}
    {visits : List (Visit ModuleBase Hooks)}
    (walk : Traversal operation hooks mgr names visits final) (distinct : names.Nodup)
    {visit : Visit ModuleBase Hooks} (member : visit ∈ visits) :
    mgr.stateOf visit.name = some visit.instance'.module.state ∧
      final.stateOf visit.name = some (visit.after operation).module.state := by
  obtain ⟨_, before, after⟩ := walk.called distinct visit member
  exact ⟨stateOf_of_held before, stateOf_of_held after⟩

theorem start_starts (consistent : Consistent mgr) (ready : mgr.AllReady)
    {hooks : String → Hooks} (succeed : HooksSucceed .start (mgr.start hooks)) :
    mgr.StartsReady hooks := by
  have walk := start_walk consistent hooks
  have listed : ∀ visit ∈ (mgr.start hooks).visits, visit.name ∈ mgr.moduleOrder := by
    intro visit member
    exact walk.names_prefix.subset (List.mem_map_of_mem member)
  have started : ∀ visit ∈ (mgr.start hooks).visits,
      visit.hookCalls .start = [⟨.onStart, visit.instance'.module, .ok ()⟩] ∧
        visit.result .start = .ok () ∧ (visit.after .start).module.state = .started := by
    intro visit member
    have state := (stateOf_visit walk consistent.distinct member).1
    have readyHere := ready visit.name (listed visit member)
    rw [state, Option.some.injEq, Option.some.injEq] at readyHere
    exact start_visit_ready readyHere (succeed.at_visit member)
  obtain ⟨_, _, whole, failing⟩ := @forwardPass_spec _ _ _ _ .start hooks _ _ consistent.valid
  have succeeded : isOk (mgr.start hooks).result = true := by
    by_contra failed
    obtain ⟨before, visit, split, bad⟩ := failing (Bool.not_eq_true _ ▸ failed)
    have member : visit ∈ (mgr.start hooks).visits := by
      rw [show (mgr.start hooks).visits = _ from split]
      simp
    rw [(started visit member).2.1] at bad
    cases bad
  have covered := (whole succeeded).1
  refine ⟨?_, ?_, walk.sameModules.order, ?_⟩
  · rw [PassResult.hooksRun, ← covered, List.map_map, List.map_eq_flatMap]
    refine List.flatMap_congr fun visit member => ?_
    rw [(started visit member).1]
    rfl
  · cases result : (mgr.start hooks).result with
    | error e => rw [result] at succeeded; cases succeeded
    | ok _ => rfl
  · intro name member
    rw [walk.sameModules.order, ← covered] at member
    obtain ⟨visit, visited, rfl⟩ := List.mem_map.mp member
    rw [(stateOf_visit walk consistent.distinct visited).2, (started visit visited).2.2]

/-- What `Stop` reports of a module: an error exactly if it is not started. -/
theorem stop_visit_failure {visit : Visit ModuleBase Hooks}
    (succeeds : ∀ call ∈ visit.hookCalls .stop, call.result = .ok ()) :
    (visit.failure .stop = none ↔ visit.instance'.module.state = .started) ∧
      ∀ e, visit.failure .stop = some e → e.code = .invalidState := by
  by_cases running : visit.instance'.module.state = .started
  · have result := (stop_visit_started running succeeds).2.1
    simp only [Visit.failure, result, running, reduceCtorEq, false_implies, implies_true, and_self]
  · have result := (stop_visit_idle running).2.1
    simp only [Visit.failure, result, running, reduceCtorEq, Option.some.injEq, true_and]
    rintro e rfl
    rfl

/-- `Stop` covers the loaded modules, each in the state that it has at the beginning. -/
theorem stop_visits (consistent : Consistent mgr) (hooks : String → Hooks) :
    (mgr.stop hooks).visits.map (·.name) = mgr.moduleOrder.reverse ∧
      ∀ visit ∈ (mgr.stop hooks).visits, visit.name ∈ mgr.moduleOrder ∧
        mgr.stateOf visit.name = some visit.instance'.module.state ∧
        (mgr.stop hooks).manager.stateOf visit.name = some (visit.after .stop).module.state := by
  have covered : (mgr.stop hooks).visits.map (·.name) = mgr.moduleOrder.reverse :=
    (reversePass_spec hooks makeSuccess
      fun name member => consistent.valid name (List.mem_reverse.mp member)).2
  refine ⟨covered, fun visit member => ⟨?_, ?_⟩⟩
  · rw [← List.mem_reverse, ← covered]
    exact List.mem_map_of_mem member
  · exact stateOf_visit (stop_walk consistent hooks) (List.nodup_reverse.mpr consistent.distinct)
      member

theorem stop_result (consistent : Consistent mgr) {hooks : String → Hooks}
    (succeed : HooksSucceed .stop (mgr.stop hooks)) :
    ((mgr.stop hooks).result = .ok () ↔ mgr.AllStarted) ∧
      ∀ e, (mgr.stop hooks).result = .error e → e.code = .invalidState := by
  obtain ⟨covered, state⟩ := stop_visits consistent hooks
  have result := mgr.stop_first_failure hooks
  cases failure : (mgr.stop hooks).visits.findSome? (Visit.failure .stop) with
  | none =>
    have allStarted : mgr.AllStarted := by
      intro name member
      rw [← List.mem_reverse, ← covered] at member
      obtain ⟨visit, visited, rfl⟩ := List.mem_map.mp member
      have silent := List.findSome?_eq_none_iff.mp failure visit visited
      rw [(state visit visited).2.1,
        (stop_visit_failure (succeed.at_visit visited)).1.mp silent]
    have succeeded : (mgr.stop hooks).result = .ok () := by rw [result, failure]; rfl
    exact ⟨⟨fun _ => allStarted, fun _ => succeeded⟩, by simp [succeeded]⟩
  | some e =>
    have failed : (mgr.stop hooks).result = .error e := by rw [result, failure]; rfl
    obtain ⟨visit, visited, reported⟩ := List.exists_of_findSome?_eq_some failure
    obtain ⟨silent, code⟩ := stop_visit_failure (succeed.at_visit visited)
    refine ⟨⟨by simp [failed], ?_⟩, ?_⟩
    · intro allStarted
      have running := allStarted visit.name (state visit visited).1
      rw [(state visit visited).2.1, Option.some.injEq, ← silent, reported] at running
      cases running
    · intro e' same
      rw [failed, Except.error.injEq] at same
      exact code e' (same ▸ reported)

theorem map_filter_eq_flatMap {α β : Type} (p : α → Bool) (f : α → β) (xs : List α) :
    (xs.filter p).map f = xs.flatMap fun x => if p x then [f x] else [] := by
  induction xs with
  | nil => rfl
  | cons x xs ih =>
    rw [List.flatMap_cons, ← ih]
    cases here : p x <;> simp [here]

theorem stop_stops (consistent : Consistent mgr) (active : mgr.AllActive)
    {hooks : String → Hooks} (succeed : HooksSucceed .stop (mgr.stop hooks)) :
    mgr.StopsActive hooks := by
  obtain ⟨covered, state⟩ := stop_visits consistent hooks
  have order := (stop_walk consistent hooks).sameModules.order
  obtain ⟨result, refused⟩ := stop_result consistent succeed
  refine ⟨?_, order, ?_, result, refused⟩
  · rw [PassResult.hooksRun, ← covered, List.filter_map, List.map_map, map_filter_eq_flatMap]
    refine List.flatMap_congr fun visit member => ?_
    simp only [Function.comp_apply, (state visit member).2.1, Option.some.injEq,
      decide_eq_true_eq]
    split
    · rename_i running
      rw [(stop_visit_started running (succeed.at_visit member)).1]
      rfl
    · rename_i idle
      rw [(stop_visit_idle idle).1]
      rfl
  · intro name member
    rw [order, ← List.mem_reverse, ← covered] at member
    obtain ⟨visit, visited, rfl⟩ := List.mem_map.mp member
    obtain ⟨listed, before, after⟩ := state visit visited
    rw [after, Option.some.injEq, Option.some.injEq]
    by_cases running : visit.instance'.module.state = .started
    · exact Or.inr (stop_visit_started running (succeed.at_visit visited)).2.2
    · rw [(stop_visit_idle running).2.2]
      obtain ⟨state, here, isActive⟩ := active visit.name listed
      rw [before, Option.some.injEq] at here
      subst here
      cases state : visit.instance'.module.state <;> simp_all [ModuleBase.isActive]

/-- A `Start` that fails at any position leaves every module active. -/
theorem AllActive.start (active : mgr.AllActive) (consistent : Consistent mgr)
    (hooks : String → Hooks) : (mgr.start hooks).manager.AllActive := by
  have whole : mgr.ActivePrefix mgr.moduleOrder :=
    ⟨List.prefix_refl _, active, fun name member absent => absurd member absent⟩
  have walk := start_walk consistent hooks
  intro name member
  rw [walk.sameModules.order] at member
  exact (whole.walked keepsActive_start walk).active name member

/-- Recovery from a partial start: if the stop hooks succeed, `Stop` stops exactly the started
modules and reports whether there were others; if then the start hooks succeed, `Start` starts
every module in load order. -/
theorem partial_start_recovers (reached : Reachable (H := Hooks) mgr) (active : mgr.AllActive)
    {stopHooks : String → Hooks} (stopped : HooksSucceed .stop (mgr.stop stopHooks)) :
    mgr.StopsActive stopHooks ∧ ∀ startHooks,
      HooksSucceed .start ((mgr.stop stopHooks).manager.start startHooks) →
        (mgr.stop stopHooks).manager.StartsReady startHooks := by
  have stops := stop_stops reached.consistent active stopped
  refine ⟨stops, fun startHooks started => ?_⟩
  obtain ⟨past, run⟩ := reached
  have reached' : Reachable (H := Hooks) (mgr.stop stopHooks).manager :=
    ⟨_, run.snoc (l := .pass .stop stopHooks) rfl⟩
  exact start_starts reached'.consistent stops.ready started

/-- `Stop` after the partial start of two modules runs one hook and reports the other module. -/
theorem partial_start_recovers_partlyStarted :
    let hooks : String → Hooks := fun _ => ⟨.ok (), .ok (), .ok (), .ok ()⟩
    partlyStarted.StopsActive hooks ∧
      (partlyStarted.stop hooks).hooksRun .stop = [("first", .onStop, .ok ())] ∧
      (partlyStarted.stop hooks).manager.StartsReady hooks := by
  intro hooks
  have active : partlyStarted.AllActive := by
    intro name member
    have loaded : name = "first" ∨ name = "second" := by
      simpa [show partlyStarted.moduleOrder = ["first", "second"] by decide] using member
    rcases loaded with rfl | rfl
    · exact ⟨.started, by decide, rfl⟩
    · exact ⟨.inited, by decide, rfl⟩
  have ran : (partlyStarted.stop hooks).hooksRun .stop = [("first", .onStop, .ok ())] := by decide
  have succeed : HooksSucceed .stop (partlyStarted.stop hooks) := by
    intro call member
    rw [ran, List.mem_singleton] at member
    rw [member]
  obtain ⟨stops, starts⟩ := partial_start_recovers partlyStarted_reachable active succeed
  refine ⟨stops, ran, starts hooks ?_⟩
  intro call member
  rw [show ((partlyStarted.stop hooks).manager.start hooks).hooksRun .start =
    [("first", .onStart, .ok ()), ("second", .onStart, .ok ())] by decide] at member
  rcases List.mem_cons.mp member with rfl | member
  · rfl
  · rw [List.mem_singleton.mp member]

end ModuleManager

end ModuleContext.Framework
