import ModuleContext.Framework.ModuleManager

/-!
# What a lifecycle pass does to the manager

Both loops of the manager walk a list of names and replace, one after the other, the module
objects they call. `Traversal` records such a walk; the two loops are walks as long as every
name has a valid handle, and nothing but the module objects changes in them.
-/

namespace ModuleContext.Framework
open Foundation Misc

variable {M P H : Type} [IModule M P H]

namespace ModuleManager

/-- The object under a name, if the manager holds a valid handle for it. -/
def instanceOf (name : String) (mgr : ModuleManager M) : Option (Instance M) :=
  (mgr.modulesByName.lookup name).join

theorem instanceOf_eq_some {name : String} {mgr : ModuleManager M} {inst : Instance M} :
    mgr.instanceOf name = some inst ↔ mgr.modulesByName.lookup name = some (some inst) := by
  unfold instanceOf
  exact Option.join_eq_some_iff

@[simp] theorem instanceOf_setModule_self (name : String) (inst : Instance M) (module : M)
    (mgr : ModuleManager M) :
    (mgr.setModule name inst module).instanceOf name = some { inst with module } := by
  simp [instanceOf, setModule]

theorem instanceOf_setModule_ne {name other : String} (different : other ≠ name)
    (inst : Instance M) (module : M) (mgr : ModuleManager M) :
    (mgr.setModule name inst module).instanceOf other = mgr.instanceOf other := by
  simp only [instanceOf, setModule, AList.lookup_insert_ne different]

/-- Two managers with the same objects under the same names, in whatever state these are. -/
structure SameModules (a b : ModuleManager M) : Prop where
  order : b.moduleOrder = a.moduleOrder
  configs : b.configsByName = a.configsByName
  registry : b.serviceRegistry = a.serviceRegistry
  keys : ∀ name, name ∈ b.modulesByName ↔ name ∈ a.modulesByName
  refs : ∀ name, (b.instanceOf name).map (·.ref) = (a.instanceOf name).map (·.ref)

theorem SameModules.refl (mgr : ModuleManager M) : SameModules mgr mgr :=
  ⟨rfl, rfl, rfl, fun _ => Iff.rfl, fun _ => rfl⟩

theorem SameModules.trans {a b c : ModuleManager M} (first : SameModules a b)
    (second : SameModules b c) : SameModules a c :=
  ⟨second.order.trans first.order, second.configs.trans first.configs,
    second.registry.trans first.registry, fun name => (second.keys name).trans (first.keys name),
    fun name => (second.refs name).trans (first.refs name)⟩

theorem sameModules_setModule {name : String} {inst : Instance M} {mgr : ModuleManager M}
    (held : mgr.instanceOf name = some inst) (module : M) :
    SameModules mgr (mgr.setModule name inst module) where
  order := rfl
  configs := rfl
  registry := rfl
  keys := by
    intro other
    have present : name ∈ mgr.modulesByName :=
      StringMap.mem_iff_lookup.mpr ⟨_, instanceOf_eq_some.mp held⟩
    simp only [setModule, AList.mem_insert]
    constructor
    · rintro (rfl | member)
      · exact present
      · exact member
    · exact Or.inr
  refs := by
    intro other
    by_cases same : other = name
    · subst same
      simp [held]
    · rw [instanceOf_setModule_ne same]

end ModuleManager

/-- The module that a visit leaves behind. -/
def Visit.after (operation : Operation) (visit : Visit M H) : Instance M :=
  { visit.instance' with module := (operation.call visit.hooks visit.instance'.module).2 }

/-- What the call of a visit returned. -/
def Visit.result (operation : Operation) (visit : Visit M H) : Result Unit :=
  (operation.call visit.hooks visit.instance'.module).1

/-- A walk over `names` that called the modules of `visits` and may have stopped early. -/
inductive Traversal (operation : Operation) (hooks : String → H) :
    ModuleManager M → List String → List (Visit M H) → ModuleManager M → Prop where
  | done (mgr : ModuleManager M) (names : List String) : Traversal operation hooks mgr names [] mgr
  | visit {mgr final : ModuleManager M} {name : String} {rest : List String}
      {inst : Instance M} {visits : List (Visit M H)} :
      mgr.instanceOf name = some inst →
      Traversal operation hooks
        (mgr.setModule name inst (operation.call (hooks name) inst.module).2) rest visits final →
      Traversal operation hooks mgr (name :: rest) (⟨mgr, name, inst, hooks name⟩ :: visits) final

namespace Traversal

variable {operation : Operation} {hooks : String → H} {mgr final : ModuleManager M}
  {names : List String} {visits : List (Visit M H)}

theorem sameModules (walk : Traversal operation hooks mgr names visits final) :
    ModuleManager.SameModules mgr final := by
  induction walk with
  | done mgr names => exact .refl mgr
  | visit held _ ih => exact (ModuleManager.sameModules_setModule held _).trans ih

/-- The modules called are those of an initial part of the list, in order. -/
theorem names_prefix (walk : Traversal operation hooks mgr names visits final) :
    visits.map (·.name) <+: names := by
  induction walk with
  | done mgr names => exact List.nil_prefix
  | visit _ _ ih => exact List.cons_prefix_cons.mpr ⟨rfl, ih⟩

theorem untouched (walk : Traversal operation hooks mgr names visits final) {other : String}
    (absent : other ∉ names) : final.instanceOf other = mgr.instanceOf other := by
  induction walk with
  | done mgr names => rfl
  | visit _ _ ih =>
    simp only [List.mem_cons, not_or] at absent
    rw [ih absent.2, ModuleManager.instanceOf_setModule_ne absent.1]

/-- The situation at one visit of a walk over distinct names: the modules called before it
are the names before it, each left as its own call left it; the modules not yet called are
as they were at the beginning. -/
theorem at_visit (walk : Traversal operation hooks mgr names visits final)
    (distinct : names.Nodup) {before after : List (Visit M H)} {visit : Visit M H}
    (split : visits = before ++ visit :: after) :
    visit.hooks = hooks visit.name ∧
    visit.manager.instanceOf visit.name = some visit.instance' ∧
    ModuleManager.SameModules mgr visit.manager ∧
    (∃ later, names = before.map (·.name) ++ visit.name :: later) ∧
    (∀ earlier ∈ before,
      visit.manager.instanceOf earlier.name = some (earlier.after operation)) ∧
    ∀ other, other ∉ before.map (·.name) →
      visit.manager.instanceOf other = mgr.instanceOf other := by
  induction walk generalizing before with
  | done mgr names => simp at split
  | @visit mgr final name rest inst visits held walk ih =>
    rw [List.nodup_cons] at distinct
    cases before with
    | nil =>
      rw [List.nil_append, List.cons.injEq] at split
      obtain ⟨rfl, rfl⟩ := split
      exact ⟨rfl, held, .refl mgr, ⟨rest, rfl⟩, by simp, fun _ _ => rfl⟩
    | cons first before =>
      rw [List.cons_append, List.cons.injEq] at split
      obtain ⟨rfl, split⟩ := split
      obtain ⟨hooksEq, here, same, ⟨later, namesEq⟩, left, frame⟩ := ih distinct.2 split
      refine ⟨hooksEq, here, (ModuleManager.sameModules_setModule held _).trans same,
        ⟨later, by rw [namesEq]; rfl⟩, ?_, ?_⟩
      · intro earlier member
        rcases List.mem_cons.mp member with rfl | member
        · have uncalled : name ∉ before.map (·.name) := by
            intro called
            exact distinct.1 (namesEq ▸ List.mem_append_left _ called)
          rw [frame name uncalled, ModuleManager.instanceOf_setModule_self]
          rfl
        · exact left earlier member
      · intro other absent
        rw [List.map_cons, List.mem_cons, not_or] at absent
        rw [frame other absent.2, ModuleManager.instanceOf_setModule_ne absent.1]

/-- A walk over distinct names calls each module as it was at the beginning, and leaves it as
this call left it. -/
theorem called (walk : Traversal operation hooks mgr names visits final)
    (distinct : names.Nodup) :
    ∀ visit ∈ visits, visit.hooks = hooks visit.name ∧
      mgr.instanceOf visit.name = some visit.instance' ∧
      final.instanceOf visit.name = some (visit.after operation) := by
  induction walk with
  | done mgr names => simp
  | @visit mgr final name rest inst visits held walk ih =>
    rw [List.nodup_cons] at distinct
    intro visit member
    rcases List.mem_cons.mp member with rfl | member
    · refine ⟨rfl, held, ?_⟩
      rw [walk.untouched distinct.1, ModuleManager.instanceOf_setModule_self]
      rfl
    · obtain ⟨hooksEq, before, after⟩ := ih distinct.2 visit member
      have later : visit.name ∈ rest :=
        walk.names_prefix.subset (List.mem_map_of_mem member)
      have different : visit.name ≠ name := by
        intro same
        exact distinct.1 (same ▸ later)
      rw [ModuleManager.instanceOf_setModule_ne different] at before
      exact ⟨hooksEq, before, after⟩

end Traversal

/-- The error that a pass reports if the call of a visit is the first that fails. -/
def Visit.failure (operation : Operation) (visit : Visit M H) : Option Error :=
  match visit.result operation with
  | .error e => some (prefixModuleError operation.name visit.name e)
  | .ok () => none

namespace ModuleManager

/-- Every name of the list has a valid handle. -/
def AllValid (names : List String) (mgr : ModuleManager M) : Prop :=
  ∀ name ∈ names, (mgr.instanceOf name).isSome = true

theorem AllValid.of_sameModules {names : List String} {a b : ModuleManager M}
    (valid : AllValid names a) (same : SameModules a b) : AllValid names b := by
  intro name member
  have here := valid name member
  have mapped := congrArg Option.isSome (same.refs name)
  simpa [here] using mapped

/-- The loop of `Init` and `Start` is a walk; every call before its last one succeeded, and
it covers the whole list exactly if it returns success. -/
theorem forwardPass_spec {operation : Operation} (hooks : String → H) {names : List String}
    {mgr : ModuleManager M} (valid : AllValid names mgr) :
    let pass := forwardPass operation hooks names mgr
    Traversal operation hooks mgr names pass.visits pass.manager ∧
    (∀ before visit after, pass.visits = before ++ visit :: after →
      ∀ earlier ∈ before, earlier.result operation = .ok ()) ∧
    (isOk pass.result = true →
      pass.visits.map (·.name) = names ∧ ∀ visit ∈ pass.visits, visit.result operation = .ok ()) ∧
    (isOk pass.result = false →
      ∃ before visit, pass.visits = before ++ [visit] ∧ isOk (visit.result operation) = false) := by
  induction names generalizing mgr with
  | nil => exact ⟨.done _ _, by simp [forwardPass], by simp [forwardPass],
      by simp [forwardPass, makeSuccess]⟩
  | cons name names ih =>
    obtain ⟨inst, held⟩ := Option.isSome_iff_exists.mp (valid name List.mem_cons_self)
    have found := instanceOf_eq_some.mp held
    have validRest : AllValid names
        (mgr.setModule name inst (operation.call (hooks name) inst.module).2) :=
      AllValid.of_sameModules (fun other member => valid other (List.mem_cons_of_mem _ member))
        (sameModules_setModule held _)
    obtain ⟨walk, earlierOk, whole, failing⟩ := ih validRest
    simp only [forwardPass, found]
    cases called : (operation.call (hooks name) inst.module).1 with
    | error e =>
      refine ⟨.visit held (.done _ _), ?_, by simp, ?_⟩
      · intro before visit after split earlier member
        cases before with
        | nil => cases member
        | cons first before => simp at split
      · intro _
        exact ⟨[], _, rfl, by simp [Visit.result, called]⟩
    | ok _ =>
      refine ⟨.visit held walk, ?_, ?_, ?_⟩
      · intro before visit after split earlier member
        cases before with
        | nil => cases member
        | cons first before =>
          rw [List.cons_append, List.cons.injEq] at split
          obtain ⟨rfl, split⟩ := split
          rcases List.mem_cons.mp member with rfl | member
          · exact called
          · exact earlierOk _ _ _ split earlier member
      · intro succeeded
        obtain ⟨covered, allOk⟩ := whole succeeded
        refine ⟨by rw [List.map_cons, covered], ?_⟩
        intro visit member
        rcases List.mem_cons.mp member with rfl | member
        · exact called
        · exact allOk visit member
      · intro failed
        obtain ⟨before, visit, split, bad⟩ := failing failed
        exact ⟨_ :: before, visit, by rw [split]; rfl, bad⟩

/-- The loop of `Stop` and `Fini` is a walk over the whole list. -/
theorem reversePass_spec {operation : Operation} (hooks : String → H) {names : List String}
    (firstError : Result Unit) {mgr : ModuleManager M} (valid : AllValid names mgr) :
    let pass := reversePass operation hooks names firstError mgr
    Traversal operation hooks mgr names pass.visits pass.manager ∧
      pass.visits.map (·.name) = names := by
  induction names generalizing mgr firstError with
  | nil => exact ⟨.done _ _, rfl⟩
  | cons name names ih =>
    obtain ⟨inst, held⟩ := Option.isSome_iff_exists.mp (valid name List.mem_cons_self)
    have found := instanceOf_eq_some.mp held
    have validRest : AllValid names
        (mgr.setModule name inst (operation.call (hooks name) inst.module).2) :=
      AllValid.of_sameModules (fun other member => valid other (List.mem_cons_of_mem _ member))
        (sameModules_setModule held _)
    simp only [reversePass, found]
    obtain ⟨walk, covered⟩ := ih _ validRest
    exact ⟨.visit held walk, by rw [List.map_cons, covered]⟩

/-- The loop of `Stop` and `Fini` returns the first error that it is given or meets. -/
theorem reversePass_result (operation : Operation) (hooks : String → H) (names : List String)
    (firstError : Result Unit) (mgr : ModuleManager M) :
    let pass := reversePass operation hooks names firstError mgr
    pass.result =
      match firstError, pass.visits.findSome? (Visit.failure operation) with
      | .ok (), some e => .error e
      | _, _ => firstError := by
  induction names generalizing mgr firstError with
  | nil => cases firstError <;> rfl
  | cons name names ih =>
    simp only [reversePass]
    split
    · rename_i inst held
      simp only [ih, List.findSome?_cons, Visit.failure, Visit.result]
      cases firstError with
      | error e => rfl
      | ok _ =>
        cases (operation.call (hooks name) inst.module).1 with
        | error e => simp
        | ok _ => simp
    · exact ih firstError mgr

theorem reversePass_first_failure (operation : Operation) (hooks : String → H)
    (names : List String) (mgr : ModuleManager M) :
    let pass := reversePass operation hooks names makeSuccess mgr
    pass.result = (pass.visits.findSome? (Visit.failure operation)).elim (.ok ()) .error := by
  have returned := reversePass_result operation hooks names makeSuccess mgr
  simp only [makeSuccess] at returned ⊢
  rw [returned]
  cases (reversePass operation hooks names (.ok ()) mgr).visits.findSome?
    (Visit.failure operation) <;> rfl

theorem stop_first_failure (mgr : ModuleManager M) (hooks : String → H) :
    (mgr.stop hooks).result =
      ((mgr.stop hooks).visits.findSome? (Visit.failure .stop)).elim (.ok ()) .error :=
  reversePass_first_failure .stop hooks mgr.moduleOrder.reverse mgr

theorem fini_first_failure (mgr : ModuleManager M) (hooks : String → H) :
    (mgr.fini hooks).result =
      ((mgr.fini hooks).visits.findSome? (Visit.failure .fini)).elim (.ok ()) .error :=
  reversePass_first_failure .fini hooks mgr.moduleOrder.reverse mgr

end ModuleManager

end ModuleContext.Framework
