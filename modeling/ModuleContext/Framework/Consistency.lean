import ModuleContext.Framework.Loading
import Mathlib.Data.List.Perm.Lattice

/-!
# The manager's containers agree

The load order, the two maps and the service registry are updated by separate statements of
two load operations and emptied by `Fini`. `Consistent` says how they fit together, and holds
of every manager that calls can lead to.
-/

namespace ModuleContext.Framework
open Foundation Misc

variable {M P H : Type} [IModule M P H]

namespace ModuleManager

/-- The four containers describe the same modules. -/
structure Consistent (mgr : ModuleManager M) : Prop where
  distinct : mgr.moduleOrder.Nodup
  nonempty : ∀ name ∈ mgr.moduleOrder, name.isEmpty = false
  modules : ∀ name, name ∈ mgr.modulesByName ↔ name ∈ mgr.moduleOrder
  configs : ∀ name, name ∈ mgr.configsByName ↔ name ∈ mgr.moduleOrder
  valid : AllValid mgr.moduleOrder mgr
  services : ∀ name provider,
    (mgr.serviceRegistry.providers messageBusServiceKey).lookup name = some provider ↔
      ∃ inst, mgr.instanceOf name = some inst ∧ inst.ref.isMessageBusService = true ∧
        provider = some inst.ref
  otherServices : ∀ serviceKey, serviceKey ≠ messageBusServiceKey →
    mgr.serviceRegistry.providers serviceKey = ∅

theorem consistent_of_empty (registry : ServiceRegistry)
    (cleared : ∀ serviceKey, registry.providers serviceKey = ∅) :
    Consistent (⟨∅, ∅, [], registry⟩ : ModuleManager M) where
  distinct := List.nodup_nil
  nonempty := by simp
  modules := by simp
  configs := by simp
  valid := by simp [AllValid]
  services := by simp [cleared, instanceOf]
  otherServices := fun serviceKey _ => cleared serviceKey

/-- A held module is in the load order. -/
theorem Consistent.mem_order {mgr : ModuleManager M} (consistent : Consistent mgr)
    {name : String} {inst : Instance M} (held : mgr.instanceOf name = some inst) :
    name ∈ mgr.moduleOrder :=
  (consistent.modules name).mp (StringMap.mem_iff_lookup.mpr ⟨_, instanceOf_eq_some.mp held⟩)

theorem Consistent.of_sameModules {a b : ModuleManager M} (consistent : Consistent a)
    (same : SameModules a b) : Consistent b where
  distinct := same.order ▸ consistent.distinct
  nonempty := same.order ▸ consistent.nonempty
  modules := fun name => by rw [same.keys, same.order, consistent.modules]
  configs := fun name => by rw [same.configs, same.order, consistent.configs]
  valid := same.order ▸ consistent.valid.of_sameModules same
  otherServices := same.registry ▸ consistent.otherServices
  services := by
    intro name provider
    have refs := same.refs name
    rw [same.registry, consistent.services]
    constructor
    · rintro ⟨inst, held, implements, rfl⟩
      rw [held, Option.map_some, Option.map_eq_some_iff] at refs
      obtain ⟨inst', held', sameRef⟩ := refs
      exact ⟨inst', held', by rw [sameRef]; exact implements, by rw [sameRef]⟩
    · rintro ⟨inst, held, implements, rfl⟩
      rw [held, Option.map_some, eq_comm, Option.map_eq_some_iff] at refs
      obtain ⟨inst', held', sameRef⟩ := refs
      exact ⟨inst', held', by rw [sameRef]; exact implements, by rw [sameRef]⟩

/-- The commit of a module under a name that is not loaded. -/
theorem Consistent.adopt {mgr : ModuleManager M} (consistent : Consistent mgr) {name : String}
    {inst : Instance M} {config : ConfigValue} (nonempty : name.isEmpty = false)
    (fresh : name ∉ mgr.modulesByName) : Consistent (mgr.adopt name (some inst) config) := by
  have unlisted : name ∉ mgr.moduleOrder := by
    intro listed
    exact fresh ((consistent.modules name).mpr listed)
  have unheld : mgr.instanceOf name = none := by
    simp [instanceOf, AList.lookup_eq_none.mpr fresh]
  refine ⟨?_, ?_, ?_, ?_, ?_, ?_, ?_⟩
  · rw [moduleOrder_adopt]
    exact List.nodup_append.mpr ⟨consistent.distinct, List.nodup_singleton name, by
      intro listed member other same
      rw [List.mem_singleton] at same
      exact fun equal => unlisted (same ▸ equal ▸ member)⟩
  · intro other member
    rw [moduleOrder_adopt, List.mem_append, List.mem_singleton] at member
    rcases member with member | rfl
    · exact consistent.nonempty other member
    · exact nonempty
  · intro other
    rw [modulesByName_adopt, moduleOrder_adopt, StringMap.mem_emplace, List.mem_append,
      List.mem_singleton, consistent.modules, or_comm]
  · intro other
    rw [configsByName_adopt, moduleOrder_adopt, AList.mem_insert, List.mem_append,
      List.mem_singleton, consistent.configs, or_comm]
  · intro other member
    by_cases same : other = name
    · subst same
      rw [instanceOf_adopt_self fresh]
      rfl
    · rw [moduleOrder_adopt, List.mem_append, List.mem_singleton] at member
      rw [(sameAt_adopt same nonempty).instanceOf_eq]
      exact consistent.valid other (member.resolve_right same)
  · intro other provider
    by_cases same : other = name
    · subst same
      rw [lookup_providers_adopt_self nonempty, instanceOf_adopt_self fresh]
      split
      · rename_i implements
        constructor
        · intro registered
          exact ⟨inst, rfl, implements, (Option.some.inj registered).symm⟩
        · rintro ⟨held, same, -, rfl⟩
          rw [Option.some.inj same]
      · rename_i lacks
        simp [consistent.services, unheld, lacks]
    · rw [(sameAt_adopt same nonempty).services, (sameAt_adopt same nonempty).instanceOf_eq,
        consistent.services]
  · intro serviceKey different
    rw [serviceRegistry_adopt, ServiceRegistry.providers_registerKnownServices_ne different]
    exact consistent.otherServices serviceKey different

/-- An invariant of the commit of one module holds after the commit of a batch. -/
theorem commitModules_invariant (inv : ModuleManager M → Prop)
    (adopted : ∀ mgr name inst config, inv mgr → name.isEmpty = false →
      name ∉ mgr.modulesByName → JustNamed name inst.module →
      inv (mgr.adopt name (some inst) config))
    {entries : List ModuleConfigSpec} {staged : List (String × ModuleHandle M)}
    {mgr : ModuleManager M} (checked : List.Forall₂ StagedFor entries staged)
    (distinct : (entries.map (·.name)).Nodup)
    (nonempty : ∀ entry ∈ entries, entry.name.isEmpty = false)
    (fresh : ∀ entry ∈ entries, entry.name ∉ mgr.modulesByName) (holds : inv mgr) :
    inv (mgr.commitModules staged entries) := by
  induction checked generalizing mgr with
  | nil => exact holds
  | @cons entry staged entries stagedModules here checked ih =>
    obtain ⟨name, inst, held, justNamed, -⟩ := here
    rw [List.map_cons, List.nodup_cons] at distinct
    rw [commitModules_cons _ _ name, held]
    refine ih distinct.2 (fun later member => nonempty later (List.mem_cons_of_mem _ member)) ?_
      (adopted mgr entry.name inst entry.config holds (nonempty entry List.mem_cons_self)
        (fresh entry List.mem_cons_self) justNamed)
    intro later member present
    rw [modulesByName_adopt, StringMap.mem_emplace] at present
    rcases present with same | present
    · exact distinct.1 (same ▸ List.mem_map_of_mem member)
    · exact fresh later (List.mem_cons_of_mem _ member) present

theorem readModuleConfig_nonempty {fs : FileSystem} {directory : String}
    {values : List ConfigValue} {entries : List ModuleConfigSpec}
    (matched : List.Forall₂ (EntryMatches fs directory) values entries) :
    ∀ entry ∈ entries, entry.name.isEmpty = false := by
  induction matched with
  | nil => simp
  | cons here _ ih =>
    intro entry member
    rcases List.mem_cons.mp member with rfl | member
    · simpa [String.isEmpty_iff] using here.nameNonempty
    · exact ih entry member

/-- A pass is a walk over the load order, forwards or backwards. -/
theorem Consistent.traversal {mgr : ModuleManager M} (consistent : Consistent mgr)
    (operation : Operation) (hooks : String → H) :
    ∃ names final, (names = mgr.moduleOrder ∨ names = mgr.moduleOrder.reverse) ∧
      Traversal operation hooks mgr names (mgr.runPass operation hooks).visits final ∧
      ((mgr.runPass operation hooks).manager = final ∨
        (mgr.runPass operation hooks).manager = ⟨∅, ∅, [], final.serviceRegistry.clear⟩) := by
  have validReverse : AllValid mgr.moduleOrder.reverse mgr :=
    fun name member => consistent.valid name (List.mem_reverse.mp member)
  cases operation with
  | init ctx =>
    exact ⟨_, _, .inl rfl, (forwardPass_spec hooks consistent.valid).1, .inl rfl⟩
  | start =>
    exact ⟨_, _, .inl rfl, (forwardPass_spec hooks consistent.valid).1, .inl rfl⟩
  | stop =>
    exact ⟨_, _, .inr rfl, (reversePass_spec hooks makeSuccess validReverse).1, .inl rfl⟩
  | fini =>
    exact ⟨_, _, .inr rfl, (reversePass_spec hooks makeSuccess validReverse).1, .inr rfl⟩

/-- A call that is not a pass commits fresh modules one by one, or nothing: it keeps what each
commit keeps. -/
theorem step_load_invariant (inv : ModuleManager M → Prop)
    (adopted : ∀ mgr name inst config, Consistent mgr → inv mgr → name.isEmpty = false →
      name ∉ mgr.modulesByName → JustNamed name inst.module →
      inv (mgr.adopt name (some inst) config))
    {mgr mgr' : ModuleManager M} {call : ManagerCall P H}
    (load : ∀ operation hooks, call ≠ .pass operation hooks) (taken : mgr.step call = some mgr')
    (consistent : Consistent mgr) (holds : inv mgr) : Consistent mgr' ∧ inv mgr' := by
  have adopt : ∀ (mgr : ModuleManager M) (name : String) (inst : Instance M)
      (config : ConfigValue), Consistent mgr ∧ inv mgr → name.isEmpty = false →
      name ∉ mgr.modulesByName → JustNamed name inst.module →
      Consistent (mgr.adopt name (some inst) config) ∧
        inv (mgr.adopt name (some inst) config) := by
    intro mgr name inst config both nonempty fresh justNamed
    obtain ⟨consistent, holds⟩ := both
    exact ⟨consistent.adopt nonempty fresh,
      adopted mgr name inst config consistent holds nonempty fresh justNamed⟩
  cases call with
  | loadModules fs plugins configFilePath =>
    simp only [step, Option.some.injEq] at taken
    subst taken
    rcases loadModules_cases fs plugins configFilePath mgr with ⟨e, failed⟩ |
      ⟨entries, staged, parsed, fresh, checked, loaded⟩
    · rw [failed]
      exact ⟨consistent, holds⟩
    · obtain ⟨values, -, matched, distinct⟩ := readModuleConfig_ok parsed
      rw [loaded]
      exact commitModules_invariant (fun mgr => Consistent mgr ∧ inv mgr) adopt checked
        distinct (readModuleConfig_nonempty matched) fresh ⟨consistent, holds⟩
  | loadModule fs plugin name libraryPath =>
    simp only [step, Option.some.injEq] at taken
    subst taken
    rcases loadModule_cases fs plugin name libraryPath mgr with ⟨e, failed⟩ |
      ⟨handle, nonempty, fresh, ⟨inst, rfl, justNamed⟩, loaded⟩
    · rw [failed]
      exact ⟨consistent, holds⟩
    · rw [loaded]
      exact adopt mgr name inst _ ⟨consistent, holds⟩ nonempty fresh justNamed
  | pass operation hooks => exact absurd rfl (load operation hooks)

/-- Every call keeps the containers in agreement. -/
theorem Consistent.step {mgr mgr' : ModuleManager M} (consistent : Consistent mgr)
    {call : ManagerCall P H} (taken : mgr.step call = some mgr') : Consistent mgr' := by
  by_cases load : ∀ operation hooks, call ≠ .pass operation hooks
  · exact (step_load_invariant (fun _ => True) (fun _ _ _ _ _ _ _ _ _ => trivial) load taken
      consistent trivial).1
  simp only [ne_eq, not_forall, not_not] at load
  obtain ⟨operation, hooks, rfl⟩ := load
  simp only [ModuleManager.step, Option.some.injEq] at taken
  subst taken
  obtain ⟨names, final, -, walk, left | left⟩ := consistent.traversal operation hooks
  · exact left ▸ consistent.of_sameModules walk.sameModules
  · exact left ▸
      consistent_of_empty _ fun serviceKey => ServiceRegistry.providers_clear serviceKey _

/-- An invariant of managers: it holds of the new one and is kept by the commit of a module,
by a walk over the modules and by emptying the containers. -/
theorem Reachable.invariant (inv : ModuleManager M → Prop) (base : inv new)
    (cleared : ∀ mgr : ModuleManager M, inv ⟨∅, ∅, [], mgr.serviceRegistry.clear⟩)
    (adopted : ∀ mgr name inst config, Consistent mgr → inv mgr → name.isEmpty = false →
      name ∉ mgr.modulesByName → JustNamed name inst.module →
      inv (mgr.adopt name (some inst) config))
    (walked : ∀ mgr operation hooks names visits final, inv mgr →
      Traversal (M := M) (H := H) operation hooks mgr names visits final → inv final)
    {mgr : ModuleManager M} (reached : Reachable (H := H) mgr) : Consistent mgr ∧ inv mgr := by
  obtain ⟨past, run⟩ := reached
  refine run.invariant (fun mgr => Consistent mgr ∧ inv mgr)
    ⟨consistent_of_empty .empty (fun _ => rfl), base⟩ ?_
  rintro mgr call mgr' ⟨consistent, holds⟩ taken
  refine ⟨consistent.step taken, ?_⟩
  by_cases load : ∀ operation hooks, call ≠ .pass operation hooks
  · exact (step_load_invariant inv adopted load taken consistent holds).2
  · simp only [ne_eq, not_forall, not_not] at load
    obtain ⟨operation, hooks, rfl⟩ := load
    simp only [ModuleManager.step, Option.some.injEq] at taken
    subst taken
    obtain ⟨names, final, -, walk, left | left⟩ := consistent.traversal operation hooks
    · exact left ▸ walked _ _ _ _ _ _ holds walk
    · exact left ▸ cleared final

theorem Reachable.consistent {mgr : ModuleManager M} (reached : Reachable (H := H) mgr) :
    Consistent mgr :=
  (Reachable.invariant (fun _ => True) trivial (fun _ => trivial)
    (fun _ _ _ _ _ _ _ _ _ => trivial) (fun _ _ _ _ _ _ _ _ => trivial) reached).1

end ModuleManager

end ModuleContext.Framework
