import ModuleContext.Misc.StringMap
import ModuleContext.Misc.Upsert

/-!
# Named objects that are declared actively or passively

A store of named objects with attributes. An active declaration creates a missing object and
accepts an existing one with equal attributes; a passive declaration only checks that the
object exists. The question answered here is when the latest declaration of every name is
enough to recreate what a whole sequence of declarations has made.
-/

namespace ModuleContext.Misc

universe u

/-- A declaration of one object. -/
structure Request (α : Type u) where
  name : String
  passive : Bool
  attributes : α

namespace Request

variable {α : Type u} [DecidableEq α]

/-- The store after a declaration, or `none` if it is refused. -/
def declare (store : StringMap α) (request : Request α) : Option (StringMap α) :=
  match store.lookup request.name with
  | some existing =>
      if request.passive then some store
      else if existing = request.attributes then some store else none
  | none =>
      if request.passive then none else some (store.insert request.name request.attributes)

def declareAll : StringMap α → List (Request α) → Option (StringMap α)
  | store, [] => some store
  | store, request :: requests => (declare store request).bind (declareAll · requests)

/-- What an accepted declaration leaves under every name. -/
structure Declared (store after : StringMap α) (request : Request α) : Prop where
  kept : ∀ name attributes, store.lookup name = some attributes →
    after.lookup name = some attributes
  present : request.name ∈ after
  active : request.passive = false → after.lookup request.name = some request.attributes
  origin : ∀ name, name ∈ after → name ∈ store ∨ request.passive = false ∧ request.name = name

theorem declare_spec {store after : StringMap α} {request : Request α}
    (accepted : declare store request = some after) : Declared store after request := by
  unfold declare at accepted
  cases found : store.lookup request.name with
  | some existing =>
    rw [found] at accepted
    have present : request.name ∈ store := StringMap.mem_iff_lookup.mpr ⟨_, found⟩
    cases passive : request.passive with
    | true =>
      simp only [passive, if_true, Option.some.injEq] at accepted
      subst accepted
      exact ⟨fun _ _ found => found, present, by simp [passive], fun _ => Or.inl⟩
    | false =>
      simp only [passive, Bool.false_eq_true, if_false, Option.ite_none_right_eq_some,
        Option.some.injEq] at accepted
      obtain ⟨equal, rfl⟩ := accepted
      exact ⟨fun _ _ found => found, present, fun _ => by rw [found, equal],
        fun _ => Or.inl⟩
  | none =>
    rw [found] at accepted
    cases passive : request.passive with
    | true => simp [passive] at accepted
    | false =>
      simp only [passive, Bool.false_eq_true, if_false, Option.some.injEq] at accepted
      subst accepted
      refine ⟨?_, ?_, ?_, ?_⟩
      · intro name attributes held
        have different : name ≠ request.name := by
          rintro rfl
          rw [found] at held
          cases held
        rw [AList.lookup_insert_ne different, held]
      · exact (AList.mem_insert _).mpr (Or.inl rfl)
      · exact fun _ => AList.lookup_insert _
      · intro name member
        rcases (AList.mem_insert _).mp member with rfl | member
        · exact Or.inr ⟨passive, rfl⟩
        · exact Or.inl member

/-- An active declaration is accepted unless the object exists with other attributes. -/
theorem declare_active {store : StringMap α} {request : Request α}
    (active : request.passive = false)
    (compatible : ∀ attributes, store.lookup request.name = some attributes →
      attributes = request.attributes) : ∃ after, declare store request = some after := by
  unfold declare
  cases found : store.lookup request.name with
  | some existing => exact ⟨store, by simp [active, compatible existing found]⟩
  | none => exact ⟨store.insert request.name request.attributes, by simp [active]⟩

/-- A passive declaration is accepted exactly if the object exists. -/
theorem declare_passive {store : StringMap α} {request : Request α}
    (passive : request.passive = true) :
    (∃ after, declare store request = some after) ↔ request.name ∈ store := by
  unfold declare
  rw [StringMap.mem_iff_lookup]
  cases store.lookup request.name <;> simp [passive]

section Sequence

variable {store after : StringMap α} {requests : List (Request α)}

/-- What an accepted sequence of declarations leaves. -/
structure AllDeclared (store after : StringMap α) (requests : List (Request α)) : Prop where
  kept : ∀ name attributes, store.lookup name = some attributes →
    after.lookup name = some attributes
  present : ∀ request ∈ requests, request.name ∈ after
  active : ∀ request ∈ requests, request.passive = false →
    after.lookup request.name = some request.attributes
  origin : ∀ name, name ∈ after → name ∈ store ∨
    ∃ request ∈ requests, request.passive = false ∧ request.name = name

theorem declareAll_spec (accepted : declareAll store requests = some after) :
    AllDeclared store after requests := by
  induction requests generalizing store with
  | nil =>
    simp only [declareAll, Option.some.injEq] at accepted
    subst accepted
    exact ⟨fun _ _ found => found, by simp, by simp, fun _ => Or.inl⟩
  | cons request requests ih =>
    obtain ⟨middle, declared, rest⟩ := Option.bind_eq_some_iff.mp accepted
    have first := declare_spec declared
    have later := ih rest
    have presentKept : ∀ name, name ∈ middle → name ∈ after := by
      intro name member
      obtain ⟨attributes, found⟩ := StringMap.mem_iff_lookup.mp member
      exact StringMap.mem_iff_lookup.mpr ⟨attributes, later.kept name attributes found⟩
    refine ⟨fun name attributes found => later.kept _ _ (first.kept _ _ found), ?_, ?_, ?_⟩
    · intro other member
      rcases List.mem_cons.mp member with rfl | member
      · exact presentKept _ first.present
      · exact later.present other member
    · intro other member active
      rcases List.mem_cons.mp member with rfl | member
      · exact later.kept _ _ (first.active active)
      · exact later.active other member active
    · intro name member
      rcases later.origin name member with inMiddle | ⟨other, otherMember, made⟩
      · rcases first.origin name inMiddle with inStore | ⟨active, named⟩
        · exact Or.inl inStore
        · exact Or.inr ⟨request, List.mem_cons_self, active, named⟩
      · exact Or.inr ⟨other, List.mem_cons_of_mem _ otherMember, made⟩

/-- Distinct names are accepted if passive ones exist and active ones do not clash. -/
theorem declareAll_succeeds (distinct : (requests.map (·.name)).Nodup)
    (passive : ∀ request ∈ requests, request.passive = true → request.name ∈ store)
    (active : ∀ request ∈ requests, request.passive = false → ∀ attributes,
      store.lookup request.name = some attributes → attributes = request.attributes) :
    ∃ after, declareAll store requests = some after := by
  induction requests generalizing store with
  | nil => exact ⟨store, rfl⟩
  | cons request requests ih =>
    rw [List.map_cons, List.nodup_cons] at distinct
    have accepted : ∃ middle, declare store request = some middle := by
      cases isPassive : request.passive with
      | true =>
        exact (declare_passive isPassive).mpr (passive request List.mem_cons_self isPassive)
      | false => exact declare_active isPassive (active request List.mem_cons_self isPassive)
    obtain ⟨middle, declared⟩ := accepted
    have first := declare_spec declared
    have others : ∀ other ∈ requests, other.name ∈ middle → other.name ∈ store := by
      intro other member present
      rcases first.origin _ present with present | ⟨-, named⟩
      · exact present
      · exact absurd (named ▸ List.mem_map_of_mem member) distinct.1
    obtain ⟨after, rest⟩ := @ih middle distinct.2 (by
        intro other member isPassive
        have present := passive other (List.mem_cons_of_mem _ member) isPassive
        obtain ⟨attributes, found⟩ := StringMap.mem_iff_lookup.mp present
        exact StringMap.mem_iff_lookup.mpr ⟨attributes, first.kept _ _ found⟩) (by
        intro other member isActive attributes found
        have present := others other member (StringMap.mem_iff_lookup.mpr ⟨attributes, found⟩)
        obtain ⟨held, heldFound⟩ := StringMap.mem_iff_lookup.mp present
        have same := first.kept _ _ heldFound
        rw [found, Option.some.injEq] at same
        subst same
        exact active other (List.mem_cons_of_mem _ member) isActive attributes heldFound)
    exact ⟨after, Option.bind_eq_some_iff.mpr ⟨middle, declared, rest⟩⟩

/-- With distinct names no declaration helps another: a passive one that is accepted refers
to an object that was there from the beginning. -/
theorem declareAll_passive (distinct : (requests.map (·.name)).Nodup)
    (accepted : declareAll store requests = some after) :
    ∀ request ∈ requests, request.passive = true → request.name ∈ store := by
  induction requests generalizing store with
  | nil => simp
  | cons request requests ih =>
    rw [List.map_cons, List.nodup_cons] at distinct
    obtain ⟨middle, declared, rest⟩ := Option.bind_eq_some_iff.mp accepted
    intro other member isPassive
    rcases List.mem_cons.mp member with rfl | member
    · exact (declare_passive isPassive).mp ⟨middle, declared⟩
    · rcases (declare_spec declared).origin _ (ih distinct.2 rest other member isPassive) with
        present | ⟨-, named⟩
      · exact present
      · exact absurd (named ▸ List.mem_map_of_mem member) distinct.1

/-- Whether two requests declare the same object. -/
def sameName (a b : Request α) : Bool := a.name == b.name

omit [DecidableEq α] in
theorem sameName_agrees (a b : Request α) : sameName a b = true ↔ a.name = b.name := by
  simp [sameName]

/-- Replaying the latest declaration of each name. Against the store that a sequence of
declarations started from it is accepted exactly if every name whose latest declaration is
passive was there at the start, and then it recreates everything. -/
theorem replay_latest (accepted : declareAll store requests = some after) :
    (∃ again, declareAll store (upsertAll sameName [] requests) = some again) ↔
      ∀ request, Latest (·.name) requests request → request.passive = true →
        request.name ∈ store := by
  have whole := declareAll_spec accepted
  have distinct : ((upsertAll sameName [] requests).map (·.name)).Nodup :=
    nodup_upsertAll sameName_agrees (by simp)
  constructor
  · rintro ⟨again, replayed⟩ request latest isPassive
    exact declareAll_passive distinct replayed request
      ((mem_upsertAll sameName_agrees).mpr latest) isPassive
  · intro safe
    refine declareAll_succeeds distinct ?_ ?_
    · intro request member isPassive
      exact safe request ((mem_upsertAll sameName_agrees).mp member) isPassive
    · intro request member isActive attributes found
      have latest := (mem_upsertAll sameName_agrees).mp member
      have held := whole.active request latest.mem isActive
      rw [whole.kept _ _ found, Option.some.injEq] at held
      exact held

/-- An accepted replay ends with every object that the sequence had left. -/
theorem replay_recreates {again : StringMap α} (accepted : declareAll store requests = some after)
    (replayed : declareAll store (upsertAll sameName [] requests) = some again)
    {name : String} {attributes : α} (found : after.lookup name = some attributes) :
    again.lookup name = some attributes := by
  have whole := declareAll_spec accepted
  have once := declareAll_spec replayed
  have safe := (replay_latest accepted).mp ⟨again, replayed⟩
  rcases whole.origin name (StringMap.mem_iff_lookup.mpr ⟨attributes, found⟩) with
    old | ⟨request, member, -, rfl⟩
  · obtain ⟨held, heldFound⟩ := StringMap.mem_iff_lookup.mp old
    have same := whole.kept _ _ heldFound
    rw [found, Option.some.injEq] at same
    subst same
    exact once.kept _ _ heldFound
  · obtain ⟨last, latest, lastName⟩ := exists_latest (·.name) member
    rw [← lastName] at found ⊢
    cases isPassive : last.passive with
    | true =>
      obtain ⟨held, heldFound⟩ := StringMap.mem_iff_lookup.mp (safe last latest isPassive)
      have same := whole.kept _ _ heldFound
      rw [found, Option.some.injEq] at same
      subst same
      exact once.kept _ _ heldFound
    | false =>
      have held := whole.active last latest.mem isPassive
      rw [found, Option.some.injEq] at held
      rw [held]
      exact once.active last ((mem_upsertAll sameName_agrees).mpr latest) isPassive

end Sequence

end Request

end ModuleContext.Misc
