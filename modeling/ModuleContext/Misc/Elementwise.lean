import Mathlib.Data.List.Forall2

/-!
# Lists that are related element by element

What `List.Forall₂` carries from one list to the other: keys that related elements agree on,
membership, prefixes, and the existence of a related list.
-/

namespace ModuleContext.Misc

universe u v w

variable {α : Type u} {β : Type v} {R S : α → β → Prop} {as : List α} {bs : List β}

theorem related_congr (same : ∀ a b, R a b ↔ S a b) :
    List.Forall₂ R as bs ↔ List.Forall₂ S as bs :=
  ⟨List.Forall₂.imp fun a b => (same a b).mp, List.Forall₂.imp fun a b => (same a b).mpr⟩

/-- Related lists have the same keys if related elements have the same key. -/
theorem map_eq_of_related {κ : Type w} {f : α → κ} {g : β → κ}
    (agree : ∀ a b, R a b → f a = g b) (related : List.Forall₂ R as bs) :
    as.map f = bs.map g := by
  induction related with
  | nil => rfl
  | cons here _ ih => rw [List.map_cons, List.map_cons, agree _ _ here, ih]

theorem exists_related {a : α} (related : List.Forall₂ R as bs) (member : a ∈ as) :
    ∃ b ∈ bs, R a b := by
  induction related with
  | nil => cases member
  | cons here _ ih =>
    rcases List.mem_cons.mp member with rfl | later
    · exact ⟨_, List.mem_cons_self, here⟩
    · obtain ⟨b, bMember, there⟩ := ih later
      exact ⟨b, List.mem_cons_of_mem _ bMember, there⟩

/-- If every element has a related one, the list has a related list. -/
theorem exists_relatedList (elements : ∀ a ∈ as, ∃ b, R a b) : ∃ bs, List.Forall₂ R as bs := by
  induction as with
  | nil => exact ⟨[], .nil⟩
  | cons a as ih =>
    obtain ⟨b, here⟩ := elements a List.mem_cons_self
    obtain ⟨bs, rest⟩ := ih fun later member => elements later (List.mem_cons_of_mem _ member)
    exact ⟨b :: bs, .cons here rest⟩

theorem exists_source {b : β} (related : List.Forall₂ R as bs) (member : b ∈ bs) :
    ∃ a ∈ as, R a b :=
  exists_related related.flip member

theorem related_prefix {first : List β} (related : List.Forall₂ R as bs) (before : first <+: bs) :
    ∃ init, init <+: as ∧ List.Forall₂ R init first := by
  obtain ⟨rest, rfl⟩ := before
  exact ⟨as.take first.length, List.take_prefix _ _, List.forall₂_take_append as first rest related⟩

theorem related_concat {init : List β} {last : β}
    (related : List.Forall₂ R as (init ++ [last])) :
    ∃ first a, as = first ++ [a] ∧ List.Forall₂ R first init ∧ R a last := by
  have ends : List.Forall₂ R (as.drop init.length) [last] :=
    List.forall₂_drop_append as init [last] related
  obtain ⟨a, nothing, here, none, split⟩ := List.forall₂_cons_right_iff.mp ends
  cases none
  refine ⟨as.take init.length, a, ?_, List.forall₂_take_append as init [last] related, here⟩
  rw [← split, List.take_append_drop]

/-- A list is related to what its elements are written as if each of them is. -/
theorem related_map {f : β → α} (each : ∀ b ∈ bs, R (f b) b) : List.Forall₂ R (bs.map f) bs := by
  rw [List.forall₂_map_left_iff, List.forall₂_same]
  exact each

end ModuleContext.Misc
