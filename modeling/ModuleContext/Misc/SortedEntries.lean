import Mathlib.Data.List.Induction
import Mathlib.Data.List.Sort

/-!
# Maps as sorted entries

An ordered map is kept as the list of its entries in ascending key order. Two such lists with the
same entries are the same list, in whatever order their keys were assigned.
-/

namespace ModuleContext.Misc

universe u v

variable {κ : Type u} {β : Type v} [LinearOrder κ]

/-- Assignment to a key: its entry is replaced, or inserted at its place. -/
def assign (key : κ) (value : β) : List (κ × β) → List (κ × β)
  | [] => [(key, value)]
  | entry :: entries =>
      if key < entry.1 then (key, value) :: entry :: entries
      else if key = entry.1 then (key, value) :: entries
      else entry :: assign key value entries

/-- The keys ascend, so that none of them occurs twice. -/
def Ascending (entries : List (κ × β)) : Prop :=
  entries.Pairwise fun entry later => entry.1 < later.1

instance (entries : List (κ × β)) : Decidable (Ascending entries) :=
  inferInstanceAs (Decidable (entries.Pairwise fun entry later => entry.1 < later.1))

/-- Assigns what `f` yields for each of some keys, one after the other. -/
def assignAll (f : κ → β) (entries : List (κ × β)) (keys : List κ) : List (κ × β) :=
  keys.foldl (fun entries key => assign key (f key) entries) entries

variable {key : κ} {value : β} {entry : κ × β} {entries others : List (κ × β)}

theorem lookup_entry (entry : κ × β) (entries : List (κ × β)) (other : κ) :
    (entry :: entries).lookup other =
      if other = entry.1 then some entry.2 else entries.lookup other := by
  rw [List.lookup_cons]
  by_cases same : other = entry.1
  · rw [if_pos same, beq_iff_eq.mpr same]
  · rw [if_neg same, beq_eq_false_iff_ne.mpr same]

theorem lookup_assign (key other : κ) (value : β) (entries : List (κ × β)) :
    (assign key value entries).lookup other =
      if other = key then some value else entries.lookup other := by
  induction entries with
  | nil => rw [assign, lookup_entry]
  | cons entry entries ih =>
    unfold assign
    split
    · rw [lookup_entry]
    · split
      · rename_i same
        rw [lookup_entry, lookup_entry, same]
        split <;> rfl
      · rename_i different
        rw [lookup_entry, ih, lookup_entry]
        by_cases here : other = entry.1
        · simp [here, Ne.symm different]
        · simp [here]

theorem mem_keys_assign (key other : κ) (value : β) (entries : List (κ × β)) :
    other ∈ (assign key value entries).map Prod.fst ↔
      other = key ∨ other ∈ entries.map Prod.fst := by
  induction entries with
  | nil => simp [assign]
  | cons entry entries ih =>
    unfold assign
    split
    · simp
    · split
      · rename_i same
        simp [same]
      · rw [List.map_cons, List.mem_cons, ih, List.map_cons, List.mem_cons]
        exact or_left_comm

theorem ascending_nil : Ascending ([] : List (κ × β)) := .nil

theorem Ascending.keys_nodup (ascending : Ascending entries) :
    (entries.map Prod.fst).Nodup :=
  List.pairwise_map.mpr (ascending.imp fun before => ne_of_lt before)

/-- A key has one entry. -/
theorem Ascending.unique (ascending : Ascending entries) {first second : β}
    (here : (key, first) ∈ entries) (there : (key, second) ∈ entries) : first = second := by
  have same := List.inj_on_of_nodup_map ascending.keys_nodup here there rfl
  exact congrArg Prod.snd same

/-- Nothing is in the assigned list but the new entry and those of the other keys. -/
theorem mem_assign (ascending : Ascending entries) :
    entry ∈ assign key value entries ↔
      entry = (key, value) ∨ (entry ∈ entries ∧ entry.1 ≠ key) := by
  induction entries with
  | nil => simp [assign]
  | cons first rest ih =>
    obtain ⟨ahead, restAscends⟩ := List.pairwise_cons.mp ascending
    unfold assign
    split
    · rename_i before
      have absent : ∀ other ∈ first :: rest, other.1 ≠ key := by
        intro other member
        rcases List.mem_cons.mp member with rfl | later
        · exact ne_of_gt before
        · exact ne_of_gt (before.trans (ahead other later))
      rw [List.mem_cons]
      exact or_congr_right ⟨fun member => ⟨member, absent entry member⟩, And.left⟩
    · split
      · rename_i same
        have absent : ∀ other ∈ rest, other.1 ≠ key := by
          intro other member
          rw [same]
          exact ne_of_gt (ahead other member)
        rw [List.mem_cons, List.mem_cons]
        refine or_congr_right ⟨fun member => ⟨Or.inr member, absent entry member⟩, ?_⟩
        rintro ⟨rfl | member, different⟩
        · exact absurd same.symm different
        · exact member
      · rename_i different
        rw [List.mem_cons, ih restAscends, List.mem_cons]
        constructor
        · rintro (rfl | isNew | ⟨member, other⟩)
          · exact Or.inr ⟨Or.inl rfl, Ne.symm different⟩
          · exact Or.inl isNew
          · exact Or.inr ⟨Or.inr member, other⟩
        · rintro (isNew | ⟨rfl | member, other⟩)
          · exact Or.inr (Or.inl isNew)
          · exact Or.inl rfl
          · exact Or.inr (Or.inr ⟨member, other⟩)

theorem ascending_assign (key : κ) (value : β) (ascending : Ascending entries) :
    Ascending (assign key value entries) := by
  induction entries with
  | nil => exact List.pairwise_singleton _ _
  | cons first rest ih =>
    obtain ⟨ahead, restAscends⟩ := List.pairwise_cons.mp ascending
    unfold assign
    split
    · rename_i before
      refine List.pairwise_cons.mpr ⟨fun other member => ?_, ascending⟩
      rcases List.mem_cons.mp member with rfl | later
      · exact before
      · exact before.trans (ahead other later)
    · rename_i notBefore
      split
      · rename_i same
        refine List.pairwise_cons.mpr ⟨fun other member => ?_, restAscends⟩
        show key < other.1
        rw [same]
        exact ahead other member
      · rename_i different
        have after : first.1 < key := lt_of_le_of_ne (not_lt.mp notBefore) (Ne.symm different)
        refine List.pairwise_cons.mpr ⟨fun other member => ?_, ih restAscends⟩
        rcases (mem_assign restAscends).mp member with rfl | ⟨later, -⟩
        · exact after
        · exact ahead other later

/-- Sorted lists with the same entries are equal. -/
theorem Ascending.ext (ascending : Ascending entries) (ascending' : Ascending others)
    (same : ∀ entry, entry ∈ entries ↔ entry ∈ others) : entries = others := by
  have distinct {list : List (κ × β)} (ascending : Ascending list) : list.Nodup :=
    ascending.imp fun before equal => ne_of_lt before (congrArg Prod.fst equal)
  have permuted := (List.perm_ext_iff_of_nodup (distinct ascending) (distinct ascending')).mpr same
  refine permuted.eq_of_pairwise (fun first second _ _ before after => ?_) ascending ascending'
  exact absurd after (lt_asymm before)

/-- Assigning keys one after the other keeps the entries sorted, and afterwards exactly these keys
hold what was assigned to them. -/
theorem assignAll_spec (f : κ → β) (keys : List κ) :
    Ascending (assignAll f [] keys) ∧
      ∀ entry, entry ∈ assignAll f [] keys ↔ entry.1 ∈ keys ∧ entry.2 = f entry.1 := by
  induction keys using List.reverseRecOn with
  | nil => exact ⟨ascending_nil, by simp [assignAll]⟩
  | append_singleton keys key ih =>
    obtain ⟨ascending, entries⟩ := ih
    have last : assignAll f [] (keys ++ [key]) = assign key (f key) (assignAll f [] keys) :=
      List.foldl_append
    rw [last]
    refine ⟨ascending_assign key (f key) ascending, fun entry => ?_⟩
    obtain ⟨other, value⟩ := entry
    rw [mem_assign ascending, entries, List.mem_append, List.mem_singleton, Prod.mk.injEq]
    by_cases same : other = key
    · subst same
      simp
    · simp [same]

end ModuleContext.Misc
