import Mathlib.Data.List.Induction
import Mathlib.Data.List.Nodup

/-!
# Replacing list elements by key

`upsert same x` overwrites the first element that `same` identifies with `x` and appends `x`
when there is none. When `same` compares a key, a list built by upserts holds exactly the
latest element of every key, whatever the order in which the keys came.
-/

namespace ModuleContext.Misc

universe u v

variable {α : Type u} {κ : Type v}

def upsert (same : α → α → Bool) (x : α) : List α → List α
  | [] => [x]
  | item :: items => if same item x then x :: items else item :: upsert same x items

/-- Upserts a sequence of elements, one after the other. -/
def upsertAll (same : α → α → Bool) (items sequence : List α) : List α :=
  sequence.foldl (fun acc x => upsert same x acc) items

@[simp] theorem upsertAll_nil (same : α → α → Bool) (items : List α) :
    upsertAll same items [] = items := rfl

theorem upsertAll_append (same : α → α → Bool) (items first second : List α) :
    upsertAll same items (first ++ second) = upsertAll same (upsertAll same items first) second :=
  List.foldl_append

theorem upsertAll_concat (same : α → α → Bool) (items sequence : List α) (x : α) :
    upsertAll same items (sequence ++ [x]) = upsert same x (upsertAll same items sequence) :=
  upsertAll_append same items sequence [x]

/-- An upsert brings in nothing but its element. -/
theorem of_mem_upsert {same : α → α → Bool} {x y : α} {items : List α}
    (member : y ∈ upsert same x items) : y = x ∨ y ∈ items := by
  induction items with
  | nil => exact Or.inl (List.mem_singleton.mp member)
  | cons item items ih =>
    unfold upsert at member
    split at member
    · rcases List.mem_cons.mp member with here | later
      · exact Or.inl here
      · exact Or.inr (List.mem_cons_of_mem _ later)
    · rcases List.mem_cons.mp member with rfl | later
      · exact Or.inr List.mem_cons_self
      · exact (ih later).imp_right (List.mem_cons_of_mem _)

/-- A map that preserves the comparison commutes with upserts. -/
theorem map_upsertAll {β : Type u} (same : α → α → Bool) (same' : β → β → Bool) (f : α → β)
    (preserved : ∀ a b, same' (f a) (f b) = same a b) (items sequence : List α) :
    (upsertAll same items sequence).map f = upsertAll same' (items.map f) (sequence.map f) := by
  have one : ∀ (x : α) (items : List α),
      (upsert same x items).map f = upsert same' (f x) (items.map f) := by
    intro x items
    induction items with
    | nil => rfl
    | cons item items ih =>
      simp only [upsert, List.map_cons, preserved]
      split
      · rfl
      · rw [List.map_cons, ih]
  induction sequence generalizing items with
  | nil => rfl
  | cons x sequence ih =>
    change (upsertAll same (upsert same x items) sequence).map f = _
    rw [ih, one]
    rfl

/-- `x` is the last element of its key in `sequence`. -/
def Latest (key : α → κ) (sequence : List α) (x : α) : Prop :=
  ∃ front back, sequence = front ++ x :: back ∧ ∀ later ∈ back, key later ≠ key x

variable {key : α → κ} {sequence items : List α} {x y : α}

theorem Latest.mem (latest : Latest key sequence x) : x ∈ sequence := by
  obtain ⟨front, back, rfl, -⟩ := latest
  exact List.mem_append_right _ List.mem_cons_self

theorem latest_concat :
    Latest key (sequence ++ [x]) y ↔ y = x ∨ (Latest key sequence y ∧ key x ≠ key y) := by
  constructor
  · rintro ⟨front, back, split, unmatched⟩
    rcases List.eq_nil_or_concat back with rfl | ⟨back, last, rfl⟩
    · obtain ⟨-, same⟩ := List.append_inj' split rfl
      exact Or.inl (List.singleton_inj.mp same).symm
    · rw [List.concat_eq_append, ← List.cons_append, ← List.append_assoc] at split
      rw [List.concat_eq_append] at unmatched
      obtain ⟨rfl, same⟩ := List.append_inj' split rfl
      rw [List.singleton_inj] at same
      subst same
      exact Or.inr ⟨⟨front, back, rfl, fun later member =>
        unmatched later (List.mem_append_left _ member)⟩, unmatched x (by simp)⟩
  · rintro (rfl | ⟨⟨front, back, rfl, unmatched⟩, different⟩)
    · exact ⟨sequence, [], rfl, by simp⟩
    · refine ⟨front, back ++ [x], by simp, ?_⟩
      intro later member
      rcases List.mem_append.mp member with member | member
      · exact unmatched later member
      · exact List.mem_singleton.mp member ▸ different

/-- A list that is collected in one pass, each element with a key that was not seen before, is a
list with distinct keys. -/
theorem distinct_cons {seen : List κ} :
    (((x :: items).map key).Nodup ∧ ∀ later ∈ x :: items, key later ∉ seen) ↔
      key x ∉ seen ∧ (items.map key).Nodup ∧ ∀ later ∈ items, key later ∉ key x :: seen := by
  rw [List.map_cons, List.nodup_cons]
  constructor
  · rintro ⟨⟨absent, distinct⟩, unseen⟩
    refine ⟨unseen x List.mem_cons_self, distinct, ?_⟩
    intro later member clash
    rcases List.mem_cons.mp clash with same | seenBefore
    · exact absent (same ▸ List.mem_map_of_mem member)
    · exact unseen later (List.mem_cons_of_mem _ member) seenBefore
  · rintro ⟨fresh, distinct, unseen⟩
    refine ⟨⟨?_, distinct⟩, ?_⟩
    · intro member
      obtain ⟨later, laterMember, same⟩ := List.mem_map.mp member
      exact unseen later laterMember (by simp [same])
    · intro later member
      rcases List.mem_cons.mp member with rfl | member
      · exact fresh
      · intro seenBefore
        exact unseen later member (List.mem_cons_of_mem _ seenBefore)

/-- Every key that occurs has a latest element. -/
theorem exists_latest (key : α → κ) (member : x ∈ sequence) :
    ∃ last, Latest key sequence last ∧ key last = key x := by
  induction sequence using List.reverseRecOn with
  | nil => cases member
  | append_singleton rest final ih =>
    by_cases same : key final = key x
    · exact ⟨final, latest_concat.mpr (Or.inl rfl), same⟩
    · rcases List.mem_append.mp member with earlier | here
      · obtain ⟨last, latest, lastKey⟩ := ih earlier
        exact ⟨last, latest_concat.mpr (Or.inr ⟨latest, lastKey ▸ same⟩), lastKey⟩
      · exact absurd (congrArg key (List.mem_singleton.mp here).symm) same

section Keyed

variable {same : α → α → Bool} (agrees : ∀ a b, same a b = true ↔ key a = key b)

include agrees

theorem mem_upsert (distinct : (items.map key).Nodup) :
    y ∈ upsert same x items ↔ y = x ∨ (y ∈ items ∧ key x ≠ key y) := by
  induction items with
  | nil => simp [upsert]
  | cons item items ih =>
    rw [List.map_cons, List.nodup_cons] at distinct
    unfold upsert
    split
    · rename_i replaced
      rw [agrees] at replaced
      rw [List.mem_cons]
      constructor
      · rintro (rfl | member)
        · exact Or.inl rfl
        · refine Or.inr ⟨List.mem_cons_of_mem _ member, fun clash => distinct.1 ?_⟩
          rw [replaced, clash]
          exact List.mem_map_of_mem member
      · rintro (rfl | ⟨member, different⟩)
        · exact Or.inl rfl
        · rcases List.mem_cons.mp member with rfl | member
          · exact absurd replaced.symm different
          · exact Or.inr member
    · rename_i kept
      rw [agrees] at kept
      rw [List.mem_cons, ih distinct.2, List.mem_cons]
      constructor
      · rintro (rfl | rfl | ⟨member, different⟩)
        · exact Or.inr ⟨Or.inl rfl, fun clash => kept clash.symm⟩
        · exact Or.inl rfl
        · exact Or.inr ⟨Or.inr member, different⟩
      · rintro (rfl | ⟨rfl | member, different⟩)
        · exact Or.inr (Or.inl rfl)
        · exact Or.inl rfl
        · exact Or.inr (Or.inr ⟨member, different⟩)

theorem nodup_upsert (distinct : (items.map key).Nodup) :
    ((upsert same x items).map key).Nodup := by
  induction items with
  | nil => simp [upsert]
  | cons item items ih =>
    have whole := distinct
    rw [List.map_cons, List.nodup_cons] at distinct
    unfold upsert
    split
    · rename_i replaced
      rw [agrees] at replaced
      rwa [List.map_cons, ← replaced, ← List.map_cons]
    · rename_i kept
      rw [agrees] at kept
      rw [List.map_cons, List.nodup_cons]
      refine ⟨?_, ih distinct.2⟩
      intro clash
      obtain ⟨other, member, sameKey⟩ := List.mem_map.mp clash
      rcases (mem_upsert agrees distinct.2).mp member with rfl | ⟨member, -⟩
      · exact kept sameKey.symm
      · exact distinct.1 (sameKey ▸ List.mem_map_of_mem member)

theorem nodup_upsertAll (distinct : (items.map key).Nodup) :
    ((upsertAll same items sequence).map key).Nodup := by
  induction sequence using List.reverseRecOn with
  | nil => exact distinct
  | append_singleton rest final ih =>
    rw [upsertAll_concat]
    exact nodup_upsert agrees ih

/-- A list built by upserts holds the latest element of each key. -/
theorem mem_upsertAll : y ∈ upsertAll same [] sequence ↔ Latest key sequence y := by
  induction sequence using List.reverseRecOn generalizing y with
  | nil => exact iff_of_false (by simp) (fun latest => by simpa using latest.mem)
  | append_singleton rest final ih =>
    rw [upsertAll_concat, mem_upsert agrees (nodup_upsertAll agrees (by simp)), ih,
      latest_concat]

theorem upsert_of_fresh (fresh : key x ∉ items.map key) : upsert same x items = items ++ [x] := by
  induction items with
  | nil => rfl
  | cons item items ih =>
    rw [List.map_cons, List.mem_cons, not_or] at fresh
    have kept : same item x = false := by
      rw [Bool.eq_false_iff]
      exact fun clash => fresh.1 ((agrees item x).mp clash).symm
    rw [upsert, kept, ih fresh.2]
    rfl

/-- Distinct keys are only ever appended. -/
theorem upsertAll_of_nodup (distinct : (sequence.map key).Nodup) :
    upsertAll same [] sequence = sequence := by
  induction sequence using List.reverseRecOn with
  | nil => rfl
  | append_singleton rest final ih =>
    rw [List.map_append, List.nodup_append] at distinct
    rw [upsertAll_concat, ih distinct.1, upsert_of_fresh agrees]
    intro clash
    exact distinct.2.2 _ clash _ (by simp) rfl

end Keyed

end ModuleContext.Misc
