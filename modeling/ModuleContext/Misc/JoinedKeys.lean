import Mathlib.Data.List.Nodup

/-!
# Keys joined with a separator

When two joins of two parts read the same: the parts agree, or the first part of one join goes
on past the separator of the other. And when the keys of the entries of a list are distinct.
-/

namespace ModuleContext.Misc

universe u v

variable {α : Type u}

/-- Two joins read the same if one of them only puts a later separator between its parts. -/
theorem joined_eq_iff {sep : α} {first rest first' rest' : List α} :
    first ++ sep :: rest = first' ++ sep :: rest' ↔
      (first = first' ∧ rest = rest') ∨
      (∃ middle, first' = first ++ sep :: middle ∧ rest = middle ++ sep :: rest') ∨
      (∃ middle, first = first' ++ sep :: middle ∧ rest' = middle ++ sep :: rest) := by
  constructor
  · intro same
    rcases List.append_eq_append_iff.mp same with ⟨gap, longer, shorter⟩ | ⟨gap, longer, shorter⟩
    · rcases List.cons_eq_append_iff.mp shorter with ⟨rfl, restEq⟩ | ⟨middle, rfl, restEq⟩
      · rw [List.append_nil] at longer
        exact .inl ⟨longer.symm, (List.cons.inj restEq).2.symm⟩
      · exact .inr (.inl ⟨middle, longer, restEq⟩)
    · rcases List.cons_eq_append_iff.mp shorter with ⟨rfl, restEq⟩ | ⟨middle, rfl, restEq⟩
      · rw [List.append_nil] at longer
        exact .inl ⟨longer, (List.cons.inj restEq).2⟩
      · exact .inr (.inr ⟨middle, longer, restEq⟩)
  · rintro (⟨rfl, rfl⟩ | ⟨middle, rfl, rfl⟩ | ⟨middle, rfl, rfl⟩)
    · rfl
    · simp
    · simp

/-- The join of texts, character by character. -/
theorem joinedText_eq_iff {first rest first' rest' : String} :
    first ++ "|" ++ rest = first' ++ "|" ++ rest' ↔
      (first = first' ∧ rest = rest') ∨
      (∃ middle, first' = first ++ "|" ++ middle ∧ rest = middle ++ "|" ++ rest') ∨
      (∃ middle, first = first' ++ "|" ++ middle ∧ rest' = middle ++ "|" ++ rest) := by
  have spelled (text rest : String) :
      (text ++ "|" ++ rest).toList = text.toList ++ '|' :: rest.toList := by simp
  have asText (whole text : String) (middle : List Char)
      (same : whole.toList = text.toList ++ '|' :: middle) :
      whole = text ++ "|" ++ String.ofList middle := by
    rw [← String.toList_inj, spelled, String.toList_ofList, same]
  constructor
  · intro same
    rw [← String.toList_inj, spelled, spelled, joined_eq_iff] at same
    rcases same with ⟨firstEq, restEq⟩ | ⟨middle, firstEq, restEq⟩ | ⟨middle, firstEq, restEq⟩
    · exact .inl ⟨String.toList_inj.mp firstEq, String.toList_inj.mp restEq⟩
    · refine .inr (.inl ⟨String.ofList middle, asText _ _ _ firstEq, ?_⟩)
      rw [← String.toList_inj, spelled, String.toList_ofList, restEq]
    · refine .inr (.inr ⟨String.ofList middle, asText _ _ _ firstEq, ?_⟩)
      rw [← String.toList_inj, spelled, String.toList_ofList, restEq]
  · rintro (⟨rfl, rfl⟩ | ⟨middle, rfl, rfl⟩ | ⟨middle, rfl, rfl⟩)
    · rfl
    · simp only [String.append_assoc]
    · simp only [String.append_assoc]

/-- Two entries of a list have the same key exactly if its keys are not distinct. -/
theorem not_nodup_map_iff {κ : Type v} {key : α → κ} {items : List α} :
    ¬ (items.map key).Nodup ↔
      ∃ first second, [first, second].Sublist items ∧ key first = key second := by
  rw [List.Nodup, List.pairwise_map, List.pairwise_iff_forall_sublist]
  push Not
  rfl

/-- Two different members of a list are two entries of it, in one order or the other. -/
theorem pair_sublist_of_ne {first second : α} {items : List α} (here : first ∈ items)
    (there : second ∈ items) (different : first ≠ second) :
    [first, second].Sublist items ∨ [second, first].Sublist items := by
  obtain ⟨front, back, rfl⟩ := List.mem_iff_append.mp here
  rcases List.mem_append.mp there with before | after
  · refine .inr ?_
    exact (List.singleton_sublist.mpr before).append
      (List.singleton_sublist.mpr List.mem_cons_self)
  · rcases List.mem_cons.mp after with same | after
    · exact absurd same.symm different
    · refine .inl (List.Sublist.trans ?_ (List.sublist_append_right front (first :: back)))
      exact (List.singleton_sublist.mpr after).cons_cons first

end ModuleContext.Misc
