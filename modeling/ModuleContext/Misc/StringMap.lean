import Mathlib.Data.List.AList

/-!
# Maps keyed by strings

The standard maps with string keys, as association lists whose keys are distinct by
construction. `AList.insert` is assignment through `operator[]`; `emplace` and `size` are
added here.
-/

namespace ModuleContext.Misc

universe u

/-- A map from strings to `β`. -/
abbrev StringMap (β : Type u) := AList (fun _ : String => β)

namespace StringMap

variable {β : Type u}

/-- `emplace`: an entry that is already there stays. -/
def emplace (key : String) (value : β) (m : StringMap β) : StringMap β :=
  if key ∈ m then m else m.insert key value

def size (m : StringMap β) : Nat := m.entries.length

theorem emplace_of_absent {key : String} {value : β} {m : StringMap β} (absent : key ∉ m) :
    m.emplace key value = m.insert key value := if_neg absent

@[simp] theorem mem_emplace {key other : String} {value : β} {m : StringMap β} :
    other ∈ m.emplace key value ↔ other = key ∨ other ∈ m := by
  unfold emplace
  split
  · rename_i present
    constructor
    · exact Or.inr
    · rintro (rfl | member)
      · exact present
      · exact member
  · exact AList.mem_insert m

theorem lookup_emplace_ne {key other : String} {value : β} {m : StringMap β}
    (different : other ≠ key) : (m.emplace key value).lookup other = m.lookup other := by
  unfold emplace
  split
  · rfl
  · exact AList.lookup_insert_ne different

theorem mem_iff_lookup {key : String} {m : StringMap β} :
    key ∈ m ↔ ∃ value, m.lookup key = some value := by
  rw [← AList.lookup_isSome, Option.isSome_iff_exists]

theorem lookup_iff_entry {key : String} {value : β} {m : StringMap β} :
    m.lookup key = some value ↔ ⟨key, value⟩ ∈ m.entries := by
  rw [← AList.mem_lookup_iff, Option.mem_def]

end StringMap

end ModuleContext.Misc
