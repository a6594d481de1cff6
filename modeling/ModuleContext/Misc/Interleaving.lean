import Mathlib.Logic.Function.Basic
import ModuleContext.Misc.LabelledRun

/-!
# Systems side by side

A family of systems of one kind that take their steps one at a time, in any order. A label says
which of them moves. What one of them has done in a run of the whole is a run of its own.
-/

namespace ModuleContext.Misc

universe u v w

variable {ι : Type u} {σ : Type v} {ℓ : Type w} [DecidableEq ι]

/-- One system takes a step and the others stay as they are. -/
def interleave (step : σ → ℓ → Option σ) (s : ι → σ) (l : ι × ℓ) : Option (ι → σ) :=
  (step (s l.1) l.2).map (Function.update s l.1)

/-- The steps of one system. -/
def part (i : ι) (past : List ((ι → σ) × ι × ℓ)) : List (σ × ℓ) :=
  past.filterMap fun (s, mover, l) => if mover = i then some (s mover, l) else none

variable {step : σ → ℓ → Option σ} {i : ι} {s s' init : ι → σ} {l : ι × ℓ}
  {past : List ((ι → σ) × ι × ℓ)}

theorem part_mover : part l.1 ((s, l) :: past) = (s l.1, l.2) :: part l.1 past := by
  simp [part]

theorem part_other (other : i ≠ l.1) : part i ((s, l) :: past) = part i past := by
  simp [part, other.symm]

/-- A step of the whole is a step of one system. -/
theorem interleave_eq_some :
    interleave step s l = some s' ↔
      ∃ moved, step (s l.1) l.2 = some moved ∧ s' = Function.update s l.1 moved := by
  rw [interleave, Option.map_eq_some_iff]
  constructor
  · rintro ⟨moved, taken, rfl⟩
    exact ⟨moved, taken, rfl⟩
  · rintro ⟨moved, taken, rfl⟩
    exact ⟨moved, taken, rfl⟩

theorem interleave_mover (taken : interleave step s l = some s') :
    step (s l.1) l.2 = some (s' l.1) := by
  obtain ⟨moved, stepped, rfl⟩ := interleave_eq_some.mp taken
  rw [Function.update_self]
  exact stepped

theorem interleave_other (taken : interleave step s l = some s') (other : i ≠ l.1) :
    s' i = s i := by
  obtain ⟨moved, -, rfl⟩ := interleave_eq_some.mp taken
  exact Function.update_of_ne other moved s

/-- Each system runs on its own. -/
theorem Run.part (run : Run (interleave step) init past s) (i : ι) :
    Run step (init i) (Misc.part i past) (s i) := by
  induction run with
  | nil => exact .nil
  | @snoc past s s' l before taken ih =>
    by_cases mover : i = l.1
    · subst mover
      rw [part_mover]
      exact ih.snoc (interleave_mover taken)
    · rw [part_other mover, interleave_other taken mover]
      exact ih

end ModuleContext.Misc
