import Mathlib.Data.List.Basic

/-!
# Handles of a process

The operating system gives out handles that are free at the time, and a process opens, uses and
closes them. A table remembers which handles are open, and whether one was ever used or closed
that was not: a program that owns its handles leaves `misused` alone and leaks none.
-/

namespace ModuleContext.Misc

/-- A call that concerns a handle; `none` stands for a handle that is not valid. -/
inductive HandleCall where
  | opened (handle : Nat)
  | used (handle : Option Nat)
  | closed (handle : Nat)

structure HandleTable where
  held : List Nat
  misused : Bool

namespace HandleTable

def empty : HandleTable := ⟨[], false⟩

/-- The table after a call. The system does not open a handle that is open. -/
def perform (table : HandleTable) : HandleCall → Option HandleTable
  | .opened handle =>
      if handle ∈ table.held then none else some { table with held := handle :: table.held }
  | .used handle =>
      if handle.any (table.held.contains ·) then some table else some { table with misused := true }
  | .closed handle =>
      if handle ∈ table.held then some { table with held := table.held.erase handle }
      else some { table with misused := true }

def performAll (table : HandleTable) (calls : List HandleCall) : Option HandleTable :=
  calls.foldlM perform table

@[simp] theorem performAll_nil (table : HandleTable) : table.performAll [] = some table := rfl

theorem performAll_cons (table : HandleTable) (call : HandleCall) (calls : List HandleCall) :
    table.performAll (call :: calls) = (table.perform call).bind (·.performAll calls) := rfl

variable {table table' : HandleTable} {handle : Nat}

theorem perform_opened (performed : table.perform (.opened handle) = some table') :
    handle ∉ table.held ∧ table' = { table with held := handle :: table.held } := by
  unfold perform at performed
  dsimp only at performed
  split at performed
  · cases performed
  · rename_i free
    cases performed
    exact ⟨free, rfl⟩

/-- A handle that is open can be used. -/
theorem perform_used (isOpen : handle ∈ table.held) :
    table.perform (.used (some handle)) = some table := by
  unfold perform
  dsimp only
  rw [if_pos]
  rw [Option.any_some]
  exact List.contains_iff_mem.mpr isOpen

theorem perform_closed (isOpen : handle ∈ table.held) :
    table.perform (.closed handle) = some { table with held := table.held.erase handle } := by
  unfold perform
  dsimp only
  rw [if_pos isOpen]

/-- A handle that is opened, used and closed again leaves no trace. -/
theorem performAll_tried {calls : List HandleCall}
    (performed : table.performAll (.opened handle :: .used (some handle) :: .closed handle ::
      calls) = some table') : table.performAll calls = some table' := by
  rw [performAll_cons] at performed
  obtain ⟨between, opened, rest⟩ := Option.bind_eq_some_iff.mp performed
  obtain ⟨-, rfl⟩ := perform_opened opened
  have isOpen : handle ∈ handle :: table.held := List.mem_cons_self
  rw [performAll_cons, perform_used isOpen, Option.bind_some, performAll_cons,
    perform_closed isOpen, Option.bind_some, List.erase_cons_head] at rest
  exact rest

/-- A handle that is opened and used stays open. -/
theorem performAll_kept (performed :
    table.performAll [.opened handle, .used (some handle)] = some table') :
    table' = { table with held := handle :: table.held } := by
  rw [performAll_cons] at performed
  obtain ⟨between, opened, rest⟩ := Option.bind_eq_some_iff.mp performed
  obtain ⟨-, rfl⟩ := perform_opened opened
  have isOpen : handle ∈ handle :: table.held := List.mem_cons_self
  rw [performAll_cons, perform_used isOpen, Option.bind_some, performAll_nil] at rest
  exact (Option.some.inj rest).symm

end HandleTable

end ModuleContext.Misc
