import Mathlib.Data.List.Basic

/-!
# Pipes

A pipe keeps what was written to it until it is read. It remembers everything that was ever
written and read, so that the order of the two can be compared at any time.
-/

namespace ModuleContext.Misc

universe u

/-- What was written to a pipe is what was read from it, followed by what it still holds. -/
structure Pipe (α : Type u) where
  written : List α
  read : List α
  buffer : List α
  intact : read ++ buffer = written

namespace Pipe

variable {α : Type u}

def empty : Pipe α := ⟨[], [], [], rfl⟩

def write (data : List α) (pipe : Pipe α) : Pipe α where
  written := pipe.written ++ data
  read := pipe.read
  buffer := pipe.buffer ++ data
  intact := by rw [← List.append_assoc, pipe.intact]

@[simp] theorem write_nil (pipe : Pipe α) : pipe.write [] = pipe := by
  cases pipe
  simp [write]

/-- Reads at most `count` items. -/
def drain (count : Nat) (pipe : Pipe α) : Pipe α where
  written := pipe.written
  read := pipe.read ++ pipe.buffer.take count
  buffer := pipe.buffer.drop count
  intact := by rw [List.append_assoc, List.take_append_drop, pipe.intact]

/-- `pipe.Extends later`: `later` is the same pipe at a later time. -/
structure Extends (pipe later : Pipe α) : Prop where
  written : pipe.written <+: later.written
  read : pipe.read <+: later.read

theorem Extends.refl (pipe : Pipe α) : pipe.Extends pipe :=
  ⟨List.prefix_rfl, List.prefix_rfl⟩

theorem Extends.trans {a b c : Pipe α} (first : a.Extends b) (second : b.Extends c) :
    a.Extends c :=
  ⟨first.written.trans second.written, first.read.trans second.read⟩

theorem extends_write (data : List α) (pipe : Pipe α) : pipe.Extends (pipe.write data) :=
  ⟨List.prefix_append _ _, List.prefix_rfl⟩

theorem extends_drain (count : Nat) (pipe : Pipe α) : pipe.Extends (pipe.drain count) :=
  ⟨List.prefix_rfl, List.prefix_append _ _⟩

end Pipe

end ModuleContext.Misc
