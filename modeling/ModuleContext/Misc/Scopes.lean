import Mathlib.Data.List.Basic

/-!
# Nested scopes

A trace that opens, uses and closes things, run by a machine whose state is the stack of what
is open, newest first. The machine refuses to close anything but the top, to open what is open
and to use what is not. In a trace that it accepts every opening that is undone at the end has
its own closing, and what lies between the two stays above it.
-/

namespace ModuleContext.Misc

universe u

/-- `failed` is an opening without success. -/
inductive ScopeEvent (α : Type u) where
  | opened (a : α)
  | failed (a : α)
  | used (a : α)
  | closed (a : α)
  deriving DecidableEq

namespace Scopes

variable {α : Type u} [DecidableEq α]

/-- What an event does to the stack, if it is allowed. -/
def next (stack : List α) : ScopeEvent α → Option (List α)
  | .opened a => if a ∈ stack then none else some (a :: stack)
  | .failed a => if a ∈ stack then none else some stack
  | .used a => if a ∈ stack then some stack else none
  | .closed a =>
      match stack with
      | [] => none
      | top :: rest => if top = a then some rest else none

/-- Runs the machine over a trace. -/
def accept : List α → List (ScopeEvent α) → Option (List α)
  | stack, [] => some stack
  | stack, event :: trace => (next stack event).bind (accept · trace)

variable {stack after : List α} {trace first second : List (ScopeEvent α)} {a : α}

theorem accept_append (stack : List α) (first second : List (ScopeEvent α)) :
    accept stack (first ++ second) = (accept stack first).bind (accept · second) := by
  induction first generalizing stack with
  | nil => rfl
  | cons event first ih =>
    simp only [List.cons_append, accept]
    cases next stack event with
    | none => rfl
    | some middle => exact ih middle

theorem accept_of_append {middle : List α} (left : accept stack first = some middle)
    (right : accept middle second = some after) :
    accept stack (first ++ second) = some after := by
  rw [accept_append, left]
  exact right

@[simp] theorem next_opened (fresh : a ∉ stack) : next stack (.opened a) = some (a :: stack) :=
  if_neg fresh

@[simp] theorem next_failed (fresh : a ∉ stack) : next stack (.failed a) = some stack :=
  if_neg fresh

@[simp] theorem next_used (isOpen : a ∈ stack) : next stack (.used a) = some stack :=
  if_pos isOpen

@[simp] theorem next_closed : next (a :: stack) (.closed a) = some stack :=
  if_pos rfl

/-- A trace that only uses what is open leaves the stack alone. -/
theorem accept_used (uses : ∀ event ∈ trace, ∃ a ∈ stack, event = .used a) :
    accept stack trace = some stack := by
  induction trace with
  | nil => rfl
  | cons event trace ih =>
    obtain ⟨a, isOpen, rfl⟩ := uses event List.mem_cons_self
    rw [accept, next_used isOpen]
    exact ih fun other member => uses other (List.mem_cons_of_mem _ member)

/-- The base of a stack is what an event finds below it, unless it closes the base's top. -/
theorem next_above {base above : List α} {event : ScopeEvent α}
    (taken : next (above ++ a :: base) event = some after) :
    (∃ above', after = above' ++ a :: base) ∨ (above = [] ∧ event = .closed a ∧ after = base) := by
  cases event with
  | opened b =>
    by_cases isOpen : b ∈ above ++ a :: base
    · rw [next, if_pos isOpen] at taken
      cases taken
    · rw [next_opened isOpen] at taken
      cases taken
      exact .inl ⟨b :: above, rfl⟩
  | failed b =>
    by_cases isOpen : b ∈ above ++ a :: base
    · rw [next, if_pos isOpen] at taken
      cases taken
    · rw [next_failed isOpen] at taken
      cases taken
      exact .inl ⟨above, rfl⟩
  | used b =>
    by_cases isOpen : b ∈ above ++ a :: base
    · rw [next_used isOpen] at taken
      cases taken
      exact .inl ⟨above, rfl⟩
    · rw [next, if_neg isOpen] at taken
      cases taken
  | closed b =>
    cases above with
    | nil =>
      simp only [List.nil_append, next] at taken
      split at taken
      · rename_i same
        cases taken
        exact .inr ⟨rfl, by rw [same], rfl⟩
      · cases taken
    | cons top above =>
      simp only [List.cons_append, next] at taken
      split at taken
      · cases taken
        exact .inl ⟨above, rfl⟩
      · cases taken

/-- Throughout the trace `a` stays open, on top of the same base. -/
def Holds (a : α) (base : List α) (above : List α) (trace : List (ScopeEvent α)) : Prop :=
  ∀ part, part <+: trace → ∃ above', accept (above ++ a :: base) part = some (above' ++ a :: base)

/-- The trace closes `a` when nothing is left above it. -/
def Closes (a : α) (base above : List α) (trace : List (ScopeEvent α)) (after : List α) : Prop :=
  ∃ inner rest, trace = inner ++ .closed a :: rest ∧ Holds a base above inner ∧
    accept (above ++ a :: base) inner = some (a :: base) ∧ accept base rest = some after

theorem Holds.cons {base above above' : List α} {event : ScopeEvent α}
    (taken : next (above ++ a :: base) event = some (above' ++ a :: base))
    (later : Holds a base above' trace) : Holds a base above (event :: trace) := by
  intro part initial
  cases part with
  | nil => exact ⟨above, rfl⟩
  | cons head part =>
    obtain ⟨rfl, continued⟩ := List.cons_prefix_cons.mp initial
    obtain ⟨above'', reached⟩ := later part continued
    exact ⟨above'', by rw [accept, taken]; exact reached⟩

/-- What is on the stack stays there, or is closed when it is the top. -/
theorem holds_or_closes {base above : List α}
    (accepted : accept (above ++ a :: base) trace = some after) :
    (Holds a base above trace ∧ ∃ above', after = above' ++ a :: base) ∨
      Closes a base above trace after := by
  induction trace generalizing above with
  | nil =>
    cases accepted
    refine .inl ⟨?_, above, rfl⟩
    intro part initial
    rw [List.prefix_nil.mp initial]
    exact ⟨above, rfl⟩
  | cons event trace ih =>
    obtain ⟨middle, taken, rest⟩ := Option.bind_eq_some_iff.mp accepted
    rcases next_above taken with ⟨above', rfl⟩ | ⟨rfl, rfl, rfl⟩
    · rcases ih rest with ⟨holds, kept⟩ | ⟨inner, later, rfl, holds, reached, closing⟩
      · exact .inl ⟨holds.cons taken, kept⟩
      · refine .inr ⟨event :: inner, later, rfl, holds.cons taken, ?_, closing⟩
        rw [accept, taken]
        exact reached
    · refine .inr ⟨[], trace, rfl, ?_, rfl, rest⟩
      intro part initial
      rw [List.prefix_nil.mp initial]
      exact ⟨[], rfl⟩

/-- Every opening of a trace has its closing, in the course of which it stays open. -/
def Matched (trace : List (ScopeEvent α)) : Prop :=
  ∀ before a later, trace = before ++ .opened a :: later →
    ∃ base inner rest, accept [] before = some base ∧ later = inner ++ .closed a :: rest ∧
      Holds a base [] inner

theorem accept_split {event : ScopeEvent α} (accepted : accept stack (first ++ event :: second) =
    some after) : ∃ base middle, accept stack first = some base ∧ next base event = some middle ∧
      accept middle second = some after := by
  rw [accept_append] at accepted
  obtain ⟨base, left, right⟩ := Option.bind_eq_some_iff.mp accepted
  obtain ⟨middle, taken, rest⟩ := Option.bind_eq_some_iff.mp right
  exact ⟨base, middle, left, taken, rest⟩

/-- What has been opened is closed once the stack is empty again. -/
theorem matched_of_accept (accepted : accept [] trace = some []) : Matched trace := by
  rintro before a later rfl
  obtain ⟨base, middle, left, taken, rest⟩ := accept_split accepted
  by_cases isOpen : a ∈ base
  · rw [next, if_pos isOpen] at taken
    cases taken
  · rw [next_opened isOpen] at taken
    cases taken
    have opening : accept ([] ++ a :: base) later = some [] := rest
    rcases holds_or_closes opening with ⟨-, above, empty⟩ | closed
    · simp at empty
    · obtain ⟨inner, later, rfl, holds, -, -⟩ := closed
      exact ⟨base, inner, later, left, rfl, holds⟩

/-- An accepted trace closes as often as it opens, up to what it leaves open. -/
theorem accept_count (accepted : accept stack trace = some after) (a : α) :
    trace.count (.opened a) + stack.count a = trace.count (.closed a) + after.count a := by
  induction trace generalizing stack with
  | nil =>
    cases accepted
    rfl
  | cons event trace ih =>
    obtain ⟨middle, taken, rest⟩ := Option.bind_eq_some_iff.mp accepted
    have balance := ih rest
    cases event with
    | opened b =>
      by_cases isOpen : b ∈ stack
      · rw [next, if_pos isOpen] at taken
        cases taken
      · rw [next_opened isOpen] at taken
        cases taken
        by_cases same : b = a
        · subst same
          simp only [List.count_cons_self, List.count_cons, reduceCtorEq, beq_iff_eq,
            if_false] at balance ⊢
          omega
        · simp only [List.count_cons, beq_iff_eq, ScopeEvent.opened.injEq, reduceCtorEq, same,
            if_false] at balance ⊢
          omega
    | failed b =>
      by_cases isOpen : b ∈ stack
      · rw [next, if_pos isOpen] at taken
        cases taken
      · rw [next_failed isOpen] at taken
        cases taken
        simpa using balance
    | used b =>
      by_cases isOpen : b ∈ stack
      · rw [next_used isOpen] at taken
        cases taken
        simpa using balance
      · rw [next, if_neg isOpen] at taken
        cases taken
    | closed b =>
      cases stack with
      | nil => cases taken
      | cons top stack =>
        simp only [next] at taken
        split at taken
        · rename_i isTop
          cases taken
          subst isTop
          by_cases same : top = a
          · subst same
            simp only [List.count_cons_self, List.count_cons, reduceCtorEq, beq_iff_eq,
              if_false] at balance ⊢
            omega
          · simp only [List.count_cons, beq_iff_eq, ScopeEvent.closed.injEq, reduceCtorEq, same,
              if_false] at balance ⊢
            omega
        · cases taken

end Scopes

end ModuleContext.Misc
