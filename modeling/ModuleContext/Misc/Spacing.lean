import Mathlib.Algebra.Order.Group.Int

/-!
# Events that keep a distance

Times of events, newest first, in an ordered group: each event comes at least `gap` after those
before it. A window of time then holds only so many of them.
-/

namespace ModuleContext.Misc

universe u

section

variable {α : Type u} [AddCommGroup α] [LinearOrder α]

/-- Each event comes at least `gap` after every earlier one. -/
def Spaced (gap : α) (times : List α) : Prop :=
  times.Pairwise fun later earlier => earlier + gap ≤ later

variable {gap time previous start finish : α} {times : List α}

theorem Spaced.nil : Spaced gap [] := List.Pairwise.nil

theorem Spaced.singleton (time : α) : Spaced gap [time] := List.pairwise_singleton _ _

theorem Spaced.tail (spaced : Spaced gap (time :: times)) : Spaced gap times :=
  (List.pairwise_cons.mp spaced).2

variable [IsOrderedAddMonoid α]

/-- The next event only has to wait for the last one. -/
theorem Spaced.cons (nonneg : 0 ≤ gap) (spaced : Spaced gap (previous :: times))
    (waited : previous + gap ≤ time) : Spaced gap (time :: previous :: times) := by
  refine List.pairwise_cons.mpr ⟨?_, spaced⟩
  intro earlier member
  rcases List.mem_cons.mp member with rfl | before
  · exact waited
  · have apart := (List.pairwise_cons.mp spaced).1 earlier before
    calc
      earlier + gap ≤ previous := apart
      _ ≤ previous + gap := le_add_of_nonneg_right nonneg
      _ ≤ time := waited

/-- An event that comes after nothing, or after an event it has waited for. -/
theorem Spaced.next (nonneg : 0 ≤ gap) (spaced : Spaced gap times)
    (waited : ∀ previous rest, times = previous :: rest → previous + gap ≤ time) :
    Spaced gap (time :: times) := by
  cases times with
  | nil => exact .singleton time
  | cons previous rest => exact spaced.cons nonneg (waited previous rest rfl)

/-- The last of the events after `start` comes late enough for all of them. -/
theorem Spaced.span (spaced : Spaced gap (time :: times))
    (after : ∀ event ∈ time :: times, start ≤ event) : start + times.length • gap ≤ time := by
  induction times generalizing time with
  | nil => simpa using after time List.mem_cons_self
  | cons previous rest ih =>
    have waited := (List.pairwise_cons.mp spaced).1 previous List.mem_cons_self
    have before := ih spaced.tail fun event member => after event (List.mem_cons_of_mem _ member)
    calc
      start + (previous :: rest).length • gap = start + rest.length • gap + gap := by
        rw [List.length_cons, succ_nsmul, add_assoc]
      _ ≤ previous + gap := add_le_add_left before gap
      _ ≤ time := waited

/-- The events in a window of time. -/
def inWindow (start finish : α) (times : List α) : List α :=
  times.filter fun time => start ≤ time ∧ time ≤ finish

/-- A window is as long as the distances between the events in it. -/
theorem Spaced.window (spaced : Spaced gap times) (ordered : start ≤ finish) :
    start + ((inWindow start finish times).length - 1) • gap ≤ finish := by
  have apart : Spaced gap (inWindow start finish times) := List.Pairwise.filter _ spaced
  have within : ∀ time ∈ inWindow start finish times, start ≤ time ∧ time ≤ finish := by
    intro time member
    simpa using (List.mem_filter.mp member).2
  cases events : inWindow start finish times with
  | nil => simpa using ordered
  | cons last rest =>
    rw [events] at apart within
    have span := apart.span fun event member => (within event member).1
    exact span.trans (within last List.mem_cons_self).2

end

/-- In a window of integer times there are at most as many events as distances fit, and one. -/
theorem Spaced.length_window {gap start finish : Int} {times : List Int}
    (spaced : Spaced gap times) (positive : 0 < gap) (ordered : start ≤ finish) :
    ((inWindow start finish times).length : Int) ≤ (finish - start) / gap + 1 := by
  have window := spaced.window ordered
  rw [Int.nsmul_eq_mul] at window
  have fits : (((inWindow start finish times).length - 1 : Nat) : Int) ≤
      (finish - start) / gap := by
    apply (Int.le_ediv_iff_mul_le positive).mpr
    omega
  omega

end ModuleContext.Misc
