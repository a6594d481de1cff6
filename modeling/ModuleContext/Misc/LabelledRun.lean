import Mathlib.Data.List.Basic

/-!
# Runs of labelled partial step functions

A system is given by a partial step function `step : σ → ℓ → Option σ`, where the label
carries every choice that the state does not determine: which thread moves and what its
environment answers. `Run step init past s` says that the steps `past`, newest first, lead
from `init` to `s`; each entry of `past` keeps the state the step was taken from, so that a
statement about a run can look at any earlier moment of it.
-/

namespace ModuleContext.Misc

universe u v

variable {σ : Type u} {ℓ : Type v}

/-- The runs of `step` from `init`: the steps taken, newest first, and the state reached. -/
inductive Run (step : σ → ℓ → Option σ) (init : σ) : List (σ × ℓ) → σ → Prop where
  | nil : Run step init [] init
  | snoc {past : List (σ × ℓ)} {s s' : σ} {l : ℓ} :
      Run step init past s → step s l = some s' → Run step init ((s, l) :: past) s'

/-- Executes a list of labels, remembering the steps taken. -/
def exec (step : σ → ℓ → Option σ) : List ℓ → List (σ × ℓ) → σ → Option (List (σ × ℓ) × σ)
  | [], past, s => some (past, s)
  | l :: labels, past, s => (step s l).bind (exec step labels ((s, l) :: past))

/-- Every step of a run satisfies `p`, which sees the steps before it. -/
def AllSteps (p : List (σ × ℓ) → σ → ℓ → Prop) : List (σ × ℓ) → Prop
  | [] => True
  | (s, l) :: past => p past s l ∧ AllSteps p past

instance AllSteps.decidable {p : List (σ × ℓ) → σ → ℓ → Prop}
    [∀ past s l, Decidable (p past s l)] : (past : List (σ × ℓ)) → Decidable (AllSteps p past)
  | [] => .isTrue trivial
  | (_, _) :: past =>
      have := AllSteps.decidable (p := p) past
      inferInstanceAs (Decidable (_ ∧ _))

/-- Every state that a run passes through satisfies `p`, the one it reaches included. -/
def AllStates (p : σ → Prop) : List (σ × ℓ) → σ → Prop
  | [], s => p s
  | (before, _) :: past, s => p s ∧ AllStates p past before

variable {step : σ → ℓ → Option σ} {init : σ}

/-- What `exec` computes is a run that extends the run it started from. -/
theorem run_of_exec {labels : List ℓ} {past : List (σ × ℓ)} {s : σ}
    {result : List (σ × ℓ) × σ} (start : Run step init past s)
    (executed : exec step labels past s = some result) :
    Run step init result.1 result.2 := by
  induction labels generalizing past s with
  | nil =>
    simp only [exec, Option.some.injEq] at executed
    subst result
    exact start
  | cons l labels ih =>
    simp only [exec, Option.bind_eq_some_iff] at executed
    obtain ⟨s', taken, executed⟩ := executed
    exact ih (start.snoc taken) executed

theorem AllSteps.nil {p : List (σ × ℓ) → σ → ℓ → Prop} : AllSteps p [] := trivial

/-- What every label of a list satisfies, wherever it is used, holds of the steps that `exec`
takes. -/
theorem AllSteps.exec {p : List (σ × ℓ) → σ → ℓ → Prop} {labels : List ℓ} {past : List (σ × ℓ)}
    {s : σ} {result : List (σ × ℓ) × σ} (start : AllSteps p past)
    (each : ∀ l ∈ labels, ∀ past s, p past s l)
    (executed : Misc.exec step labels past s = some result) : AllSteps p result.1 := by
  induction labels generalizing past s with
  | nil =>
    simp only [Misc.exec, Option.some.injEq] at executed
    subst result
    exact start
  | cons l labels ih =>
    simp only [Misc.exec, Option.bind_eq_some_iff] at executed
    obtain ⟨s', taken, executed⟩ := executed
    rw [List.forall_mem_cons] at each
    have first : AllSteps p ((s, l) :: past) := ⟨each.1 past s, start⟩
    exact ih first each.2 executed

/-- A run goes on where another one has led. -/
theorem Run.append {past later : List (σ × ℓ)} {s t : σ} (first : Run step init past s)
    (second : Run step s later t) : Run step init (later ++ past) t := by
  induction second with
  | nil => exact first
  | snoc before taken ih => exact ih.snoc taken

/-- A run can be cut at each of its steps. -/
theorem Run.cut {later earlier : List (σ × ℓ)} {s before : σ} {l : ℓ}
    (run : Run step init (later ++ (before, l) :: earlier) s) :
    ∃ after, Run step init earlier before ∧ step before l = some after ∧
      Run step after later s := by
  induction later generalizing s with
  | nil =>
    cases run with
    | snoc reached taken => exact ⟨s, reached, taken, .nil⟩
  | cons entry later ih =>
    cases run with
    | snoc reached last =>
      obtain ⟨after, start, taken, rest⟩ := ih reached
      exact ⟨after, start, taken, rest.snoc last⟩

/-- Every state from which a run has taken a step is reached by a run. -/
theorem Run.reaches {past : List (σ × ℓ)} {s before : σ} {l : ℓ} (run : Run step init past s)
    (member : (before, l) ∈ past) : ∃ earlier, Run step init earlier before := by
  obtain ⟨later, earlier, rfl⟩ := List.append_of_mem member
  obtain ⟨after, reached, -, -⟩ := run.cut
  exact ⟨earlier, reached⟩

/-- A run has taken a step from its first state, unless it is still there. -/
theorem Run.first_mem {past : List (σ × ℓ)} {s : σ} (run : Run step init past s) :
    s = init ∨ ∃ l, (init, l) ∈ past := by
  induction run with
  | nil => exact Or.inl rfl
  | snoc before taken ih =>
    rcases ih with rfl | ⟨l, member⟩
    · exact Or.inr ⟨_, List.mem_cons_self⟩
    · exact Or.inr ⟨l, List.mem_cons_of_mem _ member⟩

/-- An invariant of a run that may mention the steps taken so far. -/
theorem Run.invariant_past (inv : List (σ × ℓ) → σ → Prop) (base : inv [] init)
    (preserved : ∀ past s l s', Run step init past s → inv past s → step s l = some s' →
      inv ((s, l) :: past) s')
    {past : List (σ × ℓ)} {s : σ} (run : Run step init past s) : inv past s := by
  induction run with
  | nil => exact base
  | snoc before taken ih => exact preserved _ _ _ _ before ih taken

/-- A predicate that holds initially and that each step preserves holds after every run. -/
theorem Run.invariant (inv : σ → Prop) (base : inv init)
    (preserved : ∀ s l s', inv s → step s l = some s' → inv s')
    {past : List (σ × ℓ)} {s : σ} (run : Run step init past s) : inv s :=
  run.invariant_past (fun _ => inv) base
    (fun _ s l s' _ holds taken => preserved s l s' holds taken)

/-- What holds of every step that a run can take holds of all steps of a run. -/
theorem Run.allSteps {p : List (σ × ℓ) → σ → ℓ → Prop}
    (each : ∀ past s l s', Run step init past s → step s l = some s' → p past s l)
    {past : List (σ × ℓ)} {s : σ} (run : Run step init past s) : AllSteps p past := by
  induction run with
  | nil => trivial
  | snoc before taken ih => exact ⟨each _ _ _ _ before taken, ih⟩

/-- What holds of every state that a run can reach holds of all states of a run. -/
theorem Run.allStates {p : σ → Prop} (each : ∀ past s, Run step init past s → p s)
    {past : List (σ × ℓ)} {s : σ} (run : Run step init past s) : AllStates p past s := by
  induction run with
  | nil => exact each [] init .nil
  | snoc before taken ih => exact ⟨each _ _ (before.snoc taken), ih⟩

/-- Two step predicates that agree on every step that a run can take agree on whole runs. -/
theorem Run.allSteps_iff {p q : List (σ × ℓ) → σ → ℓ → Prop}
    (agree : ∀ past s l s', Run step init past s → step s l = some s' →
      (p past s l ↔ q past s l))
    {past : List (σ × ℓ)} {s : σ} (run : Run step init past s) :
    AllSteps p past ↔ AllSteps q past := by
  induction run with
  | nil => exact Iff.rfl
  | snoc before taken ih => exact and_congr (agree _ _ _ _ before taken) ih

/-- It is enough that they agree under an invariant of the runs whose steps satisfy `p`. -/
theorem Run.allSteps_iff_along {p q : List (σ × ℓ) → σ → ℓ → Prop}
    (inv : List (σ × ℓ) → σ → Prop) (base : inv [] init)
    (agree : ∀ past s l s', Run step init past s → inv past s → step s l = some s' →
      (p past s l ↔ q past s l) ∧ (p past s l → inv ((s, l) :: past) s'))
    {past : List (σ × ℓ)} {s : σ} (run : Run step init past s) :
    AllSteps p past ↔ AllSteps q past := by
  have both : (AllSteps p past ↔ AllSteps q past) ∧ (AllSteps p past → inv past s) := by
    induction run with
    | nil => exact ⟨Iff.rfl, fun _ => base⟩
    | @snoc past s s' l before taken ih =>
      obtain ⟨same, holds⟩ := ih
      constructor
      · constructor
        · rintro ⟨last, earlier⟩
          exact ⟨(agree _ _ _ _ before (holds earlier) taken).1.mp last, same.mp earlier⟩
        · rintro ⟨last, earlier⟩
          have earlier := same.mpr earlier
          exact ⟨(agree _ _ _ _ before (holds earlier) taken).1.mpr last, earlier⟩
      · rintro ⟨last, earlier⟩
        exact (agree _ _ _ _ before (holds earlier) taken).2 last
  exact both.1

/-- The state that a run reaches is one of its states. -/
theorem AllStates.last {p : σ → Prop} {past : List (σ × ℓ)} {s : σ}
    (all : AllStates p past s) : p s := by
  cases past with
  | nil => exact all
  | cons entry past => exact all.1

/-- When a step keeps `p` exactly if it meets `q`, a run stays in `p` exactly if all of its
steps meet `q`. -/
theorem Run.allStates_iff {p : σ → Prop} {q : List (σ × ℓ) → σ → ℓ → Prop} (base : p init)
    (agree : ∀ past s l s', Run step init past s → p s → step s l = some s' →
      (p s' ↔ q past s l))
    {past : List (σ × ℓ)} {s : σ} (run : Run step init past s) :
    AllStates p past s ↔ AllSteps q past := by
  induction run with
  | nil => exact iff_of_true base trivial
  | @snoc past s s' l before taken ih =>
    constructor
    · rintro ⟨here, earlier⟩
      exact ⟨(agree _ _ _ _ before earlier.last taken).mp here, ih.mp earlier⟩
    · rintro ⟨last, earlier⟩
      exact ⟨(agree _ _ _ _ before (ih.mpr earlier).last taken).mpr last, ih.mpr earlier⟩

end ModuleContext.Misc
