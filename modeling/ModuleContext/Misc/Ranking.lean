import ModuleContext.Misc.LabelledRun

/-!
# Rankings

A ranking bounds how often steps of one kind can be taken: each of them makes a number smaller
that no other step makes larger. Liveness without fairness is stated with it: some marked step
is possible until the goal is reached, and only so many of them can be taken before.
-/

namespace ModuleContext.Misc

universe u v

variable {σ : Type u} {ℓ : Type v}

/-- How many steps of a run are marked. -/
def countSteps (marked : ℓ → Bool) : List (σ × ℓ) → Nat
  | [] => 0
  | (_, l) :: past => countSteps marked past + if marked l then 1 else 0

/-- While `inv` holds, a marked step makes the rank smaller and no other step makes it larger. -/
structure Ranks (step : σ → ℓ → Option σ) (inv : σ → Prop) (marked : ℓ → Bool)
    (rank : σ → Nat) : Prop where
  falls : ∀ s l s', inv s → inv s' → step s l = some s' → marked l = true → rank s' < rank s
  keeps : ∀ s l s', inv s → inv s' → step s l = some s' → marked l = false → rank s' ≤ rank s

variable {step : σ → ℓ → Option σ} {init : σ} {p q inv : σ → Prop}

instance AllStates.decidable [DecidablePred p] :
    (past : List (σ × ℓ)) → (s : σ) → Decidable (AllStates p past s)
  | [], s => inferInstanceAs (Decidable (p s))
  | (before, _) :: past, s =>
      have := AllStates.decidable past before
      inferInstanceAs (Decidable (p s ∧ AllStates p past before))

theorem AllStates.and {past : List (σ × ℓ)} {s : σ} (first : AllStates p past s)
    (second : AllStates q past s) : AllStates (fun s => p s ∧ q s) past s := by
  induction past generalizing s with
  | nil => exact ⟨first, second⟩
  | cons entry past ih => exact ⟨⟨first.1, second.1⟩, ih first.2 second.2⟩

/-- A run takes at most as many marked steps as the rank has fallen. -/
theorem Ranks.bounds {marked : ℓ → Bool} {rank : σ → Nat} (ranks : Ranks step inv marked rank)
    {later : List (σ × ℓ)} {s t : σ} (run : Run step s later t) (all : AllStates inv later t) :
    countSteps marked later + rank t ≤ rank s := by
  induction run with
  | nil => exact Nat.le_of_eq (Nat.zero_add _)
  | @snoc past before after l earlier taken ih =>
    have bound := ih all.2
    have holds := all.2.last
    cases mark : marked l with
    | true =>
      have falls := ranks.falls before l after holds all.1 taken mark
      rw [countSteps, mark, if_pos rfl]
      omega
    | false =>
      have keeps := ranks.keeps before l after holds all.1 taken mark
      rw [countSteps, mark, if_neg Bool.false_ne_true]
      omega

/-- A system that only takes the steps that meet `allowed`. -/
def restrict (step : σ → ℓ → Option σ) (allowed : σ → ℓ → Prop) [∀ s l, Decidable (allowed s l)]
    (s : σ) (l : ℓ) : Option σ :=
  if allowed s l then step s l else none

theorem restrict_eq_some {allowed : σ → ℓ → Prop} [∀ s l, Decidable (allowed s l)] {s s' : σ}
    {l : ℓ} : restrict step allowed s l = some s' ↔ allowed s l ∧ step s l = some s' := by
  unfold restrict
  by_cases meets : allowed s l
  · rw [if_pos meets, and_iff_right meets]
  · rw [if_neg meets]
    exact iff_of_false (fun none => by cases none) fun both => meets both.1

/-- A run whose steps are all allowed is one of the restricted system. -/
theorem Run.restrict {allowed : σ → ℓ → Prop} [∀ s l, Decidable (allowed s l)]
    {past : List (σ × ℓ)} {s : σ} (run : Run step init past s)
    (all : AllSteps (fun _ s l => allowed s l) past) :
    Run (restrict step allowed) init past s := by
  induction run with
  | nil => exact .nil
  | snoc before taken ih => exact (ih all.2).snoc (restrict_eq_some.mpr ⟨all.1, taken⟩)

/-- What the steps of a system keep holds all along a run that starts where it holds. -/
theorem Run.staysIn {later : List (σ × ℓ)} {s t : σ} (run : Run step s later t) (base : p s)
    (preserved : ∀ s l s', p s → step s l = some s' → p s') : AllStates p later t :=
  run.allStates fun _ _ reached => reached.invariant p base preserved

end ModuleContext.Misc
