import ModuleContext.Misc.LabelledRun

/-!
# Simulations between systems

A system whose steps look like steps of another one, through an abstraction of states and
labels, only has runs that look like runs of the other one.
-/

namespace ModuleContext.Misc

universe u v w z

variable {σ : Type u} {ℓ : Type v} {τ : Type w} {κ : Type z}

/-- A run as it looks through an abstraction. -/
def project (state : σ → τ) (label : σ → ℓ → κ) (past : List (σ × ℓ)) : List (τ × κ) :=
  past.map fun (s, l) => (state s, label s l)

/-- Each step of a system is a step of the abstract one. -/
def Simulates (step : σ → ℓ → Option σ) (step' : τ → κ → Option τ) (state : σ → τ)
    (label : σ → ℓ → κ) : Prop :=
  ∀ s l s', step s l = some s' → step' (state s) (label s l) = some (state s')

/-- It is enough that the steps of runs are simulated, whose states can be described. -/
theorem Run.project_reached {step : σ → ℓ → Option σ} {step' : τ → κ → Option τ} {state : σ → τ}
    {label : σ → ℓ → κ} {init : σ}
    (simulated : ∀ past s l s', Run step init past s → step s l = some s' →
      step' (state s) (label s l) = some (state s'))
    {past : List (σ × ℓ)} {s : σ} (run : Run step init past s) :
    Run step' (state init) (Misc.project state label past) (state s) := by
  induction run with
  | nil => exact .nil
  | snoc before taken ih => exact ih.snoc (simulated _ _ _ _ before taken)

theorem Run.project {step : σ → ℓ → Option σ} {step' : τ → κ → Option τ} {state : σ → τ}
    {label : σ → ℓ → κ} (simulates : Simulates step step' state label) {init : σ}
    {past : List (σ × ℓ)} {s : σ} (run : Run step init past s) :
    Run step' (state init) (Misc.project state label past) (state s) :=
  run.project_reached fun _ s l s' _ taken => simulates s l s' taken

end ModuleContext.Misc
