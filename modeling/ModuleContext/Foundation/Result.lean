/-!
# Results of fallible operations

The `foundation` library lies outside the repository. `Result` keeps what the repository
observes of it: `IsOk`, `Value`, `GetError` and `GetMessage`.
-/

namespace ModuleContext.Foundation

/-- The codes of `foundation::base::ErrorCode` that the repository names, without `kOk`.
`other` stands for the codes that only the library itself produces. -/
inductive ErrorCode where
  | invalidArgument
  | invalidState
  | notFound
  | alreadyExists
  | parseError
  | versionMismatch
  | createFailed
  | disconnected
  | operationFailed
  | ioError
  | other (code : Nat)
  deriving DecidableEq, Repr

/-- The error half of a `Result`. -/
structure Error where
  code : ErrorCode
  message : String
  deriving DecidableEq, Repr

/-- `foundation::base::Result<T>`. -/
abbrev Result (α : Type) := Except Error α

/-- `foundation::base::MakeSuccess`. -/
def makeSuccess : Result Unit := .ok ()

/-- `BuildMessage` of the manager and `MakeErrorMessage` of the bus module: one text. -/
def buildMessage (pre detail : String) : String :=
  if detail.isEmpty then pre else pre ++ ": " ++ detail

/-- `Result::IsOk`. -/
def isOk {α : Type} : Result α → Bool
  | .ok _ => true
  | .error _ => false

@[simp] theorem isOk_ok {α : Type} (value : α) : isOk (.ok value : Result α) = true := rfl

@[simp] theorem isOk_error {α : Type} (e : Error) : isOk (.error e : Result α) = false := rfl

@[simp] theorem mapError_ok {α : Type} (f : Error → Error) (value : α) :
    (.ok value : Result α).mapError f = .ok value := rfl

@[simp] theorem mapError_error {α : Type} (f : Error → Error) (e : Error) :
    (.error e : Result α).mapError f = .error (f e) := rfl

/-- A sequence of fallible steps succeeds exactly if each of them does. -/
theorem bind_eq_ok {α β : Type} {first : Result α} {next : α → Result β} {value : β} :
    first >>= next = .ok value ↔ ∃ middle, first = .ok middle ∧ next middle = .ok value := by
  cases first with
  | error e => simp [Bind.bind, Except.bind]
  | ok middle => simp [Bind.bind, Except.bind]

/-- A loop whose every step succeeds does what the steps do one after the other. -/
theorem foldlM_eq_ok {σ τ α : Type} {step : σ → α → Result σ} (embed : τ → σ) (next : τ → α → τ)
    {xs : List α} (steps : ∀ t, ∀ x ∈ xs, step (embed t) x = .ok (embed (next t x))) (init : τ) :
    xs.foldlM step (embed init) = .ok (embed (xs.foldl next init)) := by
  induction xs generalizing init with
  | nil => rfl
  | cons x xs ih =>
    rw [List.foldlM_cons, steps init x List.mem_cons_self]
    exact ih (fun t y member => steps t y (List.mem_cons_of_mem x member)) (next init x)

end ModuleContext.Foundation
