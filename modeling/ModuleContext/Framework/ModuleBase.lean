import ModuleContext.Foundation.Result

/-!
# The lifecycle base class of modules

`src/framework/ModuleBase.cpp`. A derived class contributes its four hooks; what a hook
returns when it is run is an input of the call (`Hooks`), and every lifecycle method also
reports the hooks it ran, each with the module as the hook found it.
-/

namespace ModuleContext.Framework
open Foundation

/-- `ModuleState`, in the order of its enumerators. -/
inductive ModuleState where
  | created
  | inited
  | started
  | stopped
  | fini
  deriving DecidableEq, Repr

/-- `static_cast<int>(state)`. -/
def ModuleState.index : ModuleState → Nat
  | .created => 0
  | .inited => 1
  | .started => 2
  | .stopped => 3
  | .fini => 4

/-- The address of an `IContext`. -/
abbrev IContext := Nat

/-- `kValidTransitions`: the row is the current state, the column the target. -/
def kValidTransitions : List (List Bool) :=
  [[false, true, false, false, true],
   [false, false, true, false, true],
   [false, false, false, true, true],
   [false, false, true, false, true],
   [false, true, false, false, false]]

/-- `ModuleBase::IsValidTransition`. -/
def isValidTransition (fromState toState : ModuleState) : Bool :=
  match kValidTransitions[fromState.index]? with
  | none => false
  | some row => row[toState.index]?.getD false

/-- The fields of a `ModuleBase` object, with the `ModuleType()` of its class. -/
structure ModuleBase where
  moduleType : String
  ctx : Option IContext
  name : String
  state : ModuleState
  deriving DecidableEq, Repr

/-- The four overridable hooks. -/
inductive Hook where
  | onInit
  | onStart
  | onStop
  | onFini
  deriving DecidableEq, Repr

/-- What each hook returns if the current call runs it. -/
structure Hooks where
  onInit : Result Unit
  onStart : Result Unit
  onStop : Result Unit
  onFini : Result Unit

/-- One hook invocation: the module as the hook finds it, and what the hook returns. -/
structure HookCall where
  hook : Hook
  module : ModuleBase
  result : Result Unit

/-- What a lifecycle method returns, the module it leaves and the hooks it ran. -/
structure Outcome where
  result : Result Unit
  module : ModuleBase
  calls : List HookCall

def makeStateError (operation moduleName : String) (state : ModuleState) : Error :=
  ⟨.invalidState, "ModuleBase::" ++ operation ++ " failed for module '" ++ moduleName ++
    "' from state " ++ toString state.index⟩

def prefixHookError (operation moduleName : String) (e : Error) : Error :=
  ⟨e.code, "ModuleBase::" ++ operation ++ " failed for module '" ++ moduleName ++ "': " ++
    e.message⟩

namespace ModuleBase

/-- `ModuleBase::ModuleBase()` of a class with the given `ModuleType()`. -/
def construct (moduleType : String) : ModuleBase :=
  { moduleType, ctx := none, name := "", state := .created }

def moduleName (m : ModuleBase) : String :=
  if m.name.isEmpty then m.moduleType else m.name

def setModuleName (name : String) (m : ModuleBase) : Result Unit × ModuleBase :=
  if name.isEmpty then
    (.error ⟨.invalidArgument, "ModuleBase::SetModuleName failed: name is empty"⟩, m)
  else if m.state ≠ .created then
    (.error ⟨.invalidState,
      "ModuleBase::SetModuleName failed: module is not in Created state"⟩, m)
  else (makeSuccess, { m with name })

def init (ctx : IContext) (hooks : Hooks) (m : ModuleBase) : Outcome :=
  if isValidTransition m.state .inited then
    let running := { m with ctx := some ctx }
    let calls := [⟨.onInit, running, hooks.onInit⟩]
    match hooks.onInit with
    | .error e =>
        ⟨.error (prefixHookError "Init" m.moduleName e), { running with ctx := none }, calls⟩
    | .ok () => ⟨makeSuccess, { running with state := .inited }, calls⟩
  else ⟨.error (makeStateError "Init" m.moduleName m.state), m, []⟩

def start (hooks : Hooks) (m : ModuleBase) : Outcome :=
  if isValidTransition m.state .started then
    let calls := [⟨.onStart, m, hooks.onStart⟩]
    match hooks.onStart with
    | .error e => ⟨.error (prefixHookError "Start" m.moduleName e), m, calls⟩
    | .ok () => ⟨makeSuccess, { m with state := .started }, calls⟩
  else ⟨.error (makeStateError "Start" m.moduleName m.state), m, []⟩

def stop (hooks : Hooks) (m : ModuleBase) : Outcome :=
  if isValidTransition m.state .stopped then
    let calls := [⟨.onStop, m, hooks.onStop⟩]
    match hooks.onStop with
    | .error e => ⟨.error (prefixHookError "Stop" m.moduleName e), m, calls⟩
    | .ok () => ⟨makeSuccess, { m with state := .stopped }, calls⟩
  else ⟨.error (makeStateError "Stop" m.moduleName m.state), m, []⟩

/-- `ModuleBase::Fini`. The hooks run before `state_` and `ctx_` change, and `cleanup_state`
is the local copy that the two probes of the transition table read. -/
def fini (hooks : Hooks) (m : ModuleBase) : Outcome :=
  if isValidTransition m.state .fini then
    let (firstError, cleanupState, stopCalls) :=
      if isValidTransition m.state .stopped then
        (hooks.onStop.mapError (prefixHookError "Fini" m.moduleName), ModuleState.stopped,
          [(⟨.onStop, m, hooks.onStop⟩ : HookCall)])
      else (makeSuccess, m.state, [])
    let (firstError, finiCalls) :=
      if isValidTransition cleanupState .started then
        (if isOk firstError then hooks.onFini.mapError (prefixHookError "Fini" m.moduleName)
         else firstError, [(⟨.onFini, m, hooks.onFini⟩ : HookCall)])
      else (firstError, [])
    ⟨firstError, { m with ctx := none, state := .fini }, stopCalls ++ finiCalls⟩
  else ⟨.error (makeStateError "Fini" m.moduleName m.state), m, []⟩

/-- The states between a successful `Init` and the next `Fini`. -/
def isActive (state : ModuleState) : Bool :=
  match state with
  | .inited | .started | .stopped => true
  | .created | .fini => false

/-! What each lifecycle method does from each state, read off the transition table. -/

theorem init_of_ready {m : ModuleBase} (ready : m.state = .created ∨ m.state = .fini)
    (ctx : IContext) (hooks : Hooks) :
    m.init ctx hooks =
      match hooks.onInit with
      | .error e => ⟨.error (prefixHookError "Init" m.moduleName e), { m with ctx := none },
          [⟨.onInit, { m with ctx := some ctx }, hooks.onInit⟩]⟩
      | .ok () => ⟨makeSuccess, { m with ctx := some ctx, state := .inited },
          [⟨.onInit, { m with ctx := some ctx }, hooks.onInit⟩]⟩ := by
  have valid : isValidTransition m.state .inited = true := by
    rcases ready with h | h <;> rw [h] <;> rfl
  simp only [init, valid, if_true]

theorem init_of_active {m : ModuleBase} (active : isActive m.state = true)
    (ctx : IContext) (hooks : Hooks) :
    m.init ctx hooks = ⟨.error (makeStateError "Init" m.moduleName m.state), m, []⟩ := by
  have invalid : isValidTransition m.state .inited = false := by
    cases h : m.state <;> simp [h, isActive] at active <;> rfl
  simp only [init, invalid, Bool.false_eq_true, if_false]

theorem start_of_ready {m : ModuleBase} (ready : m.state = .inited ∨ m.state = .stopped)
    (hooks : Hooks) :
    m.start hooks =
      match hooks.onStart with
      | .error e => ⟨.error (prefixHookError "Start" m.moduleName e), m,
          [⟨.onStart, m, hooks.onStart⟩]⟩
      | .ok () => ⟨makeSuccess, { m with state := .started }, [⟨.onStart, m, hooks.onStart⟩]⟩ := by
  have valid : isValidTransition m.state .started = true := by
    rcases ready with h | h <;> rw [h] <;> rfl
  simp only [start, valid, if_true]

theorem start_of_not_ready {m : ModuleBase}
    (notReady : m.state ≠ .inited ∧ m.state ≠ .stopped) (hooks : Hooks) :
    m.start hooks = ⟨.error (makeStateError "Start" m.moduleName m.state), m, []⟩ := by
  have invalid : isValidTransition m.state .started = false := by
    cases h : m.state <;> simp [h] at notReady <;> rfl
  simp only [start, invalid, Bool.false_eq_true, if_false]

theorem stop_of_started {m : ModuleBase} (running : m.state = .started) (hooks : Hooks) :
    m.stop hooks =
      match hooks.onStop with
      | .error e => ⟨.error (prefixHookError "Stop" m.moduleName e), m,
          [⟨.onStop, m, hooks.onStop⟩]⟩
      | .ok () => ⟨makeSuccess, { m with state := .stopped }, [⟨.onStop, m, hooks.onStop⟩]⟩ := by
  have valid : isValidTransition m.state .stopped = true := by rw [running]; rfl
  simp only [stop, valid, if_true]

theorem stop_of_not_started {m : ModuleBase} (idle : m.state ≠ .started) (hooks : Hooks) :
    m.stop hooks = ⟨.error (makeStateError "Stop" m.moduleName m.state), m, []⟩ := by
  have invalid : isValidTransition m.state .stopped = false := by
    cases h : m.state <;> simp [h] at idle <;> rfl
  simp only [stop, invalid, Bool.false_eq_true, if_false]

theorem fini_of_created {m : ModuleBase} (fresh : m.state = .created) (hooks : Hooks) :
    m.fini hooks = ⟨makeSuccess, { m with ctx := none, state := .fini }, []⟩ := by
  simp [fini, fresh, isValidTransition, kValidTransitions, ModuleState.index]

/-- Out of `Started` the stop hook runs first, and its failure does not keep the fini hook
from running. -/
theorem fini_of_started {m : ModuleBase} (running : m.state = .started) (hooks : Hooks) :
    m.fini hooks =
      ⟨match hooks.onStop with
        | .error e => .error (prefixHookError "Fini" m.moduleName e)
        | .ok () => hooks.onFini.mapError (prefixHookError "Fini" m.moduleName),
       { m with ctx := none, state := .fini },
       [⟨.onStop, m, hooks.onStop⟩, ⟨.onFini, m, hooks.onFini⟩]⟩ := by
  cases stopped : hooks.onStop <;>
    simp [fini, running, isValidTransition, kValidTransitions, ModuleState.index, stopped, isOk]

theorem fini_of_idle {m : ModuleBase} (idle : m.state = .inited ∨ m.state = .stopped)
    (hooks : Hooks) :
    m.fini hooks =
      ⟨hooks.onFini.mapError (prefixHookError "Fini" m.moduleName),
       { m with ctx := none, state := .fini }, [⟨.onFini, m, hooks.onFini⟩]⟩ := by
  rcases idle with h | h <;>
    simp [fini, h, isValidTransition, kValidTransitions, ModuleState.index, makeSuccess, isOk]

theorem fini_of_fini {m : ModuleBase} (done : m.state = .fini) (hooks : Hooks) :
    m.fini hooks = ⟨.error (makeStateError "Fini" m.moduleName m.state), m, []⟩ := by
  simp [fini, done, isValidTransition, kValidTransitions, ModuleState.index]

end ModuleBase

end ModuleContext.Framework
