import ModuleContext.Framework.ModuleBase

/-!
# The lifecycle law of `ModuleBase`

What the base class promises to the hooks of a derived class is a small protocol over hook
invocations alone, `Phase.next`. Every sequence of lifecycle calls, with any hook failing
at any time, produces a hook trace of that protocol (`run_follows`), and the counting and
ordering facts follow from acceptance.
-/

namespace ModuleContext.Framework
open Foundation

/-- A public call on a module. The hooks of a call do not themselves call the module. -/
inductive Call where
  | init (ctx : IContext) (hooks : Hooks)
  | start (hooks : Hooks)
  | stop (hooks : Hooks)
  | fini (hooks : Hooks)
  | setModuleName (name : String)

namespace ModuleBase

def apply (m : ModuleBase) : Call → Outcome
  | .init ctx hooks => m.init ctx hooks
  | .start hooks => m.start hooks
  | .stop hooks => m.stop hooks
  | .fini hooks => m.fini hooks
  | .setModuleName name => ⟨(m.setModuleName name).1, (m.setModuleName name).2, []⟩

/-- A sequence of calls: the module it leaves and the hooks it ran, oldest first. -/
def run (m : ModuleBase) : List Call → ModuleBase × List HookCall
  | [] => (m, [])
  | call :: calls =>
      let next := (m.apply call).module.run calls
      (next.1, (m.apply call).calls ++ next.2)

end ModuleBase

/-- The protocol's view of a module: no context, prepared by `OnInit`, activated by
`OnStart`, or activated with a failed `OnStop` behind it. -/
inductive Phase where
  | absent
  | prepared
  | active
  | unstopped
  deriving DecidableEq, Repr

namespace Phase

/-- The hook invocations the protocol allows, and the phase each leads to. -/
def next : Phase → Hook → Bool → Option Phase
  | .absent, .onInit, ok => some (if ok then .prepared else .absent)
  | .prepared, .onStart, ok => some (if ok then .active else .prepared)
  | .prepared, .onFini, _ => some .absent
  | .active, .onStop, ok => some (if ok then .prepared else .unstopped)
  | .unstopped, .onStop, ok => some (if ok then .prepared else .unstopped)
  | .unstopped, .onFini, _ => some .absent
  | _, _, _ => none

/-- Runs the protocol over a hook trace. -/
def accept : Phase → List HookCall → Option Phase
  | phase, [] => some phase
  | phase, call :: trace => (phase.next call.hook (isOk call.result)).bind (accept · trace)

theorem accept_append (phase : Phase) (first second : List HookCall) :
    phase.accept (first ++ second) = (phase.accept first).bind (accept · second) := by
  induction first generalizing phase with
  | nil => rfl
  | cons call first ih =>
    simp only [List.cons_append, accept]
    cases phase.next call.hook (isOk call.result) with
    | none => rfl
    | some after => exact ih after

/-- One while `OnFini` is owed, zero otherwise. -/
def owed : Phase → Nat
  | .absent => 0
  | _ => 1

/-- The phase that a lifecycle state stands for. A `Started` module whose last `OnStop`
failed is in the same state as one that was never stopped. -/
def Matches : Phase → ModuleState → Prop
  | .absent, state => state = .created ∨ state = .fini
  | .prepared, state => state = .inited ∨ state = .stopped
  | .active, state => state = .started
  | .unstopped, state => state = .started

end Phase

def isInitOk (call : HookCall) : Bool := call.hook == .onInit && isOk call.result

def isFini (call : HookCall) : Bool := call.hook == .onFini

/-- Along an accepted trace the successful `OnInit` runs and the `OnFini` runs balance up
to what the two phases owe. -/
theorem accept_balance {phase after : Phase} {trace : List HookCall}
    (accepted : phase.accept trace = some after) :
    phase.owed + trace.countP isInitOk = trace.countP isFini + after.owed := by
  induction trace generalizing phase with
  | nil =>
    simp only [Phase.accept, Option.some.injEq] at accepted
    simp [accepted]
  | cons call trace ih =>
    obtain ⟨hook, module, result⟩ := call
    simp only [Phase.accept, Option.bind_eq_some_iff] at accepted
    obtain ⟨middle, stepped, rest⟩ := accepted
    have balance := ih rest
    cases phase <;> cases hook <;> cases outcome : isOk result <;>
      simp only [Phase.next, outcome, Option.some.injEq, reduceCtorEq, if_true, if_false,
        Bool.false_eq_true] at stepped <;>
      subst stepped <;>
      simp [isInitOk, isFini, outcome, Phase.owed] at balance ⊢ <;> omega

/-- From `active` the protocol allows nothing but `OnStop`. -/
theorem hook_of_active {call : HookCall} {trace : List HookCall} {after : Phase}
    (accepted : Phase.active.accept (call :: trace) = some after) : call.hook = .onStop := by
  obtain ⟨hook, module, result⟩ := call
  cases hook <;> simp [Phase.accept, Phase.next] at accepted ⊢

/-- The part of a split trace before, at and after one invocation is accepted piecewise. -/
theorem accept_split {phase after : Phase} {first second : List HookCall} {call : HookCall}
    (accepted : phase.accept (first ++ call :: second) = some after) :
    ∃ before middle, phase.accept first = some before ∧
      before.next call.hook (isOk call.result) = some middle ∧
      middle.accept second = some after := by
  rw [Phase.accept_append] at accepted
  obtain ⟨before, left, right⟩ := Option.bind_eq_some_iff.mp accepted
  simp only [Phase.accept, Option.bind_eq_some_iff] at right
  obtain ⟨middle, stepped, rest⟩ := right
  exact ⟨before, middle, left, stepped, rest⟩

/-- Between two `OnInit` runs, the first of them successful and none in between, there is
exactly one `OnFini`. -/
theorem one_fini_between {phase after : Phase} {first between last : List HookCall}
    {opened reopened : HookCall}
    (accepted : phase.accept (first ++ opened :: between ++ reopened :: last) = some after)
    (openedInit : opened.hook = .onInit) (openedOk : isOk opened.result = true)
    (reopenedInit : reopened.hook = .onInit)
    (consecutive : ∀ call ∈ between, call.hook ≠ .onInit) : between.countP isFini = 1 := by
  rw [List.append_assoc, List.cons_append] at accepted
  obtain ⟨before, opening, -, initStep, rest⟩ := accept_split accepted
  obtain ⟨closing, _, middle, reinitStep, -⟩ := accept_split rest
  have balance := accept_balance middle
  have noInit : between.countP isInitOk = 0 := by
    rw [List.countP_eq_zero]
    intro call member
    simp [isInitOk, consecutive call member]
  have start : opening.owed = 1 := by
    rw [openedInit, openedOk] at initStep
    cases before <;> simp [Phase.next] at initStep
    subst initStep
    rfl
  have finish : closing.owed = 0 := by
    rw [reopenedInit] at reinitStep
    cases closing <;> simp [Phase.next] at reinitStep
    rfl
  omega

/-- After a successful `OnStart` no `OnStart` or `OnFini` runs before an `OnStop` has. -/
theorem stop_between {phase after : Phase} {first between last : List HookCall}
    {started later : HookCall}
    (accepted : phase.accept (first ++ started :: between ++ later :: last) = some after)
    (startedHook : started.hook = .onStart) (startedOk : isOk started.result = true)
    (laterHook : later.hook = .onStart ∨ later.hook = .onFini) :
    ∃ call ∈ between, call.hook = .onStop := by
  rw [List.append_assoc, List.cons_append] at accepted
  obtain ⟨before, running, -, startStep, rest⟩ := accept_split accepted
  have isActive : running = .active := by
    rw [startedHook, startedOk] at startStep
    cases before <;> simp [Phase.next] at startStep
    exact startStep.symm
  subst isActive
  cases between with
  | nil =>
    have stopped := hook_of_active rest
    rcases laterHook with h | h <;> rw [h] at stopped <;> cases stopped
  | cons call between => exact ⟨call, List.mem_cons_self, hook_of_active rest⟩

namespace ModuleBase

/-- The context is set exactly between a successful `Init` and the next `Fini`. -/
def CtxMatches (m : ModuleBase) : Prop := m.ctx.isSome = isActive m.state

/-- How one hook finds its module: only `OnInit` may run without a prepared state, and
`OnStop` only runs while the state is `Started`. -/
def CallSound (call : HookCall) : Prop :=
  (call.hook ≠ .onInit → call.module.ctx.isSome = true) ∧
  (call.hook = .onStop → call.module.state = .started)

/-- Hooks that the protocol allows from a phase, each run in a sound state, with a phase behind
them that is the one of the module they leave. -/
structure Follows (phase : Phase) (calls : List HookCall) (m : ModuleBase) : Prop where
  ctxMatches : m.CtxMatches
  sound : ∀ c ∈ calls, CallSound c
  accepted : ∃ after, phase.accept calls = some after ∧ after.Matches m.state

variable {m : ModuleBase} {phase : Phase}

/-- The context of a module in one of the active states is set. -/
theorem CtxMatches.isSet (ctxMatches : m.CtxMatches) (active : isActive m.state = true) :
    m.ctx.isSome = true := ctxMatches.trans active

theorem Follows.refl (ctxMatches : m.CtxMatches) (matched : phase.Matches m.state) :
    Follows phase [] m :=
  ⟨ctxMatches, by simp, phase, rfl, matched⟩

theorem init_follows (ctxMatches : m.CtxMatches) (matched : phase.Matches m.state)
    (ctx : IContext) (hooks : Hooks) :
    Follows phase (m.init ctx hooks).calls (m.init ctx hooks).module := by
  cases phase with
  | absent =>
    rw [init_of_ready matched]
    cases outcome : hooks.onInit with
    | error e =>
      refine ⟨?_, by simp [CallSound], .absent, by simp [Phase.accept, Phase.next, isOk], matched⟩
      rcases matched with h | h <;> simp [CtxMatches, h, isActive]
    | ok _ =>
      exact ⟨by simp [CtxMatches, isActive], by simp [CallSound], .prepared,
        by simp [Phase.accept, Phase.next, isOk], Or.inl rfl⟩
  | prepared =>
    rw [init_of_active (by rcases matched with h | h <;> rw [h] <;> rfl)]
    exact .refl ctxMatches matched
  | active =>
    rw [init_of_active (by rw [matched]; rfl)]
    exact .refl ctxMatches matched
  | unstopped =>
    rw [init_of_active (by rw [matched]; rfl)]
    exact .refl ctxMatches matched

theorem start_follows (ctxMatches : m.CtxMatches) (matched : phase.Matches m.state)
    (hooks : Hooks) : Follows phase (m.start hooks).calls (m.start hooks).module := by
  cases phase with
  | absent =>
    rw [start_of_not_ready (by rcases matched with h | h <;> simp [h])]
    exact .refl ctxMatches matched
  | prepared =>
    rw [start_of_ready matched]
    have set : m.ctx.isSome = true :=
      ctxMatches.isSet (by rcases matched with h | h <;> rw [h] <;> rfl)
    cases outcome : hooks.onStart with
    | error e =>
      exact ⟨ctxMatches, by simp [CallSound, set], .prepared,
        by simp [Phase.accept, Phase.next, isOk], matched⟩
    | ok _ =>
      exact ⟨by simp [CtxMatches, isActive, set], by simp [CallSound, set], .active,
        by simp [Phase.accept, Phase.next, isOk], rfl⟩
  | active =>
    rw [start_of_not_ready (by rw [matched]; simp)]
    exact .refl ctxMatches matched
  | unstopped =>
    rw [start_of_not_ready (by rw [matched]; simp)]
    exact .refl ctxMatches matched

theorem stop_follows (ctxMatches : m.CtxMatches) (matched : phase.Matches m.state)
    (hooks : Hooks) : Follows phase (m.stop hooks).calls (m.stop hooks).module := by
  by_cases running : m.state = .started
  · have set : m.ctx.isSome = true := ctxMatches.isSet (by rw [running]; rfl)
    rw [stop_of_started running]
    cases outcome : hooks.onStop with
    | error e =>
      refine ⟨ctxMatches, by simp [CallSound, set, running], .unstopped, ?_, running⟩
      cases phase <;> simp [Phase.Matches, running] at matched <;>
        simp [Phase.accept, Phase.next, isOk]
    | ok _ =>
      refine ⟨by simp [CtxMatches, isActive, set], by simp [CallSound, set, running],
        .prepared, ?_, Or.inr rfl⟩
      cases phase <;> simp [Phase.Matches, running] at matched <;>
        simp [Phase.accept, Phase.next, isOk]
  · rw [stop_of_not_started running]
    exact .refl ctxMatches matched

theorem fini_follows (ctxMatches : m.CtxMatches) (matched : phase.Matches m.state)
    (hooks : Hooks) : Follows phase (m.fini hooks).calls (m.fini hooks).module := by
  cases state : m.state with
  | created =>
    rw [fini_of_created state]
    refine .refl (by simp [CtxMatches, isActive]) ?_
    cases phase <;> simp [Phase.Matches, state] at matched ⊢
  | fini =>
    rw [fini_of_fini state]
    exact .refl ctxMatches matched
  | started =>
    rw [fini_of_started state]
    have set : m.ctx.isSome = true := ctxMatches.isSet (by rw [state]; rfl)
    refine ⟨by simp [CtxMatches, isActive], by simp [CallSound, set, state], .absent, ?_,
      Or.inr rfl⟩
    -- whichever way `OnStop` goes, the phase behind it still allows `OnFini`
    cases phase <;> simp [Phase.Matches, state] at matched <;>
      cases outcome : isOk hooks.onStop <;> simp [Phase.accept, Phase.next, outcome]
  | inited | stopped =>
    rw [fini_of_idle (by simp [state])]
    have set : m.ctx.isSome = true := ctxMatches.isSet (by rw [state]; rfl)
    refine ⟨by simp [CtxMatches, isActive], by simp [CallSound, set], .absent, ?_, Or.inr rfl⟩
    cases phase <;> simp [Phase.Matches, state] at matched
    simp [Phase.accept, Phase.next]

theorem setModuleName_follows (ctxMatches : m.CtxMatches) (matched : phase.Matches m.state)
    (name : String) : Follows phase [] (m.setModuleName name).2 := by
  have frame : (m.setModuleName name).2.state = m.state ∧
      (m.setModuleName name).2.ctx = m.ctx := by
    unfold setModuleName
    split
    · exact ⟨rfl, rfl⟩
    · split <;> exact ⟨rfl, rfl⟩
  refine .refl ?_ ?_
  · simp only [CtxMatches, frame]
    exact ctxMatches
  · simp only [frame]
    exact matched

/-- One call runs hooks that the protocol allows. -/
theorem apply_follows (ctxMatches : m.CtxMatches) (matched : phase.Matches m.state)
    (call : Call) : Follows phase (m.apply call).calls (m.apply call).module := by
  cases call with
  | init ctx hooks => exact init_follows ctxMatches matched ctx hooks
  | start hooks => exact start_follows ctxMatches matched hooks
  | stop hooks => exact stop_follows ctxMatches matched hooks
  | fini hooks => exact fini_follows ctxMatches matched hooks
  | setModuleName name => exact setModuleName_follows ctxMatches matched name

/-- Every sequence of calls produces a trace of the protocol. -/
theorem run_follows (ctxMatches : m.CtxMatches) (matched : phase.Matches m.state)
    (calls : List Call) : Follows phase (m.run calls).2 (m.run calls).1 := by
  induction calls generalizing m phase with
  | nil => exact .refl ctxMatches matched
  | cons call calls ih =>
    obtain ⟨ctxNext, soundNext, middle, acceptNext, matchNext⟩ :=
      apply_follows ctxMatches matched call
    obtain ⟨ctxEnd, soundEnd, after, acceptEnd, matchEnd⟩ := ih ctxNext matchNext
    refine ⟨ctxEnd, ?_, after, ?_, matchEnd⟩
    · intro c member
      rcases List.mem_append.mp member with here | later
      · exact soundNext c here
      · exact soundEnd c later
    · simp only [run, Phase.accept_append, acceptNext, Option.bind_some]
      exact acceptEnd

theorem owed_of_matches {phase : Phase} {state : ModuleState} (matched : phase.Matches state) :
    phase.owed = if isActive state then 1 else 0 := by
  cases phase <;> simp only [Phase.Matches] at matched
  · rcases matched with h | h <;> rw [h] <;> rfl
  · rcases matched with h | h <;> rw [h] <;> rfl
  all_goals rw [matched]; rfl

/-- An `Init`, `Start` or `Stop` that fails leaves the module as it was, provided its
context matches its state. -/
theorem failed_apply {m : ModuleBase} (ctxMatches : m.CtxMatches) {call : Call}
    (kind : (∃ ctx hooks, call = .init ctx hooks) ∨ (∃ hooks, call = .start hooks) ∨
      ∃ hooks, call = .stop hooks)
    (failed : isOk (m.apply call).result = false) : (m.apply call).module = m := by
  rcases kind with ⟨ctx, hooks, rfl⟩ | ⟨hooks, rfl⟩ | ⟨hooks, rfl⟩
  · cases active : isActive m.state with
    | true => rw [apply, init_of_active active]
    | false =>
      have ready : m.state = .created ∨ m.state = .fini := by
        cases h : m.state <;> simp [h, isActive] at active ⊢
      have cleared : m.ctx = none := by
        rw [CtxMatches, active] at ctxMatches
        simpa using ctxMatches
      rw [apply, init_of_ready ready] at failed ⊢
      cases outcome : hooks.onInit with
      | error e => cases m; simp at cleared; simp [cleared]
      | ok _ => simp [outcome, makeSuccess] at failed
  · by_cases ready : m.state = .inited ∨ m.state = .stopped
    · rw [apply, start_of_ready ready] at failed ⊢
      cases outcome : hooks.onStart with
      | error e => rfl
      | ok _ => simp [outcome, makeSuccess] at failed
    · rw [apply, start_of_not_ready (not_or.mp ready)]
  · by_cases running : m.state = .started
    · rw [apply, stop_of_started running] at failed ⊢
      cases outcome : hooks.onStop with
      | error e => rfl
      | ok _ => simp [outcome, makeSuccess] at failed
    · rw [apply, stop_of_not_started running]

/-- The lifecycle law: for any calls and any hook outcomes, (a) the context follows the
state and is set for every hook after `OnInit`, (b) each successful `OnInit` is paid back by
exactly one `OnFini`, (c) `OnStop` runs out of `Started` only and separates a successful
`OnStart` from what follows, (d) a failed `Init`, `Start` or `Stop` changes nothing. -/
theorem lifecycle_law (moduleType : String) (calls : List Call) :
    let m := ((construct moduleType).run calls).1
    let trace := ((construct moduleType).run calls).2
    ((m.ctx.isSome = true ↔ m.state = .inited ∨ m.state = .started ∨ m.state = .stopped) ∧
      ∀ c ∈ trace, c.hook ≠ .onInit → c.module.ctx.isSome = true) ∧
    (trace.countP isInitOk = trace.countP isFini + (if isActive m.state then 1 else 0) ∧
      ∀ first opened between reopened last,
        trace = first ++ opened :: between ++ reopened :: last →
        opened.hook = .onInit → isOk opened.result = true → reopened.hook = .onInit →
        (∀ c ∈ between, c.hook ≠ .onInit) → between.countP isFini = 1) ∧
    ((∀ c ∈ trace, c.hook = .onStop → c.module.state = .started) ∧
      ∀ first started between later last,
        trace = first ++ started :: between ++ later :: last →
        started.hook = .onStart → isOk started.result = true →
        later.hook = .onStart ∨ later.hook = .onFini → ∃ c ∈ between, c.hook = .onStop) ∧
    (∀ call, ((∃ ctx hooks, call = .init ctx hooks) ∨ (∃ hooks, call = .start hooks) ∨
        ∃ hooks, call = .stop hooks) →
      isOk (m.apply call).result = false →
      (m.apply call).module.state = m.state ∧ (m.apply call).module.ctx = m.ctx) := by
  intro m trace
  obtain ⟨ctxMatches, sound, after, accepted, matched⟩ :=
    @run_follows (construct moduleType) .absent rfl (Or.inl rfl) calls
  change Phase.absent.accept trace = some after at accepted
  have balance := accept_balance accepted
  rw [owed_of_matches matched] at balance
  refine ⟨⟨?_, fun c member => (sound c member).1⟩, ⟨by simpa [Phase.owed] using balance, ?_⟩,
    ⟨fun c member => (sound c member).2, ?_⟩, ?_⟩
  · rw [show m.ctx.isSome = isActive m.state from ctxMatches]
    cases m.state <;> simp [isActive]
  · intro first opened between reopened last split openedInit openedOk reopenedInit consecutive
    exact one_fini_between (split ▸ accepted) openedInit openedOk reopenedInit consecutive
  · intro first started between later last split startedHook startedOk laterHook
    exact stop_between (split ▸ accepted) startedHook startedOk laterHook
  · intro call kind failed
    rw [failed_apply ctxMatches kind failed]
    exact ⟨rfl, rfl⟩

end ModuleBase

end ModuleContext.Framework
