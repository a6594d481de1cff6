import ModuleContext.RabbitMqBus.BusModule.Steps

/-!
# The invariant of the shared state

The shared state is replaced piece by piece, in locked sections between which other threads act.
What carries the invariant over these gaps is the lifecycle: a driver has a thread only while
the module is `Started` or about to stop, and then it is the driver of the shared state.
-/

namespace ModuleContext.RabbitMqBus.RabbitMqBusModule
open Foundation Misc Framework

/-- No driver of the module has a thread that is not joined. -/
def NoThread (m : RabbitMqBusModule) : Prop :=
  ∀ (id : Nat) (driver : DriverObject), m.drivers[id]? = some driver → driver.joinable = false

/-- The states out of which `Start` may be called. -/
def Startable (base : ModuleBase) : Prop := base.state = .inited ∨ base.state = .stopped

/-- What holds while the controlling thread is at a place; `quiet` says that there is no
thread. -/
def LifecyclePc.Allows (base : ModuleBase) (shared : SharedState) (quiet : Prop) :
    LifecyclePc → Prop
  | .idle => base.state ≠ .started → quiet
  | .initCommit _ _ => quiet
  | .startRead => Startable base ∧ quiet
  | .startPool _ pool | .installDriver _ pool =>
      Startable base ∧ quiet ∧ shared.workerPool = some pool
  | .startDriver id => Startable base ∧ quiet ∧ shared.driver = some id
  | .abandonDriver _ => quiet
  | .stopRead _ => True
  | .requestStop driver _ _ => driver = shared.driver
  | .joinDriver id _ _ => shared.driver = some id
  | .shutdownPool _ _ => quiet
  | .finiClear _ => quiet

theorem LifecyclePc.Allows.mono {base : ModuleBase} {shared : SharedState} {quiet quiet' : Prop}
    {pc : LifecyclePc} (allowed : pc.Allows base shared quiet) (weaker : quiet → quiet') :
    pc.Allows base shared quiet' := by
  cases pc with
  | idle => exact fun notStarted => weaker (allowed notStarted)
  | initCommit ctx config => exact weaker allowed
  | startRead => exact ⟨allowed.1, weaker allowed.2⟩
  | startPool config pool => exact ⟨allowed.1, weaker allowed.2.1, allowed.2.2⟩
  | installDriver config pool => exact ⟨allowed.1, weaker allowed.2.1, allowed.2.2⟩
  | startDriver id => exact ⟨allowed.1, weaker allowed.2.1, allowed.2.2⟩
  | abandonDriver e => exact weaker allowed
  | stopRead caller => trivial
  | requestStop driver pool caller => exact allowed
  | joinDriver id pool caller => exact allowed
  | shutdownPool pool caller => exact weaker allowed
  | finiClear stopped => exact weaker allowed

/-- The invariant of the whole module. -/
structure Invariant (m : RabbitMqBusModule) : Prop where
  configured : m.shared.config.isSome = true
  handlers : m.shared.HandlersKnown
  pool : m.shared.driver.isSome = true → m.shared.workerPool.isSome = true
  joinable : ∀ (id : Nat) (driver : DriverObject), m.drivers[id]? = some driver →
    driver.isRunning = true → driver.joinable = true
  current : ∀ (id : Nat) (driver : DriverObject), m.drivers[id]? = some driver →
    driver.joinable = true → m.shared.driver = some id
  control : m.pc.Allows m.base m.shared m.NoThread

theorem invariant_new : Invariant new where
  configured := rfl
  handlers := fun _ member => absurd member (AList.notMem_empty _)
  pool := nofun
  joinable := nofun
  current := nofun
  control := fun _ _ _ => nofun

section Preserved

variable {m : RabbitMqBusModule}

/-- The controlling thread goes on to another place. -/
theorem Invariant.goto (holds : m.Invariant) {p : LifecyclePc}
    (control : p.Allows m.base m.shared m.NoThread) : Invariant { m with pc := p } :=
  ⟨holds.configured, holds.handlers, holds.pool, holds.joinable, holds.current, control⟩

/-- A lifecycle method returns while there is no thread. -/
theorem Invariant.rest (holds : m.Invariant) (quiet : m.NoThread) (base : ModuleBase) :
    Invariant { m with base, pc := .idle } :=
  ⟨holds.configured, holds.handlers, holds.pool, holds.joinable, holds.current, fun _ => quiet⟩

/-- The shared state is replaced while there is no thread. -/
theorem Invariant.replace (holds : m.Invariant) (quiet : m.NoThread) (shared : SharedState)
    (configured : shared.config.isSome = true) (handlers : shared.HandlersKnown)
    (pool : shared.driver.isSome = true → shared.workerPool.isSome = true) (base : ModuleBase)
    (nextPool : Nat) : Invariant { m with base, shared, nextPool, pc := .idle } where
  configured := configured
  handlers := handlers
  pool := pool
  joinable := holds.joinable
  current := fun id driver found isJoinable => by
    rw [quiet id driver found] at isJoinable
    cases isJoinable
  control := fun _ => quiet

theorem handlersKnown_empty (config : Option RabbitMqBusConfig) (workerPool : Option WorkerPool)
    (driver : Option Nat) : SharedState.HandlersKnown ⟨config, ∅, workerPool, driver⟩ :=
  fun _ member => absurd member (AList.notMem_empty _)

/-- Only the handlers change. -/
theorem Invariant.setHandlers (holds : m.Invariant) {shared : SharedState}
    (change : m.shared.HandlersOnly shared) (handlers : shared.HandlersKnown) :
    Invariant { m with shared } := by
  obtain ⟨registered⟩ := change
  refine ⟨holds.configured, handlers, holds.pool, holds.joinable, holds.current, ?_⟩
  have control := holds.control
  unfold LifecyclePc.Allows at control ⊢
  exact control

theorem lookup_setDriver {id other : Nat} {driver found : DriverObject}
    (lookup : (m.setDriver id driver).drivers[other]? = some found) :
    (other = id ∧ found = driver) ∨ (other ≠ id ∧ m.drivers[other]? = some found) := by
  rw [setDriver, List.getElem?_set] at lookup
  split at lookup
  · rename_i same
    split at lookup
    · cases lookup
      exact .inl ⟨same.symm, rfl⟩
    · cases lookup
  · rename_i different
    exact .inr ⟨fun same => different same.symm, lookup⟩

/-- The thread of one driver goes on, or it is asked to stop. -/
theorem Invariant.setThread (holds : m.Invariant) {id : Nat} {driver d : DriverObject}
    (found : m.drivers[id]? = some driver) (same : d.joinable = driver.joinable)
    (running : d.isRunning = true → driver.isRunning = true) :
    Invariant (m.setDriver id d) := by
  have quiet (before : m.NoThread) : (m.setDriver id d).NoThread := by
    intro other seen lookup
    rcases lookup_setDriver lookup with ⟨rfl, rfl⟩ | ⟨-, lookup⟩
    · rw [same]
      exact before other driver found
    · exact before other seen lookup
  refine ⟨holds.configured, holds.handlers, holds.pool, ?_, ?_, ?_⟩
  · intro other seen lookup isRunning
    rcases lookup_setDriver lookup with ⟨rfl, rfl⟩ | ⟨-, lookup⟩
    · rw [same]
      exact holds.joinable other driver found (running isRunning)
    · exact holds.joinable other seen lookup isRunning
  · intro other seen lookup isJoinable
    rcases lookup_setDriver lookup with ⟨rfl, rfl⟩ | ⟨-, lookup⟩
    · exact holds.current other driver found (same ▸ isJoinable)
    · exact holds.current other seen lookup isJoinable
  · exact holds.control.mono quiet

/-- Deliveries and what is recorded about them do not matter. -/
theorem Invariant.setLedger {m' : RabbitMqBusModule} (holds : m.Invariant)
    (change : LedgerOnly m m') : m'.Invariant := by
  obtain ⟨deliveries, handlerCalls, completions, rfl⟩ := change
  exact ⟨holds.configured, holds.handlers, holds.pool, holds.joinable, holds.current,
    holds.control⟩

end Preserved

/-! ## The guards of the lifecycle -/

theorem not_started_of_init {state : ModuleState}
    (valid : isValidTransition state .inited = true) : state ≠ .started := by
  rintro rfl
  cases valid

theorem not_started_of_no_stop {state : ModuleState}
    (invalid : isValidTransition state .stopped = false) : state ≠ .started := by
  rintro rfl
  cases invalid

theorem startable_of_start {base : ModuleBase}
    (valid : isValidTransition base.state .started = true) : Startable base := by
  cases state : base.state with
  | inited => exact .inl state
  | stopped => exact .inr state
  | created =>
    rw [state] at valid
    cases valid
  | started =>
    rw [state] at valid
    cases valid
  | fini =>
    rw [state] at valid
    cases valid

theorem Startable.not_started {base : ModuleBase} (startable : Startable base) :
    base.state ≠ .started := by
  rcases startable with state | state
  · rw [state]
    nofun
  · rw [state]
    nofun

/-- A successful `OnStart` makes the module `Started`. -/
theorem finishStart_state {m : RabbitMqBusModule} (startable : Startable m.base) :
    (m.finishStart makeSuccess).base.state = .started := by
  rw [finishStart, ModuleBase.start_of_ready startable]
  rfl

/-! ## One step -/

section Step

variable {m m' : RabbitMqBusModule} {l : Label}

theorem NoThread.idle (holds : m.Invariant) (pc : m.pc = .idle) (state : m.base.state ≠ .started) :
    m.NoThread := by
  have control := holds.control
  rw [pc] at control
  exact control state

/-- The new driver has no thread yet. -/
theorem Invariant.installDriver {config : RabbitMqBusConfig} {pool : WorkerPool}
    (holds : m.Invariant) (pc : m.pc = .installDriver config pool) :
    (m.installDriver config).Invariant := by
  have control := holds.control
  rw [pc] at control
  obtain ⟨startable, quiet, hasPool⟩ := control
  have noThread : (m.installDriver config).NoThread := by
    intro id driver found
    rcases List.mem_append.mp (List.mem_of_getElem? found) with before | last
    · obtain ⟨other, there⟩ := List.mem_iff_getElem?.mp before
      exact quiet other driver there
    · rw [List.mem_singleton.mp last]
      rfl
  have running : ∀ (id : Nat) (driver : DriverObject),
      (m.installDriver config).drivers[id]? = some driver → driver.isRunning = true →
        driver.joinable = true := by
    intro id driver found isRunning
    rcases List.mem_append.mp (List.mem_of_getElem? found) with before | last
    · obtain ⟨other, there⟩ := List.mem_iff_getElem?.mp before
      exact holds.joinable other driver there isRunning
    · rw [List.mem_singleton.mp last] at isRunning
      cases isRunning
  refine ⟨holds.configured, holds.handlers, ?_, running, ?_, ⟨startable, noThread, rfl⟩⟩
  · intro _
    show m.shared.workerPool.isSome = true
    rw [hasPool]
    rfl
  · intro id driver found isJoinable
    rw [noThread id driver found] at isJoinable
    cases isJoinable

/-- With the thread of the new driver the module is `Started`; without it `OnStart` cleans up. -/
theorem Invariant.startDriver {id : Nat} {driver : DriverObject} {refused : Option Error}
    (holds : m.Invariant) (pc : m.pc = .startDriver id) (found : m.drivers[id]? = some driver) :
    (m.startDriver id driver refused).Invariant := by
  have control := holds.control
  rw [pc] at control
  obtain ⟨startable, quiet, isCurrent⟩ := control
  unfold RabbitMqBusModule.startDriver DriverObject.start
  rw [quiet id driver found]
  cases refused with
  | some e =>
    have same := holds.setThread (d := driver) found rfl fun same => same
    refine same.goto (p := .abandonDriver e) ?_
    intro other seen lookup
    rcases lookup_setDriver lookup with ⟨rfl, rfl⟩ | ⟨-, lookup⟩
    · exact quiet other seen found
    · exact quiet other seen lookup
  | none =>
    refine ⟨holds.configured, holds.handlers, holds.pool, ?_, ?_, ?_⟩
    · intro other seen lookup isRunning
      rcases lookup_setDriver lookup with ⟨rfl, rfl⟩ | ⟨-, lookup⟩
      · rfl
      · exact holds.joinable other seen lookup isRunning
    · intro other seen lookup isJoinable
      rcases lookup_setDriver lookup with ⟨rfl, rfl⟩ | ⟨-, lookup⟩
      · exact isCurrent
      · exact holds.current other seen lookup isJoinable
    · intro notStarted
      exact absurd (finishStart_state startable) notStarted

/-- Once the driver of the shared state is joined, there is no thread. -/
theorem Invariant.joinDriver {id : Nat} {pool : Option WorkerPool} {caller : StopCaller}
    {driver : DriverObject} (holds : m.Invariant) (pc : m.pc = .joinDriver id pool caller)
    (found : m.drivers[id]? = some driver)
    (rests : driver.joinable = true → driver.isRunning = false) :
    Invariant { m.setDriver id { driver with joinable := false } with
      pc := .shutdownPool pool caller } := by
  have isCurrent := holds.control
  rw [pc] at isCurrent
  have quiet : (m.setDriver id { driver with joinable := false }).NoThread := by
    intro other seen lookup
    rcases lookup_setDriver lookup with ⟨rfl, rfl⟩ | ⟨different, lookup⟩
    · rfl
    · by_contra isJoinable
      rw [Bool.not_eq_false] at isJoinable
      have same := (holds.current other seen lookup isJoinable).symm.trans isCurrent
      exact different (Option.some.inj same)
  refine ⟨holds.configured, holds.handlers, holds.pool, ?_, ?_, quiet⟩
  · intro other seen lookup isRunning
    rcases lookup_setDriver lookup with ⟨rfl, rfl⟩ | ⟨-, lookup⟩
    · have running : driver.isRunning = true := isRunning
      have ended := rests (holds.joinable other driver found running)
      rw [running] at ended
      cases ended
    · exact holds.joinable other seen lookup isRunning
  · intro other seen lookup isJoinable
    have ended : seen.joinable = false := quiet other seen lookup
    rw [ended] at isJoinable
    cases isJoinable

theorem Invariant.readForStart (holds : m.Invariant) (pc : m.pc = .startRead) :
    m.readForStart.Invariant := by
  have control := holds.control
  rw [pc] at control
  obtain ⟨startable, quiet⟩ := control
  unfold RabbitMqBusModule.readForStart
  split
  · exact holds.rest quiet _
  · rename_i pool hasPool
    split
    · exact holds.rest quiet _
    · exact holds.goto ⟨startable, quiet, hasPool⟩

theorem Invariant.shutdownPool {pool : Option WorkerPool} {caller : StopCaller}
    {answer : Result Unit} (holds : m.Invariant) (pc : m.pc = .shutdownPool pool caller) :
    (m.shutdownPool pool caller answer).Invariant := by
  have quiet := holds.control
  rw [pc] at quiet
  cases caller with
  | stop => exact holds.rest quiet _
  | fini => exact holds.goto quiet

/-- Every step keeps the invariant. -/
theorem Invariant.step (holds : m.Invariant) (stepped : Stepped m l m') : m'.Invariant := by
  have control := holds.control
  cases stepped with
  | turnedAway pc call => exact holds
  | initFailed pc valid => exact holds.rest (.idle holds pc (not_started_of_init valid)) _
  | initRead pc valid parsed =>
    exact holds.goto (NoThread.idle holds pc (not_started_of_init valid))
  | @initCommit ctx config pc =>
    rw [pc] at control
    exact holds.replace control ⟨some config, ∅, some ⟨m.nextPool, config.workerThreadCount⟩, none⟩
      rfl (handlersKnown_empty _ _ _) nofun _ _
  | startEntered pc valid =>
    have startable := startable_of_start valid
    exact holds.goto ⟨startable, .idle holds pc startable.not_started⟩
  | startRead pc => exact holds.readForStart pc
  | poolRefused pc =>
    rw [pc] at control
    exact holds.rest control.2.1 _
  | poolStarted pc =>
    rw [pc] at control
    exact holds.goto control
  | installDriver pc => exact holds.installDriver pc
  | startDriver pc found => exact holds.startDriver pc found
  | abandonDriver pc =>
    rw [pc] at control
    exact holds.replace control { m.shared with driver := none } holds.configured holds.handlers
      nofun _ _
  | stopEntered pc call valid => exact holds.goto trivial
  | stopRead pc => exact holds.goto rfl
  | nothingToStop pc =>
    rw [pc] at control
    refine holds.goto ?_
    intro id driver found
    by_contra isJoinable
    rw [Bool.not_eq_false] at isJoinable
    have isCurrent := holds.current id driver found isJoinable
    rw [← control] at isCurrent
    cases isCurrent
  | @requestStop id pool caller driver pc found =>
    rw [pc] at control
    have asked := holds.setThread (d := { driver with stopRequested := true }) found rfl
      fun running => running
    exact asked.goto (p := .joinDriver id pool caller) control.symm
  | joinDriver pc found rests => exact holds.joinDriver pc found rests
  | shutdownPool pc => exact holds.shutdownPool pc
  | finiEntered pc invalid =>
    exact holds.goto (NoThread.idle holds pc (not_started_of_no_stop invalid))
  | finiUnused pc invalid => exact holds.rest (.idle holds pc (not_started_of_no_stop invalid)) _
  | finiClear pc =>
    rw [pc] at control
    exact holds.replace control ⟨some .default, ∅, none, none⟩ rfl (handlersKnown_empty _ _ _)
      nofun _ _
  | registerHandler =>
    exact holds.setHandlers (m.shared.handlersOnly_register _ _) (holds.handlers.register _ _)
  | unregisterHandler =>
    exact holds.setHandlers (m.shared.handlersOnly_unregister _) (holds.handlers.unregister _)
  | @enterCallback id driver incoming delivery found thread =>
    have moved := holds.setThread (d := { driver with thread := .inCallback m.deliveries.length })
      found rfl fun _ => by rw [DriverObject.isRunning, thread]
    exact moved.setLedger ⟨_, _, _, rfl⟩
  | @submit id n driver delivery accepted found thread there =>
    have recorded := ledgerOnly_submit n delivery accepted m
    obtain ⟨deliveries, handlerCalls, completions, changed⟩ := recorded
    rw [changed]
    have moved := holds.setThread (d := { driver with thread := .looping }) found rfl
      fun _ => by rw [DriverObject.isRunning, thread]
    exact moved.setLedger ⟨deliveries, handlerCalls, completions, rfl⟩
  | threadEnds found thread => exact holds.setThread found rfl nofun
  | runHandler found => exact holds.setLedger (ledgerOnly_runHandler _ _ _ m)
  | finishTask found => exact holds.setLedger (ledgerOnly_complete _ _ _ m)

end Step

theorem invariant_of_run {past : List (RabbitMqBusModule × Label)} {m : RabbitMqBusModule}
    (run : ModuleRun past m) : m.Invariant :=
  run.invariant Invariant invariant_new fun _ _ _ holds taken => holds.step (step_cases taken)

/-- The thread of a driver runs. -/
def IsRunning (id : Nat) (m : RabbitMqBusModule) : Prop :=
  ∃ driver, m.drivers[id]? = some driver ∧ driver.isRunning = true

/-- A driver that runs is the driver of the shared state, next to a worker pool. -/
theorem Invariant.running {m : RabbitMqBusModule} {id : Nat} (holds : m.Invariant)
    (running : m.IsRunning id) :
    m.shared.driver = some id ∧ m.shared.workerPool.isSome = true := by
  obtain ⟨driver, found, isRunning⟩ := running
  have isCurrent := holds.current id driver found (holds.joinable id driver found isRunning)
  refine ⟨isCurrent, holds.pool ?_⟩
  rw [isCurrent]
  rfl

end ModuleContext.RabbitMqBus.RabbitMqBusModule
