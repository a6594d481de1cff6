import ModuleContext.RabbitMqBus.BusModule.State

/-!
# What a step of the bus module can do

Every step as one case, with what it requires and what it leaves.
-/

namespace ModuleContext.RabbitMqBus.RabbitMqBusModule
open Foundation Misc Framework
open Driver (HandlerOutcome)

/-- The calls of the lifecycle methods. -/
inductive LifecycleCall : Label → Prop where
  | init (ctx : IContext) (read : Option (Result ConfigValue)) : LifecycleCall (.init ctx read)
  | start : LifecycleCall .start
  | stop : LifecycleCall .stop
  | fini : LifecycleCall .fini

/-- The calls that run `OnStop`. -/
inductive StopCall : Label → StopCaller → Prop where
  | stop : StopCall .stop .stop
  | fini : StopCall .fini .fini

/-- The cases of a step. A lifecycle method that its guard turns away does nothing. -/
inductive Stepped (m : RabbitMqBusModule) : Label → RabbitMqBusModule → Prop where
  | turnedAway {l : Label} : m.pc = .idle → LifecycleCall l → Stepped m l m
  | initFailed {ctx : IContext} {read : Option (Result ConfigValue)} {e : Error} :
      m.pc = .idle → isValidTransition m.base.state .inited = true →
      Stepped m (.init ctx read) (m.finishInit ctx (.error e))
  | initRead {ctx : IContext} {read : Option (Result ConfigValue)} {config : RabbitMqBusConfig} :
      m.pc = .idle → isValidTransition m.base.state .inited = true →
      readConfig read = some (.ok config) →
      Stepped m (.init ctx read) { m with pc := .initCommit ctx config }
  | initCommit {ctx : IContext} {config : RabbitMqBusConfig} : m.pc = .initCommit ctx config →
      Stepped m .initCommit ((m.commitConfig config).finishInit ctx makeSuccess)
  | startEntered : m.pc = .idle → isValidTransition m.base.state .started = true →
      Stepped m .start { m with pc := .startRead }
  | startRead : m.pc = .startRead → Stepped m .startRead m.readForStart
  | poolRefused {config : RabbitMqBusConfig} {pool : WorkerPool} {e : Error} :
      m.pc = .startPool config pool →
      Stepped m (.startPool (.error e)) (m.finishStart (.error e))
  | poolStarted {config : RabbitMqBusConfig} {pool : WorkerPool} :
      m.pc = .startPool config pool →
      Stepped m (.startPool (.ok ())) { m with pc := .installDriver config pool }
  | installDriver {config : RabbitMqBusConfig} {pool : WorkerPool} :
      m.pc = .installDriver config pool → Stepped m .installDriver (m.installDriver config)
  | startDriver {id : Nat} {driver : DriverObject} {refused : Option Error} :
      m.pc = .startDriver id → m.drivers[id]? = some driver →
      Stepped m (.startDriver refused) (m.startDriver id driver refused)
  | abandonDriver {e : Error} : m.pc = .abandonDriver e →
      Stepped m .abandonDriver
        ({ m with shared := { m.shared with driver := none } }.finishStart (.error e))
  | stopEntered {l : Label} {caller : StopCaller} : m.pc = .idle → StopCall l caller →
      isValidTransition m.base.state .stopped = true →
      Stepped m l { m with pc := .stopRead caller }
  | stopRead {caller : StopCaller} : m.pc = .stopRead caller →
      Stepped m .stopRead { m with pc := .requestStop m.shared.driver m.shared.workerPool caller }
  | nothingToStop {pool : Option WorkerPool} {caller : StopCaller} :
      m.pc = .requestStop none pool caller →
      Stepped m .requestStop { m with pc := .shutdownPool pool caller }
  | requestStop {id : Nat} {pool : Option WorkerPool} {caller : StopCaller}
      {driver : DriverObject} : m.pc = .requestStop (some id) pool caller →
      m.drivers[id]? = some driver →
      Stepped m .requestStop { m.setDriver id { driver with stopRequested := true } with
        pc := .joinDriver id pool caller }
  | joinDriver {id : Nat} {pool : Option WorkerPool} {caller : StopCaller}
      {driver : DriverObject} : m.pc = .joinDriver id pool caller →
      m.drivers[id]? = some driver → (driver.joinable = true → driver.isRunning = false) →
      Stepped m .joinDriver { m.setDriver id { driver with joinable := false } with
        pc := .shutdownPool pool caller }
  | shutdownPool {pool : Option WorkerPool} {caller : StopCaller} {answer : Result Unit} :
      m.pc = .shutdownPool pool caller →
      Stepped m (.shutdownPool answer) (m.shutdownPool pool caller answer)
  | finiEntered : m.pc = .idle → isValidTransition m.base.state .stopped = false →
      Stepped m .fini { m with pc := .finiClear makeSuccess }
  | finiUnused : m.pc = .idle → isValidTransition m.base.state .stopped = false →
      Stepped m .fini (m.finishFini makeSuccess)
  | finiClear {stopped : Result Unit} : m.pc = .finiClear stopped →
      Stepped m .finiClear (m.clearShared.finishFini stopped)
  | registerHandler {consumerName : String} {handler : Option Nat} :
      Stepped m (.registerHandler consumerName handler)
        { m with shared := (m.shared.registerConsumerHandler consumerName handler).2 }
  | unregisterHandler {consumerName : String} :
      Stepped m (.unregisterHandler consumerName)
        { m with shared := (m.shared.unregisterConsumerHandler consumerName).2 }
  | enterCallback {id : Nat} {driver : DriverObject} {incoming : IncomingMessage}
      {delivery : DeliveryContext} : m.drivers[id]? = some driver → driver.thread = .looping →
      Stepped m (.enterCallback id incoming delivery)
        { m.setDriver id { driver with thread := .inCallback m.deliveries.length } with
          deliveries :=
            m.deliveries ++ [⟨m.shared.snapshot id incoming delivery, .dispatched⟩] }
  | submit {id n : Nat} {driver : DriverObject} {delivery : Delivery} {accepted : Bool} :
      m.drivers[id]? = some driver → driver.thread = .inCallback n →
      m.deliveries[n]? = some delivery →
      Stepped m (.submit id accepted)
        ((m.submit n delivery accepted).setDriver id { driver with thread := .looping })
  | threadEnds {id : Nat} {driver : DriverObject} : m.drivers[id]? = some driver →
      driver.thread = .looping →
      Stepped m (.threadEnds id) (m.setDriver id { driver with thread := .ended })
  | runHandler {n : Nat} {snapshot : Snapshot} {outcome : HandlerOutcome} :
      m.deliveries[n]? = some ⟨snapshot, .queued⟩ →
      Stepped m (.runHandler n outcome) (m.runHandler n ⟨snapshot, .queued⟩ outcome)
  | finishTask {n : Nat} {snapshot : Snapshot} {ending : Ending} :
      m.deliveries[n]? = some ⟨snapshot, .handled ending⟩ →
      Stepped m (.finishTask n) (m.complete n ⟨snapshot, .handled ending⟩ ending)

/-! ## What becomes of deliveries -/

/-- Only deliveries and what is recorded about them change. -/
def LedgerOnly (m m' : RabbitMqBusModule) : Prop :=
  ∃ deliveries handlerCalls completions,
    m' = { m with deliveries, handlerCalls, completions }

theorem ledgerOnly_complete (n : Nat) (delivery : Delivery) (ending : Ending)
    (m : RabbitMqBusModule) : LedgerOnly m (m.complete n delivery ending) := by
  unfold complete
  dsimp only
  split
  · exact ⟨_, _, _, rfl⟩
  · split
    · exact ⟨_, _, _, rfl⟩
    · exact ⟨_, _, _, rfl⟩

theorem ledgerOnly_submit (n : Nat) (delivery : Delivery) (accepted : Bool)
    (m : RabbitMqBusModule) : LedgerOnly m (m.submit n delivery accepted) := by
  unfold submit
  split
  · exact ledgerOnly_complete n delivery .noPool m
  · split
    · exact ⟨_, _, _, rfl⟩
    · exact ledgerOnly_complete n delivery .refused m

theorem ledgerOnly_runHandler (n : Nat) (delivery : Delivery) (outcome : HandlerOutcome)
    (m : RabbitMqBusModule) : LedgerOnly m (m.runHandler n delivery outcome) := by
  unfold runHandler
  split
  · exact ⟨_, _, _, rfl⟩
  · exact ⟨_, _, _, rfl⟩

/-! ## Steps that go on or return -/

theorem readForStart_eq (m : RabbitMqBusModule) :
    ∃ base pc, m.readForStart = { m with base, pc } := by
  unfold readForStart
  split
  · exact ⟨_, _, rfl⟩
  · split
    · exact ⟨_, _, rfl⟩
    · exact ⟨_, _, rfl⟩

theorem startDriver_eq (id : Nat) (driver : DriverObject) (refused : Option Error)
    (m : RabbitMqBusModule) :
    ∃ base pc, m.startDriver id driver refused =
      { m.setDriver id (driver.start refused).2 with base, pc } := by
  unfold startDriver
  dsimp only
  split
  · exact ⟨_, _, rfl⟩
  · exact ⟨_, _, rfl⟩

theorem shutdownPool_eq (pool : Option WorkerPool) (caller : StopCaller) (answer : Result Unit)
    (m : RabbitMqBusModule) :
    ∃ base pc, m.shutdownPool pool caller answer = { m with base, pc } := by
  unfold shutdownPool
  cases caller with
  | stop => exact ⟨_, _, rfl⟩
  | fini => exact ⟨_, _, rfl⟩

/-! ## The cases -/

theorem lifecycleStep_cases {m m' : RabbitMqBusModule} {l : Label}
    (taken : m.lifecycleStep l = some m') : Stepped m l m' := by
  unfold lifecycleStep at taken
  split at taken
  · rename_i ctx read pc
    split at taken
    · rename_i valid
      split at taken
      · cases taken
      · cases taken
        exact .initFailed pc valid
      · rename_i config parsed
        cases taken
        exact .initRead pc valid parsed
    · cases taken
      exact .turnedAway pc (.init ctx read)
  · rename_i pc
    cases taken
    exact .initCommit pc
  · rename_i pc
    cases taken
    split
    · rename_i valid
      exact .startEntered pc valid
    · exact .turnedAway pc .start
  · rename_i pc
    cases taken
    exact .startRead pc
  · rename_i pc
    split at taken
    · cases taken
      exact .poolRefused pc
    · cases taken
      exact .poolStarted pc
  · rename_i pc
    cases taken
    exact .installDriver pc
  · rename_i pc
    split at taken
    · cases taken
    · rename_i found
      cases taken
      exact .startDriver pc found
  · rename_i pc
    cases taken
    exact .abandonDriver pc
  · rename_i pc
    cases taken
    split
    · rename_i valid
      exact .stopEntered pc .stop valid
    · exact .turnedAway pc .stop
  · rename_i pc
    cases taken
    exact .stopRead pc
  · rename_i driver pool caller pc
    split at taken
    · cases taken
      exact .nothingToStop pc
    · split at taken
      · cases taken
      · rename_i found
        cases taken
        exact .requestStop pc found
  · rename_i pc
    split at taken
    · cases taken
    · rename_i driver found
      split at taken
      · cases taken
      · rename_i rests
        cases taken
        refine .joinDriver pc found ?_
        intro joinable
        simpa [joinable] using rests
  · rename_i pc
    cases taken
    exact .shutdownPool pc
  · rename_i pc
    split at taken
    · split at taken
      · rename_i valid
        cases taken
        exact .stopEntered pc .fini valid
      · rename_i notStarted
        rw [Bool.not_eq_true] at notStarted
        split at taken
        · cases taken
          exact .finiEntered pc notStarted
        · cases taken
          exact .finiUnused pc notStarted
    · cases taken
      exact .turnedAway pc .fini
  · rename_i pc
    cases taken
    exact .finiClear pc
  · cases taken

theorem driverStep_cases {m m' : RabbitMqBusModule} {id : Nat} {driver : DriverObject} {l : Label}
    (found : m.drivers[id]? = some driver)
    (label : (∃ incoming delivery, l = .enterCallback id incoming delivery) ∨
      (∃ accepted, l = .submit id accepted) ∨ l = .threadEnds id)
    (taken : m.driverStep id driver l = some m') : Stepped m l m' := by
  rcases label with ⟨incoming, delivery, rfl⟩ | ⟨accepted, rfl⟩ | rfl
  · cases thread : driver.thread <;> simp only [driverStep, thread, reduceCtorEq] at taken
    case looping =>
      cases taken
      exact .enterCallback found thread
  · cases thread : driver.thread <;> simp only [driverStep, thread, reduceCtorEq] at taken
    case inCallback n =>
      split at taken
      · cases taken
      · rename_i there
        cases taken
        exact .submit found thread there
  · cases thread : driver.thread <;> simp only [driverStep, thread, reduceCtorEq] at taken
    case looping =>
      cases taken
      exact .threadEnds found thread

theorem step_cases {m m' : RabbitMqBusModule} {l : Label} (taken : m.step l = some m') :
    Stepped m l m' := by
  cases l
  case registerHandler consumerName handler =>
    cases taken
    exact .registerHandler
  case unregisterHandler consumerName =>
    cases taken
    exact .unregisterHandler
  case enterCallback id incoming delivery =>
    simp only [step] at taken
    split at taken
    · cases taken
    · rename_i found
      exact driverStep_cases found (.inl ⟨incoming, delivery, rfl⟩) taken
  case submit id accepted =>
    simp only [step] at taken
    split at taken
    · cases taken
    · rename_i found
      exact driverStep_cases found (.inr (.inl ⟨accepted, rfl⟩)) taken
  case threadEnds id =>
    simp only [step] at taken
    split at taken
    · cases taken
    · rename_i found
      exact driverStep_cases found (.inr (.inr rfl)) taken
  case runHandler n outcome =>
    simp only [step] at taken
    split at taken
    · rename_i found
      cases taken
      exact .runHandler found
    · cases taken
  case finishTask n =>
    simp only [step] at taken
    split at taken
    · rename_i found
      cases taken
      exact .finishTask found
    · cases taken
  all_goals exact lifecycleStep_cases taken

end ModuleContext.RabbitMqBus.RabbitMqBusModule
