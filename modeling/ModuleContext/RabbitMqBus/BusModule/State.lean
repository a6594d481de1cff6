import ModuleContext.Framework.ModuleBase
import ModuleContext.Misc.LabelledRun
import ModuleContext.RabbitMqBus.BusModule.SharedState
import ModuleContext.RabbitMqBus.Driver.Commands
import ModuleContext.RabbitMqBus.ParseBusConfig

/-!
# The bus module

`RabbitMqBusModule`: its hooks under the lifecycle of `ModuleBase`, the delivery callback that
`OnStart` hands to the driver, and the tasks of the worker pool. A hook is a sequence of steps,
one for each locked section and each call of a pool or a driver, and other threads act between
them: the driver threads, the worker threads, and threads that register handlers.

A driver is seen here from the outside: it has a thread or not, and its thread calls the
delivery callback. What a worker pool answers is an input of the step that asks it; a task that
it accepts is run once.
-/

namespace ModuleContext.RabbitMqBus
open Foundation Misc Framework
open Driver (HandlerOutcome)

namespace RabbitMqBusModule

/-- How the handling of a delivery ends. -/
inductive Ending where
  | returned (action : ConsumeAction)
  | threw
  | noHandler
  | refused
  | noPool
  deriving DecidableEq

/-- The action that the delivery is completed with. -/
def Ending.action : Ending → ConsumeAction
  | .returned action => action
  | .threw | .noHandler | .refused | .noPool => .requeue

def Ending.ofOutcome : HandlerOutcome → Ending
  | .returned action => .returned action
  | .threw => .threw

/-- Where a delivery is on its way: the callback has read the shared state, the pool has taken
its task, the task has called the handler, or the delivery is done with. -/
inductive Stage where
  | dispatched
  | queued
  | handled (ending : Ending)
  | finished (ending : Ending)
  deriving DecidableEq

/-- A delivery that was handed to the callback. -/
structure Delivery where
  snapshot : Snapshot
  stage : Stage

/-- A call of a message handler by the task of a delivery. -/
structure HandlerCall where
  delivery : Nat
  handler : Nat
  message : IncomingMessage
  outcome : HandlerOutcome

/-- A call of `CompleteDelivery` on a driver, made for a delivery. -/
structure Completion where
  delivery : Nat
  driver : Nat
  context : DeliveryContext
  action : ConsumeAction

/-- The thread of a driver: not started, in its loop, in the delivery callback, or ended. -/
inductive ThreadState where
  | absent
  | looping
  | inCallback (delivery : Nat)
  | ended
  deriving DecidableEq

/-- A `RabbitMqConnectionDriver` as the module sees it. -/
structure DriverObject where
  config : RabbitMqBusConfig
  joinable : Bool
  stopRequested : Bool
  thread : ThreadState

namespace DriverObject

def new (config : RabbitMqBusConfig) : DriverObject where
  config := config
  joinable := false
  stopRequested := false
  thread := .absent

/-- `Start`. Where the thread cannot be created, `refused` says why. -/
def start (refused : Option Error) (driver : DriverObject) : Result Unit × DriverObject :=
  if driver.joinable then
    (.error (makeInvalidState "RabbitMQ connection driver already started"), driver)
  else
    match refused with
    | some e => (.error e, driver)
    | none =>
        (makeSuccess, { driver with stopRequested := false, joinable := true, thread := .looping })

/-- The thread has something left to run. -/
def isRunning (driver : DriverObject) : Bool :=
  match driver.thread with
  | .looping | .inCallback _ => true
  | .absent | .ended => false

end DriverObject

/-- The method that runs `OnStop`. -/
inductive StopCaller where
  | stop
  | fini
  deriving DecidableEq

/-- Where the thread that controls the module is. -/
inductive LifecyclePc where
  | idle
  | initCommit (ctx : IContext) (config : RabbitMqBusConfig)
  | startRead
  | startPool (config : RabbitMqBusConfig) (pool : WorkerPool)
  | installDriver (config : RabbitMqBusConfig) (pool : WorkerPool)
  | startDriver (driver : Nat)
  | abandonDriver (e : Error)
  | stopRead (caller : StopCaller)
  | requestStop (driver : Option Nat) (pool : Option WorkerPool) (caller : StopCaller)
  | joinDriver (driver : Nat) (pool : Option WorkerPool) (caller : StopCaller)
  | shutdownPool (pool : Option WorkerPool) (caller : StopCaller)
  | finiClear (stopped : Result Unit)

end RabbitMqBusModule

open RabbitMqBusModule in
/-- A module with the drivers it has made, in order, and the deliveries these have handed to
the callback. -/
structure RabbitMqBusModule where
  base : ModuleBase
  pc : LifecyclePc
  shared : SharedState
  nextPool : Nat
  drivers : List DriverObject
  deliveries : List Delivery
  handlerCalls : List HandlerCall
  completions : List Completion

namespace RabbitMqBusModule

def new : RabbitMqBusModule where
  base := .construct "rabbitmq_bus"
  pc := .idle
  shared := .new
  nextPool := 0
  drivers := []
  deliveries := []
  handlerCalls := []
  completions := []

/-- The hooks of a call of which only one can fail. -/
def hooks : Hooks := ⟨makeSuccess, makeSuccess, makeSuccess, makeSuccess⟩

/-! The returns of the four lifecycle methods. The guard of a method and what it does to the
base object are those of `ModuleBase`. -/

def finishInit (ctx : IContext) (result : Result Unit) (m : RabbitMqBusModule) :
    RabbitMqBusModule :=
  { m with base := (m.base.init ctx { hooks with onInit := result }).module, pc := .idle }

def finishStart (result : Result Unit) (m : RabbitMqBusModule) : RabbitMqBusModule :=
  { m with base := (m.base.start { hooks with onStart := result }).module, pc := .idle }

def finishStop (result : Result Unit) (m : RabbitMqBusModule) : RabbitMqBusModule :=
  { m with base := (m.base.stop { hooks with onStop := result }).module, pc := .idle }

def finishFini (stopped : Result Unit) (m : RabbitMqBusModule) : RabbitMqBusModule :=
  { m with base := (m.base.fini { hooks with onStop := stopped }).module, pc := .idle }

/-- `OnInit` up to its locked section. There may be no module manager, or it may have no
configuration for the module. -/
def readConfig (read : Option (Result ConfigValue)) : Option (Result RabbitMqBusConfig) :=
  match read with
  | none => some (.error (makeInvalidState "Module manager is unavailable"))
  | some (.error e) => some (.error e)
  | some (.ok config) => parseBusConfig config

/-- The locked section of `OnInit`. -/
def commitConfig (config : RabbitMqBusConfig) (m : RabbitMqBusModule) : RabbitMqBusModule :=
  { m with
    shared :=
      { config := some config
        handlers := ∅
        workerPool := some ⟨m.nextPool, config.workerThreadCount⟩
        driver := none }
    nextPool := m.nextPool + 1 }

/-- The first locked section of `OnStart`, and the tests of what it has read. -/
def readForStart (m : RabbitMqBusModule) : RabbitMqBusModule :=
  match m.shared.workerPool with
  | none => m.finishStart (.error (makeInvalidState "RabbitMQ bus module is not initialized"))
  | some pool =>
  match m.shared.config with
  | none => m.finishStart (.error (makeInvalidState "RabbitMQ bus configuration is unavailable"))
  | some config => { m with pc := .startPool config pool }

/-- The construction of the driver, and the locked section that publishes it. -/
def installDriver (config : RabbitMqBusConfig) (m : RabbitMqBusModule) : RabbitMqBusModule :=
  { m with
    drivers := m.drivers ++ [.new config]
    shared := { m.shared with driver := some m.drivers.length }
    pc := .startDriver m.drivers.length }

def setDriver (id : Nat) (driver : DriverObject) (m : RabbitMqBusModule) : RabbitMqBusModule :=
  { m with drivers := m.drivers.set id driver }

def startDriver (id : Nat) (driver : DriverObject) (refused : Option Error)
    (m : RabbitMqBusModule) : RabbitMqBusModule :=
  let started := m.setDriver id (driver.start refused).2
  match (driver.start refused).1 with
  | .ok () => started.finishStart makeSuccess
  | .error e => { started with pc := .abandonDriver e }

/-- The last call of `OnStop`; only the pool can make it fail. -/
def shutdownPool (pool : Option WorkerPool) (caller : StopCaller) (answer : Result Unit)
    (m : RabbitMqBusModule) : RabbitMqBusModule :=
  let stopped : Result Unit := match pool with
    | none => makeSuccess
    | some _ => answer
  match caller with
  | .stop => m.finishStop stopped
  | .fini => { m with pc := .finiClear stopped }

/-- `OnFini`. -/
def clearShared (m : RabbitMqBusModule) : RabbitMqBusModule :=
  { m with
    shared := { config := some .default, handlers := ∅, workerPool := none, driver := none } }

/-! The delivery callback, and the task that it submits. -/

def setStage (n : Nat) (delivery : Delivery) (stage : Stage) (m : RabbitMqBusModule) :
    RabbitMqBusModule :=
  { m with deliveries := m.deliveries.set n { delivery with stage } }

/-- The guarded `CompleteDelivery` call at the end of the callback and of the task. -/
def complete (n : Nat) (delivery : Delivery) (ending : Ending) (m : RabbitMqBusModule) :
    RabbitMqBusModule :=
  let finished := m.setStage n delivery (.finished ending)
  match delivery.snapshot.driverRef with
  | none => finished
  | some driver =>
      if delivery.snapshot.delivery.autoAck then finished
      else
        { finished with completions := finished.completions ++
            [⟨n, driver, delivery.snapshot.delivery, ending.action⟩] }

/-- The callback after its locked section; `accepted` is the answer of `Submit`. -/
def submit (n : Nat) (delivery : Delivery) (accepted : Bool) (m : RabbitMqBusModule) :
    RabbitMqBusModule :=
  match delivery.snapshot.workerPool with
  | none => m.complete n delivery .noPool
  | some _ =>
      if accepted then m.setStage n delivery .queued
      else m.complete n delivery .refused

/-- The task up to the return of the handler, which answers with `outcome` if there is one. -/
def runHandler (n : Nat) (delivery : Delivery) (outcome : HandlerOutcome)
    (m : RabbitMqBusModule) : RabbitMqBusModule :=
  match delivery.snapshot.handler with
  | none => m.setStage n delivery (.handled .noHandler)
  | some handler =>
      { m.setStage n delivery (.handled (.ofOutcome outcome)) with
        handlerCalls := m.handlerCalls ++ [⟨n, handler, delivery.snapshot.incoming, outcome⟩] }

/-- One step of some thread. -/
inductive Label where
  -- the thread that controls the module
  | init (ctx : IContext) (read : Option (Result ConfigValue))
  | initCommit
  | start
  | startRead
  | startPool (answer : Result Unit)
  | installDriver
  | startDriver (refused : Option Error)
  | abandonDriver
  | stop
  | stopRead
  | requestStop
  | joinDriver
  | shutdownPool (answer : Result Unit)
  | fini
  | finiClear
  -- other threads
  | registerHandler (consumerName : String) (handler : Option Nat)
  | unregisterHandler (consumerName : String)
  -- a driver thread
  | enterCallback (driver : Nat) (incoming : IncomingMessage) (delivery : DeliveryContext)
  | submit (driver : Nat) (accepted : Bool)
  | threadEnds (driver : Nat)
  -- the worker pool
  | runHandler (delivery : Nat) (outcome : HandlerOutcome)
  | finishTask (delivery : Nat)

/-- The steps of the thread that controls the module. -/
def lifecycleStep (m : RabbitMqBusModule) (l : Label) : Option RabbitMqBusModule :=
  match m.pc, l with
  | .idle, .init ctx read =>
      if isValidTransition m.base.state .inited then
        match readConfig read with
        | none => none -- a violated precondition in the parser: no outcome
        | some (.error e) => some (m.finishInit ctx (.error e))
        | some (.ok config) => some { m with pc := .initCommit ctx config }
      else some m
  | .initCommit ctx config, .initCommit =>
      some ((m.commitConfig config).finishInit ctx makeSuccess)
  | .idle, .start =>
      some (if isValidTransition m.base.state .started then { m with pc := .startRead } else m)
  | .startRead, .startRead => some m.readForStart
  | .startPool config pool, .startPool answer =>
      match answer with
      | .error e => some (m.finishStart (.error e))
      | .ok () => some { m with pc := .installDriver config pool }
  | .installDriver config _, .installDriver => some (m.installDriver config)
  | .startDriver id, .startDriver refused =>
      match m.drivers[id]? with
      | none => none
      | some driver => some (m.startDriver id driver refused)
  | .abandonDriver e, .abandonDriver =>
      some ({ m with shared := { m.shared with driver := none } }.finishStart (.error e))
  | .idle, .stop =>
      some (if isValidTransition m.base.state .stopped then { m with pc := .stopRead .stop }
        else m)
  | .stopRead caller, .stopRead =>
      some { m with pc := .requestStop m.shared.driver m.shared.workerPool caller }
  | .requestStop driver pool caller, .requestStop =>
      match driver with
      | none => some { m with pc := .shutdownPool pool caller }
      | some id =>
          match m.drivers[id]? with
          | none => none
          | some driver =>
              some { m.setDriver id { driver with stopRequested := true } with
                pc := .joinDriver id pool caller }
  | .joinDriver id pool caller, .joinDriver =>
      match m.drivers[id]? with
      | none => none
      | some driver =>
          if driver.joinable && driver.isRunning then none
          else some { m.setDriver id { driver with joinable := false } with
            pc := .shutdownPool pool caller }
  | .shutdownPool pool caller, .shutdownPool answer => some (m.shutdownPool pool caller answer)
  | .idle, .fini =>
      if isValidTransition m.base.state .fini then
        if isValidTransition m.base.state .stopped then some { m with pc := .stopRead .fini }
        else if isValidTransition m.base.state .started then
          some { m with pc := .finiClear makeSuccess }
        else some (m.finishFini makeSuccess)
      else some m
  | .finiClear stopped, .finiClear => some (m.clearShared.finishFini stopped)
  | _, _ => none

/-- The steps of a driver thread that runs. -/
def driverStep (m : RabbitMqBusModule) (id : Nat) (driver : DriverObject) (l : Label) :
    Option RabbitMqBusModule :=
  match driver.thread, l with
  | .looping, .enterCallback _ incoming delivery =>
      some { m.setDriver id { driver with thread := .inCallback m.deliveries.length } with
        deliveries :=
          m.deliveries ++ [⟨m.shared.snapshot id incoming delivery, .dispatched⟩] }
  | .inCallback n, .submit _ accepted =>
      match m.deliveries[n]? with
      | none => none
      | some delivery =>
          some ((m.submit n delivery accepted).setDriver id { driver with thread := .looping })
  | .looping, .threadEnds _ => some (m.setDriver id { driver with thread := .ended })
  | _, _ => none

/-- One step of the system. -/
def step (m : RabbitMqBusModule) (l : Label) : Option RabbitMqBusModule :=
  match l with
  | .registerHandler consumerName handler =>
      some { m with shared := (m.shared.registerConsumerHandler consumerName handler).2 }
  | .unregisterHandler consumerName =>
      some { m with shared := (m.shared.unregisterConsumerHandler consumerName).2 }
  | .enterCallback id _ _ | .submit id _ | .threadEnds id =>
      match m.drivers[id]? with
      | none => none
      | some driver => m.driverStep id driver l
  | .runHandler n outcome =>
      match m.deliveries[n]? with
      | some ⟨snapshot, .queued⟩ => some (m.runHandler n ⟨snapshot, .queued⟩ outcome)
      | _ => none
  | .finishTask n =>
      match m.deliveries[n]? with
      | some ⟨snapshot, .handled ending⟩ =>
          some (m.complete n ⟨snapshot, .handled ending⟩ ending)
      | _ => none
  | .init _ _ | .initCommit | .start | .startRead | .startPool _ | .installDriver
  | .startDriver _ | .abandonDriver | .stop | .stopRead | .requestStop | .joinDriver
  | .shutdownPool _ | .fini | .finiClear => m.lifecycleStep l

/-- The runs of a module from its construction on. -/
abbrev ModuleRun (past : List (RabbitMqBusModule × Label)) (m : RabbitMqBusModule) : Prop :=
  Run step new past m

end RabbitMqBusModule

end ModuleContext.RabbitMqBus
