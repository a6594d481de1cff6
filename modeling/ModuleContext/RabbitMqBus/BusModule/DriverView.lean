import ModuleContext.RabbitMqBus.BusModule.Dispatching
import ModuleContext.RabbitMqBus.Driver.Coherence

/-!
# The driver behind the module

The module keeps of a driver only its thread. Every step of a driver shows as a move of what the
module keeps, and what the callback and its task do to a driver is what the module records.
-/

namespace ModuleContext.RabbitMqBus.RabbitMqBusModule
open Foundation Misc Framework
open Driver (HandlerOutcome DriverPc DriverRun)

/-- The task that the callback submits for a message that came in on channel `origin`. -/
def taskOf (origin : Nat) (snapshot : Snapshot) : Driver.Task where
  message := snapshot.incoming
  delivery := snapshot.delivery
  handler := snapshot.handler
  driverRef := snapshot.driverRef.isSome
  origin := origin

theorem taskOf_action {origin : Nat} {snapshot : Snapshot} {outcome : HandlerOutcome} :
    (taskOf origin snapshot).action outcome =
      (snapshot.handler.elim .noHandler fun _ => Ending.ofOutcome outcome).action := by
  unfold Driver.Task.action taskOf
  cases snapshot.handler with
  | none => rfl
  | some handler =>
    cases outcome with
    | returned action => rfl
    | threw => rfl

theorem lookup_setDriver_self {m : RabbitMqBusModule} {id : Nat} {driver next : DriverObject}
    (found : m.drivers[id]? = some driver) :
    (m.setDriver id next).drivers[id]? = some next :=
  List.getElem?_set_self (List.getElem?_eq_some_iff.mp found).1

theorem enterCallback_taken {m : RabbitMqBusModule} {id : Nat} {driver : DriverObject}
    (incoming : IncomingMessage) (delivery : DeliveryContext) (found : m.drivers[id]? = some driver)
    (thread : driver.thread = .looping) :
    ∃ m', m.step (.enterCallback id incoming delivery) = some m' ∧
      m'.drivers[id]? = some { driver with thread := .inCallback m.deliveries.length } ∧
      m'.deliveries[m.deliveries.length]? =
        some ⟨m.shared.snapshot id incoming delivery, .dispatched⟩ := by
  have taken : m.step (.enterCallback id incoming delivery) =
      some { m.setDriver id { driver with thread := .inCallback m.deliveries.length } with
        deliveries :=
          m.deliveries ++ [⟨m.shared.snapshot id incoming delivery, .dispatched⟩] } := by
    simp only [step, found, driverStep, thread]
  exact ⟨_, taken, lookup_setDriver_self found, List.getElem?_concat_length⟩

variable [AmqpFields]

/-- The thread from outside. The callback is one step of the driver, out of its loop. -/
def ThreadState.ofPc : DriverPc → ThreadState
  | .idle => .absent
  | .returned => .ended
  | .entry | .loopTest | .drain | .commands | .connectTest | .connect | .flushBefore | .pump
  | .parsing | .flushAfter | .heartbeat | .turnEnd | .finalDisconnect | .waiting _ => .looping

namespace DriverObject

/-- A driver that was constructed with `config`, from outside. -/
def ofState (config : RabbitMqBusConfig) (s : Driver.State) : DriverObject where
  config := config
  joinable := s.threadJoinable
  stopRequested := s.stopRequested
  thread := .ofPc s.pc

/-- What the module sees of a step of a driver. Its thread may end on its own. -/
inductive Moved (driver : DriverObject) : Driver.Label → DriverObject → Prop where
  | start (now : Int) : Moved driver (.start now) (driver.start none).2
  | stopRequest : Moved driver .stopRequest { driver with stopRequested := true }
  | stopJoin : (driver.joinable = true → driver.isRunning = false) →
      Moved driver .stopJoin { driver with joinable := false }
  | ended {l : Driver.Label} : driver.thread = .looping →
      Moved driver l { driver with thread := .ended }
  | unseen {l : Driver.Label} : Moved driver l driver

variable {config : RabbitMqBusConfig} {s s' : Driver.State}

theorem ofState_new (now : Int) : ofState config (.new config now) = .new config := rfl

theorem ofState_sameTurn (turn : s.SameTurn s') : ofState config s' = ofState config s := by
  rw [ofState, turn.joinable, turn.stop, turn.pc]
  rfl

/-- The thread goes on in its loop. -/
theorem moved_within {l : Driver.Label} (joinable : s'.threadJoinable = s.threadJoinable)
    (stop : s'.stopRequested = s.stopRequested)
    (pc : ThreadState.ofPc s'.pc = ThreadState.ofPc s.pc) :
    (ofState config s).Moved l (ofState config s') := by
  have same : ofState config s' = ofState config s := by
    rw [ofState, joinable, stop, pc]
    rfl
  rw [same]
  exact .unseen

/-- Every step of a driver is a move of what the module sees of it. -/
theorem moved_step {l : Driver.Label} (taken : s.step l = some s') :
    (ofState config s).Moved l (ofState config s') := by
  cases Driver.State.step_cases taken with
  | startRefused joinable => exact .unseen
  | @start now idle fresh =>
    have started := @Moved.start _ (ofState config s) now
    have view : ((ofState config s).start none).2 =
        { ofState config s with stopRequested := false, joinable := true, thread := .looping } := by
      rw [DriverObject.start, if_neg (by rw [ofState, fresh]; exact Bool.false_ne_true)]
    rw [view] at started
    exact started
  | stopRequest idle => exact .stopRequest
  | stopJoin joining ended =>
    refine .stopJoin ?_
    intro joinable
    rw [isRunning, ofState, ended joinable]
    rfl
  | callQueued checked =>
    rw [ofState_sameTurn (Driver.State.sameTurn_enqueueCommand _ s)]
    exact .unseen
  | @finishTask index outcome task found =>
    rw [ofState_sameTurn (Driver.State.sameTurn_finishTask task outcome
      { s with tasks := s.tasks.eraseIdx index })]
    exact .unseen
  | entryFailed pc =>
    have looping : (ofState config s).thread = .looping := by rw [ofState, pc]; rfl
    exact .ended looping
  | @runCommand answer sends command rest pc queued =>
    rw [ofState_sameTurn (Driver.State.sameTurn_runCommand command answer sends
      { s with localCommands := rest })]
    exact .unseen
  | @flushBefore sends pc =>
    have flushed := (Driver.State.quiet_flushOutboundData sends s).sameTurn
    exact moved_within flushed.joinable flushed.stop (by rw [pc]; rfl)
  | @poll outcome pc possible =>
    cases outcome <;> exact moved_within rfl rfl (by rw [pc]; rfl)
  | event pc live alive called =>
    obtain ⟨next, place, turn⟩ := called.waits
    refine moved_within turn.joinable turn.stop ?_
    rw [turn.pc]
    rcases place with same | ⟨pending, waits⟩
    · rw [same]
    · rw [waits, pc]
      rfl
  | parsed pc bounded next =>
    refine moved_within rfl rfl ?_
    rw [pc]
    rcases next with rfl | rfl
    · rfl
    · rfl
  | @flushAfter sends pc =>
    have flushed := (Driver.State.quiet_flushOutboundData sends s).sameTurn
    exact moved_within flushed.joinable flushed.stop (by rw [pc]; rfl)
  | @heartbeat now produced pc =>
    have beat := (Driver.State.quiet_maybeSendHeartbeat now produced s).sameTurn
    exact moved_within beat.joinable beat.stop (by rw [pc]; rfl)
  | @disconnect now stale pc pending =>
    obtain ⟨_, _, _, _, _, dropped⟩ := Driver.State.handleDisconnect_eq (.pendingReason stale) now s
    rw [dropped]
    exact moved_within rfl rfl (by rw [pc]; rfl)
  | @finalDisconnect now pc =>
    have looping : (ofState config s).thread = .looping := by rw [ofState, pc]; rfl
    obtain ⟨_, _, _, _, _, dropped⟩ :=
      Driver.State.handleDisconnect_eq (.text "RabbitMQ driver stopped") now s
    rw [dropped]
    exact .ended looping
  | callAnswered checked => exact .unseen
  | registerHandler => exact .unseen
  | unregisterHandler => exact .unseen
  | stopFinish finishing => exact .unseen
  | _ pc => exact moved_within rfl rfl (by rw [pc]; rfl)

/-- In every run, what the module sees of a driver has come about by such moves. -/
theorem shown_of_run {now : Int} {past : List (Driver.State × Driver.Label)}
    (run : DriverRun config now past s) :
    Relation.ReflTransGen (fun driver next => ∃ l, Moved driver l next)
      (.new config) (ofState config s) := by
  refine run.invariant (fun s => Relation.ReflTransGen
    (fun driver next => ∃ l, Moved driver l next) (.new config) (ofState config s)) ?_ ?_
  · rw [ofState_new]
  · intro s l s' shown taken
    exact shown.tail ⟨l, moved_step taken⟩

/-- A driver of a run that still runs has a thread that is not joined. -/
theorem joinable_of_run {now : Int} {past : List (Driver.State × Driver.Label)}
    (run : DriverRun config now past s) (running : (ofState config s).isRunning = true) :
    (ofState config s).joinable = true := by
  by_contra free
  rw [Bool.not_eq_true] at free
  rw [isRunning, ofState] at running
  rcases (Driver.State.run_coherent run).joinable free with idle | returned
  · rw [idle] at running
    cases running
  · rw [returned] at running
    cases running

end DriverObject

/-- The place at which the controlling thread makes a step of driver `id`; the other steps are
not its own. -/
def LifecyclePc.Makes (id : Nat) (pc : LifecyclePc) : Driver.Label → Prop
  | .start _ => pc = .startDriver id
  | .stopRequest => ∃ pool caller, pc = .requestStop (some id) pool caller
  | .stopJoin => ∃ pool caller, pc = .joinDriver id pool caller
  | _ => True

section Followed

variable {m : RabbitMqBusModule} {id : Nat} {driver next : DriverObject} {l : Driver.Label}

/-- What a driver does, the module can do with it. -/
theorem DriverObject.Moved.followed (moved : driver.Moved l next)
    (found : m.drivers[id]? = some driver) (place : m.pc.Makes id l) :
    m.drivers[id]? = some next ∨
      ∃ label m', m.step label = some m' ∧ m'.drivers[id]? = some next := by
  cases moved with
  | start now =>
    have pc : m.pc = .startDriver id := place
    have taken : m.step (.startDriver none) = some (m.startDriver id driver none) := by
      simp only [step, lifecycleStep, pc, found]
    obtain ⟨base, pc, changed⟩ := startDriver_eq id driver none m
    rw [changed] at taken
    exact .inr ⟨_, _, taken, lookup_setDriver_self found⟩
  | stopRequest =>
    obtain ⟨pool, caller, pc⟩ := place
    have taken : m.step .requestStop = some
        { m.setDriver id { driver with stopRequested := true } with
          pc := .joinDriver id pool caller } := by
      simp only [step, lifecycleStep, pc, found]
    exact .inr ⟨_, _, taken, lookup_setDriver_self found⟩
  | stopJoin rests =>
    obtain ⟨pool, caller, pc⟩ := place
    have free : (driver.joinable && driver.isRunning) = false := by
      cases joinable : driver.joinable with
      | false => rfl
      | true => exact rests joinable
    have taken : m.step .joinDriver = some
        { m.setDriver id { driver with joinable := false } with
          pc := .shutdownPool pool caller } := by
      simp only [step, lifecycleStep, pc, found, free, Bool.false_eq_true, if_false]
    exact .inr ⟨_, _, taken, lookup_setDriver_self found⟩
  | ended looping =>
    have taken : m.step (.threadEnds id) = some
        (m.setDriver id { driver with thread := .ended }) := by
      simp only [step, found, driverStep, looping]
    exact .inr ⟨_, _, taken, lookup_setDriver_self found⟩
  | unseen => exact .inl found

/-- The module follows every step of a driver. -/
theorem driver_followed {config : RabbitMqBusConfig} {s s' : Driver.State}
    (taken : s.step l = some s') (found : m.drivers[id]? = some (.ofState config s))
    (place : m.pc.Makes id l) :
    m.drivers[id]? = some (.ofState config s') ∨
      ∃ label m', m.step label = some m' ∧ m'.drivers[id]? = some (.ofState config s') :=
  (DriverObject.moved_step taken).followed found place

end Followed

/-! ## Deliveries -/

/-- What the callback of a driver finds in the module, whose pool answers with `accepted`. -/
def dispatch (accepted : Bool) (m : RabbitMqBusModule) : Driver.Dispatch where
  pool := m.shared.workerPool.map fun _ => accepted
  driverRef := m.shared.driver.isSome

/-- Makes the calls of `CompleteDelivery` that are recorded for delivery `n` on a driver. -/
def replay (complete : DeliveryContext → ConsumeAction → Driver.State → Driver.State) (n : Nat)
    (m : RabbitMqBusModule) (s : Driver.State) : Driver.State :=
  (m.completionsOf n).foldl (fun s call => complete call.context call.action s) s

section Deliveries

variable {m : RabbitMqBusModule} {past : List (RabbitMqBusModule × Label)}
  {complete : DeliveryContext → ConsumeAction → Driver.State → Driver.State} {s : Driver.State}

/-- The calls of a finished delivery are the one that the source makes under its guard. -/
theorem replay_finished {n : Nat} {snapshot : Snapshot} {ending : Ending} (holds : Ledger past m)
    (there : m.deliveries[n]? = some ⟨snapshot, .finished ending⟩)
    (ignored : snapshot.delivery.autoAck = true →
      complete snapshot.delivery ending.action s = s) :
    m.replay complete n s =
      if snapshot.driverRef.isSome then complete snapshot.delivery ending.action s else s := by
  rw [replay, holds.completions n _ there]
  cases driverRef : snapshot.driverRef with
  | none =>
    simp only [Delivery.completions, driverRef]
    rfl
  | some driver =>
    cases autoAck : snapshot.delivery.autoAck with
    | true =>
      rw [Delivery.completions_autoAck autoAck, ignored autoAck]
      rfl
    | false =>
      rw [Delivery.completions_finished driverRef autoAck]
      rfl

theorem completeDeliveryAndWait_ignored {delivery : DeliveryContext} {action : ConsumeAction}
    {origin : Nat} (autoAck : delivery.autoAck = true) :
    s.completeDeliveryAndWait delivery action origin = s := by
  rw [Driver.State.completeDeliveryAndWait, autoAck, Bool.or_true, if_pos rfl]

theorem completeDelivery_ignored {delivery : DeliveryContext} {action : ConsumeAction}
    {origin : Nat} (autoAck : delivery.autoAck = true) :
    s.completeDelivery delivery action origin = s := by
  rw [Driver.State.completeDelivery, autoAck, Bool.or_true, if_pos rfl]

/-- The callback does to its driver what the module records for the delivery: the task is
queued, or the driver is told to requeue the message. -/
theorem deliveryCallback_recorded {id origin : Nat} {driver : DriverObject} {accepted : Bool}
    {incoming : IncomingMessage} {delivery : DeliveryContext} (run : ModuleRun past m)
    (found : m.drivers[id]? = some driver) (thread : driver.thread = .looping)
    (handlers : s.handlers = m.shared.handlers) :
    let n := m.deliveries.length
    let snapshot := m.shared.snapshot id incoming delivery
    ∃ between m' stage, Run step m [(between, .submit id accepted),
        (m, .enterCallback id incoming delivery)] m' ∧
      m'.deliveries[n]? = some ⟨snapshot, stage⟩ ∧
      s.deliveryCallback incoming delivery origin (m.dispatch accepted) =
        if stage = .queued then { s with tasks := s.tasks ++ [taskOf origin snapshot] }
        else m'.replay (Driver.State.completeDeliveryAndWait · · origin) n s := by
  intro n snapshot
  obtain ⟨between, entered, inCallback, dispatched⟩ :=
    enterCallback_taken incoming delivery found thread
  obtain ⟨m', stage, submitted, reached, how⟩ := submit_taken accepted inCallback rfl dispatched
  have steps := Run.snoc (.snoc .nil entered) submitted
  refine ⟨between, m', stage, steps, reached, ?_⟩
  have pool : (m.dispatch accepted).pool = snapshot.workerPool.map fun _ => accepted := rfl
  have driverRef : (m.dispatch accepted).driverRef = snapshot.driverRef.isSome := rfl
  rw [Driver.State.deliveryCallback, pool, driverRef, handlers]
  rcases how with ⟨rfl, hasPool, rfl⟩ | ⟨ending, rfl, requeues, unqueued⟩
  · obtain ⟨workerPool, hasPool⟩ := Option.isSome_iff_exists.mp hasPool
    rw [if_pos rfl, hasPool]
    rfl
  · have notQueued : Stage.finished ending ≠ .queued := nofun
    rw [if_neg notQueued, replay_finished (ledger_of_run (run.append steps)) reached
      completeDeliveryAndWait_ignored, requeues]
    rcases unqueued with noPool | rfl
    · rw [noPool]
      rfl
    · cases snapshot.workerPool with
      | none => rfl
      | some workerPool => rfl

/-- A task that runs does to its driver what the module records for the delivery. -/
theorem finishTask_recorded {n origin : Nat} {snapshot : Snapshot} {outcome : HandlerOutcome}
    (run : ModuleRun past m) (there : m.deliveries[n]? = some ⟨snapshot, .queued⟩) :
    ∃ between m' ending, Run step m [(between, .finishTask n), (m, .runHandler n outcome)] m' ∧
      m'.deliveries[n]? = some ⟨snapshot, .finished ending⟩ ∧
      Driver.State.finishTask (taskOf origin snapshot) outcome s =
        m'.replay (Driver.State.completeDelivery · · origin) n s := by
  obtain ⟨between, ran, handled⟩ := runHandler_taken outcome there
  obtain ⟨m', finished, reached⟩ := finishTask_taken handled
  have steps := Run.snoc (.snoc .nil ran) finished
  refine ⟨between, m', _, steps, reached, ?_⟩
  rw [replay_finished (ledger_of_run (run.append steps)) reached completeDelivery_ignored,
    Driver.State.finishTask, taskOf_action]
  show (if (!snapshot.delivery.autoAck && snapshot.driverRef.isSome) = true then
    s.completeDelivery snapshot.delivery _ origin else s) = _
  cases autoAck : snapshot.delivery.autoAck with
  | true =>
    rw [completeDelivery_ignored autoAck, Bool.not_true, Bool.false_and, ite_self, ite_self]
  | false => rw [Bool.not_false, Bool.true_and]

end Deliveries

end ModuleContext.RabbitMqBus.RabbitMqBusModule
