import ModuleContext.RabbitMqBus.BusModule.Deliveries
import ModuleContext.RabbitMqBus.Driver.Deliveries

/-!
# Dispatching to handlers

What the callback finds in the shared state, and what becomes of every delivery that it is
called with.
-/

namespace ModuleContext.RabbitMqBus.RabbitMqBusModule
open Foundation Misc Framework
open Driver (HandlerOutcome)

/-- What the callback has found for each delivery, in order. -/
def snapshots (m : RabbitMqBusModule) : List Snapshot := m.deliveries.map (·.snapshot)

section Steps

variable {m m' : RabbitMqBusModule} {l : Label}

theorem snapshots_set {n : Nat} {delivery : Delivery} (there : m.deliveries[n]? = some delivery)
    (stage : Stage) : (m.deliveries.set n { delivery with stage }).map (·.snapshot) =
      m.snapshots := by
  apply List.ext_getElem?
  intro k
  rw [snapshots, List.getElem?_map, List.getElem?_map, List.getElem?_set]
  split
  · rename_i same
    subst same
    rw [there]
    split
    · rfl
    · rename_i outside
      exact absurd (List.getElem?_eq_some_iff.mp there).1 outside
  · rfl

theorem snapshots_complete {n : Nat} {delivery : Delivery} {ending : Ending}
    (there : m.deliveries[n]? = some delivery) :
    (m.complete n delivery ending).snapshots = m.snapshots := by
  rw [snapshots, advance_complete.deliveries]
  exact snapshots_set there _

theorem snapshots_submit {n : Nat} {delivery : Delivery} {accepted : Bool}
    (there : m.deliveries[n]? = some delivery) :
    (m.submit n delivery accepted).snapshots = m.snapshots := by
  obtain ⟨stage, -, moved, -⟩ := @advance_submit m n delivery accepted
  rw [snapshots, moved.deliveries]
  exact snapshots_set there _

theorem snapshots_runHandler {n : Nat} {delivery : Delivery} {outcome : HandlerOutcome}
    (there : m.deliveries[n]? = some delivery) :
    (m.runHandler n delivery outcome).snapshots = m.snapshots := by
  unfold runHandler
  split
  · exact snapshots_set there _
  · exact snapshots_set there _

/-- A step either is a call of the callback, which adds what it finds, or changes nothing that
a callback has found. -/
theorem snapshots_step (stepped : Stepped m l m') :
    m'.snapshots = m.snapshots ∨
      ∃ id incoming delivery, l = .enterCallback id incoming delivery ∧ m.IsRunning id ∧
        m'.snapshots = m.snapshots ++ [m.shared.snapshot id incoming delivery] := by
  cases stepped with
  | startRead pc =>
    obtain ⟨base, pc, changed⟩ := readForStart_eq m
    rw [changed]
    exact .inl rfl
  | @startDriver id driver refused pc found =>
    obtain ⟨base, pc, changed⟩ := startDriver_eq id driver refused m
    rw [changed]
    exact .inl rfl
  | @shutdownPool pool caller answer pc =>
    obtain ⟨base, pc, changed⟩ := shutdownPool_eq pool caller answer m
    rw [changed]
    exact .inl rfl
  | @enterCallback id driver incoming delivery found thread =>
    refine .inr ⟨id, incoming, delivery, rfl, ⟨driver, found, ?_⟩, List.map_append⟩
    rw [DriverObject.isRunning, thread]
  | submit found thread there => exact .inl (snapshots_submit there)
  | runHandler there => exact .inl (snapshots_runHandler there)
  | finishTask there => exact .inl (snapshots_complete there)
  | _ => exact .inl rfl

end Steps

/-- Only a driver that runs calls the callback. -/
theorem snapshots_enterCallback {m m' : RabbitMqBusModule} {d : Nat} {incoming : IncomingMessage}
    {context : DeliveryContext} (stepped : Stepped m (.enterCallback d incoming context) m') :
    m.IsRunning d ∧ m'.deliveries =
      m.deliveries ++ [⟨m.shared.snapshot d incoming context, .dispatched⟩] := by
  cases stepped with
  | turnedAway pc call => cases call
  | stopEntered pc call valid => cases call
  | @enterCallback id driver incoming delivery found thread =>
    refine ⟨⟨driver, found, ?_⟩, rfl⟩
    rw [DriverObject.isRunning, thread]

/-- What a callback has found stays as it is. -/
theorem snapshots_grow {init m : RabbitMqBusModule} {past : List (RabbitMqBusModule × Label)}
    (run : Run step init past m) : init.snapshots <+: m.snapshots := by
  refine run.invariant (fun m => init.snapshots <+: m.snapshots) (List.prefix_refl _) ?_
  intro m l m' grown taken
  rcases snapshots_step (step_cases taken) with same | ⟨id, incoming, delivery, -, -, added⟩
  · rw [same]
    exact grown
  · rw [added]
    exact grown.trans (List.prefix_append _ _)

/-- Every callback has found its own driver, and a worker pool beside it. -/
theorem snapshots_covered {past : List (RabbitMqBusModule × Label)} {m : RabbitMqBusModule}
    (run : ModuleRun past m) :
    ∀ snapshot ∈ m.snapshots,
      snapshot.driverRef = some snapshot.receiver ∧ snapshot.workerPool.isSome = true := by
  refine run.invariant_past (fun _ m => ∀ snapshot ∈ m.snapshots,
    snapshot.driverRef = some snapshot.receiver ∧ snapshot.workerPool.isSome = true) nofun ?_
  intro past m l m' before covered taken
  rcases snapshots_step (step_cases taken) with same | ⟨id, incoming, delivery, -, running, added⟩
  · rw [same]
    exact covered
  · intro snapshot member
    rw [added] at member
    rcases List.mem_append.mp member with earlier | new
    · exact covered snapshot earlier
    · rw [List.mem_singleton.mp new]
      exact (invariant_of_run before).running running

/-- The shared state of every run. Every handler is registered for a consumer of the current
configuration; a driver has a worker pool beside it; a driver that runs is the driver of the
shared state. So a callback always finds its driver and a pool, and no delivery ends for want
of a pool. -/
theorem sharedState_coherent {past : List (RabbitMqBusModule × Label)} {m : RabbitMqBusModule}
    (run : ModuleRun past m) :
    (∀ name ∈ m.shared.handlers, ∃ config, m.shared.config = some config ∧
      ∃ consumer ∈ config.consumers, consumer.name = name) ∧
    (m.shared.driver.isSome = true → m.shared.workerPool.isSome = true) ∧
    (∀ id, m.IsRunning id →
      m.shared.driver = some id ∧ m.shared.workerPool.isSome = true) ∧
    ∀ delivery ∈ m.deliveries, delivery.snapshot.driverRef = some delivery.snapshot.receiver ∧
      delivery.snapshot.workerPool.isSome = true ∧ delivery.stage ≠ .finished .noPool := by
  have holds := invariant_of_run run
  refine ⟨holds.handlers, holds.pool, fun id running => holds.running running, ?_⟩
  intro delivery member
  obtain ⟨driverRef, pool⟩ := snapshots_covered run delivery.snapshot
    (List.mem_map.mpr ⟨delivery, member, rfl⟩)
  refine ⟨driverRef, pool, ?_⟩
  intro isFinished
  obtain ⟨n, there⟩ := List.mem_iff_getElem?.mp member
  have explained := (ledger_of_run run).calls n delivery there
  rw [isFinished] at explained
  rw [explained.1] at pool
  cases pool

/-- A module with the consumer `worker` is started, once a handler is registered. -/
def startUp : List Label :=
  [.init 0 (some (.ok Driver.State.workerConfigValue)), .initCommit,
    .registerHandler "worker" (some 7), .start, .startRead, .startPool (.ok ()), .installDriver,
    .startDriver none]

theorem sharedState_coherent_started :
    ∃ past m, exec step startUp [] new = some (past, m) ∧ m.IsRunning 0 ∧
      m.shared.driver = some 0 ∧ m.shared.workerPool.isSome = true ∧
      "worker" ∈ m.shared.handlers ∧ ∃ config, m.shared.config = some config ∧
        ∃ consumer ∈ config.consumers, consumer.name = "worker" := by
  obtain ⟨past, m, executed, running, registered⟩ :
      ∃ past m, exec step startUp [] new = some (past, m) ∧ m.IsRunning 0 ∧
        (m.shared.handlers.lookup "worker").isSome = true :=
    ⟨_, _, rfl, ⟨_, rfl, rfl⟩, rfl⟩
  obtain ⟨known, -, current, -⟩ := sharedState_coherent (run_of_exec .nil executed)
  have member : "worker" ∈ m.shared.handlers := AList.lookup_isSome.mp registered
  obtain ⟨isCurrent, hasPool⟩ := current 0 running
  exact ⟨past, m, executed, running, isCurrent, hasPool, member, known "worker" member⟩

/-! ## The end of a delivery -/

/-- Delivery `n` is finished. -/
def IsFinished (n : Nat) (m : RabbitMqBusModule) : Prop :=
  ∃ snapshot ending, m.deliveries[n]? = some ⟨snapshot, .finished ending⟩

section Finishing

variable {m : RabbitMqBusModule} {n : Nat} {snapshot : Snapshot}

theorem lookup_set_self {delivery next : Delivery} (there : m.deliveries[n]? = some delivery) :
    (m.deliveries.set n next)[n]? = some next :=
  List.getElem?_set_self (List.getElem?_eq_some_iff.mp there).1

theorem finishTask_taken {ending : Ending}
    (there : m.deliveries[n]? = some ⟨snapshot, .handled ending⟩) :
    ∃ m', m.step (.finishTask n) = some m' ∧
      m'.deliveries[n]? = some ⟨snapshot, .finished ending⟩ := by
  have taken : m.step (.finishTask n) =
      some (m.complete n ⟨snapshot, .handled ending⟩ ending) := by
    simp only [step, there]
  refine ⟨_, taken, ?_⟩
  rw [advance_complete.deliveries]
  exact lookup_set_self there

/-- How a task ends whose handler answers with `outcome`. -/
theorem runHandler_taken (outcome : HandlerOutcome)
    (there : m.deliveries[n]? = some ⟨snapshot, .queued⟩) :
    ∃ m', m.step (.runHandler n outcome) = some m' ∧
      m'.deliveries[n]? = some ⟨snapshot, .handled
        (snapshot.handler.elim .noHandler fun _ => .ofOutcome outcome)⟩ := by
  have taken : m.step (.runHandler n outcome) =
      some (m.runHandler n ⟨snapshot, .queued⟩ outcome) := by
    simp only [step, there]
  refine ⟨_, taken, ?_⟩
  unfold runHandler
  cases snapshot.handler with
  | none => exact lookup_set_self there
  | some handler => exact lookup_set_self there

/-- The task is in the pool, or the delivery goes back to the queue. -/
theorem submit_taken {id : Nat} {driver : DriverObject} (accepted : Bool)
    (found : m.drivers[id]? = some driver) (thread : driver.thread = .inCallback n)
    (there : m.deliveries[n]? = some ⟨snapshot, .dispatched⟩) :
    ∃ m' stage, m.step (.submit id accepted) = some m' ∧
      m'.deliveries[n]? = some ⟨snapshot, stage⟩ ∧
      ((stage = .queued ∧ snapshot.workerPool.isSome = true ∧ accepted = true) ∨
        ∃ ending, stage = .finished ending ∧ ending.action = .requeue ∧
          (snapshot.workerPool = none ∨ accepted = false)) := by
  have taken : m.step (.submit id accepted) =
      some ((m.submit n ⟨snapshot, .dispatched⟩ accepted).setDriver id
        { driver with thread := .looping }) := by
    simp only [step, found, driverStep, thread, there]
  suffices reached : ∃ stage,
      (m.submit n ⟨snapshot, .dispatched⟩ accepted).deliveries[n]? = some ⟨snapshot, stage⟩ ∧
      ((stage = .queued ∧ snapshot.workerPool.isSome = true ∧ accepted = true) ∨
        ∃ ending, stage = .finished ending ∧ ending.action = .requeue ∧
          (snapshot.workerPool = none ∨ accepted = false)) by
    obtain ⟨stage, deliveries, how⟩ := reached
    exact ⟨_, stage, taken, deliveries, how⟩
  unfold submit
  cases pool : snapshot.workerPool with
  | none =>
    refine ⟨.finished .noPool, ?_, .inr ⟨_, rfl, rfl, .inl rfl⟩⟩
    rw [advance_complete.deliveries]
    exact lookup_set_self there
  | some workerPool =>
    cases accepted with
    | true => exact ⟨.queued, lookup_set_self there, .inl ⟨rfl, rfl, rfl⟩⟩
    | false =>
      refine ⟨.finished .refused, ?_, .inr ⟨_, rfl, rfl, .inr rfl⟩⟩
      dsimp only
      rw [if_neg Bool.false_ne_true, advance_complete.deliveries]
      exact lookup_set_self there

/-- A task that has called its handler has one step left. -/
theorem finish_handled {ending : Ending}
    (there : m.deliveries[n]? = some ⟨snapshot, .handled ending⟩) :
    ∃ more m', Run step m more m' ∧ m'.IsFinished n := by
  obtain ⟨m', taken, finished⟩ := finishTask_taken there
  exact ⟨_, m', .snoc .nil taken, snapshot, ending, finished⟩

/-- A task that the pool has taken can run, whatever its handler does. -/
theorem finish_queued (there : m.deliveries[n]? = some ⟨snapshot, .queued⟩) :
    ∃ more m', Run step m more m' ∧ m'.IsFinished n := by
  obtain ⟨between, taken, handled⟩ := runHandler_taken .threw there
  obtain ⟨more, m', rest, isFinished⟩ := finish_handled handled
  exact ⟨_, m', (Run.snoc .nil taken).append rest, isFinished⟩

/-- A delivery whose callback has not returned is in the hands of a thread. -/
theorem Ledger.inCallback {past : List (RabbitMqBusModule × Label)} (holds : Ledger past m)
    (there : m.deliveries[n]? = some ⟨snapshot, .dispatched⟩) :
    ∃ driver, m.drivers[snapshot.receiver]? = some driver ∧ driver.thread = .inCallback n := by
  have handing := (holds.callback snapshot.receiver n).mpr ⟨snapshot, there, rfl⟩
  obtain ⟨driver, found, thread⟩ := Option.bind_eq_some_iff.mp handing
  refine ⟨driver, found, ?_⟩
  cases state : driver.thread with
  | inCallback k =>
    rw [state] at thread
    cases thread
    rfl
  | absent =>
    rw [state] at thread
    cases thread
  | looping =>
    rw [state] at thread
    cases thread
  | ended =>
    rw [state] at thread
    cases thread

/-- A callback can return, whatever the pool answers. -/
theorem finish_dispatched {past : List (RabbitMqBusModule × Label)} (holds : Ledger past m)
    (there : m.deliveries[n]? = some ⟨snapshot, .dispatched⟩) :
    ∃ more m', Run step m more m' ∧ m'.IsFinished n := by
  obtain ⟨driver, found, thread⟩ := holds.inCallback there
  obtain ⟨m', stage, taken, reached, how⟩ := submit_taken false found thread there
  rcases how with ⟨-, -, accepted⟩ | ⟨ending, rfl, -, -⟩
  · cases accepted
  · exact ⟨_, m', .snoc .nil taken, snapshot, ending, reached⟩

/-- Every delivery can be finished by what is left of its callback and of its task. -/
theorem finish {past : List (RabbitMqBusModule × Label)} {stage : Stage} (holds : Ledger past m)
    (there : m.deliveries[n]? = some ⟨snapshot, stage⟩) :
    ∃ more m', Run step m more m' ∧ m'.IsFinished n := by
  cases stage with
  | dispatched => exact finish_dispatched holds there
  | queued => exact finish_queued there
  | handled ending => exact finish_handled there
  | finished ending => exact ⟨[], m, .nil, snapshot, ending, there⟩

end Finishing

/-- What the shared state held when a delivery was handed over stays with the delivery. -/
theorem delivery_of_handed {past later earlier : List (RabbitMqBusModule × Label)}
    {m before : RabbitMqBusModule} {d : Nat} {incoming : IncomingMessage}
    {context : DeliveryContext} (run : ModuleRun past m)
    (handed : past = later ++ (before, .enterCallback d incoming context) :: earlier) :
    (∃ stage, m.deliveries[before.deliveries.length]? =
      some ⟨before.shared.snapshot d incoming context, stage⟩) ∧ before.shared.driver = some d := by
  subst handed
  obtain ⟨after, reached, taken, rest⟩ := run.cut
  obtain ⟨running, added⟩ := snapshots_enterCallback (step_cases taken)
  refine ⟨?_, ((invariant_of_run reached).running running).1⟩
  have found : after.snapshots[before.deliveries.length]? =
      some (before.shared.snapshot d incoming context) := by
    rw [snapshots, added, List.getElem?_map, List.getElem?_concat_length]
    rfl
  have kept : m.snapshots[before.deliveries.length]? =
      some (before.shared.snapshot d incoming context) := by
    obtain ⟨more, grown⟩ := snapshots_grow rest
    rw [← grown, List.getElem?_append_left (List.getElem?_eq_some_iff.mp found).1, found]
  rw [snapshots, List.getElem?_map, Option.map_eq_some_iff] at kept
  obtain ⟨⟨snapshot, stage⟩, there, rfl⟩ := kept
  exact ⟨stage, there⟩

/-- Every delivery that a running driver hands to the callback, in every run. It finds its own
driver, and keeps the handler that was registered when it was handed over. Once it is finished,
it has been completed once on that driver, in its own context: with the action that this handler
has returned, and back to the queue where it threw, where there was no handler or no pool, and
where the pool refused the task. An `auto_ack` delivery has not been completed. No delivery is
completed before, and each can always be finished by what is left of its callback and its
task. -/
theorem delivery_completed {past later earlier : List (RabbitMqBusModule × Label)}
    {m before : RabbitMqBusModule} {d : Nat} {incoming : IncomingMessage}
    {context : DeliveryContext} (run : ModuleRun past m)
    (handed : past = later ++ (before, .enterCallback d incoming context) :: earlier) :
    let n := before.deliveries.length
    let snapshot : Snapshot :=
      { receiver := d
        incoming := incoming
        delivery := context
        handler := before.shared.handlers.lookup incoming.consumerName
        driverRef := some d
        workerPool := before.shared.workerPool }
    before.shared.driver = some d ∧
    ∃ stage, m.deliveries[n]? = some ⟨snapshot, stage⟩ ∧
      (context.autoAck = true → m.completionsOf n = []) ∧
      (context.autoAck = false →
        (∀ action, stage = .finished (.returned action) →
          m.completionsOf n = [⟨n, d, context, action⟩]) ∧
        (∀ ending, ending = .threw ∨ ending = .noHandler ∨ ending = .refused ∨ ending = .noPool →
          stage = .finished ending → m.completionsOf n = [⟨n, d, context, .requeue⟩]) ∧
        ((∀ ending, stage ≠ .finished ending) → m.completionsOf n = [])) ∧
      stage.Explained past n snapshot (m.callsOf n) ∧
      ∃ more m', Run step m more m' ∧ m'.IsFinished n := by
  intro n snapshot
  obtain ⟨⟨stage, kept⟩, isCurrent⟩ := delivery_of_handed run handed
  have ledger := ledger_of_run run
  have there : m.deliveries[n]? = some ⟨snapshot, stage⟩ := by
    rw [kept, SharedState.snapshot, isCurrent]
  have completions := ledger.completions n _ there
  refine ⟨isCurrent, stage, there, ?_, ?_, ledger.calls n _ there, finish ledger there⟩
  · intro autoAck
    rw [completions]
    exact Delivery.completions_autoAck autoAck
  · intro needsAck
    have finished (ending : Ending) (isFinished : stage = .finished ending) :
        m.completionsOf n = [⟨n, d, context, ending.action⟩] := by
      subst isFinished
      rw [completions]
      exact Delivery.completions_finished rfl needsAck
    refine ⟨fun action => finished (.returned action), fun ending how isFinished => ?_,
      fun unfinished => ?_⟩
    · rw [finished ending isFinished]
      rcases how with rfl | rfl | rfl | rfl <;> rfl
    · rw [completions]
      exact Delivery.completions_unfinished unfinished

def ping : IncomingMessage := ⟨"worker", "", "inbox", [], "", "", "", [], false⟩

/-- The handler is replaced while a message is on its way to it. -/
def pinged : List Label :=
  startUp ++ [.enterCallback 0 ping ⟨"worker", 1, false⟩, .registerHandler "worker" (some 9),
    .submit 0 true, .runHandler 0 (.returned .ack), .finishTask 0]

theorem delivery_completed_pinged :
    ∃ past m, exec step pinged [] new = some (past, m) ∧
      m.completionsOf 0 = [⟨0, 0, ⟨"worker", 1, false⟩, .ack⟩] := by
  obtain ⟨past, m, later, earlier, before, executed, handed, fresh, stage⟩ :
      ∃ past m later earlier before, exec step pinged [] new = some (past, m) ∧
        past = later ++ (before, Label.enterCallback 0 ping ⟨"worker", 1, false⟩) :: earlier ∧
        before.deliveries.length = 0 ∧
        m.deliveries[0]?.map (·.stage) = some (.finished (.returned .ack)) :=
    ⟨_, _, [_, _, _, _], _, _, rfl, rfl, rfl, rfl⟩
  obtain ⟨-, reached, there, -, needsAck, -⟩ :=
    delivery_completed (run_of_exec .nil executed) handed
  have acked := (needsAck rfl).1 .ack
  rw [fresh] at there acked
  rw [there] at stage
  exact ⟨past, m, executed, acked (Option.some.inj stage)⟩

end ModuleContext.RabbitMqBus.RabbitMqBusModule
