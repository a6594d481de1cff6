import ModuleContext.RabbitMqBus.ParseBusConfig
import ModuleContext.RabbitMqBus.Driver.CommandOrder
import ModuleContext.RabbitMqBus.Driver.Wiring

/-!
# Deliveries and their completion

A delivery comes in on the channel of its consumer. What comes back from the worker pool names
only the consumer and the tag, so it is settled on the channel that the consumer has by then:
the one it came in on exactly if there was no disconnect in between.
-/

namespace ModuleContext.RabbitMqBus.Driver
open Foundation Misc

/-- Only a handler that returns `Ack` makes its task acknowledge. -/
theorem Task.acks {task : Task} {outcome : HandlerOutcome} (acks : task.action outcome = .ack) :
    outcome = .returned .ack ∧ ∃ handler, task.handler = some handler := by
  cases handler : task.handler with
  | none => simp [Task.action, handler] at acks
  | some handler =>
    cases outcome with
    | threw => simp [Task.action, handler] at acks
    | returned action =>
      simp only [Task.action, handler] at acks
      exact ⟨by rw [acks], _, rfl⟩

theorem State.completion_eq {delivery : DeliveryContext} {action : ConsumeAction} {origin : Nat}
    {body : CommandBody} (completes : completion delivery action origin = some body) :
    body = .completeDelivery delivery action (some origin) := by
  unfold completion at completes
  split at completes
  · cases completes
  · cases completes
    rfl

section

variable [AmqpFields]

namespace State

/-- All deliveries of a run, each with the channel it came in on. -/
def deliveries : List (State × Label) → List (Nat × DeliveryContext)
  | [] => []
  | (s, l) :: past => (s.received l).toList ++ deliveries past

/-- The deliveries since the last call of `HandleDisconnect`. -/
def recentDeliveries : List (State × Label) → List (Nat × DeliveryContext)
  | [] => []
  | (s, l) :: past =>
      if s.disconnects l then [] else (s.received l).toList ++ recentDeliveries past

/-- The handler that was invoked for a delivery has returned `Ack`. -/
def Acked (past : List (State × Label)) (origin : Nat) (delivery : DeliveryContext) : Prop :=
  ∃ before index task handler, (before, .finishTask index (.returned .ack)) ∈ past ∧
    before.tasks[index]? = some task ∧ task.handler = some handler ∧
    task.origin = origin ∧ task.delivery = delivery

/-- A `CompleteDelivery` command that settles its delivery on a channel does so on the channel
that the delivery came in on, and acknowledges it only if its handler has returned `Ack`. -/
def CompletesOwn (past : List (State × Label)) (s : State) (l : Label) : Prop :=
  match l, s.localCommands with
  | .runCommand _ _, ⟨.completeDelivery delivery action origin, _⟩ :: _ =>
      ∀ channel, s.completionChannel delivery = some channel →
        origin = some channel ∧ (channel, delivery) ∈ deliveries past ∧
          (action = .ack → Acked past channel delivery)
  | _, _ => True

/-- A `CompleteDelivery` command whose consumer has a channel is about a delivery since the last
disconnect. -/
def CompletesRecent (past : List (State × Label)) (s : State) (l : Label) : Prop :=
  match l, s.localCommands with
  | .runCommand _ _, ⟨.completeDelivery delivery _ origin, _⟩ :: _ =>
      s.completionChannel delivery ≠ none →
        ∃ channel, origin = some channel ∧ (channel, delivery) ∈ recentDeliveries past
  | _, _ => True

variable {s s' : State} {past : List (State × Label)} {l : Label}

/-! ## Deliveries and channels -/

theorem deliveries_of_recent {channel : Nat} {delivery : DeliveryContext}
    (recent : (channel, delivery) ∈ recentDeliveries past) :
    (channel, delivery) ∈ deliveries past := by
  induction past with
  | nil => cases recent
  | cons entry past ih =>
    rw [recentDeliveries] at recent
    split at recent
    · cases recent
    · rcases List.mem_append.mp recent with new | old
      · exact List.mem_append_left _ new
      · exact List.mem_append_right _ (ih old)

/-- The consumer of a recent delivery still has the channel it came in on, and all earlier
deliveries came in on channels that are older than the connection. -/
structure Tracked (past : List (State × Label)) (s : State) : Prop where
  recent : ∀ channel delivery, (channel, delivery) ∈ recentDeliveries past →
    s.channelOf delivery.consumerName = some channel
  earlier : ∀ channel delivery, (channel, delivery) ∈ deliveries past →
    channel < s.nextChannel ∧ ((channel, delivery) ∈ recentDeliveries past ∨
      ∀ admin, s.adminChannel = some admin → channel < admin)

/-- A step that ends no connection and begins none. -/
theorem Tracked.goesOn (tracked : Tracked past s) (lasts : s.disconnects l = false)
    (keeps : KeepsWiring s s') (admin : s'.adminChannel = s.adminChannel)
    (channels : s.nextChannel ≤ s'.nextChannel)
    (new : ∀ channel delivery, s.received l = some (channel, delivery) →
      s.channelOf delivery.consumerName = some channel) : Tracked ((s, l) :: past) s' := by
  have recentDeliveries_cons : recentDeliveries ((s, l) :: past) =
      (s.received l).toList ++ recentDeliveries past := by
    rw [recentDeliveries, if_neg (by rw [lasts]; exact Bool.false_ne_true)]
  constructor
  · intro channel delivery recent
    rw [recentDeliveries_cons, List.mem_append, Option.mem_toList] at recent
    rcases recent with received | old
    · exact keeps.2 _ _ (new channel delivery received)
    · exact keeps.2 _ _ (tracked.recent channel delivery old)
  · intro channel delivery delivered
    rw [recentDeliveries_cons]
    rw [deliveries, List.mem_append, Option.mem_toList] at delivered
    rcases delivered with received | old
    · have runs := keeps.2 _ _ (new channel delivery received)
      exact ⟨(keeps.1.running _ _ runs).1,
        Or.inl (List.mem_append_left _ (Option.mem_toList.mpr received))⟩
    · obtain ⟨bounded, recent | older⟩ := tracked.earlier channel delivery old
      · exact ⟨Nat.lt_of_lt_of_le bounded channels, Or.inl (List.mem_append_right _ recent)⟩
      · rw [admin]
        exact ⟨Nat.lt_of_lt_of_le bounded channels, Or.inr older⟩

/-- A delivery comes in on the channel that its consumer has. -/
theorem received_channelOf (wired : Wired s) {channel : Nat} {delivery : DeliveryContext}
    (received : s.received l = some (channel, delivery)) :
    s.channelOf delivery.consumerName = some channel := by
  unfold State.received at received
  split at received
  · rename_i id message dispatch connection live
    obtain ⟨receiving, found, received⟩ := Option.bind_eq_some_iff.mp received
    obtain ⟨spec, receives, delivered⟩ := Option.map_eq_some_iff.mp received
    obtain ⟨member, sameId, -⟩ := found_channel found
    cases delivered
    rw [← sameId]
    exact wired.receivers connection receiving spec live member receives
  · cases received

theorem ConnectionStep.tracked (step : ConnectionStep s l s') (inPhase : InPhase s)
    (wired : Wired s) (tracked : Tracked past s) : Tracked ((s, l) :: past) s' := by
  have new (channel : Nat) (delivery : DeliveryContext) :=
    @received_channelOf _ s l wired channel delivery
  have below := step.admin.2
  cases step with
  | same receives lasts kept =>
    exact tracked.goesOn lasts (kept.shrinks.keepsWiring wired) kept.admin below new
  | @executed _ taken after _ command receives lasts before coherent executed kept =>
    have wiredBefore := wired.shrinks before.shrinks
    obtain ⟨wiredAfter, stays⟩ := executed.keepsWiring wiredBefore
    have keeps : KeepsWiring s s' :=
      ⟨wiredAfter.shrinks kept.shrinks, fun name id runs => by
        rw [kept.shrinks.channelOf]
        exact stays name id (before.shrinks.channelOf name ▸ runs)⟩
    exact tracked.goesOn lasts keeps
      (kept.admin.trans (executed.sameTurn.admin.trans before.admin)) below new
  | called live called =>
    obtain ⟨pc, -, turn⟩ := called.waits
    exact tracked.goesOn rfl (called.keepsWiring live inPhase wired) turn.admin below new
  | dropped receives ends gone admin ready runtimes channels config =>
    constructor
    · intro channel delivery recent
      rw [recentDeliveries, if_pos ends] at recent
      cases recent
    · intro channel delivery delivered
      rw [deliveries, receives] at delivered
      rw [channels, admin]
      exact ⟨(tracked.earlier channel delivery delivered).1, Or.inr nofun⟩
  | connected gone runtimes =>
    constructor
    · intro channel delivery recent
      have runs := tracked.recent channel delivery recent
      rw [channelOf, runtimes] at runs
      cases runs
    · intro channel delivery delivered
      have bounded := (tracked.earlier channel delivery delivered).1
      exact ⟨Nat.lt_succ_of_lt bounded, Or.inr fun admin isAdmin => by
        cases isAdmin
        exact bounded⟩

theorem run_tracked {config : RabbitMqBusConfig} {now : Int}
    (distinct : (config.consumers.map (·.name)).Nodup) (run : DriverRun config now past s) :
    Tracked past s :=
  run.invariant_past Tracked ⟨nofun, nofun⟩ fun _ _ _ _ before tracked taken =>
    (step_connectionStep (run_coherent before) taken).tracked (run_inPhase before)
      (run_wired distinct before) tracked

/-! ## Where commands come from -/

/-- The commands that a step may queue. -/
inductive MayQueue (s : State) : Label → CommandBody → Prop where
  | called {call : ClientCall} {body : CommandBody} : call.command = .ok body →
      MayQueue s (.call call) body
  | finished {index : Nat} {outcome : HandlerOutcome} {task : Task} :
      s.tasks[index]? = some task →
      MayQueue s (.finishTask index outcome)
        (.completeDelivery task.delivery (task.action outcome) (some task.origin))
  | sentBack {event : AmqpEvent} {delivery : DeliveryContext} {action : ConsumeAction}
      {origin : Nat} : action ≠ .ack →
      MayQueue s (.event event) (.completeDelivery delivery action (some origin))

/-- The commands that are queued or in the batch. -/
def waitingCommands (s : State) : List Command := s.localCommands ++ s.commands

theorem ownAnswer_ne_ack {message : AmqpMessage} {dispatch : Dispatch} {action : ConsumeAction}
    (answers : ownAnswer message dispatch = some action) : action ≠ .ack := by
  unfold ownAnswer at answers
  split at answers
  · cases answers
    simp
  · split at answers
    · cases answers
      simp
    · cases answers

theorem mayQueue_submission {body : CommandBody} (submitted : s.submission l = some body) :
    MayQueue s l body := by
  cases l with
  | call call =>
    refine .called ?_
    cases checked : call.command with
    | error result => simp [submission, checked, Except.toOption] at submitted
    | ok body => simpa [submission, checked, Except.toOption] using submitted
  | finishTask index outcome =>
    obtain ⟨task, found, completes⟩ := Option.bind_eq_some_iff.mp submitted
    split at completes
    · rw [completion_eq completes]
      exact .finished found
    · cases completes
  | event event =>
    cases event with
    | received id message dispatch =>
      obtain ⟨⟨origin, delivery⟩, -, answered⟩ := Option.bind_eq_some_iff.mp submitted
      obtain ⟨action, answers, completes⟩ := Option.bind_eq_some_iff.mp answered
      rw [completion_eq completes]
      exact .sentBack (ownAnswer_ne_ack answers)
    | _ => cases submitted
  | _ => cases submitted

theorem mem_accept {body : Option CommandBody} {command : Command}
    (accepted : command ∈ s.accept body) : body = some command.body := by
  unfold accept at accepted
  split at accepted
  · cases body with
    | none => cases accepted
    | some body => rw [List.mem_singleton.mp accepted]
  · cases accepted

/-- Every command that waits after a step did so before, or is one that the step may queue. -/
theorem waitingCommands_step (taken : s.step l = some s') {command : Command}
    (queued : command ∈ s'.waitingCommands) :
    command ∈ s.waitingCommands ∨ MayQueue s l command.body := by
  by_cases swaps : l = .swapCommands
  · subst swaps
    cases step_cases taken with
    | swapCommands pc =>
      rw [waitingCommands, List.append_nil] at queued
      exact Or.inl (List.mem_append_right _ queued)
  · obtain ⟨commands, batch⟩ := step_queues taken swaps
    rw [waitingCommands, commands, ← List.append_assoc, List.mem_append] at queued
    rcases queued with waiting | new
    · rw [waitingCommands, ← batch, List.append_assoc]
      exact Or.inl (List.mem_append_right _ waiting)
    · exact Or.inr (mayQueue_submission (mem_accept new))

/-- Every waiting command that acknowledges a delivery comes from its handler. -/
def AcksBacked (past : List (State × Label)) (s : State) : Prop :=
  ∀ command ∈ s.waitingCommands, ∀ delivery origin,
    command.body = .completeDelivery delivery .ack (some origin) → Acked past origin delivery

theorem Acked.later {origin : Nat} {delivery : DeliveryContext} (entry : State × Label)
    (acked : Acked past origin delivery) : Acked (entry :: past) origin delivery := by
  obtain ⟨before, index, task, handler, member, rest⟩ := acked
  exact ⟨before, index, task, handler, List.mem_cons_of_mem _ member, rest⟩

theorem MayQueue.acked {delivery : DeliveryContext} {origin : Nat}
    (queues : MayQueue s l (.completeDelivery delivery .ack (some origin))) :
    Acked ((s, l) :: past) origin delivery := by
  generalize asked : CommandBody.completeDelivery delivery .ack (some origin) = body at queues
  cases queues with
  | @called call body checked =>
    subst asked
    unfold ClientCall.command at checked
    split at checked <;> split at checked <;> cases checked
  | @finished index outcome task found =>
    injection asked with sameDelivery acks sameOrigin
    injection sameOrigin with sameOrigin
    obtain ⟨rfl, handler, invoked⟩ := Task.acks acks.symm
    exact ⟨s, index, task, handler, List.mem_cons_self, found, invoked, sameOrigin.symm,
      sameDelivery.symm⟩
  | sentBack other =>
    injection asked with sameDelivery acks sameOrigin
    exact absurd acks.symm other

theorem run_acksBacked {config : RabbitMqBusConfig} {now : Int}
    (run : DriverRun config now past s) : AcksBacked past s :=
  run.invariant_past AcksBacked (fun command queued => by cases queued)
    fun past s l s' before backed taken command queued delivery origin acks => by
      rcases waitingCommands_step taken queued with waited | new
      · exact (backed command waited delivery origin acks).later (s, l)
      · rw [acks] at new
        exact new.acked

/-! ## Completions -/

/-- A waiting completion would go to the channel of its delivery exactly if it is a recent one. -/
theorem settlesOwn_iff (wired : Wired s) (coherent : Coherent s) (tracked : Tracked past s)
    (backed : AcksBacked past s) {delivery : DeliveryContext} {action : ConsumeAction}
    {origin : Option Nat} {pending : Nat}
    (waits : ⟨.completeDelivery delivery action origin, pending⟩ ∈ s.waitingCommands) :
    (∀ channel, s.completionChannel delivery = some channel →
      origin = some channel ∧ (channel, delivery) ∈ deliveries past ∧
        (action = .ack → Acked past channel delivery)) ↔
    (s.completionChannel delivery ≠ none →
      ∃ channel, origin = some channel ∧ (channel, delivery) ∈ recentDeliveries past) := by
  constructor
  · intro own runs
    obtain ⟨channel, runs⟩ := Option.ne_none_iff_exists'.mp runs
    obtain ⟨sameOrigin, delivered, -⟩ := own channel runs
    refine ⟨channel, sameOrigin, ?_⟩
    obtain ⟨-, recent | older⟩ := tracked.earlier channel delivery delivered
    · exact recent
    · -- a channel that a consumer has now is newer than the admin channel of its connection
      have up : s.connected = true := by
        by_contra down
        have runtimes := (coherent.down (by simpa using down)).2.2
        rw [completionChannel, runtimes] at runs
        cases runs
      obtain ⟨admin, isAdmin⟩ := Option.isSome_iff_exists.mp (coherent.admin.trans up)
      have newer := (wired.running delivery.consumerName channel runs).2 admin isAdmin
      have before := older admin isAdmin
      omega
  · intro recent channel runs
    obtain ⟨origin', rfl, delivered⟩ := recent (by simp [runs])
    have still := tracked.recent origin' delivery delivered
    have same : origin' = channel := Option.some.inj (still.symm.trans runs)
    subst same
    refine ⟨rfl, deliveries_of_recent delivered, ?_⟩
    intro acks
    subst acks
    exact backed _ waits delivery origin' rfl

theorem completesOwn_step (wired : Wired s) (coherent : Coherent s) (tracked : Tracked past s)
    (backed : AcksBacked past s) (taken : s.step l = some s') :
    CompletesOwn past s l ↔ CompletesRecent past s l := by
  unfold CompletesOwn CompletesRecent
  cases step_cases taken with
  | @runCommand answer sends command rest pc batch =>
    have waits : command ∈ s.waitingCommands := by
      rw [waitingCommands, batch]
      exact List.mem_cons_self
    obtain ⟨body, pending⟩ := command
    cases body with
    | publish request => simp only [batch]
    | declare declaration => simp only [batch]
    | completeDelivery delivery action origin =>
      simp only [batch]
      exact settlesOwn_iff wired coherent tracked backed waits
  | _ => exact Iff.rfl

/-- In a whole run every delivery is settled on the channel it came in on, and acknowledged only
for its handler, exactly if every completion whose consumer has a channel is for a delivery
since the last disconnect. -/
theorem completes_own_iff (configValue : ConfigValue) (config : RabbitMqBusConfig)
    (accepted : parseBusConfig configValue = some (.ok config)) (now : Int)
    (past : List (State × Label)) (s : State) (run : DriverRun config now past s) :
    AllSteps CompletesOwn past ↔ AllSteps CompletesRecent past :=
  run.allSteps_iff fun _ _ _ _ before taken =>
    have distinct := (parseBusConfig_distinct accepted).consumers
    completesOwn_step (run_wired distinct before) (run_coherent before)
      (run_tracked distinct before) (run_acksBacked before) taken

end State

end

namespace State

open PlainFields

def workerConfigValue : ConfigValue :=
  .object [("connection", .object [("uri", .string "amqp://localhost/"),
      ("heartbeat_seconds", .int64 0)]),
    ("topology", .object [("queues", .array [.object [("name", .string "inbox")]])]),
    ("consumers", .array [.object [("name", .string "worker"), ("queue", .string "inbox"),
      ("prefetch_count", .int64 0)]])]

theorem parse_worker : parseBusConfig workerConfigValue = some (.ok workerConfig) := rfl

def pingMessage : AmqpMessage := ⟨"", "inbox", [], "", "", "", [], false⟩

/-- A message comes in for the handler of `worker`, on the first connection. -/
def deliverPing : List Label :=
  bringUp ++
    [.registerHandler "worker" 7, .event (.received 1 pingMessage ⟨some true, true⟩), .parsed 1,
      .flush [], .heartbeat 0 [], .endTurn 0 []]

/-- The broker closes the socket, and the driver brings up a second connection. -/
def reconnect : List Label :=
  [.testStop, .swapCommands, .commandsDone, .flush [], .poll .closedByBroker, .flush [],
    .heartbeat 0 [], .endTurn 0 [], .testStop, .swapCommands, .commandsDone, .testReconnect 1000,
    .connect (.connected 4 []) 1000, .testStop, .swapCommands, .commandsDone, .flush [],
    .poll (.received [1]), .event (.ready ⟨true, []⟩), .event (.succeeded 0 "" ⟨true, []⟩),
    .event (.succeeded 0 "tag" ⟨true, []⟩), .parsed 1, .flush [], .heartbeat 1000 [],
    .endTurn 1000 []]

/-- The handler returns `Ack`, and the driver executes the command. -/
def acknowledgePing : List Label :=
  [.finishTask 0 (.returned .ack), .testStop, .swapCommands, .runCommand ⟨true, [1]⟩ []]

theorem deliverPing_completes_own :
    ∃ past s, exec step (deliverPing ++ acknowledgePing) [] (new workerConfig 0) =
        some (past, s) ∧
      s.connection.map (·.transfers) = some [.settled 1 1 .ack] ∧
      AllSteps CompletesOwn past := by
  obtain ⟨past, s, executed, settled, recent⟩ :
      ∃ past s, exec step (deliverPing ++ acknowledgePing) [] (new workerConfig 0) =
          some (past, s) ∧
        s.connection.map (·.transfers) = some [.settled 1 1 .ack] ∧
        AllSteps CompletesRecent past :=
    ⟨_, _, rfl, rfl, fun _ => ⟨1, rfl, List.mem_cons_self⟩, trivial, trivial, trivial, trivial,
      trivial, trivial, trivial, trivial, trivial, trivial, trivial, trivial, trivial, trivial,
      trivial, trivial, trivial, trivial, trivial, trivial, trivial, trivial, trivial, trivial,
      trivial⟩
  exact ⟨past, s, executed, settled,
    (completes_own_iff workerConfigValue workerConfig parse_worker 0 past s
      (run_of_exec .nil executed)).mpr recent⟩

/-- A handler that returns only after a reconnect has its message acknowledged on the new
channel, on which nothing was delivered. -/
theorem ack_after_reconnect :
    ¬ ∀ (configValue : ConfigValue) (config : RabbitMqBusConfig) (now : Int)
      (past : List (State × Label)) (s : State),
      parseBusConfig configValue = some (.ok config) → DriverRun config now past s →
      AllSteps CompletesOwn past := by
  intro completesOwn
  obtain ⟨past, s, l, after, executed, -, origin⟩ :
      ∃ past s l after,
        exec step (deliverPing ++ reconnect ++ acknowledgePing) [] (new workerConfig 0) =
            some ((s, l) :: past, after) ∧
          after.connection.map (·.transfers) = some [.settled 3 1 .ack] ∧
          (CompletesOwn past s l → some 1 = some 3) :=
    ⟨_, _, _, _, rfl, rfl, fun own => (own 3 rfl).1⟩
  have own := completesOwn workerConfigValue workerConfig 0 _ _ parse_worker
    (run_of_exec .nil executed)
  cases origin own.1

end State

end ModuleContext.RabbitMqBus.Driver
