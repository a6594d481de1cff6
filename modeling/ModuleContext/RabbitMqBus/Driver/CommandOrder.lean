import ModuleContext.RabbitMqBus.Driver.Accounting
import ModuleContext.RabbitMqBus.Driver.OutboundStream

/-!
# The order of commands

`EnqueueCommand` appends to a queue under the lock, `DrainCommands` swaps the queue out as a
whole and executes its batch from the front. Whatever the threads do in between, the commands
executed so far, the rest of the batch and the queue are, one after the other, the commands
accepted so far.
-/

namespace ModuleContext.RabbitMqBus.Driver
open Foundation Misc

section

variable [AmqpFields]

namespace State

/-! ## Accepted and executed commands -/

/-- What the driver thread itself answers to a message that it cannot hand on. -/
def ownAnswer (message : AmqpMessage) (dispatch : Dispatch) : Option ConsumeAction :=
  match amqpTableToConfigObject message.headers with
  | .error _ => some .reject
  | .ok _ =>
      if dispatch.driverRef && dispatch.pool != some true then some .requeue else none

/-- What a `CompleteDelivery` call hands to `EnqueueCommand`. -/
def completion (delivery : DeliveryContext) (action : ConsumeAction) (origin : Nat) :
    Option CommandBody :=
  if delivery.consumerName.isEmpty || delivery.autoAck then none
  else some (.completeDelivery delivery action (some origin))

/-- What a step hands to `EnqueueCommand`. -/
def submission (s : State) : Label → Option CommandBody
  | .call call => call.command.toOption
  | .finishTask index outcome =>
      s.tasks[index]?.bind fun task =>
        if task.driverRef then completion task.delivery (task.action outcome) task.origin else none
  | .event (.received id message dispatch) =>
      (s.received (.event (.received id message dispatch))).bind fun (origin, delivery) =>
        (ownAnswer message dispatch).bind fun action => completion delivery action origin
  | _ => none

/-- The command that `EnqueueCommand` makes of `body`, if it accepts it. -/
def accept (s : State) (body : Option CommandBody) : List Command :=
  if s.accepts then (body.map fun body => ⟨body, s.nextPending⟩).toList else []

/-- The commands accepted so far, in the order in which `EnqueueCommand` took the lock. -/
def accepted : List (State × Label) → List Command
  | [] => []
  | (s, l) :: past => accepted past ++ s.accept (s.submission l)

/-- The command that a step executes. -/
def executes (s : State) : Label → Option Command
  | .runCommand _ _ => s.localCommands.head?
  | _ => none

def executed : List (State × Label) → List Command
  | [] => []
  | (s, l) :: past => executed past ++ (s.executes l).toList

theorem executed_append (later earlier : List (State × Label)) :
    executed (later ++ earlier) = executed earlier ++ executed later := by
  induction later with
  | nil => exact (List.append_nil _).symm
  | cons entry later ih =>
    rw [List.cons_append, executed, ih, executed, List.append_assoc]

@[simp] theorem accept_none (s : State) : s.accept none = [] := by
  unfold accept
  split <;> rfl

variable {s s' : State}

theorem Reports.commands (reports : Reports s s') : s'.commands = s.commands := by
  obtain ⟨_, _, _, rfl⟩ := reports
  rfl

theorem Quiet.commands (quiet : Quiet s s') : s'.commands = s.commands :=
  quiet.same State.commands fun _ => rfl

theorem commands_submit (channel : Nat) (operation : AmqpOperation) (callback : Callback)
    (answer : Answer) (s : State) :
    (s.submit channel operation callback answer).commands = s.commands := by
  unfold submit
  dsimp only
  split
  · rfl
  · exact (reports_onError callback _ _).commands

theorem Advanced.commands {done : List AmqpOperation} {opened : Nat}
    (advanced : Advanced s done opened s') : s'.commands = s.commands := by
  induction advanced with
  | stuck => rfl
  | broken => rfl
  | finished => rfl
  | submitted place running => exact commands_submit _ _ _ _ _
  | opened here next ih => exact ih
  | @active s s' opened name tag done next ih =>
    rw [ih, markActive]
    split <;> rfl

theorem Executed.commands {command : Command} (executed : Executed s command s') :
    s'.commands = s.commands := by
  cases executed with
  | answered quiet => exact (reports_completePendingResult _ _ _).commands.trans quiet.commands
  | submitted body ready admin => exact commands_submit _ _ _ _ _

/-! ## What a step adds to the queue -/

theorem queue_enqueueCommand (body : CommandBody) (s : State) :
    (s.enqueueCommand body).commands = s.commands ++ s.accept (some body) := by
  unfold enqueueCommand accept
  split
  · rfl
  · exact (List.append_nil _).symm

theorem queue_completeDelivery (delivery : DeliveryContext) (action : ConsumeAction)
    (origin : Nat) (s : State) :
    (s.completeDelivery delivery action origin).commands =
      s.commands ++ s.accept (completion delivery action origin) := by
  unfold completeDelivery completion
  split
  · simp
  · exact queue_enqueueCommand _ s

theorem queue_completeDeliveryAndWait (delivery : DeliveryContext) (action : ConsumeAction)
    (origin : Nat) (s : State) :
    (s.completeDeliveryAndWait delivery action origin).commands =
      s.commands ++ s.accept (completion delivery action origin) := by
  unfold completeDeliveryAndWait completion
  split
  · simp
  · split
    · exact queue_enqueueCommand _ s
    · rename_i refused
      rw [accept, if_neg refused, List.append_nil]

theorem queue_handleIncomingMessage (spec : ConsumerSpec) (message : AmqpMessage)
    (tag : UInt64) (origin : Nat) (dispatch : Dispatch) (s : State) :
    (s.handleIncomingMessage spec message tag origin dispatch).commands =
      s.commands ++ s.accept ((ownAnswer message dispatch).bind fun action =>
        completion (deliveryContext spec tag) action origin) := by
  unfold handleIncomingMessage ownAnswer
  dsimp only
  cases amqpTableToConfigObject message.headers with
  | error e =>
    dsimp only
    split
    · rename_i auto
      simp [completion, deliveryContext, auto]
    · exact queue_completeDeliveryAndWait _ _ _ s
  | ok headers =>
    obtain ⟨pool, driverRef⟩ := dispatch
    unfold deliveryCallback
    cases driverRef with
    | false => rcases pool with _ | _ | _ <;> simp
    | true =>
      have requeued := queue_completeDeliveryAndWait (deliveryContext spec tag) .requeue origin s
      rcases pool with _ | _ | _
      · exact requeued
      · exact requeued
      · simp

theorem queue_finishTask (task : Task) (outcome : HandlerOutcome) (s : State) :
    (finishTask task outcome s).commands = s.commands ++ s.accept
      (if task.driverRef then completion task.delivery (task.action outcome) task.origin
        else none) := by
  unfold finishTask
  cases driverRef : task.driverRef with
  | false => simp
  | true =>
    cases auto : task.delivery.autoAck with
    | false => exact queue_completeDelivery _ _ _ s
    | true => simp [completion, auto]

/-- A message adds the answer of the driver thread itself, every other callback nothing. -/
theorem Called.queue {connection : Connection} {event : AmqpEvent}
    (live : s.connection = some connection) (called : Called s connection event s') :
    s'.commands = s.commands ++ s.accept (s.submission (.event event)) := by
  have same {event : AmqpEvent} (silent : s.submission (.event event) = none)
      (commands : s'.commands = s.commands) :
      s'.commands = s.commands ++ s.accept (s.submission (.event event)) := by
    rw [silent, accept_none, List.append_nil, commands]
  cases called with
  | ready fresh => exact same rfl (startBootstrap_advanced _ _).commands
  | @succeeded index tag answer deferred found =>
    refine same rfl ?_
    rcases onSuccess_chain deferred.callback tag answer (s.onConnection (.confirm index deferred))
      with ⟨declaration, pending, callback⟩ | ⟨chain, done, opened, advanced⟩
    · rw [callback]
      exact (reports_completePendingResult _ _ _).commands
    · exact advanced.commands
  | failed found => exact same rfl (reports_onError _ _ _).commands
  | channelError member isOpen => exact same rfl (reports_failChannel _ _ s).commands
  | connectionError => exact same rfl (reports_failConnection _ s).commands
  | closed => exact same rfl rfl
  | @received id message dispatch channel spec found receives =>
    have arrived : s.received (.event (.received id message dispatch)) =
        some (id, deliveryContext spec channel.nextTag) := by
      simp [State.received, live, found, receives]
    rw [submission, arrived, Option.bind_some]
    exact queue_handleIncomingMessage spec message channel.nextTag id dispatch _
  | cancelled member receives => exact same rfl rfl
  | data => exact same rfl rfl

/-- A step appends to the queue what it accepts, and executes the front of the batch. -/
structure Queues (s : State) (l : Label) (s' : State) : Prop where
  commands : s'.commands = s.commands ++ s.accept (s.submission l)
  batch : (s.executes l).toList ++ s'.localCommands = s.localCommands

theorem step_queues {l : Label} (taken : s.step l = some s') (swaps : l ≠ .swapCommands) :
    Queues s l s' := by
  have adds {l : Label} {next : State} (idle : s.executes l = none)
      (locals : next.localCommands = s.localCommands)
      (commands : next.commands = s.commands ++ s.accept (s.submission l)) : Queues s l next :=
    ⟨commands, by rw [idle, locals]; rfl⟩
  have same {l : Label} {next : State} (idle : s.executes l = none)
      (silent : s.submission l = none) (locals : next.localCommands = s.localCommands)
      (commands : next.commands = s.commands) : Queues s l next :=
    adds idle locals (by rw [silent, accept_none, List.append_nil, commands])
  cases step_cases taken with
  | startRefused joinable => exact same rfl rfl rfl rfl
  | start idle fresh => exact same rfl rfl rfl rfl
  | stopRequest idle => exact same rfl rfl rfl rfl
  | stopJoin joining ended => exact same rfl rfl rfl rfl
  | stopFinish finishing => exact same rfl rfl rfl rfl
  | callAnswered checked => exact same rfl (by rw [submission, checked]; rfl) rfl rfl
  | @callQueued call body checked =>
    have submitted : s.submission (.call call) = some body := by rw [submission, checked]; rfl
    refine adds rfl (sameTurn_enqueueCommand body s).locals ?_
    rw [submitted]
    exact queue_enqueueCommand body s
  | registerHandler => exact same rfl rfl rfl rfl
  | unregisterHandler => exact same rfl rfl rfl rfl
  | @finishTask index outcome task found =>
    refine adds rfl (sameTurn_finishTask task outcome _).locals ?_
    rw [submission, found]
    exact queue_finishTask task outcome { s with tasks := s.tasks.eraseIdx index }
  | entered pc => exact same rfl rfl rfl rfl
  | entryFailed pc => exact same rfl rfl rfl rfl
  | stopSeen pc stop => exact same rfl rfl rfl rfl
  | goOn pc goOn => exact same rfl rfl rfl rfl
  | swapCommands pc => exact absurd rfl swaps
  | @runCommand answer sends command rest pc queued =>
    have flushed := quiet_flushOutboundData sends
      (execute command answer { s with localCommands := rest })
    have executed := execute_cases command answer { s with localCommands := rest }
    refine ⟨?_, ?_⟩
    · rw [flushed.commands, executed.commands]
      simp [submission]
    · rw [flushed.sameTurn.locals, executed.sameTurn.locals, executes, queued]
      rfl
  | commandsDone pc none up => exact same rfl rfl rfl rfl
  | commandsDoneDown pc none down => exact same rfl rfl rfl rfl
  | attempt pc attempt => exact same rfl rfl rfl rfl
  | noAttempt pc refused => exact same rfl rfl rfl rfl
  | connected pc => exact same rfl rfl rfl rfl
  | connectFailed pc => exact same rfl rfl rfl rfl
  | @flushBefore sends pc =>
    have flushed := quiet_flushOutboundData sends s
    exact same rfl rfl flushed.sameTurn.locals flushed.commands
  | @poll outcome pc possible => cases outcome <;> exact same rfl rfl rfl rfl
  | event pc live alive called =>
    obtain ⟨next, -, turn⟩ := called.waits
    exact adds rfl turn.locals (called.queue live)
  | parsed pc bounded leads => exact same rfl rfl rfl rfl
  | @flushAfter sends pc =>
    have flushed := quiet_flushOutboundData sends s
    exact same rfl rfl flushed.sameTurn.locals flushed.commands
  | @heartbeat now produced pc =>
    have beat := quiet_maybeSendHeartbeat now produced s
    exact same rfl rfl beat.sameTurn.locals beat.commands
  | @disconnect now stale pc pending =>
    obtain ⟨_, _, _, _, _, dropped⟩ := handleDisconnect_eq (.pendingReason stale) now s
    rw [dropped]
    exact same rfl rfl rfl rfl
  | endTurn pc settled => exact same rfl rfl rfl rfl
  | @finalDisconnect now pc =>
    obtain ⟨_, _, _, _, _, dropped⟩ :=
      handleDisconnect_eq (.text "RabbitMQ driver stopped") now s
    rw [dropped]
    exact same rfl rfl rfl rfl
  | waitOver pc completed => exact same rfl rfl rfl rfl

/-- What has been executed, the batch and the queue grow by what the step accepts. -/
theorem commands_step {l : Label} (coherent : Coherent s) (taken : s.step l = some s') :
    (s.executes l).toList ++ (s'.localCommands ++ s'.commands) =
      s.localCommands ++ s.commands ++ s.accept (s.submission l) := by
  by_cases swaps : l = .swapCommands
  · subst swaps
    cases step_cases taken with
    | swapCommands pc =>
      -- the batch before the swap is used up
      have place := coherent.place
      rw [pc] at place
      simp [executes, submission, place.2]
  · obtain ⟨commands, batch⟩ := step_queues taken swaps
    rw [commands, ← List.append_assoc, ← List.append_assoc, batch]

/-- The accepted commands are numbered one after the other. -/
theorem nextPending_step {l : Label} (taken : s.step l = some s') :
    s'.nextPending = s.nextPending + (s.accept (s.submission l)).length := by
  by_cases swaps : l = .swapCommands
  · subst swaps
    cases step_cases taken with
    | swapCommands pc => simp [submission]
  · have grows := queue_step taken swaps
    rw [(step_queues taken swaps).commands, List.length_append] at grows
    omega

/-! ## Runs -/

variable {config : RabbitMqBusConfig} {now : Int} {past : List (State × Label)}

/-- The commands executed, those in the batch and those in the queue are the accepted ones. -/
theorem run_commands (run : DriverRun config now past s) :
    executed past ++ (s.localCommands ++ s.commands) = accepted past := by
  refine run.invariant_past
    (fun past s => executed past ++ (s.localCommands ++ s.commands) = accepted past) rfl
    fun past s l s' before holds taken => ?_
  rw [executed, accepted, List.append_assoc, commands_step (run_coherent before) taken,
    ← List.append_assoc, holds]

theorem accept_numbered (body : Option CommandBody) (s : State) :
    (s.accept body).map (·.pending) =
      (List.range (s.accept body).length).map (s.nextPending + ·) := by
  unfold accept
  split
  · cases body <;> rfl
  · rfl

/-- The number of a command is its place in the order of acceptance. -/
theorem run_numbered (run : DriverRun config now past s) :
    (accepted past).map (·.pending) = List.range s.nextPending := by
  refine run.invariant_past
    (fun past s => (accepted past).map (·.pending) = List.range s.nextPending) rfl
    fun past s l s' before holds taken => ?_
  rw [accepted, List.map_append, holds, accept_numbered, nextPending_step taken, List.range_add]

/-- The number of a command that a step executes is the number of commands executed before. -/
theorem executed_number {later earlier : List (State × Label)} {before : State} {answer : Answer}
    {sends : List SendOutcome} {command : Command}
    (run : DriverRun config now (later ++ (before, .runCommand answer sends) :: earlier) s)
    (front : before.localCommands.head? = some command) :
    command.pending = (executed earlier).length := by
  obtain ⟨-, reached, -, -⟩ := run.cut
  have numbered := congrArg (·[(executed earlier).length]?) (run_numbered reached)
  rw [← run_commands reached] at numbered
  obtain ⟨rest, batch⟩ := List.head?_eq_some_iff.mp front
  simp only [batch, List.map_append, List.cons_append, List.map_cons] at numbered
  rw [List.getElem?_append_right (by simp)] at numbered
  simp only [List.length_map, Nat.sub_self, List.getElem?_cons_zero] at numbered
  obtain ⟨bounded, number⟩ := List.getElem?_eq_some_iff.mp numbered.symm
  rw [List.getElem_range] at number
  exact number.symm

theorem accepted_number (run : DriverRun config now past s) {index : Nat} {command : Command}
    (found : (accepted past)[index]? = some command) : command.pending = index := by
  have numbered := congrArg (·[index]?) (run_numbered run)
  simp only [List.getElem?_map, found, Option.map_some] at numbered
  obtain ⟨bounded, number⟩ := List.getElem?_eq_some_iff.mp numbered.symm
  rw [List.getElem_range] at number
  exact number.symm

/-! ## Frames of publish commands -/

/-- The state once the command at the front of the batch is executed, before the flush. -/
def afterCommand (s : State) (answer : Answer) : State :=
  match s.localCommands with
  | [] => s
  | command :: rest => execute command answer { s with localCommands := rest }

/-- A step of the run executes `command`, a publish command, on a ready connection. -/
structure Published (past : List (State × Label)) (s : State) (answer : Answer)
    (command : Command) : Prop where
  taken : ∃ sends, (s, .runCommand answer sends) ∈ past
  front : s.localCommands.head? = some command
  publish : ∃ request, command.body = .publish request
  ready : s.isReadyLocked = true

/-- A publish command on a ready connection appends its frames. -/
theorem Published.carries {answer : Answer} {command : Command} {admin socketFd : Nat}
    {pipe : Pipe UInt8} (published : Published past s answer command)
    (carries : Carries s admin socketFd pipe) :
    Carries (s.afterCommand answer) admin socketFd (pipe.write (frames answer)) := by
  obtain ⟨rest, batch⟩ := List.head?_eq_some_iff.mp published.front
  obtain ⟨request, body⟩ := published.publish
  have popped : SameBytes s { s with localCommands := rest } := ⟨rfl, rfl, rfl, rfl⟩
  have ready : { s with localCommands := rest }.isReadyLocked = true := published.ready
  simp only [afterCommand, batch, execute, body, executePublish, if_pos ready,
    configObjectToAmqpTable_eq]
  have sent (frame : Transfer) := (popped.carries carries).transfer frame answer
  split
  · exact (reports_completePendingResult _ _ _).sameBytes.carries (sent _)
  · exact (reports_completePendingResult _ _ _).sameBytes.carries (sent _)

/-- Of two commands, the one accepted first is executed first. -/
theorem executed_before {first second : Command} {before after : State} {a b : Answer}
    {sends others : List SendOutcome} {later earlier : List (State × Label)}
    (run : DriverRun config now (later ++ (after, .runCommand b others) :: earlier) s)
    (firstFront : before.localCommands.head? = some first)
    (secondFront : after.localCommands.head? = some second) (order : first.pending < second.pending)
    (member : (before, .runCommand a sends) ∈ later ++ (after, .runCommand b others) :: earlier) :
    (before, .runCommand a sends) ∈ earlier := by
  have second := executed_number run secondFront
  rcases List.mem_append.mp member with more | more
  · obtain ⟨last, middle, rfl⟩ := List.append_of_mem more
    rw [List.append_assoc, List.cons_append] at run
    have first := executed_number run firstFront
    rw [executed_append, List.length_append, executed, List.length_append] at first
    omega
  · rcases List.mem_cons.mp more with same | older
    · cases same
      cases firstFront.symm.trans secondFront
      exact absurd order (Nat.lt_irrefl _)
    · exact older

/-- On one connection, the frames of the publish command accepted first come first. -/
theorem published_in_order (run : DriverRun config now past s) {first second : Command}
    {before after : State} {a b : Answer} (firstPublished : Published past before a first)
    (secondPublished : Published past after b second) (order : first.pending < second.pending)
    (stays : before.adminChannel = after.adminChannel) :
    ∃ admin socketFd front later, Carries before admin socketFd front ∧
      Carries after admin socketFd later ∧ (front.write (frames a)).Extends later := by
  obtain ⟨sends, firstTaken⟩ := firstPublished.taken
  obtain ⟨others, secondTaken⟩ := secondPublished.taken
  obtain ⟨later, earlier, rfl⟩ := List.append_of_mem secondTaken
  have member := executed_before run firstPublished.front secondPublished.front order firstTaken
  obtain ⟨-, reachedAfter, -, -⟩ := run.cut
  obtain ⟨middle, earliest, rfl⟩ := List.append_of_mem member
  obtain ⟨next, reachedBefore, taken, rest⟩ := reachedAfter.cut
  have ready := firstPublished.ready
  simp only [isReadyLocked, Bool.and_eq_true] at ready
  obtain ⟨connection, live⟩ :=
    Option.isSome_iff_exists.mp ((run_coherent reachedBefore).live.trans ready.1.1)
  obtain ⟨admin, socketFd, front, carries, -⟩ := (run_streaming reachedBefore).carries live
  -- the step executes the command and flushes
  have flushed : Flows (before.afterCommand a) next := by
    cases step_cases taken with
    | @runCommand _ _ command rest pc queued =>
      simp only [afterCommand, queued]
      exact flows_flushOutboundData sends _
  obtain ⟨pipe, carriesNext, written⟩ := flushed admin socketFd _ (firstPublished.carries carries)
  rcases rest.first_mem with rfl | ⟨l, first⟩
  · exact ⟨admin, socketFd, front, pipe, carries, carriesNext, written⟩
  · obtain ⟨last, carriesLast, goesOn⟩ := run_onePipe reachedAfter next l admin socketFd pipe
      (List.mem_append_left _ first) carriesNext (stays.symm.trans carries.admin)
    exact ⟨admin, socketFd, front, last, carries, carriesLast, written.trans goesOn⟩

/-! ## Lock order -/

structure InLockOrder (past : List (State × Label)) (s : State) : Prop where
  initial : executed past <+: accepted past
  /-- What is accepted and not executed waits in this order, in the batch and then in the queue. -/
  waiting : executed past ++ (s.localCommands ++ s.commands) = accepted past
  /-- No command is executed twice. -/
  once : ((executed past).map (·.pending)).Nodup
  /-- No result is set twice. -/
  setOnce : (s.completed.map (·.1)).Nodup
  /-- Not even tried: what a waiting command or an answer of the broker will set is not set. -/
  unset : ∀ pending ∈ s.unsettled, pending ∉ s.completed.map (·.1)
  /-- Between two publish commands that are executed on one connection, the frames of the one
  accepted first are appended to `outbound` first. -/
  published : ∀ (i j : Nat) (first second : Command) (before after : State) (a b : Answer), i < j →
    (accepted past)[i]? = some first → (accepted past)[j]? = some second →
    Published past before a first → Published past after b second →
    before.adminChannel = after.adminChannel →
    ∃ front middle,
      before.connection.map (·.produced) = some front ∧
      (before.afterCommand a).outbound = before.outbound ++ frames a ∧
      after.connection.map (·.produced) = some (front ++ frames a ++ middle) ∧
      (after.afterCommand b).outbound = after.outbound ++ frames b

theorem Carries.produced {admin socketFd : Nat} {pipe : Pipe UInt8}
    (carries : Carries s admin socketFd pipe) :
    s.connection.map (·.produced) = some pipe.written := by
  obtain ⟨connection, live, written, -⟩ := carries.connection
  rw [live, Option.map_some, written]

/-- A publish command on a ready connection appends its frames to what waits to be sent. -/
theorem Published.outbound {answer : Answer} {command : Command} {admin socketFd : Nat}
    {pipe : Pipe UInt8} (published : Published past s answer command)
    (carries : Carries s admin socketFd pipe) :
    (s.afterCommand answer).outbound = s.outbound ++ frames answer := by
  rw [(published.carries carries).buffer, carries.buffer]
  rfl

/-- Commands are executed in the order in which they were accepted, each at most once, and the
results are set at most once. -/
theorem commands_in_lock_order (config : RabbitMqBusConfig) (now : Int)
    (past : List (State × Label)) (s : State) (run : DriverRun config now past s) :
    InLockOrder past s := by
  have initial : executed past <+: accepted past := ⟨_, run_commands run⟩
  have once : (s.unsettled + (↑(s.completed.map (·.1)) : Multiset ℕ)).Nodup := by
    have balanced := run_balanced run
    rw [Balanced, Accounted, zero_add] at balanced
    rw [balanced]
    exact Multiset.nodup_range _
  exact {
    initial
    waiting := run_commands run
    once := by
      have numbered := initial.map (·.pending)
      rw [run_numbered run] at numbered
      exact numbered.sublist.nodup List.nodup_range
    setOnce := Multiset.coe_nodup.mp (Multiset.nodup_add.mp once).2.1
    unset := fun pending isOpen done =>
      Multiset.disjoint_left.mp (Multiset.nodup_add.mp once).2.2 isOpen (Multiset.mem_coe.mpr done)
    published := by
      intro i j first second before after a b order firstAccepted secondAccepted firstPublished
        secondPublished stays
      rw [← accepted_number run firstAccepted, ← accepted_number run secondAccepted] at order
      obtain ⟨admin, socketFd, front, later, carries, carriesLater, ⟨middle, written⟩, -⟩ :=
        published_in_order run firstPublished secondPublished order stays
      refine ⟨front.written, middle, carries.produced, firstPublished.outbound carries, ?_,
        secondPublished.outbound carriesLater⟩
      rw [carriesLater.produced, ← written]
      rfl }

end State

end

namespace State

open PlainFields

/-- Two publish commands are executed in one batch, and a third waits. -/
def publishThrice : List Label :=
  bringUp ++
    [.parsed 1, .flush [], .heartbeat 0 [], .endTurn 0 [], .call (.publish pingRequest),
      .call (.publish pingRequest), .testStop, .swapCommands, .runCommand ⟨true, [1]⟩ [],
      .call (.publish pingRequest), .runCommand ⟨true, [2]⟩ []]

theorem publishThrice_in_lock_order :
    ∃ past s, exec step publishThrice [] (new workerConfig 0) = some (past, s) ∧
      (executed past).map (·.pending) = [0, 1] ∧ (accepted past).map (·.pending) = [0, 1, 2] ∧
      s.outbound = [1, 2] ∧ InLockOrder past s := by
  obtain ⟨past, s, taken, executed, accepted, outbound⟩ :
      ∃ past s, exec step publishThrice [] (new workerConfig 0) = some (past, s) ∧
        (executed past).map (·.pending) = [0, 1] ∧ (accepted past).map (·.pending) = [0, 1, 2] ∧
        s.outbound = [1, 2] :=
    ⟨_, _, rfl, rfl, rfl, rfl⟩
  exact ⟨past, s, taken, executed, accepted, outbound,
    commands_in_lock_order workerConfig 0 past s (run_of_exec .nil taken)⟩

end State

end ModuleContext.RabbitMqBus.Driver
