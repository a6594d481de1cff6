import ModuleContext.Misc.Pipe
import ModuleContext.RabbitMqBus.Driver.BootstrapOrder

/-!
# The outbound stream of a connection

Between `onData` and the socket lies a pipe: whatever the connection produces is appended to
`outbound`, and whatever the socket takes is removed from its front. The pipe belongs to one
connection. It is emptied before the next connection is made, so that no byte crosses over.
-/

namespace ModuleContext.RabbitMqBus.Driver
open Foundation Misc

section

variable [AmqpFields]

namespace State

/-- The connection with the admin channel `admin` writes to the socket through `pipe`. -/
structure Carries (s : State) (admin socketFd : Nat) (pipe : Pipe UInt8) : Prop where
  admin : s.adminChannel = some admin
  socket : s.socketFd = some socketFd
  buffer : s.outbound = pipe.buffer
  connection : ∃ connection, s.connection = some connection ∧
    connection.produced = pipe.written ∧ connection.sent = pipe.read

/-- From `s` to `s'` the connection goes on writing through its pipe. -/
def Flows (s s' : State) : Prop :=
  ∀ admin socketFd pipe, Carries s admin socketFd pipe →
    ∃ later, Carries s' admin socketFd later ∧ pipe.Extends later

theorem Flows.refl (s : State) : Flows s s :=
  fun _ _ pipe carries => ⟨pipe, carries, .refl pipe⟩

theorem Flows.trans {a b c : State} (first : Flows a b) (second : Flows b c) : Flows a c := by
  intro admin socketFd pipe carries
  obtain ⟨later, carriesLater, goesOn⟩ := first admin socketFd pipe carries
  obtain ⟨last, carriesLast, goesFurther⟩ := second admin socketFd later carriesLater
  exact ⟨last, carriesLast, goesOn.trans goesFurther⟩

/-! ## Operations that move no bytes -/

/-- The connection, its socket and its bytes are unchanged. -/
structure SameBytes (s s' : State) : Prop where
  admin : s'.adminChannel = s.adminChannel
  socket : s'.socketFd = s.socketFd
  outbound : s'.outbound = s.outbound
  connection : s'.connection.map (fun connection => (connection.produced, connection.sent)) =
    s.connection.map fun connection => (connection.produced, connection.sent)

theorem SameBytes.refl (s : State) : SameBytes s s := ⟨rfl, rfl, rfl, rfl⟩

theorem SameBytes.trans {a b c : State} (first : SameBytes a b) (second : SameBytes b c) :
    SameBytes a c :=
  ⟨second.admin.trans first.admin, second.socket.trans first.socket,
    second.outbound.trans first.outbound, second.connection.trans first.connection⟩

variable {s s' : State}

theorem SameBytes.carries (same : SameBytes s s') {admin socketFd : Nat} {pipe : Pipe UInt8}
    (carries : Carries s admin socketFd pipe) : Carries s' admin socketFd pipe := by
  obtain ⟨isAdmin, isSocket, buffer, connection, live, written, read⟩ := carries
  have bytes := same.connection
  rw [live, Option.map_some] at bytes
  obtain ⟨connection', live', equal⟩ := Option.map_eq_some_iff.mp bytes
  obtain ⟨produced, sent⟩ := Prod.mk.inj equal
  exact ⟨same.admin.trans isAdmin, same.socket.trans isSocket, same.outbound.trans buffer,
    connection', live', produced.trans written, sent.trans read⟩

theorem SameBytes.flows (same : SameBytes s s') : Flows s s' :=
  fun _ _ pipe carries => ⟨pipe, same.carries carries, .refl pipe⟩

theorem Reports.sameBytes (reports : Reports s s') : SameBytes s s' := by
  obtain ⟨_, _, _, rfl⟩ := reports
  exact ⟨rfl, rfl, rfl, rfl⟩

theorem sameBytes_onConnection (change : Connection → Connection)
    (same : ∀ connection, ((change connection).produced, (change connection).sent) =
      (connection.produced, connection.sent)) (s : State) :
    SameBytes s (s.onConnection change) := by
  refine ⟨rfl, rfl, rfl, ?_⟩
  rw [onConnection, Option.map_map]
  exact congrArg (Option.map · s.connection) (funext same)

theorem sameBytes_openConsumerChannel (spec : ConsumerSpec) (s : State) :
    SameBytes s (s.openConsumerChannel spec) := by
  have opened := sameBytes_onConnection (.openChannel
    ((s.consumerRuntimes.lookup spec.name).bind (·.channel))
    { id := s.nextChannel
      errorText := "Consumer channel error for '" ++ spec.name ++ "'"
      closed := false, receiver := none, nextTag := 1 }) (fun _ => rfl) s
  exact ⟨rfl, rfl, rfl, opened.connection⟩

theorem sameBytes_markActive (name tag : String) (s : State) :
    SameBytes s (s.markActive name tag) := by
  unfold markActive
  split <;> exact ⟨rfl, rfl, rfl, rfl⟩

theorem sameBytes_enqueueCommand (body : CommandBody) (s : State) :
    SameBytes s (s.enqueueCommand body) := by
  unfold enqueueCommand
  split <;> exact ⟨rfl, rfl, rfl, rfl⟩

theorem sameBytes_finishTask (task : Task) (outcome : HandlerOutcome) (s : State) :
    SameBytes s (finishTask task outcome s) := by
  rcases finishTask_cases task outcome s with ⟨-, same⟩ | ⟨-, queued⟩
  · rw [same]
    exact .refl s
  · rw [queued]
    exact sameBytes_enqueueCommand _ s

theorem Handled.sameBytes {delivery : DeliveryContext} {origin : Nat}
    (handled : Handled s delivery origin s') : SameBytes s s' := by
  cases handled with
  | ignored => exact .refl s
  | answered running other => exact { sameBytes_enqueueCommand _ s with }
  | dispatched => exact ⟨rfl, rfl, rfl, rfl⟩

/-! ## Operations that write to the pipe or read from it -/

theorem Carries.onData {admin socketFd : Nat} {pipe : Pipe UInt8}
    (carries : Carries s admin socketFd pipe) (data : List UInt8) :
    Carries (s.onData data) admin socketFd (pipe.write data) := by
  obtain ⟨isAdmin, isSocket, buffer, connection, live, written, read⟩ := carries
  refine ⟨isAdmin, isSocket, congrArg (· ++ data) buffer, ?_⟩
  refine ⟨{ connection with produced := connection.produced ++ data }, ?_, ?_, read⟩
  · simp only [State.onData, onConnection, live, Option.map_some]
  · exact congrArg (· ++ data) written

theorem flows_onData (data : List UInt8) (s : State) : Flows s (s.onData data) :=
  fun _ _ pipe carries => ⟨pipe.write data, carries.onData data, pipe.extends_write data⟩

/-- What one successful call of `send` does. -/
theorem flows_send (count : Nat) (s : State) :
    Flows s { s.onConnection fun connection =>
        { connection with sent := connection.sent ++ s.outbound.take count }
      with outbound := s.outbound.drop count } := by
  rintro admin socketFd pipe ⟨isAdmin, isSocket, buffer, connection, live, written, read⟩
  refine ⟨pipe.drain count, ?_, pipe.extends_drain count⟩
  refine ⟨isAdmin, isSocket, congrArg (List.drop count) buffer, ?_⟩
  refine ⟨{ connection with sent := connection.sent ++ s.outbound.take count }, ?_, written, ?_⟩
  · simp only [onConnection, live, Option.map_some]
  · rw [buffer, read]
    rfl

theorem flows_flushOutboundData (sends : List SendOutcome) (s : State) :
    Flows s (s.flushOutboundData sends) := by
  induction sends generalizing s with
  | nil => exact .refl s
  | cons outcome outcomes ih =>
    unfold flushOutboundData
    split
    · split
      · exact (flows_send outcome.sent.toNat s).trans (ih _)
      · split
        · exact .refl s
        · exact (reports_requestDisconnect _ s).sameBytes.flows
    · exact .refl s

/-- The bytes of a frame that the channel takes. -/
def frames (answer : Answer) : List UInt8 := if answer.accepted then answer.produced else []

theorem Carries.transfer {admin socketFd : Nat} {pipe : Pipe UInt8}
    (carries : Carries s admin socketFd pipe) (frame : Transfer) (answer : Answer) :
    Carries (s.transfer frame answer) admin socketFd (pipe.write (frames answer)) := by
  unfold State.transfer frames
  split
  · have recorded := sameBytes_onConnection
      (fun connection => { connection with transfers := connection.transfers ++ [frame] })
      (fun _ => rfl) (s.onData answer.produced)
    exact recorded.carries (carries.onData answer.produced)
  · rw [Pipe.write_nil]
    exact carries

theorem flows_transfer (frame : Transfer) (answer : Answer) (s : State) :
    Flows s (s.transfer frame answer) :=
  fun _ _ pipe carries =>
    ⟨pipe.write (frames answer), carries.transfer frame answer, pipe.extends_write _⟩

theorem flows_maybeSendHeartbeat (now : Int) (produced : List UInt8) (s : State) :
    Flows s (s.maybeSendHeartbeat now produced) := by
  have beat : Flows s { s.onData produced with lastHeartbeatSent := some now } :=
    (flows_onData produced s).trans (SameBytes.flows ⟨rfl, rfl, rfl, rfl⟩)
  unfold maybeSendHeartbeat
  dsimp only
  split
  · exact .refl s
  · split
    · exact beat
    · split
      · exact beat
      · exact .refl s

theorem flows_submit (channel : Nat) (operation : AmqpOperation) (callback : Callback)
    (answer : Answer) (s : State) : Flows s (s.submit channel operation callback answer) := by
  have produced := flows_onData answer.produced s
  unfold submit
  dsimp only
  split
  · exact produced.trans (sameBytes_onConnection (.submit _) (fun _ => rfl) _).flows
  · have unsent := sameBytes_onConnection (.submitUnsent operation) (fun _ => rfl)
      (s.onData answer.produced)
    exact produced.trans (unsent.trans (reports_onError callback _ _).sameBytes).flows

theorem Advanced.flows {done : List AmqpOperation} {opened : Nat}
    (advanced : Advanced s done opened s') : Flows s s' := by
  induction advanced with
  | stuck => exact .refl _
  | broken => exact (reports_requestDisconnect _ _).sameBytes.flows
  | finished => exact SameBytes.flows ⟨rfl, rfl, rfl, rfl⟩
  | submitted place running => exact flows_submit _ _ _ _ _
  | opened here next ih => exact (sameBytes_openConsumerChannel _ _).flows.trans ih
  | active next ih => exact (sameBytes_markActive _ _ _).flows.trans ih

theorem flows_onSuccess (callback : Callback) (tag : String) (answer : Answer) (s : State) :
    Flows s (s.onSuccess callback tag answer) := by
  obtain ⟨declaration, pending, rfl⟩ | ⟨-, done, opened, advanced⟩ :=
    onSuccess_chain callback tag answer s
  · have recorded : SameBytes s { s with config := declaration.record s.config } :=
      ⟨rfl, rfl, rfl, rfl⟩
    exact (recorded.trans (reports_completePendingResult _ _ _).sameBytes).flows
  · exact advanced.flows

theorem Called.flows {connection : Connection} {event : AmqpEvent}
    (called : Called s connection event s') : Flows s s' := by
  have changed (change : Connection → Connection)
      (same : ∀ connection, ((change connection).produced, (change connection).sent) =
        (connection.produced, connection.sent)) : SameBytes s (s.onConnection change) :=
    sameBytes_onConnection change same s
  cases called with
  | ready fresh =>
    have shaken := changed (fun connection => { connection with handshaken := true })
      fun _ => rfl
    have ready : SameBytes s { s.onConnection (fun connection =>
        { connection with handshaken := true }) with handshakeReady := true } := { shaken with }
    exact ready.flows.trans (startBootstrap_advanced _ _).flows
  | @succeeded index tag answer deferred found =>
    exact (changed (.confirm index deferred) fun _ => rfl).flows.trans (flows_onSuccess _ _ _ _)
  | @failed index message deferred found =>
    exact ((changed (.refuse index deferred) fun _ => rfl).trans
      (reports_onError _ _ _).sameBytes).flows
  | @channelError message channel member isOpen =>
    exact ((changed (.failChannel channel.id) fun _ => rfl).trans
      (reports_failChannel channel message s).sameBytes).flows
  | connectionError =>
    exact ((changed .fail fun _ => rfl).trans (reports_failConnection _ s).sameBytes).flows
  | closed =>
    exact ((changed (fun connection => { connection with closed := true }) fun _ => rfl).trans
      (reports_requestDisconnect _ _).sameBytes).flows
  | @received id message dispatch channel spec found receives =>
    exact ((changed (.countDelivery id) fun _ => rfl).trans
      (handleIncomingMessage_cases _ _ _ _ _ _).sameBytes).flows
  | cancelled member receives => exact (reports_requestDisconnect _ s).sameBytes.flows
  | data => exact flows_onData _ s

/-- A command writes at most the bytes of its own frame. -/
theorem flows_execute (command : Command) (answer : Answer) (s : State) :
    Flows s (s.execute command answer) := by
  have answered (value : Result Unit) (sent : State) :
      Flows sent (sent.completePendingResult command.pending value) :=
    (reports_completePendingResult _ _ _).sameBytes.flows
  obtain ⟨body, pending⟩ := command
  cases body with
  | publish request =>
    simp only [execute, executePublish]
    split
    · split
      · exact answered _ _
      · split
        · exact (flows_transfer _ _ _).trans (answered _ _)
        · exact (flows_transfer _ _ _).trans (answered _ _)
    · exact answered _ _
  | declare declaration =>
    simp only [execute, executeDeclare]
    split
    · split
      · exact answered _ _
      · split
        · exact .refl s
        · exact flows_submit _ _ _ _ _
    · exact answered _ _
  | completeDelivery delivery action origin =>
    simp only [execute, executeCompleteDelivery]
    split
    · exact answered _ _
    · split
      · exact (flows_transfer _ _ _).trans (answered _ _)
      · exact (flows_transfer _ _ _).trans (answered _ _)

/-! ## Steps -/

/-- What a step does to the pipe: the connection goes on writing through it, the pipe is
emptied with the end of the connection, or a new connection gets an empty one. -/
inductive StreamStep (s : State) : Label → State → Prop where
  | within {l : Label} {s' : State} : Flows s s' →
      (s.connection = none → s'.connection = none ∧ s'.outbound = s.outbound) →
      StreamStep s l s'
  | ended {l : Label} {s' : State} : s'.connection = none → s'.adminChannel = none →
      s'.outbound = [] → StreamStep s l s'
  | opened {socketFd : Nat} {produced : List UInt8} {now : Int} {s' : State} :
      s.connection = none → Carries s' s.nextChannel socketFd (Pipe.empty.write produced) →
      StreamStep s (.connect (.connected socketFd produced) now) s'

theorem SameBytes.streamStep {l : Label} (same : SameBytes s s') : StreamStep s l s' := by
  refine .within same.flows fun gone => ⟨?_, same.outbound⟩
  have bytes := same.connection
  rw [gone, Option.map_none, Option.map_eq_none_iff] at bytes
  exact bytes

theorem streamStep_handleDisconnect {l : Label} (reason : ReasonRef) (now : Int) (pc : DriverPc)
    (s : State) : StreamStep s l { s.handleDisconnect reason now with pc } := by
  obtain ⟨_, _, _, _, _, dropped⟩ := handleDisconnect_eq reason now s
  rw [dropped]
  exact .ended rfl rfl rfl

theorem streamStep_connectSocket {socketFd : Nat} {produced : List UInt8} {now : Int}
    (gone : s.connection = none) :
    StreamStep s (.connect (.connected socketFd produced) now)
      { s.connectSocket socketFd produced now with pc := .loopTest } :=
  .opened gone ⟨rfl, rfl, rfl, _, rfl, rfl, rfl⟩

theorem step_streamStep {l : Label} (coherent : Coherent s) (taken : s.step l = some s') :
    StreamStep s l s' := by
  have place := coherent.place
  have atBroker {l : Label} {next : State} (here : AtBroker s.pc) (flows : Flows s next) :
      StreamStep s l next := by
    refine .within flows fun gone => ?_
    have live := coherent.live.trans ((fits_atBroker here).mp place).1
    rw [gone] at live
    cases live
  cases step_cases taken with
  | startRefused joinable => exact (SameBytes.refl s).streamStep
  | start idle fresh => exact SameBytes.streamStep ⟨rfl, rfl, rfl, rfl⟩
  | stopRequest idle => exact SameBytes.streamStep ⟨rfl, rfl, rfl, rfl⟩
  | stopJoin joining ended => exact SameBytes.streamStep ⟨rfl, rfl, rfl, rfl⟩
  | stopFinish finishing => exact SameBytes.streamStep ⟨rfl, rfl, rfl, rfl⟩
  | callAnswered checked => exact (SameBytes.refl s).streamStep
  | callQueued checked => exact (sameBytes_enqueueCommand _ s).streamStep
  | registerHandler => exact SameBytes.streamStep ⟨rfl, rfl, rfl, rfl⟩
  | unregisterHandler => exact SameBytes.streamStep ⟨rfl, rfl, rfl, rfl⟩
  | @finishTask index outcome task found =>
    have removed : SameBytes s { s with tasks := s.tasks.eraseIdx index } := ⟨rfl, rfl, rfl, rfl⟩
    exact (removed.trans (sameBytes_finishTask task outcome _)).streamStep
  | entered pc => exact SameBytes.streamStep ⟨rfl, rfl, rfl, rfl⟩
  | entryFailed pc => exact SameBytes.streamStep ⟨rfl, rfl, rfl, rfl⟩
  | stopSeen pc stop => exact SameBytes.streamStep ⟨rfl, rfl, rfl, rfl⟩
  | goOn pc goOn => exact SameBytes.streamStep ⟨rfl, rfl, rfl, rfl⟩
  | swapCommands pc => exact SameBytes.streamStep ⟨rfl, rfl, rfl, rfl⟩
  | @runCommand answer sends command rest pc queued =>
    have popped : SameBytes s { s with localCommands := rest } := ⟨rfl, rfl, rfl, rfl⟩
    by_cases connected : s.connected = true
    · have executed := (flows_execute command answer { s with localCommands := rest }).trans
        (flows_flushOutboundData sends _)
      refine .within (popped.flows.trans executed) fun gone => ?_
      have live := coherent.live.trans connected
      rw [gone] at live
      cases live
    · -- without a connection the command is refused, and nothing is sent
      rw [Bool.not_eq_true] at connected
      obtain ⟨completed, refused⟩ :=
        runCommand_down coherent connected command rest answer sends
      rw [refused]
      exact SameBytes.streamStep ⟨rfl, rfl, rfl, rfl⟩
  | commandsDone pc none up => exact SameBytes.streamStep ⟨rfl, rfl, rfl, rfl⟩
  | commandsDoneDown pc none down => exact SameBytes.streamStep ⟨rfl, rfl, rfl, rfl⟩
  | attempt pc attempt => exact SameBytes.streamStep ⟨rfl, rfl, rfl, rfl⟩
  | noAttempt pc refused => exact SameBytes.streamStep ⟨rfl, rfl, rfl, rfl⟩
  | connected pc =>
    rw [pc] at place
    exact streamStep_connectSocket (coherent.gone place.1)
  | connectFailed pc => exact SameBytes.streamStep ⟨rfl, rfl, rfl, rfl⟩
  | flushBefore pc =>
    exact atBroker (by rw [pc]; trivial)
      ((flows_flushOutboundData _ s).trans (SameBytes.flows ⟨rfl, rfl, rfl, rfl⟩))
  | @poll outcome pc possible =>
    cases outcome <;> exact SameBytes.streamStep ⟨rfl, rfl, rfl, rfl⟩
  | event pc live alive called => exact atBroker (by rw [pc]; trivial) called.flows
  | parsed pc bounded leads => exact SameBytes.streamStep ⟨rfl, rfl, rfl, rfl⟩
  | flushAfter pc =>
    exact atBroker (by rw [pc]; trivial)
      ((flows_flushOutboundData _ s).trans (SameBytes.flows ⟨rfl, rfl, rfl, rfl⟩))
  | heartbeat pc =>
    exact atBroker (by rw [pc]; trivial)
      ((flows_maybeSendHeartbeat _ _ s).trans (SameBytes.flows ⟨rfl, rfl, rfl, rfl⟩))
  | disconnect pc pending => exact streamStep_handleDisconnect _ _ _ s
  | endTurn pc settled => exact SameBytes.streamStep ⟨rfl, rfl, rfl, rfl⟩
  | finalDisconnect pc => exact streamStep_handleDisconnect _ _ _ s
  | waitOver pc completed => exact SameBytes.streamStep ⟨rfl, rfl, rfl, rfl⟩

/-! ## Runs -/

/-- There is no connection and nothing to send, or a connection with its pipe. -/
def Streaming (s : State) : Prop :=
  s.connection = none ∧ s.outbound = [] ∨ ∃ admin socketFd pipe, Carries s admin socketFd pipe

theorem StreamStep.streaming {l : Label} (step : StreamStep s l s') (streaming : Streaming s) :
    Streaming s' := by
  cases step with
  | within flows down =>
    rcases streaming with ⟨gone, empty⟩ | ⟨admin, socketFd, pipe, carries⟩
    · obtain ⟨gone', outbound⟩ := down gone
      exact Or.inl ⟨gone', outbound.trans empty⟩
    · obtain ⟨later, carriesLater, -⟩ := flows admin socketFd pipe carries
      exact Or.inr ⟨admin, socketFd, later, carriesLater⟩
  | ended gone admin empty => exact Or.inl ⟨gone, empty⟩
  | opened gone carries => exact Or.inr ⟨_, _, _, carries⟩

/-- Each connection of a run has one socket and one pipe. -/
def OnePipe (past : List (State × Label)) (s : State) : Prop :=
  ∀ before l admin socketFd pipe, (before, l) ∈ past → Carries before admin socketFd pipe →
    s.adminChannel = some admin → ∃ later, Carries s admin socketFd later ∧ pipe.Extends later

theorem StreamStep.onePipe {past : List (State × Label)} {l : Label} (step : StreamStep s l s')
    (streaming : Streaming s) (coherent : Coherent s') (numbered : AdminsNumbered past s)
    (onePipe : OnePipe past s) : OnePipe ((s, l) :: past) s' := by
  intro before label admin socketFd pipe member carried isAdmin
  cases step with
  | within flows down =>
    rcases streaming with ⟨gone, empty⟩ | ⟨here, socketHere, pipeHere, carries⟩
    · have live := (coherent.live.trans coherent.admin.symm).trans (congrArg _ isAdmin)
      rw [(down gone).1] at live
      cases live
    · -- the connection is the one that the state before the step has
      obtain ⟨pipeThere, carriesThere, -⟩ := flows here socketHere pipeHere carries
      cases carriesThere.admin.symm.trans isAdmin
      rcases List.mem_cons.mp member with last | earlier
      · cases last
        exact flows _ socketFd pipe carried
      · obtain ⟨between, carriesBetween, goesOn⟩ :=
          onePipe before label _ socketFd pipe earlier carried carries.admin
        obtain ⟨later, carriesLater, goesFurther⟩ := flows _ socketFd between carriesBetween
        exact ⟨later, carriesLater, goesOn.trans goesFurther⟩
  | ended gone noAdmin empty =>
    rw [noAdmin] at isAdmin
    cases isAdmin
  | opened gone carries =>
    have new := carries.admin.symm.trans isAdmin
    cases new
    have old : s.nextChannel < s.nextChannel := by
      rcases List.mem_cons.mp member with last | earlier
      · cases last
        exact numbered.1 _ carried.admin
      · exact numbered.2 before label _ earlier carried.admin
    exact absurd old (Nat.lt_irrefl _)

variable {config : RabbitMqBusConfig} {now : Int} {past : List (State × Label)}

theorem run_streaming (run : DriverRun config now past s) : Streaming s :=
  run.invariant_past (fun _ => Streaming) (Or.inl ⟨rfl, rfl⟩)
    (fun _ _ _ _ before streaming taken =>
      (step_streamStep (run_coherent before) taken).streaming streaming)

theorem run_onePipe (run : DriverRun config now past s) : OnePipe past s :=
  run.invariant_past OnePipe (fun _ _ _ _ _ member => absurd member List.not_mem_nil)
    (fun _ _ _ _ before onePipe taken =>
      (step_streamStep (run_coherent before) taken).onePipe (run_streaming before)
        (coherent_step (run_coherent before) taken) (run_adminsNumbered before) onePipe)

theorem Streaming.carries (streaming : Streaming s) {connection : Connection}
    (live : s.connection = some connection) :
    ∃ admin socketFd pipe, Carries s admin socketFd pipe ∧ connection.produced = pipe.written ∧
      connection.sent = pipe.read := by
  rcases streaming with ⟨gone, empty⟩ | ⟨admin, socketFd, pipe, carries⟩
  · rw [gone] at live
    cases live
  · obtain ⟨other, isLive, written, read⟩ := carries.connection
    cases isLive.symm.trans live
    exact ⟨admin, socketFd, pipe, carries, written, read⟩

/-! ## The bytes of a teardown -/

theorem completePendingResult_onData (pending : Nat) (value : Result Unit) (data : List UInt8)
    (s : State) : (s.onData data).completePendingResult pending value =
      (s.completePendingResult pending value).onData data := by
  have same : (s.onData data).completed = s.completed := rfl
  unfold completePendingResult
  rw [same]
  by_cases settled : (s.completed.map (·.1)).contains pending = true
  · rw [if_pos settled, if_pos settled]
  · rw [if_neg settled, if_neg settled]
    rfl

theorem onError_onData (callback : Callback) (message : String) (data : List UInt8) (s : State) :
    (s.onData data).onError callback message = (s.onError callback message).onData data := by
  cases callback with
  | declared declaration pending => exact completePendingResult_onData _ _ data s
  | bootstrap index declaration => rfl
  | qos index spec => rfl
  | consume index spec => rfl

theorem failCallback_onData (callback : FailCallback) (message : String) (data : List UInt8)
    (s : State) :
    (s.onData data).failCallback callback message =
      (s.failCallback callback message).onData data := by
  cases callback with
  | operation callback => exact onError_onData callback message data s
  | channel errorText => rfl
  | handler => rfl

theorem read_onData (reason : ReasonRef) (data : List UInt8) (s : State) :
    reason.read (s.onData data) = reason.read s := by
  cases reason <;> rfl

theorem foldl_onData {α : Type} (report : State → α → State) (data : List UInt8)
    (each : ∀ s item, report (s.onData data) item = (report s item).onData data)
    (items : List α) (s : State) :
    items.foldl report (s.onData data) = (items.foldl report s).onData data := by
  induction items generalizing s with
  | nil => rfl
  | cons item items ih => rw [List.foldl_cons, List.foldl_cons, each, ih]

/-- The error callbacks do not look at the bytes. -/
theorem failConnection_onData (reason : ReasonRef) (data : List UInt8) (s : State) :
    (s.onData data).failConnection reason = (s.failConnection reason).onData data := by
  cases live : s.connection with
  | none =>
    have gone : (s.onData data).connection = none := by simp [onData, onConnection, live]
    simp only [failConnection, live, gone]
  | some connection =>
    have produced : (s.onData data).connection =
        some { connection with produced := connection.produced ++ data } := by
      simp only [onData, onConnection, live, Option.map_some]
    have failed : (s.onData data).onConnection .fail = (s.onConnection .fail).onData data := by
      simp only [onData, onConnection, live, Option.map_some, Connection.fail]
    have reported := foldl_onData
      (fun s (report : FailCallback × String) => s.failCallback report.1 report.2) data
      (fun s report => failCallback_onData report.1 report.2 data s)
      (reason.reports (reason.read s) connection.failCallbacks) (s.onConnection .fail)
    have same : ({ connection with produced := connection.produced ++ data } :
        Connection).failCallbacks = connection.failCallbacks := rfl
    simp only [failConnection, live, produced, failed, read_onData, same]
    exact reported

/-- `HandleDisconnect` clears what the connection has produced up to its release. -/
theorem handleDisconnect_onData (reason : ReasonRef) (now : Int) (data : List UInt8)
    (s : State) : (s.onData data).handleDisconnect reason now = s.handleDisconnect reason now := by
  unfold handleDisconnect
  rw [failConnection_onData]
  rfl

/-! ## Integrity and isolation -/

/-- Each connection writes to its own socket what it has produced, in order. -/
structure StreamIntact (past : List (State × Label)) (s : State) : Prop where
  /-- What the socket has taken, followed by what waits in `outbound`, is what the connection
  has produced. -/
  live : ∀ connection, s.connection = some connection →
    connection.sent ++ s.outbound = connection.produced
  idle : s.connection = none → s.outbound = []
  /-- Until the connection ends, both only grow, and the socket is the same. -/
  same : ∀ before l admin earlier, (before, l) ∈ past → before.adminChannel = some admin →
    s.adminChannel = some admin → before.connection = some earlier →
    s.socketFd = before.socketFd ∧ ∃ later, s.connection = some later ∧
      earlier.produced <+: later.produced ∧ earlier.sent <+: later.sent
  /-- A new connection starts with nothing sent, and only with what it has produced itself. -/
  fresh : ∀ socketFd produced now s',
    s.step (.connect (.connected socketFd produced) now) = some s' →
    ∃ connection, s'.connection = some connection ∧ connection.sent = [] ∧
      connection.produced = produced ∧ s'.outbound = produced
  /-- What a connection produces until it is destroyed never leaves `outbound`. -/
  teardown : ∀ data reason now,
    (s.onData data).handleDisconnect reason now = s.handleDisconnect reason now

/-- No byte is skipped, repeated or reordered, and none goes to the socket of another
connection. -/
theorem stream_intact (config : RabbitMqBusConfig) (now : Int) (past : List (State × Label))
    (s : State) (run : DriverRun config now past s) : StreamIntact past s where
  live connection live := by
    obtain ⟨admin, socketFd, pipe, carries, written, read⟩ := (run_streaming run).carries live
    rw [carries.buffer, written, read]
    exact pipe.intact
  idle gone := by
    rcases run_streaming run with ⟨-, empty⟩ | ⟨admin, socketFd, pipe, carries⟩
    · exact empty
    · obtain ⟨connection, live, -⟩ := carries.connection
      cases gone.symm.trans live
  same before l admin earlier member wasAdmin isAdmin live := by
    obtain ⟨_, reached⟩ := run.reaches member
    obtain ⟨here, socketFd, pipe, carried, written, read⟩ := (run_streaming reached).carries live
    cases carried.admin.symm.trans wasAdmin
    obtain ⟨pipeLater, carries, goesOn⟩ :=
      run_onePipe run before l _ socketFd pipe member carried isAdmin
    obtain ⟨later, isLive, writtenLater, readLater⟩ := carries.connection
    refine ⟨carries.socket.trans carried.socket.symm, later, isLive, ?_, ?_⟩
    · rw [written, writtenLater]
      exact goesOn.written
    · rw [read, readLater]
      exact goesOn.read
  fresh socketFd produced now s' taken := by
    cases step_cases taken with
    | connected pc => exact ⟨_, rfl, rfl, rfl, rfl⟩
  teardown data reason now := handleDisconnect_onData reason now data s

end State

end

namespace State

open PlainFields

/-- The first connection is lost when two of its three bytes are sent. -/
def loseStream : List Label :=
  [.start 0, .enter true, .testStop, .swapCommands, .commandsDone, .testReconnect 0,
    .connect (.connected 3 [1, 2, 3]) 0, .testStop, .swapCommands, .commandsDone,
    .flush [⟨2, false, ""⟩, ⟨-1, true, ""⟩], .poll .notReadable, .flush [⟨-1, false, "reset"⟩],
    .heartbeat 0 [], .endTurn 0 [], .testStop, .swapCommands, .commandsDone, .testReconnect 1000,
    .connect (.connected 4 [9]) 1000]

theorem loseStream_intact :
    ∃ past s, exec step loseStream [] (new workerConfig 0) = some (past, s) ∧
      s.outbound = [9] ∧ StreamIntact past s := by
  obtain ⟨past, s, executed, outbound⟩ :
      ∃ past s, exec step loseStream [] (new workerConfig 0) = some (past, s) ∧
        s.outbound = [9] :=
    ⟨_, _, rfl, rfl⟩
  exact ⟨past, s, executed, outbound,
    stream_intact workerConfig 0 past s (run_of_exec .nil executed)⟩

end State

end ModuleContext.RabbitMqBus.Driver
