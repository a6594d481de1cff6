import ModuleContext.RabbitMqBus.Driver.BootstrapOrder

/-!
# Coherence of all fields of the driver

The flags, the socket, the public state and the buffers are changed by the connect path, by
the callbacks of the bootstrap, by `HandleDisconnect` and by `Start` and `Stop`. Each of these
leaves them in agreement, and what `Stop` leaves behind stays as it is until the next `Start`.
-/

namespace ModuleContext.RabbitMqBus.Driver
open Foundation Misc

section

variable [AmqpFields]

namespace State

/-- The flags agree with the socket, the handshake and the public state, and the buffers are
empty without a connection. -/
structure Agrees (s : State) : Prop where
  socket : s.socketFd.isSome = s.connected
  handshake : s.handshakeReady = (s.connection.map (·.handshaken)).getD false
  state : s.state = .connected ↔ s.ready = true
  buffers : s.connected = false → s.outbound = [] ∧ s.inbound = []
  finishing : s.control = .finishing → s.threadJoinable = false

/-! ## Operations that leave the flags alone -/

/-- The flags, the socket and the handshake are unchanged. -/
structure SameFlags (s s' : State) : Prop where
  socket : s'.socketFd = s.socketFd
  connected : s'.connected = s.connected
  ready : s'.ready = s.ready
  handshakeReady : s'.handshakeReady = s.handshakeReady
  handshaken : s'.connection.map (·.handshaken) = s.connection.map (·.handshaken)
  state : s'.state = s.state
  control : s'.control = s.control
  joinable : s'.threadJoinable = s.threadJoinable

theorem SameFlags.refl (s : State) : SameFlags s s := ⟨rfl, rfl, rfl, rfl, rfl, rfl, rfl, rfl⟩

theorem SameFlags.trans {a b c : State} (first : SameFlags a b) (second : SameFlags b c) :
    SameFlags a c :=
  ⟨second.socket.trans first.socket, second.connected.trans first.connected,
    second.ready.trans first.ready, second.handshakeReady.trans first.handshakeReady,
    second.handshaken.trans first.handshaken, second.state.trans first.state,
    second.control.trans first.control, second.joinable.trans first.joinable⟩

variable {s s' : State}

/-- On a connection the buffers may hold anything. -/
theorem Agrees.same (agrees : Agrees s) (same : SameFlags s s') (up : s.connected = true) :
    Agrees s' where
  socket := by rw [same.socket, same.connected, agrees.socket]
  handshake := by rw [same.handshakeReady, same.handshaken, agrees.handshake]
  state := by rw [same.state, same.ready, agrees.state]
  buffers down := by
    rw [same.connected, up] at down
    cases down
  finishing := by
    rw [same.control, same.joinable]
    exact agrees.finishing

theorem Quiet.sameFlags (quiet : Quiet s s') : SameFlags s s' where
  socket := quiet.same State.socketFd fun _ => rfl
  connected := quiet.same State.connected fun _ => rfl
  ready := quiet.same State.ready fun _ => rfl
  handshakeReady := quiet.same State.handshakeReady fun _ => rfl
  handshaken := by
    refine quiet.same (fun s => s.connection.map (·.handshaken)) fun s => ?_
    unfold State.core
    cases s.connection <;> rfl
  state := quiet.same State.state fun _ => rfl
  control := quiet.same State.control fun _ => rfl
  joinable := quiet.same State.threadJoinable fun _ => rfl

theorem Reports.sameFlags (reports : Reports s s') : SameFlags s s' := by
  obtain ⟨_, _, _, rfl⟩ := reports
  exact ⟨rfl, rfl, rfl, rfl, rfl, rfl, rfl, rfl⟩

theorem sameFlags_onConnection (change : Connection → Connection)
    (same : ∀ connection, (change connection).handshaken = connection.handshaken) (s : State) :
    SameFlags s (s.onConnection change) := by
  refine ⟨rfl, rfl, rfl, rfl, ?_, rfl, rfl, rfl⟩
  simp [onConnection, Function.comp_def, same]

theorem sameFlags_submit (channel : Nat) (operation : AmqpOperation) (callback : Callback)
    (answer : Answer) (s : State) :
    SameFlags s (s.submit channel operation callback answer) := by
  have produced := (quiet_onData answer.produced s).sameFlags
  unfold submit
  dsimp only
  split
  · exact produced.trans (sameFlags_onConnection (.submit _) (fun _ => rfl) _)
  · have unsent := sameFlags_onConnection (.submitUnsent operation) (fun _ => rfl)
      (s.onData answer.produced)
    exact (produced.trans unsent).trans (reports_onError callback _ _).sameFlags

theorem sameFlags_openConsumerChannel (spec : ConsumerSpec) (s : State) :
    SameFlags s (s.openConsumerChannel spec) := by
  have opened := sameFlags_onConnection (.openChannel
    ((s.consumerRuntimes.lookup spec.name).bind (·.channel))
    { id := s.nextChannel
      errorText := "Consumer channel error for '" ++ spec.name ++ "'"
      closed := false, receiver := none, nextTag := 1 }) (fun _ => rfl) s
  exact { opened with }

theorem sameFlags_markActive (name tag : String) (s : State) :
    SameFlags s (s.markActive name tag) := by
  unfold markActive
  split
  · exact .refl s
  · exact ⟨rfl, rfl, rfl, rfl, rfl, rfl, rfl, rfl⟩

theorem sameFlags_enqueueCommand (body : CommandBody) (s : State) :
    SameFlags s (s.enqueueCommand body) := by
  unfold enqueueCommand
  split
  · exact ⟨rfl, rfl, rfl, rfl, rfl, rfl, rfl, rfl⟩
  · exact .refl s

theorem sameFlags_finishTask (task : Task) (outcome : HandlerOutcome) (s : State) :
    SameFlags s (finishTask task outcome s) := by
  rcases finishTask_cases task outcome s with ⟨-, same⟩ | ⟨-, queued⟩
  · rw [same]
    exact .refl s
  · rw [queued]
    exact sameFlags_enqueueCommand _ s

theorem Handled.sameFlags {delivery : DeliveryContext} {origin : Nat}
    (handled : Handled s delivery origin s') : SameFlags s s' := by
  cases handled with
  | ignored => exact .refl s
  | answered running other => exact { sameFlags_enqueueCommand _ s with }
  | dispatched => exact ⟨rfl, rfl, rfl, rfl, rfl, rfl, rfl, rfl⟩

theorem Executed.sameFlags {command : Command} (executed : Executed s command s') :
    SameFlags s s' := by
  cases executed with
  | answered quiet => exact quiet.sameFlags.trans (reports_completePendingResult _ _ _).sameFlags
  | submitted body ready admin => exact sameFlags_submit _ _ _ _ s

theorem sameFlags_runCommand (command : Command) (answer : Answer) (sends : List SendOutcome)
    (s : State) : SameFlags s (flushOutboundData sends (execute command answer s)) :=
  (execute_cases command answer s).sameFlags.trans
    (quiet_flushOutboundData sends (execute command answer s)).sameFlags

/-! ## Callbacks -/

/-- The bootstrap sets `ready` together with the public state. -/
theorem Agrees.advanced {done : List AmqpOperation} {opened : Nat} (agrees : Agrees s)
    (advanced : Advanced s done opened s') (up : s.connected = true) : Agrees s' := by
  induction advanced with
  | stuck => exact agrees
  | broken => exact agrees.same (reports_requestDisconnect _ _).sameFlags up
  | finished => exact { agrees with state := iff_of_true rfl rfl }
  | submitted place running => exact agrees.same (sameFlags_submit _ _ _ _ _) up
  | opened here next ih =>
    exact ih (agrees.same (sameFlags_openConsumerChannel _ _) up)
      ((sameFlags_openConsumerChannel _ _).connected.trans up)
  | active next ih =>
    exact ih (agrees.same (sameFlags_markActive _ _ _) up)
      ((sameFlags_markActive _ _ _).connected.trans up)

theorem Agrees.called {connection : Connection} {event : AmqpEvent} (agrees : Agrees s)
    (live : s.connection = some connection) (called : Called s connection event s')
    (up : s.connected = true) : Agrees s' := by
  have changed (change : Connection → Connection)
      (same : ∀ connection, (change connection).handshaken = connection.handshaken) :
      Agrees (s.onConnection change) :=
    agrees.same (sameFlags_onConnection change same s) up
  cases called with
  | ready fresh =>
    have shaken : Agrees { s.onConnection ({ · with handshaken := true }) with
        handshakeReady := true } :=
      { agrees with handshake := by rw [onConnection, live]; rfl }
    exact shaken.advanced (startBootstrap_advanced _ _) up
  | @succeeded index tag answer deferred found =>
    have confirmed := changed (.confirm index deferred) fun _ => rfl
    obtain ⟨declaration, pending, callback⟩ | ⟨-, done, opened, advanced⟩ :=
      onSuccess_chain deferred.callback tag answer (s.onConnection (.confirm index deferred))
    · have recorded : Agrees { s.onConnection (.confirm index deferred) with
          config := declaration.record s.config } := { confirmed with }
      rw [callback]
      exact recorded.same (reports_completePendingResult _ _ _).sameFlags up
    · exact confirmed.advanced advanced up
  | @failed index message deferred found =>
    exact (changed (.refuse index deferred) fun _ => rfl).same
      (reports_onError _ _ _).sameFlags up
  | @channelError message channel member isOpen =>
    exact (changed (.failChannel channel.id) fun _ => rfl).same
      (reports_failChannel channel message s).sameFlags up
  | connectionError =>
    exact (changed .fail fun _ => rfl).same (reports_failConnection _ s).sameFlags up
  | closed =>
    exact (changed (fun connection => { connection with closed := true }) fun _ => rfl).same
      (reports_requestDisconnect _ _).sameFlags up
  | @received id message dispatch channel spec found receives =>
    exact (changed (.countDelivery id) fun _ => rfl).same
      (handleIncomingMessage_cases _ _ _ _ _ _).sameFlags up
  | cancelled member receives => exact agrees.same (reports_requestDisconnect _ s).sameFlags up
  | data => exact agrees.same (quiet_onData _ s).sameFlags up

/-! ## Steps -/

theorem state_handleDisconnect (reason : ReasonRef) (now : Int) (s : State) :
    (s.handleDisconnect reason now).state ≠ .connected ∧
      (s.handleDisconnect reason now).state ≠ .connecting := by
  unfold handleDisconnect
  dsimp only
  split
  · simp
  · unfold scheduleReconnect
    dsimp only
    split <;> simp

/-- `HandleDisconnect` takes the flags back together. -/
theorem Agrees.disconnected (agrees : Agrees s) (reason : ReasonRef) (now : Int)
    (pc : DriverPc) : Agrees { s.handleDisconnect reason now with pc } := by
  have shown := state_handleDisconnect reason now s
  obtain ⟨_, _, _, _, _, dropped⟩ := handleDisconnect_eq reason now s
  rw [dropped] at shown ⊢
  exact {
    socket := rfl
    handshake := rfl
    state := iff_of_false shown.1 Bool.false_ne_true
    buffers := fun _ => ⟨rfl, rfl⟩
    finishing := agrees.finishing }

theorem Agrees.queued (agrees : Agrees s) (body : CommandBody) :
    Agrees (s.enqueueCommand body) := by
  unfold enqueueCommand
  split
  · exact { agrees with }
  · exact agrees

/-- The public state without a connection. -/
theorem Coherent.unready (coherent : Coherent s) (down : s.connected = false)
    {state : ConnectionState} (other : state ≠ .connected) :
    state = .connected ↔ s.ready = true := by
  rw [(coherent.down down).1]
  exact iff_of_false other Bool.false_ne_true

theorem agrees_step {l : Label} (coherent : Coherent s) (agrees : Agrees s)
    (taken : s.step l = some s') : Agrees s' := by
  have place := coherent.place
  -- at a place of the turn that talks to the broker there is a connection
  have up (here : AtBroker s.pc) : s.connected = true := ((fits_atBroker here).mp place).1
  cases step_cases taken with
  | startRefused joinable => exact agrees
  | start idle fresh =>
    exact { agrees with
      state := coherent.unready (coherent.free fresh).1 (by simp)
      finishing := fun finishing => by rw [idle] at finishing; cases finishing }
  | stopRequest idle => exact { agrees with finishing := nofun }
  | stopJoin joining ended => exact { agrees with finishing := fun _ => rfl }
  | stopFinish finishing =>
    have free := agrees.finishing finishing
    exact { agrees with
      state := coherent.unready (coherent.free free).1 (by simp)
      finishing := nofun }
  | callAnswered checked => exact agrees
  | callQueued checked => exact agrees.queued _
  | registerHandler => exact { agrees with }
  | unregisterHandler => exact { agrees with }
  | @finishTask index outcome task found =>
    have removed : Agrees { s with tasks := s.tasks.eraseIdx index } := { agrees with }
    rcases finishTask_cases task outcome { s with tasks := s.tasks.eraseIdx index } with
      ⟨-, same⟩ | ⟨-, queued⟩
    · rw [same]
      exact removed
    · rw [queued]
      exact removed.queued _
  | entered pc => exact { agrees with }
  | entryFailed pc =>
    rw [pc] at place
    exact { agrees with state := coherent.unready place.1 (by simp) }
  | stopSeen pc stop => exact { agrees with }
  | goOn pc goOn => exact { agrees with }
  | swapCommands pc => exact { agrees with }
  | @runCommand answer sends command rest pc queued =>
    have popped : Agrees { s with localCommands := rest } := { agrees with }
    by_cases connected : s.connected = true
    · have executed := sameFlags_runCommand command answer sends { s with localCommands := rest }
      exact popped.same executed connected
    · -- without a connection the command is refused, and nothing is sent
      rw [Bool.not_eq_true] at connected
      obtain ⟨completed, refused⟩ :=
        runCommand_down coherent connected command rest answer sends
      rw [refused]
      exact { agrees with }
  | commandsDone pc none up => exact { agrees with }
  | commandsDoneDown pc none down => exact { agrees with }
  | attempt pc attempt => exact { agrees with }
  | noAttempt pc refused => exact { agrees with }
  | connected pc =>
    rw [pc] at place
    exact {
      socket := rfl
      handshake := rfl
      state := iff_of_false (by intro same; cases same) Bool.false_ne_true
      buffers := nofun
      finishing := agrees.finishing }
  | connectFailed pc =>
    rw [pc] at place
    refine { agrees with state := coherent.unready place.1 ?_ }
    simp only [applyReconnectBackoff, scheduleReconnect]
    split <;> simp
  | flushBefore pc =>
    exact { agrees.same (quiet_flushOutboundData _ s).sameFlags (up (by rw [pc]; trivial)) with }
  | @poll outcome pc possible =>
    have connected := up (by rw [pc]; trivial)
    have ends (reason : String) : Agrees { s.requestDisconnect reason with pc := .flushAfter } :=
      { agrees with }
    cases outcome with
    | selectFailed => exact ends _
    | notReadable => exact { agrees with }
    | closedByBroker => exact ends _
    | wouldBlock => exact { agrees with }
    | receiveFailed message => exact ends _
    | received data =>
      exact { agrees with buffers := fun down => by cases connected.symm.trans down }
  | event pc live alive called => exact agrees.called live called (up (by rw [pc]; trivial))
  | parsed pc bounded leads =>
    have connected := up (by rw [pc]; trivial)
    exact { agrees with buffers := fun down => by cases connected.symm.trans down }
  | flushAfter pc =>
    exact { agrees.same (quiet_flushOutboundData _ s).sameFlags (up (by rw [pc]; trivial)) with }
  | heartbeat pc =>
    exact { agrees.same (quiet_maybeSendHeartbeat _ _ s).sameFlags (up (by rw [pc]; trivial)) with }
  | disconnect pc pending => exact agrees.disconnected _ _ _
  | endTurn pc settled => exact { agrees with }
  | finalDisconnect pc => exact agrees.disconnected _ _ _
  | waitOver pc completed => exact { agrees with }

variable {config : RabbitMqBusConfig} {now : Int} {past : List (State × Label)}

theorem run_agrees (run : DriverRun config now past s) : Agrees s :=
  run.invariant_past (fun _ => Agrees)
    ⟨rfl, rfl, by simp [new], fun _ => ⟨rfl, rfl⟩, by simp [new]⟩
    (fun _ _ _ _ before agrees taken => agrees_step (run_coherent before) agrees taken)

/-- The handshake comes before the bootstrap that makes the connection ready. -/
theorem ready_handshaken (agrees : Agrees s) (coherent : Coherent s) (inPhase : InPhase s)
    (ready : s.ready = true) : s.handshakeReady = true ∧ s.connected = true := by
  have up : s.connected = true := by
    by_contra down
    rw [(coherent.down (by simpa using down)).1] at ready
    cases ready
  obtain ⟨connection, live⟩ := Option.isSome_iff_exists.mp (coherent.live.trans up)
  have handshaken : connection.progress.handshaken = true := by
    by_contra unshaken
    have unready := ((inPhase connection live).unshaken (by simpa using unshaken)).1
    rw [ready] at unready
    cases unready
  refine ⟨?_, up⟩
  rw [agrees.handshake, live]
  exact handshaken

/-! ## After a stop -/

/-- `Stop` has returned, and `Start` has not been called since. -/
def hasStopped : List (State × Label) → Bool
  | [] => false
  | (_, .stopFinish) :: _ => true
  | (_, .start _) :: _ => false
  | _ :: past => hasStopped past

/-- A stopped driver has no thread that could change its state. -/
theorem stopped_step {l : Label} (coherent : Coherent s) (free : s.threadJoinable = false)
    (stopped : s.state = .stopped) (taken : s.step l = some s')
    (unstarted : ∀ now, l ≠ .start now) :
    s'.threadJoinable = false ∧ s'.state = .stopped := by
  have resting : s.pc = .idle ∨ s.pc = .returned := coherent.joinable free
  have busy {pc : DriverPc} (here : s.pc = pc) (started : pc ≠ .idle)
      (unfinished : pc ≠ .returned) : s'.threadJoinable = false ∧ s'.state = .stopped := by
    rw [here] at resting
    exact (resting.elim started unfinished).elim
  cases step_cases taken with
  | startRefused joinable => exact ⟨free, stopped⟩
  | @start now idle fresh => exact absurd rfl (unstarted now)
  | stopRequest idle => exact ⟨free, stopped⟩
  | stopJoin joining ended => exact ⟨rfl, stopped⟩
  | stopFinish finishing => exact ⟨free, rfl⟩
  | callAnswered checked => exact ⟨free, stopped⟩
  | @callQueued call body checked =>
    have queued := sameFlags_enqueueCommand body s
    exact ⟨queued.joinable.trans free, queued.state.trans stopped⟩
  | registerHandler => exact ⟨free, stopped⟩
  | unregisterHandler => exact ⟨free, stopped⟩
  | @finishTask index outcome task found =>
    have finished := sameFlags_finishTask task outcome { s with tasks := s.tasks.eraseIdx index }
    exact ⟨finished.joinable.trans free, finished.state.trans stopped⟩
  | entered pc => exact busy pc (by simp) (by simp)
  | entryFailed pc => exact busy pc (by simp) (by simp)
  | stopSeen pc stop => exact busy pc (by simp) (by simp)
  | goOn pc goOn => exact busy pc (by simp) (by simp)
  | swapCommands pc => exact busy pc (by simp) (by simp)
  | runCommand pc queued => exact busy pc (by simp) (by simp)
  | commandsDone pc none up => exact busy pc (by simp) (by simp)
  | commandsDoneDown pc none down => exact busy pc (by simp) (by simp)
  | attempt pc attempt => exact busy pc (by simp) (by simp)
  | noAttempt pc refused => exact busy pc (by simp) (by simp)
  | connected pc => exact busy pc (by simp) (by simp)
  | connectFailed pc => exact busy pc (by simp) (by simp)
  | flushBefore pc => exact busy pc (by simp) (by simp)
  | poll pc possible => exact busy pc (by simp) (by simp)
  | event pc live alive called => exact busy pc (by simp) (by simp)
  | parsed pc bounded leads => exact busy pc (by simp) (by simp)
  | flushAfter pc => exact busy pc (by simp) (by simp)
  | heartbeat pc => exact busy pc (by simp) (by simp)
  | disconnect pc pending => exact busy pc (by simp) (by simp)
  | endTurn pc settled => exact busy pc (by simp) (by simp)
  | finalDisconnect pc => exact busy pc (by simp) (by simp)
  | waitOver pc completed => exact busy pc (by simp) (by simp)

/-- Nothing of a connection is left. -/
structure Released (s : State) : Prop where
  connected : s.connected = false
  socket : s.socketFd = none
  connection : s.connection = none
  admin : s.adminChannel = none
  ready : s.ready = false
  handshake : s.handshakeReady = false
  pending : s.pendingDisconnect = false
  outbound : s.outbound = []
  inbound : s.inbound = []
  runtimes : s.consumerRuntimes = ∅

theorem Agrees.released (agrees : Agrees s) (coherent : Coherent s)
    (down : s.connected = false) : Released s where
  connected := down
  socket := by
    rw [← Option.not_isSome_iff_eq_none, agrees.socket, down]
    exact Bool.false_ne_true
  connection := coherent.gone down
  admin := by
    rw [← Option.not_isSome_iff_eq_none, coherent.admin, down]
    exact Bool.false_ne_true
  ready := (coherent.down down).1
  handshake := by rw [agrees.handshake, coherent.gone down]; rfl
  pending := coherent.settled down
  outbound := (agrees.buffers down).1
  inbound := (agrees.buffers down).2
  runtimes := (coherent.down down).2.2

theorem run_stopped (run : DriverRun config now past s) (stopped : hasStopped past = true) :
    s.threadJoinable = false ∧ s.state = .stopped := by
  refine run.invariant_past
    (fun past s => hasStopped past = true → s.threadJoinable = false ∧ s.state = .stopped)
    nofun (fun past s l s' before holds taken stopped => ?_) stopped
  have goesOn (earlier : hasStopped past = true) (unstarted : ∀ now, l ≠ .start now) :
      s'.threadJoinable = false ∧ s'.state = .stopped :=
    stopped_step (run_coherent before) (holds earlier).1 (holds earlier).2 taken unstarted
  cases l
  case stopFinish =>
    cases step_cases taken with
    | stopFinish finishing => exact ⟨(run_agrees before).finishing finishing, rfl⟩
  case start now => cases stopped
  all_goals exact goesOn stopped (by simp)

/-- The connection, the socket, the flags, the buffers and the public state fit together, and
once the driver has been stopped nothing of a connection is left. -/
structure FieldsCohere (past : List (State × Label)) (s : State) : Prop where
  socket : s.socketFd.isSome = s.connected
  connection : s.connection.isSome = s.connected
  admin : s.adminChannel.isSome = s.connected
  ready : s.ready = true → s.handshakeReady = true ∧ s.connected = true
  state : s.state = .connected ↔ s.ready = true
  pending : s.pendingDisconnect = true → s.connected = true
  outbound : s.outbound ≠ [] → s.connected = true
  inbound : s.inbound ≠ [] → s.connected = true
  runtimes : s.consumerRuntimes ≠ ∅ → s.connected = true
  stopped : hasStopped past = true → s.state = .stopped ∧ Released s

/-- The fields of the driver cohere in every state that any of its runs reaches. -/
theorem fields_cohere (config : RabbitMqBusConfig) (now : Int) (past : List (State × Label))
    (s : State) (run : DriverRun config now past s) : FieldsCohere past s := by
  have agrees := run_agrees run
  have coherent := run_coherent run
  -- what a driver without a connection has released, it can only have with one
  have held {p : Prop} (released : Released s → ¬ p) (holds : p) : s.connected = true := by
    by_contra down
    exact released (agrees.released coherent (by simpa using down)) holds
  exact {
    socket := agrees.socket
    connection := coherent.live
    admin := coherent.admin
    ready := ready_handshaken agrees coherent (run_inPhase run)
    state := agrees.state
    pending := held fun released => by simp [released.pending]
    outbound := held fun released => by simp [released.outbound]
    inbound := held fun released => by simp [released.inbound]
    runtimes := held fun released => by simp [released.runtimes]
    stopped := fun stopped => by
      obtain ⟨free, state⟩ := run_stopped run stopped
      exact ⟨state, agrees.released coherent (coherent.free free).1⟩ }

end State

end

namespace State

open PlainFields

/-- The driver is stopped in the middle of a turn, once its connection is up. -/
def bringUpThenStop : List Label :=
  bringUp ++ [.parsed 1, .flush [], .stopRequest, .heartbeat 0 [], .endTurn 0 [], .testStop,
    .finalDisconnect 0, .stopJoin, .stopFinish]

theorem fields_cohere_bringUpThenStop :
    ∃ past s, exec step bringUpThenStop [] (new workerConfig 0) = some (past, s) ∧
      hasStopped past = true ∧ FieldsCohere past s := by
  obtain ⟨past, s, executed, stopped⟩ :
      ∃ past s, exec step bringUpThenStop [] (new workerConfig 0) = some (past, s) ∧
        hasStopped past = true :=
    ⟨_, _, rfl, rfl⟩
  exact ⟨past, s, executed, stopped,
    fields_cohere workerConfig 0 past s (run_of_exec .nil executed)⟩

end State

end ModuleContext.RabbitMqBus.Driver
