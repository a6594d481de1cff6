import ModuleContext.RabbitMqBus.Driver.Bootstrap
import ModuleContext.RabbitMqBus.Driver.Steps

/-!
# Coherence of the driver state

A connection, its admin channel and the `connected` flag come and go together; without them
nothing that belongs to a connection is left; and the place of the driver thread says which of
the two it is. Callbacks and commands stay within one turn of the loop.
-/

namespace ModuleContext.RabbitMqBus.Driver
open Foundation Misc

variable [AmqpFields]

namespace State

/-! ## One turn of the loop -/

/-- What callbacks and commands leave alone; the queue grows by the commands that are
accepted. -/
structure SameTurn (s s' : State) : Prop where
  joinable : s'.threadJoinable = s.threadJoinable
  stop : s'.stopRequested = s.stopRequested
  connected : s'.connected = s.connected
  admin : s'.adminChannel = s.adminChannel
  live : s'.connection.isSome = s.connection.isSome
  locals : s'.localCommands = s.localCommands
  pc : s'.pc = s.pc
  queue : s'.commands.length + s.nextPending = s.commands.length + s'.nextPending
  channels : s.nextChannel ≤ s'.nextChannel

theorem SameTurn.refl (s : State) : SameTurn s s := ⟨rfl, rfl, rfl, rfl, rfl, rfl, rfl, rfl, le_rfl⟩

theorem SameTurn.trans {a b c : State} (first : SameTurn a b) (second : SameTurn b c) :
    SameTurn a c :=
  ⟨second.joinable.trans first.joinable, second.stop.trans first.stop,
    second.connected.trans first.connected, second.admin.trans first.admin,
    second.live.trans first.live, second.locals.trans first.locals, second.pc.trans first.pc, by
      have one := first.queue
      have two := second.queue
      omega, Nat.le_trans first.channels second.channels⟩

theorem Reports.sameTurn {s s' : State} (reports : Reports s s') : SameTurn s s' := by
  obtain ⟨_, _, _, rfl⟩ := reports
  exact ⟨rfl, rfl, rfl, rfl, rfl, rfl, rfl, rfl, le_rfl⟩

theorem Quiet.sameTurn {s s' : State} (quiet : Quiet s s') : SameTurn s s' where
  joinable := quiet.same State.threadJoinable fun _ => rfl
  stop := quiet.same State.stopRequested fun _ => rfl
  connected := quiet.same State.connected fun _ => rfl
  admin := quiet.same State.adminChannel fun _ => rfl
  live := quiet.same (·.connection.isSome) fun _ => Option.isSome_map
  locals := quiet.same State.localCommands fun _ => rfl
  pc := quiet.same State.pc fun _ => rfl
  queue := by
    rw [quiet.same State.commands fun _ => rfl, quiet.same State.nextPending fun _ => rfl]
  channels := Nat.le_of_eq (quiet.same State.nextChannel fun _ => rfl).symm

theorem sameTurn_onConnection (change : Connection → Connection) (s : State) :
    SameTurn s (s.onConnection change) :=
  ⟨rfl, rfl, rfl, rfl, Option.isSome_map, rfl, rfl, rfl, le_rfl⟩

theorem sameTurn_submit (channel : Nat) (operation : AmqpOperation) (callback : Callback)
    (answer : Answer) (s : State) : SameTurn s (s.submit channel operation callback answer) := by
  unfold submit
  dsimp only
  split
  · exact (quiet_onData _ s).sameTurn.trans (sameTurn_onConnection _ _)
  · exact ((quiet_onData _ s).sameTurn.trans (sameTurn_onConnection _ _)).trans
      (reports_onError callback _ _).sameTurn

theorem sameTurn_openConsumerChannel (spec : ConsumerSpec) (s : State) :
    SameTurn s (s.openConsumerChannel spec) :=
  ⟨rfl, rfl, rfl, rfl, Option.isSome_map, rfl, rfl, rfl, Nat.le_succ _⟩

theorem sameTurn_markActive (name tag : String) (s : State) :
    SameTurn s (s.markActive name tag) := by
  unfold markActive
  split
  · exact .refl s
  · exact ⟨rfl, rfl, rfl, rfl, rfl, rfl, rfl, rfl, le_rfl⟩

theorem Advanced.sameTurn {s s' : State} {done : List AmqpOperation} {opened : Nat}
    (advanced : Advanced s done opened s') : SameTurn s s' := by
  induction advanced with
  | stuck => exact .refl _
  | broken => exact (reports_requestDisconnect _ _).sameTurn
  | finished => exact ⟨rfl, rfl, rfl, rfl, rfl, rfl, rfl, rfl, le_rfl⟩
  | submitted place running => exact sameTurn_submit _ _ _ _ _
  | opened here next ih => exact (sameTurn_openConsumerChannel _ _).trans ih
  | active next ih => exact (sameTurn_markActive _ _ _).trans ih

theorem sameTurn_onSuccess (callback : Callback) (tag : String) (answer : Answer) (s : State) :
    SameTurn s (s.onSuccess callback tag answer) := by
  obtain ⟨declaration, pending, rfl⟩ | ⟨-, done, opened, advanced⟩ :=
    onSuccess_chain callback tag answer s
  · have recorded : SameTurn s { s with config := declaration.record s.config } :=
      ⟨rfl, rfl, rfl, rfl, rfl, rfl, rfl, rfl, le_rfl⟩
    exact recorded.trans (reports_completePendingResult _ _ _).sameTurn
  · exact advanced.sameTurn

theorem sameTurn_enqueueCommand (body : CommandBody) (s : State) :
    SameTurn s (s.enqueueCommand body) := by
  unfold enqueueCommand
  split
  · refine ⟨rfl, rfl, rfl, rfl, rfl, rfl, rfl, ?_, le_rfl⟩
    simp only [List.length_append, List.length_singleton]
    omega
  · exact .refl s

theorem sameTurn_finishTask (task : Task) (outcome : HandlerOutcome) (s : State) :
    SameTurn s (finishTask task outcome s) := by
  rcases finishTask_cases task outcome s with ⟨-, same⟩ | ⟨-, queued⟩
  · rw [same]
    exact .refl s
  · rw [queued]
    exact sameTurn_enqueueCommand _ s

theorem Executed.sameTurn {s s' : State} {command : Command} (executed : Executed s command s') :
    SameTurn s s' := by
  cases executed with
  | answered quiet =>
    exact quiet.sameTurn.trans (reports_completePendingResult _ _ _).sameTurn
  | submitted body ready admin => exact sameTurn_submit _ _ _ _ s

/-- A command of `DrainCommands`, with the flush that follows it. -/
theorem sameTurn_runCommand (command : Command) (answer : Answer) (sends : List SendOutcome)
    (s : State) : SameTurn s (flushOutboundData sends (execute command answer s)) :=
  (execute_cases command answer s).sameTurn.trans
    (quiet_flushOutboundData sends (execute command answer s)).sameTurn

/-- The driver thread goes on, or begins to wait for a command of its own. -/
def Waits (s s' : State) : Prop :=
  ∃ pc, (pc = s.pc ∨ ∃ pending, pc = .waiting pending) ∧ SameTurn { s with pc } s'

theorem SameTurn.waits {s s' : State} (turn : SameTurn s s') : Waits s s' :=
  ⟨s.pc, Or.inl rfl, turn⟩

theorem Handled.waits {s s' : State} {delivery : DeliveryContext} {origin : Nat}
    (handled : Handled s delivery origin s') : Waits s s' := by
  cases handled with
  | ignored => exact (SameTurn.refl s).waits
  | @answered action running other =>
    obtain ⟨joinable, stop, connected, admin, live, locals, -, queue, channels⟩ :=
      sameTurn_enqueueCommand (.completeDelivery delivery action (some origin)) s
    exact ⟨.waiting s.nextPending, Or.inr ⟨_, rfl⟩,
      joinable, stop, connected, admin, live, locals, rfl, queue, channels⟩
  | dispatched =>
    exact SameTurn.waits ⟨rfl, rfl, rfl, rfl, rfl, rfl, rfl, rfl, le_rfl⟩

theorem sameTurn_failConnection (reason : ReasonRef) (s : State) :
    SameTurn s (s.failConnection reason) :=
  (sameTurn_onConnection .fail s).trans (reports_failConnection reason s).sameTurn

theorem sameTurn_failChannel (channel : Channel) (message : String) (s : State) :
    SameTurn s (s.failChannel channel message) :=
  (sameTurn_onConnection (.failChannel channel.id) s).trans
    (reports_failChannel channel message s).sameTurn

/-- A callback of `parse` other than a message stays within the turn. -/
theorem Called.sameTurn {s s' : State} {connection : Connection} {event : AmqpEvent}
    (called : Called s connection event s')
    (other : ∀ id message dispatch, event ≠ .received id message dispatch) : SameTurn s s' := by
  cases called with
  | ready fresh =>
    have handshaken : SameTurn s
        { s.onConnection ({ · with handshaken := true }) with handshakeReady := true } :=
      (sameTurn_onConnection _ s).trans ⟨rfl, rfl, rfl, rfl, rfl, rfl, rfl, rfl, le_rfl⟩
    exact handshaken.trans (startBootstrap_advanced _ _).sameTurn
  | @succeeded index tag answer deferred found =>
    exact (sameTurn_onConnection (.confirm index deferred) s).trans (sameTurn_onSuccess _ _ _ _)
  | @failed index message deferred found =>
    exact (sameTurn_onConnection (.refuse index deferred) s).trans
      (reports_onError _ _ _).sameTurn
  | channelError member isOpen => exact sameTurn_failChannel _ _ s
  | connectionError => exact sameTurn_failConnection _ s
  | closed =>
    exact (sameTurn_onConnection ({ · with closed := true }) s).trans
      (reports_requestDisconnect _ _).sameTurn
  | received found receives => exact absurd rfl (other _ _ _)
  | cancelled member receives => exact (reports_requestDisconnect _ s).sameTurn
  | data => exact (quiet_onData _ s).sameTurn

/-- A callback of `parse` stays within the turn, or lets the thread wait. -/
theorem Called.waits {s s' : State} {connection : Connection} {event : AmqpEvent}
    (called : Called s connection event s') : Waits s s' := by
  by_cases arrives : ∃ id message dispatch, event = .received id message dispatch
  · obtain ⟨id, message, dispatch, rfl⟩ := arrives
    cases called with
    | @received _ _ _ channel spec found receives =>
      obtain ⟨pc, place, turn⟩ := (handleIncomingMessage_cases spec message channel.nextTag id
        dispatch (s.onConnection (.countDelivery id))).waits
      exact ⟨pc, place, (sameTurn_onConnection (.countDelivery id) { s with pc }).trans turn⟩
  · refine (called.sameTurn ?_).waits
    rintro id message dispatch rfl
    exact arrives ⟨id, message, dispatch, rfl⟩

/-! ## Coherent states -/

/-- What holds at a place of the driver thread. -/
def Fits (s : State) : DriverPc → Prop
  | .idle | .entry | .returned | .connectTest | .connect =>
      s.connected = false ∧ s.localCommands = []
  | .loopTest | .drain | .finalDisconnect => s.pendingDisconnect = false ∧ s.localCommands = []
  | .commands => True
  | .flushBefore | .pump | .parsing | .flushAfter | .heartbeat | .turnEnd | .waiting _ =>
      s.connected = true ∧ s.localCommands = []

/-- The places of a turn that talk to the broker. -/
def AtBroker : DriverPc → Prop
  | .flushBefore | .pump | .parsing | .flushAfter | .heartbeat | .turnEnd | .waiting _ => True
  | _ => False

theorem fits_atBroker {s : State} {pc : DriverPc} (here : AtBroker pc) :
    s.Fits pc ↔ s.connected = true ∧ s.localCommands = [] := by
  cases pc <;> first | exact Iff.rfl | exact here.elim

/-- The connection, its admin channel and the flag agree, and without a connection nothing
that belongs to one is left. -/
structure Coherent (s : State) : Prop where
  live : s.connection.isSome = s.connected
  admin : s.adminChannel.isSome = s.connected
  down : s.connected = false →
    s.ready = false ∧ s.pendingDisconnect = false ∧ s.consumerRuntimes = ∅
  joinable : s.threadJoinable = false → s.pc = .idle ∨ s.pc = .returned
  place : s.Fits s.pc

theorem Coherent.turn {s s' : State} (coherent : Coherent s) (turn : SameTurn s s')
    (up : s.connected = true) (place : s'.Fits s.pc) : Coherent s' where
  live := by rw [turn.live, turn.connected, coherent.live]
  admin := by rw [turn.admin, turn.connected, coherent.admin]
  down down := by rw [turn.connected, up] at down; cases down
  joinable := by rw [turn.joinable, turn.pc]; exact coherent.joinable
  place := by rw [turn.pc]; exact place

theorem coherent_new (config : RabbitMqBusConfig) (now : Int) : Coherent (new config now) where
  live := rfl
  admin := rfl
  down _ := ⟨rfl, rfl, rfl⟩
  joinable _ := Or.inl rfl
  place := ⟨rfl, rfl⟩

/-- A driver without a connection refuses every command. -/
theorem execute_down {s : State} (down : s.connected = false) (empty : s.consumerRuntimes = ∅)
    (command : Command) (answer : Answer) :
    ∃ e, s.execute command answer = s.completePendingResult command.pending (.error e) := by
  have notReady : s.isReadyLocked = false := by simp [isReadyLocked, down]
  obtain ⟨body, pending⟩ := command
  cases body with
  | publish request => exact ⟨_, by simp [execute, executePublish, notReady]; rfl⟩
  | declare declaration => exact ⟨_, by simp [execute, executeDeclare, notReady]; rfl⟩
  | completeDelivery delivery action origin =>
    have unavailable : s.completionChannel delivery = none := by
      simp [completionChannel, empty]
    exact ⟨_, by simp [execute, executeCompleteDelivery, unavailable]; rfl⟩

theorem flushOutboundData_down {s : State} (down : s.connected = false)
    (sends : List SendOutcome) : s.flushOutboundData sends = s := by
  cases sends with
  | nil => rfl
  | cons outcome outcomes => simp [flushOutboundData, down]

/-- Without a connection, running a command only completes its result, and nothing is sent. -/
theorem runCommand_down {s : State} (coherent : Coherent s) (down : s.connected = false)
    (command : Command) (rest : List Command) (answer : Answer) (sends : List SendOutcome) :
    ∃ completed,
      (execute command answer { s with localCommands := rest }).flushOutboundData sends =
        { s with localCommands := rest, completed } := by
  have empty := (coherent.down down).2.2
  obtain ⟨e, refused⟩ :=
    execute_down (s := { s with localCommands := rest }) down empty command answer
  have reports := reports_completePendingResult command.pending (.error e)
    { s with localCommands := rest }
  rw [refused, flushOutboundData_down (reports.sameTurn.connected.trans down)]
  unfold completePendingResult
  split
  · exact ⟨_, rfl⟩
  · exact ⟨_, rfl⟩

/-- Between its start and its return the driver thread can be joined. -/
theorem Coherent.running {s : State} (coherent : Coherent s) (started : s.pc ≠ .idle)
    (unfinished : s.pc ≠ .returned) : s.threadJoinable ≠ false := by
  intro free
  rcases coherent.joinable free with idle | ended
  · exact started idle
  · exact unfinished ended

/-- A driver whose thread cannot be joined has no connection. -/
theorem Coherent.free {s : State} (coherent : Coherent s) (free : s.threadJoinable = false) :
    s.connected = false ∧ s.localCommands = [] := by
  have place := coherent.place
  rcases coherent.joinable free with pc | pc <;> rwa [pc] at place

/-- A step of the driver thread that only moves it on. -/
theorem Coherent.goTo {s : State} (coherent : Coherent s) {pc : DriverPc} (started : s.pc ≠ .idle)
    (unfinished : s.pc ≠ .returned) (place : s.Fits pc) : Coherent { s with pc } :=
  { coherent with
    joinable := fun free => absurd free (coherent.running started unfinished)
    place := by cases pc <;> exact place }

/-- A part of a turn on a connection. -/
theorem Coherent.turnTo {s s' : State} (coherent : Coherent s) {pc : DriverPc}
    (here : AtBroker s.pc) (turn : SameTurn s s') (there : AtBroker pc) :
    Coherent { s' with pc } := by
  obtain ⟨up, locals⟩ := (fits_atBroker here).mp coherent.place
  have place : s'.connected = true ∧ s'.localCommands = [] :=
    ⟨turn.connected.trans up, turn.locals.trans locals⟩
  have turned := coherent.turn turn up ((fits_atBroker here).mpr place)
  refine turned.goTo ?_ ?_ ((fits_atBroker there).mpr place)
  · intro idle
    rw [← turn.pc, idle] at here
    exact here
  · intro ended
    rw [← turn.pc, ended] at here
    exact here

theorem coherent_handleDisconnect {s : State} (reason : ReasonRef) (now : Int) {pc : DriverPc}
    (running : s.threadJoinable ≠ false)
    (place : Fits { s with connected := false, pendingDisconnect := false } pc) :
    Coherent { s.handleDisconnect reason now with pc } := by
  obtain ⟨_, _, _, _, _, dropped⟩ := handleDisconnect_eq reason now s
  rw [dropped]
  exact {
    live := rfl
    admin := rfl
    down := fun _ => ⟨rfl, rfl, rfl⟩
    joinable := fun free => absurd free running
    place := by cases pc <;> exact place }

theorem Coherent.queued {s : State} (coherent : Coherent s) (body : CommandBody) :
    Coherent (s.enqueueCommand body) := by
  unfold enqueueCommand
  split
  · exact { coherent with }
  · exact coherent

theorem Coherent.gone {s : State} (coherent : Coherent s) (down : s.connected = false) :
    s.connection = none := by
  rw [← Option.not_isSome_iff_eq_none, coherent.live, down]
  exact Bool.false_ne_true

/-- Without a connection no disconnect is pending. -/
theorem Coherent.settled {s : State} (coherent : Coherent s) (down : s.connected = false) :
    s.pendingDisconnect = false :=
  (coherent.down down).2.1

theorem coherent_step {s s' : State} {l : Label} (coherent : Coherent s)
    (taken : s.step l = some s') : Coherent s' := by
  have place := coherent.place
  cases step_cases taken with
  | startRefused joinable => exact coherent
  | start idle fresh =>
    exact { coherent with joinable := nofun, place := coherent.free fresh }
  | stopRequest idle => exact { coherent with }
  | stopJoin joining finished =>
    have ended : s.pc = .idle ∨ s.pc = .returned := by
      cases joinable : s.threadJoinable with
      | false => exact coherent.joinable joinable
      | true => exact Or.inr (finished joinable)
    exact { coherent with joinable := fun _ => ended }
  | stopFinish finishing => exact { coherent with }
  | callAnswered checked => exact coherent
  | callQueued checked => exact coherent.queued _
  | registerHandler => exact { coherent with }
  | unregisterHandler => exact { coherent with }
  | @finishTask index outcome task found =>
    have taken : Coherent { s with tasks := s.tasks.eraseIdx index } := { coherent with }
    rcases finishTask_cases task outcome { s with tasks := s.tasks.eraseIdx index } with
      ⟨-, same⟩ | ⟨-, queued⟩
    · rw [same]
      exact taken
    · rw [queued]
      exact taken.queued _
  | entered pc =>
    rw [pc] at place
    exact coherent.goTo (by simp [pc]) (by simp [pc]) ⟨coherent.settled place.1, place.2⟩
  | entryFailed pc =>
    rw [pc] at place
    exact { coherent with joinable := fun _ => Or.inr rfl, place := place }
  | stopSeen pc stop =>
    rw [pc] at place
    exact coherent.goTo (by simp [pc]) (by simp [pc]) place
  | goOn pc goOn =>
    rw [pc] at place
    exact coherent.goTo (by simp [pc]) (by simp [pc]) place
  | swapCommands pc =>
    exact { coherent with
      joinable := fun free => absurd free (coherent.running (by simp [pc]) (by simp [pc]))
      place := trivial }
  | @runCommand answer sends command rest pc queued =>
    have taken : Coherent { s with localCommands := rest } := by
      rw [pc] at place
      exact { coherent with place := by rw [pc]; trivial }
    by_cases up : s.connected = true
    · have executed := sameTurn_runCommand command answer sends { s with localCommands := rest }
      exact taken.turn executed up (by rw [pc]; trivial)
    · rw [Bool.not_eq_true] at up
      obtain ⟨completed, refused⟩ := runCommand_down coherent up command rest answer sends
      rw [refused]
      exact { taken with }
  | commandsDone pc none up =>
    exact coherent.goTo (by simp [pc]) (by simp [pc]) ⟨up, none⟩
  | commandsDoneDown pc none down =>
    exact coherent.goTo (by simp [pc]) (by simp [pc]) ⟨down, none⟩
  | attempt pc attempt =>
    rw [pc] at place
    exact coherent.goTo (by simp [pc]) (by simp [pc]) place
  | noAttempt pc refused =>
    rw [pc] at place
    exact coherent.goTo (by simp [pc]) (by simp [pc]) ⟨coherent.settled place.1, place.2⟩
  | @connected socketFd produced now pc =>
    rw [pc] at place
    have joinable : s.threadJoinable ≠ false := coherent.running (by simp [pc]) (by simp [pc])
    exact {
      live := rfl
      admin := rfl
      down := nofun
      joinable := fun free => absurd free joinable
      place := ⟨rfl, place.2⟩ }
  | connectFailed pc =>
    rw [pc] at place
    exact { coherent with
      joinable := fun free => absurd free (coherent.running (by simp [pc]) (by simp [pc]))
      place := ⟨coherent.settled place.1, place.2⟩ }
  | @flushBefore sends pc =>
    exact coherent.turnTo (by rw [pc]; trivial) (quiet_flushOutboundData sends s).sameTurn trivial
  | @poll outcome pc possible =>
    have here : AtBroker s.pc := by rw [pc]; trivial
    have ends (reason : String) :
        Coherent { s.requestDisconnect reason with pc := .flushAfter } :=
      coherent.turnTo here (reports_requestDisconnect reason s).sameTurn trivial
    cases outcome with
    | selectFailed => exact ends _
    | notReadable => exact coherent.turnTo here (.refl s) trivial
    | closedByBroker => exact ends _
    | wouldBlock => exact coherent.turnTo here (.refl s) trivial
    | receiveFailed message => exact ends _
    | received data =>
      have received : SameTurn s { s with inbound := s.inbound ++ data } :=
        ⟨rfl, rfl, rfl, rfl, rfl, rfl, rfl, rfl, le_rfl⟩
      exact coherent.turnTo here received trivial
  | event pc live alive called =>
    have here : AtBroker s.pc := by rw [pc]; trivial
    obtain ⟨next, stays, turn⟩ := called.waits
    have there : AtBroker next := by
      rcases stays with rfl | ⟨pending, rfl⟩
      · exact here
      · trivial
    have moved := coherent.turnTo here (.refl s) there
    have same := moved.turnTo there turn there
    have final : s'.pc = next := turn.pc
    subst final
    exact same
  | @parsed count next pc bounded leads =>
    have parsed : SameTurn s { s with inbound := s.inbound.drop count } :=
      ⟨rfl, rfl, rfl, rfl, rfl, rfl, rfl, rfl, le_rfl⟩
    refine coherent.turnTo (by rw [pc]; trivial) parsed ?_
    rcases leads with rfl | rfl <;> trivial
  | @flushAfter sends pc =>
    exact coherent.turnTo (by rw [pc]; trivial) (quiet_flushOutboundData sends s).sameTurn trivial
  | @heartbeat now produced pc =>
    have here : AtBroker s.pc := by rw [pc]; trivial
    exact coherent.turnTo here (quiet_maybeSendHeartbeat now produced s).sameTurn trivial
  | @disconnect now stale pc pending =>
    rw [pc] at place
    have running := coherent.running (by simp [pc]) (by simp [pc])
    exact coherent_handleDisconnect (.pendingReason stale) now running ⟨rfl, place.2⟩
  | endTurn pc settled =>
    rw [pc] at place
    exact coherent.goTo (by simp [pc]) (by simp [pc]) ⟨settled, place.2⟩
  | @finalDisconnect now pc =>
    rw [pc] at place
    have running := coherent.running (by simp [pc]) (by simp [pc])
    exact coherent_handleDisconnect (.text "RabbitMQ driver stopped") now running ⟨rfl, place.2⟩
  | waitOver pc completed =>
    have here : AtBroker s.pc := by rw [pc]; trivial
    exact coherent.turnTo here (.refl s) trivial

/-- Every state of a run is coherent. -/
theorem run_coherent {config : RabbitMqBusConfig} {now : Int} {past : List (State × Label)}
    {s : State} (run : DriverRun config now past s) : Coherent s :=
  run.invariant Coherent (coherent_new config now)
    (fun _ _ _ coherent taken => coherent_step coherent taken)

end State

end ModuleContext.RabbitMqBus.Driver
