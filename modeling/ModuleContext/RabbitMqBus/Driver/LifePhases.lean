import ModuleContext.Misc.Simulation
import ModuleContext.RabbitMqBus.Driver.Escalation

/-!
# The phases of a connection

What `GetConnectionState` shows changes from several places: the loop, the callbacks, `Start` and
`Stop`. Seen from outside the driver goes through the phases of one connection after the other,
and each change has one of a few causes.
-/

namespace ModuleContext.RabbitMqBus.Driver
open Foundation Misc

/-! ## Phases -/

/-- The phases that a connection goes through. -/
inductive LifePhase where
  | created
  | attempting
  | handshaking
  | up
  | retrying
  | failed
  | stopped
  deriving DecidableEq

/-- What happens to the connection. -/
inductive LifeEvent where
  | quiet
  | started
  | unusable
  | attemptFailed
  | connected
  | established
  | lost
  | stopped
  deriving DecidableEq

namespace LifePhase

/-- What a client is shown in a phase. -/
def shows : LifePhase → ConnectionState
  | .created => .created
  | .attempting => .connecting
  | .handshaking => .connecting
  | .up => .connected
  | .retrying => .reconnecting
  | .failed => .error
  | .stopped => .stopped

/-- The phase after a connection that could not be made or was lost. -/
def retry (reconnect : Bool) : LifePhase := if reconnect then .retrying else .failed

/-- The phase that an event leads to. -/
def step (reconnect : Bool) : LifePhase → LifeEvent → Option LifePhase
  | phase, .quiet => some phase
  | .created, .started => some .attempting
  | .stopped, .started => some .attempting
  | .attempting, .unusable => some .failed
  | .attempting, .attemptFailed => some (retry reconnect)
  | .retrying, .attemptFailed => some (retry reconnect)
  | .attempting, .connected => some .handshaking
  | .retrying, .connected => some .handshaking
  | .handshaking, .established => some .up
  | .handshaking, .lost => some (retry reconnect)
  | .up, .lost => some (retry reconnect)
  | _, .stopped => some .stopped
  | _, _ => none

/-- The phase that belongs to the last event. -/
def after (reconnect : Bool) : LifeEvent → LifePhase
  | .quiet => .created
  | .started => .attempting
  | .unusable => .failed
  | .attemptFailed => retry reconnect
  | .connected => .handshaking
  | .established => .up
  | .lost => retry reconnect
  | .stopped => .stopped

/-- The last event that is not quiet. -/
def lastEvent : List (LifePhase × LifeEvent) → LifeEvent
  | [] => .quiet
  | (_, event) :: past => if event = .quiet then lastEvent past else event

/-- How often an event has happened. -/
def happened (event : LifeEvent) (past : List (LifePhase × LifeEvent)) : Nat :=
  (past.map (·.2)).count event

variable {reconnect : Bool} {phase phase' : LifePhase} {event : LifeEvent}
  {past : List (LifePhase × LifeEvent)}

theorem step_after (taken : step reconnect phase event = some phase') :
    event = .quiet ∧ phase' = phase ∨ event ≠ .quiet ∧ phase' = after reconnect event := by
  cases phase <;> cases event <;> cases taken <;> simp [after]

theorem step_quiet : step reconnect phase .quiet = some phase := by
  cases phase <;> rfl

theorem step_stopped : step reconnect phase .stopped = some .stopped := by
  cases phase <;> rfl

/-- The phase is always the one of the last event. -/
theorem run_after (run : Run (step reconnect) .created past phase) :
    phase = after reconnect (lastEvent past) := by
  induction run with
  | nil => rfl
  | snoc before taken ih =>
    rw [lastEvent]
    rcases step_after taken with ⟨rfl, same⟩ | ⟨loud, leads⟩
    · rw [if_pos rfl, same]
      exact ih
    · rw [if_neg loud]
      exact leads

theorem happened_cons (event other : LifeEvent) (phase : LifePhase) :
    happened event ((phase, other) :: past) =
      happened event past + if other = event then 1 else 0 := by
  unfold happened
  rw [List.map_cons, List.count_cons]
  simp only [beq_iff_eq]

/-- A socket is connected in a phase. -/
def hasSocket : LifePhase → Bool
  | .handshaking => true
  | .up => true
  | _ => false

/-- A step makes as much of what it uses up: a handshake for each connection that is established,
and a socket for each that is lost. -/
theorem step_counts (taken : step reconnect phase event = some phase') :
    (if event = .established then 1 else 0) + (if phase' = .handshaking then 1 else 0) ≤
        (if phase = .handshaking then 1 else 0) + (if event = .connected then 1 else 0) ∧
      (if event = .lost then 1 else 0) + (if phase'.hasSocket then 1 else 0) ≤
        (if phase.hasSocket then 1 else 0) + (if event = .connected then 1 else 0) := by
  cases phase <;> cases event <;> cases taken <;> cases reconnect <;> decide

/-- A connection is established and lost at most once for each time a socket is connected, and
never without one. -/
theorem run_counts (run : Run (step reconnect) .created past phase) :
    happened .established past + (if phase = .handshaking then 1 else 0) ≤
        happened .connected past ∧
      happened .lost past + (if phase.hasSocket then 1 else 0) ≤ happened .connected past := by
  induction run with
  | nil => exact ⟨le_refl 0, le_refl 0⟩
  | snoc before taken ih =>
    have counts := step_counts taken
    simp only [happened_cons]
    omega

end LifePhase

section

variable [AmqpFields]

namespace State

/-! ## The driver in its phases -/

/-- `RabbitMqConnectionDriver::GetConnectionState`. -/
def getConnectionState (s : State) : ConnectionState := s.state

/-- The phase of the connection, as the public state and the socket tell it. -/
def lifePhase (s : State) : LifePhase :=
  match s.state with
  | .created => .created
  | .connecting => if s.connected then .handshaking else .attempting
  | .connected => .up
  | .reconnecting => .retrying
  | .stopped => .stopped
  | .error => .failed

/-- What a step means for the connection. A callback establishes it when the public state shows so
for the first time. -/
def lifeEvent (s : State) (l : Label) : LifeEvent :=
  match l with
  | .start _ => if s.threadJoinable then .quiet else .started
  | .stopFinish => .stopped
  | .enter socketsOk => if socketsOk then .quiet else .unusable
  | .connect (.connected _ _) _ => .connected
  | .connect (.failed _) _ => .attemptFailed
  | .event _ =>
      if s.state ≠ .connected ∧ (s.step l).any (·.state == .connected) then .established
      else .quiet
  | .endTurn _ _ =>
      if s.pendingDisconnect then if s.stopRequested then .stopped else .lost else .quiet
  | .finalDisconnect _ => .stopped
  | _ => .quiet

theorem shows_lifePhase (s : State) : s.lifePhase.shows = s.getConnectionState := by
  unfold lifePhase getConnectionState
  cases s.state with
  | connecting => cases s.connected <;> rfl
  | _ => rfl

/-- The driver goes by its configuration when it cannot be connected. -/
def retries (s : State) : LifePhase := .retry s.config.connection.reconnect.enabled

/-- What the public state can be at a place of the driver thread. -/
def ShowsAt (s : State) : DriverPc → Prop
  | .entry => s.state = .connecting
  | .loopTest => s.connected = false → s.stopRequested = false →
      s.state = .connecting ∨ s.state = s.retries.shows
  | .drain | .commands | .connectTest => s.connected = false →
      s.state = .connecting ∨ s.state = s.retries.shows
  | .connect => s.state = .connecting ∨ s.state = .reconnecting
  | _ => True

/-- The public state fits the connection, the place of the thread and `Stop`. -/
structure LifeFits (s : State) : Prop where
  up : s.connected = true → s.state = .connecting ∨ s.state = .connected
  place : s.ShowsAt s.pc
  rests : s.threadJoinable = false → s.control ≠ .finishing →
    s.state = .created ∨ s.state = .stopped

/-- Nothing that the public state has to fit is changed, besides the place of the thread. -/
structure SameLife (s s' : State) : Prop where
  state : s'.state = s.state
  connected : s'.connected = s.connected
  joinable : s'.threadJoinable = s.threadJoinable
  stop : s'.stopRequested = s.stopRequested
  control : s'.control = s.control
  connection : s'.config.connection = s.config.connection

variable {s s' : State}

theorem SameLife.showsAt (same : SameLife s s') {pc : DriverPc} (shows : s.ShowsAt pc) :
    s'.ShowsAt pc := by
  have agree : s'.ShowsAt pc = s.ShowsAt pc := by
    cases pc <;>
      simp only [ShowsAt, retries, same.state, same.connected, same.stop, same.connection]
  rw [agree]
  exact shows

theorem LifeFits.same (fits : LifeFits s) (same : SameLife s s') (place : s.ShowsAt s'.pc) :
    LifeFits s' where
  up := by
    rw [same.connected, same.state]
    exact fits.up
  place := same.showsAt place
  rests := by
    rw [same.joinable, same.control, same.state]
    exact fits.rests

theorem SameLife.lifePhase (same : SameLife s s') : s'.lifePhase = s.lifePhase := by
  unfold State.lifePhase
  rw [same.state, same.connected]

theorem Untouched.connection (untouched : Untouched s s') :
    s'.config.connection = s.config.connection :=
  untouched.same (·.config.connection) fun _ => rfl

theorem Untouched.control (untouched : Untouched s s') : s'.control = s.control :=
  untouched.same State.control fun _ => rfl

theorem SameTurn.sameLife (turn : SameTurn s s') (untouched : Untouched s s')
    (state : s'.state = s.state) : SameLife s s' :=
  ⟨state, turn.connected, turn.joinable, turn.stop, untouched.control, untouched.connection⟩

theorem SameLife.refl (s : State) (pc : DriverPc) : SameLife s { s with pc } :=
  ⟨rfl, rfl, rfl, rfl, rfl, rfl⟩

theorem SameLife.trans {a b c : State} (first : SameLife a b) (second : SameLife b c) :
    SameLife a c where
  state := second.state.trans first.state
  connected := second.connected.trans first.connected
  joinable := second.joinable.trans first.joinable
  stop := second.stop.trans first.stop
  control := second.control.trans first.control
  connection := second.connection.trans first.connection

theorem SameLife.goesTo (same : SameLife s s') (pc : DriverPc) : SameLife s { s' with pc } :=
  same.trans (.refl s' pc)

theorem Quiet.sameLife (quiet : Quiet s s') : SameLife s s' :=
  quiet.sameTurn.sameLife quiet.untouched quiet.sameFlags.state

/-- The bootstrap changes the public state only to show that the connection is established. -/
theorem Advanced.state {done : List AmqpOperation} {opened : Nat}
    (advanced : Advanced s done opened s') : s'.state = s.state ∨ s'.state = .connected := by
  induction advanced with
  | stuck => exact Or.inl rfl
  | broken => exact Or.inl rfl
  | finished => exact Or.inr rfl
  | submitted place running => exact Or.inl (sameFlags_submit _ _ _ _ _).state
  | opened here next ih =>
    rwa [(sameFlags_openConsumerChannel _ _).state] at ih
  | active next ih =>
    rwa [(sameFlags_markActive _ _ _).state] at ih

theorem Called.state {connection : Connection} {event : AmqpEvent}
    (called : Called s connection event s') : s'.state = s.state ∨ s'.state = .connected := by
  cases called with
  | ready fresh => exact (startBootstrap_advanced _ _).state
  | @succeeded index tag answer deferred found =>
    rcases onSuccess_chain deferred.callback tag answer (s.onConnection (.confirm index deferred))
      with ⟨declaration, pending, callback⟩ | ⟨chain, done, opened, advanced⟩
    · rw [callback]
      exact Or.inl (reports_completePendingResult _ _ _).sameFlags.state
    · exact advanced.state
  | failed found => exact Or.inl (reports_onError _ _ _).sameFlags.state
  | channelError member isOpen => exact Or.inl (reports_failChannel _ _ s).sameFlags.state
  | connectionError => exact Or.inl (reports_failConnection _ s).sameFlags.state
  | closed => exact Or.inl rfl
  | received found receives =>
    exact Or.inl (handleIncomingMessage_cases _ _ _ _ _ _).sameFlags.state
  | cancelled member receives => exact Or.inl rfl
  | data => exact Or.inl rfl

/-! ## Steps -/

/-- A step keeps the public state fitting, and is one of the phases. -/
structure LifeStep (s : State) (l : Label) (s' : State) : Prop where
  fits : s'.LifeFits
  simulated : LifePhase.step s.config.connection.reconnect.enabled s.lifePhase (s.lifeEvent l) =
    some s'.lifePhase

theorem LifeFits.quiet {l : Label} (fits : LifeFits s) (quiet : s.lifeEvent l = .quiet)
    (same : SameLife s s') (place : s.ShowsAt s'.pc) : LifeStep s l s' where
  fits := fits.same same place
  simulated := by
    rw [quiet, same.lifePhase]
    exact LifePhase.step_quiet

/-- The phase in which a connection is down, and an attempt may be made. -/
theorem lifePhase_down (down : s.connected = false)
    (shows : s.state = .connecting ∨ s.state = .reconnecting) :
    s.lifePhase = .attempting ∨ s.lifePhase = .retrying := by
  unfold lifePhase
  rcases shows with state | state
  · rw [state, down]
    exact Or.inl rfl
  · rw [state]
    exact Or.inr rfl

/-- The phase of a connected socket. -/
theorem lifePhase_up (up : s.connected = true)
    (shows : s.state = .connecting ∨ s.state = .connected) :
    s.lifePhase = .handshaking ∨ s.lifePhase = .up := by
  unfold lifePhase
  rcases shows with state | state
  · rw [state, up]
    exact Or.inl rfl
  · rw [state]
    exact Or.inr rfl

theorem shows_retries (s : State) :
    s.retries.shows =
      if s.config.connection.reconnect.enabled then .reconnecting else .error := by
  unfold retries LifePhase.retry
  split <;> rfl

theorem lifePhase_retries (state : s'.state = s.retries.shows) : s'.lifePhase = s.retries := by
  unfold lifePhase
  rw [state]
  unfold retries LifePhase.retry
  cases s.config.connection.reconnect.enabled <;> rfl

/-- What `HandleDisconnect` shows. -/
theorem shows_handleDisconnect (reason : ReasonRef) (now : Int) (s : State) :
    (s.handleDisconnect reason now).state =
      if s.stopRequested then .stopped else s.retries.shows := by
  obtain ⟨_, _, _, failed⟩ := reports_failConnection reason s
  unfold handleDisconnect
  rw [failed]
  dsimp only
  split
  · rename_i stop
    rw [if_pos (show s.stopRequested = true from stop)]
  · rename_i goesOn
    rw [if_neg (show ¬ s.stopRequested = true from goesOn)]
    exact (shows_retries s).symm

/-- The connection is lost, or it ends because the driver is to stop. -/
theorem lifeStep_handleDisconnect {l : Label} {pc : DriverPc} (reason : ReasonRef) (now : Int)
    (leads : pc = .loopTest ∨ pc = .returned) (running : s.threadJoinable ≠ false)
    (event : s.lifeEvent l = if s.stopRequested then .stopped else .lost)
    (phase : s.stopRequested = false → s.lifePhase = .handshaking ∨ s.lifePhase = .up) :
    LifeStep s l { s.handleDisconnect reason now with pc } := by
  have state := shows_handleDisconnect reason now s
  obtain ⟨_, _, _, _, _, dropped⟩ := handleDisconnect_eq reason now s
  have down : (s.handleDisconnect reason now).connected = false := by rw [dropped]
  have stop : (s.handleDisconnect reason now).stopRequested = s.stopRequested := by rw [dropped]
  have same : (s.handleDisconnect reason now).retries = s.retries := by
    rw [dropped]
    rfl
  have joinable : (s.handleDisconnect reason now).threadJoinable = s.threadJoinable := by
    rw [dropped]
  refine ⟨⟨?_, ?_, ?_⟩, ?_⟩
  · exact fun up => absurd (down.symm.trans up) Bool.false_ne_true
  · rcases leads with rfl | rfl
    · intro _ goesOn
      right
      show (s.handleDisconnect reason now).state = (s.handleDisconnect reason now).retries.shows
      have running : s.stopRequested = false := stop.symm.trans goesOn
      rw [state, running, same]
      rfl
    · trivial
  · exact fun free => absurd (joinable.symm.trans free) running
  · rw [event]
    cases stops : s.stopRequested with
    | true =>
      have stopped : lifePhase { s.handleDisconnect reason now with pc } = .stopped := by
        rw [stops] at state
        unfold lifePhase
        dsimp only
        rw [state]
        rfl
      rw [stopped]
      exact LifePhase.step_stopped
    | false =>
      rw [stops] at state
      have retries : lifePhase { s.handleDisconnect reason now with pc } = s.retries :=
        lifePhase_retries state
      rw [retries]
      rcases phase stops with here | here
      · rw [here]
        rfl
      · rw [here]
        rfl

/-! What changes the phase, transition by transition. -/

theorem LifeFits.start {time : Int} (fits : LifeFits s) (idle : s.control = .idle)
    (fresh : s.threadJoinable = false) (down : s.connected = false) :
    LifeStep s (.start time)
      { s with
        stopRequested := false, state := .connecting, lastError := "", nextReconnectAt := time
        reconnectDelayMs := s.config.connection.reconnect.initialDelayMs
        threadJoinable := true, pc := .entry } where
  fits := ⟨fun up => absurd (down.symm.trans up) Bool.false_ne_true, rfl, fun free => by cases free⟩
  simulated := by
    have unfinished : s.control ≠ .finishing := by rw [idle]; simp
    have attempting : lifePhase { s with
        stopRequested := false, state := .connecting, lastError := "", nextReconnectAt := time
        reconnectDelayMs := s.config.connection.reconnect.initialDelayMs
        threadJoinable := true, pc := .entry } = .attempting := by
      simp [lifePhase, down]
    rw [attempting, lifeEvent, fresh]
    rcases fits.rests fresh unfinished with state | state
    · rw [lifePhase, state]
      rfl
    · rw [lifePhase, state]
      rfl

theorem LifeFits.stopRequest (fits : LifeFits s) (idle : s.control = .idle) :
    LifeStep s .stopRequest { s with stopRequested := true, control := .joining } where
  fits := by
    have unfinished : s.control ≠ .finishing := by rw [idle]; simp
    have shown := fits.place
    refine ⟨fits.up, ?_, fun free _ => fits.rests free unfinished⟩
    cases here : s.pc with
    | loopTest => exact fun _ stop => by cases stop
    | _ =>
      rw [here] at shown
      exact shown
  simulated := LifePhase.step_quiet

/-- Once the thread is joined the driver has stopped, whatever it showed before. -/
theorem LifeStep.stopFinish (down : s.connected = false)
    (ended : s.pc = .idle ∨ s.pc = .returned) :
    LifeStep s .stopFinish { s with state := .stopped, control := .idle } where
  fits := by
    refine ⟨fun up => absurd (down.symm.trans up) Bool.false_ne_true, ?_, fun _ _ => Or.inr rfl⟩
    show ShowsAt _ s.pc
    rcases ended with here | here <;> (rw [here]; trivial)
  simulated := LifePhase.step_stopped

theorem LifeFits.entryFailed (fits : LifeFits s) (pc : s.pc = .entry) (down : s.connected = false)
    (joinable : s.threadJoinable ≠ false) :
    LifeStep s (.enter false)
      { s with
        state := .error, lastError := "Failed to initialize socket subsystem"
        pc := .returned } where
  fits := ⟨fun up => absurd (down.symm.trans up) Bool.false_ne_true, trivial,
    fun free => absurd free joinable⟩
  simulated := by
    have shown := fits.place
    rw [pc] at shown
    have state : s.state = .connecting := shown
    have attempting : s.lifePhase = .attempting := by simp [lifePhase, state, down]
    rw [attempting]
    rfl

/-- An attempt is made from the start, or where the driver is to reconnect. -/
theorem LifeFits.attempt {time : Int} (fits : LifeFits s) (pc : s.pc = .connectTest)
    (down : s.connected = false) (attempt : s.shouldAttemptReconnect time = true) :
    LifeStep s (.testReconnect time) { s with pc := .connect } := by
  have shown := fits.place
  rw [pc] at shown
  refine fits.quiet rfl (.refl s _) ?_
  rcases shown down with state | state
  · exact Or.inl state
  · rw [shows_retries] at state
    cases enabled : s.config.connection.reconnect.enabled with
    | true =>
      rw [enabled] at state
      exact Or.inr state
    | false =>
      rw [shouldAttemptReconnect, enabled] at attempt
      simp only [Bool.false_eq_true, if_false, Bool.and_eq_true, beq_iff_eq] at attempt
      exact Or.inl attempt.2

theorem LifeFits.connected {socketFd : Nat} {produced : List UInt8} {time : Int}
    (fits : LifeFits s) (pc : s.pc = .connect) (down : s.connected = false)
    (joinable : s.threadJoinable ≠ false) :
    LifeStep s (.connect (.connected socketFd produced) time)
      { s.connectSocket socketFd produced time with pc := .loopTest } where
  fits := ⟨fun _ => Or.inl rfl, fun down => (by cases down), fun free => absurd free joinable⟩
  simulated := by
    have shown := fits.place
    rw [pc] at shown
    rcases lifePhase_down down shown with phase | phase
    · rw [phase]
      rfl
    · rw [phase]
      rfl

theorem LifeFits.connectFailed {e : Error} {time : Int} (fits : LifeFits s) (pc : s.pc = .connect)
    (down : s.connected = false) (joinable : s.threadJoinable ≠ false) :
    LifeStep s (.connect (.failed e) time)
      { s.applyReconnectBackoff e.message time with pc := .loopTest } := by
  have state : (s.applyReconnectBackoff e.message time).state = s.retries.shows :=
    (shows_retries s).symm
  refine ⟨⟨fun up => absurd (down.symm.trans up) Bool.false_ne_true, fun _ _ => Or.inr state,
    fun free => absurd free joinable⟩, ?_⟩
  have retries : lifePhase { s.applyReconnectBackoff e.message time with pc := .loopTest } =
      s.retries := lifePhase_retries state
  have shown := fits.place
  rw [pc] at shown
  rw [retries]
  rcases lifePhase_down down shown with phase | phase
  · rw [phase]
    rfl
  · rw [phase]
    rfl

/-- A callback establishes the connection, or leaves the phase as it is. -/
theorem LifeFits.called {connection : Connection} {event : AmqpEvent} (fits : LifeFits s)
    (taken : s.step (.event event) = some s') (pc : s.pc = .parsing) (up : s.connected = true)
    (joinable : s.threadJoinable ≠ false) (called : Called s connection event s') :
    LifeStep s (.event event) s' := by
  obtain ⟨there, waits, turn⟩ := called.waits
  have stays : s'.connected = true := turn.connected.trans up
  have before := fits.up up
  have after : s'.state = .connecting ∨ s'.state = .connected := by
    rcases called.state with state | state
    · rw [state]
      exact before
    · exact Or.inr state
  refine ⟨⟨fun _ => after, ?_, ?_⟩, ?_⟩
  · rw [show s'.pc = there from turn.pc]
    rcases waits with rfl | ⟨pending, rfl⟩
    · rw [pc]
      trivial
    · trivial
  · intro free
    exact absurd ((show s'.threadJoinable = _ from turn.joinable).symm.trans free) joinable
  · have event : s.lifeEvent (.event event) =
        if s.state ≠ .connected ∧ s'.state = .connected then .established else .quiet := by
      rw [lifeEvent, taken]
      simp
    rw [event]
    rcases before with state | state
    · rcases after with state' | state'
      · simp [lifePhase, state, state', up, stays, LifePhase.step]
      · simp [lifePhase, state, state', up, LifePhase.step]
    · have state' : s'.state = .connected := by
        rcases called.state with same | same
        · rw [same, state]
        · exact same
      simp [lifePhase, state, state', LifePhase.step]

theorem LifeFits.step {config : RabbitMqBusConfig} {now : Int} {past : List (State × Label)}
    {l : Label} (fits : LifeFits s) (run : DriverRun config now past s)
    (taken : s.step l = some s') : LifeStep s l s' := by
  have coherent := run_coherent run
  have shown := fits.place
  have place := coherent.place
  have stays {l : Label} {next : State} (quiet : s.lifeEvent l = .quiet) (same : SameLife s next)
      (pc : next.pc = s.pc) : LifeStep s l next := fits.quiet quiet same (pc ▸ shown)
  have goes {l : Label} {pc : DriverPc} (quiet : s.lifeEvent l = .quiet) (shows : s.ShowsAt pc) :
      LifeStep s l { s with pc } := fits.quiet quiet (.refl s pc) shows
  have running (started : s.pc ≠ .idle) (unfinished : s.pc ≠ .returned) :
      s.threadJoinable ≠ false := coherent.running started unfinished
  cases step_cases taken with
  | startRefused joinable => exact stays (by simp [lifeEvent, joinable]) (.refl s s.pc) rfl
  | start idle fresh => exact fits.start idle fresh (coherent.free fresh).1
  | stopRequest idle => exact fits.stopRequest idle
  | stopJoin joining ended =>
    exact ⟨⟨fits.up, shown, fun _ unfinished => absurd rfl unfinished⟩, LifePhase.step_quiet⟩
  | stopFinish finishing =>
    have free := (run_agrees run).finishing finishing
    exact .stopFinish (coherent.free free).1 (coherent.joinable free)
  | callAnswered checked => exact stays rfl (.refl s s.pc) rfl
  | @callQueued call body checked =>
    have turn := sameTurn_enqueueCommand body s
    exact stays rfl (turn.sameLife (untouched_enqueueCommand body s)
      (sameFlags_enqueueCommand body s).state) turn.pc
  | registerHandler => exact stays rfl ⟨rfl, rfl, rfl, rfl, rfl, rfl⟩ rfl
  | unregisterHandler => exact stays rfl ⟨rfl, rfl, rfl, rfl, rfl, rfl⟩ rfl
  | @finishTask index outcome task found =>
    have turn := sameTurn_finishTask task outcome { s with tasks := s.tasks.eraseIdx index }
    have life := turn.sameLife (untouched_finishTask task outcome _)
      (sameFlags_finishTask task outcome _).state
    have taskTaken : SameLife s { s with tasks := s.tasks.eraseIdx index } :=
      ⟨rfl, rfl, rfl, rfl, rfl, rfl⟩
    exact stays rfl (taskTaken.trans life) turn.pc
  | entered pc =>
    rw [pc] at shown
    exact goes rfl fun _ _ => Or.inl shown
  | entryFailed pc =>
    rw [pc] at place
    exact fits.entryFailed pc place.1 (running (by simp [pc]) (by simp [pc]))
  | stopSeen pc stop => exact goes rfl trivial
  | goOn pc goesOn =>
    rw [pc] at shown
    exact goes rfl fun down => shown down goesOn
  | swapCommands pc =>
    rw [pc] at shown
    exact fits.quiet rfl ⟨rfl, rfl, rfl, rfl, rfl, rfl⟩ shown
  | @runCommand answer sends command rest pc queued =>
    have turn := sameTurn_runCommand command answer sends { s with localCommands := rest }
    have life := turn.sameLife
      (untouched_runCommand command answer sends { s with localCommands := rest })
      (sameFlags_runCommand command answer sends { s with localCommands := rest }).state
    have commandTaken : SameLife s { s with localCommands := rest } :=
      ⟨rfl, rfl, rfl, rfl, rfl, rfl⟩
    exact stays rfl (commandTaken.trans life) turn.pc
  | commandsDone pc none up => exact goes rfl trivial
  | commandsDoneDown pc none down =>
    rw [pc] at shown
    exact goes rfl shown
  | attempt pc attempt =>
    rw [pc] at place
    exact fits.attempt pc place.1 attempt
  | noAttempt pc refused =>
    rw [pc] at shown
    exact goes rfl fun down _ => shown down
  | connected pc =>
    rw [pc] at place
    exact fits.connected pc place.1 (running (by simp [pc]) (by simp [pc]))
  | connectFailed pc =>
    rw [pc] at place
    exact fits.connectFailed pc place.1 (running (by simp [pc]) (by simp [pc]))
  | @flushBefore sends pc =>
    exact fits.quiet rfl ((quiet_flushOutboundData sends s).sameLife.goesTo .pump) trivial
  | @poll outcome pc possible =>
    cases outcome <;> exact fits.quiet rfl ⟨rfl, rfl, rfl, rfl, rfl, rfl⟩ trivial
  | event pc live alive called =>
    rw [pc] at place
    exact fits.called taken pc place.1 (running (by simp [pc]) (by simp [pc])) called
  | parsed pc bounded leads =>
    rcases leads with rfl | rfl <;> exact fits.quiet rfl ⟨rfl, rfl, rfl, rfl, rfl, rfl⟩ trivial
  | @flushAfter sends pc =>
    exact fits.quiet rfl ((quiet_flushOutboundData sends s).sameLife.goesTo .heartbeat) trivial
  | @heartbeat time produced pc =>
    have beat := quiet_maybeSendHeartbeat time produced s
    exact fits.quiet rfl (beat.sameLife.goesTo .turnEnd) trivial
  | disconnect pc pending =>
    rw [pc] at place
    refine lifeStep_handleDisconnect _ _ (Or.inl rfl) (running (by simp [pc]) (by simp [pc]))
      (by rw [lifeEvent, if_pos pending]) ?_
    exact fun _ => lifePhase_up place.1 (fits.up place.1)
  | endTurn pc settled =>
    rw [pc] at place
    refine goes (by simp [lifeEvent, settled]) fun down => ?_
    exact absurd (place.1.symm.trans down) Bool.true_eq_false.mp
  | finalDisconnect pc =>
    have stop := run_ends run pc
    refine lifeStep_handleDisconnect _ _ (Or.inr rfl) (running (by simp [pc]) (by simp [pc]))
      (by rw [if_pos stop, lifeEvent]) ?_
    exact fun goesOn => absurd (stop.symm.trans goesOn) Bool.true_eq_false.mp
  | waitOver pc completed => exact goes rfl trivial

/-! ## Runs -/

variable {config : RabbitMqBusConfig} {now : Int} {past : List (State × Label)}

theorem run_lifeFits (run : DriverRun config now past s) : LifeFits s := by
  have base : LifeFits (new config now) :=
    ⟨fun up => (by cases up), trivial, fun _ _ => Or.inl rfl⟩
  exact run.invariant_past (fun _ => LifeFits) base
    fun _ _ _ _ before fits taken => (fits.step before taken).fits

theorem run_phases (run : DriverRun config now past s) :
    Run (LifePhase.step config.connection.reconnect.enabled) .created
      (project lifePhase lifeEvent past) s.lifePhase := by
  have simulated (past : List (State × Label)) (s : State) (l : Label) (s' : State)
      (before : DriverRun config now past s) (taken : s.step l = some s') :
      LifePhase.step config.connection.reconnect.enabled s.lifePhase (s.lifeEvent l) =
        some s'.lifePhase := by
    rw [← run_connectionConfig before]
    exact ((run_lifeFits before).step before taken).simulated
  exact run.project_reached simulated

/-- What the public state of a driver tells about the life of its connections. -/
structure Lives (reconnect : Bool) (past : List (State × Label)) (s : State) : Prop where
  /-- The run is one of the phases. -/
  phases : Run (LifePhase.step reconnect) .created (project lifePhase lifeEvent past) s.lifePhase
  /-- A client is shown the last event. -/
  shown : s.getConnectionState =
    (LifePhase.after reconnect (LifePhase.lastEvent (project lifePhase lifeEvent past))).shows
  /-- With reconnect, only an unusable socket subsystem is an error. -/
  error : reconnect = true → s.getConnectionState = .error →
    LifePhase.lastEvent (project lifePhase lifeEvent past) = .unusable
  reconnecting : reconnect = false → s.getConnectionState ≠ .reconnecting
  /-- Connections are established, and lost, no more often than sockets were connected. -/
  established : LifePhase.happened .established (project lifePhase lifeEvent past) ≤
    LifePhase.happened .connected (project lifePhase lifeEvent past)
  lost : LifePhase.happened .lost (project lifePhase lifeEvent past) ≤
    LifePhase.happened .connected (project lifePhase lifeEvent past)

/-- Seen through its public state, the driver goes through the phases of connections. -/
theorem lives_in_phases (config : RabbitMqBusConfig) (now : Int) (past : List (State × Label))
    (s : State) (run : DriverRun config now past s) :
    Lives config.connection.reconnect.enabled past s := by
  have phases := run_phases run
  have last := LifePhase.run_after phases
  have shown := (shows_lifePhase s).symm.trans (congrArg LifePhase.shows last)
  obtain ⟨established, lost⟩ := LifePhase.run_counts phases
  refine ⟨phases, shown, ?_, ?_, by omega, by omega⟩
  · intro enabled failed
    rw [shown, enabled] at failed
    cases event : LifePhase.lastEvent (project lifePhase lifeEvent past) with
    | unusable => rfl
    | _ =>
      rw [event] at failed
      cases failed
  · intro disabled again
    rw [shown, disabled] at again
    cases event : LifePhase.lastEvent (project lifePhase lifeEvent past) with
    | _ =>
      rw [event] at again
      cases again

end State

end

namespace State

open PlainFields

/-- The broker closes an established connection. -/
def closedByBroker : List Label :=
  bringUp ++ [.event .closed, .parsed 1, .flush [], .heartbeat 0 [], .endTurn 5 []]

theorem lives_in_phases_closedByBroker :
    ∃ past s, exec step closedByBroker [] (new workerConfig 0) = some (past, s) ∧
      ((project lifePhase lifeEvent past).map (·.2)).filter (· ≠ .quiet) =
        [.lost, .established, .connected, .started] ∧
      s.getConnectionState = .reconnecting ∧
      Lives workerConfig.connection.reconnect.enabled past s := by
  obtain ⟨past, s, executed, events, shown⟩ :
      ∃ past s, exec step closedByBroker [] (new workerConfig 0) = some (past, s) ∧
        ((project lifePhase lifeEvent past).map (·.2)).filter (· ≠ .quiet) =
          [.lost, .established, .connected, .started] ∧
        s.getConnectionState = .reconnecting :=
    ⟨_, _, rfl, by decide, rfl⟩
  exact ⟨past, s, executed, events, shown,
    lives_in_phases workerConfig 0 past s (run_of_exec .nil executed)⟩

end State

end ModuleContext.RabbitMqBus.Driver
