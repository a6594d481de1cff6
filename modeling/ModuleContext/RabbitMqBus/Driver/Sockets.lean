import ModuleContext.Misc.HandleTable
import ModuleContext.Misc.Simulation
import ModuleContext.RabbitMqBus.Driver.CommandOrder
import ModuleContext.RabbitMqBus.Driver.SingleAttempt

/-!
# Sockets

`ConnectSocket` tries the addresses of the broker one after the other, `HandleDisconnect` closes
the socket of the connection, and in between the driver sends and receives on it. Here the
driver runs with a table of the sockets of its process.
-/

namespace ModuleContext.RabbitMqBus.Driver
open Foundation Misc

/-- What `connect` returns on a non-blocking socket. -/
inductive ConnectAnswer where
  | connected
  | inProgress
  | refused

/-- What the system answers for one address: the socket it opens, what `connect` and `select`
return, and the pending error of the socket, unless `getsockopt` fails. -/
structure AddressAnswer where
  socketFd : Option Nat
  connect : ConnectAnswer
  selected : Int
  socketError : Option Int

/-- The socket of the address gets connected. -/
def AddressAnswer.reaches (answer : AddressAnswer) : Bool :=
  match answer.connect with
  | .connected => true
  | .inProgress => decide (answer.selected > 0) && answer.socketError == some 0
  | .refused => false

/-- What `AMQP::Address` makes of the URI (the host, or the text of its exception), and what
`getaddrinfo` answers for the host. -/
structure HostAnswer where
  address : Except String String
  resolved : Bool
  addresses : List AddressAnswer

/-- The loop over the addresses: the calls it makes, and the socket that it connects. -/
def connectAddresses : List AddressAnswer → List HandleCall × Option Nat
  | [] => ([], none)
  | answer :: answers =>
      match answer.socketFd with
      | none => connectAddresses answers
      | some socketFd =>
          if answer.reaches then ([.opened socketFd, .used (some socketFd)], some socketFd)
          else
            let (calls, found) := connectAddresses answers
            (.opened socketFd :: .used (some socketFd) :: .closed socketFd :: calls, found)

/-- `ConnectSocket` up to the socket: the calls it makes, and the socket or the error. -/
def HostAnswer.connectSocket (host : HostAnswer) : List HandleCall × Result Nat :=
  match host.address with
  | .error what => ([], .error ⟨.invalidArgument, buildMessage "Invalid RabbitMQ URI" what⟩)
  | .ok hostname =>
      if !host.resolved || host.addresses.isEmpty then
        ([], .error ⟨.ioError, "getaddrinfo failed for host '" ++ hostname ++ "'"⟩)
      else
        match connectAddresses host.addresses with
        | (calls, some socketFd) => (calls, .ok socketFd)
        | (calls, none) => (calls, .error ⟨.ioError, "Unable to connect to RabbitMQ broker"⟩)

/-- How `ConnectSocket` ends for the driver. -/
def HostAnswer.outcome (host : HostAnswer) (produced : List UInt8) : ConnectOutcome :=
  match host.connectSocket.2 with
  | .ok socketFd => .connected socketFd produced
  | .error e => .failed e

/-! ## The addresses -/

/-- The loop takes the first address that it can reach, and leaves no other socket open. -/
theorem connectAddresses_spec {answers : List AddressAnswer} {table table' : HandleTable}
    (performed : table.performAll (connectAddresses answers).1 = some table') :
    table' = { table with held := (connectAddresses answers).2.toList ++ table.held } := by
  induction answers with
  | nil =>
    rw [connectAddresses, HandleTable.performAll_nil] at performed
    exact (Option.some.inj performed).symm
  | cons answer answers ih =>
    unfold connectAddresses at performed ⊢
    cases opened : answer.socketFd with
    | none =>
      rw [opened] at performed
      exact ih performed
    | some socketFd =>
      rw [opened] at performed
      dsimp only at performed ⊢
      by_cases reaches : answer.reaches = true
      · rw [if_pos reaches] at performed ⊢
        exact HandleTable.performAll_kept performed
      · rw [if_neg reaches] at performed ⊢
        exact ih (HandleTable.performAll_tried performed)

/-- The socket that is connected belongs to the first address for which a socket could be opened
and that is reached. -/
def FirstReached (answers : List AddressAnswer) (socketFd : Nat) : Prop :=
  ∃ front answer back, answers = front ++ answer :: back ∧ answer.socketFd = some socketFd ∧
    answer.reaches = true ∧ ∀ earlier ∈ front, earlier.socketFd = none ∨ earlier.reaches = false

theorem connectAddresses_found (answers : List AddressAnswer) (socketFd : Nat) :
    (connectAddresses answers).2 = some socketFd ↔ FirstReached answers socketFd := by
  induction answers with
  | nil =>
    refine iff_of_false nofun ?_
    rintro ⟨front, answer, back, split, -⟩
    exact absurd split.symm (List.append_ne_nil_of_right_ne_nil _ (List.cons_ne_nil _ _))
  | cons answer answers ih =>
    have skip (passed : answer.socketFd = none ∨ answer.reaches = false) :
        FirstReached answers socketFd ↔ FirstReached (answer :: answers) socketFd := by
      constructor
      · rintro ⟨front, taken, back, rfl, opened, reaches, others⟩
        refine ⟨answer :: front, taken, back, rfl, opened, reaches, ?_⟩
        intro earlier member
        rcases List.mem_cons.mp member with rfl | member
        · exact passed
        · exact others earlier member
      · rintro ⟨front, taken, back, split, opened, reaches, others⟩
        cases front with
        | nil =>
          cases split
          rcases passed with unopened | unreached
          · cases unopened.symm.trans opened
          · cases unreached.symm.trans reaches
        | cons first front =>
          cases split
          exact ⟨front, taken, back, rfl, opened, reaches, fun earlier member =>
            others earlier (List.mem_cons_of_mem _ member)⟩
    unfold connectAddresses
    cases opened : answer.socketFd with
    | none => exact ih.trans (skip (Or.inl opened))
    | some fd =>
      dsimp only
      by_cases reaches : answer.reaches = true
      · rw [if_pos reaches]
        constructor
        · rintro ⟨⟩
          exact ⟨[], answer, answers, rfl, opened, reaches, nofun⟩
        · rintro ⟨front, taken, back, split, openedThere, reachedThere, others⟩
          cases front with
          | nil =>
            cases split
            exact opened.symm.trans openedThere
          | cons first front =>
            cases split
            rcases others answer List.mem_cons_self with unopened | unreached
            · cases unopened.symm.trans opened
            · cases unreached.symm.trans reaches
      · rw [if_neg reaches]
        exact ih.trans (skip (Or.inr (Bool.eq_false_iff.mpr reaches)))

theorem connectSocket_cases (host : HostAnswer) :
    (∃ e, host.connectSocket = ([], .error e)) ∨
      (∃ socketFd, (connectAddresses host.addresses).2 = some socketFd ∧
        host.connectSocket = ((connectAddresses host.addresses).1, .ok socketFd)) ∨
      ((connectAddresses host.addresses).2 = none ∧
        ∃ e, host.connectSocket = ((connectAddresses host.addresses).1, .error e)) := by
  unfold HostAnswer.connectSocket
  cases host.address with
  | error what => exact Or.inl ⟨_, rfl⟩
  | ok hostname =>
    dsimp only
    split
    · exact Or.inl ⟨_, rfl⟩
    · obtain ⟨calls, found⟩ := connectAddresses host.addresses
      cases found with
      | none => exact Or.inr (Or.inr ⟨rfl, _, rfl⟩)
      | some socketFd => exact Or.inr (Or.inl ⟨socketFd, rfl, rfl⟩)

/-- `ConnectSocket` leaves the socket that it connects open, and no other. -/
theorem connectSocket_spec {host : HostAnswer} {table table' : HandleTable}
    (performed : table.performAll host.connectSocket.1 = some table') :
    (∃ socketFd, host.connectSocket.2 = .ok socketFd ∧ FirstReached host.addresses socketFd ∧
      table' = { table with held := socketFd :: table.held }) ∨
    ∃ e, host.connectSocket.2 = .error e ∧ table' = table := by
  rcases connectSocket_cases host with ⟨e, ended⟩ | ⟨socketFd, found, ended⟩ | ⟨none, e, ended⟩
  · rw [ended] at performed ⊢
    exact Or.inr ⟨e, rfl, (Option.some.inj performed).symm⟩
  · rw [ended] at performed ⊢
    have held := connectAddresses_spec performed
    rw [found] at held
    exact Or.inl ⟨socketFd, rfl, (connectAddresses_found _ _).mp found, held⟩
  · rw [ended] at performed ⊢
    have held := connectAddresses_spec performed
    rw [none] at held
    exact Or.inr ⟨e, rfl, held⟩

/-! ## Steps -/

section

variable [AmqpFields]

namespace State

/-- The use of the socket by `FlushOutboundData`. -/
def sendCalls (s : State) : List HandleCall :=
  if s.connected && !s.outbound.isEmpty then [.used s.socketFd] else []

/-- What a step of the driver does with its socket. -/
def socketCalls (s : State) : Label → List HandleCall
  | .runCommand answer _ => (s.afterCommand answer).sendCalls
  | .flush _ => s.sendCalls
  | .poll _ => if s.connected then [.used s.socketFd] else []
  | .endTurn _ _ => if s.pendingDisconnect then (s.socketFd.map HandleCall.closed).toList else []
  | .finalDisconnect _ => (s.socketFd.map HandleCall.closed).toList
  | _ => []

end State

/-- A driver, and the sockets of its process. -/
structure Process where
  driver : State
  sockets : HandleTable

/-- A step of the process: an attempt to connect, with what the system answers, or any other
step of the driver. -/
inductive ProcessLabel where
  | connect (host : HostAnswer) (produced : List UInt8) (now : Int)
  | other (label : Label)

namespace Process

def new (config : RabbitMqBusConfig) (now : Int) : Process := ⟨.new config now, .empty⟩

/-- The step of the driver in a step of its process. -/
def driverLabel (_ : Process) : ProcessLabel → Label
  | .connect host produced now => .connect (host.outcome produced) now
  | .other label => label

def step (p : Process) (l : ProcessLabel) : Option Process :=
  let calls : Option (List HandleCall) := match l with
    | .connect host _ _ => some host.connectSocket.1
    | .other label => if label.isAttempt then none else some (p.driver.socketCalls label)
  calls.bind fun calls => (p.sockets.performAll calls).bind fun sockets =>
    (p.driver.step (p.driverLabel l)).map fun driver => ⟨driver, sockets⟩

theorem simulates : Simulates step State.step Process.driver driverLabel := by
  intro p l p' taken
  obtain ⟨calls, -, taken⟩ := Option.bind_eq_some_iff.mp taken
  obtain ⟨sockets, -, taken⟩ := Option.bind_eq_some_iff.mp taken
  obtain ⟨driver, stepped, rfl⟩ := Option.map_eq_some_iff.mp taken
  exact stepped

/-- What a step of the process consists of. -/
structure Stepped (p : Process) (l : ProcessLabel) (calls : List HandleCall) (p' : Process) :
    Prop where
  performed : p.sockets.performAll calls = some p'.sockets
  driver : p.driver.step (p.driverLabel l) = some p'.driver

theorem step_cases {p p' : Process} {l : ProcessLabel} (taken : p.step l = some p') :
    (∃ host produced now, l = .connect host produced now ∧
      Stepped p l host.connectSocket.1 p') ∨
    ∃ label, l = .other label ∧ label.isAttempt = false ∧
      Stepped p l (p.driver.socketCalls label) p' := by
  obtain ⟨calls, made, taken⟩ := Option.bind_eq_some_iff.mp taken
  obtain ⟨sockets, performed, taken⟩ := Option.bind_eq_some_iff.mp taken
  obtain ⟨driver, stepped, rfl⟩ := Option.map_eq_some_iff.mp taken
  cases l with
  | connect host produced now =>
    cases made
    exact Or.inl ⟨host, produced, now, rfl, performed, stepped⟩
  | other label =>
    dsimp only at made
    split at made
    · cases made
    · rename_i other
      cases made
      exact Or.inr ⟨label, rfl, Bool.eq_false_iff.mpr other, performed, stepped⟩

end Process

namespace State

variable {s s' : State}

/-- What a step does to the socket of the connection. -/
inductive SocketStep (s : State) : Label → State → Prop where
  | kept {l : Label} {s' : State} : s.disconnects l = false →
      (∀ socketFd produced now, l ≠ .connect (.connected socketFd produced) now) →
      s'.socketFd = s.socketFd → SocketStep s l s'
  | opened {socketFd : Nat} {produced : List UInt8} {now : Int} {s' : State} :
      s.connected = false → s'.socketFd = some socketFd →
      SocketStep s (.connect (.connected socketFd produced) now) s'
  | closed {l : Label} {s' : State} : s.disconnects l = true → s'.socketFd = none →
      SocketStep s l s'

theorem step_socket {l : Label} (coherent : Coherent s) (taken : s.step l = some s') :
    SocketStep s l s' := by
  have same {l : Label} {next : State} (lasts : s.disconnects l = false)
      (other : ∀ socketFd produced now, l ≠ .connect (.connected socketFd produced) now)
      (untouched : Untouched s next) : SocketStep s l next :=
    .kept lasts other (untouched.same State.socketFd fun _ => rfl)
  cases step_cases taken with
  | startRefused joinable => exact .kept rfl nofun rfl
  | start idle fresh => exact .kept rfl nofun rfl
  | stopRequest idle => exact .kept rfl nofun rfl
  | stopJoin joining ended => exact .kept rfl nofun rfl
  | stopFinish finishing => exact .kept rfl nofun rfl
  | callAnswered checked => exact .kept rfl nofun rfl
  | callQueued checked => exact same rfl nofun (untouched_enqueueCommand _ s)
  | registerHandler => exact .kept rfl nofun rfl
  | unregisterHandler => exact .kept rfl nofun rfl
  | @finishTask index outcome task found =>
    have untouched := untouched_finishTask task outcome { s with tasks := s.tasks.eraseIdx index }
    exact .kept rfl nofun (untouched.same State.socketFd fun _ => rfl)
  | entered pc => exact .kept rfl nofun rfl
  | entryFailed pc => exact .kept rfl nofun rfl
  | stopSeen pc stop => exact .kept rfl nofun rfl
  | goOn pc goOn => exact .kept rfl nofun rfl
  | swapCommands pc => exact .kept rfl nofun rfl
  | @runCommand answer sends command rest pc queued =>
    have untouched := untouched_runCommand command answer sends { s with localCommands := rest }
    exact .kept rfl nofun (untouched.same State.socketFd fun _ => rfl)
  | commandsDone pc none up => exact .kept rfl nofun rfl
  | commandsDoneDown pc none down => exact .kept rfl nofun rfl
  | attempt pc attempt => exact .kept rfl nofun rfl
  | noAttempt pc refused => exact .kept rfl nofun rfl
  | connected pc =>
    have place := coherent.place
    rw [pc] at place
    exact .opened place.1 rfl
  | connectFailed pc => exact .kept rfl nofun rfl
  | @flushBefore sends pc =>
    exact .kept rfl nofun ((quiet_flushOutboundData sends s).same State.socketFd fun _ => rfl)
  | @poll outcome pc possible => cases outcome <;> exact .kept rfl nofun rfl
  | event pc live alive called => exact same rfl nofun called.untouched
  | parsed pc bounded leads => exact .kept rfl nofun rfl
  | @flushAfter sends pc =>
    exact .kept rfl nofun ((quiet_flushOutboundData sends s).same State.socketFd fun _ => rfl)
  | @heartbeat now produced pc =>
    have beat := quiet_maybeSendHeartbeat now produced s
    exact .kept rfl nofun (beat.same State.socketFd fun _ => rfl)
  | @disconnect now stale pc pending =>
    obtain ⟨_, _, _, _, _, dropped⟩ := handleDisconnect_eq (.pendingReason stale) now s
    rw [dropped]
    exact .closed pending rfl
  | endTurn pc settled => exact .kept settled nofun rfl
  | @finalDisconnect now pc =>
    obtain ⟨_, _, _, _, _, dropped⟩ :=
      handleDisconnect_eq (.text "RabbitMQ driver stopped") now s
    rw [dropped]
    exact .closed rfl rfl
  | waitOver pc completed => exact .kept rfl nofun rfl

/-- Between the command and the flush, the socket is the same. -/
theorem untouched_afterCommand (answer : Answer) (s : State) :
    (s.afterCommand answer).socketFd = s.socketFd ∧
      (s.afterCommand answer).connected = s.connected := by
  unfold afterCommand
  cases s.localCommands with
  | nil => exact ⟨rfl, rfl⟩
  | cons command rest =>
    have untouched := (execute_cases command answer { s with localCommands := rest }).untouched
    exact ⟨untouched.same State.socketFd fun _ => rfl, untouched.same State.connected fun _ => rfl⟩

end State

/-- The socket of the driver is the only one of its process, and was never used when it was
closed. -/
def Process.Owns (p : Process) : Prop := p.sockets = ⟨p.driver.socketFd.toList, false⟩

/-- A driver that is connected can use its socket. -/
theorem performAll_send {s : State} (agrees : s.Agrees) (socketFd : Option Nat)
    (same : socketFd = s.socketFd) (connected : Bool) (up : connected = s.connected)
    (outbound : List UInt8) :
    HandleTable.performAll ⟨s.socketFd.toList, false⟩
      (if connected && !outbound.isEmpty then [.used socketFd] else []) =
        some ⟨s.socketFd.toList, false⟩ := by
  subst same up
  split
  · rename_i sends
    rw [Bool.and_eq_true] at sends
    obtain ⟨handle, isOpen⟩ := Option.isSome_iff_exists.mp (agrees.socket.trans sends.1)
    rw [isOpen, HandleTable.performAll_cons, HandleTable.perform_used (by simp)]
    rfl
  · rfl

/-- The calls of a step leave the socket that the driver has afterwards. -/
theorem performAll_socketCalls {s s' : State} {l : Label} (coherent : s.Coherent)
    (agrees : s.Agrees) (other : l.isAttempt = false) (taken : s.step l = some s') :
    HandleTable.performAll ⟨s.socketFd.toList, false⟩ (s.socketCalls l) =
      some ⟨s'.socketFd.toList, false⟩ := by
  have close : HandleTable.performAll ⟨s.socketFd.toList, false⟩
      (s.socketFd.map HandleCall.closed).toList = some .empty := by
    cases s.socketFd with
    | none => rfl
    | some handle =>
      rw [Option.map_some, Option.toList_some, Option.toList_some, HandleTable.performAll_cons,
        HandleTable.perform_closed List.mem_cons_self, Option.bind_some, List.erase_cons_head]
      rfl
  cases State.step_socket coherent taken with
  | opened down here => cases other
  | closed ends here =>
    rw [here]
    cases l with
    | endTurn now stale =>
      have pending : s.pendingDisconnect = true := ends
      rw [State.socketCalls, if_pos pending]
      exact close
    | finalDisconnect now => exact close
    | _ => cases ends
  | kept lasts notConnected here =>
    rw [here]
    cases l with
    | runCommand answer sends =>
      obtain ⟨socket, connected⟩ := State.untouched_afterCommand answer s
      exact performAll_send agrees _ socket _ connected _
    | flush sends => exact performAll_send agrees _ rfl _ rfl _
    | poll outcome =>
      rw [State.socketCalls]
      split
      · rename_i up
        obtain ⟨handle, isOpen⟩ := Option.isSome_iff_exists.mp (agrees.socket.trans up)
        rw [isOpen, HandleTable.performAll_cons, HandleTable.perform_used (by simp)]
        rfl
      · rfl
    | endTurn now stale =>
      have settled : s.pendingDisconnect = false := lasts
      rw [State.socketCalls, settled]
      rfl
    | finalDisconnect now => cases lasts
    | _ => rfl

/-! ## Runs -/

/-- The runs of a process whose driver was constructed with `config` at the time `now`. -/
abbrev ProcessRun (config : RabbitMqBusConfig) (now : Int) (past : List (Process × ProcessLabel))
    (p : Process) : Prop :=
  Run Process.step (.new config now) past p

/-- The run of the driver in a run of its process. -/
def driverPast (past : List (Process × ProcessLabel)) : List (State × Label) :=
  project Process.driver Process.driverLabel past

variable {config : RabbitMqBusConfig} {now : Int} {past : List (Process × ProcessLabel)}
  {p : Process}

theorem driver_run (run : ProcessRun config now past p) :
    DriverRun config now (driverPast past) p.driver :=
  run.project Process.simulates

theorem run_owns (run : ProcessRun config now past p) : p.Owns := by
  refine run.invariant_past (fun _ p => p.Owns) rfl fun past p l p' before owns taken => ?_
  have coherent := State.run_coherent (driver_run before)
  have agrees := State.run_agrees (driver_run before)
  have owned : p.sockets = ⟨p.driver.socketFd.toList, false⟩ := owns
  rcases Process.step_cases taken with
    ⟨host, produced, at', rfl, performed, stepped⟩ | ⟨label, rfl, other, performed, stepped⟩
  · have socketStep := State.step_socket coherent stepped
    rw [owned] at performed
    rw [Process.driverLabel, HostAnswer.outcome] at socketStep
    rcases connectSocket_spec performed with ⟨socketFd, ended, -, table⟩ | ⟨e, ended, table⟩
    · rw [ended] at socketStep
      rw [Process.Owns, table]
      cases socketStep with
      | kept lasts notConnected here => exact absurd rfl (notConnected socketFd produced at')
      | opened down here =>
        have free := agrees.socket.trans down
        rw [Option.isSome_eq_false_iff, Option.isNone_iff_eq_none] at free
        rw [here, free]
        rfl
      | closed ends here => cases ends
    · rw [ended] at socketStep
      rw [Process.Owns, table]
      cases socketStep with
      | kept lasts notConnected here => rw [here]
      | closed ends here => cases ends
  · rw [owned, performAll_socketCalls coherent agrees other stepped] at performed
    exact (Option.some.inj performed).symm

/-- What the host name and its addresses answered to the last attempt. -/
def lastAttempt : List (Process × ProcessLabel) → Option HostAnswer
  | [] => none
  | (_, .connect host _ _) :: _ => some host
  | (_, .other _) :: past => lastAttempt past

/-- The socket of a connection belongs to the first address that the last attempt could reach. -/
def OpenedBy (past : List (Process × ProcessLabel)) (socketFd : Nat) : Prop :=
  ∃ host, lastAttempt past = some host ∧ FirstReached host.addresses socketFd

/-- An attempt is only made when there is no socket. -/
theorem no_socket_before_attempt {outcome : ConnectOutcome} {at' : Int}
    {s' : State} (run : DriverRun config now (driverPast past) p.driver)
    (taken : p.driver.step (.connect outcome at') = some s') : p.driver.socketFd = none := by
  have place := (State.run_coherent run).place
  have down : p.driver.connected = false := by
    cases State.step_cases taken with
    | connected pc =>
      rw [pc] at place
      exact place.1
    | connectFailed pc =>
      rw [pc] at place
      exact place.1
  have socket := (State.run_agrees run).socket
  rwa [down, Option.isSome_eq_false_iff, Option.isNone_iff_eq_none] at socket

theorem run_reached (run : ProcessRun config now past p) {socketFd : Nat}
    (isOpen : p.driver.socketFd = some socketFd) : OpenedBy past socketFd := by
  refine run.invariant_past
    (fun past p => ∀ socketFd, p.driver.socketFd = some socketFd → OpenedBy past socketFd)
    (fun _ isOpen => by cases isOpen) (fun past p l p' before holds taken => ?_) socketFd isOpen
  intro socketFd isOpen
  have driver := driver_run before
  have coherent := State.run_coherent driver
  rcases Process.step_cases taken with
    ⟨host, produced, at', rfl, performed, stepped⟩ | ⟨label, rfl, other, performed, stepped⟩
  · have socketStep := State.step_socket coherent stepped
    have closed := no_socket_before_attempt driver stepped
    rw [Process.driverLabel, HostAnswer.outcome] at socketStep
    rcases connectSocket_spec performed with ⟨first, ended, reached, -⟩ | ⟨e, ended, -⟩
    · rw [ended] at socketStep
      cases socketStep with
      | kept lasts notConnected here => exact absurd rfl (notConnected first produced at')
      | opened down here =>
        cases here.symm.trans isOpen
        exact ⟨host, rfl, reached⟩
      | closed ends here => cases ends
    · rw [ended] at socketStep
      cases socketStep with
      | kept lasts notConnected here => cases closed.symm.trans (here.symm.trans isOpen)
      | closed ends here => cases ends
  · cases State.step_socket coherent stepped with
    | kept lasts notConnected here => exact holds socketFd (here.symm.trans isOpen)
    | opened down here => cases other
    | closed ends here => cases here.symm.trans isOpen

/-- What holds of the sockets of a process. -/
structure SocketsOwned (config : RabbitMqBusConfig) (now : Int)
    (past : List (Process × ProcessLabel)) (p : Process) : Prop where
  /-- The run is one of the driver. -/
  driver : DriverRun config now (driverPast past) p.driver
  /-- No socket is open but the one of the connection, whatever attempts have failed. -/
  held : p.sockets.held = p.driver.socketFd.toList
  up : p.driver.socketFd.isSome = p.driver.connected
  /-- No socket was used or closed that was not open. -/
  proper : p.sockets.misused = false
  /-- It belongs to the first address that the last attempt could reach. -/
  source : ∀ socketFd, p.driver.socketFd = some socketFd → OpenedBy past socketFd
  stopped : State.hasStopped (driverPast past) = true → p.sockets.held = []

/-- Over all attempts, disconnects and stops the process has at most one socket open, the one
that the driver sends and receives on, and none once the driver is stopped. -/
theorem sockets_owned (config : RabbitMqBusConfig) (now : Int)
    (past : List (Process × ProcessLabel)) (p : Process) (run : ProcessRun config now past p) :
    SocketsOwned config now past p := by
  have driver := driver_run run
  have agrees := State.run_agrees driver
  have owns : p.sockets = ⟨p.driver.socketFd.toList, false⟩ := run_owns run
  refine ⟨driver, by rw [owns], agrees.socket, by rw [owns], fun _ => run_reached run, ?_⟩
  intro stopped
  have coherent := State.run_coherent driver
  have free := (State.run_stopped driver stopped).1
  rw [owns, (agrees.released coherent (coherent.free free).1).socket]
  rfl

end

open PlainFields

/-- The first address refuses the connection, the second one takes it, and the driver is
stopped. -/
def secondAddress : List ProcessLabel :=
  let host : HostAnswer := ⟨.ok "localhost", true,
    [⟨some 3, .refused, 0, none⟩, ⟨some 3, .inProgress, 1, some 0⟩]⟩
  [.other (.start 0), .other (.enter true), .other .testStop, .other .swapCommands,
    .other .commandsDone, .other (.testReconnect 0), .connect host [65] 0, .other .testStop,
    .other .swapCommands, .other .commandsDone, .other (.flush [⟨1, false, ""⟩]),
    .other (.poll .notReadable)]

def thenStopped : List ProcessLabel :=
  [.other (.flush []), .other .stopRequest, .other (.heartbeat 0 []), .other (.endTurn 0 []),
    .other .testStop, .other (.finalDisconnect 0), .other .stopJoin, .other .stopFinish]

theorem sockets_owned_secondAddress :
    ∃ past p past' p', exec Process.step secondAddress [] (.new workerConfig 0) = some (past, p) ∧
      exec Process.step thenStopped past p = some (past', p') ∧
      p.sockets.held = [3] ∧ p'.sockets.held = [] ∧
      SocketsOwned workerConfig 0 past p ∧ SocketsOwned workerConfig 0 past' p' := by
  obtain ⟨past, p, past', p', before, after, up, down⟩ :
      ∃ past p past' p', exec Process.step secondAddress [] (.new workerConfig 0) =
          some (past, p) ∧
        exec Process.step thenStopped past p = some (past', p') ∧
        p.sockets.held = [3] ∧ p'.sockets.held = [] :=
    ⟨_, _, _, _, rfl, rfl, rfl, rfl⟩
  have first : ProcessRun workerConfig 0 past p := run_of_exec .nil before
  exact ⟨past, p, past', p', before, after, up, down, sockets_owned workerConfig 0 past p first,
    sockets_owned workerConfig 0 past' p' (run_of_exec first after)⟩

end ModuleContext.RabbitMqBus.Driver
