import ModuleContext.Misc.LabelledRun
import ModuleContext.RabbitMqBus.Driver.Commands

/-!
# The driver loop

`ThreadMain` and what it calls, and one step of the whole system: the driver thread, the
thread that starts and stops it, threads that call the driver, and the worker pool. A step is
a critical section of `mutex_` with the driver-local work around it; its label carries what
the clock, the socket and the AMQP library answer.
-/

namespace ModuleContext.RabbitMqBus.Driver
open Foundation Misc

variable [AmqpFields]

/-- What a call of `send` returns, and whether its error means that it would block. -/
structure SendOutcome where
  sent : Int
  wouldBlock : Bool
  message : String

/-- What `select` and `recv` yield in `PumpIncomingData`. -/
inductive PollOutcome where
  | selectFailed
  | notReadable
  | closedByBroker
  | wouldBlock
  | receiveFailed (message : String)
  | received (data : List UInt8)

/-- `recv` fills a buffer of 8192 bytes, and returns 0 only at the end of the stream. -/
def PollOutcome.isPossible : PollOutcome → Bool
  | .received data => !data.isEmpty && data.length ≤ 8192
  | _ => true

/-- How `ConnectSocket` ends: the socket, or the error. -/
inductive ConnectOutcome where
  | connected (socketFd : Nat) (produced : List UInt8)
  | failed (e : Error)

/-- A callback that `AMQP::Connection::parse` makes. An `index` selects one of the outstanding
operations. -/
inductive AmqpEvent where
  | ready (answer : Answer)
  | succeeded (index : Nat) (tag : String) (answer : Answer)
  | failed (index : Nat) (message : String)
  | channelError (channel : Nat) (message : String)
  | connectionError (message : String)
  | closed
  | received (channel : Nat) (message : AmqpMessage) (dispatch : Dispatch)
  | cancelled (channel : Nat)
  | data (produced : List UInt8)

/-- A callback that `AMQP::Connection::fail` makes. -/
inductive FailCallback where
  | operation (callback : Callback)
  | channel (errorText : String)
  | handler

/-- Whether the callback assigns `pending_disconnect_reason_`. -/
def FailCallback.assigns : FailCallback → Bool
  | .operation (.declared _ _) => false
  | _ => true

/-- The error callbacks of all outstanding operations, of all open channels and of the
connection handler. -/
def Connection.failCallbacks (connection : Connection) : List FailCallback :=
  connection.outstanding.map (fun deferred => .operation deferred.callback) ++
    (connection.channels.filter (!·.closed)).map (fun channel => .channel channel.errorText) ++
    [.handler]

/-- A string passed by reference: a text of its own, or `pending_disconnect_reason_`. `fail` is
given the address of its characters, once. When the field is assigned, these may be freed or
overwritten: what is read at the address from then on is unspecified, and the texts `stale` are
an input. -/
inductive ReasonRef where
  | text (message : String)
  | pendingReason (stale : List String)

/-- The string behind the reference. -/
def ReasonRef.read (reason : ReasonRef) (s : State) : String :=
  match reason with
  | .text message => message
  | .pendingReason _ => s.pendingDisconnectReason

/-- The callbacks that come after an assignment, with what they read. -/
def readStale : List String → List FailCallback → List (FailCallback × String)
  | _, [] => []
  | stale, callback :: callbacks =>
      (callback, stale.headD "") :: readStale stale.tail callbacks

/-- The callbacks up to the first assignment read the characters as they were, here `held`. -/
def readHeld (held : String) (stale : List String) :
    List FailCallback → List (FailCallback × String)
  | [] => []
  | callback :: callbacks =>
      (callback, held) ::
        if callback.assigns then readStale stale callbacks else readHeld held stale callbacks

/-- Each callback with the text that it is given. -/
def ReasonRef.reports (reason : ReasonRef) (held : String) (callbacks : List FailCallback) :
    List (FailCallback × String) :=
  match reason with
  | .text message => callbacks.map fun callback => (callback, message)
  | .pendingReason stale => readHeld held stale callbacks

namespace State

/-- `FlushOutboundData`, over the outcomes of its calls of `send`. -/
def flushOutboundData : List SendOutcome → State → State
  | [], s => s
  | outcome :: outcomes, s =>
      if s.connected && !s.outbound.isEmpty then
        if outcome.sent > 0 then
          let count := outcome.sent.toNat
          flushOutboundData outcomes
            { s.onConnection fun connection =>
                { connection with sent := connection.sent ++ s.outbound.take count }
              with outbound := s.outbound.drop count }
        else if outcome.wouldBlock then s
        else s.requestDisconnect
          (buildMessage "RabbitMQ socket send failed" outcome.message)
      else s

/-- What a callback does with the text that it is given. -/
def failCallback (callback : FailCallback) (message : String) (s : State) : State :=
  match callback with
  | .operation callback => s.onError callback message
  | .channel errorText => s.requestDisconnect (buildMessage errorText message)
  | .handler => s.requestDisconnect (buildMessage "RabbitMQ connection error" message)

/-- `connection_->fail(reason.c_str())`. -/
def failConnection (reason : ReasonRef) (s : State) : State :=
  match s.connection with
  | none => s
  | some connection =>
      (reason.reports (reason.read s) connection.failCallbacks).foldl
        (fun s (callback, message) => s.failCallback callback message) (s.onConnection .fail)

/-- The error callbacks of the outstanding operations of one channel, then its own. -/
def failChannel (channel : Channel) (message : String) (s : State) : State :=
  match s.connection with
  | none => s
  | some connection =>
      let reported := (connection.outstanding.filter (·.channel == channel.id)).foldl
        (fun s deferred => s.onError deferred.callback message)
        (s.onConnection (.failChannel channel.id))
      reported.requestDisconnect (buildMessage channel.errorText message)

/-- The delay is doubled, up to the configured maximum. -/
def scheduleReconnect (now : Int) (s : State) : State :=
  let max := s.config.connection.reconnect.maxDelayMs
  let doubled := s.reconnectDelayMs * 2
  { s with
    nextReconnectAt := now + s.reconnectDelayMs.toInt
    reconnectDelayMs := if max < doubled then max else doubled }

def handleDisconnect (reason : ReasonRef) (now : Int) (s : State) : State :=
  let failed := s.failConnection reason
  let released :=
    { failed with
      consumerRuntimes := ∅, adminChannel := none, connection := none, socketFd := none
      connected := false, ready := false, handshakeReady := false, pendingDisconnect := false
      outbound := [], inbound := [] }
  if released.stopRequested then { released with state := .stopped }
  else scheduleReconnect now
    { released with
      lastError := reason.read released
      state := if released.config.connection.reconnect.enabled then .reconnecting else .error }

def applyReconnectBackoff (e : String) (now : Int) (s : State) : State :=
  scheduleReconnect now
    { s with
      lastError := e
      state := if s.config.connection.reconnect.enabled then .reconnecting else .error }

def shouldAttemptReconnect (now : Int) (s : State) : Bool :=
  if s.config.connection.reconnect.enabled then decide (now ≥ s.nextReconnectAt)
  else !s.stopRequested && s.state == .connecting

/-- `ConnectSocket` once a socket is connected: the AMQP connection with its admin channel. -/
def connectSocket (socketFd : Nat) (produced : List UInt8) (now : Int) (s : State) : State :=
  let admin : Channel :=
    { id := s.nextChannel, errorText := "RabbitMQ admin channel error", closed := false
      receiver := none, nextTag := 1 }
  let connection : Connection :=
    { handshaken := false, closed := false, channels := [admin], outstanding := []
      operations := [], transfers := [], produced := [], sent := [] }
  let connected :=
    { s with
      socketFd := some socketFd, connected := true, ready := false, handshakeReady := false
      pendingDisconnect := false, pendingDisconnectReason := "", outbound := [], inbound := []
      reconnectDelayMs := s.config.connection.reconnect.initialDelayMs
      lastHeartbeatSent := some now
      connection := some connection, adminChannel := some s.nextChannel
      nextChannel := s.nextChannel + 1
      state := .connecting, lastError := "" }
  connected.onData produced

/-- `PumpIncomingData` up to the first call of `parse`. -/
def pollSocket (outcome : PollOutcome) (s : State) : State :=
  match outcome with
  | .selectFailed =>
      { s.requestDisconnect "RabbitMQ socket select failed" with pc := .flushAfter }
  | .notReadable => { s with pc := .flushAfter }
  | .closedByBroker =>
      { s.requestDisconnect "RabbitMQ broker closed the socket" with pc := .flushAfter }
  | .wouldBlock => { s with pc := .flushAfter }
  | .receiveFailed message =>
      { s.requestDisconnect (buildMessage "RabbitMQ socket receive failed" message) with
        pc := .flushAfter }
  | .received data => { s with inbound := s.inbound ++ data, pc := .parsing }

def maybeSendHeartbeat (now : Int) (produced : List UInt8) (s : State) : State :=
  let seconds := s.config.connection.heartbeatSeconds
  if !s.connected || s.connection.isNone || !s.handshakeReady || seconds == 0 then s
  else
    let interval : Int := max 1 (seconds.toNat * 500)
    let due := match s.lastHeartbeatSent with
      | none => true
      | some last => !decide (now - last < interval)
    if due then { s.onData produced with lastHeartbeatSent := some now } else s

/-- A callback made by `parse`, where the library can make it: on a connection that has not
failed, for an outstanding operation, an open channel or a consumer that has started. -/
def amqpEvent (event : AmqpEvent) (s : State) : Option State :=
  match s.connection with
  | none => none
  | some connection =>
      if connection.closed then none
      else
        match event with
        | .ready answer =>
            if connection.handshaken then none
            else
              let ready := s.onConnection ({ · with handshaken := true })
              some (startBootstrap answer { ready with handshakeReady := true })
        | .succeeded index tag answer =>
            match connection.outstanding[index]? with
            | none => none
            | some deferred =>
                some (onSuccess deferred.callback tag answer
                  (s.onConnection (.confirm index deferred)))
        | .failed index message =>
            match connection.outstanding[index]? with
            | none => none
            | some deferred =>
                some (onError deferred.callback message
                  (s.onConnection (.refuse index deferred)))
        | .channelError id message =>
            match connection.channels.find?
                (fun channel => channel.id == id && !channel.closed) with
            | none => none
            | some channel => some (s.failChannel channel message)
        | .connectionError message => some (s.failConnection (.text message))
        | .closed => some (requestDisconnect "RabbitMQ connection closed"
            (s.onConnection ({ · with closed := true })))
        | .received id message dispatch =>
            match connection.channels.find?
                (fun channel => channel.id == id && !channel.closed) with
            | none => none
            | some channel =>
                match channel.receiver with
                | none => none
                | some spec =>
                    some (handleIncomingMessage spec message channel.nextTag id dispatch
                      (s.onConnection (.countDelivery id)))
        | .cancelled id =>
            match connection.channels.find?
                (fun channel => channel.id == id && !channel.closed) with
            | none => none
            | some channel =>
                channel.receiver.map fun spec => s.requestDisconnect
                  ("RabbitMQ consumer '" ++ spec.name ++ "' was cancelled by broker")
        | .data produced => some (s.onData produced)

end State

/-- One step of some thread. -/
inductive Label where
  -- the thread that controls the driver
  | start (now : Int)
  | stopRequest
  | stopJoin
  | stopFinish
  -- other threads
  | call (call : ClientCall)
  | registerHandler (consumerName : String) (handler : Nat)
  | unregisterHandler (consumerName : String)
  | finishTask (index : Nat) (outcome : HandlerOutcome)
  -- the driver thread
  | enter (socketsOk : Bool)
  | testStop
  | swapCommands
  | runCommand (answer : Answer) (sends : List SendOutcome)
  | commandsDone
  | testReconnect (now : Int)
  | connect (outcome : ConnectOutcome) (now : Int)
  | flush (sends : List SendOutcome)
  | poll (outcome : PollOutcome)
  | event (event : AmqpEvent)
  | parsed (count : Nat)
  | heartbeat (now : Int) (produced : List UInt8)
  | endTurn (now : Int) (stale : List String)
  | finalDisconnect (now : Int)
  | waitOver

namespace State

/-- `RabbitMqConnectionDriver::Start`. -/
def start (now : Int) (s : State) : State :=
  if s.threadJoinable then s
  else
    { s with
      stopRequested := false, state := .connecting, lastError := "", nextReconnectAt := now
      reconnectDelayMs := s.config.connection.reconnect.initialDelayMs
      threadJoinable := true, pc := .entry }

/-- The steps of the driver thread, each at its place in `ThreadMain`. -/
def driverStep (s : State) (l : Label) : Option State :=
  match s.pc, l with
  | .entry, .enter socketsOk =>
      if socketsOk then some { s with pc := .loopTest }
      else some { s with
        state := .error, lastError := "Failed to initialize socket subsystem", pc := .returned }
  | .loopTest, .testStop =>
      some { s with pc := if s.stopRequested then .finalDisconnect else .drain }
  | .drain, .swapCommands =>
      some { s with localCommands := s.commands, commands := [], pc := .commands }
  | .commands, .runCommand answer sends =>
      match s.localCommands with
      | [] => none
      | command :: rest =>
          some (flushOutboundData sends (execute command answer { s with localCommands := rest }))
  | .commands, .commandsDone =>
      if s.localCommands.isEmpty then
        some { s with pc := if s.connected then .flushBefore else .connectTest }
      else none
  | .connectTest, .testReconnect now =>
      some { s with pc := if s.shouldAttemptReconnect now then .connect else .loopTest }
  | .connect, .connect outcome now =>
      match outcome with
      | .connected socketFd produced =>
          some { s.connectSocket socketFd produced now with pc := .loopTest }
      | .failed e => some { s.applyReconnectBackoff e.message now with pc := .loopTest }
  | .flushBefore, .flush sends => some { s.flushOutboundData sends with pc := .pump }
  | .pump, .poll outcome => if outcome.isPossible then some (s.pollSocket outcome) else none
  | .parsing, .event event => s.amqpEvent event
  | .parsing, .parsed count =>
      if count ≤ s.inbound.length then
        let rest := s.inbound.drop count
        some { s with
          inbound := rest, pc := if count = 0 || rest.isEmpty then .flushAfter else .parsing }
      else none
  | .waiting pending, .waitOver =>
      if (s.completed.map (·.1)).contains pending then some { s with pc := .parsing } else none
  | .flushAfter, .flush sends => some { s.flushOutboundData sends with pc := .heartbeat }
  | .heartbeat, .heartbeat now produced =>
      some { s.maybeSendHeartbeat now produced with pc := .turnEnd }
  | .turnEnd, .endTurn now stale =>
      if s.pendingDisconnect then
        some { s.handleDisconnect (.pendingReason stale) now with pc := .loopTest }
      else some { s with pc := .loopTest }
  | .finalDisconnect, .finalDisconnect now =>
      some { s.handleDisconnect (.text "RabbitMQ driver stopped") now with pc := .returned }
  | _, _ => none

/-- One step of the system. -/
def step (s : State) (l : Label) : Option State :=
  match l with
  | .start now => if s.control = .idle then some (s.start now) else none
  | .stopRequest =>
      if s.control = .idle then some { s with stopRequested := true, control := .joining }
      else none
  | .stopJoin =>
      if s.control = .joining ∧ (s.threadJoinable = true → s.pc = .returned) then
        some { s with threadJoinable := false, control := .finishing }
      else none
  | .stopFinish =>
      if s.control = .finishing then some { s with state := .stopped, control := .idle }
      else none
  | .call call =>
      match call.command with
      | .error _ => some s
      | .ok body => some (s.enqueueCommand body)
  | .registerHandler consumerName handler =>
      if s.config.consumers.any (·.name == consumerName) && !consumerName.isEmpty then
        some { s with handlers := s.handlers.insert consumerName handler }
      else none
  | .unregisterHandler consumerName =>
      some { s with handlers := s.handlers.erase consumerName }
  | .finishTask index outcome =>
      match s.tasks[index]? with
      | none => none
      | some task => some (finishTask task outcome { s with tasks := s.tasks.eraseIdx index })
  | .enter _ | .testStop | .swapCommands | .runCommand _ _ | .commandsDone | .testReconnect _
  | .connect _ _ | .flush _ | .poll _ | .event _ | .parsed _ | .heartbeat _ _ | .endTurn _ _
  | .finalDisconnect _ | .waitOver => s.driverStep l

end State

/-- A configuration with the queue `inbox` and its consumer `worker`. -/
def workerConfig : RabbitMqBusConfig :=
  { connection := ⟨"amqp://localhost/", 0, 100, ⟨true, 1000, 30000⟩⟩
    workerThreadCount := 4
    exchanges := []
    queues := [⟨"inbox", true, false, false, false, []⟩]
    bindings := []
    publishers := []
    consumers := [⟨"worker", "inbox", "", false, false, false, 0, []⟩] }

def pingRequest : PublishRequest := ⟨"orders", "", [], "", "", "", [], true⟩

/-- The steps that bring up a connection of `workerConfig`. -/
def bringUp : List Label :=
  [.start 0, .enter true, .testStop, .swapCommands, .commandsDone, .testReconnect 0,
    .connect (.connected 3 []) 0, .testStop, .swapCommands, .commandsDone, .flush [],
    .poll (.received [1]), .event (.ready ⟨true, []⟩), .event (.succeeded 0 "" ⟨true, []⟩),
    .event (.succeeded 0 "tag" ⟨true, []⟩)]

/-- The runs of a driver that was constructed with `config` at the time `now`. -/
abbrev DriverRun (config : RabbitMqBusConfig) (now : Int) (past : List (State × Label))
    (s : State) : Prop :=
  Run State.step (State.new config now) past s

end ModuleContext.RabbitMqBus.Driver
