import ModuleContext.Misc.StringMap
import ModuleContext.RabbitMqBus.Topology

/-!
# State of the connection driver

The fields of `RabbitMqConnectionDriver`, the AMQP connection object it owns, and the threads
around it. The AMQP library is third-party code: it is represented by what the driver hands to
it and by the callbacks it may make, whose order and outcome are inputs of each step. Objects
of the library are known by fresh numbers, so that a channel that is opened after a reconnect
is never mistaken for an earlier one.
-/

namespace ModuleContext.RabbitMqBus.Driver
open Foundation Misc
open AmqpFields (Table)

variable [AmqpFields]

/-- The callbacks that the driver attaches to a deferred operation. -/
inductive Callback where
  | bootstrap (index : Nat) (declaration : Declaration)
  | qos (index : Nat) (spec : ConsumerSpec)
  | consume (index : Nat) (spec : ConsumerSpec)
  | declared (declaration : Declaration) (pending : Nat)

/-- An operation that the broker has not answered yet. -/
structure Deferred where
  channel : Nat
  operation : AmqpOperation
  callback : Callback

/-- What has become of the deferred operations of a connection, in order. -/
inductive OperationEvent where
  | submitted (operation : AmqpOperation)
  | confirmed (operation : AmqpOperation)
  | failed (operation : AmqpOperation)

/-- `AMQP::Envelope` as `Publish` fills it; properties that are not set are `none`. -/
structure Envelope where
  payload : List UInt8
  contentType : Option String
  correlationId : Option String
  replyTo : Option String
  headers : Option Table
  persistent : Bool

/-- The frames that a channel accepts without a deferred answer. -/
inductive Transfer where
  | published (exchange routingKey : String) (envelope : Envelope)
  | settled (channel : Nat) (deliveryTag : UInt64) (action : ConsumeAction)

/-- `AMQP::Channel`: the text of its error callback, the consumer that receives its
deliveries, and the next delivery tag, which starts from 1 on every channel. -/
structure Channel where
  id : Nat
  errorText : String
  closed : Bool
  receiver : Option ConsumerSpec
  nextTag : UInt64

/-- `AMQP::Connection` with its open channels. `produced` are the bytes it has passed to
`onData` and `sent` those the socket has taken. -/
structure Connection where
  handshaken : Bool
  closed : Bool
  channels : List Channel
  outstanding : List Deferred
  operations : List OperationEvent
  transfers : List Transfer
  produced : List UInt8
  sent : List UInt8

namespace Connection

/-- An operation on its way to the broker. -/
def submit (deferred : Deferred) (connection : Connection) : Connection :=
  { connection with
    outstanding := connection.outstanding ++ [deferred]
    operations := connection.operations ++ [.submitted deferred.operation] }

/-- An operation that the library cannot send. -/
def submitUnsent (operation : AmqpOperation) (connection : Connection) : Connection :=
  { connection with
    operations := connection.operations ++ [.submitted operation, .failed operation] }

/-- The broker confirms an outstanding operation; a started consumer receives deliveries. -/
def confirm (index : Nat) (deferred : Deferred) (connection : Connection) : Connection :=
  { connection with
    outstanding := connection.outstanding.eraseIdx index
    operations := connection.operations ++ [.confirmed deferred.operation]
    channels := match deferred.callback with
      | .consume _ spec => connection.channels.map fun channel =>
          if channel.id == deferred.channel then { channel with receiver := some spec }
          else channel
      | _ => connection.channels }

/-- The broker refuses an outstanding operation. -/
def refuse (index : Nat) (deferred : Deferred) (connection : Connection) : Connection :=
  { connection with
    outstanding := connection.outstanding.eraseIdx index
    operations := connection.operations ++ [.failed deferred.operation] }

/-- The connection fails with all its channels, and nothing is outstanding any more. -/
def fail (connection : Connection) : Connection :=
  { connection with
    closed := true
    channels := connection.channels.map ({ · with closed := true })
    outstanding := []
    operations := connection.operations ++
      connection.outstanding.map fun deferred => .failed deferred.operation }

/-- One channel fails with its outstanding operations. -/
def failChannel (id : Nat) (connection : Connection) : Connection :=
  { connection with
    channels := connection.channels.map fun channel =>
      if channel.id == id then { channel with closed := true } else channel
    outstanding := connection.outstanding.filter (·.channel != id)
    operations := connection.operations ++
      (connection.outstanding.filter (·.channel == id)).map fun deferred =>
        .failed deferred.operation }

/-- A channel is opened in place of one that is destroyed. -/
def openChannel (replaced : Option Nat) (channel : Channel) (connection : Connection) :
    Connection :=
  { connection with
    channels := connection.channels.filter (fun other => some other.id != replaced) ++ [channel] }

/-- The next delivery on a channel has the next tag. -/
def countDelivery (id : Nat) (connection : Connection) : Connection :=
  { connection with
    channels := connection.channels.map fun channel =>
      if channel.id == id then { channel with nextTag := channel.nextTag + 1 } else channel }

end Connection

structure ConsumerRuntime where
  spec : ConsumerSpec
  channel : Option Nat
  activeTag : String
  active : Bool

/-- What a queued command does. The channel on which a delivery came in is not part of its
`DeliveryContext`; it is kept beside it here to speak about it. -/
inductive CommandBody where
  | publish (request : PublishRequest)
  | declare (declaration : Declaration)
  | completeDelivery (delivery : DeliveryContext) (action : ConsumeAction) (origin : Option Nat)

/-- An element of `commands_`, with the number of its `PendingResult`. -/
structure Command where
  body : CommandBody
  pending : Nat

/-- A task of the worker pool: a message on its way to the handler that was registered when
it was dispatched. -/
structure Task where
  message : IncomingMessage
  delivery : DeliveryContext
  handler : Option Nat
  driverRef : Bool
  origin : Nat

/-- Where the driver thread is in `ThreadMain`. `waiting` is a call of `WaitPendingResult`
made by the driver thread itself. -/
inductive DriverPc where
  | idle
  | entry
  | loopTest
  | drain
  | commands
  | connectTest
  | connect
  | flushBefore
  | pump
  | parsing
  | flushAfter
  | heartbeat
  | turnEnd
  | finalDisconnect
  | waiting (pending : Nat)
  | returned
  deriving DecidableEq

/-- Where the thread that controls the driver is in `Stop`. -/
inductive ControlPc where
  | idle
  | joining
  | finishing
  deriving DecidableEq

structure State where
  config : RabbitMqBusConfig
  threadJoinable : Bool
  stopRequested : Bool
  state : ConnectionState
  lastError : String
  commands : List Command
  connection : Option Connection
  adminChannel : Option Nat
  consumerRuntimes : StringMap ConsumerRuntime
  socketFd : Option Nat
  connected : Bool
  ready : Bool
  handshakeReady : Bool
  pendingDisconnect : Bool
  pendingDisconnectReason : String
  outbound : List UInt8
  inbound : List UInt8
  nextReconnectAt : Int
  reconnectDelayMs : Int32
  lastHeartbeatSent : Option Int
  /-- The driver thread, with the `local_commands` of a running `DrainCommands`. -/
  pc : DriverPc
  localCommands : List Command
  control : ControlPc
  /-- The results that have been set, by the number of their `PendingResult`. -/
  completed : List (Nat × Result Unit)
  nextPending : Nat
  nextChannel : Nat
  /-- The handlers registered with the module, and the tasks of its worker pool. -/
  handlers : StringMap Nat
  tasks : List Task

/-- What the AMQP library does with a frame handed to it: whether it takes the frame, and the
bytes it produces. -/
structure Answer where
  accepted : Bool
  produced : List UInt8

namespace State

/-- The driver as constructed at the time `now`. -/
def new (config : RabbitMqBusConfig) (now : Int) : State where
  config := config
  threadJoinable := false
  stopRequested := false
  state := .created
  lastError := ""
  commands := []
  connection := none
  adminChannel := none
  consumerRuntimes := ∅
  socketFd := none
  connected := false
  ready := false
  handshakeReady := false
  pendingDisconnect := false
  pendingDisconnectReason := ""
  outbound := []
  inbound := []
  nextReconnectAt := now
  reconnectDelayMs := config.connection.reconnect.initialDelayMs
  lastHeartbeatSent := none
  pc := .idle
  localCommands := []
  control := .idle
  completed := []
  nextPending := 0
  nextChannel := 0
  handlers := ∅
  tasks := []

def isReadyLocked (s : State) : Bool :=
  s.connected && s.ready && s.adminChannel.isSome

def requestDisconnect (reason : String) (s : State) : State :=
  { s with pendingDisconnect := true, pendingDisconnectReason := reason }

/-- `CompletePendingResult`: the first value stays. -/
def completePendingResult (pending : Nat) (value : Result Unit) (s : State) : State :=
  if (s.completed.map (·.1)).contains pending then s
  else { s with completed := s.completed ++ [(pending, value)] }

/-- A change of the AMQP connection object, if there is one. -/
def onConnection (change : Connection → Connection) (s : State) : State :=
  { s with connection := s.connection.map change }

def onData (data : List UInt8) (s : State) : State :=
  { s.onConnection fun connection => { connection with produced := connection.produced ++ data }
    with outbound := s.outbound ++ data }

end State

/-- What `DeclareExchange`, `DeclareQueue` and `BindQueue` report if the broker refuses. -/
def declareFailure : Declaration → String
  | .exchange _ => "DeclareExchange failed"
  | .queue _ => "DeclareQueue failed"
  | .binding _ => "BindQueue failed"

def bootstrapFailure : Declaration → String
  | .exchange spec => "Failed to declare exchange '" ++ spec.name ++ "'"
  | .queue spec => "Failed to declare queue '" ++ spec.name ++ "'"
  | .binding spec => "Failed to bind queue '" ++ spec.queue ++ "'"

namespace State

/-- The `onError` callback of a deferred operation. -/
def onError (callback : Callback) (message : String) (s : State) : State :=
  match callback with
  | .bootstrap _ declaration =>
      s.requestDisconnect (buildMessage (bootstrapFailure declaration) message)
  | .qos _ spec => s.requestDisconnect
      (buildMessage ("Failed to apply qos for consumer '" ++ spec.name ++ "'") message)
  | .consume _ spec => s.requestDisconnect
      (buildMessage ("Failed to start consumer '" ++ spec.name ++ "'") message)
  | .declared declaration pending => s.completePendingResult pending
      (.error ⟨.operationFailed, buildMessage (declareFailure declaration) message⟩)

/-- Hands an operation to a channel. An operation that the library cannot send fails as soon
as its error callback is attached. -/
def submit (channel : Nat) (operation : AmqpOperation) (callback : Callback) (answer : Answer)
    (s : State) : State :=
  let s := s.onData answer.produced
  if answer.accepted then s.onConnection (.submit ⟨channel, operation, callback⟩)
  else onError callback "Frame could not be sent" (s.onConnection (.submitUnsent operation))

/-- `runtime.channel.reset(new AMQP::Channel(...))`: a channel that the consumer had before is
destroyed. -/
def openConsumerChannel (spec : ConsumerSpec) (s : State) : State :=
  let replaced := (s.consumerRuntimes.lookup spec.name).bind (·.channel)
  let channel : Channel :=
    { id := s.nextChannel
      errorText := "Consumer channel error for '" ++ spec.name ++ "'"
      closed := false, receiver := none, nextTag := 1 }
  { s.onConnection (.openChannel replaced channel) with
    consumerRuntimes := s.consumerRuntimes.insert spec.name
      { spec, channel := some s.nextChannel, activeTag := "", active := false }
    nextChannel := s.nextChannel + 1 }

/-! The bootstrap chain. Each function submits at most one operation, whose success callback
goes on with the chain. -/

def startConsumer (index : Nat) (answer : Answer) (s : State) : State :=
  match s.config.consumers[index]? with
  | none => s -- out of range: undefined behaviour, never reached
  | some spec =>
  match (s.consumerRuntimes.lookup spec.name).bind (·.channel) with
  | none => s.requestDisconnect
      ("Consumer runtime missing when starting consumer '" ++ spec.name ++ "'")
  | some channel =>
  match configObjectToAmqpTable spec.arguments with
  | .error e => s.requestDisconnect e.message
  | .ok table => s.submit channel (.consume spec.queue spec.consumerTag (toConsumeFlags spec) table)
      (.consume index spec) answer

def bootstrapConsumers (index : Nat) (answer : Answer) (s : State) : State :=
  match s.config.consumers[index]? with
  | none => { s with state := .connected, ready := true }
  | some spec =>
      let opened := s.openConsumerChannel spec
      if spec.prefetchCount > 0 then
        opened.submit s.nextChannel (.setQos spec.prefetchCount) (.qos index spec) answer
      else opened.startConsumer index answer

/-- What the three functions for exchanges, queues and bindings do with one element. -/
def bootstrapDeclaration (index : Nat) (declaration : Declaration) (answer : Answer)
    (s : State) : State :=
  match configObjectToAmqpTable declaration.arguments with
  | .error e => s.requestDisconnect e.message
  | .ok table =>
  match s.adminChannel with
  | none => s -- null pointer: undefined behaviour, never reached
  | some channel =>
      s.submit channel (declaration.request table) (.bootstrap index declaration) answer

def bootstrapBindings (index : Nat) (answer : Answer) (s : State) : State :=
  match s.config.bindings[index]? with
  | none => s.bootstrapConsumers 0 answer
  | some spec => s.bootstrapDeclaration index (.binding spec) answer

def bootstrapQueues (index : Nat) (answer : Answer) (s : State) : State :=
  match s.config.queues[index]? with
  | none => s.bootstrapBindings 0 answer
  | some spec => s.bootstrapDeclaration index (.queue spec) answer

def bootstrapExchanges (index : Nat) (answer : Answer) (s : State) : State :=
  match s.config.exchanges[index]? with
  | none => s.bootstrapQueues 0 answer
  | some spec => s.bootstrapDeclaration index (.exchange spec) answer

def startBootstrap (answer : Answer) (s : State) : State :=
  s.bootstrapExchanges 0 answer

/-- The assignments to the runtime of a consumer that the broker has started. -/
def markActive (name tag : String) (s : State) : State :=
  match s.consumerRuntimes.lookup name with
  | none => s
  | some runtime =>
      { s with consumerRuntimes :=
          s.consumerRuntimes.insert name { runtime with activeTag := tag, active := true } }

/-- The `onSuccess` callback of a deferred operation; `tag` is the tag of a started consumer. -/
def onSuccess (callback : Callback) (tag : String) (answer : Answer) (s : State) : State :=
  match callback with
  | .bootstrap index (.exchange _) => s.bootstrapExchanges (index + 1) answer
  | .bootstrap index (.queue _) => s.bootstrapQueues (index + 1) answer
  | .bootstrap index (.binding _) => s.bootstrapBindings (index + 1) answer
  | .qos index _ => s.startConsumer index answer
  | .consume index spec => (s.markActive spec.name tag).bootstrapConsumers (index + 1) answer
  | .declared declaration pending =>
      completePendingResult pending makeSuccess
        { s with config := declaration.record s.config }

end State

end ModuleContext.RabbitMqBus.Driver
