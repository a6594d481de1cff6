import ModuleContext.RabbitMqBus.Driver.State

/-!
# Commands and deliveries

The public methods of the driver validate their arguments and queue a command; the driver
thread executes it. Deliveries go the other way: the driver thread hands them to the worker
pool, whose tasks come back with a `CompleteDelivery` call.
-/

namespace ModuleContext.RabbitMqBus.Driver
open Foundation Misc
open AmqpFields (Table)

variable [AmqpFields]

/-- A call by some other thread. -/
inductive ClientCall where
  | publish (request : PublishRequest)
  | declareExchange (spec : ExchangeSpec)
  | declareQueue (spec : QueueSpec)
  | bindQueue (spec : BindingSpec)
  | completeDelivery (delivery : DeliveryContext) (action : ConsumeAction)

/-- The checks before a command is made: the command, or the result returned at once. -/
def ClientCall.command : ClientCall → Except (Result Unit) CommandBody
  | .publish request =>
      if request.exchange.isEmpty then
        .error (.error (makeInvalidArgument "Publish.exchange must not be empty"))
      else .ok (.publish request)
  | .declareExchange spec =>
      if spec.name.isEmpty then
        .error (.error (makeInvalidArgument "Exchange name must not be empty"))
      else .ok (.declare (.exchange spec))
  | .declareQueue spec =>
      if spec.name.isEmpty then
        .error (.error (makeInvalidArgument "Queue name must not be empty"))
      else .ok (.declare (.queue spec))
  | .bindQueue spec =>
      if spec.exchange.isEmpty || spec.queue.isEmpty then
        .error (.error (makeInvalidArgument
          "BindQueue requires non-empty exchange and queue names"))
      else .ok (.declare (.binding spec))
  | .completeDelivery delivery action =>
      if delivery.consumerName.isEmpty || delivery.autoAck then .error makeSuccess
      else .ok (.completeDelivery delivery action none)

namespace State

/-- The test of `EnqueueCommand`. -/
def accepts (s : State) : Bool := s.threadJoinable && !s.stopRequested

def enqueueCommand (body : CommandBody) (s : State) : State :=
  if s.accepts then
    { s with commands := s.commands ++ [⟨body, s.nextPending⟩], nextPending := s.nextPending + 1 }
  else s

/-- `CompleteDelivery` for a delivery that came in on channel `origin`. -/
def completeDelivery (delivery : DeliveryContext) (action : ConsumeAction) (origin : Nat)
    (s : State) : State :=
  if delivery.consumerName.isEmpty || delivery.autoAck then s
  else s.enqueueCommand (.completeDelivery delivery action (some origin))

/-- `CompleteDelivery` called by the driver thread, which then waits for its own command. -/
def completeDeliveryAndWait (delivery : DeliveryContext) (action : ConsumeAction)
    (origin : Nat) (s : State) : State :=
  if delivery.consumerName.isEmpty || delivery.autoAck then s
  else if s.accepts then
    { s.enqueueCommand (.completeDelivery delivery action (some origin)) with
      pc := .waiting s.nextPending }
  else s

/-- The envelope of a publish request, once its headers are converted. -/
def envelopeOf (request : PublishRequest) (headers : Table) : Envelope :=
  let given (text : String) : Option String := if text.isEmpty then none else some text
  { payload := request.payload
    contentType := given request.contentType
    correlationId := given request.correlationId
    replyTo := given request.replyTo
    headers := if request.headers.isEmpty then none else some headers
    persistent := request.persistent }

/-- A frame without a deferred answer, recorded if the channel takes it. -/
def transfer (frame : Transfer) (answer : Answer) (s : State) : State :=
  if answer.accepted then
    (s.onData answer.produced).onConnection fun connection =>
      { connection with transfers := connection.transfers ++ [frame] }
  else s

def executePublish (request : PublishRequest) (pending : Nat) (answer : Answer) (s : State) :
    State :=
  if s.isReadyLocked then
    match configObjectToAmqpTable request.headers with
    | .error e => s.completePendingResult pending (.error e)
    | .ok headers =>
        let sent := s.transfer
          (.published request.exchange request.routingKey (envelopeOf request headers)) answer
        if answer.accepted then sent.completePendingResult pending makeSuccess
        else sent.completePendingResult pending
          (.error ⟨.operationFailed, "AMQP publish command was rejected locally"⟩)
  else s.completePendingResult pending
    (.error (makeDisconnected "RabbitMQ connection is not ready"))

/-- The commands of `DeclareExchange`, `DeclareQueue` and `BindQueue`. -/
def executeDeclare (declaration : Declaration) (pending : Nat) (answer : Answer) (s : State) :
    State :=
  if s.isReadyLocked then
    match configObjectToAmqpTable declaration.arguments with
    | .error e => s.completePendingResult pending (.error e)
    | .ok table =>
    match s.adminChannel with
    | none => s -- excluded by `isReadyLocked`
    | some channel =>
        s.submit channel (declaration.request table) (.declared declaration pending) answer
  else s.completePendingResult pending
    (.error (makeDisconnected "RabbitMQ connection is not ready"))

/-- The channel on which the consumer of a delivery is running now. -/
def completionChannel (delivery : DeliveryContext) (s : State) : Option Nat :=
  (s.consumerRuntimes.lookup delivery.consumerName).bind (·.channel)

def executeCompleteDelivery (delivery : DeliveryContext) (action : ConsumeAction)
    (pending : Nat) (answer : Answer) (s : State) : State :=
  match s.completionChannel delivery with
  | none => s.completePendingResult pending
      (.error (makeDisconnected "Consumer channel is unavailable for delivery completion"))
  | some channel =>
      let sent := s.transfer (.settled channel delivery.deliveryTag action) answer
      if answer.accepted then sent.completePendingResult pending makeSuccess
      else sent.completePendingResult pending
        (.error ⟨.operationFailed, "Failed to submit ACK/NACK command to AMQP channel"⟩)

def execute (command : Command) (answer : Answer) (s : State) : State :=
  match command.body with
  | .publish request => s.executePublish request command.pending answer
  | .declare declaration => s.executeDeclare declaration command.pending answer
  | .completeDelivery delivery action _ =>
      s.executeCompleteDelivery delivery action command.pending answer

end State

/-- A message as the AMQP library delivers it. -/
structure AmqpMessage where
  exchange : String
  routingKey : String
  body : List UInt8
  contentType : String
  correlationId : String
  replyTo : String
  headers : Table
  redelivered : Bool

/-- What the delivery callback finds: the worker pool that refuses or takes a task, or none,
and whether the shared state refers to the driver. -/
structure Dispatch where
  pool : Option Bool
  driverRef : Bool

namespace State

/-- The delivery callback that `OnStart` installs. -/
def deliveryCallback (incoming : IncomingMessage) (delivery : DeliveryContext) (origin : Nat)
    (dispatch : Dispatch) (s : State) : State :=
  let requeue := if dispatch.driverRef then
    s.completeDeliveryAndWait delivery .requeue origin else s
  match dispatch.pool with
  | none => requeue
  | some false => requeue
  | some true =>
      let task : Task :=
        { message := incoming, delivery
          handler := s.handlers.lookup incoming.consumerName
          driverRef := dispatch.driverRef, origin }
      { s with tasks := s.tasks ++ [task] }

def deliveryContext (spec : ConsumerSpec) (deliveryTag : UInt64) : DeliveryContext :=
  { consumerName := spec.name, deliveryTag, autoAck := spec.autoAck }

def handleIncomingMessage (spec : ConsumerSpec) (message : AmqpMessage) (deliveryTag : UInt64)
    (origin : Nat) (dispatch : Dispatch) (s : State) : State :=
  let delivery := deliveryContext spec deliveryTag
  match amqpTableToConfigObject message.headers with
  | .error _ =>
      if spec.autoAck then s else s.completeDeliveryAndWait delivery .reject origin
  | .ok headers =>
      let incoming : IncomingMessage :=
        { consumerName := spec.name
          exchange := message.exchange
          routingKey := message.routingKey
          payload := message.body
          contentType := message.contentType
          correlationId := message.correlationId
          replyTo := message.replyTo
          headers
          redelivered := message.redelivered }
      s.deliveryCallback incoming delivery origin dispatch

end State

/-- How a handler invocation ends. -/
inductive HandlerOutcome where
  | returned (action : ConsumeAction)
  | threw

/-- The action that a finished task applies to its message. -/
def Task.action (task : Task) (outcome : HandlerOutcome) : ConsumeAction :=
  match task.handler, outcome with
  | some _, .returned action => action
  | _, _ => .requeue

/-- A task runs to its `CompleteDelivery` call. -/
def State.finishTask (task : Task) (outcome : HandlerOutcome) (s : State) : State :=
  if !task.delivery.autoAck && task.driverRef then
    s.completeDelivery task.delivery (task.action outcome) task.origin
  else s

end ModuleContext.RabbitMqBus.Driver
