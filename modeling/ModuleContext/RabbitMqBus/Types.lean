import ModuleContext.Foundation.ConfigValue

/-!
# Data types of the message bus

The public types of `module_context/messaging/Types.h`, the configuration types of
`internal/ConfigTypes.h`, and the small helpers of `RabbitMqBusModule.cpp` that build results.
Fields keep the widths of the source; names are those of the source in camel case.
-/

namespace ModuleContext.RabbitMqBus
open Foundation

inductive ExchangeType where
  | direct
  | fanout
  | topic
  | headers
  deriving DecidableEq, Repr

/-- What a message handler decides about its message. -/
inductive ConsumeAction where
  | ack
  | requeue
  | reject
  deriving DecidableEq, Repr

inductive ConnectionState where
  | created
  | connecting
  | connected
  | reconnecting
  | stopped
  | error
  deriving DecidableEq, Repr

structure ExchangeSpec where
  name : String
  type : ExchangeType
  durable : Bool
  autoDelete : Bool
  passive : Bool
  internal : Bool
  arguments : ConfigValue.Object
  deriving DecidableEq, Repr

structure QueueSpec where
  name : String
  durable : Bool
  autoDelete : Bool
  passive : Bool
  exclusive : Bool
  arguments : ConfigValue.Object
  deriving DecidableEq, Repr

structure BindingSpec where
  exchange : String
  queue : String
  routingKey : String
  arguments : ConfigValue.Object
  deriving DecidableEq, Repr

structure ConsumerSpec where
  name : String
  queue : String
  consumerTag : String
  autoAck : Bool
  exclusive : Bool
  noLocal : Bool
  prefetchCount : UInt16
  arguments : ConfigValue.Object
  deriving DecidableEq, Repr

structure PublisherSpec where
  name : String
  exchange : String
  routingKey : String
  contentType : String
  headers : ConfigValue.Object
  persistent : Bool
  deriving DecidableEq, Repr

structure ReconnectConfig where
  enabled : Bool
  initialDelayMs : Int32
  maxDelayMs : Int32
  deriving DecidableEq

structure ConnectionConfig where
  uri : String
  heartbeatSeconds : UInt16
  socketTimeoutMs : Int32
  reconnect : ReconnectConfig
  deriving DecidableEq

structure RabbitMqBusConfig where
  connection : ConnectionConfig
  workerThreadCount : UInt64
  exchanges : List ExchangeSpec
  queues : List QueueSpec
  bindings : List BindingSpec
  publishers : List PublisherSpec
  consumers : List ConsumerSpec
  deriving DecidableEq

structure PublishRequest where
  exchange : String
  routingKey : String
  payload : List UInt8
  contentType : String
  correlationId : String
  replyTo : String
  headers : ConfigValue.Object
  persistent : Bool

structure IncomingMessage where
  consumerName : String
  exchange : String
  routingKey : String
  payload : List UInt8
  contentType : String
  correlationId : String
  replyTo : String
  headers : ConfigValue.Object
  redelivered : Bool

/-- What a handler's answer is applied to: the consumer and the tag of its message. -/
structure DeliveryContext where
  consumerName : String
  deliveryTag : UInt64
  autoAck : Bool
  deriving DecidableEq, Repr

def makeInvalidArgument (message : String) : Error := ⟨.invalidArgument, message⟩

def makeDisconnected (message : String) : Error := ⟨.disconnected, message⟩

def makeParseError (message : String) : Error := ⟨.parseError, message⟩

end ModuleContext.RabbitMqBus
