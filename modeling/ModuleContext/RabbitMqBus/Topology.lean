import ModuleContext.Misc.Upsert
import ModuleContext.RabbitMqBus.AmqpValue
import ModuleContext.RabbitMqBus.ParseBusConfig

/-!
# Topology operations

The AMQP operations that build up the topology, the declarations they come from, and how the
driver remembers a confirmed declaration in its configuration, which it replays on the next
connection.
-/

namespace ModuleContext.RabbitMqBus
open Foundation Misc

/-- `AMQP::ExchangeType`, as far as the driver uses it. -/
inductive AmqpExchangeType where
  | direct
  | fanout
  | topic
  | headers
  deriving DecidableEq, Repr

/-- The flag constants of the AMQP library that the driver combines. -/
inductive AmqpFlag where
  | durable
  | autodelete
  | passive
  | internal
  | exclusive
  | noack
  | nolocal
  deriving DecidableEq, Repr

/-- The bitwise or of the flags whose condition holds. -/
def combineFlags (flags : List (Bool × AmqpFlag)) : List AmqpFlag :=
  flags.filterMap fun (isSet, flag) => if isSet then some flag else none

def toAmqpExchangeType : ExchangeType → AmqpExchangeType
  | .direct => .direct
  | .fanout => .fanout
  | .topic => .topic
  | .headers => .headers

def toExchangeFlags (spec : ExchangeSpec) : List AmqpFlag :=
  combineFlags [(spec.durable, .durable), (spec.autoDelete, .autodelete),
    (spec.passive, .passive), (spec.internal, .internal)]

def toQueueFlags (spec : QueueSpec) : List AmqpFlag :=
  combineFlags [(spec.durable, .durable), (spec.autoDelete, .autodelete),
    (spec.passive, .passive), (spec.exclusive, .exclusive)]

def toConsumeFlags (spec : ConsumerSpec) : List AmqpFlag :=
  combineFlags [(spec.autoAck, .noack), (spec.exclusive, .exclusive), (spec.noLocal, .nolocal)]

/-- A piece of topology that is declared in the configuration or at run time. -/
inductive Declaration where
  | exchange (spec : ExchangeSpec)
  | queue (spec : QueueSpec)
  | binding (spec : BindingSpec)
  deriving DecidableEq, Repr

def Declaration.arguments : Declaration → ConfigValue.Object
  | .exchange spec => spec.arguments
  | .queue spec => spec.arguments
  | .binding spec => spec.arguments

def isSameBinding (lhs rhs : BindingSpec) : Bool :=
  lhs.exchange == rhs.exchange && lhs.queue == rhs.queue && lhs.routingKey == rhs.routingKey

def upsertExchangeSpec (spec : ExchangeSpec) (exchanges : List ExchangeSpec) :
    List ExchangeSpec :=
  upsert (fun item spec => item.name == spec.name) spec exchanges

def upsertQueueSpec (spec : QueueSpec) (queues : List QueueSpec) : List QueueSpec :=
  upsert (fun item spec => item.name == spec.name) spec queues

def upsertBindingSpec (spec : BindingSpec) (bindings : List BindingSpec) : List BindingSpec :=
  upsert isSameBinding spec bindings

/-- What the driver does to its configuration when the broker confirms a declaration that was
made at run time. -/
def Declaration.record (config : RabbitMqBusConfig) : Declaration → RabbitMqBusConfig
  | .exchange spec => { config with exchanges := upsertExchangeSpec spec config.exchanges }
  | .queue spec => { config with queues := upsertQueueSpec spec config.queues }
  | .binding spec => { config with bindings := upsertBindingSpec spec config.bindings }

/-- The configuration after a sequence of confirmed declarations. -/
def recordAll (config : RabbitMqBusConfig) (calls : List Declaration) : RabbitMqBusConfig :=
  calls.foldl Declaration.record config

/-- What the bootstrap of a connection declares, in order. -/
def bootstrapDeclarations (config : RabbitMqBusConfig) : List Declaration :=
  config.exchanges.map .exchange ++ config.queues.map .queue ++ config.bindings.map .binding

section Operations

variable [AmqpFields]

open AmqpFields (Table emptyTable)

/-- The deferred operations of an AMQP channel. -/
inductive AmqpOperation where
  | declareExchange (name : String) (type : AmqpExchangeType) (flags : List AmqpFlag)
      (arguments : Table)
  | declareQueue (name : String) (flags : List AmqpFlag) (arguments : Table)
  | bindQueue (exchange queue routingKey : String) (arguments : Table)
  | setQos (prefetchCount : UInt16)
  | consume (queue tag : String) (flags : List AmqpFlag) (arguments : Table)

/-- The call on the admin channel, once the arguments are converted. -/
def Declaration.request (table : Table) : Declaration → AmqpOperation
  | .exchange spec =>
      .declareExchange spec.name (toAmqpExchangeType spec.type) (toExchangeFlags spec) table
  | .queue spec => .declareQueue spec.name (toQueueFlags spec) table
  | .binding spec => .bindQueue spec.exchange spec.queue spec.routingKey table

/-- The table that the conversion of an object yields; it never fails. -/
def tableOf (object : ConfigValue.Object) : Table :=
  match configObjectToAmqpTable object with
  | .ok table => table
  | .error _ => emptyTable

theorem configObjectToAmqpTable_eq (object : ConfigValue.Object) :
    configObjectToAmqpTable object = .ok (tableOf object) := by
  obtain ⟨table, converted⟩ := configObjectToAmqpTable_ok object
  simp only [tableOf, converted]

theorem tableOf_represents (object : ConfigValue.Object) :
    RepresentsEntries (tableOf object) object :=
  configObjectToAmqpTable_represents (configObjectToAmqpTable_eq object)

/-- What is read of the table of an object is the object. -/
theorem amqpTableToConfigObject_tableOf [LawfulAmqpFields] {object : ConfigValue.Object}
    (sorted : ConfigValue.KeysSorted (.object object)) :
    amqpTableToConfigObject (tableOf object) = .ok object := by
  obtain ⟨table, converted, back⟩ := amqpObject_inverse object sorted
  rw [configObjectToAmqpTable_eq, Except.ok.injEq] at converted
  rw [converted]
  exact back

def Declaration.operation (declaration : Declaration) : AmqpOperation :=
  declaration.request (tableOf declaration.arguments)

def ConsumerSpec.consumeOperation (spec : ConsumerSpec) : AmqpOperation :=
  .consume spec.queue spec.consumerTag (toConsumeFlags spec) (tableOf spec.arguments)

def ConsumerSpec.qosOperations (spec : ConsumerSpec) : List AmqpOperation :=
  if spec.prefetchCount > 0 then [.setQos spec.prefetchCount] else []

/-- The operations that start one consumer. -/
def ConsumerSpec.operations (spec : ConsumerSpec) : List AmqpOperation :=
  spec.qosOperations ++ [spec.consumeOperation]

/-- The operations that bring a connection up: all exchanges, all queues, all bindings, then
each consumer. -/
def bootstrapOperations (config : RabbitMqBusConfig) : List AmqpOperation :=
  (bootstrapDeclarations config).map Declaration.operation ++
    config.consumers.flatMap ConsumerSpec.operations

end Operations

/-! ## Recorded declarations by kind -/

def exchangesOf (declarations : List Declaration) : List ExchangeSpec :=
  declarations.filterMap fun
    | .exchange spec => some spec
    | _ => none

def queuesOf (declarations : List Declaration) : List QueueSpec :=
  declarations.filterMap fun
    | .queue spec => some spec
    | _ => none

def bindingsOf (declarations : List Declaration) : List BindingSpec :=
  declarations.filterMap fun
    | .binding spec => some spec
    | _ => none

@[simp] theorem exchangesOf_append (first second : List Declaration) :
    exchangesOf (first ++ second) = exchangesOf first ++ exchangesOf second :=
  List.filterMap_append

@[simp] theorem queuesOf_append (first second : List Declaration) :
    queuesOf (first ++ second) = queuesOf first ++ queuesOf second :=
  List.filterMap_append

@[simp] theorem bindingsOf_append (first second : List Declaration) :
    bindingsOf (first ++ second) = bindingsOf first ++ bindingsOf second :=
  List.filterMap_append

@[simp] theorem exchangesOf_bootstrap (config : RabbitMqBusConfig) :
    exchangesOf (bootstrapDeclarations config) = config.exchanges := by
  simp [exchangesOf, bootstrapDeclarations, List.filterMap_append, List.filterMap_map]

@[simp] theorem queuesOf_bootstrap (config : RabbitMqBusConfig) :
    queuesOf (bootstrapDeclarations config) = config.queues := by
  simp [queuesOf, bootstrapDeclarations, List.filterMap_append, List.filterMap_map]

@[simp] theorem bindingsOf_bootstrap (config : RabbitMqBusConfig) :
    bindingsOf (bootstrapDeclarations config) = config.bindings := by
  simp [bindingsOf, bootstrapDeclarations, List.filterMap_append, List.filterMap_map]

/-- Recorded declarations of each kind are upserted in their own list, and nothing else of
the configuration changes. -/
theorem recordAll_eq (config : RabbitMqBusConfig) (calls : List Declaration) :
    recordAll config calls =
      { config with
        exchanges := upsertAll (fun item spec => item.name == spec.name) config.exchanges
          (exchangesOf calls)
        queues := upsertAll (fun item spec => item.name == spec.name) config.queues
          (queuesOf calls)
        bindings := upsertAll isSameBinding config.bindings (bindingsOf calls) } := by
  induction calls generalizing config with
  | nil => rfl
  | cons call calls ih =>
    rw [recordAll, List.foldl_cons, ← recordAll, ih]
    cases call <;> rfl

/-- What `IsSameBinding` compares. -/
def BindingSpec.identity (spec : BindingSpec) : String × String × String :=
  (spec.exchange, spec.queue, spec.routingKey)

theorem isSameBinding_iff (lhs rhs : BindingSpec) :
    isSameBinding lhs rhs = true ↔ lhs.identity = rhs.identity := by
  simp [isSameBinding, BindingSpec.identity, and_assoc]

/-- Bindings with distinct keys have distinct identities. -/
theorem nodup_identity {bindings : List BindingSpec}
    (distinct : (bindings.map bindingKey).Nodup) : (bindings.map (·.identity)).Nodup := by
  have factors : bindings.map bindingKey =
      (bindings.map (·.identity)).map fun identity =>
        identity.1 ++ "|" ++ identity.2.1 ++ "|" ++ identity.2.2 := by
    rw [List.map_map]
    rfl
  rw [factors] at distinct
  exact distinct.of_map _

end ModuleContext.RabbitMqBus
