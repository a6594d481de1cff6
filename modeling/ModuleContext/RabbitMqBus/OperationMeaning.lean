import ModuleContext.RabbitMqBus.Topology

/-!
# What the topology operations ask for

What each element of a configuration has to become on a channel, field by field. The operations
of the driver are that, and a declaration is known again by its operation.
-/

namespace ModuleContext.RabbitMqBus
open Foundation Misc

/-- What a connection is brought up with, one operation for each. A consumer with a prefetch
count takes two. -/
inductive BootstrapElement where
  | exchange (spec : ExchangeSpec)
  | queue (spec : QueueSpec)
  | binding (spec : BindingSpec)
  | qos (spec : ConsumerSpec)
  | consume (spec : ConsumerSpec)

def bootstrapElements (config : RabbitMqBusConfig) : List BootstrapElement :=
  config.exchanges.map .exchange ++ config.queues.map .queue ++
    config.bindings.map .binding ++
    config.consumers.flatMap fun spec =>
      if spec.prefetchCount = 0 then [.consume spec] else [.qos spec, .consume spec]

/-! ## Flags -/

theorem mem_combineFlags {flags : List (Bool × AmqpFlag)} {flag : AmqpFlag} :
    flag ∈ combineFlags flags ↔ (true, flag) ∈ flags := by
  simp [combineFlags]

theorem mem_toExchangeFlags {spec : ExchangeSpec} {flag : AmqpFlag} :
    flag ∈ toExchangeFlags spec ↔
      (flag = .durable ∧ spec.durable = true) ∨ (flag = .autodelete ∧ spec.autoDelete = true) ∨
        (flag = .passive ∧ spec.passive = true) ∨ (flag = .internal ∧ spec.internal = true) := by
  cases flag <;> simp [toExchangeFlags, mem_combineFlags]

theorem mem_toQueueFlags {spec : QueueSpec} {flag : AmqpFlag} :
    flag ∈ toQueueFlags spec ↔
      (flag = .durable ∧ spec.durable = true) ∨ (flag = .autodelete ∧ spec.autoDelete = true) ∨
        (flag = .passive ∧ spec.passive = true) ∨
        (flag = .exclusive ∧ spec.exclusive = true) := by
  cases flag <;> simp [toQueueFlags, mem_combineFlags]

theorem mem_toConsumeFlags {spec : ConsumerSpec} {flag : AmqpFlag} :
    flag ∈ toConsumeFlags spec ↔
      (flag = .noack ∧ spec.autoAck = true) ∨ (flag = .exclusive ∧ spec.exclusive = true) ∨
        (flag = .nolocal ∧ spec.noLocal = true) := by
  cases flag <;> simp [toConsumeFlags, mem_combineFlags]

theorem toAmqpExchangeType_injective : Function.Injective toAmqpExchangeType := by
  intro first second same
  cases first <;> cases second <;> first | rfl | cases same

/-- The flags of a specification determine each of them, as none stands for two. -/
theorem toExchangeFlags_inj {first second : ExchangeSpec} :
    toExchangeFlags first = toExchangeFlags second ↔
      first.durable = second.durable ∧ first.autoDelete = second.autoDelete ∧
        first.passive = second.passive ∧ first.internal = second.internal := by
  constructor
  · intro flags
    have same (flag : AmqpFlag) :
        flag ∈ toExchangeFlags first ↔ flag ∈ toExchangeFlags second := by
      rw [flags]
    simp only [mem_toExchangeFlags] at same
    exact ⟨Bool.eq_iff_iff.mpr (by simpa using same .durable),
      Bool.eq_iff_iff.mpr (by simpa using same .autodelete),
      Bool.eq_iff_iff.mpr (by simpa using same .passive),
      Bool.eq_iff_iff.mpr (by simpa using same .internal)⟩
  · rintro ⟨durable, autoDelete, passive, internal⟩
    rw [toExchangeFlags, durable, autoDelete, passive, internal, toExchangeFlags]

theorem toQueueFlags_inj {first second : QueueSpec} :
    toQueueFlags first = toQueueFlags second ↔
      first.durable = second.durable ∧ first.autoDelete = second.autoDelete ∧
        first.passive = second.passive ∧ first.exclusive = second.exclusive := by
  constructor
  · intro flags
    have same (flag : AmqpFlag) : flag ∈ toQueueFlags first ↔ flag ∈ toQueueFlags second := by
      rw [flags]
    simp only [mem_toQueueFlags] at same
    exact ⟨Bool.eq_iff_iff.mpr (by simpa using same .durable),
      Bool.eq_iff_iff.mpr (by simpa using same .autodelete),
      Bool.eq_iff_iff.mpr (by simpa using same .passive),
      Bool.eq_iff_iff.mpr (by simpa using same .exclusive)⟩
  · rintro ⟨durable, autoDelete, passive, exclusive⟩
    rw [toQueueFlags, durable, autoDelete, passive, exclusive, toQueueFlags]

section Operations

variable [AmqpFields]

/-- The operation asks the broker for the element: same names, kind, flags and arguments. -/
inductive Describes : BootstrapElement → AmqpOperation → Prop where
  | exchange {spec : ExchangeSpec} {type : AmqpExchangeType} {flags : List AmqpFlag}
      {arguments : AmqpFields.Table} :
      (type = match spec.type with
        | .direct => .direct
        | .fanout => .fanout
        | .topic => .topic
        | .headers => .headers) →
      (∀ flag, flag ∈ flags ↔ (flag = .durable ∧ spec.durable = true) ∨
        (flag = .autodelete ∧ spec.autoDelete = true) ∨
        (flag = .passive ∧ spec.passive = true) ∨ (flag = .internal ∧ spec.internal = true)) →
      RepresentsEntries arguments spec.arguments →
      Describes (.exchange spec) (.declareExchange spec.name type flags arguments)
  | queue {spec : QueueSpec} {flags : List AmqpFlag} {arguments : AmqpFields.Table} :
      (∀ flag, flag ∈ flags ↔ (flag = .durable ∧ spec.durable = true) ∨
        (flag = .autodelete ∧ spec.autoDelete = true) ∨
        (flag = .passive ∧ spec.passive = true) ∨ (flag = .exclusive ∧ spec.exclusive = true)) →
      RepresentsEntries arguments spec.arguments →
      Describes (.queue spec) (.declareQueue spec.name flags arguments)
  | binding {spec : BindingSpec} {arguments : AmqpFields.Table} :
      RepresentsEntries arguments spec.arguments →
      Describes (.binding spec) (.bindQueue spec.exchange spec.queue spec.routingKey arguments)
  | qos {spec : ConsumerSpec} : Describes (.qos spec) (.setQos spec.prefetchCount)
  | consume {spec : ConsumerSpec} {flags : List AmqpFlag} {arguments : AmqpFields.Table} :
      (∀ flag, flag ∈ flags ↔ (flag = .noack ∧ spec.autoAck = true) ∨
        (flag = .exclusive ∧ spec.exclusive = true) ∨
        (flag = .nolocal ∧ spec.noLocal = true)) →
      RepresentsEntries arguments spec.arguments →
      Describes (.consume spec) (.consume spec.queue spec.consumerTag flags arguments)

theorem describes_exchange (spec : ExchangeSpec) :
    Describes (.exchange spec) (Declaration.exchange spec).operation :=
  .exchange (by cases spec.type <;> rfl) (fun _ => mem_toExchangeFlags)
    (tableOf_represents spec.arguments)

theorem describes_queue (spec : QueueSpec) :
    Describes (.queue spec) (Declaration.queue spec).operation :=
  .queue (fun _ => mem_toQueueFlags) (tableOf_represents spec.arguments)

theorem describes_binding (spec : BindingSpec) :
    Describes (.binding spec) (Declaration.binding spec).operation :=
  .binding (tableOf_represents spec.arguments)

theorem describes_consume (spec : ConsumerSpec) : Describes (.consume spec) spec.consumeOperation :=
  .consume (fun _ => mem_toConsumeFlags) (tableOf_represents spec.arguments)

theorem describes_consumer (spec : ConsumerSpec) :
    List.Forall₂ Describes
      (if spec.prefetchCount = 0 then [.consume spec] else [.qos spec, .consume spec])
      spec.operations := by
  have started := List.Forall₂.cons (describes_consume spec) .nil
  rw [ConsumerSpec.operations, ConsumerSpec.qosOperations]
  by_cases unlimited : spec.prefetchCount = 0
  · rw [if_pos unlimited, if_neg (by simp [unlimited]), List.nil_append]
    exact started
  · rw [if_neg unlimited, if_pos (UInt16.pos_iff_ne_zero.mpr unlimited)]
    exact .cons .qos started

/-- The operations of the bootstrap describe the elements of the configuration, in order. -/
theorem describes_bootstrap (config : RabbitMqBusConfig) :
    List.Forall₂ Describes (bootstrapElements config) (bootstrapOperations config) := by
  have mapped {α : Type} {element : α → BootstrapElement} {declaration : α → Declaration}
      (describes : ∀ spec, Describes (element spec) (declaration spec).operation)
      (specs : List α) : List.Forall₂ Describes (specs.map element)
        ((specs.map declaration).map Declaration.operation) := by
    rw [List.map_map, List.forall₂_map_left_iff, List.forall₂_map_right_iff]
    exact List.forall₂_same.mpr fun spec _ => describes spec
  have consumers : List.Forall₂ Describes
      (config.consumers.flatMap fun spec =>
        if spec.prefetchCount = 0 then [.consume spec] else [.qos spec, .consume spec])
      (config.consumers.flatMap ConsumerSpec.operations) := by
    induction config.consumers with
    | nil => exact .nil
    | cons spec specs ih => exact List.rel_append (describes_consumer spec) ih
  rw [bootstrapOperations, bootstrapDeclarations, List.map_append, List.map_append]
  exact List.rel_append (List.rel_append (List.rel_append (mapped describes_exchange _)
    (mapped describes_queue _)) (mapped describes_binding _)) consumers

/-! ## Declarations by their operations -/

theorem tableOf_injective [LawfulAmqpFields] {first second : ConfigValue.Object}
    (sorted : ConfigValue.KeysSorted (.object first))
    (sorted' : ConfigValue.KeysSorted (.object second)) (same : tableOf first = tableOf second) :
    first = second := by
  have back := amqpTableToConfigObject_tableOf sorted
  rw [same, amqpTableToConfigObject_tableOf sorted', Except.ok.injEq] at back
  exact back.symm

/-- The broker is asked for the same thing only by the same declaration: its names, its flags, the
passive one among them, and its arguments are all in the operation. -/
theorem Declaration.eq_of_operation [LawfulAmqpFields] {first second : Declaration}
    (sorted : ConfigValue.KeysSorted (.object first.arguments))
    (sorted' : ConfigValue.KeysSorted (.object second.arguments))
    (same : first.operation = second.operation) : first = second := by
  cases first with
  | exchange spec =>
    cases second with
    | exchange spec' =>
      injection same with name type flags table
      obtain ⟨durable, autoDelete, passive, internal⟩ := toExchangeFlags_inj.mp flags
      have arguments := tableOf_injective sorted sorted' table
      cases spec
      cases spec'
      simp only [Declaration.exchange.injEq, ExchangeSpec.mk.injEq]
      exact ⟨name, toAmqpExchangeType_injective type, durable, autoDelete, passive, internal,
        arguments⟩
    | _ => cases same
  | queue spec =>
    cases second with
    | queue spec' =>
      injection same with name flags table
      obtain ⟨durable, autoDelete, passive, exclusive⟩ := toQueueFlags_inj.mp flags
      have arguments := tableOf_injective sorted sorted' table
      cases spec
      cases spec'
      simp only [Declaration.queue.injEq, QueueSpec.mk.injEq]
      exact ⟨name, durable, autoDelete, passive, exclusive, arguments⟩
    | _ => cases same
  | binding spec =>
    cases second with
    | binding spec' =>
      injection same with exchange queue routingKey table
      have arguments := tableOf_injective sorted sorted' table
      cases spec
      cases spec'
      simp only [Declaration.binding.injEq, BindingSpec.mk.injEq]
      exact ⟨exchange, queue, routingKey, arguments⟩
    | _ => cases same

end Operations

end ModuleContext.RabbitMqBus
