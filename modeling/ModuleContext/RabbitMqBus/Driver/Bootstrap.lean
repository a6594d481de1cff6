import ModuleContext.RabbitMqBus.Driver.State

/-!
# The bootstrap chain

The functions of the bootstrap chain call each other through the success callbacks of the
operations they submit. Whatever the place where the chain goes on, it does one of a few
things: it submits the operation at that place, finishes, or breaks off.
-/

namespace ModuleContext.RabbitMqBus
open Foundation Misc

variable [AmqpFields]

/-! ## Places in the chain -/

namespace RabbitMqBusConfig

/-- The operations of the chain before the exchange at `index`. -/
def beforeExchange (config : RabbitMqBusConfig) (index : Nat) : List AmqpOperation :=
  (config.exchanges.take index).map fun spec => (Declaration.exchange spec).operation

def beforeQueue (config : RabbitMqBusConfig) (index : Nat) : List AmqpOperation :=
  config.beforeExchange config.exchanges.length ++
    (config.queues.take index).map fun spec => (Declaration.queue spec).operation

def beforeBinding (config : RabbitMqBusConfig) (index : Nat) : List AmqpOperation :=
  config.beforeQueue config.queues.length ++
    (config.bindings.take index).map fun spec => (Declaration.binding spec).operation

def beforeConsumer (config : RabbitMqBusConfig) (index : Nat) : List AmqpOperation :=
  config.beforeBinding config.bindings.length ++
    (config.consumers.take index).flatMap ConsumerSpec.operations

variable {config : RabbitMqBusConfig}

theorem beforeExchange_succ {index : Nat} {spec : ExchangeSpec}
    (here : config.exchanges[index]? = some spec) :
    config.beforeExchange (index + 1) =
      config.beforeExchange index ++ [(Declaration.exchange spec).operation] := by
  simp [beforeExchange, List.take_add_one, here]

theorem beforeQueue_succ {index : Nat} {spec : QueueSpec}
    (here : config.queues[index]? = some spec) :
    config.beforeQueue (index + 1) =
      config.beforeQueue index ++ [(Declaration.queue spec).operation] := by
  simp [beforeQueue, List.take_add_one, here]

theorem beforeBinding_succ {index : Nat} {spec : BindingSpec}
    (here : config.bindings[index]? = some spec) :
    config.beforeBinding (index + 1) =
      config.beforeBinding index ++ [(Declaration.binding spec).operation] := by
  simp [beforeBinding, List.take_add_one, here]

theorem beforeConsumer_succ {index : Nat} {spec : ConsumerSpec}
    (here : config.consumers[index]? = some spec) :
    config.beforeConsumer (index + 1) = config.beforeConsumer index ++ spec.operations := by
  simp [beforeConsumer, List.take_add_one, here]

theorem beforeExchange_done {index : Nat} (done : config.exchanges[index]? = none) :
    config.beforeExchange index = config.beforeQueue 0 := by
  have whole := List.take_of_length_le (List.getElem?_eq_none_iff.mp done)
  simp [beforeExchange, beforeQueue, whole]

theorem beforeQueue_done {index : Nat} (done : config.queues[index]? = none) :
    config.beforeQueue index = config.beforeBinding 0 := by
  have whole := List.take_of_length_le (List.getElem?_eq_none_iff.mp done)
  simp [beforeQueue, beforeBinding, whole]

theorem beforeBinding_done {index : Nat} (done : config.bindings[index]? = none) :
    config.beforeBinding index = config.beforeConsumer 0 := by
  have whole := List.take_of_length_le (List.getElem?_eq_none_iff.mp done)
  simp [beforeBinding, beforeConsumer, whole]

theorem beforeConsumer_done {index : Nat} (done : config.consumers[index]? = none) :
    config.beforeConsumer index = bootstrapOperations config := by
  have whole := List.take_of_length_le (List.getElem?_eq_none_iff.mp done)
  simp [beforeConsumer, beforeBinding, beforeQueue, beforeExchange, bootstrapOperations,
    bootstrapDeclarations, whole]
  rfl

/-! Every place is reached on the way through the whole chain. -/

theorem beforeConsumer_initial (index : Nat) :
    config.beforeConsumer index <+: bootstrapOperations config := by
  have here : config.beforeConsumer index <+: config.beforeConsumer config.consumers.length := by
    unfold beforeConsumer
    rw [List.prefix_append_right_inj, List.take_length]
    obtain ⟨rest, whole⟩ := List.take_prefix index config.consumers
    exact ⟨rest.flatMap ConsumerSpec.operations, by rw [← List.flatMap_append, whole]⟩
  rwa [beforeConsumer_done (List.getElem?_eq_none_iff.mpr le_rfl)] at here

theorem beforeBinding_initial (index : Nat) :
    config.beforeBinding index <+: bootstrapOperations config := by
  have here : config.beforeBinding index <+: config.beforeBinding config.bindings.length := by
    unfold beforeBinding
    rw [List.prefix_append_right_inj, List.take_length]
    exact (List.take_prefix index config.bindings).map _
  rw [beforeBinding_done (List.getElem?_eq_none_iff.mpr le_rfl)] at here
  exact here.trans (beforeConsumer_initial 0)

theorem beforeQueue_initial (index : Nat) :
    config.beforeQueue index <+: bootstrapOperations config := by
  have here : config.beforeQueue index <+: config.beforeQueue config.queues.length := by
    unfold beforeQueue
    rw [List.prefix_append_right_inj, List.take_length]
    exact (List.take_prefix index config.queues).map _
  rw [beforeQueue_done (List.getElem?_eq_none_iff.mpr le_rfl)] at here
  exact here.trans (beforeBinding_initial 0)

theorem beforeExchange_initial (index : Nat) :
    config.beforeExchange index <+: bootstrapOperations config := by
  have here : config.beforeExchange index <+: config.beforeExchange config.exchanges.length := by
    unfold beforeExchange
    rw [List.take_length]
    exact (List.take_prefix index config.exchanges).map _
  rw [beforeExchange_done (List.getElem?_eq_none_iff.mpr le_rfl)] at here
  exact here.trans (beforeQueue_initial 0)

end RabbitMqBusConfig

namespace Driver

/-- `Position config callback opened done operation`: `operation` is what the chain submits
with `callback`, after the operations `done` and with the channels of `opened` consumers
open. -/
inductive Position (config : RabbitMqBusConfig) :
    Callback → Nat → List AmqpOperation → AmqpOperation → Prop where
  | exchange {index : Nat} {spec : ExchangeSpec} : config.exchanges[index]? = some spec →
      Position config (.bootstrap index (.exchange spec)) 0 (config.beforeExchange index)
        (Declaration.exchange spec).operation
  | queue {index : Nat} {spec : QueueSpec} : config.queues[index]? = some spec →
      Position config (.bootstrap index (.queue spec)) 0 (config.beforeQueue index)
        (Declaration.queue spec).operation
  | binding {index : Nat} {spec : BindingSpec} : config.bindings[index]? = some spec →
      Position config (.bootstrap index (.binding spec)) 0 (config.beforeBinding index)
        (Declaration.binding spec).operation
  | qos {index : Nat} {spec : ConsumerSpec} : config.consumers[index]? = some spec →
      spec.prefetchCount > 0 →
      Position config (.qos index spec) (index + 1) (config.beforeConsumer index)
        (.setQos spec.prefetchCount)
  | consume {index : Nat} {spec : ConsumerSpec} : config.consumers[index]? = some spec →
      Position config (.consume index spec) (index + 1)
        (config.beforeConsumer index ++ spec.qosOperations) spec.consumeOperation

/-- The operations before a place in the chain and the one at it begin the whole chain. -/
theorem Position.splits {config : RabbitMqBusConfig} {callback : Callback} {opened : Nat}
    {done : List AmqpOperation} {operation : AmqpOperation}
    (place : Position config callback opened done operation) :
    done ++ [operation] <+: bootstrapOperations config := by
  cases place with
  | exchange here =>
    rw [← RabbitMqBusConfig.beforeExchange_succ here]
    exact RabbitMqBusConfig.beforeExchange_initial _
  | queue here =>
    rw [← RabbitMqBusConfig.beforeQueue_succ here]
    exact RabbitMqBusConfig.beforeQueue_initial _
  | binding here =>
    rw [← RabbitMqBusConfig.beforeBinding_succ here]
    exact RabbitMqBusConfig.beforeBinding_initial _
  | @qos index spec here limited =>
    have started := RabbitMqBusConfig.beforeConsumer_succ here
    simp only [ConsumerSpec.operations, ConsumerSpec.qosOperations, if_pos limited] at started
    refine List.IsPrefix.trans ⟨[spec.consumeOperation], ?_⟩
      (RabbitMqBusConfig.beforeConsumer_initial (index + 1))
    rw [started, List.append_assoc]
  | @consume index spec here =>
    rw [List.append_assoc]
    have started := RabbitMqBusConfig.beforeConsumer_succ here
    rw [ConsumerSpec.operations] at started
    rw [← started]
    exact RabbitMqBusConfig.beforeConsumer_initial _

namespace Callback

/-- The callbacks that go on with the chain. -/
def isBootstrap : Callback → Bool
  | .declared _ _ => false
  | _ => true

/-- The channel that an operation with this callback uses. -/
def channel (s : State) : Callback → Option Nat
  | .bootstrap _ _ | .declared _ _ => s.adminChannel
  | .qos _ spec | .consume _ spec => (s.consumerRuntimes.lookup spec.name).bind (·.channel)

end Callback

theorem Position.isBootstrap {config : RabbitMqBusConfig} {callback : Callback} {opened : Nat}
    {done : List AmqpOperation} {operation : AmqpOperation}
    (place : Position config callback opened done operation) : callback.isBootstrap = true := by
  cases place <;> rfl

namespace State

/-- What the chain makes of a state, when it goes on after the operations `done` and with the
channels of `opened` consumers open. -/
inductive Advanced : State → List AmqpOperation → Nat → State → Prop where
  | stuck {s : State} {done : List AmqpOperation} {opened : Nat} : Advanced s done opened s
  | broken {s : State} {done : List AmqpOperation} {opened : Nat} {reason : String} :
      Advanced s done opened (s.requestDisconnect reason)
  | finished {s : State} {opened : Nat} :
      Advanced s (bootstrapOperations s.config) opened { s with state := .connected, ready := true }
  | submitted {s : State} {callback : Callback} {opened channel : Nat}
      {done : List AmqpOperation} {operation : AmqpOperation} {answer : Answer} :
      Position s.config callback opened done operation → callback.channel s = some channel →
      Advanced s done opened (s.submit channel operation callback answer)
  | opened {s s' : State} {opened : Nat} {spec : ConsumerSpec} {done : List AmqpOperation} :
      s.config.consumers[opened]? = some spec →
      Advanced (s.openConsumerChannel spec) done (opened + 1) s' → Advanced s done opened s'
  | active {s s' : State} {opened : Nat} {name tag : String} {done : List AmqpOperation} :
      Advanced (s.markActive name tag) done opened s' → Advanced s done opened s'

variable {s : State} {index : Nat}

theorem startConsumer_advanced {spec : ConsumerSpec} (answer : Answer)
    (here : s.config.consumers[index]? = some spec) :
    Advanced s (s.config.beforeConsumer index ++ spec.qosOperations) (index + 1)
      (s.startConsumer index answer) := by
  unfold startConsumer
  rw [here]
  dsimp only
  split
  · exact .broken
  · rename_i channel running
    rw [configObjectToAmqpTable_eq]
    exact .submitted (.consume here) running

theorem bootstrapConsumers_advanced (index : Nat) (answer : Answer) (s : State) :
    Advanced s (s.config.beforeConsumer index) index (s.bootstrapConsumers index answer) := by
  unfold bootstrapConsumers
  split
  · rename_i done
    rw [RabbitMqBusConfig.beforeConsumer_done done]
    exact .finished
  · rename_i spec here
    refine .opened here ?_
    dsimp only
    split
    · rename_i limited
      refine .submitted (.qos here limited) ?_
      simp [Callback.channel, openConsumerChannel]
    · rename_i unlimited
      have started := startConsumer_advanced (s := s.openConsumerChannel spec) answer here
      rw [ConsumerSpec.qosOperations, if_neg unlimited, List.append_nil] at started
      exact started

theorem bootstrapDeclaration_advanced {declaration : Declaration} {opened : Nat}
    {done : List AmqpOperation} {answer : Answer}
    (here : Position s.config (.bootstrap index declaration) opened done declaration.operation) :
    Advanced s done opened (s.bootstrapDeclaration index declaration answer) := by
  unfold bootstrapDeclaration
  rw [configObjectToAmqpTable_eq]
  dsimp only
  split
  · exact .stuck
  · rename_i channel admin
    exact .submitted here admin

theorem bootstrapBindings_advanced (index : Nat) (answer : Answer) (s : State) :
    Advanced s (s.config.beforeBinding index) 0 (s.bootstrapBindings index answer) := by
  unfold bootstrapBindings
  split
  · rename_i done
    rw [RabbitMqBusConfig.beforeBinding_done done]
    exact bootstrapConsumers_advanced _ _ _
  · rename_i spec here
    exact bootstrapDeclaration_advanced (.binding here)

theorem bootstrapQueues_advanced (index : Nat) (answer : Answer) (s : State) :
    Advanced s (s.config.beforeQueue index) 0 (s.bootstrapQueues index answer) := by
  unfold bootstrapQueues
  split
  · rename_i done
    rw [RabbitMqBusConfig.beforeQueue_done done]
    exact bootstrapBindings_advanced _ _ _
  · rename_i spec here
    exact bootstrapDeclaration_advanced (.queue here)

theorem bootstrapExchanges_advanced (index : Nat) (answer : Answer) (s : State) :
    Advanced s (s.config.beforeExchange index) 0 (s.bootstrapExchanges index answer) := by
  unfold bootstrapExchanges
  split
  · rename_i done
    rw [RabbitMqBusConfig.beforeExchange_done done]
    exact bootstrapQueues_advanced _ _ _
  · rename_i spec here
    exact bootstrapDeclaration_advanced (.exchange here)

theorem startBootstrap_advanced (answer : Answer) (s : State) :
    Advanced s [] 0 (s.startBootstrap answer) :=
  bootstrapExchanges_advanced 0 answer s

@[simp] theorem markActive_config (name tag : String) (s : State) :
    (s.markActive name tag).config = s.config := by
  unfold markActive
  split <;> rfl

/-- When the operation at a place of the chain is confirmed, the chain goes on after it. -/
theorem onSuccess_advanced {callback : Callback} {opened : Nat} {done : List AmqpOperation}
    {operation : AmqpOperation} (tag : String) (answer : Answer)
    (place : Position s.config callback opened done operation) :
    Advanced s (done ++ [operation]) opened (s.onSuccess callback tag answer) := by
  cases place with
  | exchange here =>
    rw [← RabbitMqBusConfig.beforeExchange_succ here]
    exact bootstrapExchanges_advanced _ _ _
  | queue here =>
    rw [← RabbitMqBusConfig.beforeQueue_succ here]
    exact bootstrapQueues_advanced _ _ _
  | binding here =>
    rw [← RabbitMqBusConfig.beforeBinding_succ here]
    exact bootstrapBindings_advanced _ _ _
  | qos here limited =>
    have started := startConsumer_advanced answer here
    rwa [ConsumerSpec.qosOperations, if_pos limited] at started
  | @consume index spec here =>
    have next := bootstrapConsumers_advanced (index + 1) answer (s.markActive spec.name tag)
    rw [markActive_config, RabbitMqBusConfig.beforeConsumer_succ here, ConsumerSpec.operations,
      ← List.append_assoc] at next
    exact .active next

/-- A success callback completes a pending call or goes on with the chain. -/
theorem onSuccess_chain (callback : Callback) (tag : String) (answer : Answer) (s : State) :
    (∃ declaration pending, callback = .declared declaration pending) ∨
      callback.isBootstrap = true ∧
        ∃ done opened, Advanced s done opened (s.onSuccess callback tag answer) := by
  cases callback with
  | bootstrap index declaration =>
    cases declaration with
    | exchange spec => exact Or.inr ⟨rfl, _, _, bootstrapExchanges_advanced _ _ _⟩
    | queue spec => exact Or.inr ⟨rfl, _, _, bootstrapQueues_advanced _ _ _⟩
    | binding spec => exact Or.inr ⟨rfl, _, _, bootstrapBindings_advanced _ _ _⟩
  | qos index spec =>
    refine Or.inr ⟨rfl, ?_⟩
    cases here : s.config.consumers[index]? with
    | none =>
      have unchanged : s.onSuccess (.qos index spec) tag answer = s := by
        simp only [onSuccess, startConsumer, here]
      exact ⟨[], 0, unchanged.symm ▸ .stuck⟩
    | some consumer => exact ⟨_, _, startConsumer_advanced answer here⟩
  | consume index spec => exact Or.inr ⟨rfl, _, _, .active (bootstrapConsumers_advanced _ _ _)⟩
  | declared declaration pending => exact Or.inl ⟨declaration, pending, rfl⟩

end State

end Driver

end ModuleContext.RabbitMqBus
