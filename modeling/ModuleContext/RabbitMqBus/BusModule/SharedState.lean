import ModuleContext.Misc.StringMap
import ModuleContext.RabbitMqBus.Types

/-!
# The shared state of the bus module

`RabbitMqBusSharedState` and what `MessageBusServiceProxy` does to its handlers. Handlers,
worker pools and drivers are objects behind pointers; they are known by their numbers.
-/

namespace ModuleContext.RabbitMqBus
open Foundation Misc

def makeInvalidState (message : String) : Error := ⟨.invalidState, message⟩

/-- `RabbitMqBusConfig()`. -/
def RabbitMqBusConfig.default : RabbitMqBusConfig :=
  { connection :=
      { uri := ""
        heartbeatSeconds := 30
        socketTimeoutMs := 100
        reconnect := { enabled := true, initialDelayMs := 1000, maxDelayMs := 30000 } }
    workerThreadCount := 4
    exchanges := [], queues := [], bindings := [], publishers := [], consumers := [] }

/-- A `foundation::concurrent::ThreadPool`. -/
structure WorkerPool where
  id : Nat
  threadCount : UInt64

/-- `RabbitMqBusSharedState`, all of whose fields are guarded by one mutex. -/
structure SharedState where
  config : Option RabbitMqBusConfig
  handlers : StringMap Nat
  workerPool : Option WorkerPool
  driver : Option Nat

/-- What the delivery callback copies under the lock, with the driver whose thread runs it and
the message that it is called with. -/
structure Snapshot where
  receiver : Nat
  incoming : IncomingMessage
  delivery : DeliveryContext
  handler : Option Nat
  driverRef : Option Nat
  workerPool : Option WorkerPool

namespace SharedState

def new : SharedState where
  config := some .default
  handlers := ∅
  workerPool := none
  driver := none

/-- `MessageBusServiceProxy::RegisterConsumerHandler`. An empty `std::function` is `none`. -/
def registerConsumerHandler (consumerName : String) (handler : Option Nat)
    (shared : SharedState) : Result Unit × SharedState :=
  match shared.config with
  | none => -- tested before the lock is taken; there always is a configuration
      (.error (makeInvalidState "RabbitMQ bus shared state is unavailable"), shared)
  | some config =>
      if consumerName.isEmpty then
        (.error (makeInvalidArgument "consumer_name must not be empty"), shared)
      else
        match handler with
        | none => (.error (makeInvalidArgument "MessageHandler must be valid"), shared)
        | some handler =>
            if config.consumers.any (·.name == consumerName) then
              (makeSuccess,
                { shared with handlers := shared.handlers.insert consumerName handler })
            else (.error ⟨.notFound, "Unknown consumer '" ++ consumerName ++ "'"⟩, shared)

/-- `MessageBusServiceProxy::UnregisterConsumerHandler`. -/
def unregisterConsumerHandler (consumerName : String) (shared : SharedState) :
    Result Unit × SharedState :=
  match shared.handlers.lookup consumerName with
  | none =>
      (.error ⟨.notFound, "Consumer handler '" ++ consumerName ++ "' is not registered"⟩, shared)
  | some _ => (makeSuccess, { shared with handlers := shared.handlers.erase consumerName })

/-- The locked section of the delivery callback. -/
def snapshot (receiver : Nat) (incoming : IncomingMessage) (delivery : DeliveryContext)
    (shared : SharedState) : Snapshot where
  receiver := receiver
  incoming := incoming
  delivery := delivery
  handler := shared.handlers.lookup incoming.consumerName
  driverRef := shared.driver
  workerPool := shared.workerPool

/-- The current configuration has a consumer of this name. -/
def Consumes (shared : SharedState) (name : String) : Prop :=
  ∃ config, shared.config = some config ∧ ∃ consumer ∈ config.consumers, consumer.name = name

/-- Every handler is registered for a consumer of the current configuration. -/
def HandlersKnown (shared : SharedState) : Prop :=
  ∀ name ∈ shared.handlers, shared.Consumes name

/-- Registering and unregistering only change the handlers. -/
inductive HandlersOnly (shared : SharedState) : SharedState → Prop where
  | intro (handlers : StringMap Nat) : HandlersOnly shared { shared with handlers }

/-- A handler is registered for a known consumer, or nothing changes. -/
theorem registerConsumerHandler_cases (consumerName : String) (handler : Option Nat)
    (shared : SharedState) :
    (shared.registerConsumerHandler consumerName handler).2 = shared ∨
      ∃ registered, handler = some registered ∧ shared.Consumes consumerName ∧
        (shared.registerConsumerHandler consumerName handler).2 =
          { shared with handlers := shared.handlers.insert consumerName registered } := by
  unfold registerConsumerHandler
  split
  · exact .inl rfl
  · rename_i config configured
    split
    · exact .inl rfl
    · split
      · exact .inl rfl
      · rename_i registered
        split
        · rename_i found
          rw [List.any_eq_true] at found
          obtain ⟨consumer, member, same⟩ := found
          exact .inr ⟨registered, rfl,
            ⟨config, configured, consumer, member, by simpa using same⟩, rfl⟩
        · exact .inl rfl

theorem unregisterConsumerHandler_cases (consumerName : String) (shared : SharedState) :
    (shared.unregisterConsumerHandler consumerName).2 = shared ∨
      (shared.unregisterConsumerHandler consumerName).2 =
        { shared with handlers := shared.handlers.erase consumerName } := by
  unfold unregisterConsumerHandler
  split
  · exact .inl rfl
  · exact .inr rfl

theorem handlersOnly_register (consumerName : String) (handler : Option Nat)
    (shared : SharedState) :
    HandlersOnly shared (shared.registerConsumerHandler consumerName handler).2 := by
  rcases shared.registerConsumerHandler_cases consumerName handler with
    same | ⟨registered, -, -, changed⟩
  · rw [same]
    exact .intro shared.handlers
  · rw [changed]
    exact .intro _

theorem handlersOnly_unregister (consumerName : String) (shared : SharedState) :
    HandlersOnly shared (shared.unregisterConsumerHandler consumerName).2 := by
  rcases shared.unregisterConsumerHandler_cases consumerName with same | changed
  · rw [same]
    exact .intro shared.handlers
  · rw [changed]
    exact .intro _

theorem HandlersKnown.register {shared : SharedState} (known : shared.HandlersKnown)
    (consumerName : String) (handler : Option Nat) :
    (shared.registerConsumerHandler consumerName handler).2.HandlersKnown := by
  rcases shared.registerConsumerHandler_cases consumerName handler with
    same | ⟨registered, -, consumes, changed⟩
  · rw [same]
    exact known
  · rw [changed]
    intro name member
    rcases (AList.mem_insert _).mp member with rfl | before
    · exact consumes
    · exact known name before

theorem HandlersKnown.unregister {shared : SharedState} (known : shared.HandlersKnown)
    (consumerName : String) : (shared.unregisterConsumerHandler consumerName).2.HandlersKnown := by
  rcases shared.unregisterConsumerHandler_cases consumerName with same | changed
  · rw [same]
    exact known
  · rw [changed]
    intro name member
    exact known name (AList.mem_erase.mp member).2

end SharedState

end ModuleContext.RabbitMqBus
