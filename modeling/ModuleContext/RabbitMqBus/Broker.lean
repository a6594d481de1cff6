import ModuleContext.Misc.DeclaredObjects
import ModuleContext.RabbitMqBus.OperationMeaning

/-!
# Topology replay against a broker

The broker as AMQP 0-9-1 describes it: a passive declare checks that the object exists, a
repeated declare must agree with the existing attributes, and two bindings are the same only
if exchange, queue, routing key and arguments are all equal. The driver replays its recorded
configuration after a reconnect; this file says exactly when that brings back everything the
broker had confirmed before.
-/

namespace ModuleContext.RabbitMqBus
open Foundation Misc

/-- A declare request for an exchange: the attributes do not include the passive flag. -/
def ExchangeSpec.toRequest (spec : ExchangeSpec) : Request ExchangeSpec :=
  { name := spec.name, passive := spec.passive, attributes := { spec with passive := false } }

def QueueSpec.toRequest (spec : QueueSpec) : Request QueueSpec :=
  { name := spec.name, passive := spec.passive, attributes := { spec with passive := false } }

/-- The topology that a broker holds. -/
structure Broker where
  exchanges : StringMap ExchangeSpec
  queues : StringMap QueueSpec
  bindings : List BindingSpec

namespace Broker

def bind (spec : BindingSpec) (broker : Broker) : Broker :=
  if spec ∈ broker.bindings then broker
  else { broker with bindings := spec :: broker.bindings }

/-- The broker after a declaration that it confirms, or `none` if it refuses it. -/
def confirm (broker : Broker) : Declaration → Option Broker
  | .exchange spec =>
      (Request.declare broker.exchanges spec.toRequest).map fun exchanges =>
        { broker with exchanges }
  | .queue spec =>
      (Request.declare broker.queues spec.toRequest).map fun queues => { broker with queues }
  | .binding spec =>
      if spec.exchange ∈ broker.exchanges ∧ spec.queue ∈ broker.queues then
        some (broker.bind spec)
      else none

/-- The answer depends on what the broker is sent: the AMQP operation. -/
theorem confirm_operation [AmqpFields] [LawfulAmqpFields] {first second : Declaration}
    (sorted : ConfigValue.KeysSorted (.object first.arguments))
    (sorted' : ConfigValue.KeysSorted (.object second.arguments))
    (same : first.operation = second.operation) (broker : Broker) :
    broker.confirm first = broker.confirm second := by
  rw [Declaration.eq_of_operation sorted sorted' same]

def confirmAll : Broker → List Declaration → Option Broker
  | broker, [] => some broker
  | broker, declaration :: declarations =>
      (broker.confirm declaration).bind (confirmAll · declarations)

@[simp] theorem exchanges_bind (spec : BindingSpec) (broker : Broker) :
    (broker.bind spec).exchanges = broker.exchanges := by
  unfold bind
  split <;> rfl

@[simp] theorem queues_bind (spec : BindingSpec) (broker : Broker) :
    (broker.bind spec).queues = broker.queues := by
  unfold bind
  split <;> rfl

@[simp] theorem mem_bindings_bind (spec other : BindingSpec) (broker : Broker) :
    other ∈ (broker.bind spec).bindings ↔ other = spec ∨ other ∈ broker.bindings := by
  unfold bind
  split
  · rename_i present
    constructor
    · exact Or.inr
    · rintro (rfl | member)
      · exact present
      · exact member
  · exact List.mem_cons

/-- What a confirmed sequence of declarations leaves on the broker. -/
structure Confirmed (initial after : Broker) (declarations : List Declaration) : Prop where
  exchanges : Request.declareAll initial.exchanges
    ((exchangesOf declarations).map ExchangeSpec.toRequest) = some after.exchanges
  queues : Request.declareAll initial.queues
    ((queuesOf declarations).map QueueSpec.toRequest) = some after.queues
  bindings : ∀ spec, spec ∈ after.bindings ↔
    spec ∈ initial.bindings ∨ spec ∈ bindingsOf declarations
  bound : ∀ spec ∈ bindingsOf declarations,
    spec.exchange ∈ after.exchanges ∧ spec.queue ∈ after.queues

theorem confirmAll_spec {initial after : Broker} {declarations : List Declaration}
    (confirmed : initial.confirmAll declarations = some after) :
    Confirmed initial after declarations := by
  induction declarations generalizing initial with
  | nil =>
    simp only [confirmAll, Option.some.injEq] at confirmed
    subst confirmed
    exact ⟨rfl, rfl, by simp [bindingsOf], by simp [bindingsOf]⟩
  | cons declaration declarations ih =>
    obtain ⟨middle, first, rest⟩ := Option.bind_eq_some_iff.mp confirmed
    obtain ⟨exchanges, queues, bindings, bound⟩ := ih rest
    cases declaration with
    | exchange spec =>
      obtain ⟨declared, accepted, rfl⟩ := Option.map_eq_some_iff.mp first
      exact ⟨Option.bind_eq_some_iff.mpr ⟨declared, accepted, exchanges⟩, queues, bindings, bound⟩
    | queue spec =>
      obtain ⟨declared, accepted, rfl⟩ := Option.map_eq_some_iff.mp first
      exact ⟨exchanges, Option.bind_eq_some_iff.mpr ⟨declared, accepted, queues⟩, bindings, bound⟩
    | binding spec =>
      simp only [confirm, Option.ite_none_right_eq_some, Option.some.injEq] at first
      obtain ⟨exist, rfl⟩ := first
      rw [exchanges_bind] at exchanges
      rw [queues_bind] at queues
      refine ⟨exchanges, queues, ?_, ?_⟩
      · intro other
        have split : bindingsOf (.binding spec :: declarations) =
            spec :: bindingsOf declarations := rfl
        rw [bindings, mem_bindings_bind, split, List.mem_cons]
        tauto
      · intro other member
        rcases List.mem_cons.mp member with rfl | member
        · obtain ⟨exchangeHeld, exchangeFound⟩ := StringMap.mem_iff_lookup.mp exist.1
          obtain ⟨queueHeld, queueFound⟩ := StringMap.mem_iff_lookup.mp exist.2
          exact ⟨StringMap.mem_iff_lookup.mpr
              ⟨_, (Request.declareAll_spec exchanges).kept _ _ exchangeFound⟩,
            StringMap.mem_iff_lookup.mpr
              ⟨_, (Request.declareAll_spec queues).kept _ _ queueFound⟩⟩
        · exact bound other member

/-! Exchanges, queues and bindings that come in this order are confirmed in three phases. -/

theorem confirmAll_exchanges (specs : List ExchangeSpec) (rest : List Declaration)
    (broker : Broker) :
    broker.confirmAll (specs.map .exchange ++ rest) =
      (Request.declareAll broker.exchanges (specs.map ExchangeSpec.toRequest)).bind
        fun exchanges => confirmAll { broker with exchanges } rest := by
  induction specs generalizing broker with
  | nil => rfl
  | cons spec specs ih =>
    simp only [List.map_cons, List.cons_append, confirmAll, confirm, Request.declareAll]
    cases Request.declare broker.exchanges spec.toRequest with
    | none => rfl
    | some exchanges => exact ih { broker with exchanges }

theorem confirmAll_queues (specs : List QueueSpec) (rest : List Declaration)
    (broker : Broker) :
    broker.confirmAll (specs.map .queue ++ rest) =
      (Request.declareAll broker.queues (specs.map QueueSpec.toRequest)).bind
        fun queues => confirmAll { broker with queues } rest := by
  induction specs generalizing broker with
  | nil => rfl
  | cons spec specs ih =>
    simp only [List.map_cons, List.cons_append, confirmAll, confirm, Request.declareAll]
    cases Request.declare broker.queues spec.toRequest with
    | none => rfl
    | some queues => exact ih { broker with queues }

theorem confirmAll_bindings {specs : List BindingSpec} {broker : Broker}
    (exist : ∀ spec ∈ specs, spec.exchange ∈ broker.exchanges ∧ spec.queue ∈ broker.queues) :
    ∃ after, broker.confirmAll (specs.map .binding) = some after := by
  induction specs generalizing broker with
  | nil => exact ⟨broker, rfl⟩
  | cons spec specs ih =>
    obtain ⟨after, rest⟩ := @ih (broker.bind spec) (fun other member => by
      rw [exchanges_bind, queues_bind]
      exact exist other (List.mem_cons_of_mem _ member))
    refine ⟨after, Option.bind_eq_some_iff.mpr ⟨broker.bind spec, ?_, rest⟩⟩
    simp only [confirm, if_pos (exist spec List.mem_cons_self)]

/-- Everything that `before` holds is held by `after` as well. -/
structure Within (before after : Broker) : Prop where
  exchanges : ∀ name attributes, before.exchanges.lookup name = some attributes →
    after.exchanges.lookup name = some attributes
  queues : ∀ name attributes, before.queues.lookup name = some attributes →
    after.queues.lookup name = some attributes
  bindings : ∀ spec ∈ before.bindings, spec ∈ after.bindings

/-- Replaying the recorded configuration on what is left of the broker succeeds and recreates
everything the broker held before. -/
def Recovers (left before : Broker) (config : RabbitMqBusConfig) : Prop :=
  ∃ after, left.confirmAll (bootstrapDeclarations config) = some after ∧ Within before after

/-- Nothing is lost by keeping only the latest declaration of each name and of each exchange,
queue and routing key: a name whose latest declaration is passive exists anyway, and so does a
binding that a later one with other arguments has displaced. -/
structure ReplaySafe (left : Broker) (declarations : List Declaration) : Prop where
  exchanges : ∀ spec, Latest (·.name) (exchangesOf declarations) spec → spec.passive = true →
    spec.name ∈ left.exchanges
  queues : ∀ spec, Latest (·.name) (queuesOf declarations) spec → spec.passive = true →
    spec.name ∈ left.queues
  bindings : ∀ spec ∈ bindingsOf declarations,
    spec ∈ left.bindings ∨ Latest (·.identity) (bindingsOf declarations) spec

end Broker

/-- The configuration recorded after a bootstrap and a sequence of calls holds the latest
declarations of the two together. -/
theorem recordAll_latest {config : RabbitMqBusConfig} (distinct : config.Distinct)
    (calls : List Declaration) :
    let declarations := bootstrapDeclarations config ++ calls
    (recordAll config calls).exchanges.map ExchangeSpec.toRequest =
      upsertAll Request.sameName [] ((exchangesOf declarations).map ExchangeSpec.toRequest) ∧
    (recordAll config calls).queues.map QueueSpec.toRequest =
      upsertAll Request.sameName [] ((queuesOf declarations).map QueueSpec.toRequest) ∧
    (recordAll config calls).bindings =
      upsertAll isSameBinding [] (bindingsOf declarations) := by
  intro declarations
  rw [recordAll_eq]
  dsimp only
  refine ⟨?_, ?_, ?_⟩
  · have mapped : (upsertAll (fun item spec => item.name == spec.name) config.exchanges
        (exchangesOf calls)).map ExchangeSpec.toRequest =
        upsertAll Request.sameName (config.exchanges.map ExchangeSpec.toRequest)
          ((exchangesOf calls).map ExchangeSpec.toRequest) :=
      map_upsertAll _ Request.sameName ExchangeSpec.toRequest (fun _ _ => rfl) _ _
    rw [mapped, exchangesOf_append, exchangesOf_bootstrap, List.map_append, upsertAll_append,
      upsertAll_of_nodup Request.sameName_agrees]
    rw [List.map_map]
    exact distinct.exchanges
  · have mapped : (upsertAll (fun item spec => item.name == spec.name) config.queues
        (queuesOf calls)).map QueueSpec.toRequest =
        upsertAll Request.sameName (config.queues.map QueueSpec.toRequest)
          ((queuesOf calls).map QueueSpec.toRequest) :=
      map_upsertAll _ Request.sameName QueueSpec.toRequest (fun _ _ => rfl) _ _
    rw [mapped, queuesOf_append, queuesOf_bootstrap, List.map_append, upsertAll_append,
      upsertAll_of_nodup Request.sameName_agrees]
    rw [List.map_map]
    exact distinct.queues
  · rw [bindingsOf_append, bindingsOf_bootstrap, upsertAll_append,
      upsertAll_of_nodup isSameBinding_iff (nodup_identity distinct.bindings)]

namespace Broker

/-- A latest declaration is the latest request of its name, and conversely. -/
theorem latest_request {α : Type} {β : Type} [DecidableEq β] {toRequest : α → Request β}
    (name : α → String) (named : ∀ spec, (toRequest spec).name = name spec)
    {specs : List α} {left : StringMap β} :
    (∀ request, Latest (·.name) (specs.map toRequest) request → request.passive = true →
      request.name ∈ left) ↔
    ∀ spec, Latest name specs spec → (toRequest spec).passive = true → name spec ∈ left := by
  constructor
  · rintro safe spec ⟨front, back, rfl, unmatched⟩ isPassive
    rw [← named]
    refine safe (toRequest spec) ⟨front.map toRequest, back.map toRequest, by simp, ?_⟩ isPassive
    intro later member
    obtain ⟨other, otherMember, rfl⟩ := List.mem_map.mp member
    dsimp only
    rw [named, named]
    exact unmatched other otherMember
  · rintro safe request ⟨front, back, split, unmatched⟩ isPassive
    obtain ⟨frontSpecs, rest, rfl, rfl, restEq⟩ := List.map_eq_append_iff.mp split
    obtain ⟨spec, backSpecs, rfl, rfl, rfl⟩ := List.map_eq_cons_iff.mp restEq
    rw [named]
    refine safe spec ⟨frontSpecs, backSpecs, rfl, ?_⟩ isPassive
    intro later member
    rw [← named, ← named]
    exact unmatched _ (List.mem_map_of_mem member)

/-- A bootstrap is confirmed when its exchanges and its queues are, and what it binds exists by
then. -/
theorem confirmAll_bootstrap {left : Broker} {config : RabbitMqBusConfig}
    {exchanges : StringMap ExchangeSpec} {queues : StringMap QueueSpec}
    (exchangesDone : Request.declareAll left.exchanges
      (config.exchanges.map ExchangeSpec.toRequest) = some exchanges)
    (queuesDone : Request.declareAll left.queues
      (config.queues.map QueueSpec.toRequest) = some queues)
    (exist : ∀ spec ∈ config.bindings, spec.exchange ∈ exchanges ∧ spec.queue ∈ queues) :
    ∃ after, left.confirmAll (bootstrapDeclarations config) = some after ∧
      after.exchanges = exchanges ∧ after.queues = queues ∧
      ∀ spec, spec ∈ after.bindings ↔ spec ∈ left.bindings ∨ spec ∈ config.bindings := by
  obtain ⟨after, bindingsDone⟩ :=
    @confirmAll_bindings config.bindings { left with exchanges, queues } exist
  have confirmed : left.confirmAll (bootstrapDeclarations config) = some after := by
    rw [bootstrapDeclarations, List.append_assoc, confirmAll_exchanges, exchangesDone,
      Option.bind_some, confirmAll_queues]
    change (Request.declareAll left.queues _).bind _ = some after
    rw [queuesDone, Option.bind_some]
    exact bindingsDone
  obtain ⟨sameExchanges, sameQueues, bindings, -⟩ := confirmAll_spec confirmed
  rw [exchangesOf_bootstrap, exchangesDone, Option.some.injEq] at sameExchanges
  rw [queuesOf_bootstrap, queuesDone, Option.some.injEq] at sameQueues
  rw [bindingsOf_bootstrap] at bindings
  exact ⟨after, confirmed, sameExchanges.symm, sameQueues.symm, bindings⟩

/-- Topology replay. For an accepted configuration whose bootstrap the broker confirmed and
any further confirmed declarations, replaying the recorded configuration on a broker that has
lost everything these had created recovers all of it exactly if the latest declarations lose
nothing. -/
theorem replay_recovers_iff {configValue : ConfigValue} {config : RabbitMqBusConfig}
    (accepted : parseBusConfig configValue = some (.ok config)) {left before : Broker}
    {calls : List Declaration}
    (confirmed : left.confirmAll (bootstrapDeclarations config ++ calls) = some before) :
    Recovers left before (recordAll config calls) ↔
      ReplaySafe left (bootstrapDeclarations config ++ calls) := by
  obtain ⟨exchangesDone, queuesDone, bindingsDone, bound⟩ := confirmAll_spec confirmed
  obtain ⟨exchangesEq, queuesEq, bindingsEq⟩ :=
    recordAll_latest (parseBusConfig_distinct accepted) calls
  have exchangesReplay := Request.replay_latest exchangesDone
  have queuesReplay := Request.replay_latest queuesDone
  rw [← exchangesEq, latest_request ExchangeSpec.name (fun _ => rfl)] at exchangesReplay
  rw [← queuesEq, latest_request QueueSpec.name (fun _ => rfl)] at queuesReplay
  have recorded : ∀ spec, spec ∈ (recordAll config calls).bindings ↔
      Latest (·.identity) (bindingsOf (bootstrapDeclarations config ++ calls)) spec := by
    intro spec
    rw [bindingsEq, mem_upsertAll isSameBinding_iff]
  constructor
  · rintro ⟨after, replayed, recovered⟩
    obtain ⟨exchangesAgain, queuesAgain, bindingsAgain, -⟩ := confirmAll_spec replayed
    rw [exchangesOf_bootstrap] at exchangesAgain
    rw [queuesOf_bootstrap] at queuesAgain
    refine ⟨exchangesReplay.mp ⟨_, exchangesAgain⟩, queuesReplay.mp ⟨_, queuesAgain⟩, ?_⟩
    intro spec member
    have held := recovered.bindings spec ((bindingsDone spec).mpr (Or.inr member))
    rw [bindingsAgain, bindingsOf_bootstrap, recorded] at held
    exact held
  · intro safe
    obtain ⟨exchanges, exchangesAgain⟩ := exchangesReplay.mpr safe.exchanges
    obtain ⟨queues, queuesAgain⟩ := queuesReplay.mpr safe.queues
    have exchangesKept : ∀ name attributes, before.exchanges.lookup name = some attributes →
        exchanges.lookup name = some attributes := by
      intro name attributes found
      exact Request.replay_recreates exchangesDone (exchangesEq ▸ exchangesAgain) found
    have queuesKept : ∀ name attributes, before.queues.lookup name = some attributes →
        queues.lookup name = some attributes := by
      intro name attributes found
      exact Request.replay_recreates queuesDone (queuesEq ▸ queuesAgain) found
    have exist : ∀ spec ∈ (recordAll config calls).bindings,
        spec.exchange ∈ exchanges ∧ spec.queue ∈ queues := by
      intro spec member
      obtain ⟨exchangeExists, queueExists⟩ := bound spec ((recorded spec).mp member).mem
      obtain ⟨exchangeHeld, exchangeFound⟩ := StringMap.mem_iff_lookup.mp exchangeExists
      obtain ⟨queueHeld, queueFound⟩ := StringMap.mem_iff_lookup.mp queueExists
      exact ⟨StringMap.mem_iff_lookup.mpr ⟨_, exchangesKept _ _ exchangeFound⟩,
        StringMap.mem_iff_lookup.mpr ⟨_, queuesKept _ _ queueFound⟩⟩
    obtain ⟨after, replayed, rfl, rfl, bindingsAgain⟩ :=
      confirmAll_bootstrap exchangesAgain queuesAgain exist
    refine ⟨after, replayed, exchangesKept, queuesKept, ?_⟩
    intro spec member
    rw [bindingsAgain, recorded]
    rcases (bindingsDone spec).mp member with old | declared
    · exact Or.inl old
    · exact safe.bindings spec declared

/-- A configuration with the exchange `orders` and the queue `inbox`. -/
def ordersConfigValue : ConfigValue :=
  .object [("connection", .object [("uri", .string "amqp://localhost/")]),
    ("topology", .object [("exchanges", .array [.object [("name", .string "orders")]]),
      ("queues", .array [.object [("name", .string "inbox")]])])]

def ordersExchange : ExchangeSpec := ⟨"orders", .direct, true, false, false, false, []⟩

def durableQueue (name : String) : QueueSpec := ⟨name, true, false, false, false, []⟩

def ordersConfig : RabbitMqBusConfig :=
  { connection := ⟨"amqp://localhost/", 30, 100, ⟨true, 1000, 30000⟩⟩
    workerThreadCount := 4
    exchanges := [ordersExchange]
    queues := [durableQueue "inbox"]
    bindings := []
    publishers := []
    consumers := [] }

theorem parse_orders : parseBusConfig ordersConfigValue = some (.ok ordersConfig) := rfl

def emptyBroker : Broker := ⟨∅, ∅, []⟩

/-- Declaring one more queue at run time leaves nothing to lose. -/
theorem replaySafe_audit_queue :
    ReplaySafe emptyBroker
      (bootstrapDeclarations ordersConfig ++ [.queue (durableQueue "audit")]) := by
  have confirmed : ∃ before, emptyBroker.confirmAll
      (bootstrapDeclarations ordersConfig ++ [.queue (durableQueue "audit")]) = some before ∧
      emptyBroker.confirmAll (bootstrapDeclarations
        (recordAll ordersConfig [.queue (durableQueue "audit")])) = some before := ⟨_, rfl, rfl⟩
  obtain ⟨before, done, replayed⟩ := confirmed
  exact (replay_recovers_iff parse_orders done).mp
    ⟨before, replayed, fun _ _ found => found, fun _ _ found => found, fun _ member => member⟩

/-- A passive declare of an exchange that the configuration had created is confirmed, and
from then on the replay only asks for the exchange and never creates it again. -/
theorem passive_redeclare_not_recovered :
    ¬ ∀ (configValue : ConfigValue) (config : RabbitMqBusConfig) (left before : Broker)
      (calls : List Declaration), parseBusConfig configValue = some (.ok config) →
      left.confirmAll (bootstrapDeclarations config ++ calls) = some before →
      Recovers left before (recordAll config calls) := by
  intro recovers
  obtain ⟨after, replayed, -⟩ := recovers ordersConfigValue ordersConfig emptyBroker _
    [.exchange { ordersExchange with passive := true }] parse_orders rfl
  have refused : emptyBroker.confirmAll (bootstrapDeclarations
      (recordAll ordersConfig [.exchange { ordersExchange with passive := true }])) = none := rfl
  rw [refused] at replayed
  cases replayed

end Broker

end ModuleContext.RabbitMqBus
