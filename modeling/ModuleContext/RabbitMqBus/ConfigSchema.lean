import ModuleContext.Misc.Elementwise
import ModuleContext.RabbitMqBus.ConfigElements

/-!
# The schema of the bus configuration

Which configuration values `ParseBusConfig` accepts, stated on the value alone, and what the
five collections of the result hold.
-/

namespace ModuleContext.RabbitMqBus
open Foundation Misc

/-! The sections of a configuration. -/

def connectionSection (root : ConfigValue) : ConfigValue := root.fieldOr "connection" .null

def reconnectSection (root : ConfigValue) : ConfigValue :=
  (connectionSection root).fieldOr "reconnect" (.object [])

def workerPoolSection (root : ConfigValue) : ConfigValue := root.fieldOr "worker_pool" (.object [])

def topologySection (root : ConfigValue) : ConfigValue := root.fieldOr "topology" (.object [])

def exchangesSection (root : ConfigValue) : ConfigValue :=
  (topologySection root).fieldOr "exchanges" (.array [])

def queuesSection (root : ConfigValue) : ConfigValue :=
  (topologySection root).fieldOr "queues" (.array [])

def bindingsSection (root : ConfigValue) : ConfigValue :=
  (topologySection root).fieldOr "bindings" (.array [])

def publishersSection (root : ConfigValue) : ConfigValue := root.fieldOr "publishers" (.array [])

def consumersSection (root : ConfigValue) : ConfigValue := root.fieldOr "consumers" (.array [])

/-- The single values of a configuration, as they are given or defaulted. -/
structure BusSettings where
  uri : String
  heartbeatSeconds : Int64
  socketTimeoutMs : Int64
  enabled : Bool
  initialDelayMs : Int64
  maxDelayMs : Int64
  threadCount : Int64

/-- The sections are objects and hold these values, which lie in the documented ranges. -/
structure BusSettings.GivenBy (given : BusSettings) (root : ConfigValue) : Prop where
  object : root.isObject = true
  connection : (connectionSection root).isObject = true
  uri : (connectionSection root).fieldOr "uri" .null = .string given.uri
  uriNonempty : given.uri ≠ ""
  heartbeat : (connectionSection root).fieldOr "heartbeat_seconds" (.int64 30) =
    .int64 given.heartbeatSeconds
  heartbeatRange : 0 ≤ given.heartbeatSeconds ∧ given.heartbeatSeconds ≤ 65535
  socketTimeout : (connectionSection root).fieldOr "socket_timeout_ms" (.int64 100) =
    .int64 given.socketTimeoutMs
  socketTimeoutRange : 10 ≤ given.socketTimeoutMs
  reconnect : (reconnectSection root).isObject = true
  enabled : (reconnectSection root).fieldOr "enabled" (.bool true) = .bool given.enabled
  initialDelay : (reconnectSection root).fieldOr "initial_delay_ms" (.int64 1000) =
    .int64 given.initialDelayMs
  maxDelay : (reconnectSection root).fieldOr "max_delay_ms" (.int64 30000) = .int64 given.maxDelayMs
  delayRange : 0 ≤ given.initialDelayMs ∧ given.initialDelayMs ≤ given.maxDelayMs
  workerPool : (workerPoolSection root).isObject = true
  threadCount :
    (workerPoolSection root).fieldOr "thread_count" (.int64 4) = .int64 given.threadCount
  threadCountRange : 0 < given.threadCount
  topology : (topologySection root).isObject = true

/-- The connection settings that are stored for given values. -/
def BusSettings.connection (given : BusSettings) : ConnectionConfig :=
  { uri := given.uri
    heartbeatSeconds := given.heartbeatSeconds.toUInt64.toUInt16
    socketTimeoutMs := given.socketTimeoutMs.toInt32
    reconnect :=
      { enabled := given.enabled
        initialDelayMs := given.initialDelayMs.toInt32
        maxDelayMs := given.maxDelayMs.toInt32 } }

/-- The five collections of the result hold what the arrays describe: one specification for each
element, in order, with every field as it is given or defaulted. -/
structure RabbitMqBusConfig.CollectedFrom (config : RabbitMqBusConfig) (root : ConfigValue) :
    Prop where
  exchanges : ∃ items, exchangesSection root = .array items ∧
    List.Forall₂ (fun value spec => ExchangeSpec.DescribedBy spec value) items config.exchanges
  queues : ∃ items, queuesSection root = .array items ∧
    List.Forall₂ (fun value spec => QueueSpec.DescribedBy spec value) items config.queues
  bindings : ∃ items, bindingsSection root = .array items ∧
    List.Forall₂ (fun value spec => BindingSpec.DescribedBy spec value) items config.bindings
  publishers : ∃ items, publishersSection root = .array items ∧
    List.Forall₂ (fun value spec => PublisherSpec.DescribedBy spec value) items config.publishers
  consumers : ∃ items, consumersSection root = .array items ∧
    List.Forall₂ (fun value spec => ConsumerSpec.DescribedBy spec value) items config.consumers

/-- Bindings, publishers and consumers name configured exchanges and queues. -/
structure RabbitMqBusConfig.Linked (config : RabbitMqBusConfig) : Prop where
  bindingExchange : ∀ binding ∈ config.bindings, binding.exchange ∈ config.exchanges.map (·.name)
  bindingQueue : ∀ binding ∈ config.bindings, binding.queue ∈ config.queues.map (·.name)
  publisherExchange : ∀ publisher ∈ config.publishers,
    publisher.exchange ∈ config.exchanges.map (·.name)
  consumerQueue : ∀ consumer ∈ config.consumers, consumer.queue ∈ config.queues.map (·.name)

theorem unknownReference_none {config : RabbitMqBusConfig} :
    unknownReference config = none ↔ config.Linked := by
  have both : ∀ (a b : Bool) (e f : Error),
      (if a = false then some e else if b = false then some f else none) = none ↔
        a = true ∧ b = true := by
    intro a b e f
    cases a <;> cases b <;> simp
  simp only [unknownReference, Option.or_eq_none_iff, List.findSome?_eq_none_iff,
    Bool.not_eq_true', both, ite_eq_right_iff, reduceCtorEq, imp_false, Bool.not_eq_false,
    List.contains_iff_mem]
  constructor
  · rintro ⟨bindings, publishers, consumers⟩
    exact ⟨fun binding member => (bindings binding member).1,
      fun binding member => (bindings binding member).2, publishers, consumers⟩
  · intro linked
    exact ⟨fun binding member => ⟨linked.bindingExchange binding member,
      linked.bindingQueue binding member⟩, linked.publisherExchange, linked.consumerQueue⟩

/-- The loop over one array, once its parser is known. -/
theorem parseUniqueArray_described {α : Type} {collectionName : String}
    {parser : ConfigValue → Result α} {keyExtractor : α → String}
    (DescribedBy : α → ConfigValue → Prop)
    (parses : ∀ value spec, value.isObject = true ∧ parser value = .ok spec ↔
      DescribedBy spec value) {values : List ConfigValue} {output : List α} :
    parseUniqueArray values collectionName parser keyExtractor = .ok output ↔
      List.Forall₂ (fun value spec => DescribedBy spec value) values output ∧
        (output.map keyExtractor).Nodup := by
  rw [parseUniqueArray_ok, related_congr parses]

theorem parseCollections_ok {connection : ConnectionConfig} {workerThreadCount : UInt64}
    {exchanges queues bindings publishers consumers : List ConfigValue}
    {config : RabbitMqBusConfig} :
    parseCollections connection workerThreadCount exchanges queues bindings publishers
      consumers = .ok config ↔
    config.connection = connection ∧ config.workerThreadCount = workerThreadCount ∧
      config.Distinct ∧
      List.Forall₂ (fun value spec => ExchangeSpec.DescribedBy spec value) exchanges
        config.exchanges ∧
      List.Forall₂ (fun value spec => QueueSpec.DescribedBy spec value) queues config.queues ∧
      List.Forall₂ (fun value spec => BindingSpec.DescribedBy spec value) bindings
        config.bindings ∧
      List.Forall₂ (fun value spec => PublisherSpec.DescribedBy spec value) publishers
        config.publishers ∧
      List.Forall₂ (fun value spec => ConsumerSpec.DescribedBy spec value) consumers
        config.consumers := by
  simp only [parseCollections, bind_eq_ok, return_eq_ok,
    parseUniqueArray_described ExchangeSpec.DescribedBy (fun value spec =>
      ⟨fun parsed => parseExchangeSpec_ok.mp parsed.2,
        fun described => ⟨described.object, parseExchangeSpec_ok.mpr described⟩⟩),
    parseUniqueArray_described QueueSpec.DescribedBy (fun value spec =>
      ⟨fun parsed => parseQueueSpec_ok.mp parsed.2,
        fun described => ⟨described.object, parseQueueSpec_ok.mpr described⟩⟩),
    parseUniqueArray_described BindingSpec.DescribedBy (fun value spec =>
      ⟨fun parsed => parseBindingSpec_ok.mp parsed.2,
        fun described => ⟨described.object, parseBindingSpec_ok.mpr described⟩⟩),
    parseUniqueArray_described PublisherSpec.DescribedBy (fun value spec =>
      ⟨fun parsed => parsePublisherSpec_ok.mp parsed.2,
        fun described => ⟨described.object, parsePublisherSpec_ok.mpr described⟩⟩),
    parseUniqueArray_described ConsumerSpec.DescribedBy (fun value spec =>
      ⟨fun parsed => parseConsumerSpec_ok.mp parsed.2,
        fun described => ⟨described.object, parseConsumerSpec_ok.mpr described⟩⟩)]
  constructor
  · rintro ⟨exchangeSpecs, exchanged, queueSpecs, queued, bindingSpecs, bound, publisherSpecs,
      published, consumerSpecs, consumed, rfl⟩
    exact ⟨rfl, rfl, ⟨exchanged.2, queued.2, bound.2, published.2, consumed.2⟩, exchanged.1,
      queued.1, bound.1, published.1, consumed.1⟩
  · rintro ⟨rfl, rfl, distinct, exchanged, queued, bound, published, consumed⟩
    exact ⟨_, ⟨exchanged, distinct.exchanges⟩, _, ⟨queued, distinct.queues⟩, _,
      ⟨bound, distinct.bindings⟩, _, ⟨published, distinct.publishers⟩, _,
      ⟨consumed, distinct.consumers⟩, rfl⟩

/-- `config` is what a parse of `root` yields: the stored form of the given values, and the
collections, which are distinct and linked. -/
structure RabbitMqBusConfig.ParsedFrom (config : RabbitMqBusConfig) (root : ConfigValue) : Prop
    where
  settings : ∃ given : BusSettings, given.GivenBy root ∧ config.connection = given.connection ∧
    config.workerThreadCount = given.threadCount.toUInt64
  collections : config.CollectedFrom root
  distinct : config.Distinct
  linked : config.Linked

theorem parseBusConfig_sound {root : ConfigValue} {config : RabbitMqBusConfig}
    (accepted : parseBusConfig root = some (.ok config)) : config.ParsedFrom root := by
  unfold parseBusConfig at accepted
  split at accepted
  case isFalse => cases accepted
  rename_i object
  split at accepted
  case h_1 => cases accepted
  rename_i connection connectionRead
  dsimp only at accepted
  split at accepted
  case h_1 => cases accepted
  rename_i uri heartbeat socketTimeout reconnect fieldsRead
  unfold parseBusSections at accepted
  split at accepted
  case h_1 => cases accepted
  rename_i workerPool workerPoolRead
  rw [Option.some.injEq] at accepted
  dsimp only at accepted
  split at accepted
  case h_1 => cases accepted
  rename_i enabled initial max threadCount topology timingRead
  split at accepted
  case isTrue => cases accepted
  rename_i heartbeatInside
  split at accepted
  case isTrue => cases accepted
  rename_i timingInside
  split at accepted
  case h_1 => cases accepted
  rename_i exchanges queues bindings publishers consumers arraysRead
  split at accepted
  case h_1 => cases accepted
  rename_i other parsed
  split at accepted
  case h_1 => cases accepted
  rename_i linked
  cases accepted
  rw [getRequiredObjectField_ok] at connectionRead
  obtain ⟨rfl, connectionObject⟩ := connectionRead
  rw [getOptionalObjectField_ok] at workerPoolRead
  obtain ⟨rfl, workerPoolObject⟩ := workerPoolRead
  simp only [orInvalid_ok, bind_eq_ok, getRequiredStringField_ok, getOptionalInt64Field_ok,
    getOptionalBoolField_ok, getOptionalObjectField_ok, getOptionalArrayField_ok, return_eq_ok,
    Prod.mk.injEq] at fieldsRead timingRead arraysRead
  obtain ⟨uri, uriIs, heartbeat, heartbeatIs, socketTimeout, socketTimeoutIs, _,
    ⟨rfl, reconnectObject⟩, rfl, rfl, rfl, rfl⟩ := fieldsRead
  obtain ⟨enabled, enabledIs, initial, initialIs, max, maxIs, threadCount, threadCountIs, _,
    ⟨rfl, topologyObject⟩, rfl, rfl, rfl, rfl, rfl⟩ := timingRead
  obtain ⟨_, exchangesAre, _, queuesAre, _, bindingsAre, _, publishersAre, _, consumersAre,
    rfl, rfl, rfl, rfl, rfl⟩ := arraysRead
  simp only [Bool.or_eq_true, decide_eq_true_eq, not_or, Int64.not_lt, Int64.not_le]
    at heartbeatInside timingInside
  obtain ⟨sameConnection, sameThreads, distinct, exchanged, queued, bound, published,
    consumed⟩ := parseCollections_ok.mp parsed
  refine ⟨⟨⟨uri, heartbeat, socketTimeout, enabled, initial, max, threadCount⟩, ?_,
    sameConnection, sameThreads⟩, ⟨⟨_, exchangesAre, exchanged⟩, ⟨_, queuesAre, queued⟩,
    ⟨_, bindingsAre, bound⟩, ⟨_, publishersAre, published⟩, ⟨_, consumersAre, consumed⟩⟩,
    distinct, unknownReference_none.mp linked⟩
  exact ⟨object, connectionObject, uriIs.1, uriIs.2, heartbeatIs, heartbeatInside,
    socketTimeoutIs, timingInside.1.1.1, reconnectObject, enabledIs, initialIs, maxIs,
    ⟨timingInside.1.1.2, timingInside.1.2⟩, workerPoolObject, threadCountIs, timingInside.2,
    topologyObject⟩

theorem parseBusConfig_complete {root : ConfigValue} {config : RabbitMqBusConfig}
    (described : config.ParsedFrom root) : parseBusConfig root = some (.ok config) := by
  obtain ⟨⟨given, g, sameConnection, sameThreads⟩, ⟨⟨exchanges, exchangesAre, exchanged⟩,
    ⟨queues, queuesAre, queued⟩, ⟨bindings, bindingsAre, bound⟩,
    ⟨publishers, publishersAre, published⟩, ⟨consumers, consumersAre, consumed⟩⟩, distinct,
    linked⟩ := described
  have connectionRead : getRequiredObjectField root "connection" =
      .ok (connectionSection root) := getRequiredObjectField_ok.mpr ⟨rfl, g.connection⟩
  have reconnectRead : getOptionalObjectField (connectionSection root) "reconnect" =
      .ok (reconnectSection root) := getOptionalObjectField_ok.mpr ⟨rfl, g.reconnect⟩
  have workerPoolRead : getOptionalObjectField root "worker_pool" =
      .ok (workerPoolSection root) := getOptionalObjectField_ok.mpr ⟨rfl, g.workerPool⟩
  have topologyRead : getOptionalObjectField root "topology" =
      .ok (topologySection root) := getOptionalObjectField_ok.mpr ⟨rfl, g.topology⟩
  have uriRead := getRequiredStringField_ok.mpr ⟨g.uri, g.uriNonempty⟩
  have heartbeatRead := getOptionalInt64Field_ok.mpr g.heartbeat
  have socketTimeoutRead := getOptionalInt64Field_ok.mpr g.socketTimeout
  have enabledRead := getOptionalBoolField_ok.mpr g.enabled
  have initialRead := getOptionalInt64Field_ok.mpr g.initialDelay
  have maxRead := getOptionalInt64Field_ok.mpr g.maxDelay
  have threadCountRead := getOptionalInt64Field_ok.mpr g.threadCount
  have exchangesRead := getOptionalArrayField_ok.mpr exchangesAre
  have queuesRead := getOptionalArrayField_ok.mpr queuesAre
  have bindingsRead := getOptionalArrayField_ok.mpr bindingsAre
  have publishersRead := getOptionalArrayField_ok.mpr publishersAre
  have consumersRead := getOptionalArrayField_ok.mpr consumersAre
  have heartbeatInside :
      (given.heartbeatSeconds < 0 || given.heartbeatSeconds > 65535) = false := by
    simpa [Int64.not_lt] using g.heartbeatRange
  have timingInside : (given.socketTimeoutMs < 10 || given.initialDelayMs < 0 ||
      given.maxDelayMs < given.initialDelayMs || given.threadCount ≤ 0) = false := by
    simpa [Int64.not_lt, Int64.not_le, and_assoc] using
      ⟨g.socketTimeoutRange, g.delayRange.1, g.delayRange.2, g.threadCountRange⟩
  have parsed := parseCollections_ok.mpr
    ⟨sameConnection, sameThreads, distinct, exchanged, queued, bound, published, consumed⟩
  simp only [parseBusConfig, g.object, if_true, connectionRead, uriRead, heartbeatRead,
    socketTimeoutRead, reconnectRead, ok_bind, pure_eq_ok, orInvalid_of_ok, parseBusSections,
    workerPoolRead, enabledRead, initialRead, maxRead, threadCountRead, topologyRead,
    heartbeatInside, timingInside, Bool.false_eq_true, if_false, exchangesRead, queuesRead,
    bindingsRead, publishersRead, consumersRead]
  rw [BusSettings.connection] at parsed
  rw [parsed]
  simp only [unknownReference_none.mpr linked]

/-! The same on the value alone. -/

/-- The text that an array element gives under a key; without the key it is empty. -/
def textAt (key : String) (value : ConfigValue) : String := (value.fieldOr key .null).text

/-- `exchange|queue|routing_key` of an array element. -/
def bindingKeyAt (value : ConfigValue) : String :=
  textAt "exchange" value ++ "|" ++ textAt "queue" value ++ "|" ++ textAt "routing_key" value

/-- An array of elements that are each valid for their kind, under pairwise distinct keys. -/
structure ValidCollection {α : Type} (DescribedBy : α → ConfigValue → Prop)
    (key : ConfigValue → String) (array : ConfigValue) : Prop where
  isArray : ∃ items, array = .array items
  elements : ∀ value ∈ array.items, ∃ spec, DescribedBy spec value
  distinct : (array.items.map key).Nodup

/-- The documented configurations. -/
structure ValidBusConfig (root : ConfigValue) : Prop where
  settings : ∃ given : BusSettings, given.GivenBy root
  exchanges : ValidCollection ExchangeSpec.DescribedBy (textAt "name") (exchangesSection root)
  queues : ValidCollection QueueSpec.DescribedBy (textAt "name") (queuesSection root)
  bindings : ValidCollection BindingSpec.DescribedBy bindingKeyAt (bindingsSection root)
  publishers : ValidCollection PublisherSpec.DescribedBy (textAt "name") (publishersSection root)
  consumers : ValidCollection ConsumerSpec.DescribedBy (textAt "name") (consumersSection root)
  bindingExchange : ∀ binding ∈ (bindingsSection root).items,
    textAt "exchange" binding ∈ (exchangesSection root).items.map (textAt "name")
  bindingQueue : ∀ binding ∈ (bindingsSection root).items,
    textAt "queue" binding ∈ (queuesSection root).items.map (textAt "name")
  publisherExchange : ∀ publisher ∈ (publishersSection root).items,
    textAt "exchange" publisher ∈ (exchangesSection root).items.map (textAt "name")
  consumerQueue : ∀ consumer ∈ (consumersSection root).items,
    textAt "queue" consumer ∈ (queuesSection root).items.map (textAt "name")

theorem textAt_of_required {value : ConfigValue} {key text : String}
    (required : value.fieldOr key .null = .string text) : textAt key value = text := by
  rw [textAt, required, ConfigValue.text_string]

/-- An absent string that defaults to the empty one has the empty text. -/
theorem textAt_of_optional {value : ConfigValue} {key text : String}
    (optional : value.fieldOr key (.string "") = .string text) : textAt key value = text := by
  by_cases present : value.contains key = true
  · rw [textAt, ConfigValue.fieldOr_eq present .null (.string ""), optional,
      ConfigValue.text_string]
  · rw [ConfigValue.fieldOr_of_absent present, ConfigValue.string.injEq] at optional
    rw [textAt, ConfigValue.fieldOr_of_absent present, ← optional]
    rfl

theorem BindingSpec.DescribedBy.bindingKeyAt_eq {spec : BindingSpec} {value : ConfigValue}
    (described : spec.DescribedBy value) : bindingKeyAt value = bindingKey spec := by
  rw [bindingKeyAt, textAt_of_required described.exchange, textAt_of_required described.queue,
    textAt_of_optional described.routingKey, bindingKey]

section Collections

variable {α : Type} {DescribedBy : α → ConfigValue → Prop} {keyAt : ConfigValue → String}
  {key : α → String} {array : ConfigValue}

/-- What a parsed array says about the array itself. -/
theorem validCollection_of_specs (agree : ∀ value spec, DescribedBy spec value →
    keyAt value = key spec) {items : List ConfigValue} {specs : List α}
    (isArray : array = .array items)
    (described : List.Forall₂ (fun value spec => DescribedBy spec value) items specs)
    (distinct : (specs.map key).Nodup) :
    ValidCollection DescribedBy keyAt array ∧ array.items.map keyAt = specs.map key := by
  subst isArray
  have sameKeys := map_eq_of_related agree described
  refine ⟨⟨⟨items, rfl⟩, ?_, ?_⟩, sameKeys⟩
  · intro value member
    obtain ⟨spec, -, here⟩ := exists_related described member
    exact ⟨spec, here⟩
  · rw [ConfigValue.items_array, sameKeys]
    exact distinct

/-- A valid array has specifications, under distinct keys. -/
theorem ValidCollection.specs (agree : ∀ value spec, DescribedBy spec value →
    keyAt value = key spec) (valid : ValidCollection DescribedBy keyAt array) :
    ∃ specs : List α, (∃ items, array = .array items ∧
      List.Forall₂ (fun value spec => DescribedBy spec value) items specs) ∧
      (specs.map key).Nodup ∧ array.items.map keyAt = specs.map key := by
  obtain ⟨⟨items, rfl⟩, elements, distinct⟩ := valid
  obtain ⟨specs, described⟩ := exists_relatedList elements
  have sameKeys := map_eq_of_related agree described
  exact ⟨specs, ⟨items, rfl, described⟩, sameKeys ▸ distinct, sameKeys⟩

/-- A reference that every specification makes is made by every element. -/
theorem reference_at {refersAt : ConfigValue → String} {refers : α → String}
    {names : List String}
    (agree : ∀ value spec, DescribedBy spec value → refersAt value = refers spec)
    {items : List ConfigValue} {specs : List α}
    (described : List.Forall₂ (fun value spec => DescribedBy spec value) items specs) :
    (∀ value ∈ items, refersAt value ∈ names) ↔ ∀ spec ∈ specs, refers spec ∈ names := by
  have same := map_eq_of_related agree described
  rw [← List.forall_mem_map, same, List.forall_mem_map]

end Collections

/-- What is parsed comes from a documented configuration. -/
theorem RabbitMqBusConfig.ParsedFrom.valid {config : RabbitMqBusConfig} {root : ConfigValue}
    (parsed : config.ParsedFrom root) : ValidBusConfig root := by
  obtain ⟨⟨given, isGiven, -⟩, ⟨⟨exchanges, exchangesAre, exchanged⟩, ⟨queues, queuesAre, queued⟩,
    ⟨bindings, bindingsAre, bound⟩, ⟨publishers, publishersAre, published⟩,
    ⟨consumers, consumersAre, consumed⟩⟩, distinct, linked⟩ := parsed
  obtain ⟨validExchanges, exchangeNames⟩ := validCollection_of_specs
    (fun _ _ described => textAt_of_required (ExchangeSpec.DescribedBy.name described))
    exchangesAre exchanged distinct.exchanges
  obtain ⟨validQueues, queueNames⟩ := validCollection_of_specs
    (fun _ _ described => textAt_of_required (QueueSpec.DescribedBy.name described))
    queuesAre queued distinct.queues
  obtain ⟨validBindings, -⟩ := validCollection_of_specs
    (fun _ _ described => BindingSpec.DescribedBy.bindingKeyAt_eq described)
    bindingsAre bound distinct.bindings
  obtain ⟨validPublishers, -⟩ := validCollection_of_specs
    (fun _ _ described => textAt_of_required (PublisherSpec.DescribedBy.name described))
    publishersAre published distinct.publishers
  obtain ⟨validConsumers, -⟩ := validCollection_of_specs
    (fun _ _ described => textAt_of_required (ConsumerSpec.DescribedBy.name described))
    consumersAre consumed distinct.consumers
  refine ⟨⟨given, isGiven⟩, validExchanges, validQueues, validBindings, validPublishers,
    validConsumers, ?_, ?_, ?_, ?_⟩
  · rw [exchangeNames, bindingsAre]
    exact (reference_at (fun _ _ described => textAt_of_required described.exchange)
      bound).mpr linked.bindingExchange
  · rw [queueNames, bindingsAre]
    exact (reference_at (fun _ _ described => textAt_of_required described.queue)
      bound).mpr linked.bindingQueue
  · rw [exchangeNames, publishersAre]
    exact (reference_at (fun _ _ described => textAt_of_required described.exchange)
      published).mpr linked.publisherExchange
  · rw [queueNames, consumersAre]
    exact (reference_at (fun _ _ described => textAt_of_required described.queue)
      consumed).mpr linked.consumerQueue

/-- Every documented configuration has a result. -/
theorem ValidBusConfig.parsed {root : ConfigValue} (valid : ValidBusConfig root) :
    ∃ config : RabbitMqBusConfig, config.ParsedFrom root := by
  obtain ⟨⟨given, isGiven⟩, validExchanges, validQueues, validBindings, validPublishers,
    validConsumers, bindingExchange, bindingQueue, publisherExchange, consumerQueue⟩ := valid
  obtain ⟨exchanges, ⟨exchangeItems, exchangesAre, exchanged⟩, exchangeNodup, exchangeNames⟩ :=
    validExchanges.specs fun _ _ described => textAt_of_required described.name
  obtain ⟨queues, ⟨queueItems, queuesAre, queued⟩, queueNodup, queueNames⟩ :=
    validQueues.specs fun _ _ described => textAt_of_required described.name
  obtain ⟨bindings, ⟨bindingItems, bindingsAre, bound⟩, bindingNodup, -⟩ :=
    validBindings.specs fun _ _ described => described.bindingKeyAt_eq
  obtain ⟨publishers, ⟨publisherItems, publishersAre, published⟩, publisherNodup, -⟩ :=
    validPublishers.specs fun _ _ described => textAt_of_required described.name
  obtain ⟨consumers, ⟨consumerItems, consumersAre, consumed⟩, consumerNodup, -⟩ :=
    validConsumers.specs fun _ _ described => textAt_of_required described.name
  rw [exchangeNames, bindingsAre] at bindingExchange
  rw [queueNames, bindingsAre] at bindingQueue
  rw [exchangeNames, publishersAre] at publisherExchange
  rw [queueNames, consumersAre] at consumerQueue
  refine ⟨⟨given.connection, given.threadCount.toUInt64, exchanges, queues, bindings, publishers,
    consumers⟩, ⟨given, isGiven, rfl, rfl⟩, ⟨⟨_, exchangesAre, exchanged⟩, ⟨_, queuesAre, queued⟩,
    ⟨_, bindingsAre, bound⟩, ⟨_, publishersAre, published⟩, ⟨_, consumersAre, consumed⟩⟩,
    ⟨exchangeNodup, queueNodup, bindingNodup, publisherNodup, consumerNodup⟩, ?_⟩
  exact ⟨(reference_at (fun _ _ described => textAt_of_required described.exchange) bound).mp
      bindingExchange,
    (reference_at (fun _ _ described => textAt_of_required described.queue) bound).mp
      bindingQueue,
    (reference_at (fun _ _ described => textAt_of_required described.exchange) published).mp
      publisherExchange,
    (reference_at (fun _ _ described => textAt_of_required described.queue) consumed).mp
      consumerQueue⟩

/-- `ParseBusConfig` accepts exactly the documented configurations. The five collections of the
result match the arrays element by element, with every field as it is given or defaulted. A
`worker_pool` that is given must be an object. -/
theorem parseBusConfig_schema (root : ConfigValue)
    (workerPool : (workerPoolSection root).isObject = true) :
    (parseBusConfig root).isSome = true ∧
    ((∃ config, parseBusConfig root = some (.ok config)) ↔ ValidBusConfig root) ∧
    ∀ config, parseBusConfig root = some (.ok config) → config.CollectedFrom root := by
  refine ⟨?_, ⟨?_, ?_⟩, ?_⟩
  · have workerPoolRead : getOptionalObjectField root "worker_pool" =
        .ok (workerPoolSection root) := getOptionalObjectField_ok.mpr ⟨rfl, workerPool⟩
    unfold parseBusConfig
    split
    case isFalse => rfl
    split
    case h_1 => rfl
    dsimp only
    split
    case h_1 => rfl
    rw [parseBusSections, workerPoolRead]
    rfl
  · rintro ⟨config, accepted⟩
    exact (parseBusConfig_sound accepted).valid
  · intro valid
    obtain ⟨config, parsed⟩ := valid.parsed
    exact ⟨config, parseBusConfig_complete parsed⟩
  · intro config accepted
    exact (parseBusConfig_sound accepted).collections

/-- One exchange, and a publisher that names `exchange`. -/
def publishingConfigValue (exchange : String) : ConfigValue :=
  .object [("connection", .object [("uri", .string "amqp://localhost/")]),
    ("topology", .object [("exchanges", .array [.object [("name", .string "events")]])]),
    ("publishers", .array [.object [("name", .string "audit"), ("exchange", .string exchange)]])]

theorem parseBusConfig_schema_publishing :
    ValidBusConfig (publishingConfigValue "events") ∧
      ¬ValidBusConfig (publishingConfigValue "logs") := by
  constructor
  · exact (parseBusConfig_schema (publishingConfigValue "events") rfl).2.1.mp ⟨_, rfl⟩
  · intro valid
    obtain ⟨config, accepted⟩ :=
      (parseBusConfig_schema (publishingConfigValue "logs") rfl).2.1.mpr valid
    have refused : parseBusConfig (publishingConfigValue "logs") = some (.error (makeParseError
        "Publisher 'audit' references unknown exchange 'logs'")) := by decide
    rw [refused] at accepted
    cases accepted

end ModuleContext.RabbitMqBus
