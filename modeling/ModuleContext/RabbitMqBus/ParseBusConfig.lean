import ModuleContext.Misc.Upsert
import ModuleContext.RabbitMqBus.Types
import Mathlib.Data.List.Forall2

/-!
# The bus configuration

`ParseBusConfig` and the field readers it is made of. `Result::Value()` may only be called on
a result that is `Ok`; a parse that calls it on an error has no outcome (`none`).
-/

namespace ModuleContext.RabbitMqBus
open Foundation Misc

def getRequiredObjectField (root : ConfigValue) (key : String) : Result ConfigValue :=
  if root.isObject then
    match root.objectGet key with
    | .error _ => .error (makeParseError ("Missing required object field '" ++ key ++ "'"))
    | .ok value =>
        if value.isObject then .ok value
        else .error (makeParseError ("Field '" ++ key ++ "' must be an object"))
  else .error (makeParseError
    ("Expected configuration object when reading '" ++ key ++ "'"))

/-- The readers of optional fields differ in the fallback, in the typed accessor and in the
error text: without the field they return the fallback. -/
def getOptionalField {α : Type} (read : ConfigValue → Result α) (expected : String)
    (root : ConfigValue) (key : String) (fallback : α) : Result α :=
  if root.contains key then
    match root.objectGet key with
    | .error e => .error e
    | .ok value =>
        match read value with
        | .error _ => .error (makeParseError ("Field '" ++ key ++ "' must be " ++ expected))
        | .ok result => .ok result
  else .ok fallback

def getOptionalObjectField (root : ConfigValue) (key : String) : Result ConfigValue :=
  getOptionalField (fun value => if value.isObject then .ok value else .error
    ConfigValue.accessError) "an object" root key .makeObject

def getOptionalArrayField (root : ConfigValue) (key : String) : Result (List ConfigValue) :=
  getOptionalField ConfigValue.asArray "an array" root key []

def getRequiredStringField (root : ConfigValue) (key : String) : Result String :=
  if root.isObject then
    match root.objectGet key with
    | .error _ => .error (makeParseError ("Missing required string field '" ++ key ++ "'"))
    | .ok value =>
        match value.asString with
        | .error _ => .error (makeParseError ("Field '" ++ key ++ "' must be a non-empty string"))
        | .ok text =>
            if text.isEmpty then
              .error (makeParseError ("Field '" ++ key ++ "' must be a non-empty string"))
            else .ok text
  else .error (makeParseError
    ("Expected configuration object when reading '" ++ key ++ "'"))

def getOptionalStringField (root : ConfigValue) (key fallback : String) : Result String :=
  getOptionalField ConfigValue.asString "a string" root key fallback

def getOptionalBoolField (root : ConfigValue) (key : String) (fallback : Bool) : Result Bool :=
  getOptionalField ConfigValue.asBool "a bool" root key fallback

def getOptionalInt64Field (root : ConfigValue) (key : String) (fallback : Int64) :
    Result Int64 :=
  getOptionalField ConfigValue.asInt64 "an int64" root key fallback

def getOptionalArgumentsField (root : ConfigValue) (key : String) : Result ConfigValue.Object :=
  getOptionalField ConfigValue.asObject "an object" root key []

def parseExchangeTypeValue (value : String) : Result ExchangeType :=
  if value = "direct" then .ok .direct
  else if value = "fanout" then .ok .fanout
  else if value = "topic" then .ok .topic
  else if value = "headers" then .ok .headers
  else .error (makeParseError ("Unsupported exchange type '" ++ value ++ "'"))

/-- The parsers read all fields first; if any read fails, one text stands for all. -/
def orInvalid {α : Type} (message : String) (fields : Result α) : Result α :=
  fields.mapError fun _ => makeParseError message

def parseExchangeSpec (value : ConfigValue) : Result ExchangeSpec :=
  match getRequiredStringField value "name" with
  | .error e => .error e
  | .ok name => orInvalid "Invalid exchange specification" do
      let typeString ← getOptionalStringField value "type" "direct"
      let type ← parseExchangeTypeValue typeString
      let durable ← getOptionalBoolField value "durable" true
      let autoDelete ← getOptionalBoolField value "auto_delete" false
      let passive ← getOptionalBoolField value "passive" false
      let internal ← getOptionalBoolField value "internal" false
      let arguments ← getOptionalArgumentsField value "arguments"
      return { name, type, durable, autoDelete, passive, internal, arguments }

def parseQueueSpec (value : ConfigValue) : Result QueueSpec :=
  match getRequiredStringField value "name" with
  | .error e => .error e
  | .ok name => orInvalid "Invalid queue specification" do
      let durable ← getOptionalBoolField value "durable" true
      let autoDelete ← getOptionalBoolField value "auto_delete" false
      let passive ← getOptionalBoolField value "passive" false
      let exclusive ← getOptionalBoolField value "exclusive" false
      let arguments ← getOptionalArgumentsField value "arguments"
      return { name, durable, autoDelete, passive, exclusive, arguments }

def parseBindingSpec (value : ConfigValue) : Result BindingSpec :=
  orInvalid "Invalid binding specification" do
    let exchange ← getRequiredStringField value "exchange"
    let queue ← getRequiredStringField value "queue"
    let routingKey ← getOptionalStringField value "routing_key" ""
    let arguments ← getOptionalArgumentsField value "arguments"
    return { exchange, queue, routingKey, arguments }

def parsePublisherSpec (value : ConfigValue) : Result PublisherSpec :=
  orInvalid "Invalid publisher specification" do
    let name ← getRequiredStringField value "name"
    let exchange ← getRequiredStringField value "exchange"
    let routingKey ← getOptionalStringField value "routing_key" ""
    let contentType ← getOptionalStringField value "content_type" ""
    let persistent ← getOptionalBoolField value "persistent" true
    let headers ← getOptionalArgumentsField value "headers"
    return { name, exchange, routingKey, contentType, headers, persistent }

/-- The fields of a consumer before `prefetch_count` is checked and narrowed. -/
def parseConsumerFields (value : ConfigValue) : Result (ConsumerSpec × Int64) :=
  orInvalid "Invalid consumer specification" do
    let name ← getRequiredStringField value "name"
    let queue ← getRequiredStringField value "queue"
    let consumerTag ← getOptionalStringField value "consumer_tag" ""
    let autoAck ← getOptionalBoolField value "auto_ack" false
    let exclusive ← getOptionalBoolField value "exclusive" false
    let noLocal ← getOptionalBoolField value "no_local" false
    let prefetchCount ← getOptionalInt64Field value "prefetch_count" 1
    let arguments ← getOptionalArgumentsField value "arguments"
    return ({ name, queue, consumerTag, autoAck, exclusive, noLocal
              prefetchCount := prefetchCount.toUInt64.toUInt16, arguments }, prefetchCount)

def parseConsumerSpec (value : ConfigValue) : Result ConsumerSpec :=
  match parseConsumerFields value with
  | .error e => .error e
  | .ok (spec, prefetchCount) =>
      if prefetchCount < 0 || prefetchCount > 65535 then
        .error (makeParseError "Consumer prefetch_count must be within uint16 range")
      else .ok spec

/-- The loop of `ParseUniqueArray` from element `index` on, with the keys seen before it. -/
def parseUniqueFrom {α : Type} (collectionName : String) (parser : ConfigValue → Result α)
    (keyExtractor : α → String) :
    List ConfigValue → Nat → List String → Result (List α)
  | [], _, _ => .ok []
  | value :: values, index, seenKeys =>
      if value.isObject then
        match parser value with
        | .error e => .error ⟨e.code, buildMessage
            ("Failed to parse " ++ collectionName ++ "[" ++ toString index ++ "]") e.message⟩
        | .ok parsed =>
            let key := keyExtractor parsed
            if seenKeys.contains key then
              .error ⟨.alreadyExists, "Duplicate entry '" ++ key ++ "' in collection '" ++
                collectionName ++ "'"⟩
            else
              match parseUniqueFrom collectionName parser keyExtractor values (index + 1)
                  (key :: seenKeys) with
              | .error e => .error e
              | .ok output => .ok (parsed :: output)
      else .error (makeParseError
        (collectionName ++ "[" ++ toString index ++ "] must be an object"))

def parseUniqueArray {α : Type} (values : List ConfigValue) (collectionName : String)
    (parser : ConfigValue → Result α) (keyExtractor : α → String) : Result (List α) :=
  parseUniqueFrom collectionName parser keyExtractor values 0 []

def bindingKey (spec : BindingSpec) : String :=
  spec.exchange ++ "|" ++ spec.queue ++ "|" ++ spec.routingKey

/-- The checks that bindings, publishers and consumers name configured exchanges and queues:
the first violation, in that order. -/
def unknownReference (config : RabbitMqBusConfig) : Option Error :=
  let exchangeNames := config.exchanges.map (·.name)
  let queueNames := config.queues.map (·.name)
  let binding := config.bindings.findSome? fun binding =>
    if !exchangeNames.contains binding.exchange then
      some (makeParseError ("Binding '" ++ bindingKey binding ++
        "' references unknown exchange '" ++ binding.exchange ++ "'"))
    else if !queueNames.contains binding.queue then
      some (makeParseError ("Binding '" ++ bindingKey binding ++
        "' references unknown queue '" ++ binding.queue ++ "'"))
    else none
  let publisher := config.publishers.findSome? fun publisher =>
    if !exchangeNames.contains publisher.exchange then
      some (makeParseError ("Publisher '" ++ publisher.name ++
        "' references unknown exchange '" ++ publisher.exchange ++ "'"))
    else none
  let consumer := config.consumers.findSome? fun consumer =>
    if !queueNames.contains consumer.queue then
      some (makeParseError ("Consumer '" ++ consumer.name ++
        "' references unknown queue '" ++ consumer.queue ++ "'"))
    else none
  binding.or (publisher.or consumer)

/-- The five collections, each parsed, with the first failing one deciding the error. -/
def parseCollections (connection : ConnectionConfig) (workerThreadCount : UInt64)
    (exchanges queues bindings publishers consumers : List ConfigValue) :
    Result RabbitMqBusConfig := do
  let exchanges ←
    parseUniqueArray exchanges "topology.exchanges" parseExchangeSpec ExchangeSpec.name
  let queues ← parseUniqueArray queues "topology.queues" parseQueueSpec QueueSpec.name
  let bindings ← parseUniqueArray bindings "topology.bindings" parseBindingSpec bindingKey
  let publishers ← parseUniqueArray publishers "publishers" parsePublisherSpec PublisherSpec.name
  let consumers ← parseUniqueArray consumers "consumers" parseConsumerSpec ConsumerSpec.name
  return { connection, workerThreadCount, exchanges, queues, bindings, publishers, consumers }

/-- The part of `ParseBusConfig` that follows the reading of the connection fields. -/
def parseBusSections (configValue : ConfigValue) (uri : String)
    (heartbeat socketTimeout : Int64) (reconnect : ConfigValue) :
    Option (Result RabbitMqBusConfig) :=
  match getOptionalObjectField configValue "worker_pool" with
  | .error _ => none -- `worker_pool.Value()` is read before `worker_pool.IsOk()` is asked
  | .ok workerPool => some <|
      let timing : Result (Bool × Int64 × Int64 × Int64 × ConfigValue) :=
        orInvalid "Invalid reconnect or worker_pool configuration" do
          let enabled ← getOptionalBoolField reconnect "enabled" true
          let initial ← getOptionalInt64Field reconnect "initial_delay_ms" 1000
          let max ← getOptionalInt64Field reconnect "max_delay_ms" 30000
          let threadCount ← getOptionalInt64Field workerPool "thread_count" 4
          let topology ← getOptionalObjectField configValue "topology"
          return (enabled, initial, max, threadCount, topology)
      match timing with
      | .error e => .error e
      | .ok (enabled, initial, max, threadCount, topology) =>
          if heartbeat < 0 || heartbeat > 65535 then
            .error (makeParseError "connection.heartbeat_seconds must be within uint16 range")
          else if socketTimeout < 10 || initial < 0 || max < initial || threadCount ≤ 0 then
            .error (makeParseError "Invalid timing or thread_count values in RabbitMQ config")
          else
            let connection : ConnectionConfig :=
              { uri
                heartbeatSeconds := heartbeat.toUInt64.toUInt16
                socketTimeoutMs := socketTimeout.toInt32
                reconnect :=
                  { enabled, initialDelayMs := initial.toInt32, maxDelayMs := max.toInt32 } }
            let arrays : Result (List ConfigValue × List ConfigValue × List ConfigValue ×
                List ConfigValue × List ConfigValue) :=
              orInvalid "RabbitMQ arrays must be arrays when provided" do
                let exchanges ← getOptionalArrayField topology "exchanges"
                let queues ← getOptionalArrayField topology "queues"
                let bindings ← getOptionalArrayField topology "bindings"
                let publishers ← getOptionalArrayField configValue "publishers"
                let consumers ← getOptionalArrayField configValue "consumers"
                return (exchanges, queues, bindings, publishers, consumers)
            match arrays with
            | .error e => .error e
            | .ok (exchanges, queues, bindings, publishers, consumers) =>
                match parseCollections connection threadCount.toUInt64 exchanges queues bindings
                    publishers consumers with
                | .error e => .error e
                | .ok config =>
                    match unknownReference config with
                    | some e => .error e
                    | none => .ok config

def parseBusConfig (configValue : ConfigValue) : Option (Result RabbitMqBusConfig) :=
  if configValue.isObject then
    match getRequiredObjectField configValue "connection" with
    | .error e => some (.error e)
    | .ok connection =>
        let fields : Result (String × Int64 × Int64 × ConfigValue) :=
          orInvalid "Invalid connection configuration" do
            let uri ← getRequiredStringField connection "uri"
            let heartbeat ← getOptionalInt64Field connection "heartbeat_seconds" 30
            let socketTimeout ← getOptionalInt64Field connection "socket_timeout_ms" 100
            let reconnect ← getOptionalObjectField connection "reconnect"
            return (uri, heartbeat, socketTimeout, reconnect)
        match fields with
        | .error e => some (.error e)
        | .ok (uri, heartbeat, socketTimeout, reconnect) =>
            parseBusSections configValue uri heartbeat socketTimeout reconnect
  else some (.error (makeParseError "RabbitMQ bus config must be an object"))

/-- The keys under which the collections of a configuration are filed are distinct. -/
structure RabbitMqBusConfig.Distinct (config : RabbitMqBusConfig) : Prop where
  exchanges : (config.exchanges.map (·.name)).Nodup
  queues : (config.queues.map (·.name)).Nodup
  bindings : (config.bindings.map bindingKey).Nodup
  publishers : (config.publishers.map (·.name)).Nodup
  consumers : (config.consumers.map (·.name)).Nodup

/-- The loop accepts exactly the arrays of objects that all parse, under distinct keys that were
not seen before, and returns what they parse to, in order. -/
theorem parseUniqueFrom_ok {α : Type} {collectionName : String}
    {parser : ConfigValue → Result α} {keyExtractor : α → String} {values : List ConfigValue}
    {index : Nat} {seenKeys : List String} {output : List α} :
    parseUniqueFrom collectionName parser keyExtractor values index seenKeys = .ok output ↔
      List.Forall₂ (fun value item => value.isObject = true ∧ parser value = .ok item)
        values output ∧
      (output.map keyExtractor).Nodup ∧ ∀ item ∈ output, keyExtractor item ∉ seenKeys := by
  induction values generalizing index seenKeys output with
  | nil =>
    rw [parseUniqueFrom, Except.ok.injEq, List.forall₂_nil_left_iff]
    constructor
    · rintro rfl
      simp
    · rintro ⟨rfl, -⟩
      rfl
  | cons value values ih =>
    rw [parseUniqueFrom]
    constructor
    · intro parsed
      split at parsed
      case isFalse => cases parsed
      rename_i isObject
      split at parsed
      case h_1 => cases parsed
      rename_i item itemParsed
      dsimp only at parsed
      split at parsed
      case isTrue => cases parsed
      rename_i fresh
      split at parsed
      case h_1 => cases parsed
      rename_i rest restParsed
      cases parsed
      obtain ⟨matched, distinct⟩ := ih.mp restParsed
      rw [List.contains_iff_mem] at fresh
      exact ⟨.cons ⟨isObject, itemParsed⟩ matched, distinct_cons.mpr ⟨fresh, distinct⟩⟩
    · rintro ⟨matched, distinct⟩
      cases matched with
      | cons here matched =>
        obtain ⟨fresh, distinct⟩ := distinct_cons.mp distinct
        simp [here.1, here.2, fresh, ih.mpr ⟨matched, distinct⟩]

theorem parseUniqueArray_ok {α : Type} {collectionName : String}
    {parser : ConfigValue → Result α} {keyExtractor : α → String} {values : List ConfigValue}
    {output : List α} :
    parseUniqueArray values collectionName parser keyExtractor = .ok output ↔
      List.Forall₂ (fun value item => value.isObject = true ∧ parser value = .ok item)
        values output ∧ (output.map keyExtractor).Nodup := by
  rw [parseUniqueArray, parseUniqueFrom_ok]
  simp

theorem parseCollections_distinct {connection : ConnectionConfig} {workerThreadCount : UInt64}
    {exchanges queues bindings publishers consumers : List ConfigValue}
    {config : RabbitMqBusConfig}
    (parsed : parseCollections connection workerThreadCount exchanges queues bindings publishers
      consumers = .ok config) : config.Distinct := by
  unfold parseCollections at parsed
  obtain ⟨exchangeSpecs, exchangesParsed, parsed⟩ := bind_eq_ok.mp parsed
  obtain ⟨queueSpecs, queuesParsed, parsed⟩ := bind_eq_ok.mp parsed
  obtain ⟨bindingSpecs, bindingsParsed, parsed⟩ := bind_eq_ok.mp parsed
  obtain ⟨publisherSpecs, publishersParsed, parsed⟩ := bind_eq_ok.mp parsed
  obtain ⟨consumerSpecs, consumersParsed, parsed⟩ := bind_eq_ok.mp parsed
  cases parsed
  exact ⟨(parseUniqueArray_ok.mp exchangesParsed).2, (parseUniqueArray_ok.mp queuesParsed).2,
    (parseUniqueArray_ok.mp bindingsParsed).2, (parseUniqueArray_ok.mp publishersParsed).2,
    (parseUniqueArray_ok.mp consumersParsed).2⟩

theorem parseBusConfig_distinct {configValue : ConfigValue} {config : RabbitMqBusConfig}
    (accepted : parseBusConfig configValue = some (.ok config)) : config.Distinct := by
  unfold parseBusConfig at accepted
  split at accepted
  case isFalse => cases accepted
  split at accepted
  case h_1 => cases accepted
  dsimp only at accepted
  split at accepted
  case h_1 => cases accepted
  unfold parseBusSections at accepted
  split at accepted
  case h_1 => cases accepted
  rw [Option.some.injEq] at accepted
  dsimp only at accepted
  split at accepted
  case h_1 => cases accepted
  split at accepted
  case isTrue => cases accepted
  split at accepted
  case isTrue => cases accepted
  split at accepted
  case h_1 => cases accepted
  split at accepted
  case h_1 => cases accepted
  rename_i parsed
  split at accepted
  case h_1 => cases accepted
  cases accepted
  exact parseCollections_distinct parsed

end ModuleContext.RabbitMqBus
