import ModuleContext.RabbitMqBus.ConfigSchema

/-!
# The parse with the precondition of `Result::Value`

`ParseBusConfig` reads its fields into results, tests them in groups and only then takes their
values. Here every `Value()` of the source is written out: on a result that is not `Ok` it has
no outcome (`none`). The functions keep the order in which the source reads, tests and takes.
-/

namespace ModuleContext.RabbitMqBus
open Foundation Misc

namespace Checked

/-- `Result::Value`, which may only be called on a result that is `Ok`. -/
def valueOf {α : Type} : Result α → Option α
  | .ok value => some value
  | .error _ => none

@[simp] theorem valueOf_ok {α : Type} (value : α) : valueOf (.ok value) = some value := rfl

/-! ## The readers of single fields -/

def getRequiredObjectField (root : ConfigValue) (key : String) : Option (Result ConfigValue) := do
  if !root.isObject then
    return .error (makeParseError
      ("Expected configuration object when reading '" ++ key ++ "'"))
  let value := root.objectGet key
  if !isOk value then
    return .error (makeParseError ("Missing required object field '" ++ key ++ "'"))
  if !(← valueOf value).isObject then
    return .error (makeParseError ("Field '" ++ key ++ "' must be an object"))
  return value

/-- The readers of optional fields whose type is tested on the typed accessor. -/
def getOptionalField {α : Type} (read : ConfigValue → Result α) (expected : String)
    (root : ConfigValue) (key : String) (fallback : α) : Option (Result α) := do
  if !root.isObject || !root.contains key then
    return .ok fallback
  let value := root.objectGet key
  if let .error e := value then
    return .error e
  let typedValue := read (← valueOf value)
  if !isOk typedValue then
    return .error (makeParseError ("Field '" ++ key ++ "' must be " ++ expected))
  return typedValue

def getOptionalStringField (root : ConfigValue) (key fallback : String) :
    Option (Result String) :=
  getOptionalField ConfigValue.asString "a string" root key fallback

def getOptionalBoolField (root : ConfigValue) (key : String) (fallback : Bool) :
    Option (Result Bool) :=
  getOptionalField ConfigValue.asBool "a bool" root key fallback

def getOptionalInt64Field (root : ConfigValue) (key : String) (fallback : Int64) :
    Option (Result Int64) :=
  getOptionalField ConfigValue.asInt64 "an int64" root key fallback

def getOptionalObjectField (root : ConfigValue) (key : String) :
    Option (Result ConfigValue) := do
  if !root.isObject || !root.contains key then
    return .ok .makeObject
  let value := root.objectGet key
  if let .error e := value then
    return .error e
  if !(← valueOf value).isObject then
    return .error (makeParseError ("Field '" ++ key ++ "' must be an object"))
  return value

/-- The readers of optional fields whose type is tested first, and then taken. -/
def getOptionalContainer {α : Type} (isContainer : ConfigValue → Bool)
    (read : ConfigValue → Result α) (expected : String) (root : ConfigValue) (key : String)
    (empty : α) : Option (Result α) := do
  if !root.isObject || !root.contains key then
    return .ok empty
  let value := root.objectGet key
  if let .error e := value then
    return .error e
  if !isContainer (← valueOf value) then
    return .error (makeParseError ("Field '" ++ key ++ "' must be " ++ expected))
  return read (← valueOf value)

def getOptionalArrayField (root : ConfigValue) (key : String) :
    Option (Result (List ConfigValue)) :=
  getOptionalContainer ConfigValue.isArray ConfigValue.asArray "an array" root key []

def getOptionalArgumentsField (root : ConfigValue) (key : String) :
    Option (Result ConfigValue.Object) :=
  getOptionalContainer ConfigValue.isObject ConfigValue.asObject "an object" root key []

def getRequiredStringField (root : ConfigValue) (key : String) : Option (Result String) := do
  if !root.isObject then
    return .error (makeParseError
      ("Expected configuration object when reading '" ++ key ++ "'"))
  let value := root.objectGet key
  if !isOk value then
    return .error (makeParseError ("Missing required string field '" ++ key ++ "'"))
  let stringValue := (← valueOf value).asString
  if !isOk stringValue then
    return .error (makeParseError ("Field '" ++ key ++ "' must be a non-empty string"))
  if (← valueOf stringValue).isEmpty then
    return .error (makeParseError ("Field '" ++ key ++ "' must be a non-empty string"))
  return stringValue

section Readers

variable {root : ConfigValue} {key : String}

@[simp] theorem getRequiredObjectField_eq :
    getRequiredObjectField root key = some (RabbitMqBus.getRequiredObjectField root key) := by
  unfold getRequiredObjectField RabbitMqBus.getRequiredObjectField
  cases root.isObject
  · rfl
  · cases root.objectGet key with
    | error e => rfl
    | ok value => cases isObject : value.isObject <;> simp [isObject]

@[simp] theorem getRequiredStringField_eq :
    getRequiredStringField root key = some (RabbitMqBus.getRequiredStringField root key) := by
  unfold getRequiredStringField RabbitMqBus.getRequiredStringField
  cases root.isObject
  · rfl
  · cases root.objectGet key with
    | error e => rfl
    | ok value =>
      cases typed : value.asString with
      | error e => simp [typed]
      | ok text => by_cases empty : text = "" <;> simp [typed, empty]

/-- A key is only contained in an object, where it is found. -/
theorem contains_cases :
    ((!root.isObject || !root.contains key) = true ∧ root.contains key = false) ∨
      ((!root.isObject || !root.contains key) = false ∧ root.contains key = true ∧
        ∃ value, root.objectGet key = .ok value) := by
  cases present : root.contains key with
  | false => exact .inl ⟨by simp, rfl⟩
  | true =>
    obtain ⟨value, found⟩ := ConfigValue.contains_iff.mp present
    refine .inr ⟨?_, rfl, value, found⟩
    rw [ConfigValue.isObject_of_found found]
    rfl

theorem getOptionalField_eq {α : Type} {read : ConfigValue → Result α} {expected : String}
    {fallback : α} :
    getOptionalField read expected root key fallback =
      some (RabbitMqBus.getOptionalField read expected root key fallback) := by
  unfold getOptionalField RabbitMqBus.getOptionalField
  rcases @contains_cases root key with ⟨skip, absent⟩ | ⟨go, present, value, found⟩
  · rw [skip, absent]
    rfl
  · rw [go, present, found]
    cases typed : read value with
    | error e => simp [typed]
    | ok result => simp [typed]

@[simp] theorem getOptionalBoolField_eq {fallback : Bool} :
    getOptionalBoolField root key fallback =
      some (RabbitMqBus.getOptionalBoolField root key fallback) := getOptionalField_eq

@[simp] theorem getOptionalInt64Field_eq {fallback : Int64} :
    getOptionalInt64Field root key fallback =
      some (RabbitMqBus.getOptionalInt64Field root key fallback) := getOptionalField_eq

@[simp] theorem getOptionalStringField_eq {fallback : String} :
    getOptionalStringField root key fallback =
      some (RabbitMqBus.getOptionalStringField root key fallback) := getOptionalField_eq

@[simp] theorem getOptionalObjectField_eq :
    getOptionalObjectField root key = some (RabbitMqBus.getOptionalObjectField root key) := by
  unfold getOptionalObjectField RabbitMqBus.getOptionalObjectField RabbitMqBus.getOptionalField
  rcases @contains_cases root key with ⟨skip, absent⟩ | ⟨go, present, value, found⟩
  · rw [skip, absent]
    rfl
  · rw [go, present, found]
    cases isObject : value.isObject with
    | false => simp [isObject, String.append_assoc]
    | true => simp [isObject]

/-- Testing the type first and asking the typed accessor afterwards is the same, as long as the
accessor succeeds on values of that type and on no others. -/
theorem getOptionalContainer_eq {α : Type} {isContainer : ConfigValue → Bool}
    {read : ConfigValue → Result α} {expected : String} {empty : α}
    (agrees : ∀ value, isContainer value = isOk (read value)) :
    getOptionalContainer isContainer read expected root key empty =
      some (RabbitMqBus.getOptionalField read expected root key empty) := by
  unfold getOptionalContainer RabbitMqBus.getOptionalField
  rcases @contains_cases root key with ⟨skip, absent⟩ | ⟨go, present, value, found⟩
  · rw [skip, absent]
    rfl
  · rw [go, present, found]
    cases typed : read value with
    | error e => simp [agrees, typed]
    | ok result => simp [agrees, typed]

@[simp] theorem getOptionalArrayField_eq :
    getOptionalArrayField root key = some (RabbitMqBus.getOptionalArrayField root key) :=
  getOptionalContainer_eq fun value => by cases value <;> rfl

@[simp] theorem getOptionalArgumentsField_eq :
    getOptionalArgumentsField root key = some (RabbitMqBus.getOptionalArgumentsField root key) :=
  getOptionalContainer_eq fun value => by cases value <;> rfl

end Readers

/-! ## The parsers of array elements -/

def parseExchangeSpec (value : ConfigValue) : Option (Result ExchangeSpec) := do
  let name ← getRequiredStringField value "name"
  if let .error e := name then
    return .error e
  let typeString ← getOptionalStringField value "type" "direct"
  let type ← match typeString with
    | .ok _ => do pure (parseExchangeTypeValue (← valueOf typeString))
    | .error e => pure (.error e)
  let durable ← getOptionalBoolField value "durable" true
  let autoDelete ← getOptionalBoolField value "auto_delete" false
  let passive ← getOptionalBoolField value "passive" false
  let internal ← getOptionalBoolField value "internal" false
  let arguments ← getOptionalArgumentsField value "arguments"
  if !isOk type || !isOk durable || !isOk autoDelete || !isOk passive || !isOk internal ||
      !isOk arguments then
    return .error (makeParseError "Invalid exchange specification")
  return .ok
    { name := ← valueOf name
      type := ← valueOf type
      durable := ← valueOf durable
      autoDelete := ← valueOf autoDelete
      passive := ← valueOf passive
      internal := ← valueOf internal
      arguments := ← valueOf arguments }

def parseQueueSpec (value : ConfigValue) : Option (Result QueueSpec) := do
  let name ← getRequiredStringField value "name"
  if let .error e := name then
    return .error e
  let durable ← getOptionalBoolField value "durable" true
  let autoDelete ← getOptionalBoolField value "auto_delete" false
  let passive ← getOptionalBoolField value "passive" false
  let exclusive ← getOptionalBoolField value "exclusive" false
  let arguments ← getOptionalArgumentsField value "arguments"
  if !isOk durable || !isOk autoDelete || !isOk passive || !isOk exclusive ||
      !isOk arguments then
    return .error (makeParseError "Invalid queue specification")
  return .ok
    { name := ← valueOf name
      durable := ← valueOf durable
      autoDelete := ← valueOf autoDelete
      passive := ← valueOf passive
      exclusive := ← valueOf exclusive
      arguments := ← valueOf arguments }

def parseBindingSpec (value : ConfigValue) : Option (Result BindingSpec) := do
  let exchange ← getRequiredStringField value "exchange"
  let queue ← getRequiredStringField value "queue"
  let routingKey ← getOptionalStringField value "routing_key" ""
  let arguments ← getOptionalArgumentsField value "arguments"
  if !isOk exchange || !isOk queue || !isOk routingKey || !isOk arguments then
    return .error (makeParseError "Invalid binding specification")
  return .ok
    { exchange := ← valueOf exchange
      queue := ← valueOf queue
      routingKey := ← valueOf routingKey
      arguments := ← valueOf arguments }

def parsePublisherSpec (value : ConfigValue) : Option (Result PublisherSpec) := do
  let name ← getRequiredStringField value "name"
  let exchange ← getRequiredStringField value "exchange"
  let routingKey ← getOptionalStringField value "routing_key" ""
  let contentType ← getOptionalStringField value "content_type" ""
  let persistent ← getOptionalBoolField value "persistent" true
  let headers ← getOptionalArgumentsField value "headers"
  if !isOk name || !isOk exchange || !isOk routingKey || !isOk contentType ||
      !isOk persistent || !isOk headers then
    return .error (makeParseError "Invalid publisher specification")
  return .ok
    { name := ← valueOf name
      exchange := ← valueOf exchange
      routingKey := ← valueOf routingKey
      contentType := ← valueOf contentType
      headers := ← valueOf headers
      persistent := ← valueOf persistent }

def parseConsumerSpec (value : ConfigValue) : Option (Result ConsumerSpec) := do
  let name ← getRequiredStringField value "name"
  let queue ← getRequiredStringField value "queue"
  let consumerTag ← getOptionalStringField value "consumer_tag" ""
  let autoAck ← getOptionalBoolField value "auto_ack" false
  let exclusive ← getOptionalBoolField value "exclusive" false
  let noLocal ← getOptionalBoolField value "no_local" false
  let prefetchCount ← getOptionalInt64Field value "prefetch_count" 1
  let arguments ← getOptionalArgumentsField value "arguments"
  if !isOk name || !isOk queue || !isOk consumerTag || !isOk autoAck || !isOk exclusive ||
      !isOk noLocal || !isOk prefetchCount || !isOk arguments then
    return .error (makeParseError "Invalid consumer specification")
  if (← valueOf prefetchCount) < 0 || (← valueOf prefetchCount) > 65535 then
    return .error (makeParseError "Consumer prefetch_count must be within uint16 range")
  return .ok
    { name := ← valueOf name
      queue := ← valueOf queue
      consumerTag := ← valueOf consumerTag
      autoAck := ← valueOf autoAck
      exclusive := ← valueOf exclusive
      noLocal := ← valueOf noLocal
      prefetchCount := (← valueOf prefetchCount).toUInt64.toUInt16
      arguments := ← valueOf arguments }

/-- A step that has an outcome goes on with it. -/
theorem bind_of_some {α β : Type} {read : Option α} {value : α} {next : α → Option β}
    {outcome : Option β} (found : read = some value) (rest : next value = outcome) :
    (read >>= next) = outcome := by
  rw [found]
  exact rest

section Groups

variable {α β γ : Type} {message : String} {read : Result α} {others : Bool}
  {use : Option (Result β)} {next : α → Result γ} {finish : Result γ → Option (Result β)}

/-- A group test lets the first result of the group through, or it fails as the whole group
does. The values of the group go on to `finish`. -/
theorem group_cons
    (rest : ∀ value, read = .ok value →
      (if others = true then some (.error (makeParseError message)) else use) =
        finish (orInvalid message (next value)))
    (fails : ∀ e, finish (.error e) = some (.error e) := by intro; rfl) :
    (if (!isOk read || others) = true then some (.error (makeParseError message)) else use) =
      finish (orInvalid message (read >>= next)) := by
  cases outcome : read with
  | error e => exact (fails _).symm
  | ok value =>
    rw [ok_bind, ← rest value outcome, isOk_ok, Bool.not_true, Bool.false_or]

/-- The last result of a group. -/
theorem group_last
    (rest : ∀ value, read = .ok value → use = finish (orInvalid message (next value)))
    (fails : ∀ e, finish (.error e) = some (.error e) := by intro; rfl) :
    (if (!isOk read) = true then some (.error (makeParseError message)) else use) =
      finish (orInvalid message (read >>= next)) := by
  cases outcome : read with
  | error e => exact (fails _).symm
  | ok value => exact rest value outcome

end Groups

theorem parseQueueSpec_eq (value : ConfigValue) :
    parseQueueSpec value = some (RabbitMqBus.parseQueueSpec value) := by
  unfold parseQueueSpec RabbitMqBus.parseQueueSpec
  simp only [getRequiredStringField_eq, getOptionalBoolField_eq, getOptionalArgumentsField_eq,
    Option.bind_eq_bind, Option.bind_some, Option.pure_def, Bool.or_assoc]
  cases RabbitMqBus.getRequiredStringField value "name" with
  | error e => rfl
  | ok name =>
    refine group_cons fun durable durableRead => ?_
    refine group_cons fun autoDelete autoDeleteRead => ?_
    refine group_cons fun passive passiveRead => ?_
    refine group_cons fun exclusive exclusiveRead => ?_
    refine group_last fun arguments argumentsRead => ?_
    simp only [durableRead, autoDeleteRead, passiveRead, exclusiveRead, argumentsRead, valueOf_ok,
      Option.bind_some]
    rfl

theorem parseExchangeSpec_eq (value : ConfigValue) :
    parseExchangeSpec value = some (RabbitMqBus.parseExchangeSpec value) := by
  unfold parseExchangeSpec RabbitMqBus.parseExchangeSpec
  simp only [getRequiredStringField_eq, getOptionalStringField_eq, getOptionalBoolField_eq,
    getOptionalArgumentsField_eq, Option.bind_eq_bind, Option.bind_some, Option.pure_def,
    Bool.or_assoc]
  cases RabbitMqBus.getRequiredStringField value "name" with
  | error e => rfl
  | ok name =>
    cases RabbitMqBus.getOptionalStringField value "type" "direct" with
    | error e => rfl
    | ok typeString =>
      refine group_cons fun type typeParsed => ?_
      refine group_cons fun durable durableRead => ?_
      refine group_cons fun autoDelete autoDeleteRead => ?_
      refine group_cons fun passive passiveRead => ?_
      refine group_cons fun internal internalRead => ?_
      refine group_last fun arguments argumentsRead => ?_
      simp only [typeParsed, durableRead, autoDeleteRead, passiveRead, internalRead,
        argumentsRead, valueOf_ok, Option.bind_some]
      rfl

theorem parseBindingSpec_eq (value : ConfigValue) :
    parseBindingSpec value = some (RabbitMqBus.parseBindingSpec value) := by
  unfold parseBindingSpec RabbitMqBus.parseBindingSpec
  simp only [getRequiredStringField_eq, getOptionalStringField_eq, getOptionalArgumentsField_eq,
    Option.bind_eq_bind, Option.bind_some, Option.pure_def, Bool.or_assoc]
  refine group_cons fun exchange exchangeRead => ?_
  refine group_cons fun queue queueRead => ?_
  refine group_cons fun routingKey routingKeyRead => ?_
  refine group_last fun arguments argumentsRead => ?_
  simp only [exchangeRead, queueRead, routingKeyRead, argumentsRead, valueOf_ok, Option.bind_some]
  rfl

theorem parsePublisherSpec_eq (value : ConfigValue) :
    parsePublisherSpec value = some (RabbitMqBus.parsePublisherSpec value) := by
  unfold parsePublisherSpec RabbitMqBus.parsePublisherSpec
  simp only [getRequiredStringField_eq, getOptionalStringField_eq, getOptionalBoolField_eq,
    getOptionalArgumentsField_eq, Option.bind_eq_bind, Option.bind_some, Option.pure_def,
    Bool.or_assoc]
  refine group_cons fun name nameRead => ?_
  refine group_cons fun exchange exchangeRead => ?_
  refine group_cons fun routingKey routingKeyRead => ?_
  refine group_cons fun contentType contentTypeRead => ?_
  refine group_cons fun persistent persistentRead => ?_
  refine group_last fun headers headersRead => ?_
  simp only [nameRead, exchangeRead, routingKeyRead, contentTypeRead, headersRead,
    persistentRead, valueOf_ok, Option.bind_some]
  rfl

/-- The range check of `prefetch_count`, once the fields of a consumer are read. -/
def checkPrefetchCount : Result (ConsumerSpec × Int64) → Option (Result ConsumerSpec)
  | .error e => some (.error e)
  | .ok (spec, prefetchCount) =>
      some (if prefetchCount < 0 || prefetchCount > 65535 then
        .error (makeParseError "Consumer prefetch_count must be within uint16 range")
      else .ok spec)

theorem parseConsumerSpec_fields (value : ConfigValue) :
    some (RabbitMqBus.parseConsumerSpec value) =
      checkPrefetchCount (parseConsumerFields value) := by
  unfold RabbitMqBus.parseConsumerSpec
  cases parseConsumerFields value with
  | error e => rfl
  | ok fields => rfl

theorem parseConsumerSpec_eq (value : ConfigValue) :
    parseConsumerSpec value = some (RabbitMqBus.parseConsumerSpec value) := by
  rw [parseConsumerSpec_fields]
  unfold parseConsumerSpec parseConsumerFields
  simp only [getRequiredStringField_eq, getOptionalStringField_eq, getOptionalBoolField_eq,
    getOptionalInt64Field_eq, getOptionalArgumentsField_eq, Option.bind_eq_bind,
    Option.bind_some, Option.pure_def, Bool.or_assoc]
  refine group_cons fun name nameRead => ?_
  refine group_cons fun queue queueRead => ?_
  refine group_cons fun consumerTag consumerTagRead => ?_
  refine group_cons fun autoAck autoAckRead => ?_
  refine group_cons fun exclusive exclusiveRead => ?_
  refine group_cons fun noLocal noLocalRead => ?_
  refine group_cons fun prefetchCount prefetchCountRead => ?_
  refine group_last fun arguments argumentsRead => ?_
  simp only [nameRead, queueRead, consumerTagRead, autoAckRead, exclusiveRead, noLocalRead,
    prefetchCountRead, argumentsRead, valueOf_ok, Option.bind_some, pure_eq_ok, orInvalid_of_ok,
    checkPrefetchCount]
  split
  · rfl
  · rfl

/-- The loop of `ParseUniqueArray` from element `index` on, with the keys seen before it. -/
def parseUniqueFrom {α : Type} (collectionName : String)
    (parser : ConfigValue → Option (Result α)) (keyExtractor : α → String) :
    List ConfigValue → Nat → List String → Option (Result (List α))
  | [], _, _ => some (.ok [])
  | value :: values, index, seenKeys => do
      if !value.isObject then
        return .error (makeParseError
          (collectionName ++ "[" ++ toString index ++ "] must be an object"))
      let parsed ← parser value
      if let .error e := parsed then
        return .error ⟨e.code, buildMessage
          ("Failed to parse " ++ collectionName ++ "[" ++ toString index ++ "]") e.message⟩
      let key := keyExtractor (← valueOf parsed)
      if seenKeys.contains key then
        return .error ⟨.alreadyExists, "Duplicate entry '" ++ key ++ "' in collection '" ++
          collectionName ++ "'"⟩
      let item ← valueOf parsed
      return (← parseUniqueFrom collectionName parser keyExtractor values (index + 1)
        (key :: seenKeys)).map (item :: ·)

def parseUniqueArray {α : Type} (values : List ConfigValue) (collectionName : String)
    (parser : ConfigValue → Option (Result α)) (keyExtractor : α → String) :
    Option (Result (List α)) :=
  parseUniqueFrom collectionName parser keyExtractor values 0 []

theorem parseUniqueFrom_eq {α : Type} {collectionName : String}
    {checked : ConfigValue → Option (Result α)} {parser : ConfigValue → Result α}
    {keyExtractor : α → String} (agrees : ∀ value, checked value = some (parser value))
    (values : List ConfigValue) (index : Nat) (seenKeys : List String) :
    parseUniqueFrom collectionName checked keyExtractor values index seenKeys =
      some (RabbitMqBus.parseUniqueFrom collectionName parser keyExtractor values index
        seenKeys) := by
  induction values generalizing index seenKeys with
  | nil => rfl
  | cons value values ih =>
    rw [parseUniqueFrom, RabbitMqBus.parseUniqueFrom, agrees]
    cases value.isObject with
    | false => rfl
    | true =>
      cases parsed : parser value with
      | error e => rfl
      | ok item =>
        simp only [valueOf_ok, ih, Option.bind_eq_bind, Option.bind_some, Option.pure_def]
        cases seenKeys.contains (keyExtractor item) with
        | true => rfl
        | false =>
          cases RabbitMqBus.parseUniqueFrom collectionName parser keyExtractor values (index + 1)
            (keyExtractor item :: seenKeys) with
          | error e => rfl
          | ok output => rfl

theorem parseUniqueArray_eq {α : Type} {collectionName : String}
    {checked : ConfigValue → Option (Result α)} {parser : ConfigValue → Result α}
    {keyExtractor : α → String} {values : List ConfigValue}
    (agrees : ∀ value, checked value = some (parser value)) :
    parseUniqueArray values collectionName checked keyExtractor =
      some (RabbitMqBus.parseUniqueArray values collectionName parser keyExtractor) :=
  parseUniqueFrom_eq agrees values 0 []

/-! ## The whole configuration -/

/-- `ParseBusConfig` from the reading of the arrays on. -/
def parseBusArrays (configValue : ConfigValue) (connection : ConnectionConfig)
    (workerThreadCount : UInt64) (topology : Result ConfigValue) :
    Option (Result RabbitMqBusConfig) := do
  let exchanges ← getOptionalArrayField (← valueOf topology) "exchanges"
  let queues ← getOptionalArrayField (← valueOf topology) "queues"
  let bindings ← getOptionalArrayField (← valueOf topology) "bindings"
  let publishers ← getOptionalArrayField configValue "publishers"
  let consumers ← getOptionalArrayField configValue "consumers"
  if !isOk exchanges || !isOk queues || !isOk bindings || !isOk publishers ||
      !isOk consumers then
    return .error (makeParseError "RabbitMQ arrays must be arrays when provided")
  let parseExchanges ← parseUniqueArray (← valueOf exchanges) "topology.exchanges"
    parseExchangeSpec ExchangeSpec.name
  let parseQueues ← parseUniqueArray (← valueOf queues) "topology.queues" parseQueueSpec
    QueueSpec.name
  let parseBindings ← parseUniqueArray (← valueOf bindings) "topology.bindings" parseBindingSpec
    bindingKey
  let parsePublishers ← parseUniqueArray (← valueOf publishers) "publishers" parsePublisherSpec
    PublisherSpec.name
  let parseConsumers ← parseUniqueArray (← valueOf consumers) "consumers" parseConsumerSpec
    ConsumerSpec.name
  -- all five are parsed before the first of them that failed is returned
  let collections : Result RabbitMqBusConfig := do
    let exchanges ← parseExchanges
    let queues ← parseQueues
    let bindings ← parseBindings
    let publishers ← parsePublishers
    let consumers ← parseConsumers
    return { connection, workerThreadCount, exchanges, queues, bindings, publishers, consumers }
  return match collections with
    | .error e => .error e
    | .ok config =>
        match unknownReference config with
        | some e => .error e
        | none => .ok config

/-- `ParseBusConfig` from the reading of the `reconnect` fields on. -/
def parseBusSections (configValue : ConfigValue) (uri : Result String)
    (heartbeat socketTimeout : Result Int64) (reconnect : Result ConfigValue) :
    Option (Result RabbitMqBusConfig) := do
  let reconnectEnabled ← getOptionalBoolField (← valueOf reconnect) "enabled" true
  let reconnectInitial ← getOptionalInt64Field (← valueOf reconnect) "initial_delay_ms" 1000
  let reconnectMax ← getOptionalInt64Field (← valueOf reconnect) "max_delay_ms" 30000
  let workerPool ← getOptionalObjectField configValue "worker_pool"
  let threadCount ← getOptionalInt64Field (← valueOf workerPool) "thread_count" 4
  let topology ← getOptionalObjectField configValue "topology"
  if !isOk reconnectEnabled || !isOk reconnectInitial || !isOk reconnectMax ||
      !isOk workerPool || !isOk threadCount || !isOk topology then
    return .error (makeParseError "Invalid reconnect or worker_pool configuration")
  if (← valueOf heartbeat) < 0 || (← valueOf heartbeat) > 65535 then
    return .error (makeParseError "connection.heartbeat_seconds must be within uint16 range")
  if (← valueOf socketTimeout) < 10 || (← valueOf reconnectInitial) < 0 ||
      (← valueOf reconnectMax) < (← valueOf reconnectInitial) ||
      (← valueOf threadCount) ≤ 0 then
    return .error (makeParseError "Invalid timing or thread_count values in RabbitMQ config")
  let connection : ConnectionConfig :=
    { uri := ← valueOf uri
      heartbeatSeconds := (← valueOf heartbeat).toUInt64.toUInt16
      socketTimeoutMs := (← valueOf socketTimeout).toInt32
      reconnect :=
        { enabled := ← valueOf reconnectEnabled
          initialDelayMs := (← valueOf reconnectInitial).toInt32
          maxDelayMs := (← valueOf reconnectMax).toInt32 } }
  parseBusArrays configValue connection (← valueOf threadCount).toUInt64 topology

def parseBusConfig (configValue : ConfigValue) : Option (Result RabbitMqBusConfig) := do
  if !configValue.isObject then
    return .error (makeParseError "RabbitMQ bus config must be an object")
  let connection ← getRequiredObjectField configValue "connection"
  if let .error e := connection then
    return .error e
  let uri ← getRequiredStringField (← valueOf connection) "uri"
  let heartbeat ← getOptionalInt64Field (← valueOf connection) "heartbeat_seconds" 30
  let socketTimeout ← getOptionalInt64Field (← valueOf connection) "socket_timeout_ms" 100
  let reconnect ← getOptionalObjectField (← valueOf connection) "reconnect"
  if !isOk uri || !isOk heartbeat || !isOk socketTimeout || !isOk reconnect then
    return .error (makeParseError "Invalid connection configuration")
  parseBusSections configValue uri heartbeat socketTimeout reconnect

/-- The collections of a configuration, once the five arrays are read. -/
def collect (connection : ConnectionConfig) (workerThreadCount : UInt64) :
    Result (List ConfigValue × List ConfigValue × List ConfigValue × List ConfigValue ×
      List ConfigValue) → Option (Result RabbitMqBusConfig)
  | .error e => some (.error e)
  | .ok (exchanges, queues, bindings, publishers, consumers) =>
      some (match parseCollections connection workerThreadCount exchanges queues bindings
          publishers consumers with
        | .error e => .error e
        | .ok config =>
            match unknownReference config with
            | some e => .error e
            | none => .ok config)

theorem parseBusArrays_eq (configValue topology : ConfigValue) (connection : ConnectionConfig)
    (workerThreadCount : UInt64) :
    parseBusArrays configValue connection workerThreadCount (.ok topology) =
      collect connection workerThreadCount
        (orInvalid "RabbitMQ arrays must be arrays when provided" do
          let exchanges ← RabbitMqBus.getOptionalArrayField topology "exchanges"
          let queues ← RabbitMqBus.getOptionalArrayField topology "queues"
          let bindings ← RabbitMqBus.getOptionalArrayField topology "bindings"
          let publishers ← RabbitMqBus.getOptionalArrayField configValue "publishers"
          let consumers ← RabbitMqBus.getOptionalArrayField configValue "consumers"
          return (exchanges, queues, bindings, publishers, consumers)) := by
  unfold parseBusArrays
  refine bind_of_some (valueOf_ok topology) ?_
  refine bind_of_some getOptionalArrayField_eq ?_
  refine bind_of_some (valueOf_ok topology) ?_
  refine bind_of_some getOptionalArrayField_eq ?_
  refine bind_of_some (valueOf_ok topology) ?_
  refine bind_of_some getOptionalArrayField_eq ?_
  refine bind_of_some getOptionalArrayField_eq ?_
  refine bind_of_some getOptionalArrayField_eq ?_
  rw [Bool.or_assoc, Bool.or_assoc, Bool.or_assoc]
  refine group_cons fun exchanges exchangesRead => ?_
  refine group_cons fun queues queuesRead => ?_
  refine group_cons fun bindings bindingsRead => ?_
  refine group_cons fun publishers publishersRead => ?_
  refine group_last fun consumers consumersRead => ?_
  rw [exchangesRead, queuesRead, bindingsRead, publishersRead, consumersRead]
  refine bind_of_some (valueOf_ok exchanges) ?_
  refine bind_of_some (parseUniqueArray_eq parseExchangeSpec_eq) ?_
  refine bind_of_some (valueOf_ok queues) ?_
  refine bind_of_some (parseUniqueArray_eq parseQueueSpec_eq) ?_
  refine bind_of_some (valueOf_ok bindings) ?_
  refine bind_of_some (parseUniqueArray_eq parseBindingSpec_eq) ?_
  refine bind_of_some (valueOf_ok publishers) ?_
  refine bind_of_some (parseUniqueArray_eq parsePublisherSpec_eq) ?_
  refine bind_of_some (valueOf_ok consumers) ?_
  refine bind_of_some (parseUniqueArray_eq parseConsumerSpec_eq) ?_
  rfl

/-- The range checks, once the timing fields are read. -/
def checkTiming (configValue : ConfigValue) (uri : String) (heartbeat socketTimeout : Int64) :
    Result (Bool × Int64 × Int64 × Int64 × ConfigValue) → Option (Result RabbitMqBusConfig)
  | .error e => some (.error e)
  | .ok (enabled, initial, max, threadCount, topology) =>
      if heartbeat < 0 || heartbeat > 65535 then
        some (.error (makeParseError
          "connection.heartbeat_seconds must be within uint16 range"))
      else if socketTimeout < 10 || initial < 0 || max < initial || threadCount ≤ 0 then
        some (.error (makeParseError
          "Invalid timing or thread_count values in RabbitMQ config"))
      else
        parseBusArrays configValue
          { uri
            heartbeatSeconds := heartbeat.toUInt64.toUInt16
            socketTimeoutMs := socketTimeout.toInt32
            reconnect :=
              { enabled, initialDelayMs := initial.toInt32, maxDelayMs := max.toInt32 } }
          threadCount.toUInt64 (.ok topology)

/-- The part of the parse that follows the reading of the connection fields and of the worker
pool, as one group of timing fields that is then checked. -/
theorem parseBusSections_timing {configValue workerPool : ConfigValue}
    (workerPoolRead : RabbitMqBus.getOptionalObjectField configValue "worker_pool" =
      .ok workerPool)
    (uri : String) (heartbeat socketTimeout : Int64) (reconnect : ConfigValue) :
    RabbitMqBus.parseBusSections configValue uri heartbeat socketTimeout reconnect =
      checkTiming configValue uri heartbeat socketTimeout
        (orInvalid "Invalid reconnect or worker_pool configuration" do
          let enabled ← RabbitMqBus.getOptionalBoolField reconnect "enabled" true
          let initial ← RabbitMqBus.getOptionalInt64Field reconnect "initial_delay_ms" 1000
          let max ← RabbitMqBus.getOptionalInt64Field reconnect "max_delay_ms" 30000
          let threadCount ← RabbitMqBus.getOptionalInt64Field workerPool "thread_count" 4
          let topology ← RabbitMqBus.getOptionalObjectField configValue "topology"
          return (enabled, initial, max, threadCount, topology)) := by
  unfold RabbitMqBus.parseBusSections
  rw [workerPoolRead]
  dsimp only
  split
  · rename_i failed
    rw [failed]
    rfl
  · rename_i enabled initial max threadCount topology read
    rw [read, checkTiming]
    split
    · rfl
    · split
      · rfl
      · rw [parseBusArrays_eq]
        split
        · rename_i failed
          rw [failed]
          rfl
        · rename_i arraysRead
          rw [arraysRead]
          rfl

theorem parseBusSections_eq (configValue : ConfigValue) (uri : String)
    (heartbeat socketTimeout : Int64) (reconnect : ConfigValue) :
    parseBusSections configValue (.ok uri) (.ok heartbeat) (.ok socketTimeout) (.ok reconnect) =
      RabbitMqBus.parseBusSections configValue uri heartbeat socketTimeout reconnect := by
  unfold parseBusSections
  simp only [getOptionalBoolField_eq, getOptionalInt64Field_eq, getOptionalObjectField_eq,
    valueOf_ok, Option.bind_eq_bind, Option.bind_some, Option.pure_def, Bool.or_assoc]
  cases workerPoolRead : RabbitMqBus.getOptionalObjectField configValue "worker_pool" with
  | error e =>
    rw [RabbitMqBus.parseBusSections, workerPoolRead]
    rfl
  | ok workerPool =>
    rw [parseBusSections_timing workerPoolRead]
    simp only [valueOf_ok, Option.bind_some, isOk_ok, Bool.not_true, Bool.false_or]
    refine group_cons fun enabled enabledRead => ?_
    refine group_cons fun initial initialRead => ?_
    refine group_cons fun max maxRead => ?_
    refine group_cons fun threadCount threadCountRead => ?_
    refine group_last fun topology topologyRead => ?_
    simp only [enabledRead, initialRead, maxRead, threadCountRead, topologyRead, valueOf_ok,
      Option.bind_some, pure_eq_ok, orInvalid_of_ok, checkTiming, Bool.or_assoc]

/-- The rest of the parse, once the connection fields are read. -/
def parseRest (configValue : ConfigValue) :
    Result (String × Int64 × Int64 × ConfigValue) → Option (Result RabbitMqBusConfig)
  | .error e => some (.error e)
  | .ok (uri, heartbeat, socketTimeout, reconnect) =>
      RabbitMqBus.parseBusSections configValue uri heartbeat socketTimeout reconnect

/-- With every precondition of `Value()` written out, the parse has the same outcome. -/
theorem parseBusConfig_eq (configValue : ConfigValue) :
    parseBusConfig configValue = RabbitMqBus.parseBusConfig configValue := by
  unfold parseBusConfig RabbitMqBus.parseBusConfig
  simp only [getRequiredObjectField_eq, getRequiredStringField_eq, getOptionalInt64Field_eq,
    getOptionalObjectField_eq, Option.bind_eq_bind, Option.bind_some, Option.pure_def,
    Bool.or_assoc]
  cases configValue.isObject with
  | false => rfl
  | true =>
    cases RabbitMqBus.getRequiredObjectField configValue "connection" with
    | error e => rfl
    | ok connection =>
      show _ = parseRest configValue (orInvalid "Invalid connection configuration" _)
      simp only [valueOf_ok, Option.bind_some, Bool.not_true, Bool.false_eq_true, if_false]
      refine group_cons fun uri uriRead => ?_
      refine group_cons fun heartbeat heartbeatRead => ?_
      refine group_cons fun socketTimeout socketTimeoutRead => ?_
      refine group_last fun reconnect reconnectRead => ?_
      rw [uriRead, heartbeatRead, socketTimeoutRead, reconnectRead, parseBusSections_eq]
      rfl

end Checked

/-! ## When the preconditions hold -/

/-- The connection section is given and its fields have the expected types. -/
structure ConnectionGiven (root : ConfigValue) : Prop where
  object : root.isObject = true
  connection : (connectionSection root).isObject = true
  uri : ∃ uri, (connectionSection root).fieldOr "uri" .null = .string uri ∧ uri ≠ ""
  heartbeat : ∃ heartbeat,
    (connectionSection root).fieldOr "heartbeat_seconds" (.int64 30) = .int64 heartbeat
  socketTimeout : ∃ socketTimeout,
    (connectionSection root).fieldOr "socket_timeout_ms" (.int64 100) = .int64 socketTimeout
  reconnect : (reconnectSection root).isObject = true

/-- The parse of `root` takes the value of `Ok` results only, and what it does not accept it
answers with an error. -/
def ParsesSafely (root : ConfigValue) : Prop :=
  ∃ result, Checked.parseBusConfig root = some result ∧
    (¬ ValidBusConfig root → ∃ e, result = .error e)

theorem parseBusSections_isSome {configValue : ConfigValue} {uri : String}
    {heartbeat socketTimeout : Int64} {reconnect : ConfigValue} :
    (parseBusSections configValue uri heartbeat socketTimeout reconnect).isSome = true ↔
      (workerPoolSection configValue).isObject = true := by
  unfold parseBusSections
  cases workerPoolRead : getOptionalObjectField configValue "worker_pool" with
  | error e =>
    refine iff_of_false (by simp) ?_
    intro isObject
    rw [getOptionalObjectField_ok.mpr ⟨rfl, isObject⟩] at workerPoolRead
    cases workerPoolRead
  | ok workerPool =>
    obtain ⟨rfl, isObject⟩ := getOptionalObjectField_ok.mp workerPoolRead
    exact iff_of_true rfl isObject

/-- The parse has an outcome unless it gets as far as the worker pool, and that is no object. -/
theorem parseBusConfig_isSome {root : ConfigValue} :
    (parseBusConfig root).isSome = true ↔
      (ConnectionGiven root → (workerPoolSection root).isObject = true) := by
  unfold parseBusConfig
  split
  case isFalse notObject =>
    exact iff_of_true rfl fun given => absurd given.object notObject
  case isTrue object =>
    split
    case h_1 failed =>
      refine iff_of_true rfl ?_
      intro given
      rw [getRequiredObjectField_ok.mpr ⟨rfl, given.connection⟩] at failed
      cases failed
    case h_2 connectionRead =>
      obtain ⟨rfl, connectionObject⟩ := getRequiredObjectField_ok.mp connectionRead
      dsimp only
      split
      case h_1 failed =>
        refine iff_of_true rfl ?_
        intro given
        obtain ⟨uri, uriIs⟩ := given.uri
        obtain ⟨heartbeat, heartbeatIs⟩ := given.heartbeat
        obtain ⟨socketTimeout, socketTimeoutIs⟩ := given.socketTimeout
        rw [← connectionSection] at failed
        rw [getRequiredStringField_ok.mpr uriIs, getOptionalInt64Field_ok.mpr heartbeatIs,
          getOptionalInt64Field_ok.mpr socketTimeoutIs,
          getOptionalObjectField_ok.mpr ⟨rfl, given.reconnect⟩] at failed
        cases failed
      case h_2 fieldsRead =>
        simp only [orInvalid_ok, bind_eq_ok, getRequiredStringField_ok, getOptionalInt64Field_ok,
          getOptionalObjectField_ok, return_eq_ok, Prod.mk.injEq] at fieldsRead
        obtain ⟨uri, uriIs, heartbeat, heartbeatIs, socketTimeout, socketTimeoutIs, _,
          ⟨rfl, reconnectObject⟩, rfl, rfl, rfl, rfl⟩ := fieldsRead
        rw [parseBusSections_isSome]
        have given : ConnectionGiven root := ⟨object, connectionObject, ⟨uri, uriIs⟩,
          ⟨heartbeat, heartbeatIs⟩, ⟨socketTimeout, socketTimeoutIs⟩, reconnectObject⟩
        exact ⟨fun isObject _ => isObject, fun isObject => isObject given⟩

/-- Exactly the configurations whose connection section is refused, or whose `worker_pool` is
absent or an object, are parsed without a violated precondition. -/
theorem parsesSafely_iff (root : ConfigValue) :
    ParsesSafely root ↔
      (ConnectionGiven root → (workerPoolSection root).isObject = true) := by
  rw [ParsesSafely, Checked.parseBusConfig_eq, ← parseBusConfig_isSome]
  constructor
  · rintro ⟨result, parsed, -⟩
    rw [parsed]
    rfl
  · intro outcome
    obtain ⟨result, parsed⟩ := Option.isSome_iff_exists.mp outcome
    refine ⟨result, parsed, fun malformed => ?_⟩
    cases result with
    | error e => exact ⟨e, rfl⟩
    | ok config => exact absurd (parseBusConfig_sound parsed).valid malformed

/-- A worker pool that is given as a text. -/
theorem workerPool_precondition_violated :
    ¬ ∀ root, ParsesSafely root := by
  intro safe
  obtain ⟨result, parsed, -⟩ := safe (.object [
    ("connection", .object [("uri", .string "amqp://localhost/")]),
    ("worker_pool", .string "four")])
  cases parsed

end ModuleContext.RabbitMqBus
