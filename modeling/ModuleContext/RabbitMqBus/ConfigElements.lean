import ModuleContext.Foundation.ConfigField
import ModuleContext.RabbitMqBus.ParseBusConfig

/-!
# The elements of the bus configuration

What the readers of single fields and the parsers of single array elements accept. A field is
given or defaulted, and the defaults stand in the statements here.
-/

namespace ModuleContext.RabbitMqBus
open Foundation Misc

/-! The readers of single fields. -/

/-- A reader of an optional field reads the value that is given or, without the field, one that
reads as its fallback. -/
theorem getOptionalField_ok {α : Type} {expected : String} {root : ConfigValue} {key : String}
    {fallback x : α} (read : ConfigValue → Result α) (default : ConfigValue)
    (reads : read default = .ok fallback) :
    getOptionalField read expected root key fallback = .ok x ↔
      read (root.fieldOr key default) = .ok x := by
  unfold getOptionalField
  by_cases present : root.contains key = true
  · obtain ⟨value, found⟩ := ConfigValue.contains_iff.mp present
    rw [if_pos present, ConfigValue.fieldOr_of_found found, found]
    cases outcome : read value with
    | error e => simp [outcome]
    | ok result => simp [outcome]
  · rw [if_neg present, ConfigValue.fieldOr_of_absent present, reads]

section Readers

variable {root value : ConfigValue} {key : String}

@[simp] theorem getOptionalBoolField_ok {fallback b : Bool} :
    getOptionalBoolField root key fallback = .ok b ↔
      root.fieldOr key (.bool fallback) = .bool b := by
  rw [getOptionalBoolField, getOptionalField_ok ConfigValue.asBool (.bool fallback) rfl,
    ConfigValue.asBool_eq_ok]

@[simp] theorem getOptionalInt64Field_ok {fallback n : Int64} :
    getOptionalInt64Field root key fallback = .ok n ↔
      root.fieldOr key (.int64 fallback) = .int64 n := by
  rw [getOptionalInt64Field, getOptionalField_ok ConfigValue.asInt64 (.int64 fallback) rfl,
    ConfigValue.asInt64_eq_ok]

@[simp] theorem getOptionalStringField_ok {fallback text : String} :
    getOptionalStringField root key fallback = .ok text ↔
      root.fieldOr key (.string fallback) = .string text := by
  rw [getOptionalStringField, getOptionalField_ok ConfigValue.asString (.string fallback) rfl,
    ConfigValue.asString_eq_ok]

@[simp] theorem getOptionalArgumentsField_ok {fields : ConfigValue.Object} :
    getOptionalArgumentsField root key = .ok fields ↔
      root.fieldOr key (.object []) = .object fields := by
  rw [getOptionalArgumentsField, getOptionalField_ok ConfigValue.asObject (.object []) rfl,
    ConfigValue.asObject_eq_ok]

@[simp] theorem getOptionalArrayField_ok {items : List ConfigValue} :
    getOptionalArrayField root key = .ok items ↔
      root.fieldOr key (.array []) = .array items := by
  rw [getOptionalArrayField, getOptionalField_ok ConfigValue.asArray (.array []) rfl,
    ConfigValue.asArray_eq_ok]

@[simp] theorem getOptionalObjectField_ok :
    getOptionalObjectField root key = .ok value ↔
      root.fieldOr key (.object []) = value ∧ value.isObject = true := by
  rw [getOptionalObjectField, ConfigValue.makeObject, getOptionalField_ok (fun value =>
    if value.isObject then .ok value else .error ConfigValue.accessError) (.object []) rfl]
  split
  · rename_i isObject
    rw [Except.ok.injEq]
    exact ⟨fun same => ⟨same, same ▸ isObject⟩, fun same => same.1⟩
  · rename_i notObject
    exact iff_of_false (by simp) (fun same => notObject (same.1 ▸ same.2))

@[simp] theorem getRequiredStringField_ok {text : String} :
    getRequiredStringField root key = .ok text ↔
      root.fieldOr key .null = .string text ∧ text ≠ "" := by
  rw [← ConfigValue.objectGet_iff (by simp)]
  unfold getRequiredStringField
  cases found : root.objectGet key with
  | error e =>
    split
    · simp
    · simp
  | ok value =>
    rw [if_pos (ConfigValue.isObject_of_found found)]
    cases value <;> simp [ConfigValue.asString]
    case string other =>
      by_cases empty : other = ""
      · subst empty
        simp only [if_true, reduceCtorEq, false_iff, not_and, not_not]
        exact Eq.symm
      · simp only [empty, if_false, Except.ok.injEq]
        exact ⟨fun same => ⟨same, same ▸ empty⟩, fun same => same.1⟩

@[simp] theorem getRequiredObjectField_ok :
    getRequiredObjectField root key = .ok value ↔
      root.fieldOr key .null = value ∧ value.isObject = true := by
  unfold getRequiredObjectField
  cases found : root.objectGet key with
  | error e =>
    rw [ConfigValue.fieldOr_of_missing found]
    split
    · refine iff_of_false (by simp) ?_
      rintro ⟨rfl, isObject⟩
      cases isObject
    · refine iff_of_false (by simp) ?_
      rintro ⟨rfl, isObject⟩
      cases isObject
  | ok other =>
    rw [ConfigValue.fieldOr_of_found found, if_pos (ConfigValue.isObject_of_found found)]
    dsimp only
    split
    · rename_i isObject
      rw [Except.ok.injEq]
      exact ⟨fun same => ⟨same, same ▸ isObject⟩, fun same => same.1⟩
    · rename_i notObject
      exact iff_of_false (by simp) (fun same => notObject (same.1 ▸ same.2))

@[simp] theorem orInvalid_ok {α : Type} {message : String} {fields : Result α} {x : α} :
    orInvalid message fields = .ok x ↔ fields = .ok x := by
  cases fields <;> simp [orInvalid]

end Readers

/-! The specifications of array elements. `spec.DescribedBy value` says that the element is an
object whose fields, given or defaulted, have the expected types and make up `spec`. -/

/-- The text of an exchange type in a configuration. -/
def ExchangeType.text : ExchangeType → String
  | .direct => "direct"
  | .fanout => "fanout"
  | .topic => "topic"
  | .headers => "headers"

structure ExchangeSpec.DescribedBy (spec : ExchangeSpec) (value : ConfigValue) : Prop where
  object : value.isObject = true
  name : value.fieldOr "name" .null = .string spec.name
  nameNonempty : spec.name ≠ ""
  type : value.fieldOr "type" (.string "direct") = .string spec.type.text
  durable : value.fieldOr "durable" (.bool true) = .bool spec.durable
  autoDelete : value.fieldOr "auto_delete" (.bool false) = .bool spec.autoDelete
  passive : value.fieldOr "passive" (.bool false) = .bool spec.passive
  internal : value.fieldOr "internal" (.bool false) = .bool spec.internal
  arguments : value.fieldOr "arguments" (.object []) = .object spec.arguments

structure QueueSpec.DescribedBy (spec : QueueSpec) (value : ConfigValue) : Prop where
  object : value.isObject = true
  name : value.fieldOr "name" .null = .string spec.name
  nameNonempty : spec.name ≠ ""
  durable : value.fieldOr "durable" (.bool true) = .bool spec.durable
  autoDelete : value.fieldOr "auto_delete" (.bool false) = .bool spec.autoDelete
  passive : value.fieldOr "passive" (.bool false) = .bool spec.passive
  exclusive : value.fieldOr "exclusive" (.bool false) = .bool spec.exclusive
  arguments : value.fieldOr "arguments" (.object []) = .object spec.arguments

structure BindingSpec.DescribedBy (spec : BindingSpec) (value : ConfigValue) : Prop where
  object : value.isObject = true
  exchange : value.fieldOr "exchange" .null = .string spec.exchange
  exchangeNonempty : spec.exchange ≠ ""
  queue : value.fieldOr "queue" .null = .string spec.queue
  queueNonempty : spec.queue ≠ ""
  routingKey : value.fieldOr "routing_key" (.string "") = .string spec.routingKey
  arguments : value.fieldOr "arguments" (.object []) = .object spec.arguments

structure PublisherSpec.DescribedBy (spec : PublisherSpec) (value : ConfigValue) : Prop where
  object : value.isObject = true
  name : value.fieldOr "name" .null = .string spec.name
  nameNonempty : spec.name ≠ ""
  exchange : value.fieldOr "exchange" .null = .string spec.exchange
  exchangeNonempty : spec.exchange ≠ ""
  routingKey : value.fieldOr "routing_key" (.string "") = .string spec.routingKey
  contentType : value.fieldOr "content_type" (.string "") = .string spec.contentType
  headers : value.fieldOr "headers" (.object []) = .object spec.headers
  persistent : value.fieldOr "persistent" (.bool true) = .bool spec.persistent

structure ConsumerSpec.DescribedBy (spec : ConsumerSpec) (value : ConfigValue) : Prop where
  object : value.isObject = true
  name : value.fieldOr "name" .null = .string spec.name
  nameNonempty : spec.name ≠ ""
  queue : value.fieldOr "queue" .null = .string spec.queue
  queueNonempty : spec.queue ≠ ""
  consumerTag : value.fieldOr "consumer_tag" (.string "") = .string spec.consumerTag
  autoAck : value.fieldOr "auto_ack" (.bool false) = .bool spec.autoAck
  exclusive : value.fieldOr "exclusive" (.bool false) = .bool spec.exclusive
  noLocal : value.fieldOr "no_local" (.bool false) = .bool spec.noLocal
  prefetchCount : ∃ count : Int64, value.fieldOr "prefetch_count" (.int64 1) = .int64 count ∧
    count.toInt = spec.prefetchCount.toNat
  arguments : value.fieldOr "arguments" (.object []) = .object spec.arguments

/-- A required field is only found in an object. -/
theorem isObject_of_required {value : ConfigValue} {key text : String}
    (required : value.fieldOr key .null = .string text) : value.isObject = true :=
  ConfigValue.isObject_of_found ((ConfigValue.objectGet_iff (by simp)).mpr required)

theorem parseExchangeTypeValue_ok {text : String} {type : ExchangeType} :
    parseExchangeTypeValue text = .ok type ↔ text = type.text := by
  constructor
  · intro parsed
    unfold parseExchangeTypeValue at parsed
    repeat' split at parsed
    all_goals cases parsed
    all_goals assumption
  · rintro rfl
    cases type <;> rfl

/-- What a parser returns at its end. -/
theorem return_eq_ok {α : Type} {x y : α} : (return x : Result α) = .ok y ↔ x = y := by
  show (Except.ok x : Result α) = .ok y ↔ x = y
  rw [Except.ok.injEq]

theorem pure_eq_ok {α : Type} {x : α} : (pure x : Result α) = .ok x := rfl

theorem ok_bind {α β : Type} {x : α} {next : α → Result β} :
    (.ok x : Result α) >>= next = next x := rfl

theorem orInvalid_of_ok {α : Type} {message : String} {x : α} :
    orInvalid message (.ok x) = .ok x := rfl

theorem parseExchangeSpec_ok {value : ConfigValue} {spec : ExchangeSpec} :
    parseExchangeSpec value = .ok spec ↔ spec.DescribedBy value := by
  unfold parseExchangeSpec
  cases name : getRequiredStringField value "name" with
  | error e =>
    refine iff_of_false (by simp) ?_
    intro described
    rw [getRequiredStringField_ok.mpr ⟨described.name, described.nameNonempty⟩] at name
    cases name
  | ok text =>
    simp only [orInvalid_ok, bind_eq_ok, getOptionalStringField_ok, parseExchangeTypeValue_ok,
      getOptionalBoolField_ok, getOptionalArgumentsField_ok, return_eq_ok]
    rw [getRequiredStringField_ok] at name
    constructor
    · rintro ⟨_, typeIs, type, rfl, durable, durableIs, autoDelete, autoDeleteIs, passive,
        passiveIs, internal, internalIs, arguments, argumentsAre, rfl⟩
      exact ⟨isObject_of_required name.1, name.1, name.2, typeIs, durableIs, autoDeleteIs,
        passiveIs, internalIs, argumentsAre⟩
    · intro described
      have same := described.name
      rw [name.1, ConfigValue.string.injEq] at same
      subst same
      exact ⟨_, described.type, _, rfl, _, described.durable, _, described.autoDelete, _,
        described.passive, _, described.internal, _, described.arguments, rfl⟩

theorem parseQueueSpec_ok {value : ConfigValue} {spec : QueueSpec} :
    parseQueueSpec value = .ok spec ↔ spec.DescribedBy value := by
  unfold parseQueueSpec
  cases name : getRequiredStringField value "name" with
  | error e =>
    refine iff_of_false (by simp) ?_
    intro described
    rw [getRequiredStringField_ok.mpr ⟨described.name, described.nameNonempty⟩] at name
    cases name
  | ok text =>
    simp only [orInvalid_ok, bind_eq_ok, getOptionalBoolField_ok, getOptionalArgumentsField_ok,
      return_eq_ok]
    rw [getRequiredStringField_ok] at name
    constructor
    · rintro ⟨durable, durableIs, autoDelete, autoDeleteIs, passive, passiveIs, exclusive,
        exclusiveIs, arguments, argumentsAre, rfl⟩
      exact ⟨isObject_of_required name.1, name.1, name.2, durableIs, autoDeleteIs, passiveIs,
        exclusiveIs, argumentsAre⟩
    · intro described
      have same := described.name
      rw [name.1, ConfigValue.string.injEq] at same
      subst same
      exact ⟨_, described.durable, _, described.autoDelete, _, described.passive, _,
        described.exclusive, _, described.arguments, rfl⟩

theorem parseBindingSpec_ok {value : ConfigValue} {spec : BindingSpec} :
    parseBindingSpec value = .ok spec ↔ spec.DescribedBy value := by
  simp only [parseBindingSpec, orInvalid_ok, bind_eq_ok, getRequiredStringField_ok,
    getOptionalStringField_ok, getOptionalArgumentsField_ok, return_eq_ok]
  constructor
  · rintro ⟨exchange, exchangeIs, queue, queueIs, routingKey, routingKeyIs, arguments,
      argumentsAre, rfl⟩
    exact ⟨isObject_of_required queueIs.1, exchangeIs.1, exchangeIs.2, queueIs.1, queueIs.2,
      routingKeyIs, argumentsAre⟩
  · intro described
    exact ⟨_, ⟨described.exchange, described.exchangeNonempty⟩, _,
      ⟨described.queue, described.queueNonempty⟩, _, described.routingKey, _,
      described.arguments, rfl⟩

theorem parsePublisherSpec_ok {value : ConfigValue} {spec : PublisherSpec} :
    parsePublisherSpec value = .ok spec ↔ spec.DescribedBy value := by
  simp only [parsePublisherSpec, orInvalid_ok, bind_eq_ok, getRequiredStringField_ok,
    getOptionalStringField_ok, getOptionalBoolField_ok, getOptionalArgumentsField_ok,
    return_eq_ok]
  constructor
  · rintro ⟨name, nameIs, exchange, exchangeIs, routingKey, routingKeyIs, contentType,
      contentTypeIs, persistent, persistentIs, headers, headersAre, rfl⟩
    exact ⟨isObject_of_required nameIs.1, nameIs.1, nameIs.2, exchangeIs.1, exchangeIs.2,
      routingKeyIs, contentTypeIs, headersAre, persistentIs⟩
  · intro described
    exact ⟨_, ⟨described.name, described.nameNonempty⟩, _,
      ⟨described.exchange, described.exchangeNonempty⟩, _, described.routingKey, _,
      described.contentType, _, described.persistent, _, described.headers, rfl⟩

/-- Narrowing to 16 bits keeps the values that the range checks let through. -/
theorem toNat_narrowed {count : Int64} (nonneg : 0 ≤ count) (small : count ≤ 65535) :
    (count.toUInt64.toUInt16.toNat : Int) = count.toInt := by
  have bound : count.toInt ≤ 65535 := Int64.le_iff_toInt_le.mp small
  rw [UInt64.toNat_toUInt16, Int64.toNat_toUInt64_of_le nonneg]
  have exact' := Int64.cast_toNatClampNeg count nonneg
  omega

theorem parseConsumerSpec_ok {value : ConfigValue} {spec : ConsumerSpec} :
    parseConsumerSpec value = .ok spec ↔ spec.DescribedBy value := by
  unfold parseConsumerSpec
  constructor
  · intro parsed
    cases fields : parseConsumerFields value with
    | error e => simp [fields] at parsed
    | ok result =>
      obtain ⟨given, count⟩ := result
      simp only [fields] at parsed
      by_cases outside : (count < 0 || count > 65535) = true
      · simp [outside] at parsed
      rw [if_neg outside, Except.ok.injEq] at parsed
      subst parsed
      simp only [Bool.or_eq_true, decide_eq_true_eq, not_or, Int64.not_lt] at outside
      simp only [parseConsumerFields, orInvalid_ok, bind_eq_ok, getRequiredStringField_ok,
        getOptionalStringField_ok, getOptionalBoolField_ok, getOptionalInt64Field_ok,
        getOptionalArgumentsField_ok, return_eq_ok, Prod.mk.injEq] at fields
      obtain ⟨name, nameIs, queue, queueIs, consumerTag, consumerTagIs, autoAck, autoAckIs,
        exclusive, exclusiveIs, noLocal, noLocalIs, prefetch, prefetchIs, arguments,
        argumentsAre, rfl, rfl⟩ := fields
      exact ⟨isObject_of_required nameIs.1, nameIs.1, nameIs.2, queueIs.1, queueIs.2,
        consumerTagIs, autoAckIs, exclusiveIs, noLocalIs,
        ⟨prefetch, prefetchIs, (toNat_narrowed outside.1 outside.2).symm⟩, argumentsAre⟩
  · intro described
    obtain ⟨count, countIs, countEq⟩ := described.prefetchCount
    have small := spec.prefetchCount.toNat_lt
    have nonneg : 0 ≤ count := by
      rw [Int64.le_iff_toInt_le, countEq]
      exact Int.natCast_nonneg _
    have bounded : count ≤ 65535 := by
      rw [Int64.le_iff_toInt_le, countEq]
      have limit : (65535 : Int64).toInt = 65535 := by decide
      omega
    have narrowed : count.toUInt64.toUInt16 = spec.prefetchCount := by
      rw [← UInt16.toNat_inj]
      have same := toNat_narrowed nonneg bounded
      omega
    have fields : parseConsumerFields value = .ok (spec, count) := by
      simp only [parseConsumerFields, orInvalid_ok, bind_eq_ok, getRequiredStringField_ok,
        getOptionalStringField_ok, getOptionalBoolField_ok, getOptionalInt64Field_ok,
        getOptionalArgumentsField_ok, return_eq_ok, Prod.mk.injEq]
      exact ⟨_, ⟨described.name, described.nameNonempty⟩, _,
        ⟨described.queue, described.queueNonempty⟩, _, described.consumerTag, _,
        described.autoAck, _, described.exclusive, _, described.noLocal, _, countIs, _,
        described.arguments, by rw [narrowed], rfl⟩
    have inside : (count < 0 || count > 65535) = false := by
      simp only [Bool.or_eq_false_iff, decide_eq_false_iff_not, Int64.not_lt]
      exact ⟨nonneg, bounded⟩
    simp only [fields, inside]
    rfl

end ModuleContext.RabbitMqBus
