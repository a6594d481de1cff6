import ModuleContext.RabbitMqBus.ConfigSchema

/-!
# Written configurations

The repository only reads configurations. A writer is given here that writes every field out;
`ParseBusConfig` reads back what it writes, for just those configurations whose timings are in
range. Which configurations a parse can yield at all is a weaker condition: the ranges are
checked before timings are narrowed, so that any stored timings have a document.
-/

namespace ModuleContext.RabbitMqBus
open Foundation Misc

/-! ## The writer -/

def ExchangeSpec.write (spec : ExchangeSpec) : ConfigValue :=
  .object [
    ("name", .string spec.name),
    ("type", .string spec.type.text),
    ("durable", .bool spec.durable),
    ("auto_delete", .bool spec.autoDelete),
    ("passive", .bool spec.passive),
    ("internal", .bool spec.internal),
    ("arguments", .object spec.arguments)]

def QueueSpec.write (spec : QueueSpec) : ConfigValue :=
  .object [
    ("name", .string spec.name),
    ("durable", .bool spec.durable),
    ("auto_delete", .bool spec.autoDelete),
    ("passive", .bool spec.passive),
    ("exclusive", .bool spec.exclusive),
    ("arguments", .object spec.arguments)]

def BindingSpec.write (spec : BindingSpec) : ConfigValue :=
  .object [
    ("exchange", .string spec.exchange),
    ("queue", .string spec.queue),
    ("routing_key", .string spec.routingKey),
    ("arguments", .object spec.arguments)]

def PublisherSpec.write (spec : PublisherSpec) : ConfigValue :=
  .object [
    ("name", .string spec.name),
    ("exchange", .string spec.exchange),
    ("routing_key", .string spec.routingKey),
    ("content_type", .string spec.contentType),
    ("headers", .object spec.headers),
    ("persistent", .bool spec.persistent)]

def ConsumerSpec.write (spec : ConsumerSpec) : ConfigValue :=
  .object [
    ("name", .string spec.name),
    ("queue", .string spec.queue),
    ("consumer_tag", .string spec.consumerTag),
    ("auto_ack", .bool spec.autoAck),
    ("exclusive", .bool spec.exclusive),
    ("no_local", .bool spec.noLocal),
    ("prefetch_count", .int64 spec.prefetchCount.toUInt64.toInt64),
    ("arguments", .object spec.arguments)]

/-- The document that gives the values `given` and describes the collections of `config`. -/
def RabbitMqBusConfig.writeWith (config : RabbitMqBusConfig) (given : BusSettings) :
    ConfigValue :=
  .object [
    ("connection", .object [
      ("uri", .string given.uri),
      ("heartbeat_seconds", .int64 given.heartbeatSeconds),
      ("socket_timeout_ms", .int64 given.socketTimeoutMs),
      ("reconnect", .object [
        ("enabled", .bool given.enabled),
        ("initial_delay_ms", .int64 given.initialDelayMs),
        ("max_delay_ms", .int64 given.maxDelayMs)])]),
    ("worker_pool", .object [("thread_count", .int64 given.threadCount)]),
    ("topology", .object [
      ("exchanges", .array (config.exchanges.map ExchangeSpec.write)),
      ("queues", .array (config.queues.map QueueSpec.write)),
      ("bindings", .array (config.bindings.map BindingSpec.write))]),
    ("publishers", .array (config.publishers.map PublisherSpec.write)),
    ("consumers", .array (config.consumers.map ConsumerSpec.write))]

/-- The stored values, widened to those of a document. -/
def RabbitMqBusConfig.settings (config : RabbitMqBusConfig) : BusSettings :=
  { uri := config.connection.uri
    heartbeatSeconds := config.connection.heartbeatSeconds.toUInt64.toInt64
    socketTimeoutMs := config.connection.socketTimeoutMs.toInt64
    enabled := config.connection.reconnect.enabled
    initialDelayMs := config.connection.reconnect.initialDelayMs.toInt64
    maxDelayMs := config.connection.reconnect.maxDelayMs.toInt64
    threadCount := config.workerThreadCount.toInt64 }

def RabbitMqBusConfig.write (config : RabbitMqBusConfig) : ConfigValue :=
  config.writeWith config.settings

/-! ## What can be read -/

/-- Everything that has to be named has a name. -/
structure RabbitMqBusConfig.Named (config : RabbitMqBusConfig) : Prop where
  exchanges : ∀ spec ∈ config.exchanges, spec.name ≠ ""
  queues : ∀ spec ∈ config.queues, spec.name ≠ ""
  bindings : ∀ spec ∈ config.bindings, spec.exchange ≠ "" ∧ spec.queue ≠ ""
  publishers : ∀ spec ∈ config.publishers, spec.name ≠ "" ∧ spec.exchange ≠ ""
  consumers : ∀ spec ∈ config.consumers, spec.name ≠ "" ∧ spec.queue ≠ ""

/-- What every stored configuration satisfies. -/
structure RabbitMqBusConfig.Admissible (config : RabbitMqBusConfig) : Prop where
  uri : config.connection.uri ≠ ""
  workerThreadCount : 0 < config.workerThreadCount.toInt64
  named : config.Named
  distinct : config.Distinct
  linked : config.Linked

/-- The stored timings lie in the ranges that are checked of the given ones. -/
structure RabbitMqBusConfig.TimingsInRange (config : RabbitMqBusConfig) : Prop where
  socketTimeout : 10 ≤ config.connection.socketTimeoutMs
  initialDelay : 0 ≤ config.connection.reconnect.initialDelayMs
  maxDelay : config.connection.reconnect.initialDelayMs ≤ config.connection.reconnect.maxDelayMs

/-- The ranges of the single values of a configuration. -/
structure BusSettings.InRange (given : BusSettings) : Prop where
  uri : given.uri ≠ ""
  heartbeat : 0 ≤ given.heartbeatSeconds ∧ given.heartbeatSeconds ≤ 65535
  socketTimeout : 10 ≤ given.socketTimeoutMs
  delays : 0 ≤ given.initialDelayMs ∧ given.initialDelayMs ≤ given.maxDelayMs
  threadCount : 0 < given.threadCount

/-- The values are stored as those of `config`. -/
structure BusSettings.StoredIn (given : BusSettings) (config : RabbitMqBusConfig) : Prop where
  connection : config.connection = given.connection
  workerThreadCount : config.workerThreadCount = given.threadCount.toUInt64

theorem BusSettings.GivenBy.inRange {given : BusSettings} {root : ConfigValue}
    (isGiven : given.GivenBy root) : given.InRange :=
  ⟨isGiven.uriNonempty, isGiven.heartbeatRange, isGiven.socketTimeoutRange, isGiven.delayRange,
    isGiven.threadCountRange⟩

section Written

variable {config : RabbitMqBusConfig} {given : BusSettings}

theorem BusSettings.InRange.givenBy_writeWith (inRange : given.InRange) :
    given.GivenBy (config.writeWith given) :=
  ⟨rfl, rfl, rfl, inRange.uri, rfl, inRange.heartbeat, rfl, inRange.socketTimeout, rfl, rfl, rfl,
    rfl, inRange.delays, rfl, rfl, inRange.threadCount, rfl⟩

/-- A document gives the values that are written into it, and no others. -/
theorem BusSettings.GivenBy.eq_written {other : BusSettings}
    (isGiven : other.GivenBy (config.writeWith given)) : other = given := by
  have uri : ConfigValue.string given.uri = _ := isGiven.uri
  have heartbeat : ConfigValue.int64 given.heartbeatSeconds = _ := isGiven.heartbeat
  have socketTimeout : ConfigValue.int64 given.socketTimeoutMs = _ := isGiven.socketTimeout
  have enabled : ConfigValue.bool given.enabled = _ := isGiven.enabled
  have initialDelay : ConfigValue.int64 given.initialDelayMs = _ := isGiven.initialDelay
  have maxDelay : ConfigValue.int64 given.maxDelayMs = _ := isGiven.maxDelay
  have threadCount : ConfigValue.int64 given.threadCount = _ := isGiven.threadCount
  cases given
  cases other
  simp_all

/-- A 16-bit value stays the same when it is widened. -/
theorem toInt_widened (n : UInt16) : n.toUInt64.toInt64.toInt = n.toNat := by
  have small := n.toNat_lt
  show n.toUInt64.toBitVec.toInt = n.toNat
  rw [BitVec.toInt_eq_toNat_bmod, UInt64.toNat_toBitVec, UInt16.toNat_toUInt64]
  apply Int.bmod_eq_of_le <;> omega

theorem RabbitMqBusConfig.Named.collectedFrom_writeWith (named : config.Named) :
    config.CollectedFrom (config.writeWith given) := by
  refine ⟨⟨_, rfl, related_map ?_⟩, ⟨_, rfl, related_map ?_⟩, ⟨_, rfl, related_map ?_⟩,
    ⟨_, rfl, related_map ?_⟩, ⟨_, rfl, related_map ?_⟩⟩
  · intro spec member
    exact ⟨rfl, rfl, named.exchanges spec member, rfl, rfl, rfl, rfl, rfl, rfl⟩
  · intro spec member
    exact ⟨rfl, rfl, named.queues spec member, rfl, rfl, rfl, rfl, rfl⟩
  · intro spec member
    obtain ⟨exchange, queue⟩ := named.bindings spec member
    exact ⟨rfl, rfl, exchange, rfl, queue, rfl, rfl⟩
  · intro spec member
    obtain ⟨name, exchange⟩ := named.publishers spec member
    exact ⟨rfl, rfl, name, rfl, exchange, rfl, rfl, rfl, rfl⟩
  · intro spec member
    obtain ⟨name, queue⟩ := named.consumers spec member
    exact ⟨rfl, rfl, name, rfl, queue, rfl, rfl, rfl, rfl,
      ⟨_, rfl, toInt_widened spec.prefetchCount⟩, rfl⟩

/-- A description only describes what is named. -/
theorem RabbitMqBusConfig.CollectedFrom.named {root : ConfigValue}
    (collected : config.CollectedFrom root) : config.Named := by
  obtain ⟨⟨_, -, exchanged⟩, ⟨_, -, queued⟩, ⟨_, -, bound⟩, ⟨_, -, published⟩,
    ⟨_, -, consumed⟩⟩ := collected
  constructor
  case exchanges =>
    intro spec member
    obtain ⟨_, -, described⟩ := exists_source exchanged member
    exact described.nameNonempty
  case queues =>
    intro spec member
    obtain ⟨_, -, described⟩ := exists_source queued member
    exact described.nameNonempty
  case bindings =>
    intro spec member
    obtain ⟨_, -, described⟩ := exists_source bound member
    exact ⟨described.exchangeNonempty, described.queueNonempty⟩
  case publishers =>
    intro spec member
    obtain ⟨_, -, described⟩ := exists_source published member
    exact ⟨described.nameNonempty, described.exchangeNonempty⟩
  case consumers =>
    intro spec member
    obtain ⟨_, -, described⟩ := exists_source consumed member
    exact ⟨described.nameNonempty, described.queueNonempty⟩

/-- Whatever a parse yields is admissible. -/
theorem RabbitMqBusConfig.ParsedFrom.admissible {root : ConfigValue}
    (parsed : config.ParsedFrom root) : config.Admissible := by
  obtain ⟨given, isGiven, sameConnection, sameThreads⟩ := parsed.settings
  refine ⟨?_, ?_, parsed.collections.named, parsed.distinct, parsed.linked⟩
  · rw [sameConnection]
    exact isGiven.uriNonempty
  · rw [sameThreads, Int64.toInt64_toUInt64]
    exact isGiven.threadCountRange

/-- An admissible configuration is read from any document that gives values it stores. -/
theorem RabbitMqBusConfig.Admissible.parse_writeWith (admissible : config.Admissible)
    (inRange : given.InRange) (stored : given.StoredIn config) :
    parseBusConfig (config.writeWith given) = some (.ok config) := by
  apply parseBusConfig_complete
  exact ⟨⟨given, inRange.givenBy_writeWith, stored.connection, stored.workerThreadCount⟩,
    admissible.named.collectedFrom_writeWith, admissible.distinct, admissible.linked⟩

/-! ## Reading back -/

theorem settings_storedIn : config.settings.StoredIn config := by
  constructor
  · simp [RabbitMqBusConfig.settings, BusSettings.connection]
  · simp [RabbitMqBusConfig.settings]

theorem widened_le {a b : Int32} : a.toInt64 ≤ b.toInt64 ↔ a ≤ b := by
  rw [Int64.le_iff_toInt_le, Int32.toInt_toInt64, Int32.toInt_toInt64, Int32.le_iff_toInt_le]

theorem widened_heartbeat (n : UInt16) :
    0 ≤ n.toUInt64.toInt64 ∧ n.toUInt64.toInt64 ≤ 65535 := by
  have small := n.toNat_lt
  have zero : (0 : Int64).toInt = 0 := rfl
  have limit : (65535 : Int64).toInt = 65535 := rfl
  rw [Int64.le_iff_toInt_le, Int64.le_iff_toInt_le, toInt_widened, zero, limit]
  omega

theorem settings_inRange (admissible : config.Admissible) :
    config.settings.InRange ↔ config.TimingsInRange := by
  have widenedTen : (10 : Int32).toInt64 = 10 := rfl
  have widenedZero : (0 : Int32).toInt64 = 0 := rfl
  constructor
  · intro inRange
    have socketTimeout := inRange.socketTimeout
    have initialDelay := inRange.delays.1
    have maxDelay := inRange.delays.2
    rw [← widenedTen] at socketTimeout
    rw [← widenedZero] at initialDelay
    exact ⟨widened_le.mp socketTimeout, widened_le.mp initialDelay, widened_le.mp maxDelay⟩
  · intro timings
    have socketTimeout := widened_le.mpr timings.socketTimeout
    have initialDelay := widened_le.mpr timings.initialDelay
    rw [widenedTen] at socketTimeout
    rw [widenedZero] at initialDelay
    exact ⟨admissible.uri, widened_heartbeat _, socketTimeout,
      ⟨initialDelay, widened_le.mpr timings.maxDelay⟩, admissible.workerThreadCount⟩

end Written

/-- Exactly the admissible configurations whose timings are in range are read back from what is
written for them. -/
theorem parseBusConfig_write (config : RabbitMqBusConfig) :
    parseBusConfig config.write = some (.ok config) ↔
      config.Admissible ∧ config.TimingsInRange := by
  constructor
  · intro accepted
    have parsed := parseBusConfig_sound accepted
    have admissible := parsed.admissible
    obtain ⟨given, isGiven, -⟩ := parsed.settings
    have written := isGiven.eq_written
    subst written
    exact ⟨admissible, (settings_inRange admissible).mp isGiven.inRange⟩
  · rintro ⟨admissible, timings⟩
    exact admissible.parse_writeWith ((settings_inRange admissible).mpr timings)
      settings_storedIn

/-! ## What can be stored at all -/

/-- Values that are in range and are stored as those of `config`, whatever its timings are: the
narrowing drops multiples of `2 ^ 32`. -/
def RabbitMqBusConfig.shiftedSettings (config : RabbitMqBusConfig) : BusSettings :=
  { config.settings with
    socketTimeoutMs := config.settings.socketTimeoutMs + 4294967296
    initialDelayMs := config.settings.initialDelayMs + 4294967296
    maxDelayMs := config.settings.maxDelayMs + 8589934592 }

theorem toInt32_shifted (n : Int32) {k : Int64} (dropped : k.toInt32 = 0) :
    (n.toInt64 + k).toInt32 = n := by
  rw [Int64.toInt32_add, dropped, Int32.toInt32_toInt64, Int32.add_zero]

theorem shiftedSettings_storedIn (config : RabbitMqBusConfig) :
    config.shiftedSettings.StoredIn config := by
  constructor
  · simp only [RabbitMqBusConfig.shiftedSettings, RabbitMqBusConfig.settings,
      BusSettings.connection, UInt64.toUInt64_toInt64, UInt16.toUInt16_toUInt64,
      @toInt32_shifted _ 4294967296 rfl, @toInt32_shifted _ 8589934592 rfl]
  · exact (UInt64.toUInt64_toInt64 config.workerThreadCount).symm

theorem toInt_shifted (n : Int32) {k : Int64} (nonneg : 0 ≤ k.toInt)
    (small : k.toInt ≤ 8589934592) : (n.toInt64 + k).toInt = n.toInt + k.toInt := by
  have lower := n.le_toInt
  have upper := n.toInt_lt
  rw [Int64.toInt_add, Int32.toInt_toInt64]
  apply Int.bmod_eq_of_le <;> omega

theorem shiftedSettings_inRange {config : RabbitMqBusConfig} (admissible : config.Admissible) :
    config.shiftedSettings.InRange := by
  have zero : (0 : Int64).toInt = 0 := rfl
  have ten : (10 : Int64).toInt = 10 := rfl
  have first : (4294967296 : Int64).toInt = 4294967296 := rfl
  have second : (8589934592 : Int64).toInt = 8589934592 := rfl
  have timeoutLower := config.connection.socketTimeoutMs.le_toInt
  have initialLower := config.connection.reconnect.initialDelayMs.le_toInt
  have initialUpper := config.connection.reconnect.initialDelayMs.toInt_lt
  have maxLower := config.connection.reconnect.maxDelayMs.le_toInt
  have timeout := toInt_shifted config.connection.socketTimeoutMs
    (k := 4294967296) (by omega) (by omega)
  have initial := toInt_shifted config.connection.reconnect.initialDelayMs
    (k := 4294967296) (by omega) (by omega)
  have max := toInt_shifted config.connection.reconnect.maxDelayMs
    (k := 8589934592) (by omega) (by omega)
  refine ⟨admissible.uri, widened_heartbeat _, ?_, ⟨?_, ?_⟩, admissible.workerThreadCount⟩
  · rw [Int64.le_iff_toInt_le, ten]
    show 10 ≤ (config.connection.socketTimeoutMs.toInt64 + 4294967296).toInt
    omega
  · rw [Int64.le_iff_toInt_le, zero]
    show 0 ≤ (config.connection.reconnect.initialDelayMs.toInt64 + 4294967296).toInt
    omega
  · rw [Int64.le_iff_toInt_le]
    show (config.connection.reconnect.initialDelayMs.toInt64 + 4294967296).toInt ≤
      (config.connection.reconnect.maxDelayMs.toInt64 + 8589934592).toInt
    omega

/-- A parse can yield exactly the admissible configurations, with any timings. -/
theorem parseBusConfig_yields (config : RabbitMqBusConfig) :
    (∃ root, parseBusConfig root = some (.ok config)) ↔ config.Admissible := by
  constructor
  · rintro ⟨root, accepted⟩
    exact (parseBusConfig_sound accepted).admissible
  · intro admissible
    exact ⟨_, admissible.parse_writeWith (shiftedSettings_inRange admissible)
      (shiftedSettings_storedIn config)⟩

end ModuleContext.RabbitMqBus
