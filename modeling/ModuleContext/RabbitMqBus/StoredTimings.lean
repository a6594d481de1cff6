import ModuleContext.RabbitMqBus.ConfigSchema

/-!
# Timings after narrowing

`ParseBusConfig` checks timings as 64-bit values and stores them as 32-bit ones. What was
checked holds of the stored values exactly if the given ones fit.
-/

namespace ModuleContext.RabbitMqBus
open Foundation Misc

/-- The timings are stored as they are given, and so the stored ones satisfy what the parse has
checked of the given ones. -/
structure BusSettings.StoredExactly (given : BusSettings) (connection : ConnectionConfig) :
    Prop where
  socketTimeout : connection.socketTimeoutMs.toInt = given.socketTimeoutMs.toInt
  initialDelay : connection.reconnect.initialDelayMs.toInt = given.initialDelayMs.toInt
  maxDelay : connection.reconnect.maxDelayMs.toInt = given.maxDelayMs.toInt
  socketTimeoutRange : 10 ≤ connection.socketTimeoutMs.toInt
  delayRange : 0 ≤ connection.reconnect.initialDelayMs.toInt ∧
    connection.reconnect.initialDelayMs.toInt ≤ connection.reconnect.maxDelayMs.toInt

/-- A configuration gives its values only once. -/
theorem BusSettings.GivenBy.unique {given other : BusSettings} {root : ConfigValue}
    (first : given.GivenBy root) (second : other.GivenBy root) : given = other := by
  have uri := first.uri.symm.trans second.uri
  have heartbeat := first.heartbeat.symm.trans second.heartbeat
  have socketTimeout := first.socketTimeout.symm.trans second.socketTimeout
  have enabled := first.enabled.symm.trans second.enabled
  have initialDelay := first.initialDelay.symm.trans second.initialDelay
  have maxDelay := first.maxDelay.symm.trans second.maxDelay
  have threadCount := first.threadCount.symm.trans second.threadCount
  rw [ConfigValue.string.injEq] at uri
  rw [ConfigValue.bool.injEq] at enabled
  rw [ConfigValue.int64.injEq] at heartbeat socketTimeout initialDelay maxDelay threadCount
  cases given
  cases other
  simp_all

/-- A nonnegative value survives the narrowing exactly if it fits. -/
theorem toInt_narrowed_iff {n : Int64} (nonneg : 0 ≤ n.toInt) :
    n.toInt32.toInt = n.toInt ↔ n.toInt ≤ 2147483647 := by
  constructor
  · intro same
    have limit := n.toInt32.toInt_lt
    omega
  · intro fits
    rw [Int64.toInt_toInt32]
    apply Int.bmod_eq_of_le <;> omega

/-- The stored timings are exact for just those configurations whose socket timeout and largest
delay fit into 32 bits. -/
theorem storedExactly_iff {root : ConfigValue} {config : RabbitMqBusConfig} {given : BusSettings}
    (accepted : parseBusConfig root = some (.ok config)) (isGiven : given.GivenBy root) :
    given.StoredExactly config.connection ↔
      given.socketTimeoutMs.toInt ≤ 2147483647 ∧ given.maxDelayMs.toInt ≤ 2147483647 := by
  obtain ⟨other, otherGiven, sameConnection, -⟩ := (parseBusConfig_sound accepted).settings
  cases isGiven.unique otherGiven
  rw [sameConnection]
  have timeoutRange : 10 ≤ given.socketTimeoutMs.toInt :=
    Int64.le_iff_toInt_le.mp isGiven.socketTimeoutRange
  have initialRange : 0 ≤ given.initialDelayMs.toInt :=
    Int64.le_iff_toInt_le.mp isGiven.delayRange.1
  have maxRange := Int64.le_iff_toInt_le.mp isGiven.delayRange.2
  have timeoutExact := @toInt_narrowed_iff given.socketTimeoutMs (by omega)
  have initialExact := toInt_narrowed_iff initialRange
  have maxExact := @toInt_narrowed_iff given.maxDelayMs (by omega)
  constructor
  · intro exact'
    exact ⟨timeoutExact.mp exact'.socketTimeout, maxExact.mp exact'.maxDelay⟩
  · rintro ⟨timeoutFits, maxFits⟩
    have socketTimeout := timeoutExact.mpr timeoutFits
    have initialDelay := initialExact.mpr (by omega)
    have maxDelay := maxExact.mpr maxFits
    refine ⟨socketTimeout, initialDelay, maxDelay, ?_, ?_, ?_⟩
    · exact socketTimeout ▸ timeoutRange
    · exact initialDelay ▸ initialRange
    · show given.initialDelayMs.toInt32.toInt ≤ given.maxDelayMs.toInt32.toInt
      omega

/-- A configuration with nothing but a connection. -/
def timedConfigValue (socketTimeout initialDelay maxDelay : Int64) : ConfigValue :=
  .object [("connection", .object [("uri", .string "amqp://localhost/"),
    ("socket_timeout_ms", .int64 socketTimeout),
    ("reconnect", .object [("initial_delay_ms", .int64 initialDelay),
      ("max_delay_ms", .int64 maxDelay)])])]

/-- What is stored for such a configuration. -/
def timedConfig (socketTimeout initialDelay maxDelay : Int32) : RabbitMqBusConfig :=
  { connection :=
      { uri := "amqp://localhost/"
        heartbeatSeconds := 30
        socketTimeoutMs := socketTimeout
        reconnect :=
          { enabled := true, initialDelayMs := initialDelay, maxDelayMs := maxDelay } }
    workerThreadCount := 4
    exchanges := [], queues := [], bindings := [], publishers := [], consumers := [] }

def timedSettings (socketTimeout initialDelay maxDelay : Int64) : BusSettings :=
  ⟨"amqp://localhost/", 30, socketTimeout, true, initialDelay, maxDelay, 4⟩

theorem timedConfigValue_given {socketTimeout initialDelay maxDelay : Int64}
    (socketTimeoutRange : 10 ≤ socketTimeout)
    (delayRange : 0 ≤ initialDelay ∧ initialDelay ≤ maxDelay) :
    (timedSettings socketTimeout initialDelay maxDelay).GivenBy
      (timedConfigValue socketTimeout initialDelay maxDelay) :=
  ⟨rfl, rfl, rfl, by simp [timedSettings], rfl, by simp only [timedSettings]; decide, rfl,
    socketTimeoutRange, rfl, rfl, rfl, rfl, delayRange, rfl, rfl,
    by simp only [timedSettings]; decide, rfl⟩

/-- Timings that fit: the timeouts of one hour and one day. -/
theorem storedExactly_iff_fits :
    (timedSettings 3600000 0 86400000).StoredExactly (timedConfig 3600000 0 86400000).connection :=
  (@storedExactly_iff (timedConfigValue 3600000 0 86400000) (timedConfig 3600000 0 86400000)
    (timedSettings 3600000 0 86400000) rfl
    (timedConfigValue_given (by decide) (by decide))).mpr (by decide)

/-- A socket timeout of `2 ^ 32` is stored as zero, and a largest delay of `2 ^ 31` as a negative
number. -/
theorem stored_wrapped :
    ¬ ∀ (root : ConfigValue) (config : RabbitMqBusConfig) (given : BusSettings),
      parseBusConfig root = some (.ok config) → given.GivenBy root →
      given.StoredExactly config.connection := by
  intro exact'
  have accepted : parseBusConfig (timedConfigValue 4294967296 1 2147483648) =
      some (.ok (timedConfig 0 1 (-2147483648))) := rfl
  have stored := exact' _ _ _ accepted (timedConfigValue_given (by decide) (by decide))
  have timeout : (0 : Int) = 4294967296 := stored.socketTimeout
  omega

end ModuleContext.RabbitMqBus
