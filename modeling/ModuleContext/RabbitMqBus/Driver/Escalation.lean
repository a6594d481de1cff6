import ModuleContext.RabbitMqBus.Driver.ReconnectDelay

/-!
# Escalation of the delay

The delay is set back as soon as a socket is connected, before the handshake and the bootstrap
have shown that the broker can be used, and it is doubled on the loss of every connection. So
the delay after a failed attempt depends on the number of delays since the last connected
socket, and not on the number of failures since the bus was last up.
-/

namespace ModuleContext.RabbitMqBus.Driver
open Foundation Misc

section

variable [AmqpFields]

namespace State

/-- The time at which a step ends a failed attempt and schedules the next: `ConnectSocket` has
failed, or the connection is torn down before the bootstrap is complete. -/
def failsAttempt (s : State) (l : Label) : Option Int :=
  if s.state = .connected then none else s.schedules l

def starts (s : State) : Label → Bool
  | .start _ => !s.threadJoinable
  | _ => false

/-- The number of failed attempts in a row, since the driver was started or connected. -/
def failures : List (State × Label) → Nat
  | [] => 0
  | (s, l) :: past =>
      if s.starts l || s.state == .connected then 0
      else failures past + if (s.failsAttempt l).isSome then 1 else 0

/-- After the `n`-th failed attempt in a row, the delay has been doubled `n - 1` times. -/
def Escalates (reconnect : ReconnectConfig) (past : List (State × Label)) (s : State)
    (l : Label) : Prop :=
  ∀ time s', s.failsAttempt l = some time → s.step l = some s' →
    s'.nextReconnectAt = time + min
      (reconnect.initialDelayMs.toInt * 2 ^ (failures ((s, l) :: past) - 1))
      reconnect.maxDelayMs.toInt

/-- At a failed attempt, no doubling since the delay was set back has overflowed, and there
were as many failed attempts in a row as delays since then, or the delays do not depend on
these numbers. -/
def InStep (reconnect : ReconnectConfig) (past : List (State × Label)) (s : State)
    (l : Label) : Prop :=
  (s.failsAttempt l).isSome = true →
    (∀ n < backoffs past, exactDelay reconnect n < 2 ^ 30) ∧
      (failures ((s, l) :: past) = backoffs ((s, l) :: past) ∨
        reconnect.initialDelayMs.toInt = 0 ∨
        reconnect.maxDelayMs.toInt ≤
            reconnect.initialDelayMs.toInt * 2 ^ (failures ((s, l) :: past) - 1) ∧
          reconnect.maxDelayMs.toInt ≤
            reconnect.initialDelayMs.toInt * 2 ^ (backoffs ((s, l) :: past) - 1))

variable {s s' : State} {past : List (State × Label)}

theorem failsAttempt_schedules {l : Label} {time : Int} (fails : s.failsAttempt l = some time) :
    s.state ≠ .connected ∧ s.schedules l = some time := by
  unfold failsAttempt at fails
  split at fails
  · cases fails
  · rename_i unconnected
    exact ⟨unconnected, fails⟩

/-- A step that schedules an attempt neither starts the driver nor sets the delay back. -/
theorem schedules_keeps {l : Label} {time : Int} (schedules : s.schedules l = some time) :
    s.starts l = false ∧ s.resets l = false := by
  cases l with
  | connect outcome now =>
    cases outcome with
    | connected socketFd produced => cases schedules
    | failed e => exact ⟨rfl, rfl⟩
  | endTurn now stale => exact ⟨rfl, rfl⟩
  | finalDisconnect now => exact ⟨rfl, rfl⟩
  | _ => cases schedules

/-- The next attempt is scheduled after the delay as it was before the step. -/
theorem DelayStep.next {l : Label} {time : Int} (step : DelayStep s l s')
    (schedules : s.schedules l = some time) :
    s'.nextReconnectAt = time + s.reconnectDelayMs.toInt := by
  cases step with
  | reset resets delay config =>
    rw [(schedules_keeps schedules).2] at resets
    cases resets
  | scheduled keeps at' delay next config down state pc =>
    cases schedules.symm.trans at'
    exact next
  | kept keeps silent pace down =>
    rw [silent] at schedules
    cases schedules

theorem counts_fails {l : Label} {time : Int} (fails : s.failsAttempt l = some time) :
    failures ((s, l) :: past) = failures past + 1 ∧
      backoffs ((s, l) :: past) = backoffs past + 1 := by
  obtain ⟨unconnected, schedules⟩ := failsAttempt_schedules fails
  obtain ⟨unstarted, keeps⟩ := schedules_keeps schedules
  constructor
  · rw [failures, unstarted, fails]
    simp [unconnected]
  · exact backoffs_scheduled keeps schedules past

/-- The delay is exact, or a doubling has overflowed and has made it negative. -/
def Tracks (reconnect : ReconnectConfig) (past : List (State × Label)) (s : State) : Prop :=
  (∀ n < backoffs past, exactDelay reconnect n < 2 ^ 30) ∧
      s.reconnectDelayMs.toInt = exactDelay reconnect (backoffs past) ∨
    (∃ n < backoffs past, 2 ^ 30 ≤ exactDelay reconnect n) ∧ s.reconnectDelayMs.toInt < 0

/-- At a failed attempt, the scheduled delay is the escalated one exactly if both numbers fit. -/
theorem Tracks.delay_iff {l : Label} {reconnect : ReconnectConfig} {time : Int}
    (tracks : Tracks reconnect past s) (ordered : Ordered reconnect)
    (fails : s.failsAttempt l = some time) (taken : s.step l = some s')
    (next : s'.nextReconnectAt = time + s.reconnectDelayMs.toInt) :
    Escalates reconnect past s l ↔ InStep reconnect past s l := by
  obtain ⟨nonneg, le⟩ := ordered
  have expected : Escalates reconnect past s l ↔
      s.reconnectDelayMs.toInt = exactDelay reconnect (failures past) := by
    constructor
    · intro escalates
      have scheduled := escalates time s' fails taken
      rw [(counts_fails fails).1, next] at scheduled
      exact add_left_cancel scheduled
    · intro delay time' next' fails' taken'
      cases fails.symm.trans fails'
      cases taken.symm.trans taken'
      rw [(counts_fails fails).1, next, delay]
      rfl
  rw [expected, InStep, fails, (counts_fails fails).1, (counts_fails fails).2]
  simp only [Option.isSome_some, forall_const, Nat.add_right_cancel_iff, Nat.add_sub_cancel]
  rcases tracks with ⟨fits, isExact⟩ | ⟨⟨n, fewer, large⟩, negative⟩
  · rw [isExact]
    refine Iff.trans ?_ (and_iff_right fits).symm
    rw [exactDelay, exactDelay, eq_comm]
    exact backoff_eq_iff nonneg le (failures past) (backoffs past)
  · have expectedNonneg := nonneg.trans (le_backoff nonneg le (failures past))
    refine iff_of_false (fun delay => ?_) fun both => ?_
    · rw [delay] at negative
      exact absurd expectedNonneg (not_le_of_gt negative)
    · exact absurd (both.1 n fewer) (not_lt_of_ge large)

/-- A step keeps track of the delay, if it does not double a negative one. -/
theorem DelayStep.tracks {l : Label} {reconnect : ReconnectConfig} (step : DelayStep s l s')
    (ordered : Ordered reconnect) (same : s.config.connection.reconnect = reconnect)
    (doubles : (s.schedules l).isSome = true → 0 ≤ s.reconnectDelayMs.toInt)
    (tracks : Tracks reconnect past s) : Tracks reconnect ((s, l) :: past) s' := by
  obtain ⟨nonneg, le⟩ := ordered
  cases step with
  | reset resets delay config =>
    have none := backoffs_reset resets past
    refine Or.inl ⟨fun n fewer => ?_, ?_⟩
    · rw [none] at fewer
      exact absurd fewer (Nat.not_lt_zero n)
    · rw [none, delay, same]
      exact (backoff_zero le).symm
  | kept keeps silent pace down =>
    have count := backoffs_kept keeps silent past
    have delay : s'.reconnectDelayMs = s.reconnectDelayMs := congrArg Prod.fst pace
    unfold Tracks at tracks ⊢
    rwa [count, delay]
  | scheduled keeps schedules delay next config down state pc =>
    have count := backoffs_scheduled keeps schedules past
    have positive := doubles (by rw [schedules]; rfl)
    rcases tracks with ⟨fits, isExact⟩ | ⟨-, negative⟩
    · by_cases small : exactDelay reconnect (backoffs past) < 2 ^ 30
      · refine Or.inl ⟨fun n fewer => ?_, ?_⟩
        · rw [count, Nat.lt_succ_iff_lt_or_eq] at fewer
          rcases fewer with earlier | rfl
          · exact fits n earlier
          · exact small
        · rw [count, delay, same, toInt_doubleCapped positive (isExact ▸ small), isExact]
          exact (backoff_succ nonneg le _).symm
      · rw [not_lt] at small
        refine Or.inr ⟨⟨backoffs past, count ▸ Nat.lt_succ_self _, small⟩, ?_⟩
        rw [delay, same]
        exact doubleCapped_neg (nonneg.trans le) (isExact ▸ small)
    · exact absurd positive (not_le_of_gt negative)

/-! ## Runs -/

variable {config : RabbitMqBusConfig} {now : Int}

/-- After a delay, the next one is scheduled by a failed attempt: there is no connection to
lose before the delay is set back. -/
theorem run_failsAttempt {l : Label} (run : DriverRun config now past s)
    (some : backoffs past ≠ 0) : s.failsAttempt l = s.schedules l := by
  have down := (run_coherent run).down (run_backoffs_down run some)
  refine if_neg fun connected => ?_
  rw [(run_agrees run).state, down.1] at connected
  cases connected

/-- The delay that a step doubles is not negative, if the failed attempt escalates. -/
theorem doubles_nonneg {l : Label} (ordered : Ordered config.connection.reconnect)
    (run : DriverRun config now past s) (taken : s.step l = some s')
    (tracks : Tracks config.connection.reconnect past s)
    (escalates : Escalates config.connection.reconnect past s l)
    (schedules : (s.schedules l).isSome = true) : 0 ≤ s.reconnectDelayMs.toInt := by
  obtain ⟨nonneg, le⟩ := ordered
  rcases tracks with ⟨-, isExact⟩ | ⟨⟨n, fewer, -⟩, -⟩
  · rw [isExact]
    exact nonneg.trans (le_backoff nonneg le _)
  · have fails := run_failsAttempt (l := l) run (Nat.ne_zero_of_lt fewer)
    obtain ⟨time, at'⟩ := Option.isSome_iff_exists.mp schedules
    have scheduled := escalates time s' (fails.trans at') taken
    rw [(step_delayStep (run_coherent run) taken).next at',
      (counts_fails (fails.trans at')).1] at scheduled
    rw [add_left_cancel scheduled]
    exact nonneg.trans (le_backoff nonneg le (failures past))

/-- In a run, the delay after every failed attempt is the initial one, doubled once for every
earlier failed attempt in a row, exactly if it is kept in step with them. -/
theorem escalates_iff (config : RabbitMqBusConfig) (now : Int)
    (ordered : Ordered config.connection.reconnect) (past : List (State × Label)) (s : State)
    (run : DriverRun config now past s) :
    AllSteps (Escalates config.connection.reconnect) past ↔
      AllSteps (InStep config.connection.reconnect) past := by
  refine run.allSteps_iff_along (Tracks config.connection.reconnect)
    (Or.inl ⟨fun n fewer => absurd fewer (Nat.not_lt_zero n), (backoff_zero ordered.2).symm⟩)
    fun past s l s' before tracks taken => ?_
  have step := step_delayStep (run_coherent before) taken
  constructor
  · cases fails : s.failsAttempt l with
    | none =>
      refine iff_of_true (fun time next fails' => ?_) fun fails' => ?_
      · rw [fails] at fails'
        cases fails'
      · rw [fails] at fails'
        cases fails'
    | some time =>
      exact tracks.delay_iff ordered fails taken (step.next (failsAttempt_schedules fails).2)
  · intro escalates
    exact step.tracks ordered
      (congrArg ConnectionConfig.reconnect (run_connectionConfig before))
      (doubles_nonneg ordered before taken tracks escalates) tracks

instance (reconnect : ReconnectConfig) (past : List (State × Label)) (s : State) (l : Label) :
    Decidable (InStep reconnect past s l) := inferInstanceAs (Decidable (_ → _))

end State

end

namespace State

open PlainFields

/-- A broker that refuses two connections in a row. -/
def refusedTwice : List Label :=
  .start 0 :: .enter true :: (failedAttempt 0 ++ failedAttempt 1000)

theorem escalates_iff_refusedTwice :
    Ordered workerConfig.connection.reconnect ∧
      ∃ past s, exec step refusedTwice [] (new workerConfig 0) = some (past, s) ∧
        failures past = 2 ∧ AllSteps (Escalates workerConfig.connection.reconnect) past := by
  have ordered : Ordered workerConfig.connection.reconnect := ⟨by decide, by decide⟩
  obtain ⟨past, s, executed, two, inStep⟩ :
      ∃ past s, exec step refusedTwice [] (new workerConfig 0) = some (past, s) ∧
        failures past = 2 ∧ AllSteps (InStep workerConfig.connection.reconnect) past := by
    refine ⟨_, _, rfl, rfl, ?_⟩
    decide
  exact ⟨ordered, past, s, executed, two,
    (escalates_iff workerConfig 0 ordered past s (run_of_exec .nil executed)).mpr inStep⟩

/-- An attempt that connects to a broker which closes the connection at once. -/
def closedAttempt (now : Int) : List Label :=
  [.testStop, .swapCommands, .commandsDone, .testReconnect now, .connect (.connected 3 []) now,
    .testStop, .swapCommands, .commandsDone, .flush [], .poll .closedByBroker, .flush [],
    .heartbeat now [], .endTurn now []]

/-- The delay after the second attempt is the initial one again. -/
theorem delay_set_back :
    ¬ ∀ (config : RabbitMqBusConfig) (now : Int), Ordered config.connection.reconnect →
      config.connection.reconnect.enabled = true → ∀ past s, DriverRun config now past s →
        AllSteps (Escalates config.connection.reconnect) past := by
  intro escalates
  obtain ⟨past, before, l, s, executed, fails, taken, two, next⟩ :
      ∃ past before l s,
        exec step (.start 0 :: .enter true :: (closedAttempt 0 ++ closedAttempt 1000)) []
          (new workerConfig 0) = some ((before, l) :: past, s) ∧
        before.failsAttempt l = some 1000 ∧ before.step l = some s ∧
        failures ((before, l) :: past) = 2 ∧ s.nextReconnectAt = 2000 :=
    ⟨_, _, _, _, rfl, rfl, rfl, rfl, rfl⟩
  have all := escalates workerConfig 0 ⟨by decide, by decide⟩ rfl _ s
    (run_of_exec .nil executed)
  have expected := all.1 1000 s fails taken
  rw [two, next] at expected
  exact absurd expected (by decide)

end State

end ModuleContext.RabbitMqBus.Driver
