import ModuleContext.RabbitMqBus.Driver.StateCoherence

/-!
# The reason of a disconnect

`HandleDisconnect` is given its reason as a reference to `pending_disconnect_reason_`, and passes
the address of its characters to `fail`. The error callbacks that this triggers overwrite the
field. The last one is `onError` of the handler, which always runs and stores a text of its own
in front of the one it is given, so that the reason that is kept is never the one that all
callbacks were given.
-/

namespace ModuleContext.RabbitMqBus.Driver
open Foundation Misc

theorem length_lt_buildMessage {text : String} (nonempty : 0 < text.length) (detail : String) :
    detail.length < (buildMessage text detail).length := by
  unfold buildMessage
  split
  · rename_i empty
    rw [String.isEmpty_iff.mp empty]
    exact nonempty
  · rw [String.length_append, String.length_append]
    omega

section

variable [AmqpFields]

namespace State

/-- The texts that the error callbacks are given by `fail`. -/
def reportedTexts (reason : ReasonRef) (s : State) : List String :=
  match s.connection with
  | none => []
  | some connection => (reason.reports (reason.read s) connection.failCallbacks).map Prod.snd

/-- A disconnect stores the reason that was pending, and reports it to all error callbacks;
`stale` is what they read once the field has been assigned. -/
structure KeepsReason (stale : List String) (s s' : State) : Prop where
  stored : s'.lastError = s.pendingDisconnectReason
  reported : ∀ text ∈ s.reportedTexts (.pendingReason stale), text = s.pendingDisconnectReason

variable {s s' : State}

/-! ## The last callback -/

/-- The last report is the one to the handler. -/
theorem reports_concat (reason : ReasonRef) (held : String) (connection : Connection) :
    ∃ earlier message, reason.reports held connection.failCallbacks =
      earlier ++ [(.handler, message)] := by
  have made := reports_callbacks reason held connection.failCallbacks
  rw [Connection.failCallbacks] at made
  obtain ⟨earlier, last, split, -, handler⟩ := List.map_eq_append_iff.mp made
  obtain ⟨⟨callback, message⟩, rfl, rfl⟩ := List.map_eq_singleton_iff.mp handler
  exact ⟨earlier, message, split⟩

/-- What is pending after `fail` is the text that `onError` of the handler was given, with its own
in front. -/
theorem failConnection_pending {connection : Connection} (live : s.connection = some connection)
    (reason : ReasonRef) :
    ∃ message ∈ s.reportedTexts reason, (s.failConnection reason).pendingDisconnectReason =
      buildMessage "RabbitMQ connection error" message := by
  obtain ⟨earlier, message, split⟩ := reports_concat reason (reason.read s) connection
  refine ⟨message, ?_, ?_⟩
  · simp [reportedTexts, live, split]
  · simp only [failConnection, live, split, List.foldl_append, List.foldl_cons, List.foldl_nil]
    rfl

theorem lastError_handleDisconnect (goesOn : s.stopRequested = false) (stale : List String)
    (now : Int) :
    (s.handleDisconnect (.pendingReason stale) now).lastError =
      (s.failConnection (.pendingReason stale)).pendingDisconnectReason := by
  obtain ⟨_, _, _, failed⟩ := reports_failConnection (.pendingReason stale) s
  unfold handleDisconnect
  rw [failed]
  dsimp only
  rw [if_neg (show ¬ (s.onConnection .fail).stopRequested = true by simp [onConnection, goesOn])]
  rfl

/-- No disconnect that the loop handles keeps its reason, whatever the callbacks read that come
after an assignment. -/
theorem disconnect_loses_reason (config : RabbitMqBusConfig) (now time : Int)
    (stale : List String) (past : List (State × Label)) (s s' : State)
    (run : DriverRun config now past s) (pending : s.pendingDisconnect = true)
    (goesOn : s.stopRequested = false) (taken : s.step (.endTurn time stale) = some s') :
    ¬ KeepsReason stale s s' := by
  intro keeps
  have coherent := run_coherent run
  have up : s.connected = true := by
    by_contra down
    rw [coherent.settled (by simpa using down)] at pending
    cases pending
  obtain ⟨connection, live⟩ := Option.isSome_iff_exists.mp (coherent.live.trans up)
  obtain ⟨message, given, wrapped⟩ := failConnection_pending live (.pendingReason stale)
  rw [← lastError_handleDisconnect goesOn stale time, keeps.reported message given] at wrapped
  have longer := @length_lt_buildMessage "RabbitMQ connection error" (by decide)
    s.pendingDisconnectReason
  rw [← wrapped] at longer
  cases step_cases taken with
  | disconnect pc pending => exact lt_irrefl _ (keeps.stored ▸ longer)
  | endTurn pc settled =>
    rw [settled] at pending
    cases pending

end State

end

namespace State

open PlainFields

/-- The broker refuses to declare the queue of `workerConfig` and closes the channel for it. -/
def brokerRefuses : List Label :=
  [.start 0, .enter true, .testStop, .swapCommands, .commandsDone, .testReconnect 0,
    .connect (.connected 3 []) 0, .testStop, .swapCommands, .commandsDone, .flush [],
    .poll (.received [1]), .event (.ready ⟨true, []⟩),
    .event (.channelError 0 "PRECONDITION_FAILED"), .parsed 1, .flush [], .heartbeat 0 []]

theorem brokerRefuses_loses_reason :
    ∃ past s s', exec step brokerRefuses [] (new workerConfig 0) = some (past, s) ∧
      s.pendingDisconnectReason = "RabbitMQ admin channel error: PRECONDITION_FAILED" ∧
      s.step (.endTurn 0 []) = some s' ∧ ¬ KeepsReason [] s s' := by
  obtain ⟨past, s, s', executed, taken, pending, goesOn, reason⟩ :
      ∃ past s s', exec step brokerRefuses [] (new workerConfig 0) = some (past, s) ∧
        s.step (.endTurn 0 []) = some s' ∧ s.pendingDisconnect = true ∧
        s.stopRequested = false ∧
        s.pendingDisconnectReason = "RabbitMQ admin channel error: PRECONDITION_FAILED" :=
    ⟨_, _, _, rfl, rfl, rfl, rfl, by decide⟩
  exact ⟨past, s, s', executed, reason, taken, disconnect_loses_reason workerConfig 0 0 [] past s
    s' (run_of_exec .nil executed) pending goesOn taken⟩

/-- No channel is open any more, so that `onError` of the handler is the only callback of `fail`:
it reads the pending reason as it was and overwrites it, and the longer text is what is kept. -/
theorem disconnect_reason_wrapped :
    ¬ ∀ (config : RabbitMqBusConfig) (now time : Int) (stale : List String)
      (past : List (State × Label)) (s s' : State), DriverRun config now past s →
        s.pendingDisconnect = true → s.stopRequested = false →
        s.step (.endTurn time stale) = some s' → KeepsReason stale s s' := by
  intro keeps
  obtain ⟨past, s, s', executed, taken, pending, goesOn, given, reason, shown⟩ :
      ∃ past s s', exec step brokerRefuses [] (new workerConfig 0) = some (past, s) ∧
        s.step (.endTurn 0 []) = some s' ∧ s.pendingDisconnect = true ∧
        s.stopRequested = false ∧ s.reportedTexts (.pendingReason []) =
          ["RabbitMQ admin channel error: PRECONDITION_FAILED"] ∧
        s.pendingDisconnectReason = "RabbitMQ admin channel error: PRECONDITION_FAILED" ∧
        s'.lastError =
          "RabbitMQ connection error: RabbitMQ admin channel error: PRECONDITION_FAILED" :=
    ⟨_, _, _, rfl, rfl, rfl, rfl, by decide, by decide, by decide⟩
  have stored := (keeps workerConfig 0 0 [] past s s' (run_of_exec .nil executed) pending goesOn
    taken).stored
  rw [shown, reason] at stored
  exact absurd stored (by decide)

end State

end ModuleContext.RabbitMqBus.Driver
