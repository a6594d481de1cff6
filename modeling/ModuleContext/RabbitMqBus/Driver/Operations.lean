import ModuleContext.RabbitMqBus.Driver.Loop

/-!
# What the operations of the driver can do

Most operations of the driver touch little of its state. Each is described here by what it
can do, so that what follows never looks into their definitions.
-/

namespace ModuleContext.RabbitMqBus.Driver
open Foundation Misc

theorem readStale_callbacks (stale : List String) (callbacks : List FailCallback) :
    (readStale stale callbacks).map Prod.fst = callbacks := by
  induction callbacks generalizing stale with
  | nil => rfl
  | cons callback callbacks ih => rw [readStale, List.map_cons, ih]

/-- Whatever they read, all callbacks are made, in order. -/
theorem reports_callbacks (reason : ReasonRef) (held : String)
    (callbacks : List FailCallback) :
    (reason.reports held callbacks).map Prod.fst = callbacks := by
  cases reason with
  | text message => simp [ReasonRef.reports, Function.comp_def]
  | pendingReason stale =>
    rw [ReasonRef.reports]
    induction callbacks with
    | nil => rfl
    | cons callback callbacks ih =>
      rw [readHeld, List.map_cons]
      split
      · rw [readStale_callbacks]
      · rw [ih]

variable [AmqpFields]

/-- A connection without its bytes and the frames that have no answer. -/
def Connection.core (connection : Connection) : Connection :=
  { connection with transfers := [], produced := [], sent := [] }

namespace State

/-! ## Quiet operations -/

/-- A state without what only concerns the bytes of its connection and the request to
disconnect. -/
def core (s : State) : State :=
  { s with
    connection := s.connection.map (·.core)
    outbound := [], lastHeartbeatSent := none
    pendingDisconnect := false, pendingDisconnectReason := "" }

/-- Only bytes and the request to disconnect are touched. -/
def Quiet (s s' : State) : Prop := s'.core = s.core

theorem Quiet.refl (s : State) : Quiet s s := rfl

theorem Quiet.trans {a b c : State} (first : Quiet a b) (second : Quiet b c) : Quiet a c :=
  Eq.trans second first

/-- Whatever does not depend on bytes or the request to disconnect is unchanged. -/
theorem Quiet.same {α : Type} {s s' : State} (quiet : Quiet s s') (field : State → α)
    (blind : ∀ s, field s.core = field s) : field s' = field s := by
  rw [← blind s', quiet, blind s]

theorem quiet_requestDisconnect (reason : String) (s : State) :
    Quiet s (s.requestDisconnect reason) := rfl

theorem quiet_onData (data : List UInt8) (s : State) : Quiet s (s.onData data) := by
  simp [Quiet, core, onData, onConnection, Connection.core, Function.comp_def]

theorem quiet_transfer (frame : Transfer) (answer : Answer) (s : State) :
    Quiet s (s.transfer frame answer) := by
  unfold transfer
  split
  · refine (quiet_onData answer.produced s).trans ?_
    simp [Quiet, core, onConnection, Connection.core, Function.comp_def]
  · exact .refl s

theorem quiet_flushOutboundData (sends : List SendOutcome) (s : State) :
    Quiet s (s.flushOutboundData sends) := by
  induction sends generalizing s with
  | nil => exact .refl s
  | cons outcome outcomes ih =>
    unfold flushOutboundData
    split
    · split
      · refine Quiet.trans ?_ (ih _)
        simp [Quiet, core, onConnection, Connection.core, Function.comp_def]
      · split
        · exact .refl s
        · exact quiet_requestDisconnect _ s
    · exact .refl s

theorem quiet_maybeSendHeartbeat (now : Int) (produced : List UInt8) (s : State) :
    Quiet s (s.maybeSendHeartbeat now produced) := by
  unfold maybeSendHeartbeat
  have sent : Quiet s { s.onData produced with lastHeartbeatSent := some now } :=
    quiet_onData produced s
  dsimp only
  split
  · exact .refl s
  · split
    · exact sent
    · split
      · exact sent
      · exact .refl s

/-! ## Reports -/

/-- Only a request to disconnect and results of pending calls are recorded. -/
def Reports (s s' : State) : Prop :=
  ∃ pending reason completed,
    s' = { s with pendingDisconnect := pending, pendingDisconnectReason := reason, completed }

theorem Reports.refl (s : State) : Reports s s := ⟨_, _, _, rfl⟩

theorem Reports.trans {a b c : State} (first : Reports a b) (second : Reports b c) :
    Reports a c := by
  obtain ⟨_, _, _, rfl⟩ := first
  obtain ⟨pending, reason, completed, rfl⟩ := second
  exact ⟨pending, reason, completed, rfl⟩

theorem reports_requestDisconnect (reason : String) (s : State) :
    Reports s (s.requestDisconnect reason) := ⟨_, _, _, rfl⟩

theorem reports_completePendingResult (pending : Nat) (value : Result Unit) (s : State) :
    Reports s (s.completePendingResult pending value) := by
  unfold completePendingResult
  split
  · exact .refl s
  · exact ⟨_, _, _, rfl⟩

theorem reports_onError (callback : Callback) (message : String) (s : State) :
    Reports s (s.onError callback message) := by
  cases callback with
  | bootstrap index declaration => exact reports_requestDisconnect _ s
  | qos index spec => exact reports_requestDisconnect _ s
  | consume index spec => exact reports_requestDisconnect _ s
  | declared declaration pending => exact reports_completePendingResult _ _ s

theorem reports_foldl {α : Type} {report : State → α → State}
    (each : ∀ s item, Reports s (report s item)) (items : List α) (s : State) :
    Reports s (items.foldl report s) := by
  induction items generalizing s with
  | nil => exact .refl s
  | cons item items ih => exact (each s item).trans (ih _)

theorem onConnection_none {s : State} {change : Connection → Connection}
    (down : s.connection = none) : s.onConnection change = s := by
  rw [onConnection, down, Option.map_none, ← down]

theorem reports_failCallback (callback : FailCallback) (message : String) (s : State) :
    Reports s (s.failCallback callback message) := by
  cases callback with
  | operation callback => exact reports_onError callback message s
  | channel errorText => exact reports_requestDisconnect _ s
  | handler => exact reports_requestDisconnect _ s

theorem reports_failConnection (reason : ReasonRef) (s : State) :
    Reports (s.onConnection .fail) (s.failConnection reason) := by
  unfold failConnection
  split
  · rename_i down
    rw [onConnection_none down]
    exact .refl s
  · exact reports_foldl (fun s (report : FailCallback × String) =>
      reports_failCallback report.1 report.2 s) _ _

theorem reports_failChannel (channel : Channel) (message : String) (s : State) :
    Reports (s.onConnection (.failChannel channel.id)) (s.failChannel channel message) := by
  unfold failChannel
  split
  · rename_i down
    rw [onConnection_none down]
    exact .refl s
  · rename_i connection live
    have reported := reports_foldl
      (fun s (deferred : Deferred) => reports_onError deferred.callback message s)
      (connection.outstanding.filter (·.channel == channel.id))
      (s.onConnection (.failChannel channel.id))
    exact reported.trans (reports_requestDisconnect _ _)

/-- `HandleDisconnect` leaves nothing of the connection. -/
theorem handleDisconnect_eq (reason : ReasonRef) (now : Int) (s : State) :
    ∃ state lastError reasonText nextReconnectAt reconnectDelayMs,
      s.handleDisconnect reason now =
        { s with
          completed := (s.failConnection reason).completed
          consumerRuntimes := ∅, adminChannel := none, connection := none, socketFd := none
          connected := false, ready := false, handshakeReady := false
          pendingDisconnect := false, pendingDisconnectReason := reasonText
          outbound := [], inbound := [], state, lastError, nextReconnectAt, reconnectDelayMs } := by
  obtain ⟨pending, text, completed, failed⟩ := reports_failConnection reason s
  unfold handleDisconnect
  rw [failed]
  dsimp only
  split
  · exact ⟨_, _, _, _, _, rfl⟩
  · exact ⟨_, _, _, _, _, rfl⟩

/-! ## Commands and deliveries -/

/-- A command is answered at once, or its declaration is handed to the broker. -/
inductive Executed (s : State) (command : Command) : State → Prop where
  | answered {sent : State} {value : Result Unit} : Quiet s sent →
      Executed s command (sent.completePendingResult command.pending value)
  | submitted {declaration : Declaration} {channel : Nat} {answer : Answer} :
      command.body = .declare declaration → s.isReadyLocked = true →
      s.adminChannel = some channel →
      Executed s command
        (s.submit channel declaration.operation (.declared declaration command.pending) answer)

theorem execute_cases (command : Command) (answer : Answer) (s : State) :
    Executed s command (s.execute command answer) := by
  obtain ⟨body, pending⟩ := command
  cases body with
  | publish request =>
    simp only [execute, executePublish]
    split
    · split
      · exact .answered (.refl s)
      · split
        · exact .answered (quiet_transfer _ _ s)
        · exact .answered (quiet_transfer _ _ s)
    · exact .answered (.refl s)
  | declare declaration =>
    simp only [execute, executeDeclare]
    split
    · rename_i ready
      rw [configObjectToAmqpTable_eq]
      have admin : s.adminChannel.isSome = true := by
        simp only [isReadyLocked, Bool.and_eq_true] at ready
        exact ready.2
      obtain ⟨channel, admin⟩ := Option.isSome_iff_exists.mp admin
      rw [admin]
      exact .submitted rfl ready admin
    · exact .answered (.refl s)
  | completeDelivery delivery action origin =>
    simp only [execute, executeCompleteDelivery]
    split
    · exact .answered (.refl s)
    · split
      · exact .answered (quiet_transfer _ _ s)
      · exact .answered (quiet_transfer _ _ s)

/-- A delivery needs no answer, is sent back by the driver thread itself, or is handed to the
worker pool. -/
inductive Handled (s : State) (delivery : DeliveryContext) (origin : Nat) : State → Prop where
  | ignored : Handled s delivery origin s
  | answered {action : ConsumeAction} : s.accepts = true → action ≠ .ack →
      Handled s delivery origin
        { s.enqueueCommand (.completeDelivery delivery action (some origin)) with
          pc := .waiting s.nextPending }
  | dispatched {message : IncomingMessage} {handler : Option Nat} {driverRef : Bool} :
      Handled s delivery origin
        { s with tasks := s.tasks ++ [⟨message, delivery, handler, driverRef, origin⟩] }

theorem completeDeliveryAndWait_cases (delivery : DeliveryContext) (action : ConsumeAction)
    (other : action ≠ .ack) (origin : Nat) (s : State) :
    Handled s delivery origin (s.completeDeliveryAndWait delivery action origin) := by
  unfold completeDeliveryAndWait
  split
  · exact .ignored
  · split
    · rename_i running
      exact .answered running other
    · exact .ignored

theorem handleIncomingMessage_cases (spec : ConsumerSpec) (message : AmqpMessage)
    (deliveryTag : UInt64) (origin : Nat) (dispatch : Dispatch) (s : State) :
    Handled s (deliveryContext spec deliveryTag) origin
      (s.handleIncomingMessage spec message deliveryTag origin dispatch) := by
  have requeue : Handled s (deliveryContext spec deliveryTag) origin
      (if dispatch.driverRef then s.completeDeliveryAndWait (deliveryContext spec deliveryTag)
        .requeue origin else s) := by
    split
    · exact completeDeliveryAndWait_cases _ .requeue nofun origin s
    · exact .ignored
  unfold handleIncomingMessage
  dsimp only
  cases amqpTableToConfigObject message.headers with
  | error e =>
    dsimp only
    split
    · exact .ignored
    · exact completeDeliveryAndWait_cases _ .reject nofun origin s
  | ok headers =>
    unfold deliveryCallback
    dsimp only
    cases dispatch.pool with
    | none => exact requeue
    | some taken =>
      cases taken with
      | false => exact requeue
      | true => exact .dispatched

/-- A finished task answers its delivery, unless nobody waits for the answer. -/
theorem finishTask_cases (task : Task) (outcome : HandlerOutcome) (s : State) :
    (¬ (task.driverRef = true ∧ task.delivery.autoAck = false ∧
        task.delivery.consumerName.isEmpty = false) ∧ finishTask task outcome s = s) ∨
      ((task.driverRef = true ∧ task.delivery.autoAck = false ∧
        task.delivery.consumerName.isEmpty = false) ∧
        finishTask task outcome s = s.enqueueCommand
          (.completeDelivery task.delivery (task.action outcome) (some task.origin))) := by
  unfold finishTask completeDelivery
  cases task.driverRef <;> cases task.delivery.autoAck <;>
    cases task.delivery.consumerName.isEmpty <;> simp

end State

end ModuleContext.RabbitMqBus.Driver
