import ModuleContext.Misc.Elementwise
import ModuleContext.RabbitMqBus.Driver.CallGuarantees
import ModuleContext.RabbitMqBus.Driver.DeliveryLedger

/-!
# Messages from end to end

A request is published as an envelope in which an empty property is not set and the headers are
AMQP fields. What comes in is turned into an `IncomingMessage` again. Between the two is a broker
that may delay, drop and repeat messages, but neither invents nor changes one.
-/

namespace ModuleContext.RabbitMqBus
open Foundation
open AmqpFields (emptyTable)
open ConfigValue (KeysSorted)

/-- What a handler sees of a message besides where it was published to. -/
structure Properties where
  payload : List UInt8
  contentType : String
  correlationId : String
  replyTo : String
  headers : ConfigValue.Object

/-- What a message consists of, for the one who publishes it and for the one who handles it. -/
structure Content where
  exchange : String
  routingKey : String
  properties : Properties

def PublishRequest.content (request : PublishRequest) : Content :=
  { exchange := request.exchange
    routingKey := request.routingKey
    properties :=
      ⟨request.payload, request.contentType, request.correlationId, request.replyTo,
        request.headers⟩ }

def IncomingMessage.content (incoming : IncomingMessage) : Content :=
  { exchange := incoming.exchange
    routingKey := incoming.routingKey
    properties :=
      ⟨incoming.payload, incoming.contentType, incoming.correlationId, incoming.replyTo,
        incoming.headers⟩ }

namespace Driver
open Misc

theorem getD_given (text : String) :
    (if text.isEmpty then none else some text : Option String).getD "" = text := by
  split
  · rename_i empty
    exact (String.isEmpty_iff.mp empty).symm
  · rfl

variable [AmqpFields]

/-- What the library delivers of a frame that arrives unchanged. A property that is not set reads
as empty. -/
structure AmqpMessage.Carries (message : AmqpMessage) (exchange routingKey : String)
    (envelope : Envelope) : Prop where
  exchange : message.exchange = exchange
  routingKey : message.routingKey = routingKey
  payload : message.body = envelope.payload
  contentType : message.contentType = envelope.contentType.getD ""
  correlationId : message.correlationId = envelope.correlationId.getD ""
  replyTo : message.replyTo = envelope.replyTo.getD ""
  headers : message.headers = envelope.headers.getD emptyTable

/-- What the handler of a consumer is given of a message, once its headers are converted. -/
def AmqpMessage.incoming (message : AmqpMessage) (consumerName : String)
    (headers : ConfigValue.Object) : IncomingMessage :=
  { consumerName
    exchange := message.exchange
    routingKey := message.routingKey
    payload := message.body
    contentType := message.contentType
    correlationId := message.correlationId
    replyTo := message.replyTo
    headers
    redelivered := message.redelivered }

/-- What a handler is given of a message. -/
def AmqpMessage.Tells (message : AmqpMessage) (incoming : IncomingMessage) : Prop :=
  ∃ headers, amqpTableToConfigObject message.headers = .ok headers ∧
    incoming = message.incoming incoming.consumerName headers

/-- The message that a step brings in. -/
def Label.arrival : Label → Option AmqpMessage
  | .event (.received _ message _) => some message
  | _ => none

/-! ## Contents -/

/-- The headers of an envelope convert to those of the request. -/
theorem headers_envelopeOf [LawfulAmqpFields] {request : PublishRequest}
    (sorted : KeysSorted (.object request.headers)) :
    amqpTableToConfigObject
      ((State.envelopeOf request (tableOf request.headers)).headers.getD emptyTable) =
        .ok request.headers := by
  have back := amqpTableToConfigObject_tableOf sorted
  unfold State.envelopeOf
  dsimp only
  split
  · rename_i empty
    rw [List.isEmpty_iff.mp empty] at back ⊢
    exact back
  · exact back

/-- A frame that arrives unchanged tells its handler the content of the request. -/
theorem AmqpMessage.Tells.content [LawfulAmqpFields] {message : AmqpMessage}
    {incoming : IncomingMessage} {request : PublishRequest} (tells : message.Tells incoming)
    (carries : message.Carries request.exchange request.routingKey
      (State.envelopeOf request (tableOf request.headers)))
    (sorted : KeysSorted (.object request.headers)) :
    incoming.content = request.content := by
  obtain ⟨headers, converted, told⟩ := tells
  rw [carries.headers, headers_envelopeOf sorted, Except.ok.injEq] at converted
  subst converted
  rw [told]
  simp only [IncomingMessage.content, PublishRequest.content, AmqpMessage.incoming,
    carries.exchange, carries.routingKey, carries.payload, carries.contentType,
    carries.correlationId, carries.replyTo, State.envelopeOf, getD_given]

/-- Whatever fields came in, a handler is given a map. -/
theorem AmqpMessage.Tells.sorted [LawfulAmqpFields] {message : AmqpMessage}
    {incoming : IncomingMessage} (tells : message.Tells incoming) :
    KeysSorted (.object incoming.headers) := by
  obtain ⟨headers, converted, told⟩ := tells
  obtain ⟨object, ok, sorted⟩ := amqpTableToConfigObject_ok message.headers
  rw [converted, Except.ok.injEq] at ok
  rw [told]
  exact ok ▸ sorted

namespace State

variable {s s' : State}

/-! ## Tasks -/

/-- Where a task of the worker pool comes from. -/
def CameIn (task : Task) (message : AmqpMessage) : Prop :=
  message.Tells task.message ∧ task.message.consumerName = task.delivery.consumerName

theorem tasks_incoming (spec : ConsumerSpec) (message : AmqpMessage) (tag : UInt64) (origin : Nat)
    (dispatch : Dispatch) {task : Task}
    (member : task ∈ (s.handleIncomingMessage spec message tag origin dispatch).tasks) :
    task ∈ s.tasks ∨ CameIn task message := by
  have answered (action : ConsumeAction) : (s.completeDeliveryAndWait (deliveryContext spec tag)
      action origin).tasks = s.tasks := tasks_completeDeliveryAndWait _ _ _ s
  unfold handleIncomingMessage at member
  dsimp only at member
  cases converted : amqpTableToConfigObject message.headers with
  | error e =>
    rw [converted] at member
    dsimp only at member
    split at member
    · exact Or.inl member
    · rw [answered] at member
      exact Or.inl member
  | ok headers =>
    rw [converted] at member
    unfold deliveryCallback at member
    dsimp only at member
    have requeued : (if dispatch.driverRef then s.completeDeliveryAndWait
        (deliveryContext spec tag) .requeue origin else s).tasks = s.tasks := by
      split
      · exact answered .requeue
      · rfl
    split at member
    · exact Or.inl (requeued ▸ member)
    · exact Or.inl (requeued ▸ member)
    · rcases List.mem_append.mp member with earlier | new
      · exact Or.inl earlier
      · rw [List.mem_singleton.mp new]
        exact Or.inr ⟨⟨headers, converted, rfl⟩, rfl⟩

/-- A step adds no task but for the message that it brings in. -/
theorem step_tasks {l : Label} (taken : s.step l = some s') {task : Task}
    (member : task ∈ s'.tasks) :
    task ∈ s.tasks ∨ ∃ message, l.arrival = some message ∧ CameIn task message := by
  cases moves : l.movesTasks with
  | false => exact Or.inl (tasks_kept taken moves ▸ member)
  | true =>
    cases l with
    | finishTask index outcome =>
      cases step_cases taken with
      | finishTask found =>
        rw [tasks_finishTask] at member
        exact Or.inl (List.eraseIdx_subset member)
    | event event =>
      cases event with
      | received id message dispatch =>
        cases step_cases taken with
        | event pc live alive called =>
          cases called with
          | @received _ _ _ channel spec found receives =>
            rcases tasks_incoming spec message channel.nextTag id dispatch member with
              earlier | new
            · exact Or.inl earlier
            · exact Or.inr ⟨message, rfl, new⟩
      | _ => cases moves
    | _ => cases moves

/-- A message that the worker pool takes gets a task. -/
theorem step_received {id : Nat} {message : AmqpMessage} {dispatch : Dispatch}
    {headers : ConfigValue.Object}
    (taken : s.step (.event (.received id message dispatch)) = some s')
    (converted : amqpTableToConfigObject message.headers = .ok headers)
    (accepted : dispatch.pool = some true) :
    ∃ task : Task, s'.tasks = s.tasks ++ [task] ∧
      task.message = message.incoming task.message.consumerName headers := by
  cases step_cases taken with
  | event pc live alive called =>
    cases called with
    | received found receives =>
      unfold handleIncomingMessage deliveryCallback
      rw [converted, accepted]
      exact ⟨_, rfl, rfl⟩

/-! ## Publishers -/

variable {config : RabbitMqBusConfig} {now : Int} {past : List (State × Label)}

/-- A result stays. -/
theorem resultOf_stays {l : Label} (run : DriverRun config now past s)
    (taken : s.step l = some s') {pending : Nat} {value : Result Unit}
    (told : s.resultOf pending = some value) : s'.resultOf pending = some value := by
  obtain ⟨news, completed⟩ : ∃ news, s'.completed = s.completed ++ news := by
    cases run_result run taken with
    | silent idle unconfirmed silent =>
      obtain ⟨errors, completed, -⟩ := silent.completed
      exact ⟨errors, completed⟩
    | performed executes unconfirmed lasts hands fresh same transfers completed =>
      exact ⟨_, completed⟩
    | denied executes unconfirmed lasts fresh same transfers denied =>
      obtain ⟨errors, completed, -⟩ := denied
      exact ⟨errors, completed⟩
    | confirmed idle confirms lasts waits fresh recorded transfers completed =>
      exact ⟨_, completed⟩
  rw [resultOf_append completed, told, Option.some_or]

/-- The request of this command has been published, and its caller has been told so. -/
structure PublishedBy (past : List (State × Label)) (s : State) (request : PublishRequest)
    (pending : Nat) : Prop where
  executed : ⟨.publish request, pending⟩ ∈ executed past
  told : s.resultOf pending = some makeSuccess

theorem PublishedBy.stays {l : Label} {request : PublishRequest} {pending : Nat}
    (published : PublishedBy past s request pending) (run : DriverRun config now past s)
    (taken : s.step l = some s') : PublishedBy ((s, l) :: past) s' request pending :=
  ⟨List.mem_append_left _ published.executed, resultOf_stays run taken published.told⟩

/-- What is handed over for a message is the envelope of a request. -/
theorem published_of_handed {exchange routingKey : String} {envelope : Envelope}
    (run : DriverRun config now past s)
    (handed : .published exchange routingKey envelope ∈ handedOver past s) :
    ∃ request pending, PublishedBy past s request pending ∧ request.exchange = exchange ∧
      request.routingKey = routingKey ∧
      envelopeOf request (tableOf request.headers) = envelope := by
  obtain ⟨command, member, hands⟩ := exists_related (run_framesMatch run).frames.flip handed
  obtain ⟨executed, performed⟩ := List.mem_filter.mp member
  cases hands with
  | @published request pending =>
    refine ⟨request, pending, ⟨executed, ?_⟩, rfl, rfl, rfl⟩
    rw [← success_of_any]
    rw [State.performed, Bool.and_eq_true] at performed
    exact performed.2

/-- A request that is executed was made by a caller. -/
theorem requested_of_executed {request : PublishRequest} {pending : Nat}
    (run : DriverRun config now past s)
    (executed : ⟨.publish request, pending⟩ ∈ executed past) :
    ∃ before, (before, .call (.publish request)) ∈ past := by
  have member : ⟨.publish request, pending⟩ ∈ accepted past := by
    rw [← run_commands run]
    exact List.mem_append_left _ executed
  clear run executed
  induction past with
  | nil => cases member
  | cons entry past ih =>
    obtain ⟨before, l⟩ := entry
    rcases List.mem_append.mp member with earlier | here
    · obtain ⟨other, made⟩ := ih earlier
      exact ⟨other, List.mem_cons_of_mem _ made⟩
    · -- no other step hands a publish command to the queue
      generalize body : CommandBody.publish request = published at here
      cases mayQueue_submission (mem_accept here) with
      | @called call published checked =>
        subst body
        refine ⟨before, ?_⟩
        have same : call = .publish request := by
          cases call with
          | publish other =>
            rw [ClientCall.command] at checked
            split at checked
            · cases checked
            · cases checked
              rfl
          | _ =>
            rw [ClientCall.command] at checked
            split at checked <;> cases checked
        rw [same]
        exact List.mem_cons_self
      | finished found => cases body
      | sentBack other => cases body

end State

end Driver

end ModuleContext.RabbitMqBus
