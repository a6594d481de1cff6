import ModuleContext.Misc.Interleaving
import ModuleContext.RabbitMqBus.Driver.Messages

/-!
# Drivers at one broker

Any number of drivers, each with its own configuration and its own callers, handlers and
connections, take their steps in any order. Between them is a broker that may delay, drop, repeat
and reorder messages, but neither changes nor invents one. Clients that are no drivers may publish
messages of their own, with header fields of any kind.
-/

namespace ModuleContext.RabbitMqBus.Driver
open Foundation Misc
open ConfigValue (KeysSorted)

section

variable [AmqpFields]

variable {ι : Type}

namespace Bus
open State

/-- A caller asks a driver to publish. -/
def Requests (past : List ((ι → State) × ι × Label)) (i : ι) (request : PublishRequest) : Prop :=
  ∃ before, (before, i, .call (.publish request)) ∈ past

/-- The headers of all requests are maps. -/
def Maps (past : List ((ι → State) × ι × Label)) : Prop :=
  AllSteps (fun _ _ l => ∀ request, l.2 = .call (.publish request) →
    KeysSorted (.object request.headers)) past

variable {configs : ι → RabbitMqBusConfig} {now : Int} {past : List ((ι → State) × ι × Label)}
  {s s' : ι → State} {l : ι × Label} {foreign : AmqpMessage → Prop}

theorem Maps.sorted (maps : Maps past) {i : ι} {request : PublishRequest}
    (requests : Requests past i request) : KeysSorted (.object request.headers) := by
  obtain ⟨before, made⟩ := requests
  induction past with
  | nil => cases made
  | cons entry past ih =>
    rcases List.mem_cons.mp made with rfl | earlier
    · exact maps.1 request rfl
    · exact ih maps.2 earlier

/-- The requests among some labels. -/
def requested (labels : List (ι × Label)) : List PublishRequest :=
  labels.filterMap fun (_, l) =>
    match l with
    | .call (.publish request) => some request
    | _ => none

theorem mem_requested {labels : List (ι × Label)} {l : ι × Label} {request : PublishRequest}
    (member : l ∈ labels) (asks : l.2 = .call (.publish request)) :
    request ∈ requested labels := by
  rw [requested, List.mem_filterMap]
  exact ⟨l, member, by simp only [asks]⟩

variable [DecidableEq ι]

/-- What comes in was published by another client, or a driver has handed it over before. -/
def Relays (foreign : AmqpMessage → Prop) (past : List ((ι → State) × ι × Label)) : Prop :=
  AllSteps (fun earlier s l => ∀ message, l.2.arrival = some message →
    foreign message ∨ ∃ sender exchange routingKey envelope,
      .published exchange routingKey envelope ∈ handedOver (part sender earlier) (s sender) ∧
        message.Carries exchange routingKey envelope) past

/-- A run of drivers side by side. -/
abbrev BusRun (configs : ι → RabbitMqBusConfig) (now : Int) :=
  Run (interleave State.step) fun i => State.new (configs i) now

theorem requests_of_published (run : BusRun configs now past s) {sender : ι}
    {request : PublishRequest} {pending : Nat}
    (published : PublishedBy (part sender past) (s sender) request pending) :
    Requests past sender request := by
  obtain ⟨before, made⟩ := requested_of_executed (run.part sender) published.executed
  obtain ⟨⟨whole, mover, label⟩, member, same⟩ := List.mem_filterMap.mp made
  dsimp only at same
  split at same
  · rename_i here
    cases same
    subst here
    exact ⟨whole, member⟩
  · cases same

/-- What comes in from a driver has the content of a request that this driver has published. -/
theorem arrival_cases [LawfulAmqpFields] (run : BusRun configs now past s)
    (maps : ∀ i request, Requests past i request → KeysSorted (.object request.headers))
    {message : AmqpMessage} {incoming : IncomingMessage} (tells : message.Tells incoming)
    (relayed : foreign message ∨ ∃ sender exchange routingKey envelope,
      .published exchange routingKey envelope ∈ handedOver (part sender past) (s sender) ∧
        message.Carries exchange routingKey envelope) :
    foreign message ∨ ∃ sender request pending,
      PublishedBy (part sender past) (s sender) request pending ∧
        incoming.content = request.content := by
  rcases relayed with other | ⟨sender, exchange, routingKey, envelope, handed, carries⟩
  · exact Or.inl other
  · obtain ⟨request, pending, published, rfl, rfl, rfl⟩ :=
      published_of_handed (run.part sender) handed
    have sorted := maps sender request (requests_of_published run published)
    exact Or.inr ⟨sender, request, pending, published, tells.content carries sorted⟩

/-! ## Contents -/

/-- A message is one of another client, or has the content of a request that was published. -/
def Authentic (foreign : AmqpMessage → Prop) (past : List ((ι → State) × ι × Label))
    (s : ι → State) (incoming : IncomingMessage) : Prop :=
  (∃ message, foreign message ∧ message.Tells incoming) ∨
    ∃ sender request pending, PublishedBy (part sender past) (s sender) request pending ∧
      incoming.content = request.content

theorem Authentic.stays {incoming : IncomingMessage} (authentic : Authentic foreign past s incoming)
    (run : BusRun configs now past s) (taken : interleave State.step s l = some s') :
    Authentic foreign ((s, l) :: past) s' incoming := by
  rcases authentic with other | ⟨sender, request, pending, published, same⟩
  · exact Or.inl other
  · refine Or.inr ⟨sender, request, pending, ?_, same⟩
    by_cases mover : sender = l.1
    · subst mover
      rw [part_mover]
      exact published.stays (run.part l.1) (interleave_mover taken)
    · rw [part_other mover, interleave_other taken mover]
      exact published

/-- Handlers are only given what was published. Whatever the broker and the connections of any
number of drivers do, a message that a handler is given is one of another client, or it has the
content of a request of some caller that a driver has published and has reported as a success. -/
theorem messages_authentic [LawfulAmqpFields] (configs : ι → RabbitMqBusConfig) (now : Int)
    (foreign : AmqpMessage → Prop) (past : List ((ι → State) × ι × Label)) (s : ι → State)
    (run : BusRun configs now past s) (relays : Relays foreign past) (maps : Maps past) :
    ∀ receiver, ∀ task ∈ (s receiver).tasks,
      task.message.consumerName = task.delivery.consumerName ∧
        Authentic foreign past s task.message := by
  refine run.invariant_past (fun past s => Relays foreign past → Maps past →
    ∀ receiver, ∀ task ∈ (s receiver).tasks,
      task.message.consumerName = task.delivery.consumerName ∧
        Authentic foreign past s task.message) ?_ ?_ relays maps
  · intro _ _ receiver task member
    cases member
  · intro past s l s' before holds taken relays maps receiver task member
    have sorted : ∀ i request, Requests past i request →
        KeysSorted (.object request.headers) := fun _ _ => Maps.sorted maps.2
    have old (member : task ∈ (s receiver).tasks) :
        task.message.consumerName = task.delivery.consumerName ∧
          Authentic foreign ((s, l) :: past) s' task.message := by
      obtain ⟨name, authentic⟩ := holds relays.2 maps.2 receiver task member
      exact ⟨name, authentic.stays before taken⟩
    by_cases mover : receiver = l.1
    · subst mover
      rcases step_tasks (interleave_mover taken) member with earlier | ⟨message, arrived, camIn⟩
      · exact old earlier
      · refine ⟨camIn.2, Authentic.stays ?_ before taken⟩
        rcases arrival_cases before sorted camIn.1 (relays.1 message arrived) with
          other | published
        · exact Or.inl ⟨message, other, camIn.1⟩
        · exact Or.inr published
    · rw [interleave_other taken mover] at member
      exact old member

/-! ## Forwarding -/

/-- Whoever publishes does so with properties of their own, or passes on what a handler of the
same driver is being given. -/
def Forwards (origins : Properties → Prop) (past : List ((ι → State) × ι × Label)) : Prop :=
  AllSteps (fun _ s l => ∀ request, l.2 = .call (.publish request) →
    origins request.content.properties ∨
      ∃ task ∈ (s l.1).tasks, request.content.properties = task.message.content.properties) past

/-- Properties that somebody has brought in. -/
def Genuine (foreign : AmqpMessage → Prop) (origins : Properties → Prop)
    (properties : Properties) : Prop :=
  origins properties ∨ ∃ message incoming, foreign message ∧ message.Tells incoming ∧
    incoming.content.properties = properties

theorem Genuine.sorted [LawfulAmqpFields] {origins : Properties → Prop} {properties : Properties}
    (genuine : Genuine foreign origins properties)
    (maps : ∀ properties, origins properties → KeysSorted (.object properties.headers)) :
    KeysSorted (.object properties.headers) := by
  rcases genuine with origin | ⟨message, incoming, -, tells, rfl⟩
  · exact maps properties origin
  · exact tells.sorted

/-- What is in the worker pools and what callers have asked for is genuine. -/
structure AllGenuine (foreign : AmqpMessage → Prop) (origins : Properties → Prop)
    (past : List ((ι → State) × ι × Label)) (s : ι → State) : Prop where
  tasks : ∀ receiver, ∀ task ∈ (s receiver).tasks,
    Genuine foreign origins task.message.content.properties
  requests : ∀ sender request, Requests past sender request →
    Genuine foreign origins request.content.properties

theorem AllGenuine.step [LawfulAmqpFields] {origins : Properties → Prop}
    (genuine : AllGenuine foreign origins past s) (run : BusRun configs now past s)
    (taken : interleave State.step s l = some s') (relays : Relays foreign ((s, l) :: past))
    (forwards : Forwards origins ((s, l) :: past))
    (maps : ∀ properties, origins properties → KeysSorted (.object properties.headers)) :
    AllGenuine foreign origins ((s, l) :: past) s' := by
  have sorted : ∀ sender request, Requests past sender request →
      KeysSorted (.object request.headers) := fun sender request requests =>
    (genuine.requests sender request requests).sorted maps
  refine ⟨?_, ?_⟩
  · intro receiver task member
    by_cases mover : receiver = l.1
    · subst mover
      rcases step_tasks (interleave_mover taken) member with earlier | ⟨message, arrived, camIn⟩
      · exact genuine.tasks l.1 task earlier
      · rcases arrival_cases run sorted camIn.1 (relays.1 message arrived) with
          other | ⟨sender, request, pending, published, same⟩
        · exact Or.inr ⟨message, task.message, other, camIn.1, rfl⟩
        · rw [same]
          exact genuine.requests sender request (requests_of_published run published)
    · rw [interleave_other taken mover] at member
      exact genuine.tasks receiver task member
  · rintro sender request ⟨before, made⟩
    rcases List.mem_cons.mp made with here | earlier
    · cases here
      rcases forwards.1 request rfl with origin | ⟨task, member, same⟩
      · exact Or.inl origin
      · rw [same]
        exact genuine.tasks sender task member
    · exact genuine.requests sender request ⟨before, earlier⟩

/-- Over any number of hops, what handlers pass on stays what somebody has brought in: payload,
content type, correlation id, reply address and the whole tree of headers. -/
theorem forwarded_unchanged [LawfulAmqpFields] (configs : ι → RabbitMqBusConfig) (now : Int)
    (foreign : AmqpMessage → Prop) (origins : Properties → Prop)
    (past : List ((ι → State) × ι × Label)) (s : ι → State) (run : BusRun configs now past s)
    (relays : Relays foreign past) (forwards : Forwards origins past)
    (maps : ∀ properties, origins properties → KeysSorted (.object properties.headers)) :
    AllGenuine foreign origins past s := by
  have base : AllGenuine foreign origins [] fun i => State.new (configs i) now := by
    refine ⟨?_, ?_⟩
    · intro receiver task member
      cases member
    · rintro sender request ⟨before, made⟩
      cases made
  refine run.invariant_past (fun past s => Relays foreign past → Forwards origins past →
    AllGenuine foreign origins past s) (fun _ _ => base) ?_ relays forwards
  intro past s l s' before holds taken relays forwards
  exact (holds relays.2 forwards.2).step before taken relays forwards maps

end Bus

end

namespace Bus
open State PlainFields

/-! ## A message on its way -/

/-- A request with headers, published by the driver `false`. -/
def order : PublishRequest :=
  { exchange := "orders", routingKey := "new", payload := [1, 2], contentType := "text/plain"
    correlationId := "", replyTo := "replies"
    headers := [("trace", .array [.int64 1, .null])], persistent := true }

theorem order_sorted : KeysSorted (.object order.headers) :=
  ⟨by decide, ⟨trivial, trivial, trivial⟩, trivial⟩

/-- What the driver `true` receives of it. -/
def orderMessage : AmqpMessage :=
  { exchange := "orders", routingKey := "new", body := [1, 2], contentType := "text/plain"
    correlationId := "", replyTo := "replies"
    headers := tableOf order.headers, redelivered := false }

/-- Two drivers are connected, and one of them publishes. -/
def orderPublished : List (Bool × Label) :=
  let publisher : List Label := bringUp ++
    [.parsed 1, .flush [], .heartbeat 0 [], .endTurn 0 [], .call (.publish order), .testStop,
      .swapCommands, .runCommand ⟨true, [1]⟩ []]
  publisher.map ((false, ·)) ++ bringUp.map ((true, ·))

/-- The other one receives the message. -/
def orderArrives : Bool × Label := (true, .event (.received 1 orderMessage ⟨some true, true⟩))

/-- The run up to the message that is received. -/
theorem order_arrives :
    ∃ past s s', exec (interleave State.step) orderPublished [] (fun _ => new workerConfig 0) =
        some (past, s) ∧
      interleave State.step s orderArrives = some s' ∧
      handedOver (part false past) (s false) =
        [.published "orders" "new" (envelopeOf order (tableOf order.headers))] ∧
      (s' true).tasks.map (·.message.content) = [order.content] := by
  have converted : amqpTableToConfigObject orderMessage.headers = .ok order.headers :=
    amqpTableToConfigObject_tableOf order_sorted
  obtain ⟨past, s, s', executed, arrives, handed, idle⟩ :
      ∃ past s s', exec (interleave State.step) orderPublished [] (fun _ => new workerConfig 0) =
          some (past, s) ∧
        interleave State.step s orderArrives = some s' ∧
        handedOver (part false past) (s false) =
          [.published "orders" "new" (envelopeOf order (tableOf order.headers))] ∧
        (s true).tasks = [] :=
    ⟨_, _, _, rfl, rfl, rfl, rfl⟩
  have taken : (s true).step orderArrives.2 = some (s' true) := interleave_mover arrives
  obtain ⟨task, tasks, told⟩ := step_received taken converted rfl
  refine ⟨past, s, s', executed, arrives, handed, ?_⟩
  rw [tasks, idle, List.nil_append, List.map_singleton, told]
  rfl

theorem order_relayed {past : List ((Bool → State) × Bool × Label)} {s : Bool → State}
    (executed : exec (interleave State.step) orderPublished [] (fun _ => new workerConfig 0) =
      some (past, s))
    (handed : handedOver (part false past) (s false) =
      [.published "orders" "new" (envelopeOf order (tableOf order.headers))]) :
    Relays (fun _ => False) ((s, orderArrives) :: past) := by
  have silent : orderPublished.all (fun l => l.2.arrival.isNone) = true := rfl
  rw [List.all_eq_true] at silent
  refine ⟨?_, AllSteps.exec .nil (fun l member past s message arrived => ?_) executed⟩
  · intro message arrived
    cases arrived
    refine Or.inr ⟨false, "orders", "new", envelopeOf order (tableOf order.headers), ?_,
      ⟨rfl, rfl, rfl, rfl, rfl, rfl, rfl⟩⟩
    rw [handed]
    exact List.mem_cons_self
  · have none := silent l member
    rw [arrived] at none
    cases none

theorem messages_authentic_order :
    ∃ past s, BusRun (fun _ => workerConfig) 0 past s ∧
      (s true).tasks.map (·.message.content) = [order.content] ∧
      ∀ receiver, ∀ task ∈ (s receiver).tasks,
        task.message.consumerName = task.delivery.consumerName ∧
          Authentic (fun _ => False) past s task.message := by
  obtain ⟨past, s, s', executed, arrives, handed, told⟩ := order_arrives
  have maps : Maps ((s, orderArrives) :: past) := by
    refine ⟨fun request asks => (by cases asks), AllSteps.exec .nil ?_ executed⟩
    intro l member _ _ request asks
    rw [List.mem_singleton.mp (mem_requested member asks)]
    exact order_sorted
  have run : BusRun (fun _ => workerConfig) 0 ((s, orderArrives) :: past) s' :=
    (run_of_exec .nil executed).snoc arrives
  exact ⟨_, s', run, told, messages_authentic (fun _ => workerConfig) 0 (fun _ => False) _ s' run
    (order_relayed executed handed) maps⟩

/-- What the handler of the driver `true` makes of it. -/
def forwardedOrder : PublishRequest := { order with exchange := "audit", routingKey := "" }

theorem forwarded_unchanged_order :
    ∃ past s, BusRun (fun _ => workerConfig) 0 past s ∧ Requests past true forwardedOrder ∧
      AllGenuine (fun _ => False) (· = order.content.properties) past s := by
  obtain ⟨past, s, s', executed, arrives, handed, told⟩ := order_arrives
  obtain ⟨s'', forwards⟩ : ∃ s'', interleave State.step s'
      (true, .call (.publish forwardedOrder)) = some s'' := ⟨_, rfl⟩
  have run : BusRun (fun _ => workerConfig) 0
      ((s', true, .call (.publish forwardedOrder)) :: (s, orderArrives) :: past) s'' :=
    ((run_of_exec .nil executed).snoc arrives).snoc forwards
  have relays : Relays (fun _ => False)
      ((s', true, .call (.publish forwardedOrder)) :: (s, orderArrives) :: past) :=
    ⟨fun message arrived => (by cases arrived), order_relayed executed handed⟩
  have passed : Forwards (· = order.content.properties)
      ((s', true, .call (.publish forwardedOrder)) :: (s, orderArrives) :: past) := by
    refine ⟨fun request asks => ?_, fun request asks => (by cases asks),
      AllSteps.exec .nil (fun l member _ _ request asks => ?_) executed⟩
    · cases asks
      obtain ⟨task, member, same⟩ := List.mem_map.mp (told ▸ List.mem_cons_self)
      exact Or.inr ⟨task, member, by rw [same]; rfl⟩
    · rw [List.mem_singleton.mp (mem_requested member asks)]
      exact Or.inl rfl
  refine ⟨_, s'', run, ⟨s', List.mem_cons_self⟩, ?_⟩
  exact forwarded_unchanged (fun _ => workerConfig) 0 (fun _ => False) _ _ s'' run relays passed
    fun properties same => same ▸ order_sorted

end Bus

end ModuleContext.RabbitMqBus.Driver
