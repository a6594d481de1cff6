import ModuleContext.Misc.Elementwise
import ModuleContext.RabbitMqBus.OperationMeaning
import ModuleContext.RabbitMqBus.Driver.ConnectionSteps

/-!
# Connected means fully bootstrapped

The log of a connection shows how far its bootstrap has come: every operation before the last
is confirmed, and only when all of them are confirmed the connection becomes ready. From then
on the log grows by declarations made at run time, which the configuration records once they
are confirmed.
-/

namespace ModuleContext.RabbitMqBus
open Foundation Misc

theorem found_singleton {α : Type} {x y : α} {index : Nat} (found : [x][index]? = some y) :
    index = 0 ∧ x = y := by
  rw [List.getElem?_singleton, Option.ite_none_right_eq_some, Option.some.injEq] at found
  exact found

theorem mem_bootstrapDeclarations {config : RabbitMqBusConfig} {declaration : Declaration} :
    declaration ∈ bootstrapDeclarations config ↔
      match declaration with
      | .exchange spec => spec ∈ config.exchanges
      | .queue spec => spec ∈ config.queues
      | .binding spec => spec ∈ config.bindings := by
  cases declaration <;> simp [bootstrapDeclarations]

/-- What is declared after a confirmed declaration is what was declared before, or that. -/
theorem bootstrapDeclarations_record {config : RabbitMqBusConfig}
    {declaration other : Declaration}
    (member : other ∈ bootstrapDeclarations (declaration.record config)) :
    other ∈ bootstrapDeclarations config ∨ other = declaration := by
  rw [mem_bootstrapDeclarations] at member ⊢
  cases declaration with
  | exchange spec =>
    cases other with
    | exchange item => exact (of_mem_upsert member).symm.imp_right (congrArg _)
    | queue item => exact Or.inl member
    | binding item => exact Or.inl member
  | queue spec =>
    cases other with
    | exchange item => exact Or.inl member
    | queue item => exact (of_mem_upsert member).symm.imp_right (congrArg _)
    | binding item => exact Or.inl member
  | binding spec =>
    cases other with
    | exchange item => exact Or.inl member
    | queue item => exact Or.inl member
    | binding item => exact (of_mem_upsert member).symm.imp_right (congrArg _)

section

variable [AmqpFields]

theorem bootstrapOperations_record {config : RabbitMqBusConfig} {declaration : Declaration}
    {operation : AmqpOperation}
    (member : operation ∈ bootstrapOperations (declaration.record config)) :
    operation ∈ bootstrapOperations config ∨ operation = declaration.operation := by
  have consumers : (declaration.record config).consumers = config.consumers := by
    cases declaration <;> rfl
  rw [bootstrapOperations, consumers, List.mem_append] at member
  rcases member with declared | started
  · obtain ⟨other, member, rfl⟩ := List.mem_map.mp declared
    rcases bootstrapDeclarations_record member with before | rfl
    · exact Or.inl (List.mem_append_left _ (List.mem_map_of_mem before))
    · exact Or.inr rfl
  · exact Or.inl (List.mem_append_right _ started)

namespace Driver

/-- The log of operations that were each confirmed before the next was submitted. -/
def trace (done : List AmqpOperation) : List OperationEvent :=
  done.flatMap fun operation => [.submitted operation, .confirmed operation]

theorem trace_concat (done : List AmqpOperation) (operation : AmqpOperation) :
    trace (done ++ [operation]) = trace done ++ [.submitted operation, .confirmed operation] := by
  simp [trace]

theorem confirmed_mem_trace {done : List AmqpOperation} {operation : AmqpOperation}
    (member : operation ∈ done) : .confirmed operation ∈ trace done :=
  List.mem_flatMap.mpr ⟨operation, member, by simp⟩

theorem failed_not_mem_trace {done : List AmqpOperation} {operation : AmqpOperation} :
    .failed operation ∉ trace done := by
  simp [trace]

/-- The log of a connection that has not become ready: the operations `done` are confirmed, and
the next one may be submitted, and may have failed. -/
inductive InOrder (config : RabbitMqBusConfig) : List OperationEvent → Prop where
  | between {done : List AmqpOperation} : done <+: bootstrapOperations config →
      InOrder config (trace done)
  | submitted {done : List AmqpOperation} {operation : AmqpOperation} :
      done ++ [operation] <+: bootstrapOperations config →
      InOrder config (trace done ++ [.submitted operation])
  | failed {done : List AmqpOperation} {operation : AmqpOperation} :
      done ++ [operation] <+: bootstrapOperations config →
      InOrder config (trace done ++ [.submitted operation, .failed operation])

/-- The log of a connection that is brought up with these elements: the first of them are asked for
and confirmed, each before the next, and the one after them may be submitted, and may have
failed. -/
inductive BroughtUp (elements : List BootstrapElement) : List OperationEvent → Prop where
  | between {first : List BootstrapElement} {done : List AmqpOperation} :
      first <+: elements → List.Forall₂ Describes first done →
      BroughtUp elements (trace done)
  | submitted {first : List BootstrapElement} {next : BootstrapElement}
      {done : List AmqpOperation} {operation : AmqpOperation} :
      first ++ [next] <+: elements → List.Forall₂ Describes first done →
      Describes next operation →
      BroughtUp elements (trace done ++ [.submitted operation])
  | failed {first : List BootstrapElement} {next : BootstrapElement}
      {done : List AmqpOperation} {operation : AmqpOperation} :
      first ++ [next] <+: elements → List.Forall₂ Describes first done →
      Describes next operation →
      BroughtUp elements (trace done ++ [.submitted operation, .failed operation])

theorem describes_next {config : RabbitMqBusConfig} {done : List AmqpOperation}
    {operation : AmqpOperation} (place : done ++ [operation] <+: bootstrapOperations config) :
    ∃ first next, first ++ [next] <+: bootstrapElements config ∧
      List.Forall₂ Describes first done ∧ Describes next operation := by
  obtain ⟨init, before, related⟩ := related_prefix (describes_bootstrap config) place
  obtain ⟨first, next, rfl, described, here⟩ := related_concat related
  exact ⟨first, next, before, described, here⟩

theorem InOrder.broughtUp {config : RabbitMqBusConfig} {log : List OperationEvent}
    (order : InOrder config log) : BroughtUp (bootstrapElements config) log := by
  cases order with
  | between before =>
    obtain ⟨first, prefixed, described⟩ := related_prefix (describes_bootstrap config) before
    exact .between prefixed described
  | submitted place =>
    obtain ⟨first, next, prefixed, described, here⟩ := describes_next place
    exact .submitted prefixed described here
  | failed place =>
    obtain ⟨first, next, prefixed, described, here⟩ := describes_next place
    exact .failed prefixed described here

/-- The part of a connection that its bootstrap depends on. -/
structure Progress where
  handshaken : Bool
  outstanding : List Deferred
  operations : List OperationEvent

def Connection.progress (connection : Connection) : Progress :=
  ⟨connection.handshaken, connection.outstanding, connection.operations⟩

/-- How far a connection has come. -/
inductive Phase (config : RabbitMqBusConfig) : Bool → Progress → Prop where
  | fresh : Phase config false ⟨false, [], []⟩
  | underway {callback : Callback} {opened channel : Nat} {done : List AmqpOperation}
      {operation : AmqpOperation} :
      Position config callback opened done operation →
      Phase config false
        ⟨true, [⟨channel, operation, callback⟩], trace done ++ [.submitted operation]⟩
  | broken {log : List OperationEvent} : InOrder config log →
      Phase config false ⟨true, [], log⟩
  | complete {base : RabbitMqBusConfig} {outstanding : List Deferred}
      {later : List OperationEvent} :
      (∀ operation ∈ bootstrapOperations config,
        .confirmed operation ∈ trace (bootstrapOperations base) ++ later) →
      (∀ deferred ∈ outstanding, ∃ declaration pending,
        deferred.operation = declaration.operation ∧
          deferred.callback = .declared declaration pending) →
      Phase config true ⟨true, outstanding, trace (bootstrapOperations base) ++ later⟩

theorem Phase.inOrder {config : RabbitMqBusConfig} {progress : Progress}
    (phase : Phase config false progress) : InOrder config progress.operations := by
  cases phase with
  | fresh =>
    have nothing : [] <+: bootstrapOperations config := List.nil_prefix
    exact .between nothing
  | underway place => exact .submitted place.splits
  | broken order => exact order

theorem Phase.confirmed {config : RabbitMqBusConfig} {progress : Progress}
    (phase : Phase config true progress) :
    ∀ operation ∈ bootstrapOperations config, .confirmed operation ∈ progress.operations := by
  cases phase with
  | complete confirmed declared => exact confirmed

variable {config : RabbitMqBusConfig} {ready : Bool} {progress : Progress}

/-- Before the handshake nothing has happened. -/
theorem Phase.unshaken (phase : Phase config ready progress)
    (unshaken : progress.handshaken = false) :
    ready = false ∧ progress.outstanding = [] ∧ progress.operations = [] := by
  cases phase with
  | fresh => exact ⟨rfl, rfl, rfl⟩
  | underway place => cases unshaken
  | broken order => cases unshaken
  | complete confirmed declared => cases unshaken

/-- On a ready connection the log may grow in any way. -/
theorem Phase.extend (phase : Phase config true progress) {outstanding : List Deferred}
    (events : List OperationEvent)
    (known : ∀ deferred ∈ outstanding, deferred ∈ progress.outstanding ∨
      ∃ declaration pending, deferred.operation = declaration.operation ∧
        deferred.callback = .declared declaration pending) :
    Phase config true
      ⟨progress.handshaken, outstanding, progress.operations ++ events⟩ := by
  cases phase with
  | complete confirmed declared =>
    rw [List.append_assoc]
    refine .complete (fun operation member => ?_) fun deferred member => ?_
    · rw [← List.append_assoc]
      exact List.mem_append_left _ (confirmed operation member)
    · rcases known deferred member with before | new
      · exact declared deferred before
      · exact new

/-- Outstanding operations fail: one that the broker refuses, those of a channel, or all. -/
theorem Phase.drop (phase : Phase config ready progress) (keep : Deferred → Bool) :
    Phase config ready ⟨progress.handshaken, progress.outstanding.filter keep,
      progress.operations ++ (progress.outstanding.filter fun deferred => !keep deferred).map
        fun deferred => .failed deferred.operation⟩ := by
  cases phase with
  | fresh => exact .fresh
  | @underway callback opened channel done operation place =>
    cases kept : keep ⟨channel, operation, callback⟩ with
    | true =>
      simp only [List.filter_cons, List.filter_nil, kept, Bool.not_true, if_true,
        Bool.false_eq_true, if_false, List.map_nil, List.append_nil]
      exact .underway place
    | false =>
      simp only [List.filter_cons, List.filter_nil, kept, Bool.not_false, if_true,
        Bool.false_eq_true, if_false, List.map_cons, List.map_nil, List.append_assoc,
        List.cons_append, List.nil_append]
      exact .broken (.failed place.splits)
  | broken order =>
    simp only [List.filter_nil, List.map_nil, List.append_nil]
    exact .broken order
  | complete confirmed declared =>
    exact (Phase.complete confirmed declared).extend _ fun deferred member =>
      Or.inl (List.mem_of_mem_filter member)

theorem Phase.refuse (phase : Phase config ready progress) {index : Nat} {deferred : Deferred}
    (found : progress.outstanding[index]? = some deferred) :
    Phase config ready ⟨progress.handshaken, progress.outstanding.eraseIdx index,
      progress.operations ++ [.failed deferred.operation]⟩ := by
  cases phase with
  | fresh => cases found
  | underway place =>
    obtain ⟨rfl, rfl⟩ := found_singleton found
    rw [List.append_assoc]
    exact .broken (.failed place.splits)
  | broken order => cases found
  | complete confirmed declared =>
    exact (Phase.complete confirmed declared).extend _ fun deferred member =>
      Or.inl (List.mem_of_mem_eraseIdx member)

/-- The broker confirms the operation at the place of the bootstrap, or a declaration made at
run time. -/
theorem Phase.confirm (phase : Phase config ready progress) {index : Nat} {deferred : Deferred}
    (found : progress.outstanding[index]? = some deferred) :
    (∃ opened done, ready = false ∧ progress.handshaken = true ∧
        Position config deferred.callback opened done deferred.operation ∧
        progress.outstanding.eraseIdx index = [] ∧
        progress.operations ++ [.confirmed deferred.operation] =
          trace (done ++ [deferred.operation])) ∨
      ∃ declaration pending, deferred.callback = .declared declaration pending ∧
        Phase (declaration.record config) ready ⟨progress.handshaken,
          progress.outstanding.eraseIdx index,
          progress.operations ++ [.confirmed deferred.operation]⟩ := by
  cases phase with
  | fresh => cases found
  | @underway callback opened channel done operation place =>
    obtain ⟨rfl, rfl⟩ := found_singleton found
    refine Or.inl ⟨opened, done, rfl, rfl, place, rfl, ?_⟩
    rw [trace_concat, List.append_assoc]
    rfl
  | broken order => cases found
  | complete confirmed declared =>
    obtain ⟨declaration, pending, operation, callback⟩ :=
      declared deferred (List.mem_of_getElem? found)
    refine Or.inr ⟨declaration, pending, callback, ?_⟩
    rw [List.append_assoc]
    refine .complete (fun other member => ?_) fun other member => ?_
    · rw [← List.append_assoc]
      rcases bootstrapOperations_record member with before | rfl
      · exact List.mem_append_left _ (confirmed other before)
      · exact List.mem_append_right _ (by rw [operation]; exact List.mem_singleton_self _)
    · exact declared other (List.mem_of_mem_eraseIdx member)

namespace State

def InPhase (s : State) : Prop :=
  ∀ connection, s.connection = some connection → Phase s.config s.ready connection.progress

/-- What the bootstrap depends on is unchanged. -/
structure SamePhase (s s' : State) : Prop where
  config : s'.config = s.config
  ready : s'.ready = s.ready
  progress : s'.connection.map (·.progress) = s.connection.map (·.progress)

theorem SamePhase.refl (s : State) : SamePhase s s := ⟨rfl, rfl, rfl⟩

theorem SamePhase.trans {a b c : State} (first : SamePhase a b) (second : SamePhase b c) :
    SamePhase a c :=
  ⟨second.config.trans first.config, second.ready.trans first.ready,
    second.progress.trans first.progress⟩

theorem InPhase.same {s s' : State} (inPhase : InPhase s) (same : SamePhase s s') :
    InPhase s' := by
  intro connection' live'
  have progress := same.progress
  rw [live', Option.map_some] at progress
  obtain ⟨connection, live, equal⟩ := Option.map_eq_some_iff.mp progress.symm
  rw [same.config, same.ready, ← equal]
  exact inPhase connection live

theorem Kept.samePhase {s s' : State} (kept : Kept s s') : SamePhase s s' where
  config := kept.config
  ready := kept.ready
  progress := by
    have same := congrArg (Option.map Connection.progress) kept.connection
    rw [Option.map_map, Option.map_map] at same
    exact same

theorem samePhase_onConnection (change : Connection → Connection)
    (same : ∀ connection, (change connection).progress = connection.progress) (s : State) :
    SamePhase s (s.onConnection change) := by
  refine ⟨rfl, rfl, ?_⟩
  simp [onConnection, Function.comp_def, same]

theorem samePhase_openConsumerChannel (spec : ConsumerSpec) (s : State) :
    SamePhase s (s.openConsumerChannel spec) := by
  have opened := samePhase_onConnection (.openChannel
    ((s.consumerRuntimes.lookup spec.name).bind (·.channel))
    { id := s.nextChannel
      errorText := "Consumer channel error for '" ++ spec.name ++ "'"
      closed := false, receiver := none, nextTag := 1 }) (fun _ => rfl) s
  exact ⟨rfl, rfl, opened.progress⟩

theorem samePhase_markActive (name tag : String) (s : State) :
    SamePhase s (s.markActive name tag) := by
  unfold markActive
  split <;> exact ⟨rfl, rfl, rfl⟩

/-! ## Operations of the bootstrap -/

/-- Between two operations of the bootstrap. -/
def Between (s : State) (done : List AmqpOperation) : Prop :=
  s.ready = false ∧ done <+: bootstrapOperations s.config ∧
    ∃ connection, s.connection = some connection ∧ connection.progress = ⟨true, [], trace done⟩

theorem Between.same {s s' : State} {done : List AmqpOperation} (between : Between s done)
    (same : SamePhase s s') : Between s' done := by
  obtain ⟨ready, before, connection, live, progress⟩ := between
  have kept := same.progress
  rw [live, Option.map_some] at kept
  obtain ⟨connection', live', equal⟩ := Option.map_eq_some_iff.mp kept
  exact ⟨same.ready.trans ready, same.config ▸ before, connection', live', equal.trans progress⟩

theorem Between.inPhase {s : State} {done : List AmqpOperation} (between : Between s done) :
    InPhase s := by
  obtain ⟨ready, before, connection, live, progress⟩ := between
  intro connection' live'
  cases live.symm.trans live'
  rw [ready, progress]
  exact .broken (.between before)

/-- What a submitted operation adds to the log. -/
theorem submit_cases {s : State} {connection : Connection} (live : s.connection = some connection)
    (channel : Nat) (operation : AmqpOperation) (callback : Callback) (answer : Answer) :
    ∃ connection', (s.submit channel operation callback answer).connection = some connection' ∧
      (s.submit channel operation callback answer).config = s.config ∧
      (s.submit channel operation callback answer).ready = s.ready ∧
      (connection'.progress = ⟨connection.handshaken,
          connection.outstanding ++ [⟨channel, operation, callback⟩],
          connection.operations ++ [.submitted operation]⟩ ∨
        connection'.progress = ⟨connection.handshaken, connection.outstanding,
          connection.operations ++ [.submitted operation, .failed operation]⟩) := by
  have produced : (s.onData answer.produced).connection =
      some { connection with produced := connection.produced ++ answer.produced } := by
    simp only [onData, onConnection, live, Option.map_some]
  unfold submit
  dsimp only
  split
  · exact ⟨.submit ⟨channel, operation, callback⟩ _, congrArg (Option.map _) produced, rfl, rfl,
      Or.inl rfl⟩
  · obtain ⟨_, _, _, reported⟩ := reports_onError callback "Frame could not be sent"
      ((s.onData answer.produced).onConnection (.submitUnsent operation))
    rw [reported]
    exact ⟨.submitUnsent operation _, congrArg (Option.map _) produced, rfl, rfl, Or.inr rfl⟩

theorem Advanced.inPhase {s s' : State} {done : List AmqpOperation} {opened : Nat}
    (advanced : Advanced s done opened s') (between : Between s done) : InPhase s' := by
  induction advanced with
  | stuck => exact between.inPhase
  | broken => exact (between.same (quiet_requestDisconnect _ _).kept.samePhase).inPhase
  | @finished s opened =>
    obtain ⟨ready, before, connection, live, progress⟩ := between
    intro connection' live'
    cases live.symm.trans live'
    have complete : Phase s.config true
        ⟨true, [], trace (bootstrapOperations s.config) ++ []⟩ :=
      .complete (fun operation member => List.mem_append_left _ (confirmed_mem_trace member))
        fun deferred member => absurd member List.not_mem_nil
    rw [List.append_nil] at complete
    rw [progress]
    exact complete
  | @submitted s callback opened channel done operation answer place running =>
    obtain ⟨ready, before, connection, live, progress⟩ := between
    cases connection
    cases progress
    obtain ⟨connection', live', config, sameReady, accepted | refused⟩ :=
      submit_cases live channel operation callback answer
    · intro other isLive
      cases live'.symm.trans isLive
      rw [config, sameReady, ready, accepted]
      exact .underway place
    · intro other isLive
      cases live'.symm.trans isLive
      rw [config, sameReady, ready, refused]
      exact .broken (.failed place.splits)
  | opened here next ih => exact ih (between.same (samePhase_openConsumerChannel _ _))
  | active next ih => exact ih (between.same (samePhase_markActive _ _ _))

theorem InPhase.intro {s : State} {connection : Connection}
    (live : s.connection = some connection) (phase : Phase s.config s.ready connection.progress) :
    InPhase s := by
  intro other isLive
  cases live.symm.trans isLive
  exact phase

theorem InPhase.failChannel {s : State} (inPhase : InPhase s) (channel : Channel)
    (message : String) : InPhase (s.failChannel channel message) := by
  refine InPhase.same ?_ (reports_failChannel channel message s).kept.samePhase
  intro connection' live'
  obtain ⟨connection, live, rfl⟩ := Option.map_eq_some_iff.mp live'
  have phase := (inPhase connection live).drop (·.channel != channel.id)
  simp only [bne, Bool.not_not] at phase
  exact phase

theorem InPhase.failConnection {s : State} (inPhase : InPhase s) (reason : ReasonRef) :
    InPhase (s.failConnection reason) := by
  refine InPhase.same ?_ (reports_failConnection reason s).kept.samePhase
  intro connection' live'
  obtain ⟨connection, live, rfl⟩ := Option.map_eq_some_iff.mp live'
  have phase := (inPhase connection live).drop fun _ => false
  simp only [List.filter_false, Bool.not_false, List.filter_true] at phase
  exact phase

theorem InPhase.unready {s s' : State} (inPhase : InPhase s) (same : SamePhase s s') :
    InPhase s' ∧ s'.ready = s.ready :=
  ⟨inPhase.same same, same.ready⟩

/-- A callback of the library lets the bootstrap go on, or leaves readiness as it is. -/
theorem Called.advances {s s' : State} {connection : Connection} {event : AmqpEvent}
    (live : s.connection = some connection) (called : Called s connection event s')
    (inPhase : InPhase s) :
    (∃ start done opened, Between start done ∧ Advanced start done opened s') ∨
      InPhase s' ∧ s'.ready = s.ready := by
  have phase := inPhase connection live
  have isLive (change : Connection → Connection) :
      (s.onConnection change).connection = some (change connection) := by
    rw [onConnection, live, Option.map_some]
  cases called with
  | ready fresh =>
    have start : Between { s.onConnection ({ · with handshaken := true }) with
        handshakeReady := true } [] := by
      obtain ⟨ready, nothing, empty⟩ := phase.unshaken fresh
      refine ⟨ready, List.nil_prefix, _, isLive _, ?_⟩
      simp only [Connection.progress, Progress.mk.injEq, true_and]
      exact ⟨nothing, empty⟩
    exact Or.inl ⟨_, _, _, start, startBootstrap_advanced _ _⟩
  | @succeeded index tag answer deferred found =>
    rcases phase.confirm found with
      ⟨opened, done, ready, handshaken, place, nothing, confirmed⟩ |
        ⟨declaration, pending, callback, recorded⟩
    · have between : Between (s.onConnection (.confirm index deferred))
          (done ++ [deferred.operation]) := by
        refine ⟨ready, place.splits, _, isLive _, ?_⟩
        simp only [Connection.progress, Connection.confirm, Progress.mk.injEq]
        exact ⟨handshaken, nothing, confirmed⟩
      have advanced := onSuccess_advanced (s := s.onConnection (.confirm index deferred))
        tag answer place
      exact Or.inl ⟨_, _, _, between, advanced⟩
    · rw [callback]
      have declared : InPhase { s.onConnection (.confirm index deferred) with
          config := declaration.record s.config } := .intro (isLive _) recorded
      exact Or.inr (declared.unready (reports_completePendingResult _ _ _).kept.samePhase)
  | @failed index message deferred found =>
    have refused : InPhase (s.onConnection (.refuse index deferred)) :=
      .intro (isLive _) (phase.refuse found)
    exact Or.inr (refused.unready (reports_onError _ _ _).kept.samePhase)
  | @channelError message channel member isOpen =>
    have reported := (reports_failChannel channel message s).kept
    exact Or.inr ⟨inPhase.failChannel _ _, reported.samePhase.ready⟩
  | @connectionError message =>
    have reported := (reports_failConnection (.text message) s).kept
    exact Or.inr ⟨inPhase.failConnection _, reported.samePhase.ready⟩
  | closed =>
    have closed := samePhase_onConnection
      (fun connection => { connection with closed := true }) (fun _ => rfl) s
    exact Or.inr (inPhase.unready (closed.trans (quiet_requestDisconnect _ _).kept.samePhase))
  | @received id message dispatch channel spec found receives =>
    have counted := samePhase_onConnection (.countDelivery id) (fun _ => rfl) s
    exact Or.inr (inPhase.unready (counted.trans
      (handleIncomingMessage_cases _ _ _ _ _ _).kept.samePhase))
  | cancelled member receives =>
    exact Or.inr (inPhase.unready (quiet_requestDisconnect _ s).kept.samePhase)
  | data => exact Or.inr (inPhase.unready (quiet_onData _ s).kept.samePhase)

theorem Called.inPhase {s s' : State} {connection : Connection} {event : AmqpEvent}
    (live : s.connection = some connection) (called : Called s connection event s')
    (inPhase : InPhase s) : InPhase s' := by
  rcases called.advances live inPhase with ⟨start, done, opened, between, advanced⟩ | ⟨stays, -⟩
  · exact advanced.inPhase between
  · exact stays

/-- Once the connection is ready, declarations made at run time extend the log. -/
theorem InPhase.executed {s s' : State} {command : Command} (inPhase : InPhase s)
    (coherent : Coherent s) (executed : Executed s command s') :
    InPhase s' ∧ s'.ready = s.ready := by
  cases executed with
  | answered quiet =>
    exact inPhase.unready (quiet.kept_answered _ _).samePhase
  | @submitted declaration channel answer body ready admin =>
    simp only [isReadyLocked, Bool.and_eq_true] at ready
    obtain ⟨connection, live⟩ := Option.isSome_iff_exists.mp (coherent.live.trans ready.1.1)
    have phase := inPhase connection live
    rw [ready.1.2] at phase
    obtain ⟨connection', live', config, sameReady, accepted | refused⟩ := submit_cases live channel
      declaration.operation (.declared declaration command.pending) answer
    · refine ⟨.intro live' ?_, sameReady⟩
      rw [config, sameReady, ready.1.2, accepted]
      refine phase.extend _ fun deferred member => ?_
      rcases List.mem_append.mp member with before | new
      · exact Or.inl before
      · rw [List.mem_singleton.mp new]
        exact Or.inr ⟨declaration, command.pending, rfl, rfl⟩
    · refine ⟨.intro live' ?_, sameReady⟩
      rw [config, sameReady, ready.1.2, refused]
      exact phase.extend _ fun deferred member => Or.inl member

theorem ConnectionStep.inPhase {s s' : State} {l : Label} (step : ConnectionStep s l s')
    (inPhase : InPhase s) : InPhase s' := by
  cases step with
  | same receives disconnects kept => exact inPhase.same kept.samePhase
  | executed receives disconnects before coherent executed after =>
    exact ((inPhase.same before.samePhase).executed coherent executed).1.same after.samePhase
  | called live called => exact called.inPhase live inPhase
  | dropped receives disconnects gone admin ready runtimes channels config =>
    intro connection live
    rw [gone] at live
    cases live
  | connected gone runtimes => exact .intro rfl .fresh

theorem run_inPhase {config : RabbitMqBusConfig} {now : Int} {past : List (State × Label)}
    {s : State} (run : DriverRun config now past s) : InPhase s :=
  run.invariant_past (fun _ => InPhase) (fun _ live => by cases live)
    (fun _ _ _ _ before inPhase taken =>
      (step_connectionStep (run_coherent before) taken).inPhase inPhase)

/-! ## The step that makes a connection ready -/

/-- The log consists of the whole bootstrap, each operation confirmed before the next. -/
def FullyBootstrapped (s : State) : Prop :=
  ∃ connection, s.connection = some connection ∧
    connection.operations = trace (bootstrapOperations s.config)

theorem Advanced.fullyBootstrapped {s s' : State} {done : List AmqpOperation} {opened : Nat}
    (advanced : Advanced s done opened s') (between : Between s done) (ready : s'.ready = true) :
    FullyBootstrapped s' := by
  induction advanced with
  | stuck => cases between.1.symm.trans ready
  | broken => cases between.1.symm.trans ready
  | finished =>
    obtain ⟨-, -, connection, live, progress⟩ := between
    exact ⟨connection, live, congrArg Progress.operations progress⟩
  | @submitted s callback opened channel done operation answer place running =>
    obtain ⟨unready, -, connection, live, -⟩ := between
    obtain ⟨-, -, -, same, -⟩ := submit_cases live channel operation callback answer
    cases unready.symm.trans (same.symm.trans ready)
  | opened here next ih => exact ih (between.same (samePhase_openConsumerChannel _ _)) ready
  | active next ih => exact ih (between.same (samePhase_markActive _ _ _)) ready

theorem ConnectionStep.fullyBootstrapped {s s' : State} {l : Label}
    (step : ConnectionStep s l s')
    (inPhase : InPhase s) (unready : s.ready = false) (ready : s'.ready = true) :
    FullyBootstrapped s' := by
  have changed {next : State} (same : next.ready = s.ready) (isReady : next.ready = true) :
      False := by
    cases unready.symm.trans (same.symm.trans isReady)
  cases step with
  | same receives disconnects kept => exact (changed kept.ready ready).elim
  | executed receives disconnects before coherent executed after =>
    have same := ((inPhase.same before.samePhase).executed coherent executed).2
    exact (changed (after.ready.trans (same.trans before.ready)) ready).elim
  | called live called =>
    rcases called.advances live inPhase with
      ⟨start, done, opened, between, advanced⟩ | ⟨-, same⟩
    · exact advanced.fullyBootstrapped between ready
    · exact (changed same ready).elim
  | dropped receives disconnects gone admin down runtimes channels config =>
    cases down.symm.trans ready
  | connected gone runtimes => cases ready

/-! ## The log of a connection only grows -/

def Grows (s s' : State) : Prop :=
  ∀ connection, s.connection = some connection → ∃ connection',
    s'.connection = some connection' ∧ connection.operations <+: connection'.operations

theorem Grows.trans {a b c : State} (first : Grows a b) (second : Grows b c) : Grows a c := by
  intro connection live
  obtain ⟨connection', live', grown⟩ := first connection live
  obtain ⟨connection'', live'', more⟩ := second connection' live'
  exact ⟨connection'', live'', grown.trans more⟩

theorem SamePhase.grows {s s' : State} (same : SamePhase s s') : Grows s s' := by
  intro connection live
  have progress := same.progress
  rw [live, Option.map_some] at progress
  obtain ⟨connection', live', equal⟩ := Option.map_eq_some_iff.mp progress
  refine ⟨connection', live', ?_⟩
  have operations : connection'.operations = connection.operations :=
    congrArg Progress.operations equal
  exact operations ▸ List.prefix_rfl

theorem grows_onConnection (change : Connection → Connection)
    (grows : ∀ connection, connection.operations <+: (change connection).operations) (s : State) :
    Grows s (s.onConnection change) := by
  intro connection live
  exact ⟨change connection, by rw [onConnection, live, Option.map_some], grows connection⟩

theorem grows_submit (channel : Nat) (operation : AmqpOperation) (callback : Callback)
    (answer : Answer) (s : State) : Grows s (s.submit channel operation callback answer) := by
  intro connection live
  obtain ⟨connection', live', -, -, accepted | refused⟩ :=
    submit_cases live channel operation callback answer
  · refine ⟨connection', live', ?_⟩
    rw [show connection'.operations = _ from congrArg Progress.operations accepted]
    exact List.prefix_append _ _
  · refine ⟨connection', live', ?_⟩
    rw [show connection'.operations = _ from congrArg Progress.operations refused]
    exact List.prefix_append _ _

theorem Advanced.grows {s s' : State} {done : List AmqpOperation} {opened : Nat}
    (advanced : Advanced s done opened s') : Grows s s' := by
  induction advanced with
  | stuck => exact (SamePhase.refl _).grows
  | broken => exact (quiet_requestDisconnect _ _).kept.samePhase.grows
  | finished => exact fun connection live => ⟨connection, live, List.prefix_rfl⟩
  | submitted place running => exact grows_submit _ _ _ _ _
  | opened here next ih => exact (samePhase_openConsumerChannel _ _).grows.trans ih
  | active next ih => exact (samePhase_markActive _ _ _).grows.trans ih

theorem grows_onSuccess (callback : Callback) (tag : String) (answer : Answer) (s : State) :
    Grows s (s.onSuccess callback tag answer) := by
  obtain ⟨declaration, pending, rfl⟩ | ⟨-, done, opened, advanced⟩ :=
    onSuccess_chain callback tag answer s
  · have recorded : Grows s { s with config := declaration.record s.config } :=
      fun connection live => ⟨connection, live, List.prefix_rfl⟩
    exact recorded.trans (reports_completePendingResult _ _ _).kept.samePhase.grows
  · exact advanced.grows

theorem Called.grows {s s' : State} {connection : Connection} {event : AmqpEvent}
    (called : Called s connection event s') : Grows s s' := by
  cases called with
  | ready fresh =>
    have handshaken : Grows s
        { s.onConnection ({ · with handshaken := true }) with handshakeReady := true } :=
      grows_onConnection (fun connection => { connection with handshaken := true })
        (fun _ => List.prefix_rfl) s
    exact handshaken.trans (startBootstrap_advanced _ _).grows
  | @succeeded index tag answer deferred found =>
    have confirmed := grows_onConnection (.confirm index deferred)
      (fun _ => List.prefix_append _ _) s
    exact confirmed.trans (grows_onSuccess _ _ _ _)
  | @failed index message deferred found =>
    have refused := grows_onConnection (.refuse index deferred)
      (fun _ => List.prefix_append _ _) s
    exact refused.trans (reports_onError _ _ _).kept.samePhase.grows
  | @channelError message channel member isOpen =>
    have failed := grows_onConnection (.failChannel channel.id)
      (fun _ => List.prefix_append _ _) s
    exact failed.trans (reports_failChannel channel message s).kept.samePhase.grows
  | @connectionError message =>
    have failed := grows_onConnection .fail (fun _ => List.prefix_append _ _) s
    exact failed.trans (reports_failConnection (.text message) s).kept.samePhase.grows
  | closed =>
    have closed := grows_onConnection
      (fun connection => { connection with closed := true })
      (fun _ => List.prefix_rfl) s
    exact closed.trans (quiet_requestDisconnect _ _).kept.samePhase.grows
  | @received id message dispatch channel spec found receives =>
    have counted := grows_onConnection (.countDelivery id)
      (fun _ => List.prefix_rfl) s
    exact counted.trans (handleIncomingMessage_cases _ _ _ _ _ _).kept.samePhase.grows
  | cancelled member receives => exact (quiet_requestDisconnect _ s).kept.samePhase.grows
  | data => exact (quiet_onData _ s).kept.samePhase.grows

theorem Executed.grows {s s' : State} {command : Command} (executed : Executed s command s') :
    Grows s s' := by
  cases executed with
  | answered quiet =>
    exact (quiet.kept_answered _ _).samePhase.grows
  | submitted body ready admin => exact grows_submit _ _ _ _ s

/-- An operation has failed before the connection was ready. -/
def BootstrapFailed (s : State) : Prop :=
  s.ready = false ∧ ∃ connection operation, s.connection = some connection ∧
    .failed operation ∈ connection.operations

/-- As long as the connection stays, a failed bootstrap stays failed. -/
theorem ConnectionStep.bootstrapFailed {s s' : State} {l : Label} (step : ConnectionStep s l s')
    (inPhase : InPhase s) (failed : BootstrapFailed s) (stays : s'.connection.isSome = true) :
    BootstrapFailed s' := by
  obtain ⟨unready, connection, operation, live, member⟩ := failed
  have grows : Grows s s' := by
    cases step with
    | same receives disconnects kept => exact kept.samePhase.grows
    | executed receives disconnects before coherent executed after =>
      exact (before.samePhase.grows.trans executed.grows).trans after.samePhase.grows
    | called live called => exact called.grows
    | dropped receives disconnects gone admin down runtimes channels config =>
      rw [gone] at stays
      cases stays
    | connected gone runtimes =>
      rw [gone] at live
      cases live
  obtain ⟨connection', live', grown⟩ := grows connection live
  have kept : .failed operation ∈ connection'.operations := grown.subset member
  refine ⟨?_, connection', operation, live', kept⟩
  by_contra ready
  obtain ⟨other, isLive, log⟩ := step.fullyBootstrapped inPhase unready (by simpa using ready)
  cases live'.symm.trans isLive
  rw [log] at kept
  exact failed_not_mem_trace kept

/-! ## One connection after another -/

variable {config : RabbitMqBusConfig} {now : Int} {past : List (State × Label)} {s : State}

/-- All admin channels so far have numbers below the next. -/
def AdminsNumbered (past : List (State × Label)) (s : State) : Prop :=
  (∀ admin, s.adminChannel = some admin → admin < s.nextChannel) ∧
    ∀ before l admin, (before, l) ∈ past → before.adminChannel = some admin →
      admin < s.nextChannel

theorem adminsNumbered_step {l : Label} {s' : State} (step : ConnectionStep s l s')
    (numbered : AdminsNumbered past s) : AdminsNumbered ((s, l) :: past) s' := by
  obtain ⟨here, earlier⟩ := numbered
  obtain ⟨admin, channels⟩ := step.admin
  constructor
  · intro id isAdmin
    rcases admin with same | none | ⟨new, more⟩
    · exact Nat.lt_of_lt_of_le (here id (same ▸ isAdmin)) channels
    · rw [none] at isAdmin
      cases isAdmin
    · cases new.symm.trans isAdmin
      exact more
  · intro before label id member isAdmin
    rcases List.mem_cons.mp member with last | old
    · cases last
      exact Nat.lt_of_lt_of_le (here id isAdmin) channels
    · exact Nat.lt_of_lt_of_le (earlier before label id old isAdmin) channels

theorem run_adminsNumbered (run : DriverRun config now past s) : AdminsNumbered past s :=
  run.invariant_past AdminsNumbered
    ⟨(fun _ isAdmin => by cases isAdmin), fun _ _ _ member => absurd member List.not_mem_nil⟩
    (fun _ _ _ _ before numbered taken =>
      adminsNumbered_step (step_connectionStep (run_coherent before) taken) numbered)

/-- A connection whose bootstrap has failed, known by its admin channel, stays so. -/
def StaysFailed (past : List (State × Label)) (s : State) : Prop :=
  ∀ before l admin, (before, l) ∈ past → before.adminChannel = some admin →
    s.adminChannel = some admin → BootstrapFailed before → BootstrapFailed s

theorem staysFailed_step {l : Label} {s' : State} (step : ConnectionStep s l s')
    (inPhase : InPhase s) (coherent : Coherent s') (numbered : AdminsNumbered past s)
    (stays : StaysFailed past s) : StaysFailed ((s, l) :: past) s' := by
  intro before label admin member wasAdmin isAdmin failed
  have live : s'.connection.isSome = true := by
    rw [coherent.live, ← coherent.admin, isAdmin]
    rfl
  have old : admin < s.nextChannel := by
    rcases List.mem_cons.mp member with last | earlier
    · cases last
      exact numbered.1 admin wasAdmin
    · exact numbered.2 before label admin earlier wasAdmin
  have same : s.adminChannel = some admin := by
    rcases step.admin.1 with same | none | ⟨new, -⟩
    · exact same ▸ isAdmin
    · rw [none] at isAdmin
      cases isAdmin
    · cases new.symm.trans isAdmin
      exact absurd old (Nat.lt_irrefl _)
  have failedHere : BootstrapFailed s := by
    rcases List.mem_cons.mp member with last | earlier
    · cases last
      exact failed
    · exact stays before label admin earlier wasAdmin same failed
  exact step.bootstrapFailed inPhase failedHere live

theorem run_staysFailed (run : DriverRun config now past s) : StaysFailed past s :=
  run.invariant_past StaysFailed (fun _ _ _ member => absurd member List.not_mem_nil)
    (fun _ _ _ _ before stays taken =>
      staysFailed_step (step_connectionStep (run_coherent before) taken) (run_inPhase before)
        (coherent_step (run_coherent before) taken) (run_adminsNumbered before) stays)

/-- What is known of the bootstrap in a state that a run has reached. -/
structure Bootstrapped (past : List (State × Label)) (s : State) : Prop where
  /-- Everything the configuration holds now is confirmed on this connection. -/
  confirmed : s.ready = true → ∃ connection, s.connection = some connection ∧
    ∀ element ∈ bootstrapElements s.config, ∃ operation, Describes element operation ∧
      .confirmed operation ∈ connection.operations
  /-- Until then the operations are submitted in order, each after the one before. -/
  inOrder : s.ready = false → ∀ connection, s.connection = some connection →
    BroughtUp (bootstrapElements s.config) connection.operations
  /-- A connection becomes ready when exactly the whole bootstrap has been confirmed. -/
  whole : ∀ l s', s.step l = some s' → s.ready = false → s'.ready = true →
    ∃ connection operations, s'.connection = some connection ∧
      List.Forall₂ Describes (bootstrapElements s'.config) operations ∧
      connection.operations = trace operations
  /-- A connection on which an operation of the bootstrap failed never becomes ready. -/
  final : ∀ before l admin, (before, l) ∈ past → before.adminChannel = some admin →
    s.adminChannel = some admin → BootstrapFailed before → s.ready = false

/-- Connected means fully bootstrapped. -/
theorem run_bootstrapped (config : RabbitMqBusConfig) (now : Int) (past : List (State × Label))
    (s : State) (run : DriverRun config now past s) : Bootstrapped past s where
  confirmed ready := by
    have up : s.connected = true := by
      by_contra down
      have unready := ((run_coherent run).down (by simpa using down)).1
      cases unready.symm.trans ready
    obtain ⟨connection, live⟩ := Option.isSome_iff_exists.mp ((run_coherent run).live.trans up)
    have phase := run_inPhase run connection live
    rw [ready] at phase
    refine ⟨connection, live, fun element member => ?_⟩
    obtain ⟨operation, asked, described⟩ := exists_related (describes_bootstrap s.config) member
    exact ⟨operation, described, phase.confirmed operation asked⟩
  inOrder unready connection live := by
    have phase := run_inPhase run connection live
    rw [unready] at phase
    exact phase.inOrder.broughtUp
  whole l s' taken unready ready := by
    obtain ⟨connection, live, log⟩ :=
      (step_connectionStep (run_coherent run) taken).fullyBootstrapped (run_inPhase run) unready
        ready
    exact ⟨connection, bootstrapOperations s'.config, live, describes_bootstrap s'.config, log⟩
  final before l admin member wasAdmin isAdmin failed :=
    (run_staysFailed run before l admin member wasAdmin isAdmin failed).1

end State

end Driver

end

namespace Driver.State

open PlainFields

theorem bringUp_bootstrapped :
    ∃ past s, exec step bringUp [] (new workerConfig 0) = some (past, s) ∧ s.ready = true ∧
      Bootstrapped past s := by
  obtain ⟨past, s, executed, ready⟩ :
      ∃ past s, exec step bringUp [] (new workerConfig 0) = some (past, s) ∧ s.ready = true :=
    ⟨_, _, rfl, rfl⟩
  exact ⟨past, s, executed, ready,
    run_bootstrapped workerConfig 0 past s (run_of_exec .nil executed)⟩

end Driver.State

end ModuleContext.RabbitMqBus
