import ModuleContext.RabbitMqBus.Broker
import ModuleContext.RabbitMqBus.Driver.CallResults

/-!
# What callers are told

A caller that is told that its call succeeded can rely on it: the frame of a publish or
completion command has been handed to a channel, and a declaration has been confirmed by the
broker and recorded for the next connection. Conversely nothing is handed over or recorded
behind the back of a caller that is told otherwise.
-/

namespace ModuleContext.RabbitMqBus.Driver
open Foundation Misc

theorem lookup_error {errors : List (Nat × Result Unit)}
    (refused : ∀ entry ∈ errors, isOk entry.2 = false) (pending : Nat) :
    errors.lookup pending ≠ some makeSuccess := by
  intro found
  obtain ⟨front, back, rfl, -⟩ := List.lookup_eq_some_iff.mp found
  have told := refused (pending, makeSuccess) (List.mem_append_right _ List.mem_cons_self)
  cases told

theorem success_of_any {result : Option (Result Unit)} :
    result.any isOk = true ↔ result = some makeSuccess := by
  rcases result with _ | ⟨e⟩ | ⟨⟩
  · exact iff_of_false nofun nofun
  · exact iff_of_false nofun nofun
  · exact iff_of_true rfl rfl

/-- Declarations that are upserted into a list with distinct keys leave the latest of each key. -/
theorem mem_recorded {α κ : Type} {key : α → κ} {same : α → α → Bool}
    (agrees : ∀ a b, same a b = true ↔ key a = key b) {items : List α}
    (distinct : (items.map key).Nodup) (sequence : List α) (x : α) :
    x ∈ upsertAll same items sequence ↔ Latest key (items ++ sequence) x := by
  rw [← mem_upsertAll agrees, upsertAll_append, upsertAll_of_nodup agrees distinct]

section

variable [AmqpFields]

namespace State

/-- The command is not a declaration, and its caller has been told that it succeeded. -/
def performed (s : State) (command : Command) : Bool :=
  !command.body.isDeclare && (s.resultOf command.pending).any isOk

/-- The frames handed to connections that have ended, oldest first. -/
def formerTransfers : List (State × Label) → List Transfer
  | [] => []
  | (s, l) :: past => formerTransfers past ++ if s.disconnects l then s.transfers else []

/-- All frames handed to channels so far, over all connections. -/
def handedOver (past : List (State × Label)) (s : State) : List Transfer :=
  formerTransfers past ++ s.transfers

/-- The confirmed declarations of callers, in order. -/
def confirmed : List (State × Label) → List (Declaration × Nat)
  | [] => []
  | (s, l) :: past => confirmed past ++ (s.confirms l).toList

variable {s s' : State} {config : RabbitMqBusConfig} {now : Int} {past : List (State × Label)}

/-! ## Commands -/

/-- No number is executed twice. -/
theorem executed_distinct (run : DriverRun config now past s) :
    ((executed past).map (·.pending)).Nodup := by
  have numbered := congrArg (·.map Command.pending) (run_commands run)
  rw [run_numbered run, List.map_append] at numbered
  exact (numbered ▸ List.nodup_range).of_append_left

/-- A command that is executed in the next step is not among those executed before. -/
theorem executed_before_next {l : Label} (run : DriverRun config now past s)
    (taken : s.step l = some s') {command earlier : Command}
    (executes : s.executes l = some command) (member : earlier ∈ executed past) :
    earlier.pending ≠ command.pending := by
  have distinct := executed_distinct (run.snoc taken)
  rw [executed, executes, List.map_append, List.nodup_append] at distinct
  exact distinct.2.2 _ (List.mem_map_of_mem member) _ List.mem_cons_self

/-- Errors that are added do not tell anybody of a success. -/
theorem success_of_errors {errors : List (Nat × Result Unit)}
    (completed : s'.completed = s.completed ++ errors)
    (refused : ∀ entry ∈ errors, isOk entry.2 = false) (pending : Nat) :
    s'.resultOf pending = some makeSuccess ↔ s.resultOf pending = some makeSuccess := by
  rw [resultOf_append completed]
  cases s.resultOf pending with
  | none =>
    rw [Option.none_or]
    exact iff_of_false (lookup_error refused pending) nofun
  | some value => rw [Option.some_or]

/-- What callers have been told stays. -/
theorem performed_of_keeps {news : List (Nat × Result Unit)} {command : Command}
    (completed : s'.completed = s.completed ++ news)
    (answered : command.body.isDeclare = false → (s.resultOf command.pending).isSome = true) :
    s'.performed command = s.performed command := by
  unfold performed
  cases kind : command.body.isDeclare with
  | true => rfl
  | false =>
    obtain ⟨value, told⟩ := Option.isSome_iff_exists.mp (answered kind)
    rw [resultOf_append completed, told, Option.some_or]

/-- The frames handed over are those of the commands whose callers are told of a success, in
the order of execution, and every command is answered when it is executed, but for a
declaration. -/
structure FramesMatch (past : List (State × Label)) (s : State) : Prop where
  frames : List.Forall₂ Hands ((executed past).filter s.performed) (handedOver past s)
  answered : ∀ command ∈ executed past, command.body.isDeclare = false →
    (s.resultOf command.pending).isSome = true

theorem FramesMatch.later {news : List (Nat × Result Unit)} (frames : FramesMatch past s)
    (completed : s'.completed = s.completed ++ news) :
    (executed past).filter s'.performed = (executed past).filter s.performed := by
  apply List.filter_congr
  intro command member
  exact performed_of_keeps completed (frames.answered command member)

theorem FramesMatch.stillAnswered {news : List (Nat × Result Unit)} (frames : FramesMatch past s)
    (completed : s'.completed = s.completed ++ news) {command : Command}
    (member : command ∈ executed past) (other : command.body.isDeclare = false) :
    (s'.resultOf command.pending).isSome = true := by
  obtain ⟨value, told⟩ := Option.isSome_iff_exists.mp (frames.answered command member other)
  rw [resultOf_append completed, told]
  rfl

theorem FramesMatch.step {l : Label} (frames : FramesMatch past s) (result : ResultStep s l s') :
    FramesMatch ((s, l) :: past) s' := by
  cases result with
  | silent idle unconfirmed silent =>
    obtain ⟨errors, completed, -⟩ := silent.completed
    have same : executed ((s, l) :: past) = executed past := by
      rw [executed, idle]
      exact List.append_nil _
    refine ⟨?_, ?_⟩
    · rw [same, frames.later completed, handedOver, formerTransfers, List.append_assoc,
        silent.transfers]
      exact frames.frames
    · rw [same]
      exact fun _ => frames.stillAnswered completed
  | @performed command frame errors executes unconfirmed lasts hands fresh sameConfig transfers
      completed refused awaits =>
    have told : s'.resultOf command.pending = some makeSuccess := by
      rw [resultOf_append completed, fresh, Option.none_or, List.lookup_cons_self]
    have counts : s'.performed command = true := by
      rw [State.performed, hands.other, told]
      rfl
    refine ⟨?_, ?_⟩
    · rw [executed, executes, List.filter_append, frames.later completed, handedOver,
        formerTransfers, lasts, transfers, if_neg Bool.false_ne_true, List.append_nil,
        ← List.append_assoc]
      apply List.rel_append frames.frames
      rw [Option.toList_some, List.filter_cons_of_pos counts]
      exact .cons hands .nil
    · intro other member notDeclared
      rw [executed, executes] at member
      rcases List.mem_append.mp member with earlier | last
      · exact frames.stillAnswered completed earlier notDeclared
      · rw [List.mem_singleton.mp last, told]
        rfl
  | @denied command executes unconfirmed lasts fresh sameConfig transfers denied answered awaits =>
    obtain ⟨errors, completed, refused⟩ := denied
    have failed : s'.performed command = false := by
      have unsuccessful : ¬ s'.resultOf command.pending = some makeSuccess := by
        rw [success_of_errors completed refused, fresh]
        intro told
        cases told
      rw [← success_of_any, Bool.not_eq_true] at unsuccessful
      rw [State.performed, unsuccessful, Bool.and_false]
    refine ⟨?_, ?_⟩
    · rw [executed, executes, List.filter_append, frames.later completed, handedOver,
        formerTransfers, lasts, transfers, if_neg Bool.false_ne_true, List.append_nil,
        Option.toList_some, List.filter_cons_of_neg (by rw [failed]; exact Bool.false_ne_true)]
      rw [List.filter_nil, List.append_nil]
      exact frames.frames
    · intro other member notDeclared
      rw [executed, executes] at member
      rcases List.mem_append.mp member with earlier | last
      · exact frames.stillAnswered completed earlier notDeclared
      · cases List.mem_singleton.mp last
        exact answered notDeclared
  | @confirmed declaration pending idle confirms lasts waits fresh recorded transfers completed
      awaits =>
    have same : executed ((s, l) :: past) = executed past := by
      rw [executed, idle]
      exact List.append_nil _
    refine ⟨?_, ?_⟩
    · rw [same, frames.later completed, handedOver, formerTransfers, lasts, transfers,
        if_neg Bool.false_ne_true, List.append_nil]
      exact frames.frames
    · rw [same]
      exact fun _ => frames.stillAnswered completed

theorem run_result (run : DriverRun config now past s) {l : Label} (taken : s.step l = some s') :
    ResultStep s l s' :=
  step_result (run_coherent run) (run_balanced run) taken

theorem run_framesMatch (run : DriverRun config now past s) : FramesMatch past s := by
  refine run.invariant_past FramesMatch ⟨.nil, nofun⟩ fun past s l s' before frames taken => ?_
  exact frames.step (run_result before taken)

/-- A caller of a publish or completion command is told of a success exactly if its frame has
been handed to a channel, once and in the order of the commands; over all connections nothing
else is handed over. -/
theorem frames_handed_over (config : RabbitMqBusConfig) (now : Int)
    (past : List (State × Label)) (s : State) (run : DriverRun config now past s) :
    List.Forall₂ AsksFor ((executed past).filter s.performed) (handedOver past s) ∧
      ∀ command ∈ executed past, command.body.isDeclare = false →
        (s.resultOf command.pending).isSome = true :=
  ⟨(run_framesMatch run).frames.imp fun _ _ => Hands.asksFor, (run_framesMatch run).answered⟩

end State

end

namespace State

open PlainFields

/-- Of two publish commands, the library takes the first and refuses the second. -/
def publishOnce : List Label :=
  bringUp ++
    [.parsed 1, .flush [], .heartbeat 0 [], .endTurn 0 [], .call (.publish pingRequest),
      .call (.publish pingRequest), .testStop, .swapCommands, .runCommand ⟨true, [1]⟩ [],
      .runCommand ⟨false, []⟩ []]

theorem frames_handed_over_publishOnce :
    ∃ past s, exec step publishOnce [] (new workerConfig 0) = some (past, s) ∧
      ((executed past).filter s.performed).map (·.pending) = [0] ∧
      (handedOver past s).length = 1 ∧
      List.Forall₂ AsksFor ((executed past).filter s.performed) (handedOver past s) ∧
      ∀ command ∈ executed past, command.body.isDeclare = false →
        (s.resultOf command.pending).isSome = true := by
  obtain ⟨past, s, taken, performed, handed⟩ :
      ∃ past s, exec step publishOnce [] (new workerConfig 0) = some (past, s) ∧
        ((executed past).filter s.performed).map (·.pending) = [0] ∧
        (handedOver past s).length = 1 :=
    ⟨_, _, rfl, rfl, rfl⟩
  exact ⟨past, s, taken, performed, handed,
    frames_handed_over workerConfig 0 past s (run_of_exec .nil taken)⟩

end State

section

variable [AmqpFields]

namespace State

variable {s s' : State} {config : RabbitMqBusConfig} {now : Int} {past : List (State × Label)}

/-! ## Declarations -/

/-- A number belongs to one command. -/
theorem executed_unique (run : DriverRun config now past s) {first second : Command}
    (firstMember : first ∈ executed past) (secondMember : second ∈ executed past)
    (same : first.pending = second.pending) : first = second :=
  List.inj_on_of_nodup_map (executed_distinct run) firstMember secondMember same

/-- The declarations that are confirmed are those whose callers are told of a success, and they
are recorded in the order in which the broker confirms them. -/
structure Confirms (config : RabbitMqBusConfig) (past : List (State × Label)) (s : State) :
    Prop where
  awaited : ∀ call ∈ s.awaitedCalls, ⟨.declare call.1, call.2⟩ ∈ executed past
  recorded : s.config = recordAll config ((confirmed past).map (·.1))
  told : ∀ declaration pending, (declaration, pending) ∈ confirmed past ↔
    ⟨.declare declaration, pending⟩ ∈ executed past ∧ s.resultOf pending = some makeSuccess
  once : ((confirmed past).map (·.2)).Nodup

/-- A step that confirms nothing, and after which the same declarations have succeeded. -/
theorem Confirms.goesOn {l : Label} (confirms : Confirms config past s)
    (unconfirmed : s.confirms l = none) (same : s'.config = s.config)
    (awaits : ∀ call ∈ s'.awaitedCalls,
      call ∈ s.awaitedCalls ∨ s.executes l = some ⟨.declare call.1, call.2⟩)
    (earlier : ∀ declaration pending, ⟨.declare declaration, pending⟩ ∈ executed past →
      (s'.resultOf pending = some makeSuccess ↔ s.resultOf pending = some makeSuccess))
    (last : ∀ declaration pending, s.executes l = some ⟨.declare declaration, pending⟩ →
      s'.resultOf pending ≠ some makeSuccess) :
    Confirms config ((s, l) :: past) s' := by
  have unchanged : confirmed ((s, l) :: past) = confirmed past := by
    rw [confirmed, unconfirmed]
    exact List.append_nil _
  refine ⟨?_, ?_, ?_, ?_⟩
  · intro call waits
    rw [executed]
    rcases awaits call waits with before | new
    · exact List.mem_append_left _ (confirms.awaited call before)
    · rw [new]
      exact List.mem_append_right _ List.mem_cons_self
  · rw [unchanged, same, confirms.recorded]
  · intro declaration pending
    rw [unchanged, confirms.told, executed, List.mem_append, Option.mem_toList]
    constructor
    · rintro ⟨member, success⟩
      exact ⟨Or.inl member, (earlier declaration pending member).mpr success⟩
    · rintro ⟨member | new, success⟩
      · exact ⟨member, (earlier declaration pending member).mp success⟩
      · exact absurd success (last declaration pending new)
  · rw [unchanged]
    exact confirms.once

theorem Confirms.step {l : Label} (run : DriverRun config now past s)
    (taken : s.step l = some s') (confirms : Confirms config past s) :
    Confirms config ((s, l) :: past) s' := by
  cases run_result run taken with
  | silent idle unconfirmed silent =>
    obtain ⟨errors, completed, refused⟩ := silent.completed
    apply confirms.goesOn unconfirmed silent.config
    · exact fun call waits => Or.inl (silent.awaits call waits)
    · exact fun _ pending _ => success_of_errors completed refused pending
    · intro declaration pending executes
      rw [idle] at executes
      cases executes
  | @performed command frame errors executes unconfirmed lasts hands fresh sameConfig transfers
      completed refused awaits =>
    apply confirms.goesOn unconfirmed sameConfig
    · exact fun call waits => Or.inl (awaits call waits)
    · intro declaration pending member
      have different : pending ≠ command.pending :=
        executed_before_next run taken executes member
      rw [resultOf_append completed, List.lookup_cons, beq_false_of_ne different]
      cases s.resultOf pending with
      | none =>
        rw [Option.none_or]
        exact iff_of_false (lookup_error refused pending) nofun
      | some value => rw [Option.some_or]
    · intro declaration pending same
      cases executes.symm.trans same
      cases hands.other
  | @denied command executes unconfirmed lasts fresh sameConfig transfers denied answered awaits =>
    obtain ⟨errors, completed, refused⟩ := denied
    apply confirms.goesOn unconfirmed sameConfig
    · intro call waits
      rcases awaits call waits with before | rfl
      · exact Or.inl before
      · exact Or.inr executes
    · exact fun _ pending _ => success_of_errors completed refused pending
    · intro declaration pending same
      cases executes.symm.trans same
      rw [Ne, success_of_errors completed refused, fresh]
      nofun
  | @confirmed declaration pending idle confirmsCall lasts waits fresh recorded transfers completed
      awaits =>
    have same : executed ((s, l) :: past) = executed past := by
      rw [executed, idle]
      exact List.append_nil _
    have grown : State.confirmed ((s, l) :: past) =
        State.confirmed past ++ [(declaration, pending)] := by
      rw [State.confirmed, confirmsCall]
      rfl
    have asked := confirms.awaited _ waits
    refine ⟨?_, ?_, ?_, ?_⟩
    · rw [same]
      exact fun call waits => confirms.awaited call (awaits call waits)
    · have before : List.foldl Declaration.record config ((State.confirmed past).map (·.1)) =
          s.config := confirms.recorded.symm
      rw [grown, List.map_append, recordAll, List.foldl_append, before, recorded]
      rfl
    · intro other number
      rw [grown, same, List.mem_append, confirms.told, List.mem_singleton,
        resultOf_append completed]
      by_cases here : number = pending
      · subst here
        rw [fresh, Option.none_or, List.lookup_cons_self]
        constructor
        · rintro (⟨-, told⟩ | first)
          · cases told
          · cases first
            exact ⟨asked, rfl⟩
        · rintro ⟨member, -⟩
          cases executed_unique run member asked rfl
          exact Or.inr rfl
      · have unset : [(pending, makeSuccess)].lookup number = none := by
          rw [List.lookup_cons, beq_false_of_ne here]
          rfl
        rw [unset, Option.or_none]
        constructor
        · rintro (told | first)
          · exact told
          · cases first
            exact absurd rfl here
        · exact Or.inl
    · rw [grown, List.map_append, List.nodup_append]
      refine ⟨confirms.once, List.nodup_singleton _, ?_⟩
      intro number member last here clash
      obtain ⟨call, earlier, rfl⟩ := List.mem_map.mp member
      have told := ((confirms.told call.1 call.2).mp earlier).2
      rw [clash, List.mem_singleton.mp here, fresh] at told
      cases told

theorem run_confirms (run : DriverRun config now past s) : Confirms config past s := by
  refine run.invariant_past (Confirms config)
    ⟨fun _ waits => absurd waits List.not_mem_nil, rfl, ?_, .nil⟩
    fun past s l s' before confirms taken => confirms.step before taken
  intro declaration pending
  exact iff_of_false List.not_mem_nil fun told => List.not_mem_nil told.1

/-- What the driver has recorded for the next connection. -/
structure Records (config : RabbitMqBusConfig) (past : List (State × Label)) (s : State) :
    Prop where
  /-- The confirmed declarations are those that were executed and whose callers were told of a
  success, each once. -/
  told : ∀ declaration pending, (declaration, pending) ∈ confirmed past ↔
    ⟨.declare declaration, pending⟩ ∈ executed past ∧ s.resultOf pending = some makeSuccess
  once : ((confirmed past).map (·.2)).Nodup
  exchanges : ∀ spec, spec ∈ s.config.exchanges ↔
    Latest (·.name) (config.exchanges ++ exchangesOf ((confirmed past).map (·.1))) spec
  queues : ∀ spec, spec ∈ s.config.queues ↔
    Latest (·.name) (config.queues ++ queuesOf ((confirmed past).map (·.1))) spec
  bindings : ∀ spec, spec ∈ s.config.bindings ↔
    Latest (·.identity) (config.bindings ++ bindingsOf ((confirmed past).map (·.1))) spec
  /-- Nothing else of the configuration ever changes. -/
  rest : s.config =
    { config with
      exchanges := s.config.exchanges, queues := s.config.queues, bindings := s.config.bindings }

/-- The driver replays on its next connection what it was configured with and the declarations
whose callers were told of a success, the latest for each name; a declaration that failed or was
never answered is not among them. -/
theorem declarations_recorded (configValue : ConfigValue) (config : RabbitMqBusConfig)
    (accepted : parseBusConfig configValue = some (.ok config)) (now : Int)
    (past : List (State × Label)) (s : State) (run : DriverRun config now past s) :
    Records config past s := by
  have distinct := parseBusConfig_distinct accepted
  have confirms := run_confirms run
  have recorded := confirms.recorded
  rw [recordAll_eq] at recorded
  have sameName {α : Type} (name : α → String) (a b : α) :
      (name a == name b) = true ↔ name a = name b := beq_iff_eq
  refine ⟨confirms.told, confirms.once, ?_, ?_, ?_, ?_⟩
  · intro spec
    rw [recorded]
    exact mem_recorded (sameName ExchangeSpec.name) distinct.exchanges _ spec
  · intro spec
    rw [recorded]
    exact mem_recorded (sameName QueueSpec.name) distinct.queues _ spec
  · intro spec
    rw [recorded]
    exact mem_recorded isSameBinding_iff (nodup_identity distinct.bindings) _ spec
  · rw [recorded]

end State

end

namespace State

open PlainFields

/-- Once the connection of `ordersConfig` is up, a queue is declared by a caller and the broker
confirms it. -/
def declareAudit : List Label :=
  [.start 0, .enter true, .testStop, .swapCommands, .commandsDone, .testReconnect 0,
    .connect (.connected 3 []) 0, .testStop, .swapCommands, .commandsDone, .flush [],
    .poll (.received [1]), .event (.ready ⟨true, []⟩), .event (.succeeded 0 "" ⟨true, []⟩),
    .event (.succeeded 0 "" ⟨true, []⟩), .parsed 1, .flush [], .heartbeat 0 [], .endTurn 0 [],
    .call (.declareQueue (Broker.durableQueue "audit")), .testStop, .swapCommands,
    .runCommand ⟨true, [1]⟩ [], .commandsDone, .flush [], .poll (.received [1]),
    .event (.succeeded 0 "" ⟨true, []⟩)]

theorem declarations_recorded_audit :
    ∃ past s, exec step declareAudit [] (new Broker.ordersConfig 0) = some (past, s) ∧
      s.config.queues = [Broker.durableQueue "inbox", Broker.durableQueue "audit"] ∧
      Records Broker.ordersConfig past s := by
  obtain ⟨past, s, executed, queues⟩ :
      ∃ past s, exec step declareAudit [] (new Broker.ordersConfig 0) = some (past, s) ∧
        s.config.queues = [Broker.durableQueue "inbox", Broker.durableQueue "audit"] :=
    ⟨_, _, rfl, rfl⟩
  exact ⟨past, s, executed, queues,
    declarations_recorded Broker.ordersConfigValue Broker.ordersConfig Broker.parse_orders 0 past s
      (run_of_exec .nil executed)⟩

end State

end ModuleContext.RabbitMqBus.Driver
