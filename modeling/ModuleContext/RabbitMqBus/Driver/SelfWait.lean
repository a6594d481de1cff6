import ModuleContext.RabbitMqBus.Driver.Deliveries

/-!
# The driver thread waiting for itself

`CompleteDelivery` waits until the driver thread has executed its command. The driver thread
itself calls it for a message that it cannot hand on, and then waits for itself.
-/

namespace ModuleContext.RabbitMqBus.Driver
open Foundation Misc

section

variable [AmqpFields]

namespace State

/-- The driver thread is not in `WaitPendingResult`. -/
def Moving (s : State) : Prop := ∀ pending, s.pc ≠ .waiting pending

/-- A callback of the driver thread that queues a command. -/
def queuesOwn (s : State) (l : Label) : Prop :=
  ∃ event, l = .event event ∧ s.accept (s.submission l) ≠ []

/-- In a run, the driver thread never waits for a command, and never queues one. -/
structure NeverWaits (past : List (State × Label)) (s : State) : Prop where
  moving : AllStates Moving past s
  others : AllSteps (fun _ s l => ¬ s.queuesOwn l) past

/-- A message that has to be answered while the driver accepts commands can be handed on: its
headers are converted, and the worker pool takes the task. -/
def HandsOn (s : State) (l : Label) : Prop :=
  ∀ id message dispatch origin delivery, l = .event (.received id message dispatch) →
    s.received l = some (origin, delivery) → delivery.consumerName.isEmpty = false →
    delivery.autoAck = false → s.accepts = true →
    isOk (amqpTableToConfigObject message.headers) = true ∧
      (dispatch.driverRef = true → dispatch.pool = some true)

variable {s s' : State}

theorem ownAnswer_none {message : AmqpMessage} {dispatch : Dispatch} :
    ownAnswer message dispatch = none ↔
      isOk (amqpTableToConfigObject message.headers) = true ∧
        (dispatch.driverRef = true → dispatch.pool = some true) := by
  unfold ownAnswer
  cases amqpTableToConfigObject message.headers with
  | error e => simp
  | ok headers =>
    obtain ⟨pool, driverRef⟩ := dispatch
    cases driverRef <;> simp

theorem accept_pending {body : Option CommandBody} {command : Command}
    (accepted : command ∈ s.accept body) : command.pending = s.nextPending := by
  unfold accept at accepted
  split at accepted
  · cases body with
    | none => cases accepted
    | some body => rw [List.mem_singleton.mp accepted]
  · cases accepted

theorem accept_nonempty {body : Option CommandBody} :
    s.accept body ≠ [] ↔ s.accepts = true ∧ body.isSome = true := by
  unfold accept
  split <;> cases body <;> simp_all

/-- The driver thread queues a command exactly if it cannot hand a message on. -/
theorem queuesOwn_iff {l : Label} : ¬ s.queuesOwn l ↔ s.HandsOn l := by
  have queues {id : Nat} {message : AmqpMessage} {dispatch : Dispatch} {origin : Nat}
      {delivery : DeliveryContext}
      (arrived : s.received (.event (.received id message dispatch)) = some (origin, delivery)) :
      s.accept (s.submission (.event (.received id message dispatch))) ≠ [] ↔
        s.accepts = true ∧ ownAnswer message dispatch ≠ none ∧
          delivery.consumerName.isEmpty = false ∧ delivery.autoAck = false := by
    rw [accept_nonempty, submission, arrived, Option.bind_some]
    cases ownAnswer message dispatch with
    | none => simp
    | some action => simp [completion]
  constructor
  · rintro silent id message dispatch origin delivery rfl arrived named owed accepts
    rw [← ownAnswer_none]
    by_contra answer
    exact silent ⟨_, rfl, (queues arrived).mpr ⟨accepts, answer, named, owed⟩⟩
  · rintro handsOn ⟨event, rfl, queued⟩
    cases event with
    | received id message dispatch =>
      cases arrived : s.received (.event (.received id message dispatch)) with
      | none =>
        rw [submission, arrived] at queued
        exact queued (accept_none s)
      | some found =>
        obtain ⟨origin, delivery⟩ := found
        obtain ⟨accepts, answer, named, owed⟩ := (queues arrived).mp queued
        exact answer (ownAnswer_none.mpr
          (handsOn id message dispatch origin delivery rfl arrived named owed accepts))
    | _ => exact queued (accept_none s)

/-- Steps that deliver no message have nothing to hand on. -/
theorem handsOn_other {l : Label}
    (other : ∀ id message dispatch, l ≠ .event (.received id message dispatch)) :
    s.HandsOn l := by
  intro id message dispatch origin delivery arrives
  exact absurd arrives (other id message dispatch)

/-- A callback lets the driver thread go on, or wait for the command that it has queued. -/
theorem Called.waiting {connection : Connection} {event : AmqpEvent}
    (live : s.connection = some connection) (called : Called s connection event s') :
    (s'.pc = s.pc ∧ s.accept (s.submission (.event event)) = []) ∨
      (s'.pc = .waiting s.nextPending ∧ s.accept (s.submission (.event event)) ≠ []) := by
  have queue := called.queue live
  by_cases arrives : ∃ id message dispatch, event = .received id message dispatch
  · obtain ⟨id, message, dispatch, rfl⟩ := arrives
    cases called with
    | @received _ _ _ channel spec found receives =>
      have handled := handleIncomingMessage_cases spec message channel.nextTag id dispatch
        (s.onConnection (.countDelivery id))
      generalize handleIncomingMessage spec message channel.nextTag id dispatch
        (s.onConnection (.countDelivery id)) = next at handled queue
      cases handled with
      | ignored => exact Or.inl ⟨rfl, List.self_eq_append_right.mp queue⟩
      | @answered action running other =>
        refine Or.inr ⟨rfl, ?_⟩
        intro nothing
        rw [nothing, List.append_nil] at queue
        have grown := queue_enqueueCommand (.completeDelivery (deliveryContext spec
          channel.nextTag) action (some id)) (s.onConnection (.countDelivery id))
        rw [accept, if_pos running] at grown
        exact absurd (grown.symm.trans queue) (by simp [onConnection])
      | dispatched => exact Or.inl ⟨rfl, List.self_eq_append_right.mp queue⟩
  · have turn : SameTurn s s' := by
      refine called.sameTurn ?_
      rintro id message dispatch rfl
      exact arrives ⟨id, message, dispatch, rfl⟩
    refine Or.inl ⟨turn.pc, ?_⟩
    cases event with
    | received id message dispatch => exact absurd ⟨id, message, dispatch, rfl⟩ arrives
    | _ => exact accept_none s

/-- The driver thread begins to wait exactly by queueing a command itself. -/
theorem step_moving {l : Label} (taken : s.step l = some s') (moving : s.Moving) :
    s'.Moving ↔ ¬ s.queuesOwn l := by
  have goes {l : Label} {next : State} (other : ∀ event, l ≠ .event event)
      (there : next.Moving) : next.Moving ↔ ¬ s.queuesOwn l := by
    refine iff_of_true there ?_
    rintro ⟨event, same, -⟩
    exact other event same
  have stays {l : Label} {next : State} (other : ∀ event, l ≠ .event event)
      (pc : next.pc = s.pc) : next.Moving ↔ ¬ s.queuesOwn l :=
    goes other fun pending => pc ▸ moving pending
  cases step_cases taken with
  | startRefused joinable => exact stays nofun rfl
  | start idle fresh => exact goes nofun nofun
  | stopRequest idle => exact stays nofun rfl
  | stopJoin joining ended => exact stays nofun rfl
  | stopFinish finishing => exact stays nofun rfl
  | callAnswered checked => exact stays nofun rfl
  | @callQueued call body checked => exact stays nofun (sameTurn_enqueueCommand body s).pc
  | registerHandler => exact stays nofun rfl
  | unregisterHandler => exact stays nofun rfl
  | @finishTask index outcome task found =>
    exact stays nofun (sameTurn_finishTask task outcome _).pc
  | entered pc => exact goes nofun nofun
  | entryFailed pc => exact goes nofun nofun
  | stopSeen pc stop => exact goes nofun nofun
  | goOn pc goOn => exact goes nofun nofun
  | swapCommands pc => exact goes nofun nofun
  | @runCommand answer sends command rest pc queued =>
    have turn := sameTurn_runCommand command answer sends { s with localCommands := rest }
    exact stays nofun turn.pc
  | commandsDone pc none up => exact goes nofun nofun
  | commandsDoneDown pc none down => exact goes nofun nofun
  | attempt pc attempt => exact goes nofun nofun
  | noAttempt pc refused => exact goes nofun nofun
  | connected pc => exact goes nofun nofun
  | connectFailed pc => exact goes nofun nofun
  | flushBefore pc => exact goes nofun nofun
  | @poll outcome pc possible => cases outcome <;> exact goes nofun nofun
  | @event event connection _ pc live alive called =>
    rcases called.waiting live with ⟨there, nothing⟩ | ⟨there, queued⟩
    · refine iff_of_true (fun pending => there ▸ moving pending) ?_
      rintro ⟨_, same, queued⟩
      exact queued nothing
    · exact iff_of_false (fun moves => moves _ there) fun silent => silent ⟨event, rfl, queued⟩
  | @parsed count pc here bounded leads => rcases leads with rfl | rfl <;> exact goes nofun nofun
  | flushAfter pc => exact goes nofun nofun
  | heartbeat pc => exact goes nofun nofun
  | disconnect pc pending => exact goes nofun nofun
  | endTurn pc settled => exact goes nofun nofun
  | finalDisconnect pc => exact goes nofun nofun
  | waitOver pc completed => exact goes nofun nofun

variable {config : RabbitMqBusConfig} {now : Int} {past later : List (State × Label)}

/-- A driver thread that waits can only go on once its command has a result. -/
theorem step_waiting {l : Label} (coherent : Coherent s) (taken : s.step l = some s')
    {pending : Nat} (waits : s.pc = .waiting pending) :
    s'.pc = .waiting pending ∨ pending ∈ s.completed.map (·.1) := by
  have elsewhere {pc : DriverPc} (here : s.pc = pc) (other : pc ≠ .waiting pending) :
      s'.pc = .waiting pending ∨ pending ∈ s.completed.map (·.1) :=
    absurd (here.symm.trans waits) other
  cases step_cases taken with
  | startRefused joinable => exact Or.inl waits
  | start idle fresh =>
    rcases coherent.joinable fresh with here | here
    · exact elsewhere here nofun
    · exact elsewhere here nofun
  | stopRequest idle => exact Or.inl waits
  | stopJoin joining ended => exact Or.inl waits
  | stopFinish finishing => exact Or.inl waits
  | callAnswered checked => exact Or.inl waits
  | @callQueued call body checked => exact Or.inl ((sameTurn_enqueueCommand body s).pc.trans waits)
  | registerHandler => exact Or.inl waits
  | unregisterHandler => exact Or.inl waits
  | @finishTask index outcome task found =>
    exact Or.inl ((sameTurn_finishTask task outcome _).pc.trans waits)
  | waitOver here completed =>
    rw [waits, DriverPc.waiting.injEq] at here
    exact Or.inr (List.contains_iff_mem.mp (here ▸ completed))
  | entered pc => exact elsewhere pc nofun
  | entryFailed pc => exact elsewhere pc nofun
  | stopSeen pc stop => exact elsewhere pc nofun
  | goOn pc goOn => exact elsewhere pc nofun
  | swapCommands pc => exact elsewhere pc nofun
  | runCommand pc queued => exact elsewhere pc nofun
  | commandsDone pc none up => exact elsewhere pc nofun
  | commandsDoneDown pc none down => exact elsewhere pc nofun
  | attempt pc attempt => exact elsewhere pc nofun
  | noAttempt pc refused => exact elsewhere pc nofun
  | connected pc => exact elsewhere pc nofun
  | connectFailed pc => exact elsewhere pc nofun
  | flushBefore pc => exact elsewhere pc nofun
  | poll pc possible => exact elsewhere pc nofun
  | event pc live alive called => exact elsewhere pc nofun
  | parsed pc bounded leads => exact elsewhere pc nofun
  | flushAfter pc => exact elsewhere pc nofun
  | heartbeat pc => exact elsewhere pc nofun
  | disconnect pc pending => exact elsewhere pc nofun
  | endTurn pc settled => exact elsewhere pc nofun
  | finalDisconnect pc => exact elsewhere pc nofun

/-- A command that is queued has no result yet. -/
theorem Balanced.queued_unanswered (balanced : Balanced 0 s) {pending : Nat}
    (queued : pending ∈ s.commands.map (·.pending)) : pending ∉ s.completed.map (·.1) := by
  have isOpen : pending ∈ s.unsettled := by
    rw [unsettled, Multiset.mem_add, Multiset.mem_add]
    exact Or.inl (Or.inl (Multiset.mem_coe.mpr queued))
  obtain ⟨others, split⟩ := Multiset.exists_cons_of_mem isOpen
  rw [Balanced, zero_add, split, ← Multiset.singleton_add] at balanced
  exact balanced.notSettled

/-- The command that the driver thread waits for is still queued. -/
theorem run_waiting (run : DriverRun config now past s) {pending : Nat}
    (pc : s.pc = .waiting pending) : pending ∈ s.commands.map (·.pending) := by
  refine run.invariant_past
    (fun _ s => ∀ pending, s.pc = .waiting pending → pending ∈ s.commands.map (·.pending))
    (fun _ there => by cases there) (fun past s l s' before holds taken => ?_) pending pc
  intro pending there
  by_cases moving : s.Moving
  · have queued : s.queuesOwn l := by
      by_contra silent
      exact (step_moving taken moving).mpr silent pending there
    obtain ⟨event, rfl, nonempty⟩ := queued
    have grown := (step_queues taken nofun).commands
    cases step_cases taken with
    | event pc live alive called =>
      rcases called.waiting live with ⟨-, nothing⟩ | ⟨waits, -⟩
      · exact absurd nothing nonempty
      · rw [there, DriverPc.waiting.injEq] at waits
        obtain ⟨command, member⟩ := List.exists_mem_of_ne_nil _ nonempty
        refine List.mem_map.mpr ⟨command, ?_, ?_⟩
        · rw [grown]
          exact List.mem_append_right _ member
        · rw [waits]
          exact accept_pending member
  · obtain ⟨other, waits⟩ : ∃ other, s.pc = .waiting other := by
      simpa [Moving] using moving
    have queued := holds other waits
    rcases step_waiting (run_coherent before) taken waits with same | answered
    · rw [same, DriverPc.waiting.injEq] at there
      subst there
      have swaps : l ≠ .swapCommands := by
        rintro rfl
        cases step_cases taken with
        | swapCommands pc => exact absurd (pc.symm.trans waits) nofun
      rw [(step_queues taken swaps).commands, List.map_append]
      exact List.mem_append_left _ queued
    · exact absurd answered ((run_balanced before).queued_unanswered queued)

/-- Once the driver thread waits for itself, it waits forever. -/
theorem waiting_forever (run : DriverRun config now past s) {pending : Nat}
    (waits : s.pc = .waiting pending) (goesOn : Run step s later s') :
    s'.pc = .waiting pending := by
  have both : s'.pc = .waiting pending ∧ ∃ past, DriverRun config now past s' := by
    refine goesOn.invariant (fun s => s.pc = .waiting pending ∧ ∃ past, DriverRun config now past s)
      ⟨waits, past, run⟩ fun s l s' holds taken => ?_
    obtain ⟨waits, past, run⟩ := holds
    refine ⟨?_, _, run.snoc taken⟩
    rcases step_waiting (run_coherent run) taken waits with same | answered
    · exact same
    · exact absurd answered ((run_balanced run).queued_unanswered (run_waiting run waits))
  exact both.1

/-- The driver thread never waits for itself in a run exactly if it hands on every message that
has to be answered. -/
theorem driver_never_waits_iff (config : RabbitMqBusConfig) (now : Int)
    (past : List (State × Label)) (s : State) (run : DriverRun config now past s) :
    NeverWaits past s ↔ AllSteps (fun _ s l => s.HandsOn l) past := by
  have start : Moving (new config now) := by
    intro pending there
    cases there
  have same : AllSteps (fun _ s l => ¬ s.queuesOwn l) past ↔
      AllSteps (fun _ s l => s.HandsOn l) past :=
    run.allSteps_iff fun _ _ _ _ _ _ => queuesOwn_iff
  have moves : AllStates Moving past s ↔ AllSteps (fun _ s l => ¬ s.queuesOwn l) past := by
    refine run.allStates_iff start ?_
    intro past s l s' before moving taken
    exact step_moving taken moving
  constructor
  · intro never
    exact same.mp never.others
  · intro handsOn
    exact ⟨moves.mpr (same.mpr handsOn), same.mpr handsOn⟩

end State

end

namespace State

open PlainFields

/-- A message is handed to the worker pool, whose task completes it. -/
theorem deliverPing_never_waits :
    ∃ past s, exec step (deliverPing ++ acknowledgePing) [] (new workerConfig 0) =
        some (past, s) ∧ NeverWaits past s := by
  obtain ⟨past, s, executed, handsOn⟩ :
      ∃ past s, exec step (deliverPing ++ acknowledgePing) [] (new workerConfig 0) =
          some (past, s) ∧ AllSteps (fun _ s l => s.HandsOn l) past := by
    have handed (s : State) : s.HandsOn (.event (.received 1 pingMessage ⟨some true, true⟩)) := by
      rintro id message dispatch origin delivery same - - - -
      cases same
      exact ⟨rfl, fun _ => rfl⟩
    have quiet {s : State} {l : Label}
        (other : ∀ id message dispatch, l ≠ .event (.received id message dispatch)) :
        s.HandsOn l := handsOn_other other
    exact ⟨_, _, rfl, quiet nofun, quiet nofun, quiet nofun, quiet nofun, quiet nofun, quiet nofun,
      quiet nofun, quiet nofun, handed _, quiet nofun, quiet nofun, quiet nofun, quiet nofun,
      quiet nofun, quiet nofun, quiet nofun, quiet nofun, quiet nofun, quiet nofun, quiet nofun,
      quiet nofun, quiet nofun, quiet nofun, quiet nofun, quiet nofun, trivial⟩
  exact ⟨past, s, executed, (driver_never_waits_iff workerConfig 0 past s
    (run_of_exec .nil executed)).mpr handsOn⟩

/-- The worker pool refuses the task of a message. -/
def refusePing : List Label :=
  bringUp ++ [.event (.received 1 pingMessage ⟨some false, true⟩)]

/-- The driver thread waits for its own command to send the message back. -/
theorem driver_waits_for_itself :
    ¬ ∀ (config : RabbitMqBusConfig) (now : Int) (past : List (State × Label)) (s : State),
      DriverRun config now past s → NeverWaits past s := by
  intro never
  obtain ⟨past, s, executed, waits⟩ :
      ∃ past s, exec step refusePing [] (new workerConfig 0) = some (past, s) ∧
        s.pc = .waiting 0 :=
    ⟨_, _, rfl, rfl⟩
  exact (never workerConfig 0 past s (run_of_exec .nil executed)).moving.last 0 waits

end State

end ModuleContext.RabbitMqBus.Driver
