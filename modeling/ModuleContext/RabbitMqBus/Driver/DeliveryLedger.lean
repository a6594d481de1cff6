import Mathlib.Algebra.Order.Group.Multiset
import ModuleContext.RabbitMqBus.Driver.SelfWait

/-!
# Where deliveries are

A message that the broker has delivered is with the worker pool until its task is finished, then
its completion waits in the queue or the batch, and then it has been executed. A delivery that
is in none of these places was let go for a reason: it needs no answer, or nobody accepts one.
-/

namespace ModuleContext.RabbitMqBus.Driver
open Foundation Misc

section

variable [AmqpFields]

/-- The delivery that a task carries, with the channel it came in on. -/
def Task.carried (task : Task) : Nat × DeliveryContext := (task.origin, task.delivery)

/-- The delivery that a command answers, with the channel it came in on. -/
def Command.completes (command : Command) : Option (Nat × DeliveryContext) :=
  match command.body with
  | .completeDelivery delivery _ (some origin) => some (origin, delivery)
  | _ => none

/-- A message comes in, or a task ends. -/
def Label.movesTasks : Label → Bool
  | .finishTask _ _ => true
  | .event (.received _ _ _) => true
  | _ => false

namespace State

/-- The message is handed to the worker pool. -/
def isDispatched (message : AmqpMessage) (dispatch : Dispatch) : Bool :=
  isOk (amqpTableToConfigObject message.headers) && dispatch.pool == some true

/-- The delivery that a step lets go without an answer. -/
def released (s : State) (l : Label) : Option (Nat × DeliveryContext) :=
  match l with
  | .event (.received id message dispatch) =>
      if isDispatched message dispatch || !(s.accept (s.submission l)).isEmpty then none
      else s.received (.event (.received id message dispatch))
  | .finishTask index _ =>
      if !(s.accept (s.submission l)).isEmpty then none else s.tasks[index]?.map (·.carried)
  | _ => none

/-- All deliveries that were let go without an answer. -/
def releases : List (State × Label) → List (Nat × DeliveryContext)
  | [] => []
  | (s, l) :: past => (s.released l).toList ++ releases past

/-- The answers that `EnqueueCommand` accepts in a step. -/
def answers (s : State) (l : Label) : List (Nat × DeliveryContext) :=
  (s.accept (s.submission l)).filterMap (·.completes)

variable {s s' : State} {l : Label}

/-! ## Tasks -/

theorem Reports.tasks (reports : Reports s s') : s'.tasks = s.tasks := by
  obtain ⟨_, _, _, rfl⟩ := reports
  rfl

theorem tasks_submit (channel : Nat) (operation : AmqpOperation) (callback : Callback)
    (answer : Answer) (s : State) :
    (s.submit channel operation callback answer).tasks = s.tasks := by
  unfold submit
  dsimp only
  split
  · rfl
  · exact (reports_onError callback _ _).tasks

theorem Advanced.tasks {done : List AmqpOperation} {opened : Nat}
    (advanced : Advanced s done opened s') : s'.tasks = s.tasks := by
  induction advanced with
  | stuck => rfl
  | broken => rfl
  | finished => rfl
  | submitted place running => exact tasks_submit _ _ _ _ _
  | opened here next ih => exact ih
  | @active s s' opened name tag done next ih =>
    rw [ih, markActive]
    split <;> rfl

theorem Executed.tasks {command : Command} (executed : Executed s command s') :
    s'.tasks = s.tasks := by
  cases executed with
  | @answered sent value quiet =>
    exact (reports_completePendingResult _ _ _).tasks.trans (quiet.same State.tasks fun _ => rfl)
  | submitted body ready admin => exact tasks_submit _ _ _ _ _

theorem tasks_enqueueCommand (body : CommandBody) (s : State) :
    (s.enqueueCommand body).tasks = s.tasks := by
  unfold enqueueCommand
  split <;> rfl

theorem tasks_completeDeliveryAndWait (delivery : DeliveryContext) (action : ConsumeAction)
    (origin : Nat) (s : State) :
    (s.completeDeliveryAndWait delivery action origin).tasks = s.tasks := by
  unfold completeDeliveryAndWait
  split
  · rfl
  · split
    · exact tasks_enqueueCommand _ s
    · rfl

theorem tasks_finishTask (task : Task) (outcome : HandlerOutcome) (s : State) :
    (finishTask task outcome s).tasks = s.tasks := by
  rcases finishTask_cases task outcome s with ⟨-, same⟩ | ⟨-, queued⟩
  · rw [same]
  · rw [queued]
    exact tasks_enqueueCommand _ s

theorem tasks_handleIncomingMessage (spec : ConsumerSpec) (message : AmqpMessage) (tag : UInt64)
    (origin : Nat) (dispatch : Dispatch) (s : State) :
    (s.handleIncomingMessage spec message tag origin dispatch).tasks.map (·.carried) =
      s.tasks.map (·.carried) ++
        if isDispatched message dispatch then [(origin, deliveryContext spec tag)] else [] := by
  unfold handleIncomingMessage isDispatched
  dsimp only
  cases amqpTableToConfigObject message.headers with
  | error e =>
    rw [isOk, Bool.false_and, if_neg Bool.false_ne_true, List.append_nil]
    dsimp only
    split
    · rfl
    · rw [tasks_completeDeliveryAndWait]
  | ok headers =>
    rw [isOk, Bool.true_and]
    obtain ⟨pool, driverRef⟩ := dispatch
    have requeued : (if driverRef then s.completeDeliveryAndWait (deliveryContext spec tag)
        .requeue origin else s).tasks = s.tasks := by
      split
      · exact tasks_completeDeliveryAndWait _ _ _ s
      · rfl
    have kept := (congrArg (·.map Task.carried) requeued).trans (List.append_nil _).symm
    rcases pool with _ | _ | _
    · exact kept
    · exact kept
    · exact List.map_append

/-! ## Steps -/

/-- Every other step leaves the tasks alone. -/
theorem tasks_kept (taken : s.step l = some s') (keeps : l.movesTasks = false) :
    s'.tasks = s.tasks := by
  cases step_cases taken with
  | startRefused joinable => rfl
  | start idle fresh => rfl
  | stopRequest idle => rfl
  | stopJoin joining ended => rfl
  | stopFinish finishing => rfl
  | callAnswered checked => rfl
  | callQueued checked => exact tasks_enqueueCommand _ s
  | registerHandler => rfl
  | unregisterHandler => rfl
  | finishTask found => cases keeps
  | entered pc => rfl
  | entryFailed pc => rfl
  | stopSeen pc stop => rfl
  | goOn pc goOn => rfl
  | swapCommands pc => rfl
  | @runCommand answer sends command rest pc queued =>
    have flushed := quiet_flushOutboundData sends
      (execute command answer { s with localCommands := rest })
    have executed := execute_cases command answer { s with localCommands := rest }
    exact (flushed.same State.tasks fun _ => rfl).trans executed.tasks
  | commandsDone pc none up => rfl
  | commandsDoneDown pc none down => rfl
  | attempt pc attempt => rfl
  | noAttempt pc refused => rfl
  | connected pc => rfl
  | connectFailed pc => rfl
  | @flushBefore sends pc => exact (quiet_flushOutboundData sends s).same State.tasks fun _ => rfl
  | @poll outcome pc possible => cases outcome <;> rfl
  | event pc live alive called =>
    cases called with
    | ready fresh => exact (startBootstrap_advanced _ _).tasks
    | @succeeded index tag answer deferred found =>
      rcases onSuccess_chain deferred.callback tag answer
          (s.onConnection (.confirm index deferred)) with
        ⟨declaration, pending, callback⟩ | ⟨chain, done, opened, advanced⟩
      · rw [callback]
        exact (reports_completePendingResult _ _ _).tasks
      · exact advanced.tasks
    | failed found => exact (reports_onError _ _ _).tasks
    | channelError member isOpen => exact (reports_failChannel _ _ s).tasks
    | connectionError => exact (reports_failConnection _ s).tasks
    | closed => rfl
    | received found receives => cases keeps
    | cancelled member receives => rfl
    | data => rfl
  | parsed pc bounded leads => rfl
  | @flushAfter sends pc => exact (quiet_flushOutboundData sends s).same State.tasks fun _ => rfl
  | @heartbeat now produced pc =>
    exact (quiet_maybeSendHeartbeat now produced s).same State.tasks fun _ => rfl
  | @disconnect now stale pc pending =>
    obtain ⟨_, _, _, _, _, dropped⟩ := handleDisconnect_eq (.pendingReason stale) now s
    rw [dropped]
  | endTurn pc settled => rfl
  | @finalDisconnect now pc =>
    obtain ⟨_, _, _, _, _, dropped⟩ :=
      handleDisconnect_eq (.text "RabbitMQ driver stopped") now s
    rw [dropped]
  | waitOver pc completed => rfl

/-- What comes in with a step, and what the worker pool had, is afterwards with the pool, waits
as a command, or has been let go. -/
def LedgerStep (s : State) (l : Label) (s' : State) : Prop :=
  ((s.received l).toList ++ s.tasks.map (·.carried)).Perm
    (s'.tasks.map (·.carried) ++ s.answers l ++ (s.released l).toList)

theorem LedgerStep.calm (silent : s.received l = none) (tasks : s'.tasks = s.tasks)
    (nothing : s.answers l = []) (keeps : s.released l = none) : LedgerStep s l s' := by
  rw [LedgerStep, silent, tasks, nothing, keeps]
  simp

theorem answers_completion {delivery : DeliveryContext} {action : ConsumeAction} {origin : Nat}
    (submits : s.submission l = completion delivery action origin) :
    s.answers l = if (s.accept (s.submission l)).isEmpty then [] else [(origin, delivery)] := by
  rw [answers, submits]
  unfold accept completion
  split
  · split <;> rfl
  · rfl

theorem answers_none (submits : s.submission l = none) : s.answers l = [] := by
  rw [answers, submits, accept_none]
  rfl

theorem answers_call (call : ClientCall) : s.answers (.call call) = [] := by
  have unnumbered : ∀ body, call.command = .ok body → ∀ number,
      Command.completes ⟨body, number⟩ = none := by
    intro body checked number
    cases call with
    | completeDelivery delivery action =>
      simp only [ClientCall.command] at checked
      split at checked
      · cases checked
      · cases checked
        rfl
    | _ =>
      simp only [ClientCall.command] at checked
      split at checked
      · cases checked
      · cases checked
        rfl
  rw [answers, submission, accept]
  split
  · cases checked : call.command with
    | error result => rfl
    | ok body => exact List.filterMap_eq_nil_iff.mpr (by
        intro command member
        rw [List.mem_singleton.mp member]
        exact unnumbered body checked _)
  · rfl

/-- The answer of a finished task is accepted, or the delivery is let go. -/
theorem ledgerStep_finishTask {index : Nat} {outcome : HandlerOutcome} {task : Task}
    (found : s.tasks[index]? = some task) :
    LedgerStep s (.finishTask index outcome)
      (finishTask task outcome { s with tasks := s.tasks.eraseIdx index }) := by
  obtain ⟨bounded, here⟩ := List.getElem?_eq_some_iff.mp found
  have split : (s.tasks.map (·.carried)).Perm
      (task.carried :: (s.tasks.eraseIdx index).map (·.carried)) := by
    rw [← here]
    exact ((List.getElem_cons_eraseIdx_perm bounded).map _).symm
  have submits : s.submission (.finishTask index outcome) =
      if task.driverRef then completion task.delivery (task.action outcome) task.origin
      else none := by
    rw [submission, found]
    rfl
  have settled : s.answers (.finishTask index outcome) ++
      (s.released (.finishTask index outcome)).toList = [task.carried] := by
    cases refers : task.driverRef with
    | false =>
      rw [refers, if_neg Bool.false_ne_true] at submits
      rw [answers_none submits, released, submits, accept_none, found]
      rfl
    | true =>
      rw [refers, if_pos rfl] at submits
      rw [answers_completion submits, released, found]
      cases (s.accept (s.submission (.finishTask index outcome))).isEmpty <;> rfl
  rw [LedgerStep, tasks_finishTask, List.append_assoc, settled]
  exact split.trans (List.perm_append_singleton _ _).symm

theorem ownAnswer_dispatched {message : AmqpMessage} {dispatch : Dispatch}
    (dispatched : isDispatched message dispatch = true) : ownAnswer message dispatch = none := by
  simp only [isDispatched, Bool.and_eq_true, beq_iff_eq] at dispatched
  unfold ownAnswer
  cases converted : amqpTableToConfigObject message.headers with
  | error e =>
    rw [converted] at dispatched
    cases dispatched.1
  | ok headers =>
    rw [dispatched.2]
    cases dispatch.driverRef <;> rfl

/-- A message is handed to the pool, answered by the driver thread itself, or let go. -/
theorem ledgerStep_received {id : Nat} {message : AmqpMessage} {dispatch : Dispatch}
    {channel : Channel} {spec : ConsumerSpec}
    (arrived : s.received (.event (.received id message dispatch)) =
      some (id, deliveryContext spec channel.nextTag)) :
    LedgerStep s (.event (.received id message dispatch))
      (handleIncomingMessage spec message channel.nextTag id dispatch
        (s.onConnection (.countDelivery id))) := by
  have submits : s.submission (.event (.received id message dispatch)) =
      (ownAnswer message dispatch).bind fun action =>
        completion (deliveryContext spec channel.nextTag) action id := by
    rw [submission, arrived]
    rfl
  rw [LedgerStep, tasks_handleIncomingMessage, arrived, released, arrived]
  cases dispatched : isDispatched message dispatch with
  | true =>
    rw [ownAnswer_dispatched dispatched] at submits
    rw [answers_none submits]
    simpa [onConnection] using (List.perm_append_singleton _ _).symm
  | false =>
    have settled : s.answers (.event (.received id message dispatch)) ++
        (if (s.accept (s.submission (.event (.received id message dispatch)))).isEmpty then
          [(id, deliveryContext spec channel.nextTag)] else []) =
        [(id, deliveryContext spec channel.nextTag)] := by
      cases answer : ownAnswer message dispatch with
      | none =>
        rw [answer, Option.bind_none] at submits
        rw [answers_none submits, submits, accept_none]
        rfl
      | some action =>
        rw [answer] at submits
        rw [answers_completion submits]
        split <;> rfl
    have let' : (if (false || !(s.accept (s.submission (.event (.received id message
        dispatch)))).isEmpty) = true then none
        else some (id, deliveryContext spec channel.nextTag)).toList =
        if (s.accept (s.submission (.event (.received id message dispatch)))).isEmpty then
          [(id, deliveryContext spec channel.nextTag)] else [] := by
      cases (s.accept (s.submission (.event (.received id message dispatch)))).isEmpty <;> rfl
    rw [let', if_neg Bool.false_ne_true, List.append_nil, List.append_assoc, settled]
    exact (List.perm_append_singleton _ _).symm

theorem step_ledger (taken : s.step l = some s') : LedgerStep s l s' := by
  cases l with
  | finishTask index outcome =>
    cases step_cases taken with
    | finishTask found => exact ledgerStep_finishTask found
  | call call => exact .calm rfl (tasks_kept taken rfl) (answers_call call) rfl
  | event event =>
    cases event with
    | received id message dispatch =>
      cases step_cases taken with
      | event pc live alive called =>
        cases called with
        | received found receives =>
          apply ledgerStep_received
          simp only [State.received, live, found, receives, Option.bind_some, Option.map_some]
    | _ => exact .calm rfl (tasks_kept taken rfl) (answers_none rfl) rfl
  | _ => exact .calm rfl (tasks_kept taken rfl) (answers_none rfl) rfl

/-! ## Reasons -/

/-- Why a delivery is let go: it needs no answer, nobody refers to the driver any more, or the
driver is being stopped. -/
def MayRelease (s : State) (l : Label) (delivery : DeliveryContext) : Prop :=
  delivery.autoAck = true ∨ delivery.consumerName = "" ∨ s.accepts = false ∨
    (∃ id message dispatch, l = .event (.received id message dispatch) ∧
      dispatch.driverRef = false) ∨
    ∃ index outcome task, l = .finishTask index outcome ∧ s.tasks[index]? = some task ∧
      task.driverRef = false

theorem completion_refused {delivery : DeliveryContext} {action : ConsumeAction} {origin : Nat}
    (submits : s.submission l = completion delivery action origin)
    (refused : (s.accept (s.submission l)).isEmpty = true) : MayRelease s l delivery := by
  rw [submits, accept, completion] at refused
  split at refused
  · split at refused
    · rename_i owed
      rw [Bool.or_eq_true, String.isEmpty_iff] at owed
      rcases owed with unnamed | auto
      · exact Or.inr (Or.inl unnamed)
      · exact Or.inl auto
    · cases refused
  · rename_i closed
    exact Or.inr (Or.inr (Or.inl (Bool.eq_false_iff.mpr closed)))

theorem released_reason {origin : Nat} {delivery : DeliveryContext}
    (released : s.released l = some (origin, delivery)) : MayRelease s l delivery := by
  cases l with
  | event event =>
    cases event with
    | received id message dispatch =>
      unfold State.released at released
      dsimp only at released
      split at released
      · cases released
      · rename_i neither
        rw [Bool.or_eq_true, not_or, Bool.not_eq_true, Bool.not_eq_true', Bool.not_eq_false]
          at neither
        obtain ⟨kept, refused⟩ := neither
        have submits : s.submission (.event (.received id message dispatch)) =
            (ownAnswer message dispatch).bind fun action => completion delivery action origin := by
          rw [submission, released]
          rfl
        cases answer : ownAnswer message dispatch with
        | some action =>
          rw [answer] at submits
          exact completion_refused submits refused
        | none =>
          -- nothing is wrong with the message, and it is not handed on
          obtain ⟨converted, refers⟩ := ownAnswer_none.mp answer
          rw [isDispatched, converted, Bool.true_and] at kept
          cases driverRef : dispatch.driverRef with
          | false => exact Or.inr (Or.inr (Or.inr (Or.inl ⟨id, message, dispatch, rfl, driverRef⟩)))
          | true =>
            rw [refers driverRef] at kept
            cases kept
    | _ => cases released
  | finishTask index outcome =>
    unfold State.released at released
    dsimp only at released
    split at released
    · cases released
    · rename_i refused
      rw [Bool.not_eq_true', Bool.not_eq_false] at refused
      obtain ⟨task, found, carried⟩ := Option.map_eq_some_iff.mp released
      cases carried
      have submits : s.submission (.finishTask index outcome) =
          if task.driverRef then completion task.delivery (task.action outcome) task.origin
          else none := by
        rw [submission, found]
        rfl
      cases refers : task.driverRef with
      | false =>
        exact Or.inr (Or.inr (Or.inr (Or.inr ⟨index, outcome, task, rfl, found, refers⟩)))
      | true =>
        rw [refers, if_pos rfl] at submits
        exact completion_refused submits refused
  | _ => cases released

/-! ## Runs -/

/-- Where the deliveries of a run are. -/
structure Conserved (past : List (State × Label)) (s : State) : Prop where
  /-- Each delivery is in exactly one place, as often as it came in. -/
  balance : (deliveries past).Perm
    (s.tasks.map (·.carried) ++ s.waitingCommands.filterMap (·.completes) ++
      (executed past).filterMap (·.completes) ++ releases past)
  /-- What is let go is let go for a reason. -/
  reasons : AllSteps (fun _ s l => ∀ origin delivery, s.released l = some (origin, delivery) →
    MayRelease s l delivery) past

variable {config : RabbitMqBusConfig} {now : Int} {past : List (State × Label)}

theorem run_ledger (run : DriverRun config now past s) :
    (deliveries past).Perm
      (s.tasks.map (·.carried) ++ (accepted past).filterMap (·.completes) ++ releases past) := by
  have base : (deliveries []).Perm ((new config now).tasks.map (·.carried) ++
      (accepted []).filterMap (·.completes) ++ releases []) := .refl []
  refine run.invariant_past (fun past s => (deliveries past).Perm
    (s.tasks.map (·.carried) ++ (accepted past).filterMap (·.completes) ++ releases past))
    base fun past s l s' before holds taken => ?_
  have moved : LedgerStep s l s' := step_ledger taken
  rw [deliveries, accepted, releases, List.filterMap_append, ← answers, List.perm_iff_count]
  intro delivery
  have before := holds.count_eq delivery
  have after := moved.count_eq delivery
  simp only [List.count_append] at before after ⊢
  omega

/-- No delivery is lost or answered twice: over all interleavings of callbacks, worker tasks,
callers and reconnects, every message that came in is with the worker pool, or its one answer
waits or has been executed, or it has been let go for a reason. -/
theorem deliveries_conserved (config : RabbitMqBusConfig) (now : Int)
    (past : List (State × Label)) (s : State) (run : DriverRun config now past s) :
    Conserved past s := by
  refine ⟨?_, run.allSteps fun _ _ _ _ _ _ _ _ released => released_reason released⟩
  have balance := run_ledger run
  rw [← run_commands run, List.filterMap_append] at balance
  refine balance.trans (.append_right _ ?_)
  rw [List.append_assoc]
  exact .append_left _ List.perm_append_comm

end State

end

namespace State

open PlainFields

theorem deliveries_conserved_ping :
    ∃ past s, exec step (deliverPing ++ acknowledgePing) [] (new workerConfig 0) =
        some (past, s) ∧
      deliveries past = [(1, ⟨"worker", 1, false⟩)] ∧
      (executed past).filterMap (·.completes) = [(1, ⟨"worker", 1, false⟩)] ∧
      Conserved past s := by
  obtain ⟨past, s, taken, delivered, answered⟩ :
      ∃ past s, exec step (deliverPing ++ acknowledgePing) [] (new workerConfig 0) =
          some (past, s) ∧
        deliveries past = [(1, ⟨"worker", 1, false⟩)] ∧
        (executed past).filterMap (·.completes) = [(1, ⟨"worker", 1, false⟩)] :=
    ⟨_, _, rfl, rfl, rfl⟩
  exact ⟨past, s, taken, delivered, answered,
    deliveries_conserved workerConfig 0 past s (run_of_exec .nil taken)⟩

end State

end ModuleContext.RabbitMqBus.Driver
