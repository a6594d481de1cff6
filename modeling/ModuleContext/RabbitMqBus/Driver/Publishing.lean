import ModuleContext.RabbitMqBus.Driver.Accounting

/-!
# Publishing on a connection that is about to end

`DrainCommands` flushes after every command and goes on whatever comes of it, and a failed
flush only asks for a disconnect at the end of the turn. A publish command is therefore
reported as successful on a connection that has failed exactly if the flush after an earlier
command of its batch has failed.
-/

namespace ModuleContext.RabbitMqBus.Driver
open Foundation Misc

section

variable [AmqpFields]

namespace State

/-- Sending `outbound` ends in an error other than that the socket would block. -/
def sendFails : List SendOutcome → List UInt8 → Bool
  | [], _ => false
  | outcome :: outcomes, outbound =>
      !outbound.isEmpty &&
        if outcome.sent > 0 then sendFails outcomes (outbound.drop outcome.sent.toNat)
        else !outcome.wouldBlock

def flushFails (sends : List SendOutcome) (s : State) : Bool :=
  s.connected && sendFails sends s.outbound

/-- The flush after an earlier command of the running `DrainCommands` has failed. -/
def batchFlushFailed : List (State × Label) → Bool
  | [] => false
  | (_, .swapCommands) :: _ => false
  | (s, .runCommand answer sends) :: past =>
      match s.localCommands with
      | [] => batchFlushFailed past
      | command :: rest =>
          flushFails sends (execute command answer { s with localCommands := rest }) ||
            batchFlushFailed past
  | _ :: past => batchFlushFailed past

/-- A publish command that the step executes is reported as successful only if no disconnect
is pending. -/
def PublishesOnLive (s : State) (l : Label) : Prop :=
  match l, s.localCommands with
  | .runCommand answer _, ⟨.publish request, pending⟩ :: rest =>
      (pending, makeSuccess) ∈
          (execute ⟨.publish request, pending⟩ answer { s with localCommands := rest }).completed →
        s.pendingDisconnect = false
  | _, _ => True

/-- A publish command that the driver is ready for and whose frame the channel takes does not
follow a failed flush of its batch. -/
def PublishesBeforeFailure (past : List (State × Label)) (s : State) (l : Label) : Prop :=
  match l, s.localCommands with
  | .runCommand answer _, ⟨.publish _, _⟩ :: _ =>
      s.isReadyLocked = true → answer.accepted = true → batchFlushFailed past = false
  | _, _ => True

/-! ## Disconnects that a batch requests -/

theorem pendingDisconnect_flushOutboundData (sends : List SendOutcome) (s : State) :
    (s.flushOutboundData sends).pendingDisconnect =
      (flushFails sends s || s.pendingDisconnect) := by
  induction sends generalizing s with
  | nil => simp [flushOutboundData, flushFails, sendFails]
  | cons outcome outcomes ih =>
    unfold flushOutboundData
    cases up : s.connected with
    | false => simp [flushFails, up]
    | true =>
      cases empty : s.outbound.isEmpty with
      | true => simp [flushFails, sendFails, empty]
      | false =>
        by_cases sent : outcome.sent > 0
        · simp [ih, flushFails, sendFails, up, empty, sent, onConnection]
        · cases block : outcome.wouldBlock <;>
            simp [flushFails, sendFails, up, empty, sent, block, requestDisconnect]

theorem pendingDisconnect_completePendingResult (pending : Nat) (value : Result Unit)
    (s : State) :
    (s.completePendingResult pending value).pendingDisconnect = s.pendingDisconnect := by
  unfold completePendingResult
  split <;> rfl

theorem pendingDisconnect_transfer (frame : Transfer) (answer : Answer) (s : State) :
    (s.transfer frame answer).pendingDisconnect = s.pendingDisconnect := by
  unfold transfer
  split <;> rfl

/-- A command never asks for a disconnect itself. -/
theorem pendingDisconnect_execute (command : Command) (answer : Answer) (s : State) :
    (s.execute command answer).pendingDisconnect = s.pendingDisconnect := by
  obtain ⟨body, pending⟩ := command
  cases body with
  | publish request =>
    simp only [execute, executePublish]
    split
    · split
      · rw [pendingDisconnect_completePendingResult]
      · split <;>
          rw [pendingDisconnect_completePendingResult, pendingDisconnect_transfer]
    · rw [pendingDisconnect_completePendingResult]
  | declare declaration =>
    simp only [execute, executeDeclare]
    split
    · split
      · rw [pendingDisconnect_completePendingResult]
      · split
        · rfl
        · unfold submit
          dsimp only
          split
          · rfl
          · exact pendingDisconnect_completePendingResult _ _ _
    · rw [pendingDisconnect_completePendingResult]
  | completeDelivery delivery action origin =>
    simp only [execute, executeCompleteDelivery]
    split
    · rw [pendingDisconnect_completePendingResult]
    · split <;>
        rw [pendingDisconnect_completePendingResult, pendingDisconnect_transfer]

theorem pendingDisconnect_enqueueCommand (body : CommandBody) (s : State) :
    (s.enqueueCommand body).pendingDisconnect = s.pendingDisconnect := by
  unfold enqueueCommand
  split <;> rfl

variable {s s' : State} {past : List (State × Label)}

/-- Within a batch, a disconnect is pending exactly if a flush of the batch has failed. -/
theorem batchFlushFailed_step {l : Label} (coherent : Coherent s)
    (tracked : s.pc = .commands → s.pendingDisconnect = batchFlushFailed past)
    (taken : s.step l = some s') (inBatch : s'.pc = .commands) :
    s'.pendingDisconnect = batchFlushFailed ((s, l) :: past) := by
  cases step_cases taken with
  | startRefused joinable => exact tracked inBatch
  | start idle fresh => cases inBatch
  | stopRequest idle => exact tracked inBatch
  | stopJoin joining ended => exact tracked inBatch
  | stopFinish finishing => exact tracked inBatch
  | callAnswered checked => exact tracked inBatch
  | @callQueued call body checked =>
    rw [(sameTurn_enqueueCommand body s).pc] at inBatch
    exact (pendingDisconnect_enqueueCommand body s).trans (tracked inBatch)
  | registerHandler => exact tracked inBatch
  | unregisterHandler => exact tracked inBatch
  | @finishTask index outcome task found =>
    rw [(sameTurn_finishTask task outcome _).pc] at inBatch
    rcases finishTask_cases task outcome { s with tasks := s.tasks.eraseIdx index } with
      ⟨-, same⟩ | ⟨-, queued⟩
    · rw [same]
      exact tracked inBatch
    · rw [queued, pendingDisconnect_enqueueCommand]
      exact tracked inBatch
  | entered pc => cases inBatch
  | entryFailed pc => cases inBatch
  | stopSeen pc stop => cases inBatch
  | goOn pc goOn => cases inBatch
  | swapCommands pc =>
    have place := coherent.place
    rw [pc] at place
    exact place.1
  | @runCommand answer sends command rest pc queued =>
    rw [pendingDisconnect_flushOutboundData, pendingDisconnect_execute]
    simp only [batchFlushFailed, queued, tracked pc]
  | commandsDone pc none up => cases inBatch
  | commandsDoneDown pc none down => cases inBatch
  | attempt pc attempt => cases inBatch
  | noAttempt pc refused => cases inBatch
  | connected pc => cases inBatch
  | connectFailed pc => cases inBatch
  | flushBefore pc => cases inBatch
  | @poll outcome pc possible => cases outcome <;> cases inBatch
  | event pc live alive called =>
    obtain ⟨next, stays, turn⟩ := called.waits
    rw [turn.pc] at inBatch
    rcases stays with rfl | ⟨pending, rfl⟩
    · rw [pc] at inBatch
      cases inBatch
    · cases inBatch
  | parsed pc bounded leads => rcases leads with rfl | rfl <;> cases inBatch
  | flushAfter pc => cases inBatch
  | heartbeat pc => cases inBatch
  | disconnect pc pending => cases inBatch
  | endTurn pc settled => cases inBatch
  | finalDisconnect pc => cases inBatch
  | waitOver pc completed => cases inBatch

theorem run_batchFlushFailed {config : RabbitMqBusConfig} {now : Int}
    (run : DriverRun config now past s) :
    s.pc = .commands → s.pendingDisconnect = batchFlushFailed past :=
  run.invariant_past (fun past s => s.pc = .commands → s.pendingDisconnect = batchFlushFailed past)
    (fun inBatch => by cases inBatch)
    (fun _ _ _ _ before tracked taken =>
      batchFlushFailed_step (run_coherent before) tracked taken)

/-! ## Results of publish commands -/

/-- The result of a pending call that has none yet. -/
theorem mem_completePendingResult {pending : Nat} {value : Result Unit}
    (fresh : pending ∉ s.completed.map (·.1)) (result : Result Unit) :
    (pending, result) ∈ (s.completePendingResult pending value).completed ↔ result = value := by
  unfold completePendingResult
  rw [if_neg (by simpa using fresh), List.mem_append, List.mem_singleton]
  constructor
  · rintro (old | new)
    · exact absurd (List.mem_map_of_mem old) fresh
    · exact congrArg Prod.snd new
  · rintro rfl
    exact Or.inr rfl

/-- A publish command succeeds exactly if the driver is ready and the channel takes it. -/
theorem publish_succeeds_iff {request : PublishRequest} {pending : Nat} {answer : Answer}
    (fresh : pending ∉ s.completed.map (·.1)) :
    (pending, makeSuccess) ∈ (s.execute ⟨.publish request, pending⟩ answer).completed ↔
      s.isReadyLocked = true ∧ answer.accepted = true := by
  have sentFresh (frame : Transfer) :
      pending ∉ (s.transfer frame answer).completed.map (·.1) := by
    rw [(quiet_transfer frame answer s).same State.completed fun _ => rfl]
    exact fresh
  simp only [execute, executePublish, configObjectToAmqpTable_eq]
  by_cases ready : s.isReadyLocked = true
  · rw [if_pos ready]
    by_cases accepted : answer.accepted = true
    · rw [if_pos accepted, mem_completePendingResult (sentFresh _)]
      exact iff_of_true rfl ⟨ready, accepted⟩
    · rw [if_neg accepted, mem_completePendingResult (sentFresh _)]
      exact iff_of_false (by simp [makeSuccess]) fun both => accepted both.2
  · rw [if_neg ready, mem_completePendingResult fresh]
    exact iff_of_false (by simp [makeSuccess, makeDisconnected]) fun both => ready both.1

theorem publishesOnLive_step {l : Label} (balanced : Balanced 0 s)
    (tracked : s.pc = .commands → s.pendingDisconnect = batchFlushFailed past)
    (taken : s.step l = some s') :
    s.PublishesOnLive l ↔ PublishesBeforeFailure past s l := by
  unfold PublishesOnLive PublishesBeforeFailure
  cases step_cases taken with
  | @runCommand answer sends command rest pc queued =>
    obtain ⟨body, pending⟩ := command
    cases body with
    | publish request =>
      have popped : Takes {pending} s { s with localCommands := rest } :=
        takes_localCommands queued
      have fresh : pending ∉ s.completed.map (·.1) := by
        have inHand := balanced.takes popped
        rw [Balanced, add_zero] at inHand
        exact inHand.notSettled
      simp only [queued]
      rw [publish_succeeds_iff (s := { s with localCommands := rest }) fresh, tracked pc, and_imp]
      rfl
    | declare declaration => simp only [queued]
    | completeDelivery delivery action origin => simp only [queued]
  | _ => exact Iff.rfl

/-- In a whole run every publish command that is reported as successful found no disconnect
pending, exactly if no publish command that could succeed came after a failed flush of its own
batch. -/
theorem publishes_on_live_iff (config : RabbitMqBusConfig) (now : Int)
    (past : List (State × Label)) (s : State) (run : DriverRun config now past s) :
    AllSteps (fun _ s l => s.PublishesOnLive l) past ↔ AllSteps PublishesBeforeFailure past :=
  run.allSteps_iff fun _ _ _ _ before taken =>
    publishesOnLive_step (run_balanced before) (run_batchFlushFailed before) taken

end State

end

namespace State

open PlainFields

/-- Two publish commands in one batch, on a connection that is up. -/
def publishTwice (first : SendOutcome) : List Label :=
  bringUp ++
    [.parsed 1, .flush [], .heartbeat 0 [], .endTurn 0 [], .call (.publish pingRequest),
      .call (.publish pingRequest), .testStop, .swapCommands, .runCommand ⟨true, [1]⟩ [first],
      .runCommand ⟨true, [2]⟩ []]

theorem publishTwice_on_live :
    ∃ past s, exec step (publishTwice ⟨1, false, ""⟩) [] (new workerConfig 0) = some (past, s) ∧
      s.completed = [(0, makeSuccess), (1, makeSuccess)] ∧
      AllSteps (fun _ s l => s.PublishesOnLive l) past := by
  obtain ⟨past, s, executed, completed, before⟩ :
      ∃ past s, exec step (publishTwice ⟨1, false, ""⟩) [] (new workerConfig 0) = some (past, s) ∧
        s.completed = [(0, makeSuccess), (1, makeSuccess)] ∧
        AllSteps PublishesBeforeFailure past :=
    ⟨_, _, rfl, rfl, fun _ _ => rfl, fun _ _ => rfl, trivial, trivial, trivial, trivial, trivial,
      trivial, trivial, trivial, trivial, trivial, trivial, trivial, trivial, trivial, trivial,
      trivial, trivial, trivial, trivial, trivial, trivial, trivial, trivial, trivial⟩
  exact ⟨past, s, executed, completed,
    (publishes_on_live_iff workerConfig 0 past s (run_of_exec .nil executed)).mpr before⟩

/-- When the flush after the first command fails, the second is still reported as successful. -/
theorem publish_after_failed_flush :
    ¬ ∀ (config : RabbitMqBusConfig) (now : Int) (past : List (State × Label)) (s : State),
      DriverRun config now past s → AllSteps (fun _ s l => s.PublishesOnLive l) past := by
  intro live
  obtain ⟨s, l, past, after, executed, demands, pending⟩ :
      ∃ s l past after,
        exec step (publishTwice ⟨-1, false, "Connection reset by peer"⟩) []
            (new workerConfig 0) = some ((s, l) :: past, after) ∧
          (s.PublishesOnLive l → s.pendingDisconnect = false) ∧ s.pendingDisconnect = true :=
    ⟨_, _, _, _, rfl, fun publishes => publishes (List.mem_cons_of_mem _ List.mem_cons_self), rfl⟩
  have onLive := live workerConfig 0 _ _ (run_of_exec .nil executed)
  cases pending.symm.trans (demands onLive.1)

end State

end ModuleContext.RabbitMqBus.Driver
