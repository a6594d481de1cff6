import ModuleContext.RabbitMqBus.Driver.Escalation

/-!
# One attempt without reconnect

Without reconnect the driver connects once after a start. What decides it is the public state,
which the start sets to `connecting` and which every failure takes away from there.
-/

namespace ModuleContext.RabbitMqBus.Driver
open Foundation Misc

section

variable [AmqpFields]

/-- A call of `ConnectSocket`. -/
def Label.isAttempt : Label → Bool
  | .connect _ _ => true
  | _ => false

namespace State

/-- A failed attempt, or a disconnect that is handled. -/
def ends (s : State) : Label → Bool
  | .connect (.failed _) _ => true
  | .endTurn _ _ => s.pendingDisconnect
  | .finalDisconnect _ => true
  | _ => false

/-- The number of attempts since the last start. -/
def attempts : List (State × Label) → Nat
  | [] => 0
  | (s, l) :: past =>
      if s.starts l then 0 else attempts past + if l.isAttempt then 1 else 0

/-- Since the last start, an attempt has failed or a disconnect has been handled. -/
def hasEnded : List (State × Label) → Bool
  | [] => false
  | (s, l) :: past => !s.starts l && (s.ends l || hasEnded past)

variable {s s' : State}

/-! ## Steps -/

/-- What a step does to the one attempt. -/
inductive AttemptStep (s : State) (l : Label) (s' : State) : Prop where
  | started : s.starts l = true → s'.pc ≠ .connect → s'.control = .idle → AttemptStep s l s'
  | connected : s.pc = .connect → s.starts l = false → l.isAttempt = true → s.ends l = false →
      s'.connected = true → s'.stopRequested = s.stopRequested → s'.control = s.control →
      AttemptStep s l s'
  | failed : s.pc = .connect → s.starts l = false → l.isAttempt = true → s.ends l = true →
      s'.connected = false → s'.pc ≠ .connect → s'.stopRequested = s.stopRequested →
      s'.control = s.control →
      s'.state = (if s.config.connection.reconnect.enabled then .reconnecting else .error) →
      AttemptStep s l s'
  | disconnected : s.starts l = false → l.isAttempt = false → s.ends l = true →
      s'.connected = false → s'.pc ≠ .connect → s'.stopRequested = s.stopRequested →
      s'.control = s.control →
      s'.state = (if s.stopRequested then .stopped
        else if s.config.connection.reconnect.enabled then .reconnecting else .error) →
      AttemptStep s l s'
  | stopping : s.starts l = false → l.isAttempt = false → s.ends l = false →
      s'.connected = s.connected → s'.state = s.state → s'.stopRequested = true →
      AttemptStep s l s'
  | kept : s.starts l = false → l.isAttempt = false → s.ends l = false →
      s'.connected = s.connected → s'.stopRequested = s.stopRequested →
      (s'.control ≠ .idle → s.control ≠ .idle) →
      (s.connected = false → s'.state = s.state ∨ s'.state = .error ∨
        s'.state = .stopped ∧ s.control ≠ .idle) → AttemptStep s l s'

theorem handleDisconnect_shown (reason : ReasonRef) (now : Int) (s : State) :
    (s.handleDisconnect reason now).connected = false ∧
      (s.handleDisconnect reason now).stopRequested = s.stopRequested ∧
      (s.handleDisconnect reason now).control = s.control ∧
      (s.handleDisconnect reason now).state =
        (if s.stopRequested then .stopped
          else if s.config.connection.reconnect.enabled then .reconnecting else .error) := by
  obtain ⟨_, _, _, failed⟩ := reports_failConnection reason s
  unfold handleDisconnect
  rw [failed]
  dsimp only
  split
  · rename_i stop
    exact ⟨rfl, rfl, rfl, (if_pos (show s.stopRequested = true from stop)).symm⟩
  · rename_i goesOn
    exact ⟨rfl, rfl, rfl, (if_neg (show ¬ s.stopRequested = true from goesOn)).symm⟩

theorem step_attempt {l : Label} (coherent : Coherent s) (taken : s.step l = some s') :
    AttemptStep s l s' := by
  have place := coherent.place
  have same {l : Label} {next : State} (restart : s.starts l = false)
      (other : l.isAttempt = false) (goesOn : s.ends l = false)
      (connected : next.connected = s.connected)
      (stop : next.stopRequested = s.stopRequested) (control : next.control = s.control)
      (state : next.state = s.state) : AttemptStep s l next :=
    .kept restart other goesOn connected stop (fun busy => control ▸ busy) fun _ => Or.inl state
  cases step_cases taken with
  | startRefused joinable => exact same (by simp [starts, joinable]) rfl rfl rfl rfl rfl rfl
  | start idle fresh => exact .started (by simp [starts, fresh]) (by simp) idle
  | stopRequest idle => exact .stopping rfl rfl rfl rfl rfl rfl
  | stopJoin joining ended =>
    exact .kept rfl rfl rfl rfl rfl (fun _ => by simp [joining]) fun _ => Or.inl rfl
  | stopFinish finishing =>
    exact .kept rfl rfl rfl rfl rfl (fun busy => absurd rfl busy)
      fun _ => Or.inr (Or.inr ⟨rfl, by simp [finishing]⟩)
  | callAnswered checked => exact same rfl rfl rfl rfl rfl rfl rfl
  | @callQueued call body checked =>
    have turn := sameTurn_enqueueCommand body s
    have flags := sameFlags_enqueueCommand body s
    exact same rfl rfl rfl turn.connected turn.stop flags.control flags.state
  | registerHandler => exact same rfl rfl rfl rfl rfl rfl rfl
  | unregisterHandler => exact same rfl rfl rfl rfl rfl rfl rfl
  | @finishTask index outcome task found =>
    have turn := sameTurn_finishTask task outcome { s with tasks := s.tasks.eraseIdx index }
    have flags := sameFlags_finishTask task outcome { s with tasks := s.tasks.eraseIdx index }
    exact same rfl rfl rfl turn.connected turn.stop flags.control flags.state
  | entered pc => exact same rfl rfl rfl rfl rfl rfl rfl
  | entryFailed pc => exact .kept rfl rfl rfl rfl rfl id fun _ => Or.inr (Or.inl rfl)
  | stopSeen pc stop => exact same rfl rfl rfl rfl rfl rfl rfl
  | goOn pc goOn => exact same rfl rfl rfl rfl rfl rfl rfl
  | swapCommands pc => exact same rfl rfl rfl rfl rfl rfl rfl
  | @runCommand answer sends command rest pc queued =>
    have turn := sameTurn_runCommand command answer sends { s with localCommands := rest }
    have flags := sameFlags_runCommand command answer sends { s with localCommands := rest }
    exact same rfl rfl rfl turn.connected turn.stop flags.control flags.state
  | commandsDone pc none up => exact same rfl rfl rfl rfl rfl rfl rfl
  | commandsDoneDown pc none down => exact same rfl rfl rfl rfl rfl rfl rfl
  | attempt pc attempt => exact same rfl rfl rfl rfl rfl rfl rfl
  | noAttempt pc refused => exact same rfl rfl rfl rfl rfl rfl rfl
  | connected pc => exact .connected pc rfl rfl rfl rfl rfl rfl
  | connectFailed pc =>
    rw [pc] at place
    exact .failed pc rfl rfl rfl place.1 (by simp) rfl rfl rfl
  | @flushBefore sends pc =>
    have flushed := quiet_flushOutboundData sends s
    exact same rfl rfl rfl flushed.sameTurn.connected flushed.sameTurn.stop
      flushed.sameFlags.control flushed.sameFlags.state
  | @poll outcome pc possible =>
    cases outcome <;> exact same (l := .poll _) rfl rfl rfl rfl rfl rfl rfl
  | event pc live alive called =>
    rw [pc] at place
    obtain ⟨next, -, turn⟩ := called.waits
    have control := called.untouched.same State.control fun _ => rfl
    refine .kept rfl rfl rfl turn.connected turn.stop (fun busy => control ▸ busy) ?_
    intro down
    rw [place.1] at down
    cases down
  | parsed pc bounded leads => exact same rfl rfl rfl rfl rfl rfl rfl
  | @flushAfter sends pc =>
    have flushed := quiet_flushOutboundData sends s
    exact same rfl rfl rfl flushed.sameTurn.connected flushed.sameTurn.stop
      flushed.sameFlags.control flushed.sameFlags.state
  | @heartbeat now produced pc =>
    have beat := quiet_maybeSendHeartbeat now produced s
    exact same rfl rfl rfl beat.sameTurn.connected beat.sameTurn.stop
      beat.sameFlags.control beat.sameFlags.state
  | @disconnect now stale pc pending =>
    obtain ⟨down, stop, control, state⟩ := handleDisconnect_shown (.pendingReason stale) now s
    exact .disconnected rfl rfl pending down (by simp) stop control state
  | @endTurn now stale pc settled =>
    exact same (l := .endTurn now stale) rfl rfl settled rfl rfl rfl rfl
  | @finalDisconnect now pc =>
    obtain ⟨down, stop, control, state⟩ :=
      handleDisconnect_shown (.text "RabbitMQ driver stopped") now s
    exact .disconnected rfl rfl rfl down (by simp) stop control state
  | waitOver pc completed => exact same rfl rfl rfl rfl rfl rfl rfl

/-! ## Runs -/

variable {config : RabbitMqBusConfig} {now : Int} {past : List (State × Label)}

/-- While `Stop` is under way, a stop is requested. -/
theorem run_stopping (run : DriverRun config now past s) :
    s.control ≠ .idle → s.stopRequested = true := by
  refine run.invariant_past (fun _ s => s.control ≠ .idle → s.stopRequested = true)
    (fun busy => absurd rfl busy) fun past s l s' before holds taken busy => ?_
  cases step_attempt (run_coherent before) taken with
  | started restart pc control => exact absurd control busy
  | connected pc restart attempt goesOn up stop control =>
    exact stop.trans (holds (control ▸ busy))
  | failed pc restart attempt ended down elsewhere stop control state =>
    exact stop.trans (holds (control ▸ busy))
  | disconnected restart other ended down elsewhere stop control state =>
    exact stop.trans (holds (control ▸ busy))
  | stopping restart other goesOn connected state stop => exact stop
  | kept restart other goesOn connected stop control state =>
    exact stop.trans (holds (control busy))

/-- The one attempt has been made, or can no longer be made. -/
def Spent (past : List (State × Label)) : Prop := attempts past ≠ 0 ∨ hasEnded past = true

/-- Without reconnect, a driver whose attempt is spent is connected or at rest. -/
structure Rests (past : List (State × Label)) (s : State) : Prop where
  once : attempts past ≤ 1
  spent : Spent past → s.connected = true ∨ s.state ≠ .connecting ∧ s.pc ≠ .connect
  ended : hasEnded past = true →
    s.connected = false ∧ (s.stopRequested = false → s.state = .error)

theorem attempts_step {l : Label} (restart : s.starts l = false) (past : List (State × Label)) :
    attempts ((s, l) :: past) = attempts past + if l.isAttempt then 1 else 0 := by
  rw [attempts, restart]
  rfl

theorem hasEnded_step {l : Label} (restart : s.starts l = false) (past : List (State × Label)) :
    hasEnded ((s, l) :: past) = (s.ends l || hasEnded past) := by
  rw [hasEnded, restart]
  rfl

/-- At an attempt, none has been made before. -/
theorem Rests.unspent (rests : Rests past s) (coherent : Coherent s) (pc : s.pc = .connect) :
    attempts past = 0 ∧ hasEnded past = false := by
  have place := coherent.place
  rw [pc] at place
  have unspent : ¬ Spent past := by
    intro spent
    rcases rests.spent spent with up | ⟨-, elsewhere⟩
    · rw [place.1] at up
      cases up
    · exact elsewhere pc
  rw [Spent, not_or] at unspent
  exact ⟨not_not.mp unspent.1, by simpa using unspent.2⟩

/-- A spent attempt keeps the thread from another one, as long as the state allows none. -/
theorem Rests.elsewhere (rests : Rests past s) (coherent : Coherent s)
    (disabled : s.config.connection.reconnect.enabled = false) {l : Label}
    (taken : s.step l = some s') (spent : Spent past) (connected : s'.connected = s.connected) :
    s'.connected = true ∨ s.state ≠ .connecting ∧ s'.pc ≠ .connect := by
  rcases rests.spent spent with up | ⟨state, pc⟩
  · exact Or.inl (connected.trans up)
  · refine Or.inr ⟨state, fun there => ?_⟩
    obtain ⟨now, attempts⟩ := (step_moves coherent taken).attempts there pc
    rw [shouldAttemptReconnect, disabled] at attempts
    simp only [Bool.false_eq_true, if_false, Bool.and_eq_true, beq_iff_eq] at attempts
    exact state attempts.2

/-- Without reconnect, the driver rests in every state of every run. -/
theorem run_rests_once (disabled : config.connection.reconnect.enabled = false)
    (run : DriverRun config now past s) : Rests past s := by
  refine run.invariant_past Rests ⟨by simp [attempts], by simp [Spent, attempts, hasEnded],
    by simp [hasEnded]⟩ fun past s l s' before rests taken => ?_
  have coherent := run_coherent before
  have disabled : s.config.connection.reconnect.enabled = false := by
    rw [run_connectionConfig before, disabled]
  cases step_attempt coherent taken with
  | started restart pc control =>
    have none : attempts ((s, l) :: past) = 0 := by rw [attempts, if_pos restart]
    have fresh : hasEnded ((s, l) :: past) = false := by rw [hasEnded, restart]; rfl
    exact ⟨by omega, by simp [Spent, none, fresh], by simp [fresh]⟩
  | connected pc restart attempt goesOn up stop control =>
    obtain ⟨none, fresh⟩ := rests.unspent coherent pc
    exact {
      once := by rw [attempts_step restart, none, attempt]; simp
      spent := fun _ => Or.inl up
      ended := by rw [hasEnded_step restart, goesOn, fresh]; simp }
  | failed pc restart attempt ended down elsewhere stop control state =>
    obtain ⟨none, fresh⟩ := rests.unspent coherent pc
    rw [disabled] at state
    exact {
      once := by rw [attempts_step restart, none, attempt]; simp
      spent := fun _ => Or.inr ⟨by simp [state], elsewhere⟩
      ended := fun _ => ⟨down, fun _ => state⟩ }
  | disconnected restart other ended down elsewhere stop control state =>
    rw [disabled] at state
    exact {
      once := by rw [attempts_step restart, other]; exact rests.once
      spent := fun _ => Or.inr ⟨by rw [state]; split <;> simp, elsewhere⟩
      ended := fun _ => ⟨down, fun goesOn => by rw [state, ← stop, goesOn]; rfl⟩ }
  | stopping restart other goesOn connected state stop =>
    have same : hasEnded ((s, l) :: past) = hasEnded past := by
      rw [hasEnded_step restart, goesOn, Bool.false_or]
    have count : attempts ((s, l) :: past) = attempts past := by
      rw [attempts_step restart, other]
      rfl
    refine ⟨count ▸ rests.once, fun spent => ?_, fun ended => ?_⟩
    · rw [Spent, count, same] at spent
      rw [state]
      exact rests.elsewhere coherent disabled taken spent connected
    · rw [same] at ended
      exact ⟨connected.trans (rests.ended ended).1, fun running => absurd stop (by simp [running])⟩
  | kept restart other goesOn connected stop control state =>
    have same : hasEnded ((s, l) :: past) = hasEnded past := by
      rw [hasEnded_step restart, goesOn, Bool.false_or]
    have count : attempts ((s, l) :: past) = attempts past := by
      rw [attempts_step restart, other]
      rfl
    refine ⟨count ▸ rests.once, fun spent => ?_, fun ended => ?_⟩
    · rw [Spent, count, same] at spent
      rcases rests.elsewhere coherent disabled taken spent connected with up | ⟨shown, pc⟩
      · exact Or.inl up
      · by_cases up : s.connected = true
        · exact Or.inl (connected.trans up)
        · refine Or.inr ⟨?_, pc⟩
          rcases state (by simpa using up) with kept | error | ⟨stopped, -⟩
          · exact kept ▸ shown
          · simp [error]
          · simp [stopped]
    · rw [same] at ended
      obtain ⟨down, error⟩ := rests.ended ended
      refine ⟨connected.trans down, fun running => ?_⟩
      rw [stop] at running
      rcases state down with kept | kept | ⟨-, busy⟩
      · exact kept.trans (error running)
      · exact kept
      · rw [run_stopping before busy] at running
        cases running

/-- Since the last start there was at most one attempt; once it has failed, or a disconnect has
been handled, the state is an error until a stop is requested, and no attempt follows. -/
structure AttemptsOnce (past : List (State × Label)) (s : State) : Prop where
  once : attempts past ≤ 1
  error : hasEnded past = true → s.stopRequested = false → s.state = .error
  last : AllSteps (fun past _ l => hasEnded past = true → l.isAttempt = false) past

theorem single_attempt (config : RabbitMqBusConfig) (now : Int)
    (disabled : config.connection.reconnect.enabled = false) (past : List (State × Label))
    (s : State) (run : DriverRun config now past s) : AttemptsOnce past s := by
  have rests := run_rests_once disabled run
  refine ⟨rests.once, fun ended => (rests.ended ended).2, run.allSteps ?_⟩
  intro past s l s' before taken ended
  have rests := run_rests_once disabled before
  cases attempt : l.isAttempt with
  | false => rfl
  | true =>
    cases l with
    | connect outcome now =>
      cases step_cases taken with
      | connected pc => rw [(rests.unspent (run_coherent before) pc).2] at ended; cases ended
      | connectFailed pc => rw [(rests.unspent (run_coherent before) pc).2] at ended; cases ended
    | _ => cases attempt

end State

end

namespace State

open PlainFields

/-- `workerConfig` without reconnect. -/
def onceConfig : RabbitMqBusConfig :=
  { workerConfig with connection := ⟨"amqp://localhost/", 0, 100, ⟨false, 1000, 30000⟩⟩ }

/-- The attempt fails, and the thread goes on looking for one. -/
def refusedOnce : List Label :=
  [.start 0, .enter true] ++ failedAttempt 0 ++
    [.testStop, .swapCommands, .commandsDone, .testReconnect 60000]

theorem single_attempt_refusedOnce :
    ∃ past s, exec step refusedOnce [] (new onceConfig 0) = some (past, s) ∧
      attempts past = 1 ∧ s.pc = .loopTest ∧ AttemptsOnce past s := by
  obtain ⟨past, s, executed, count, pc⟩ :
      ∃ past s, exec step refusedOnce [] (new onceConfig 0) = some (past, s) ∧
        attempts past = 1 ∧ s.pc = .loopTest :=
    ⟨_, _, rfl, rfl, rfl⟩
  exact ⟨past, s, executed, count, pc,
    single_attempt onceConfig 0 rfl past s (run_of_exec .nil executed)⟩

end State

end ModuleContext.RabbitMqBus.Driver
