import ModuleContext.Misc.Spacing
import ModuleContext.RabbitMqBus.Driver.Progress

/-!
# Attempts in time

The driver thread polls the clock for its next attempt to connect. As the steady clock never goes
back, what is scheduled after an attempt keeps the next one away from it: the delay of an attempt
is a distance between attempts. And once it is over, the attempt is made within one turn.
-/

namespace ModuleContext.RabbitMqBus.Driver
open Foundation Misc

section

variable [AmqpFields]

/-- A step of the driver thread that is neither a callback nor a command. -/
def Label.isLoopStep : Label → Bool
  | .runCommand _ _ => false
  | l => l.isTurnStep

namespace State

/-- The time of an attempt that the thread decides for. -/
def attemptsAt (s : State) : Label → Option Int
  | .testReconnect now => if s.shouldAttemptReconnect now then some now else none
  | _ => none

/-- The times of the attempts since the driver was started, newest first. -/
def attemptTimes : List (State × Label) → List Int
  | [] => []
  | (s, l) :: past =>
      if s.starts l then [] else (s.attemptsAt l).toList ++ attemptTimes past

/-- The reading of the steady clock that a step makes for the schedule of attempts. -/
def readsClock (s : State) : Label → Option Int
  | .start now => if s.threadJoinable then none else some now
  | .testReconnect now => if s.config.connection.reconnect.enabled then some now else none
  | l => s.schedules l

/-- The readings in a run, newest first. -/
def readings : List (State × Label) → List Int
  | [] => []
  | (s, l) :: past => (s.readsClock l).toList ++ readings past

/-- The steady clock never goes back. -/
def SteadyClock (past : List (State × Label)) : Prop := Spaced 0 (readings past)

/-- The thread can come to an attempt without losing a connection first. -/
def Awaiting (s : State) : Prop :=
  s.connected = false ∧ s.pc ≠ .connect ∧
    (s.stopRequested = true → s.pc = .drain ∨ s.pc = .commands ∨ s.pc = .connectTest)

/-- What a step does to the schedule of attempts. -/
inductive ScheduleStep (s : State) (l : Label) (s' : State) : Prop where
  | starts : s.starts l = true → ScheduleStep s l s'
  | attempts {time : Int} : s.starts l = false → s.attemptsAt l = some time →
      s.schedules l = none → s.Awaiting → s.shouldAttemptReconnect time = true →
      s'.pc = .connect → ScheduleStep s l s'
  | schedules {time : Int} : s.starts l = false → s.attemptsAt l = none →
      s.schedules l = some time → s.readsClock l = some time → ScheduleStep s l s'
  | kept : s.starts l = false → s.attemptsAt l = none → s.schedules l = none →
      (s'.Awaiting → s.Awaiting ∧ s'.nextReconnectAt = s.nextReconnectAt) → ScheduleStep s l s'

variable {s s' : State}

theorem readsClock_schedules {l : Label} {time : Int} (schedules : s.schedules l = some time) :
    s.readsClock l = some time := by
  cases l with
  | start now => cases schedules
  | testReconnect now => cases schedules
  | _ => exact schedules

theorem Untouched.nextReconnectAt (untouched : Untouched s s') :
    s'.nextReconnectAt = s.nextReconnectAt :=
  untouched.same State.nextReconnectAt fun _ => rfl

theorem SameTurn.awaiting (turn : SameTurn s s') (awaiting : s'.Awaiting) : s.Awaiting := by
  obtain ⟨down, elsewhere, place⟩ := awaiting
  rw [turn.connected] at down
  rw [turn.pc] at elsewhere place
  rw [turn.stop] at place
  exact ⟨down, elsewhere, place⟩

/-- A loss of the connection schedules the next attempt, unless the thread is about to stop. -/
theorem scheduleStep_handleDisconnect {l : Label} (reason : ReasonRef) (time : Int) (pc : DriverPc)
    (s : State) (leads : pc = .loopTest ∨ pc = .returned) (starts : s.starts l = false)
    (attempts : s.attemptsAt l = none)
    (schedules : s.schedules l = if s.stopRequested then none else some time) :
    ScheduleStep s l { s.handleDisconnect reason time with pc } := by
  obtain ⟨_, _, _, failed⟩ := reports_failConnection reason s
  unfold handleDisconnect
  rw [failed]
  dsimp only
  split
  · rename_i stop
    rw [if_pos (show s.stopRequested = true from stop)] at schedules
    refine .kept starts attempts schedules ?_
    rintro ⟨-, -, place⟩
    rcases place stop with rfl | rfl | rfl <;> rcases leads with there | there <;> cases there
  · rename_i goesOn
    rw [if_neg (show ¬ s.stopRequested = true from goesOn)] at schedules
    exact .schedules starts attempts schedules (readsClock_schedules schedules)

variable {config : RabbitMqBusConfig} {now : Int} {past : List (State × Label)}

theorem step_schedule {l : Label} (run : DriverRun config now past s)
    (taken : s.step l = some s') : ScheduleStep s l s' := by
  have coherent := run_coherent run
  have place := coherent.place
  have stays {l : Label} {next : State} (starts : s.starts l = false)
      (attempts : s.attemptsAt l = none) (schedules : s.schedules l = none)
      (turn : SameTurn s next) (untouched : Untouched s next) : ScheduleStep s l next :=
    .kept starts attempts schedules fun awaiting =>
      ⟨turn.awaiting awaiting, untouched.nextReconnectAt⟩
  have goes {l : Label} {next : State} (starts : s.starts l = false)
      (attempts : s.attemptsAt l = none) (schedules : s.schedules l = none)
      (same : next.nextReconnectAt = s.nextReconnectAt)
      (awaiting : next.Awaiting → s.Awaiting) : ScheduleStep s l next :=
    .kept starts attempts schedules fun there => ⟨awaiting there, same⟩
  -- with a connection the thread does not wait for an attempt
  have talks {next : State} (here : AtBroker s.pc) (same : next.connected = s.connected) :
      next.Awaiting → s.Awaiting := by
    rintro ⟨down, -, -⟩
    rw [same, ((fits_atBroker here).mp place).1] at down
    cases down
  cases step_cases taken with
  | startRefused joinable => exact goes (by simp [starts, joinable]) rfl rfl rfl id
  | start idle fresh => exact .starts (by simp [starts, fresh])
  | stopRequest idle =>
    refine goes rfl rfl rfl rfl ?_
    rintro ⟨down, elsewhere, place⟩
    exact ⟨down, elsewhere, fun _ => place rfl⟩
  | stopJoin joining ended => exact goes rfl rfl rfl rfl id
  | stopFinish finishing => exact goes rfl rfl rfl rfl id
  | callAnswered checked => exact goes rfl rfl rfl rfl id
  | @callQueued call body checked =>
    exact stays rfl rfl rfl (sameTurn_enqueueCommand body s) (untouched_enqueueCommand body s)
  | registerHandler => exact goes rfl rfl rfl rfl id
  | unregisterHandler => exact goes rfl rfl rfl rfl id
  | @finishTask index outcome task found =>
    have turn := sameTurn_finishTask task outcome { s with tasks := s.tasks.eraseIdx index }
    have untouched := untouched_finishTask task outcome { s with tasks := s.tasks.eraseIdx index }
    exact goes rfl rfl rfl untouched.nextReconnectAt turn.awaiting
  | entered pc =>
    refine goes rfl rfl rfl rfl ?_
    rintro ⟨down, -, place⟩
    refine ⟨down, by simp [pc], fun stop => ?_⟩
    rcases place stop with there | there | there <;> cases there
  | entryFailed pc =>
    refine goes rfl rfl rfl rfl ?_
    rintro ⟨down, -, place⟩
    refine ⟨down, by simp [pc], fun stop => ?_⟩
    rcases place stop with there | there | there <;> cases there
  | stopSeen pc stop =>
    refine goes rfl rfl rfl rfl ?_
    rintro ⟨-, -, place⟩
    rcases place stop with there | there | there <;> cases there
  | goOn pc goesOn =>
    refine goes rfl rfl rfl rfl ?_
    rintro ⟨down, -, -⟩
    refine ⟨down, by simp [pc], fun stop => ?_⟩
    rw [goesOn] at stop
    cases stop
  | swapCommands pc =>
    refine goes rfl rfl rfl rfl ?_
    rintro ⟨down, -, -⟩
    exact ⟨down, by simp [pc], fun _ => Or.inl pc⟩
  | @runCommand answer sends command rest pc queued =>
    have turn := sameTurn_runCommand command answer sends { s with localCommands := rest }
    have untouched := untouched_runCommand command answer sends { s with localCommands := rest }
    exact goes rfl rfl rfl untouched.nextReconnectAt turn.awaiting
  | commandsDone pc none up =>
    refine goes rfl rfl rfl rfl ?_
    rintro ⟨down, -, -⟩
    exact absurd (up.symm.trans down) Bool.true_eq_false.mp
  | commandsDoneDown pc none down =>
    exact goes rfl rfl rfl rfl fun _ => ⟨down, by simp [pc], fun _ => Or.inr (Or.inl pc)⟩
  | @attempt time pc attempt =>
    rw [pc] at place
    refine .attempts rfl ?_ rfl ⟨place.1, by simp [pc], fun _ => Or.inr (Or.inr pc)⟩ attempt rfl
    rw [State.attemptsAt, if_pos attempt]
  | @noAttempt time pc refused =>
    rw [pc] at place
    refine goes rfl ?_ rfl rfl fun _ => ⟨place.1, by simp [pc], fun _ => Or.inr (Or.inr pc)⟩
    rw [State.attemptsAt, refused]
    rfl
  | connected pc =>
    refine goes rfl rfl rfl rfl ?_
    rintro ⟨down, -, -⟩
    cases down
  | connectFailed pc => exact .schedules rfl rfl rfl rfl
  | @flushBefore sends pc =>
    have here : AtBroker s.pc := by rw [pc]; trivial
    have flushed := quiet_flushOutboundData sends s
    exact goes rfl rfl rfl flushed.untouched.nextReconnectAt
      (talks here flushed.sameTurn.connected)
  | @poll outcome pc possible =>
    have here : AtBroker s.pc := by rw [pc]; trivial
    cases outcome <;> exact goes rfl rfl rfl rfl (talks here rfl)
  | event pc live alive called =>
    have here : AtBroker s.pc := by rw [pc]; trivial
    obtain ⟨next, -, turn⟩ := called.waits
    exact goes rfl rfl rfl called.untouched.nextReconnectAt (talks here turn.connected)
  | parsed pc bounded leads =>
    have here : AtBroker s.pc := by rw [pc]; trivial
    exact goes rfl rfl rfl rfl (talks here rfl)
  | @flushAfter sends pc =>
    have here : AtBroker s.pc := by rw [pc]; trivial
    have flushed := quiet_flushOutboundData sends s
    exact goes rfl rfl rfl flushed.untouched.nextReconnectAt
      (talks here flushed.sameTurn.connected)
  | @heartbeat time produced pc =>
    have here : AtBroker s.pc := by rw [pc]; trivial
    have beat := quiet_maybeSendHeartbeat time produced s
    exact goes rfl rfl rfl beat.untouched.nextReconnectAt (talks here beat.sameTurn.connected)
  | @disconnect time stale pc pending =>
    refine scheduleStep_handleDisconnect _ _ _ s (Or.inl rfl) rfl rfl ?_
    rw [schedules, pending]
    cases s.stopRequested <;> rfl
  | endTurn pc settled =>
    have here : AtBroker s.pc := by rw [pc]; trivial
    exact goes rfl rfl (by simp [schedules, settled]) rfl (talks here rfl)
  | finalDisconnect pc => exact scheduleStep_handleDisconnect _ _ _ s (Or.inr rfl) rfl rfl rfl
  | waitOver pc completed =>
    have here : AtBroker s.pc := by rw [pc]; trivial
    exact goes rfl rfl rfl rfl (talks here rfl)

/-! ## Distances between attempts -/

theorem attemptTimes_started {l : Label} (starts : s.starts l = true) :
    attemptTimes ((s, l) :: past) = [] := by
  rw [attemptTimes, if_pos starts]

theorem attemptTimes_made {l : Label} {time : Int} (starts : s.starts l = false)
    (attempts : s.attemptsAt l = some time) :
    attemptTimes ((s, l) :: past) = time :: attemptTimes past := by
  rw [attemptTimes, starts, attempts]
  rfl

theorem attemptTimes_kept {l : Label} (starts : s.starts l = false)
    (attempts : s.attemptsAt l = none) : attemptTimes ((s, l) :: past) = attemptTimes past := by
  rw [attemptTimes, starts, attempts]
  rfl

/-- The thread reads the clock before each attempt. -/
theorem run_attempts_read (enabled : config.connection.reconnect.enabled = true)
    (run : DriverRun config now past s) : ∀ time ∈ attemptTimes past, time ∈ readings past := by
  refine run.invariant_past (fun past _ => ∀ time ∈ attemptTimes past, time ∈ readings past)
    (fun _ member => member) fun past s l s' before holds taken => ?_
  intro time member
  rw [readings, List.mem_append]
  by_cases starts : s.starts l = true
  · rw [attemptTimes_started starts] at member
    cases member
  · rw [Bool.not_eq_true] at starts
    cases attempts : s.attemptsAt l with
    | none =>
      rw [attemptTimes_kept starts attempts] at member
      exact Or.inr (holds time member)
    | some last =>
      rw [attemptTimes_made starts attempts] at member
      rcases List.mem_cons.mp member with rfl | earlier
      · left
        cases l with
        | testReconnect reading =>
          rw [State.attemptsAt] at attempts
          split at attempts
          · cases attempts
            rw [readsClock, run_connectionConfig before, if_pos enabled]
            exact List.mem_singleton_self _
          · cases attempts
        | _ => cases attempts
      · exact Or.inr (holds time earlier)

/-- What sets the delay back also ends the wait for an attempt. -/
theorem awaiting_keeps {l : Label} (taken : s.step l = some s') (starts : s.starts l = false)
    (awaiting : s'.Awaiting) : s.resets l = false := by
  cases l with
  | start time => exact starts
  | connect outcome time =>
    cases outcome with
    | failed e => rfl
    | connected socketFd produced =>
      cases step_cases taken with
      | connected pc => cases awaiting.1
  | _ => rfl

/-- An attempt comes no earlier after the one before it than the delay scheduled there. It counts
the backoffs since the last socket that could be connected, or since the start: a broker that
takes the socket and then fails the connection is tried again after the initial delay. -/
def WaitsForDelay (reconnect : ReconnectConfig) (earlier : List (State × Label)) (next : Int) :
    Prop :=
  ∀ previous rest, attemptTimes earlier = previous :: rest →
    ∃ n, backoffs earlier = n + 1 ∧ previous + exactDelay reconnect n ≤ next

/-- The attempts since the start are spaced, and so is the next one. -/
structure Paced (reconnect : ReconnectConfig) (past : List (State × Label)) (s : State) :
    Prop where
  made : AllSteps (fun earlier s l => ∀ time, s.attemptsAt l = some time →
    WaitsForDelay reconnect earlier time) past
  spaced : Spaced reconnect.initialDelayMs.toInt (attemptTimes past)
  next : s.Awaiting → WaitsForDelay reconnect past s.nextReconnectAt

theorem Paced.step {l : Label} (enabled : config.connection.reconnect.enabled = true)
    (ordered : Ordered config.connection.reconnect)
    (never : NeverOverflows config.connection.reconnect) (run : DriverRun config now past s)
    (taken : s.step l = some s') (clock : SteadyClock ((s, l) :: past))
    (paced : Paced config.connection.reconnect past s) :
    Paced config.connection.reconnect ((s, l) :: past) s' := by
  obtain ⟨nonneg, le⟩ := ordered
  cases step_schedule run taken with
  | starts starts =>
    have none : attemptTimes ((s, l) :: past) = [] := attemptTimes_started starts
    refine ⟨⟨?_, paced.made⟩, ?_, ?_⟩
    · intro time attempts
      cases l with
      | start now => cases attempts
      | _ => cases starts
    · rw [none]
      exact .nil
    · intro _ previous rest some
      rw [none] at some
      cases some
  | @attempts time starts attempts silent awaiting due there =>
    have made : attemptTimes ((s, l) :: past) = time :: attemptTimes past :=
      attemptTimes_made starts attempts
    have waits : WaitsForDelay config.connection.reconnect past time := by
      rw [shouldAttemptReconnect, run_connectionConfig run, if_pos enabled, decide_eq_true_eq]
        at due
      intro previous rest some
      obtain ⟨n, count, wait⟩ := paced.next awaiting previous rest some
      exact ⟨n, count, wait.trans due⟩
    refine ⟨⟨?_, paced.made⟩, ?_, ?_⟩
    · intro other same
      cases attempts.symm.trans same
      exact waits
    · rw [made]
      refine paced.spaced.next nonneg fun previous rest some => ?_
      obtain ⟨n, -, wait⟩ := waits previous rest some
      have least : _ ≤ exactDelay _ n := le_backoff nonneg le n
      omega
    · intro waiting
      exact absurd there waiting.2.1
  | @schedules time starts attempts schedules reads =>
    have same : attemptTimes ((s, l) :: past) = attemptTimes past :=
      attemptTimes_kept starts attempts
    have count : backoffs ((s, l) :: past) = backoffs past + 1 :=
      backoffs_scheduled (schedules_keeps schedules).2 schedules past
    refine ⟨⟨?_, paced.made⟩, ?_, ?_⟩
    · intro other made
      rw [attempts] at made
      cases made
    · rw [same]
      exact paced.spaced
    · intro _ previous rest some
      rw [same] at some
      -- the steady clock orders the attempt and the reading that schedules the next one
      have read : previous ∈ readings past :=
        run_attempts_read enabled run previous (some ▸ List.mem_cons_self)
      have later : previous + 0 ≤ time := by
        rw [SteadyClock, readings, reads] at clock
        exact (List.pairwise_cons.mp clock).1 previous read
      have next := (step_delayStep (run_coherent run) taken).next schedules
      refine ⟨backoffs past, count, ?_⟩
      rw [next, run_exact ⟨nonneg, le⟩ never run]
      omega
  | kept starts attempts silent keeps =>
    have same : attemptTimes ((s, l) :: past) = attemptTimes past :=
      attemptTimes_kept starts attempts
    refine ⟨⟨?_, paced.made⟩, ?_, ?_⟩
    · intro other made
      rw [attempts] at made
      cases made
    · rw [same]
      exact paced.spaced
    · intro waiting previous rest some
      obtain ⟨awaiting, unchanged⟩ := keeps waiting
      rw [same] at some
      rw [unchanged, backoffs_kept (awaiting_keeps taken starts waiting) silent]
      exact paced.next awaiting previous rest some

theorem run_paced (enabled : config.connection.reconnect.enabled = true)
    (ordered : Ordered config.connection.reconnect)
    (never : NeverOverflows config.connection.reconnect) (run : DriverRun config now past s)
    (clock : SteadyClock past) : Paced config.connection.reconnect past s := by
  refine run.invariant_past
    (fun past s => SteadyClock past → Paced config.connection.reconnect past s)
    (fun _ => ⟨trivial, .nil, fun _ _ _ some => by cases some⟩)
    (fun past s l s' before holds taken clock => ?_) clock
  have earlier : SteadyClock past := (List.pairwise_append.mp clock).2.1
  exact (holds earlier).step enabled ordered never before taken clock

/-- How the attempts since the last start are spread in time. -/
structure AttemptsSpaced (reconnect : ReconnectConfig) (past : List (State × Label)) : Prop where
  /-- Each attempt waits for the exact delay of the backoffs since the last connected socket, or
  since the start. -/
  waited : AllSteps (fun earlier s l => ∀ time, s.attemptsAt l = some time →
    WaitsForDelay reconnect earlier time) past
  spaced : Spaced reconnect.initialDelayMs.toInt (attemptTimes past)
  /-- A broker sees so many attempts at most in a window of time. -/
  window : 0 < reconnect.initialDelayMs.toInt → ∀ start finish, start ≤ finish →
    ((inWindow start finish (attemptTimes past)).length : Int) ≤
      (finish - start) / reconnect.initialDelayMs.toInt + 1

/-- However connections fail or are lost, attempts keep at least the initial delay apart. -/
theorem attempts_spaced (config : RabbitMqBusConfig) (now : Int) (past : List (State × Label))
    (s : State) (run : DriverRun config now past s)
    (enabled : config.connection.reconnect.enabled = true)
    (ordered : Ordered config.connection.reconnect)
    (never : NeverOverflows config.connection.reconnect) (clock : SteadyClock past) :
    AttemptsSpaced config.connection.reconnect past := by
  have paced := run_paced enabled ordered never run clock
  exact ⟨paced.made, paced.spaced, fun positive _ _ => paced.spaced.length_window positive⟩

end State

end

namespace State

open PlainFields

/-- Three attempts that fail, each as soon as it is due. -/
def threeFailures : List Label :=
  .start 0 :: .enter true :: (failedAttempt 0 ++ failedAttempt 1000 ++ failedAttempt 3000)

theorem attempts_spaced_threeFailures :
    ∃ past s, exec step threeFailures [] (new workerConfig 0) = some (past, s) ∧
      attemptTimes past = [3000, 1000, 0] ∧
      AttemptsSpaced workerConfig.connection.reconnect past := by
  obtain ⟨past, s, executed, times, clock⟩ :
      ∃ past s, exec step threeFailures [] (new workerConfig 0) = some (past, s) ∧
        attemptTimes past = [3000, 1000, 0] ∧ readings past = [3000, 3000, 1000, 1000, 0, 0, 0] :=
    ⟨_, _, rfl, rfl, rfl⟩
  refine ⟨past, s, executed, times,
    attempts_spaced workerConfig 0 past s (run_of_exec .nil executed) rfl
      ⟨by decide, by decide⟩ (Or.inr (by decide)) ?_⟩
  rw [SteadyClock, clock, Spaced]
  decide

end State

section

variable [AmqpFields]

namespace State

variable {s s' : State} {config : RabbitMqBusConfig} {now : Int} {past : List (State × Label)}

/-! ## Attempts that are due -/

/-- The thread is in its loop, without a connection and without an attempt under way. -/
structure Dormant (s : State) : Prop where
  down : s.connected = false
  goesOn : s.stopRequested = false
  running : s.threadJoinable = true
  unfinished : s.pc ≠ .returned
  between : s.pc ≠ .connect

/-- At most this many steps of the loop are left until the thread looks for an attempt. -/
def stepsToAttempt (s : State) : Nat :=
  match s.pc with
  | .connectTest => 1
  | .commands => 2
  | .drain => 3
  | .loopTest => 4
  | .entry => 5
  | _ => 0

/-- The thread does not look for an attempt before the time that it was scheduled for. -/
def isDue (s : State) : Label → Bool
  | .testReconnect time => decide (s.nextReconnectAt ≤ time)
  | _ => true

/-- A thread without a connection does not wait for the result of its own command. -/
theorem Dormant.moving (dormant : Dormant s) (coherent : Coherent s) : s.Moving := by
  intro pending waits
  have place := coherent.place
  rw [waits] at place
  exact absurd (dormant.down.symm.trans place.1) Bool.false_ne_true

/-- Once the attempt is due, every step of the loop brings the thread nearer to it. -/
theorem step_dormant {l : Label} (enabled : config.connection.reconnect.enabled = true)
    (run : DriverRun config now past s) (before : Dormant s) (after : Dormant s')
    (due : s.isDue l = true) (taken : s.step l = some s') :
    (l.isLoopStep = true → s'.stepsToAttempt < s.stepsToAttempt) ∧
      (l.isLoopStep = false → s'.stepsToAttempt ≤ s.stepsToAttempt) := by
  have place := (run_coherent run).place
  have same {l : Label} {next : State} (other : l.isLoopStep = false) (pc : next.pc = s.pc) :
      (l.isLoopStep = true → next.stepsToAttempt < s.stepsToAttempt) ∧
        (l.isLoopStep = false → next.stepsToAttempt ≤ s.stepsToAttempt) := by
    refine ⟨fun loop => absurd (other.symm.trans loop) Bool.false_ne_true, fun _ => ?_⟩
    unfold stepsToAttempt
    rw [pc]
  have nearer {l : Label} {next : State} (loop : l.isLoopStep = true)
      (less : next.stepsToAttempt < s.stepsToAttempt) :
      (l.isLoopStep = true → next.stepsToAttempt < s.stepsToAttempt) ∧
        (l.isLoopStep = false → next.stepsToAttempt ≤ s.stepsToAttempt) :=
    ⟨fun _ => less, fun _ => le_of_lt less⟩
  -- no step of a connection is possible
  have talks {p : Prop} (here : AtBroker s.pc) : p := by
    have up := ((fits_atBroker here).mp place).1
    exact absurd (before.down.symm.trans up) Bool.false_ne_true
  cases step_cases taken with
  | startRefused joinable => exact same rfl rfl
  | start idle fresh => exact absurd (fresh.symm.trans before.running) Bool.false_ne_true
  | stopRequest idle => cases after.goesOn
  | stopJoin joining ended => cases after.running
  | stopFinish finishing => exact same rfl rfl
  | callAnswered checked => exact same rfl rfl
  | callQueued checked => exact same rfl (sameTurn_enqueueCommand _ s).pc
  | registerHandler => exact same rfl rfl
  | unregisterHandler => exact same rfl rfl
  | @finishTask index outcome task found =>
    exact same rfl
      (sameTurn_finishTask task outcome { s with tasks := s.tasks.eraseIdx index }).pc
  | entered pc => exact nearer rfl (by simp [stepsToAttempt, pc])
  | entryFailed pc => exact absurd rfl after.unfinished
  | stopSeen pc stop => exact absurd (before.goesOn.symm.trans stop) Bool.false_ne_true
  | goOn pc goesOn => exact nearer rfl (by simp [stepsToAttempt, pc])
  | swapCommands pc => exact nearer rfl (by simp [stepsToAttempt, pc])
  | @runCommand answer sends command rest pc queued =>
    exact same rfl
      (sameTurn_runCommand command answer sends { s with localCommands := rest }).pc
  | commandsDone pc none up => exact absurd (before.down.symm.trans up) Bool.false_ne_true
  | commandsDoneDown pc none down => exact nearer rfl (by simp [stepsToAttempt, pc])
  | attempt pc attempt => exact absurd rfl after.between
  | noAttempt pc refused =>
    rw [shouldAttemptReconnect, run_connectionConfig run, if_pos enabled] at refused
    exact absurd (of_decide_eq_true due) (of_decide_eq_false refused)
  | connected pc => exact absurd pc before.between
  | connectFailed pc => exact absurd pc before.between
  | flushBefore pc => exact talks (by rw [pc]; trivial)
  | poll pc possible => exact talks (by rw [pc]; trivial)
  | event pc live alive called => exact talks (by rw [pc]; trivial)
  | parsed pc bounded leads => exact talks (by rw [pc]; trivial)
  | flushAfter pc => exact talks (by rw [pc]; trivial)
  | heartbeat pc => exact talks (by rw [pc]; trivial)
  | disconnect pc pending => exact talks (by rw [pc]; trivial)
  | endTurn pc settled => exact talks (by rw [pc]; trivial)
  | finalDisconnect pc => exact absurd rfl after.unfinished
  | waitOver pc completed => exact talks (by rw [pc]; trivial)

theorem ranks_dormant (enabled : config.connection.reconnect.enabled = true) (now : Int) :
    Ranks (restrict step fun s l => s.isDue l = true)
      (fun s => Reached config now s ∧ Dormant s) Label.isLoopStep stepsToAttempt := by
  have nearer (s : State) (l : Label) (s' : State) (before : Reached config now s ∧ Dormant s)
      (after : Reached config now s' ∧ Dormant s')
      (taken : restrict step (fun s l => s.isDue l = true) s l = some s') :
      (l.isLoopStep = true → s'.stepsToAttempt < s.stepsToAttempt) ∧
        (l.isLoopStep = false → s'.stepsToAttempt ≤ s.stepsToAttempt) := by
    obtain ⟨⟨past, run⟩, dormant⟩ := before
    obtain ⟨due, stepped⟩ := restrict_eq_some.mp taken
    exact step_dormant enabled run dormant after.2 due stepped
  exact ⟨fun s l s' before after taken => (nearer s l s' before after taken).1,
    fun s l s' before after taken => (nearer s l s' before after taken).2⟩

theorem stepsToAttempt_le (s : State) : s.stepsToAttempt ≤ 5 := by
  unfold stepsToAttempt
  split <;> omega

/-- What happens while the connection is down and an attempt is due. -/
structure AttemptInTime (s : State) (later : List (State × Label)) (t : State) : Prop where
  /-- The thread takes so many steps at most, besides the commands that it executes. -/
  bounded : countSteps Label.isLoopStep later + t.stepsToAttempt ≤ s.stepsToAttempt
  start : s.stepsToAttempt ≤ 5
  /-- It can go on. -/
  goesOn : ∃ l, l.isTurnStep = true ∧ (t.step l).isSome = true

/-- An attempt that is due is made, within a few steps of the thread, unless the driver is
stopped. -/
theorem attempts_in_time (config : RabbitMqBusConfig) (now : Int)
    (past later : List (State × Label)) (s t : State) (run : DriverRun config now past s)
    (goesOn : Run step s later t) (enabled : config.connection.reconnect.enabled = true)
    (dormant : AllStates Dormant later t)
    (due : AllSteps (fun _ s l => s.isDue l = true) later) : AttemptInTime s later t := by
  have reached : AllStates (Reached config now) later t :=
    goesOn.staysIn ⟨past, run⟩ fun s l s' reached taken => reached.step taken
  refine ⟨?_, stepsToAttempt_le s, ?_⟩
  · exact (ranks_dormant enabled now).bounds (goesOn.restrict due) (reached.and dormant)
  · have last := dormant.last
    exact turn_enabled (reached.last.entered last.running) last.unfinished
      (last.moving reached.last.coherent)

end State

end

namespace State

open PlainFields

/-- After a first failure, the thread is at the head of its loop when the next attempt is due. -/
def failedOnce : List Label := .start 0 :: .enter true :: failedAttempt 0

theorem attempts_in_time_failedOnce :
    ∃ past s later t, exec step failedOnce [] (new workerConfig 0) = some (past, s) ∧
      exec step [.testStop, .swapCommands, .commandsDone] [] s = some (later, t) ∧
      countSteps Label.isLoopStep later = 3 ∧ s.stepsToAttempt = 4 ∧ AttemptInTime s later t := by
  obtain ⟨past, s, later, t, before, after, count, bound, dormant, due⟩ :
      ∃ past s later t, exec step failedOnce [] (new workerConfig 0) = some (past, s) ∧
        exec step [.testStop, .swapCommands, .commandsDone] [] s = some (later, t) ∧
        countSteps Label.isLoopStep later = 3 ∧ s.stepsToAttempt = 4 ∧
        AllStates Dormant later t ∧ AllSteps (fun _ s l => s.isDue l = true) later := by
    refine ⟨_, _, _, _, rfl, rfl, rfl, rfl, ?_, by decide⟩
    exact ⟨⟨rfl, rfl, rfl, by decide, by decide⟩, ⟨rfl, rfl, rfl, by decide, by decide⟩,
      ⟨rfl, rfl, rfl, by decide, by decide⟩, ⟨rfl, rfl, rfl, by decide, by decide⟩⟩
  exact ⟨past, s, later, t, before, after, count, bound,
    attempts_in_time workerConfig 0 past later s t (run_of_exec .nil before)
      (run_of_exec .nil after) rfl dormant due⟩

end State

end ModuleContext.RabbitMqBus.Driver
