import ModuleContext.Misc.Backoff
import ModuleContext.RabbitMqBus.Driver.StateCoherence
import ModuleContext.RabbitMqBus.Driver.Untouched

/-!
# The delay between attempts

A failed attempt and the loss of a connection schedule the next attempt and double the delay;
`Start` and a connected socket set it back. The doubling is done before it is compared with
the maximum, in 32-bit integers.
-/

namespace ModuleContext.RabbitMqBus.Driver
open Foundation Misc

namespace State

/-- The bounds that the configuration is checked for. -/
def Ordered (reconnect : ReconnectConfig) : Prop :=
  0 ≤ reconnect.initialDelayMs.toInt ∧
    reconnect.initialDelayMs.toInt ≤ reconnect.maxDelayMs.toInt

/-- The delay after `n` doublings in exact integers. -/
def exactDelay (reconnect : ReconnectConfig) (n : Nat) : Int :=
  backoff reconnect.initialDelayMs.toInt reconnect.maxDelayMs.toInt n

/-- With reconnect, the delay grows up to its maximum; without, it is doubled once. -/
def NeverOverflows (reconnect : ReconnectConfig) : Prop :=
  if reconnect.enabled then
    reconnect.initialDelayMs = 0 ∨ reconnect.maxDelayMs.toInt < 2 ^ 30
  else reconnect.initialDelayMs.toInt < 2 ^ 30

theorem exactDelay_small {reconnect : ReconnectConfig} (never : NeverOverflows reconnect)
    (enabled : reconnect.enabled = true) (n : Nat) : exactDelay reconnect n < 2 ^ 30 := by
  rw [NeverOverflows, if_pos enabled] at never
  unfold exactDelay
  rcases never with zero | small
  · rw [zero, backoff, show (0 : Int32).toInt = 0 from rfl, zero_mul]
    exact lt_of_le_of_lt (min_le_left _ _) (by decide)
  · exact lt_of_le_of_lt (backoff_le n) small

end State

section

variable [AmqpFields]

namespace State

/-- The time at which a step schedules the next attempt. -/
def schedules (s : State) : Label → Option Int
  | .connect (.failed _) now => some now
  | .endTurn now _ => if s.pendingDisconnect && !s.stopRequested then some now else none
  | .finalDisconnect now => if s.stopRequested then none else some now
  | _ => none

/-- A step that sets the delay back. -/
def resets (s : State) : Label → Bool
  | .start _ => !s.threadJoinable
  | .connect (.connected _ _) _ => true
  | _ => false

/-- How often the delay has been doubled since it was set back. -/
def backoffs : List (State × Label) → Nat
  | [] => 0
  | (s, l) :: past =>
      if s.resets l then 0
      else backoffs past + if (s.schedules l).isSome then 1 else 0

/-! ## Operations that leave the delay alone -/

/-- The delay and the configuration it is computed from. -/
def pace (s : State) : Int32 × ConnectionConfig := (s.reconnectDelayMs, s.config.connection)

variable {s s' : State}

theorem backoffs_reset {l : Label} (resets : s.resets l = true) (past : List (State × Label)) :
    backoffs ((s, l) :: past) = 0 := by
  rw [backoffs, if_pos resets]

theorem backoffs_scheduled {l : Label} {now : Int} (keeps : s.resets l = false)
    (schedules : s.schedules l = some now) (past : List (State × Label)) :
    backoffs ((s, l) :: past) = backoffs past + 1 := by
  rw [backoffs, keeps, schedules]
  rfl

theorem backoffs_kept {l : Label} (keeps : s.resets l = false) (silent : s.schedules l = none)
    (past : List (State × Label)) : backoffs ((s, l) :: past) = backoffs past := by
  rw [backoffs, keeps, silent]
  rfl

theorem Untouched.pace (untouched : Untouched s s') : s'.pace = s.pace :=
  untouched.same State.pace fun _ => rfl

/-! ## Steps -/

/-- What a step does to the delay: it is set back, doubled when the next attempt is scheduled
on a driver that is down from then on, or kept. -/
inductive DelayStep (s : State) (l : Label) (s' : State) : Prop where
  | reset : s.resets l = true →
      s'.reconnectDelayMs = s.config.connection.reconnect.initialDelayMs →
      s'.config.connection = s.config.connection → DelayStep s l s'
  | scheduled {now : Int} : s.resets l = false → s.schedules l = some now →
      s'.reconnectDelayMs =
        doubleCapped s.config.connection.reconnect.maxDelayMs s.reconnectDelayMs →
      s'.nextReconnectAt = now + s.reconnectDelayMs.toInt →
      s'.config.connection = s.config.connection → s'.connected = false →
      s'.state ≠ .connecting → s'.pc ≠ .connect → DelayStep s l s'
  | kept : s.resets l = false → s.schedules l = none → s'.pace = s.pace →
      (s.connected = false → s'.connected = false) → DelayStep s l s'

/-- A loss of the connection schedules the next attempt, unless the driver is to stop. -/
theorem delayStep_handleDisconnect {l : Label} (reason : ReasonRef) (now : Int) (pc : DriverPc)
    (s : State) (leads : pc ≠ .connect) (keeps : s.resets l = false)
    (schedules : s.schedules l = if s.stopRequested then none else some now) :
    DelayStep s l { s.handleDisconnect reason now with pc } := by
  have shown := (state_handleDisconnect reason now s).2
  obtain ⟨_, _, _, failed⟩ := reports_failConnection reason s
  unfold handleDisconnect at shown ⊢
  rw [failed] at shown ⊢
  dsimp only at shown ⊢
  split
  · rename_i stop
    rw [if_pos (show s.stopRequested = true from stop)] at schedules
    exact .kept keeps schedules rfl fun _ => rfl
  · rename_i goesOn
    rw [if_neg (show ¬ s.stopRequested = true from goesOn)] at schedules
    rw [if_neg goesOn] at shown
    exact .scheduled keeps schedules rfl rfl rfl rfl shown leads

theorem step_delayStep {l : Label} (coherent : Coherent s) (taken : s.step l = some s') :
    DelayStep s l s' := by
  have place := coherent.place
  have same {l : Label} {next : State} (keeps : s.resets l = false)
      (silent : s.schedules l = none) (pace : next.pace = s.pace)
      (connected : next.connected = s.connected) : DelayStep s l next :=
    .kept keeps silent pace fun down => connected.trans down
  cases step_cases taken with
  | startRefused joinable =>
    exact same (by simp [resets, joinable]) rfl rfl rfl
  | start idle fresh => exact .reset (by simp [resets, fresh]) rfl rfl
  | stopRequest idle => exact same rfl rfl rfl rfl
  | stopJoin joining ended => exact same rfl rfl rfl rfl
  | stopFinish finishing => exact same rfl rfl rfl rfl
  | callAnswered checked => exact same rfl rfl rfl rfl
  | @callQueued call body checked =>
    exact same rfl rfl (untouched_enqueueCommand body s).pace
      (sameTurn_enqueueCommand body s).connected
  | registerHandler => exact same rfl rfl rfl rfl
  | unregisterHandler => exact same rfl rfl rfl rfl
  | @finishTask index outcome task found =>
    exact same rfl rfl (untouched_finishTask task outcome _).pace
      (sameTurn_finishTask task outcome _).connected
  | entered pc => exact same rfl rfl rfl rfl
  | entryFailed pc => exact same rfl rfl rfl rfl
  | stopSeen pc stop => exact same rfl rfl rfl rfl
  | goOn pc goOn => exact same rfl rfl rfl rfl
  | swapCommands pc => exact same rfl rfl rfl rfl
  | @runCommand answer sends command rest pc queued =>
    have turn := sameTurn_runCommand command answer sends { s with localCommands := rest }
    have untouched := untouched_runCommand command answer sends { s with localCommands := rest }
    exact same rfl rfl untouched.pace turn.connected
  | commandsDone pc none up => exact same rfl rfl rfl rfl
  | commandsDoneDown pc none down => exact same rfl rfl rfl rfl
  | attempt pc attempt => exact same rfl rfl rfl rfl
  | noAttempt pc refused => exact same rfl rfl rfl rfl
  | connected pc => exact .reset rfl rfl rfl
  | connectFailed pc =>
    rw [pc] at place
    refine .scheduled rfl rfl rfl rfl rfl place.1 ?_ (by simp)
    simp only [applyReconnectBackoff, scheduleReconnect]
    split <;> simp
  | @flushBefore sends pc =>
    have flushed := quiet_flushOutboundData sends s
    exact same rfl rfl flushed.untouched.pace flushed.sameTurn.connected
  | @poll outcome pc possible => cases outcome <;> exact same rfl rfl rfl rfl
  | event pc live alive called =>
    obtain ⟨next, -, turn⟩ := called.waits
    exact same rfl rfl called.untouched.pace turn.connected
  | parsed pc bounded leads => exact same rfl rfl rfl rfl
  | @flushAfter sends pc =>
    have flushed := quiet_flushOutboundData sends s
    exact same rfl rfl flushed.untouched.pace flushed.sameTurn.connected
  | @heartbeat now produced pc =>
    have beat := quiet_maybeSendHeartbeat now produced s
    exact same rfl rfl beat.untouched.pace beat.sameTurn.connected
  | disconnect pc pending =>
    refine delayStep_handleDisconnect _ _ _ s (by simp) rfl ?_
    rw [schedules, pending]
    cases s.stopRequested <;> rfl
  | endTurn pc settled => exact same rfl (by simp [schedules, settled]) rfl rfl
  | finalDisconnect pc => exact delayStep_handleDisconnect _ _ _ s (by simp) rfl rfl
  | waitOver pc completed => exact same rfl rfl rfl rfl

theorem DelayStep.config {l : Label} (step : DelayStep s l s') :
    s'.config.connection = s.config.connection := by
  cases step with
  | reset resets delay config => exact config
  | scheduled keeps schedules delay next config down state pc => exact config
  | kept keeps silent pace down => exact congrArg Prod.snd pace

/-! ## Runs -/

variable {config : RabbitMqBusConfig} {now : Int} {past : List (State × Label)}

theorem run_connectionConfig (run : DriverRun config now past s) :
    s.config.connection = config.connection :=
  run.invariant_past (fun _ s => s.config.connection = config.connection) rfl
    fun _ _ _ _ before same taken =>
      (step_delayStep (run_coherent before) taken).config.trans same

/-- Once an attempt is scheduled, there is no connection until the delay is set back. -/
theorem run_backoffs_down (run : DriverRun config now past s) :
    backoffs past ≠ 0 → s.connected = false := by
  refine run.invariant_past (fun past s => backoffs past ≠ 0 → s.connected = false)
    (fun some => absurd rfl some) fun past s l s' before holds taken => ?_
  intro some
  cases step_delayStep (run_coherent before) taken with
  | reset resets delay config =>
    rw [backoffs_reset resets] at some
    exact absurd rfl some
  | scheduled keeps schedules delay next config down state pc => exact down
  | kept keeps silent pace stays =>
    rw [backoffs_kept keeps silent] at some
    exact stays (holds some)

/-- A step keeps the delay exact, unless it doubles a delay that is too large for it. -/
theorem DelayStep.exact {l : Label} {reconnect : ReconnectConfig} (step : DelayStep s l s')
    (ordered : Ordered reconnect) (same : s.config.connection.reconnect = reconnect)
    (fits : (s.schedules l).isSome = true → s.reconnectDelayMs.toInt < 2 ^ 30)
    (isExact : s.reconnectDelayMs.toInt = exactDelay reconnect (backoffs past)) :
    s'.reconnectDelayMs.toInt = exactDelay reconnect (backoffs ((s, l) :: past)) := by
  obtain ⟨nonneg, le⟩ := ordered
  cases step with
  | reset resets delay config =>
    rw [backoffs_reset resets, delay, same]
    exact (backoff_zero le).symm
  | scheduled keeps schedules delay next config down state pc =>
    have small := fits (by rw [schedules]; rfl)
    have positive : 0 ≤ s.reconnectDelayMs.toInt := by
      rw [isExact]
      exact nonneg.trans (le_backoff nonneg le _)
    rw [delay, same, toInt_doubleCapped positive small, isExact,
      backoffs_scheduled keeps schedules]
    exact (backoff_succ nonneg le _).symm
  | kept keeps silent pace down =>
    have same : s'.reconnectDelayMs = s.reconnectDelayMs := congrArg Prod.fst pace
    rw [same, isExact, backoffs_kept keeps silent]

/-! ## Attempts with reconnect disabled -/

/-- How the thread comes to an attempt and to its end, and how the state to `connecting`. -/
structure Moves (s : State) (l : Label) (s' : State) : Prop where
  attempts : s'.pc = .connect → s.pc ≠ .connect → ∃ now, s.shouldAttemptReconnect now = true
  ends : s'.pc = .finalDisconnect → s'.stopRequested = true ∨
    s.pc = .finalDisconnect ∧ s'.stopRequested = s.stopRequested
  connecting : s.connected = false → s'.state = .connecting →
    s.state = .connecting ∨ s.resets l = true

theorem step_moves {l : Label} (coherent : Coherent s) (taken : s.step l = some s') :
    Moves s l s' := by
  have place := coherent.place
  have stays {l : Label} {next : State} (pc : next.pc = s.pc)
      (stop : next.stopRequested = s.stopRequested)
      (state : next.state = .connecting → s.state = .connecting) : Moves s l next :=
    { attempts := fun there elsewhere => absurd (pc.symm.trans there) elsewhere
      ends := fun there => Or.inr ⟨pc.symm.trans there, stop⟩
      connecting := fun _ connecting => Or.inl (state connecting) }
  have goes {l : Label} {next : State} (attempt : next.pc ≠ .connect)
      (final : next.pc ≠ .finalDisconnect)
      (state : s.connected = false → next.state = .connecting → s.state = .connecting) :
      Moves s l next :=
    { attempts := fun there => absurd there attempt
      ends := fun there => absurd there final
      connecting := fun down connecting => Or.inl (state down connecting) }
  have atBroker (here : AtBroker s.pc) {p : Prop} (down : s.connected = false) : p := by
    rw [((fits_atBroker here).mp place).1] at down
    cases down
  cases step_cases taken with
  | startRefused joinable => exact stays rfl rfl id
  | start idle fresh =>
    exact ⟨by simp, by simp, fun _ _ => Or.inr (by simp [resets, fresh])⟩
  | stopRequest idle =>
    exact ⟨fun there elsewhere => absurd there elsewhere, fun _ => Or.inl rfl, fun _ => Or.inl⟩
  | stopJoin joining ended => exact stays rfl rfl id
  | stopFinish finishing => exact stays rfl rfl (by simp)
  | callAnswered checked => exact stays rfl rfl id
  | @callQueued call body checked =>
    have turn := sameTurn_enqueueCommand body s
    exact stays turn.pc turn.stop fun same => (sameFlags_enqueueCommand body s).state ▸ same
  | registerHandler => exact stays rfl rfl id
  | unregisterHandler => exact stays rfl rfl id
  | @finishTask index outcome task found =>
    have turn := sameTurn_finishTask task outcome { s with tasks := s.tasks.eraseIdx index }
    have flags := sameFlags_finishTask task outcome { s with tasks := s.tasks.eraseIdx index }
    exact stays turn.pc turn.stop fun same => flags.state ▸ same
  | entered pc => exact goes (by simp) (by simp) fun _ => id
  | entryFailed pc => exact goes (by simp) (by simp) (by simp)
  | stopSeen pc stop => exact ⟨by simp, fun _ => Or.inl stop, fun _ => Or.inl⟩
  | goOn pc goOn => exact goes (by simp) (by simp) fun _ => id
  | swapCommands pc => exact goes (by simp) (by simp) fun _ => id
  | @runCommand answer sends command rest pc queued =>
    have turn := sameTurn_runCommand command answer sends { s with localCommands := rest }
    have flags := sameFlags_runCommand command answer sends { s with localCommands := rest }
    refine stays turn.pc turn.stop fun same => ?_
    rwa [flags.state] at same
  | commandsDone pc none up => exact goes (by simp) (by simp) fun _ => id
  | commandsDoneDown pc none down => exact goes (by simp) (by simp) fun _ => id
  | attempt pc attempt => exact ⟨fun _ _ => ⟨_, attempt⟩, by simp, fun _ => Or.inl⟩
  | noAttempt pc refused => exact goes (by simp) (by simp) fun _ => id
  | connected pc => exact ⟨by simp, by simp, fun _ _ => Or.inr rfl⟩
  | connectFailed pc =>
    refine goes (by simp) (by simp) fun _ connecting => ?_
    simp only [applyReconnectBackoff, scheduleReconnect] at connecting
    split at connecting <;> cases connecting
  | flushBefore pc => exact goes (by simp) (by simp) (atBroker (by rw [pc]; trivial))
  | @poll outcome pc possible =>
    cases outcome <;> exact goes (by simp [pollSocket]) (by simp [pollSocket]) fun _ => id
  | event pc live alive called =>
    have here : AtBroker s.pc := by rw [pc]; trivial
    obtain ⟨next, waits, turn⟩ := called.waits
    have there : s'.pc = next := turn.pc
    rcases waits with rfl | ⟨pending, rfl⟩
    · exact goes (by simp [there, pc]) (by simp [there, pc]) (atBroker here)
    · exact goes (by simp [there]) (by simp [there]) (atBroker here)
  | parsed pc bounded leads =>
    have here : AtBroker s.pc := by rw [pc]; trivial
    rcases leads with rfl | rfl <;> exact goes (by simp) (by simp) (atBroker here)
  | flushAfter pc => exact goes (by simp) (by simp) (atBroker (by rw [pc]; trivial))
  | heartbeat pc => exact goes (by simp) (by simp) (atBroker (by rw [pc]; trivial))
  | disconnect pc pending => exact goes (by simp) (by simp) (atBroker (by rw [pc]; trivial))
  | endTurn pc settled => exact goes (by simp) (by simp) (atBroker (by rw [pc]; trivial))
  | finalDisconnect pc =>
    exact goes (by simp) (by simp) fun _ connecting =>
      absurd connecting (state_handleDisconnect _ _ s).2
  | waitOver pc completed => exact goes (by simp) (by simp) (atBroker (by rw [pc]; trivial))

/-- The thread comes to its last disconnect only on a stop request. -/
theorem run_ends (run : DriverRun config now past s) :
    s.pc = .finalDisconnect → s.stopRequested = true := by
  refine run.invariant_past (fun _ s => s.pc = .finalDisconnect → s.stopRequested = true)
    (fun there => by cases there) fun past s l s' before holds taken there => ?_
  rcases (step_moves (run_coherent before) taken).ends there with stop | ⟨here, same⟩
  · exact stop
  · exact same.trans (holds here)

/-- A delay is scheduled by a failed attempt or on the loss of a connection. -/
theorem schedules_place {l : Label} (run : DriverRun config now past s)
    (taken : s.step l = some s') (schedules : (s.schedules l).isSome = true) :
    s.pc = .connect ∨ s.connected = true := by
  have place := (run_coherent run).place
  cases step_cases taken with
  | connectFailed pc => exact Or.inl pc
  | disconnect pc pending =>
    rw [pc] at place
    exact Or.inr place.1
  | endTurn pc settled => simp [State.schedules, settled] at schedules
  | finalDisconnect pc => simp [State.schedules, run_ends run pc] at schedules
  | _ => cases schedules

/-- Without reconnect there is no attempt after the first delay, until the next start. -/
theorem run_rests (disabled : config.connection.reconnect.enabled = false)
    (run : DriverRun config now past s) :
    backoffs past ≠ 0 → s.state ≠ .connecting ∧ s.pc ≠ .connect := by
  refine run.invariant_past
    (fun past s => backoffs past ≠ 0 → s.state ≠ .connecting ∧ s.pc ≠ .connect)
    (fun some => absurd rfl some) fun past s l s' before holds taken some => ?_
  cases step_delayStep (run_coherent before) taken with
  | reset resets delay config =>
    rw [backoffs_reset resets] at some
    exact absurd rfl some
  | scheduled keeps schedules delay next config down state pc => exact ⟨state, pc⟩
  | kept keeps silent pace stays =>
    rw [backoffs_kept keeps silent] at some
    obtain ⟨state, pc⟩ := holds some
    have moves := step_moves (run_coherent before) taken
    have down := run_backoffs_down before some
    constructor
    · intro connecting
      rcases moves.connecting down connecting with same | resets
      · exact state same
      · rw [keeps] at resets
        cases resets
    · intro there
      obtain ⟨now, attempts⟩ := moves.attempts there pc
      rw [shouldAttemptReconnect, run_connectionConfig before, disabled] at attempts
      simp only [Bool.false_eq_true, if_false, Bool.and_eq_true, beq_iff_eq] at attempts
      exact state attempts.2

/-! ## The delay in whole runs -/

/-- A delay that is doubled is small enough for it. -/
theorem schedules_small {l : Label} (ordered : Ordered config.connection.reconnect)
    (never : NeverOverflows config.connection.reconnect) (run : DriverRun config now past s)
    (isExact : s.reconnectDelayMs.toInt =
      exactDelay config.connection.reconnect (backoffs past))
    (taken : s.step l = some s') (schedules : (s.schedules l).isSome = true) :
    s.reconnectDelayMs.toInt < 2 ^ 30 := by
  rw [isExact]
  cases enabled : config.connection.reconnect.enabled with
  | true => exact exactDelay_small never enabled _
  | false =>
    have first : backoffs past = 0 := by
      by_contra some
      rcases schedules_place run taken schedules with attempts | up
      · exact (run_rests enabled run some).2 attempts
      · rw [run_backoffs_down run some] at up
        cases up
    rw [first, exactDelay, backoff_zero ordered.2]
    rwa [NeverOverflows, enabled, if_neg Bool.false_ne_true] at never

/-- The 32-bit delay is the exact one, if the configuration allows no overflow. -/
theorem run_exact (ordered : Ordered config.connection.reconnect)
    (never : NeverOverflows config.connection.reconnect) (run : DriverRun config now past s) :
    s.reconnectDelayMs.toInt = exactDelay config.connection.reconnect (backoffs past) :=
  run.invariant_past
    (fun past s => s.reconnectDelayMs.toInt =
      exactDelay config.connection.reconnect (backoffs past))
    (backoff_zero ordered.2).symm fun _ _ _ _ before isExact taken =>
      (step_delayStep (run_coherent before) taken).exact ordered
        (congrArg ConnectionConfig.reconnect (run_connectionConfig before))
        (schedules_small ordered never before isExact taken) isExact

/-- A step lets the delay go down only by setting it back, and doubles it only within 32 bits. -/
structure BacksOff (reconnect : ReconnectConfig) (s : State) (l : Label) : Prop where
  decreases : ∀ s', s.step l = some s' → s'.reconnectDelayMs.toInt < s.reconnectDelayMs.toInt →
    s.resets l = true ∧ s'.reconnectDelayMs = reconnect.initialDelayMs
  product : (s.schedules l).isSome = true →
    -2 ^ 31 ≤ s.reconnectDelayMs.toInt * 2 ∧ s.reconnectDelayMs.toInt * 2 < 2 ^ 31

/-- What is asked of the delay in a run. -/
structure DelaySafe (reconnect : ReconnectConfig) (past : List (State × Label)) (s : State) :
    Prop where
  bounded : AllStates (fun s => reconnect.initialDelayMs.toInt ≤ s.reconnectDelayMs.toInt ∧
    s.reconnectDelayMs.toInt ≤ reconnect.maxDelayMs.toInt) past s
  steps : AllSteps (fun _ s l => BacksOff reconnect s l) past

theorem run_delaySafe (ordered : Ordered config.connection.reconnect)
    (never : NeverOverflows config.connection.reconnect) (run : DriverRun config now past s) :
    DelaySafe config.connection.reconnect past s := by
  obtain ⟨nonneg, le⟩ := ordered
  have limit := config.connection.reconnect.maxDelayMs.toInt_lt
  refine ⟨run.allStates fun past s reached => ?_, run.allSteps fun past s l s' before taken => ?_⟩
  · rw [run_exact ⟨nonneg, le⟩ never reached]
    exact ⟨le_backoff nonneg le _, backoff_le _⟩
  · have here := run_exact ⟨nonneg, le⟩ never before
    constructor
    · intro next taken decreases
      have there := run_exact ⟨nonneg, le⟩ never (before.snoc taken)
      cases step_delayStep (run_coherent before) taken with
      | reset resets delay config =>
        rw [run_connectionConfig before] at delay
        exact ⟨resets, delay⟩
      | scheduled keeps schedules delay at' config down state pc =>
        rw [here, there, backoffs_scheduled keeps schedules] at decreases
        exact absurd (backoff_mono nonneg (Nat.le_succ _)) (not_le_of_gt decreases)
      | kept keeps silent pace stays =>
        rw [show next.reconnectDelayMs = s.reconnectDelayMs from congrArg Prod.fst pace]
          at decreases
        exact absurd decreases (lt_irrefl _)
    · intro schedules
      have small := schedules_small ⟨nonneg, le⟩ never before here taken schedules
      have low := le_backoff nonneg le (backoffs past)
      rw [← exactDelay, ← here] at low
      constructor <;> omega

/-! ## Runs of failed attempts -/

/-- The thread is about to look for an attempt to make. -/
structure Looping (s : State) : Prop where
  pc : s.pc = .loopTest
  goesOn : s.stopRequested = false
  queue : s.commands = []
  down : s.connected = false

/-- The thread goes on to the attempt that is due. -/
theorem attempt_run (run : DriverRun config now past s) (looping : Looping s) {time : Int}
    (attempts : s.shouldAttemptReconnect time = true) :
    ∃ past', DriverRun config now past' { s with localCommands := [], pc := .connect } ∧
      backoffs past' = backoffs past := by
  obtain ⟨pc, goesOn, queue, down⟩ := looping
  have test : DriverRun config now _ { s with pc := .drain } :=
    run.snoc (l := .testStop) (by simp [step, driverStep, pc, goesOn])
  have swap : DriverRun config now _ { s with localCommands := [], pc := .commands } :=
    test.snoc (l := .swapCommands) (by simp [step, driverStep, queue])
  have done : DriverRun config now _ { s with localCommands := [], pc := .connectTest } :=
    swap.snoc (l := .commandsDone) (by simp [step, driverStep, down])
  have attempt : DriverRun config now _ { s with localCommands := [], pc := .connect } :=
    done.snoc (l := .testReconnect time)
      (by simpa [step, driverStep, shouldAttemptReconnect] using attempts)
  exact ⟨_, attempt, rfl⟩

/-- A driver that has just been started, with its first attempt due. -/
theorem started_run (config : RabbitMqBusConfig) (now : Int) :
    ∃ past s, DriverRun config now past s ∧ Looping s ∧ backoffs past = 0 ∧
      s.shouldAttemptReconnect now = true := by
  have first : DriverRun config now _ ((new config now).start now) :=
    Run.nil.snoc (l := .start now) rfl
  have entered : DriverRun config now _ { (new config now).start now with pc := .loopTest } :=
    first.snoc (l := .enter true) rfl
  refine ⟨_, _, entered, ⟨rfl, rfl, rfl, rfl⟩, rfl, ?_⟩
  cases enabled : config.connection.reconnect.enabled <;>
    simp [shouldAttemptReconnect, State.start, new, enabled]

/-- With reconnect, attempts can fail any number of times in a row. -/
theorem failures_run (enabled : config.connection.reconnect.enabled = true) (now : Int)
    (n : Nat) : ∃ past s, DriverRun config now past s ∧ Looping s ∧ backoffs past = n ∧
      s.shouldAttemptReconnect s.nextReconnectAt = true := by
  have due {past : List (State × Label)} {s : State} (run : DriverRun config now past s) :
      s.shouldAttemptReconnect s.nextReconnectAt = true := by
    rw [shouldAttemptReconnect, run_connectionConfig run, enabled]
    simp
  induction n with
  | zero =>
    obtain ⟨past, s, run, looping, none, -⟩ := started_run config now
    exact ⟨past, s, run, looping, none, due run⟩
  | succ n ih =>
    obtain ⟨past, s, run, looping, count, isDue⟩ := ih
    obtain ⟨past', attempt, same⟩ := attempt_run run looping isDue
    have failed := attempt.snoc
      (l := .connect (.failed ⟨.ioError, "Unable to connect to RabbitMQ broker"⟩)
        s.nextReconnectAt) rfl
    refine ⟨_, _, failed, ⟨rfl, looping.goesOn, looping.queue, looping.down⟩, ?_, due failed⟩
    rw [backoffs_scheduled rfl rfl, same, count]

/-- As long as no doubling has overflowed, the delay is exact. -/
theorem DelaySafe.exact (ordered : Ordered config.connection.reconnect)
    (run : DriverRun config now past s) (safe : DelaySafe config.connection.reconnect past s) :
    s.reconnectDelayMs.toInt = exactDelay config.connection.reconnect (backoffs past) := by
  refine run.invariant_past
    (fun past s => AllSteps (fun _ s l => BacksOff config.connection.reconnect s l) past →
      s.reconnectDelayMs.toInt = exactDelay config.connection.reconnect (backoffs past))
    (fun _ => (backoff_zero ordered.2).symm) (fun past s l s' before holds taken steps => ?_)
    safe.steps
  refine (step_delayStep (run_coherent before) taken).exact ordered
    (congrArg ConnectionConfig.reconnect (run_connectionConfig before)) (fun schedules => ?_)
    (holds steps.2)
  have product := (steps.1.product schedules).2
  omega

/-- The next attempt of a safe driver does not find a delay that it could not double. -/
theorem attempt_small (ordered : Ordered config.connection.reconnect)
    (safe : ∀ past s, DriverRun config now past s → DelaySafe config.connection.reconnect past s)
    (run : DriverRun config now past s) (looping : Looping s) {time : Int}
    (due : s.shouldAttemptReconnect time = true) :
    exactDelay config.connection.reconnect (backoffs past) < 2 ^ 30 := by
  obtain ⟨past', attempt, -⟩ := attempt_run run looping due
  have failed := attempt.snoc
    (l := .connect (.failed ⟨.ioError, "Unable to connect to RabbitMQ broker"⟩) time) rfl
  have product := ((safe _ _ failed).steps.1.product rfl).2
  have isExact := (safe _ _ run).exact ordered run
  have same : s.reconnectDelayMs.toInt * 2 < 2 ^ 31 := product
  omega

/-- In all runs of a driver the delay stays within its bounds, goes down only by being set back
and is doubled without overflow, exactly if the configuration keeps it small enough. -/
theorem delaySafe_iff (config : RabbitMqBusConfig) (now : Int)
    (ordered : Ordered config.connection.reconnect) :
    (∀ past s, DriverRun config now past s → DelaySafe config.connection.reconnect past s) ↔
      NeverOverflows config.connection.reconnect := by
  constructor
  · intro safe
    unfold NeverOverflows
    split
    · rename_i enabled
      by_contra grows
      rw [not_or, not_lt] at grows
      obtain ⟨past, s, run, looping, count, due⟩ := failures_run enabled now 30
      have small := attempt_small ordered safe run looping due
      rw [count] at small
      have positive : 0 < config.connection.reconnect.initialDelayMs.toInt := by
        refine lt_of_le_of_ne ordered.1 fun zero => grows.1 ?_
        exact Int32.toInt_inj.mp zero.symm
      exact absurd (pow_le_backoff positive grows.2) (not_le_of_gt small)
    · obtain ⟨past, s, run, looping, none, due⟩ := started_run config now
      have small := attempt_small ordered safe run looping due
      rwa [none, exactDelay, backoff_zero ordered.2] at small
  · intro never past s run
    exact run_delaySafe ordered never run

end State

end

namespace State

open PlainFields

theorem delaySafe_iff_worker :
    Ordered workerConfig.connection.reconnect ∧
      ∀ past s, DriverRun workerConfig 0 past s →
        DelaySafe workerConfig.connection.reconnect past s := by
  have ordered : Ordered workerConfig.connection.reconnect := ⟨by decide, by decide⟩
  exact ⟨ordered, (delaySafe_iff workerConfig 0 ordered).mpr (Or.inr (by decide))⟩

/-- The default initial delay without a practical maximum. -/
def unlimitedConfig : RabbitMqBusConfig :=
  { workerConfig with connection := ⟨"amqp://localhost/", 0, 100, ⟨true, 1000, 2147483647⟩⟩ }

/-- One attempt that fails. -/
def failedAttempt (now : Int) : List Label :=
  [.testStop, .swapCommands, .commandsDone, .testReconnect now,
    .connect (.failed ⟨.ioError, "Unable to connect to RabbitMQ broker"⟩) now]

/-- A broker that stays away for 22 attempts. -/
def brokerAway : List Label :=
  .start 0 :: .enter true :: (List.range 22).flatMap fun n => failedAttempt (n * 3000000000)

/-- The doubling after the 22nd attempt overflows, and the delay becomes negative. -/
theorem delay_overflows :
    ¬ ∀ (config : RabbitMqBusConfig) (now : Int), Ordered config.connection.reconnect →
      ∀ past s, DriverRun config now past s → DelaySafe config.connection.reconnect past s := by
  intro safe
  obtain ⟨past, s, executed, delay⟩ :
      ∃ past s, exec step brokerAway [] (new unlimitedConfig 0) = some (past, s) ∧
        s.reconnectDelayMs = -100663296 :=
    ⟨_, _, rfl, rfl⟩
  have bounded := (safe unlimitedConfig 0 ⟨by decide, by decide⟩ past s
    (run_of_exec .nil executed)).bounded.last
  rw [delay] at bounded
  exact absurd bounded.1 (by decide)

end State

end ModuleContext.RabbitMqBus.Driver
