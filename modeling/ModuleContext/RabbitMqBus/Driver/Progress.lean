import ModuleContext.RabbitMqBus.Driver.CallGuarantees
import ModuleContext.RabbitMqBus.Driver.SingleAttempt
import ModuleContext.RabbitMqBus.Driver.Turns

/-!
# Progress

What is said here needs no fairness: some step of the driver thread is possible until `Stop` can
join it, or a command is executed, and the number of these steps is bounded. The one exception
is a thread that waits for its own command.
-/

namespace ModuleContext.RabbitMqBus.Driver
open Foundation Misc

section

variable [AmqpFields]

namespace State

variable {s s' t : State} {config : RabbitMqBusConfig} {now : Int}
  {past later : List (State × Label)}

/-- The driver can be in this state. -/
def Reached (config : RabbitMqBusConfig) (now : Int) (s : State) : Prop :=
  ∃ past, DriverRun config now past s

theorem Reached.step {l : Label} (reached : Reached config now s) (taken : s.step l = some s') :
    Reached config now s' := by
  obtain ⟨past, run⟩ := reached
  exact ⟨_, run.snoc taken⟩

theorem Reached.coherent (reached : Reached config now s) : Coherent s := by
  obtain ⟨past, run⟩ := reached
  exact run_coherent run

theorem Reached.stopping (reached : Reached config now s) (joining : s.control = .joining) :
    s.stopRequested = true := by
  obtain ⟨past, run⟩ := reached
  apply run_stopping run
  rw [joining]
  nofun

theorem Reached.turn {l : Label} (reached : Reached config now s) (taken : s.step l = some s') :
    TurnStep s l s' := by
  obtain ⟨past, run⟩ := reached
  apply step_turn _ taken
  intro pending waits
  exact (run_balanced run).queued_unanswered (run_waiting run waits)

/-- A driver that has been started has a thread. -/
theorem Reached.entered (reached : Reached config now s) (joinable : s.threadJoinable = true) :
    s.pc ≠ .idle := by
  obtain ⟨past, run⟩ := reached
  refine run.invariant_past (fun _ s => s.threadJoinable = true → s.pc ≠ .idle)
    (fun joinable => absurd joinable Bool.false_ne_true)
    (fun past s l s' before holds taken joinable there => ?_) joinable
  cases Reached.turn ⟨past, before⟩ taken with
  | started fresh pc => exact absurd (pc.symm.trans there) nofun
  | elsewhere other place inbound running =>
    rcases place with same | ⟨-, pending, waits⟩
    · exact holds (running joinable) (same.symm.trans there)
    · exact absurd (waits.symm.trans there) nofun
  | begins pc pc' inbound =>
    rw [there] at pc'
    split at pc' <;> cases pc'
  | swaps pc pc' batch queue inbound => exact absurd (pc'.symm.trans there) nofun
  | within turn swaps notHead notDrain moving less entered outside final batch =>
    exact entered there

/-- The driver thread can take a step, unless it has returned or waits for itself. -/
theorem turn_enabled (entered : s.pc ≠ .idle) (running : s.pc ≠ .returned) (moving : s.Moving) :
    ∃ l, l.isTurnStep = true ∧ (s.step l).isSome = true := by
  cases pc : s.pc with
  | idle => exact absurd pc entered
  | returned => exact absurd pc running
  | waiting pending => exact absurd pc (moving pending)
  | entry => exact ⟨.enter true, rfl, by simp [step, driverStep, pc]⟩
  | loopTest => exact ⟨.testStop, rfl, by simp [step, driverStep, pc]⟩
  | drain => exact ⟨.swapCommands, rfl, by simp [step, driverStep, pc]⟩
  | commands =>
    cases queued : s.localCommands with
    | nil => exact ⟨.commandsDone, rfl, by simp [step, driverStep, pc, queued]⟩
    | cons command rest =>
      exact ⟨.runCommand ⟨false, []⟩ [], rfl, by simp [step, driverStep, pc, queued]⟩
  | connectTest => exact ⟨.testReconnect 0, rfl, by simp [step, driverStep, pc]⟩
  | connect =>
    exact ⟨.connect (.failed ⟨.operationFailed, ""⟩) 0, rfl, by simp [step, driverStep, pc]⟩
  | flushBefore => exact ⟨.flush [], rfl, by simp [step, driverStep, pc]⟩
  | pump => exact ⟨.poll .notReadable, rfl, by simp [step, driverStep, pc, PollOutcome.isPossible]⟩
  | parsing => exact ⟨.parsed 0, rfl, by simp [step, driverStep, pc]⟩
  | flushAfter => exact ⟨.flush [], rfl, by simp [step, driverStep, pc]⟩
  | heartbeat => exact ⟨.heartbeat 0 [], rfl, by simp [step, driverStep, pc]⟩
  | turnEnd =>
    refine ⟨.endTurn 0 [], rfl, ?_⟩
    simp only [step, driverStep, pc]
    split <;> rfl
  | finalDisconnect => exact ⟨.finalDisconnect 0, rfl, by simp [step, driverStep, pc]⟩

/-! ## Stopping -/

/-- At most this many steps of the driver thread are left until it returns, once a stop has
been requested. -/
def stepsToReturn (s : State) : Nat :=
  match s.pc with
  | .idle | .returned => 0
  | .finalDisconnect => 1
  | _ => 2 + s.restOfTurn

theorem stepsToReturn_le (s : State) :
    s.stepsToReturn ≤
      8202 + s.inbound.length + s.localCommands.length + s.commands.length := by
  unfold stepsToReturn
  split
  · omega
  · omega
  · omega
  · unfold restOfTurn
    split <;> omega

/-- A thread that has more to do than to return is in a turn. -/
theorem stepsToReturn_turn (running : s.pc ≠ .returned) (entered : s.pc ≠ .idle)
    (notFinal : s.pc ≠ .finalDisconnect) : s.stepsToReturn = 2 + s.restOfTurn := by
  unfold stepsToReturn
  split
  · contradiction
  · contradiction
  · contradiction
  · rfl

theorem stepsToReturn_returned (returned : s.pc = .returned) : s.stepsToReturn = 0 := by
  simp only [stepsToReturn, returned]

/-- The steps of other threads leave the turn as it is, but for new commands before the swap. -/
theorem restOfTurn_elsewhere {l : Label} (taken : s.step l = some s')
    (other : l.isTurnStep = false)
    (place : s'.pc = s.pc ∨ s.pc = .parsing ∧ ∃ pending, s'.pc = .waiting pending)
    (inbound : s'.inbound = s.inbound)
    (nothing : s.pc = .drain → s.accept (s.submission l) = []) :
    s'.restOfTurn = s.restOfTurn := by
  have queues := step_queues taken (by rintro rfl; cases other)
  have idle : s.executes l = none := by cases l <;> first | rfl | cases other
  have batch := queues.batch
  rw [idle, Option.toList_none, List.nil_append] at batch
  rcases place with same | ⟨pc, pending, waits⟩
  · by_cases pc : s.pc = .drain
    · have commands := queues.commands
      rw [nothing pc, List.append_nil] at commands
      simp only [restOfTurn, same, inbound, batch, commands]
    · unfold restOfTurn
      rw [same, inbound, batch]
      split <;> first | rfl | contradiction
  · simp only [restOfTurn, pc, waits, inbound]

theorem accept_stopping (stopping : s.stopRequested = true) (body : Option CommandBody) :
    s.accept body = [] := by
  rw [accept, if_neg]
  simp [accepts, stopping]

theorem stepsToReturn_within (s : State) : s.stepsToReturn ≤ 2 + s.restOfTurn := by
  unfold stepsToReturn
  split <;> omega

/-- A turn that has been going on ends with the return of the thread. -/
theorem stepsToReturn_lt (less : s'.restOfTurn < s.restOfTurn)
    (final : s.pc = .finalDisconnect → s'.pc = .returned) :
    s'.stepsToReturn < s.stepsToReturn := by
  have bound := stepsToReturn_within s'
  by_cases last : s.pc = .finalDisconnect
  · rw [stepsToReturn_returned (final last)]
    simp only [stepsToReturn, last]
    omega
  · have running : s.pc ≠ .returned := by
      intro there
      simp only [restOfTurn, there, Nat.not_lt_zero] at less
    have entered : s.pc ≠ .idle := by
      intro there
      simp only [restOfTurn, there, Nat.not_lt_zero] at less
    rw [stepsToReturn_turn running entered last]
    omega

/-- While `Stop` waits, every step of the driver thread brings it nearer to its return. -/
theorem TurnStep.stopping {l : Label} (turnStep : TurnStep s l s')
    (stopping : s.stopRequested = true) (joining : s.control = .joining)
    (taken : s.step l = some s') :
    (l.isTurnStep = true → s'.stepsToReturn < s.stepsToReturn) ∧
      (l.isTurnStep = false → s'.stepsToReturn ≤ s.stepsToReturn) := by
  cases turnStep with
  | started fresh pc =>
    rw [step, joining] at taken
    cases taken
  | elsewhere other place inbound joinable =>
    refine ⟨fun turn => absurd (other.symm.trans turn) Bool.false_ne_true, fun _ => ?_⟩
    have same := restOfTurn_elsewhere taken other place inbound fun _ =>
      accept_stopping stopping _
    rcases place with stays | ⟨pc, pending, waits⟩
    · simp only [stepsToReturn, stays, same, le_refl]
    · simp only [stepsToReturn, pc, waits, same, le_refl]
  | begins pc pc' inbound =>
    refine ⟨fun _ => ?_, fun other => by cases other⟩
    rw [stopping] at pc'
    simp only [stepsToReturn, pc, pc', if_pos]
    omega
  | swaps pc pc' batch queue inbound =>
    refine ⟨fun _ => ?_, fun other => by cases other⟩
    simp only [stepsToReturn, restOfTurn, pc, pc', batch, inbound]
    omega
  | within turn swaps notHead notDrain moving less entered outside final batch =>
    refine ⟨fun _ => stepsToReturn_lt less final, fun other => ?_⟩
    exact absurd (other.symm.trans turn) Bool.false_ne_true

theorem ranks_stopping (config : RabbitMqBusConfig) (now : Int) :
    Ranks step (fun s => Reached config now s ∧ s.control = .joining) Label.isTurnStep
      stepsToReturn := by
  have nearer (s : State) (l : Label) (s' : State)
      (inside : Reached config now s ∧ s.control = .joining) (taken : s.step l = some s') :=
    (inside.1.turn taken).stopping (inside.1.stopping inside.2) inside.2 taken
  exact ⟨fun s l s' inside _ taken => (nearer s l s' inside taken).1,
    fun s l s' inside _ taken => (nearer s l s' inside taken).2⟩

/-- A thread that waits for itself takes no step any more. -/
theorem ranks_waiting (config : RabbitMqBusConfig) (now : Int) (pending : Nat) :
    Ranks step (fun s => Reached config now s ∧ s.pc = .waiting pending) Label.isTurnStep
      fun _ => 0 := by
  refine ⟨?_, fun _ _ _ _ _ _ _ => le_refl 0⟩
  rintro s l s' ⟨reached, waits⟩ - taken turn
  cases reached.turn taken with
  | started fresh pc => cases turn
  | elsewhere other place inbound joinable =>
    exact absurd (other.symm.trans turn) Bool.false_ne_true
  | begins pc pc' inbound => exact absurd (pc.symm.trans waits) nofun
  | swaps pc pc' batch queue inbound => exact absurd (pc.symm.trans waits) nofun
  | within turn swaps notHead notDrain moving less entered outside final batch =>
    exact absurd waits (moving pending)

/-- What happens while `Stop` waits for the driver thread, from `s` on. -/
structure StopEnds (s : State) (later : List (State × Label)) (t : State) : Prop where
  /-- The thread takes so many steps at most, besides the callbacks that the library makes. -/
  bounded : countSteps Label.isTurnStep later + t.stepsToReturn ≤ s.stepsToReturn
  start : s.stepsToReturn ≤
    8202 + s.inbound.length + s.localCommands.length + s.commands.length
  /-- It can go on until it has returned and can be joined, unless it waits for itself. -/
  goesOn : t.Moving → (t.step .stopJoin).isSome = true ∨
    ∃ l, l.isTurnStep = true ∧ (t.step l).isSome = true
  /-- A thread that waits for itself is never joined. -/
  stuck : ¬ t.Moving → ∀ after u, Run step t after u →
    u.step .stopJoin = none ∧ countSteps Label.isTurnStep after = 0

/-- A thread that waits for itself cannot be joined. -/
theorem join_waiting (coherent : Coherent s) {pending : Nat} (waits : s.pc = .waiting pending) :
    s.step .stopJoin = none := by
  rw [← Option.not_isSome_iff_eq_none, Option.isSome_iff_exists]
  rintro ⟨s', taken⟩
  cases step_cases taken with
  | stopJoin joining ended =>
    cases running : s.threadJoinable with
    | true => exact absurd (waits.symm.trans (ended running)) nofun
    | false =>
      rcases coherent.joinable running with there | there
      · exact absurd (waits.symm.trans there) nofun
      · exact absurd (waits.symm.trans there) nofun

/-- `Stop` waits for a bounded number of steps of the driver thread, whatever the network, the
callers and the clock do, unless the thread waits for its own command: then it waits forever. -/
theorem stop_ends (config : RabbitMqBusConfig) (now : Int) (past later : List (State × Label))
    (s t : State) (run : DriverRun config now past s) (goesOn : Run step s later t)
    (joining : AllStates (fun s => s.control = .joining) later t) : StopEnds s later t := by
  have stays : AllStates (Reached config now) later t :=
    goesOn.staysIn ⟨past, run⟩ fun s l s' reached taken => reached.step taken
  have reached : Reached config now t := stays.last
  refine ⟨(ranks_stopping config now).bounds goesOn (stays.and joining), stepsToReturn_le s, ?_, ?_⟩
  · intro moving
    by_cases ended : t.threadJoinable = true → t.pc = .returned
    · left
      rw [step, if_pos ⟨joining.last, ended⟩]
      rfl
    · right
      rw [Classical.not_imp] at ended
      exact turn_enabled (reached.entered ended.1) ended.2 moving
  · intro stuck after u continued
    obtain ⟨pending, waits⟩ : ∃ pending, t.pc = .waiting pending := by
      simpa only [Moving, not_forall, not_not] using stuck
    have forever : AllStates (fun s => Reached config now s ∧ s.pc = .waiting pending) after u := by
      refine continued.allStates fun later u continued => ?_
      obtain ⟨before, reachedT⟩ := reached
      exact ⟨⟨_, reachedT.append continued⟩, waiting_forever reachedT waits continued⟩
    refine ⟨join_waiting forever.last.1.coherent forever.last.2, ?_⟩
    exact Nat.le_zero.mp ((ranks_waiting config now pending).bounds continued forever)

end State

end

namespace State

open PlainFields

/-- The driver is stopped while its connection is up. -/
def stopWhileUp : List Label := bringUp ++ [.parsed 1, .flush [], .stopRequest]

theorem stop_ends_stopWhileUp :
    ∃ past s later t, exec step stopWhileUp [] (new workerConfig 0) = some (past, s) ∧
      exec step [.heartbeat 0 [], .endTurn 0 [], .testStop, .finalDisconnect 0] [] s =
        some (later, t) ∧
      countSteps Label.isTurnStep later = 4 ∧ s.stepsToReturn = 4 ∧ StopEnds s later t := by
  obtain ⟨past, s, later, t, before, after, count, bound, joining⟩ :
      ∃ past s later t, exec step stopWhileUp [] (new workerConfig 0) = some (past, s) ∧
        exec step [.heartbeat 0 [], .endTurn 0 [], .testStop, .finalDisconnect 0] [] s =
          some (later, t) ∧
        countSteps Label.isTurnStep later = 4 ∧ s.stepsToReturn = 4 ∧
        AllStates (fun s => s.control = .joining) later t :=
    ⟨_, _, _, _, rfl, rfl, rfl, rfl, by decide⟩
  exact ⟨past, s, later, t, before, after, count, bound,
    stop_ends workerConfig 0 past later s t (run_of_exec .nil before) (run_of_exec .nil after)
      joining⟩

end State

section

variable [AmqpFields]

namespace State

variable {s s' t : State} {config : RabbitMqBusConfig} {now : Int}
  {past later : List (State × Label)}

/-! ## Executing commands -/

/-- The number of commands executed so far. -/
def executedCount (s : State) : Nat := s.nextPending - (s.localCommands.length + s.commands.length)

theorem executed_length (run : DriverRun config now past s) :
    (executed past).length + (s.localCommands.length + s.commands.length) = s.nextPending := by
  have numbered := congrArg List.length (run_numbered run)
  rw [List.length_map, List.length_range, ← run_commands run, List.length_append,
    List.length_append] at numbered
  exact numbered

theorem executedCount_eq (run : DriverRun config now past s) :
    s.executedCount = (executed past).length := by
  have lengths := executed_length run
  unfold executedCount
  omega

/-- The commands executed are the first ones. -/
theorem executed_mem_iff (run : DriverRun config now past s) (number : Nat) :
    (∃ command ∈ executed past, command.pending = number) ↔ number < s.executedCount := by
  have initial : (executed past).map (·.pending) <+: List.range s.nextPending := by
    rw [← run_numbered run, ← run_commands run, List.map_append]
    exact List.prefix_append _ _
  have lengths := executed_length run
  have numbered := List.prefix_iff_eq_take.mp initial
  rw [List.take_range, List.length_map, Nat.min_eq_left (by omega)] at numbered
  rw [← List.mem_map, numbered, List.mem_range, executedCount_eq run]

/-- At most this many steps of the driver thread are left until the command with this number is
executed. -/
def stepsUntil (number : Nat) (s : State) : Nat :=
  let ahead := number + 1 - s.executedCount
  match s.pc with
  | .drain => 1 + ahead
  | .commands =>
      if ahead ≤ s.localCommands.length then ahead else s.restOfTurn + 2 + ahead
  | _ => s.restOfTurn + 2 + ahead

theorem Reached.counted (reached : Reached config now s) :
    s.executedCount + (s.localCommands.length + s.commands.length) = s.nextPending := by
  obtain ⟨past, run⟩ := reached
  rw [executedCount_eq run]
  exact executed_length run

/-- What a step executes is counted. -/
theorem executedCount_step {l : Label} (reached : Reached config now s)
    (taken : s.step l = some s') :
    s'.executedCount = s.executedCount + (s.executes l).toList.length := by
  obtain ⟨past, run⟩ := reached
  rw [executedCount_eq run, executedCount_eq (run.snoc taken), executed, List.length_append]

/-- In the middle of a turn, the command is executed in the batch of the next turn. -/
theorem stepsUntil_turn {number : Nat} (notDrain : s.pc ≠ .drain)
    (later : s.pc = .commands → s.localCommands.length < number + 1 - s.executedCount) :
    s.stepsUntil number = s.restOfTurn + 2 + (number + 1 - s.executedCount) := by
  unfold stepsUntil
  dsimp only
  split
  · contradiction
  · rename_i pc
    rw [if_neg (Nat.not_le.mpr (later pc))]
  · rfl

theorem stepsUntil_le_turn (number : Nat) (s : State) (notDrain : s.pc ≠ .drain) :
    s.stepsUntil number ≤ s.restOfTurn + 2 + (number + 1 - s.executedCount) := by
  unfold stepsUntil
  dsimp only
  split
  · contradiction
  · split <;> omega
  · exact le_refl _

/-- A step of the thread in the batch executes a command of it, or the batch is empty. -/
theorem batch_step {l : Label} (pc : s.pc = .commands) (turn : l.isTurnStep = true)
    (taken : s.step l = some s') :
    (∃ command, s.executes l = some command ∧ s'.pc = .commands) ∨ s.localCommands = [] := by
  cases l with
  | runCommand answer sends =>
    cases step_cases taken with
    | @runCommand _ _ command rest pc queued =>
      left
      have turn := sameTurn_runCommand command answer sends { s with localCommands := rest }
      exact ⟨command, by rw [executes, queued]; rfl, turn.pc.trans pc⟩
  | commandsDone =>
    cases step_cases taken with
    | commandsDone pc none up => exact Or.inr none
    | commandsDoneDown pc none down => exact Or.inr none
  | _ => simp [step, driverStep, pc, Label.isTurnStep] at taken turn

/-- Until the command is executed, every step of the thread brings it nearer to it. -/
theorem TurnStep.until {l : Label} {number : Nat} (turnStep : TurnStep s l s')
    (reached : Reached config now s) (running : s.threadJoinable = true)
    (goesOn : s.stopRequested = false) (accepted : number < s.nextPending)
    (open' : s.executedCount ≤ number) (taken : s.step l = some s') :
    (l.isTurnStep = true → s'.stepsUntil number < s.stepsUntil number) ∧
      (l.isTurnStep = false → s'.stepsUntil number ≤ s.stepsUntil number) := by
  have counts := executedCount_step reached taken
  have counted := reached.counted
  have place := reached.coherent.place
  cases turnStep with
  | started fresh pc => exact absurd (fresh.symm.trans running) Bool.false_ne_true
  | elsewhere other place inbound joinable =>
    refine ⟨fun turn => absurd (other.symm.trans turn) Bool.false_ne_true, fun _ => ?_⟩
    have idle : s.executes l = none := by cases l <;> first | rfl | cases other
    have queues := step_queues taken (by rintro rfl; cases other)
    have batch := queues.batch
    rw [idle] at counts batch
    rw [Option.toList_none, List.nil_append] at batch
    rw [Option.toList_none, List.length_nil, Nat.add_zero] at counts
    by_cases pc : s.pc = .drain
    · rcases place with stays | ⟨parsing, -⟩
      · simp only [stepsUntil, stays, pc, counts, le_refl]
      · exact absurd (pc.symm.trans parsing) nofun
    · have same := restOfTurn_elsewhere taken other place inbound fun drain => absurd drain pc
      rcases place with stays | ⟨parsing, pending, waits⟩
      · simp only [stepsUntil, stays, counts, same, batch, le_refl]
      · simp only [stepsUntil, parsing, waits, counts, same, le_refl]
  | begins pc pc' inbound =>
    refine ⟨fun _ => ?_, fun other => by cases other⟩
    rw [goesOn] at pc'
    simp only [executes, Option.toList_none, List.length_nil, Nat.add_zero] at counts
    simp only [stepsUntil, restOfTurn, pc, pc', counts]
    simp only [Bool.false_eq_true, if_false]
    omega
  | swaps pc pc' batch queue inbound =>
    refine ⟨fun _ => ?_, fun other => by cases other⟩
    rw [pc] at place
    rw [place.2, List.length_nil] at counted
    simp only [executes, Option.toList_none, List.length_nil, Nat.add_zero] at counts
    simp only [stepsUntil, pc, pc', counts, batch]
    rw [if_pos (by omega)]
    omega
  | within turn swaps notHead notDrain moving less entered outside final stays =>
    refine ⟨fun _ => ?_, fun other => absurd (other.symm.trans turn) Bool.false_ne_true⟩
    have after := stepsUntil_le_turn number s' outside
    by_cases inBatch : s.pc = .commands ∧ number + 1 - s.executedCount ≤ s.localCommands.length
    · obtain ⟨pc, near⟩ := inBatch
      rcases batch_step pc turn taken with ⟨command, executes, pc'⟩ | empty
      · have batch := congrArg List.length (step_queues taken swaps).batch
        rw [executes, Option.toList_some, List.length_append, List.length_singleton] at batch
        rw [executes, Option.toList_some, List.length_singleton] at counts
        simp only [stepsUntil, pc, pc', if_pos near, counts]
        rw [if_pos (by omega)]
        omega
      · rw [empty, List.length_nil] at near
        omega
    · rw [stepsUntil_turn notDrain fun pc => by
        by_contra near
        exact inBatch ⟨pc, Nat.not_lt.mp near⟩]
      omega

/-- The driver runs, and the command with this number is accepted and not executed yet. -/
structure Queued (config : RabbitMqBusConfig) (now : Int) (number : Nat) (s : State) : Prop where
  reached : Reached config now s
  running : s.threadJoinable = true
  goesOn : s.stopRequested = false
  accepted : number < s.nextPending
  waits : s.executedCount ≤ number

theorem ranks_queued (config : RabbitMqBusConfig) (now : Int) (number : Nat) :
    Ranks step (Queued config now number) Label.isTurnStep (stepsUntil number) := by
  have nearer (s : State) (l : Label) (s' : State) (queued : Queued config now number s)
      (taken : s.step l = some s') :=
    (queued.reached.turn taken).until queued.reached queued.running queued.goesOn queued.accepted
      queued.waits taken
  exact ⟨fun s l s' queued _ taken => (nearer s l s' queued taken).1,
    fun s l s' queued _ taken => (nearer s l s' queued taken).2⟩

/-- A command that is not executed at the end of a run was not executed before. -/
theorem queued_before (run : DriverRun config now past s) (goesOn : Run step s later t)
    (running : AllStates (fun s => s.stopRequested = false ∧ s.threadJoinable = true) later t)
    {number : Nat} (accepted : number < s.nextPending) (waits : t.executedCount ≤ number) :
    AllStates (Queued config now number) later t := by
  induction goesOn with
  | nil => exact ⟨⟨past, run⟩, running.2, running.1, accepted, waits⟩
  | @snoc later before t l earlier taken ih =>
    have reached : Reached config now before := ⟨_, run.append earlier⟩
    have counts := executedCount_step reached taken
    have all := ih running.2 (by omega)
    refine ⟨⟨reached.step taken, running.1.2, running.1.1, ?_, waits⟩, all⟩
    have accepted := all.last.accepted
    have grows := nextPending_step taken
    omega

theorem stepsUntil_le {number : Nat} (reached : Reached config now s)
    (accepted : number < s.nextPending) :
    s.stepsUntil number ≤
      8202 + s.inbound.length + 2 * (s.localCommands.length + s.commands.length) := by
  have counted := reached.counted
  have rest : s.restOfTurn ≤
      8200 + s.inbound.length + s.localCommands.length + s.commands.length := by
    unfold restOfTurn
    split <;> omega
  unfold stepsUntil
  dsimp only
  split
  · omega
  · split <;> omega
  · omega

/-- What becomes of an accepted command while the driver runs on from `s` and is not stopped. -/
structure ExecutedInTime (number : Nat) (past : List (State × Label)) (s : State)
    (later : List (State × Label)) (t : State) : Prop where
  /-- After so many steps of the driver thread it has been executed and, unless it is a declaration
  that the broker has to answer, its caller has a result. -/
  enough : s.stepsUntil number ≤ countSteps Label.isTurnStep later →
    ∃ command ∈ executed (later ++ past), command.pending = number ∧
      (command.body.isDeclare = false → (t.resultOf number).isSome = true)
  start : s.stepsUntil number ≤
    8202 + s.inbound.length + 2 * (s.localCommands.length + s.commands.length)
  /-- The thread can take these steps, unless it waits for itself, or could not be initialised. -/
  goesOn : t.Moving → t.pc ≠ .returned → ∃ l, l.isTurnStep = true ∧ (t.step l).isSome = true

/-- Every accepted command is executed within a bounded number of steps of the driver thread,
however many commands, callbacks and failures come in between. -/
theorem commands_in_time (config : RabbitMqBusConfig) (now : Int)
    (past later : List (State × Label)) (s t : State) (number : Nat)
    (run : DriverRun config now past s) (goesOn : Run step s later t)
    (running : AllStates (fun s => s.stopRequested = false ∧ s.threadJoinable = true) later t)
    (accepted : number < s.nextPending) : ExecutedInTime number past s later t := by
  have whole := run.append goesOn
  refine ⟨?_, stepsUntil_le ⟨past, run⟩ accepted, ?_⟩
  · intro enough
    have done : number < t.executedCount := by
      by_contra waits
      rw [Nat.not_lt] at waits
      have bound := (ranks_queued config now number).bounds goesOn
        (queued_before run goesOn running accepted waits)
      -- the command itself is still to be executed
      have left : 0 < t.stepsUntil number := by
        unfold stepsUntil
        dsimp only
        split
        · omega
        · split <;> omega
        · omega
      omega
    obtain ⟨command, member, rfl⟩ := (executed_mem_iff whole number).mpr done
    exact ⟨command, member, rfl, (run_framesMatch whole).answered command member⟩
  · intro moving ended
    have reached : Reached config now t := ⟨_, whole⟩
    exact turn_enabled (reached.entered running.last.2) ended moving

end State

end

namespace State

open PlainFields

/-- A publish command is queued while the connection is up, in the middle of a turn. -/
def publishWhileUp : List Label := bringUp ++ [.call (.publish pingRequest)]

theorem commands_in_time_publishWhileUp :
    ∃ past s later t, exec step publishWhileUp [] (new workerConfig 0) = some (past, s) ∧
      exec step [.parsed 1, .flush [], .heartbeat 0 [], .endTurn 0 [], .testStop, .swapCommands,
        .runCommand ⟨true, [1]⟩ [], .commandsDone] [] s = some (later, t) ∧
      s.stepsUntil 0 = 8 ∧ countSteps Label.isTurnStep later = 8 ∧
      ExecutedInTime 0 past s later t ∧
      ∃ command ∈ executed (later ++ past), command.pending = 0 ∧
        (command.body.isDeclare = false → (t.resultOf 0).isSome = true) := by
  obtain ⟨past, s, later, t, before, after, bound, count, accepted, running⟩ :
      ∃ past s later t, exec step publishWhileUp [] (new workerConfig 0) = some (past, s) ∧
        exec step [.parsed 1, .flush [], .heartbeat 0 [], .endTurn 0 [], .testStop, .swapCommands,
          .runCommand ⟨true, [1]⟩ [], .commandsDone] [] s = some (later, t) ∧
        s.stepsUntil 0 = 8 ∧ countSteps Label.isTurnStep later = 8 ∧ 0 < s.nextPending ∧
        AllStates (fun s => s.stopRequested = false ∧ s.threadJoinable = true) later t :=
    ⟨_, _, _, _, rfl, rfl, rfl, rfl, by decide, by decide⟩
  have inTime := commands_in_time workerConfig 0 past later s t 0 (run_of_exec .nil before)
    (run_of_exec .nil after) running accepted
  exact ⟨past, s, later, t, before, after, bound, count,
    inTime, inTime.enough (by rw [bound, count])⟩

end State

end ModuleContext.RabbitMqBus.Driver
