import ModuleContext.Misc.Ranking
import ModuleContext.RabbitMqBus.Driver.InboundStream
import ModuleContext.RabbitMqBus.Driver.SelfWait

/-!
# Turns of the driver thread

A turn of `ThreadMain` is finite: it executes one batch of commands and reads at most one
buffer of bytes, and what remains to be done of it gets less with every step that the thread
takes. The exceptions are the callbacks that the AMQP library makes while it parses, whose
number is up to the library.
-/

namespace ModuleContext.RabbitMqBus.Driver
open Foundation Misc

variable [AmqpFields]

/-- A step of the driver thread that is not a callback made by `parse`. -/
def Label.isTurnStep : Label → Bool
  | .enter _ | .testStop | .swapCommands | .runCommand _ _ | .commandsDone | .testReconnect _
  | .connect _ _ | .flush _ | .poll _ | .parsed _ | .heartbeat _ _ | .endTurn _ _
  | .finalDisconnect _ | .waitOver => true
  | _ => false

namespace State

/-- At most this many steps are left until the driver thread is at the head of its loop. A call
of `recv` adds at most 8192 bytes to what has to be parsed. -/
def restOfTurn (s : State) : Nat :=
  match s.pc with
  | .idle | .returned | .loopTest => 0
  | .finalDisconnect | .entry | .connect | .turnEnd => 1
  | .connectTest | .heartbeat => 2
  | .flushAfter => 3
  | .parsing | .waiting _ => 4 + s.inbound.length
  | .pump => 5 + s.inbound.length + 8192
  | .flushBefore => 6 + s.inbound.length + 8192
  | .commands => 7 + s.inbound.length + 8192 + s.localCommands.length
  | .drain => 8 + s.inbound.length + 8192 + s.commands.length

/-- What a step does to the turn of the driver thread. -/
inductive TurnStep (s : State) : Label → State → Prop where
  | started {now : Int} {s' : State} : s.threadJoinable = false → s'.pc = .entry →
      TurnStep s (.start now) s'
  | elsewhere {l : Label} {s' : State} : l.isTurnStep = false →
      (s'.pc = s.pc ∨ s.pc = .parsing ∧ ∃ pending, s'.pc = .waiting pending) →
      s'.inbound = s.inbound → (s'.threadJoinable = true → s.threadJoinable = true) →
      TurnStep s l s'
  | begins {s' : State} : s.pc = .loopTest →
      s'.pc = (if s.stopRequested then .finalDisconnect else .drain) →
      s'.inbound = s.inbound → TurnStep s .testStop s'
  | swaps {s' : State} : s.pc = .drain → s'.pc = .commands → s'.localCommands = s.commands →
      s'.commands = [] → s'.inbound = s.inbound → TurnStep s .swapCommands s'
  | within {l : Label} {s' : State} : l.isTurnStep = true → l ≠ .swapCommands → s.pc ≠ .loopTest →
      s.pc ≠ .drain → s.Moving → s'.restOfTurn < s.restOfTurn → s'.pc ≠ .idle → s'.pc ≠ .drain →
      (s.pc = .finalDisconnect → s'.pc = .returned) → (s'.pc = .commands → s.pc = .commands) →
      TurnStep s l s'

variable {s s' : State}

theorem restOfTurn_commands (pc : s.pc = .commands) :
    s.restOfTurn = 7 + s.inbound.length + 8192 + s.localCommands.length := by
  simp only [restOfTurn, pc]

theorem pollSocket_restOfTurn {outcome : PollOutcome} (pc : s.pc = .pump)
    (possible : outcome.isPossible = true) :
    (s.pollSocket outcome).restOfTurn < s.restOfTurn := by
  have here : s.restOfTurn = 5 + s.inbound.length + 8192 := by simp only [restOfTurn, pc]
  cases outcome with
  | received data =>
    simp only [PollOutcome.isPossible, Bool.and_eq_true, decide_eq_true_eq] at possible
    simp only [pollSocket, restOfTurn, List.length_append, pc]
    omega
  | _ =>
    simp only [pollSocket, restOfTurn, pc]
    omega

theorem parsed_restOfTurn {count : Nat} (taken : s.step (.parsed count) = some s') :
    s.pc = .parsing ∧ s'.restOfTurn < s.restOfTurn ∧ (s'.pc = .flushAfter ∨ s'.pc = .parsing) := by
  obtain ⟨pc, bounded, rfl⟩ := parsed_cases taken
  refine ⟨pc, ?_, ?_⟩
  · by_cases ends : (count = 0 || (s.inbound.drop count).isEmpty) = true
    · simp only [restOfTurn, pc, if_pos ends]
      omega
    · simp only [restOfTurn, pc, if_neg ends, List.length_drop]
      simp only [Bool.or_eq_true, decide_eq_true_eq, not_or] at ends
      omega
  · dsimp only
    split
    · exact Or.inl rfl
    · exact Or.inr rfl

/-- Every step of the thread brings its turn nearer to the end, or begins a new one. A thread
that waits for a result that is not set takes no step. -/
theorem step_turn {l : Label} (unanswered : ∀ pending, s.pc = .waiting pending →
    pending ∉ s.completed.map (·.1)) (taken : s.step l = some s') : TurnStep s l s' := by
  have same {l : Label} {next : State} (other : l.isTurnStep = false) (pc : next.pc = s.pc)
      (inbound : next.inbound = s.inbound) (joinable : next.threadJoinable = s.threadJoinable) :
      TurnStep s l next :=
    .elsewhere other (Or.inl pc) inbound fun running => joinable ▸ running
  have within {l : Label} {next : State} {here there : DriverPc} (turn : l.isTurnStep = true)
      (swaps : l ≠ .swapCommands) (pc : s.pc = here) (pc' : next.pc = there)
      (inside : here ≠ .loopTest ∧ here ≠ .drain ∧ ∀ pending, here ≠ .waiting pending)
      (entered : there ≠ .idle) (outside : there ≠ .drain)
      (final : here = .finalDisconnect → there = .returned)
      (batch : there = .commands → here = .commands)
      (less : next.restOfTurn < s.restOfTurn) : TurnStep s l next := by
    subst pc pc'
    exact .within turn swaps inside.1 inside.2.1 inside.2.2 less entered outside final batch
  cases step_cases taken with
  | startRefused joinable => exact same rfl rfl rfl rfl
  | start idle fresh => exact .started fresh rfl
  | stopRequest idle => exact same rfl rfl rfl rfl
  | stopJoin joining ended => exact .elsewhere rfl (Or.inl rfl) rfl nofun
  | stopFinish finishing => exact same rfl rfl rfl rfl
  | callAnswered checked => exact same rfl rfl rfl rfl
  | @callQueued call body checked =>
    have turn := sameTurn_enqueueCommand body s
    exact same rfl turn.pc ((untouched_enqueueCommand body s).same State.inbound fun _ => rfl)
      turn.joinable
  | registerHandler => exact same rfl rfl rfl rfl
  | unregisterHandler => exact same rfl rfl rfl rfl
  | @finishTask index outcome task found =>
    have turn := sameTurn_finishTask task outcome { s with tasks := s.tasks.eraseIdx index }
    exact same rfl turn.pc ((untouched_finishTask task outcome _).same State.inbound fun _ => rfl)
      turn.joinable
  | entered pc =>
    refine within rfl nofun pc rfl ⟨nofun, nofun, nofun⟩ nofun nofun nofun nofun ?_
    simp only [restOfTurn, pc]
    omega
  | entryFailed pc =>
    refine within rfl nofun pc rfl ⟨nofun, nofun, nofun⟩ nofun nofun nofun nofun ?_
    simp only [restOfTurn, pc]
    omega
  | stopSeen pc stop => exact .begins pc (by rw [stop]; rfl) rfl
  | goOn pc goOn => exact .begins pc (by rw [goOn]; rfl) rfl
  | swapCommands pc => exact .swaps pc rfl rfl rfl rfl
  | @runCommand answer sends command rest pc queued =>
    have turn := sameTurn_runCommand command answer sends { s with localCommands := rest }
    have inbound := (untouched_runCommand command answer sends
      { s with localCommands := rest }).same State.inbound fun _ => rfl
    have pc' := turn.pc.trans pc
    refine within rfl nofun pc pc' ⟨nofun, nofun, nofun⟩ nofun nofun nofun (fun _ => rfl) ?_
    rw [restOfTurn_commands pc, restOfTurn_commands pc', inbound, turn.locals, queued,
      List.length_cons]
    exact Nat.lt_succ_self _
  | commandsDone pc none up =>
    refine within rfl nofun pc rfl ⟨nofun, nofun, nofun⟩ nofun nofun nofun nofun ?_
    simp only [restOfTurn, pc]
    omega
  | commandsDoneDown pc none down =>
    refine within rfl nofun pc rfl ⟨nofun, nofun, nofun⟩ nofun nofun nofun nofun ?_
    simp only [restOfTurn, pc]
    omega
  | attempt pc attempt =>
    refine within rfl nofun pc rfl ⟨nofun, nofun, nofun⟩ nofun nofun nofun nofun ?_
    simp only [restOfTurn, pc]
    omega
  | noAttempt pc refused =>
    refine within rfl nofun pc rfl ⟨nofun, nofun, nofun⟩ nofun nofun nofun nofun ?_
    simp only [restOfTurn, pc]
    omega
  | connected pc =>
    refine within rfl nofun pc rfl ⟨nofun, nofun, nofun⟩ nofun nofun nofun nofun ?_
    simp only [restOfTurn, pc]
    omega
  | connectFailed pc =>
    refine within rfl nofun pc rfl ⟨nofun, nofun, nofun⟩ nofun nofun nofun nofun ?_
    simp only [restOfTurn, pc]
    omega
  | @flushBefore sends pc =>
    have inbound := (quiet_flushOutboundData sends s).same State.inbound fun _ => rfl
    refine within rfl nofun pc rfl ⟨nofun, nofun, nofun⟩ nofun nofun nofun nofun ?_
    simp only [restOfTurn, pc, inbound]
    omega
  | @poll outcome pc possible =>
    have less := pollSocket_restOfTurn pc possible
    cases outcome <;>
      exact within rfl nofun pc rfl ⟨nofun, nofun, nofun⟩ nofun nofun nofun nofun less
  | @event event connection _ pc live alive called =>
    have joinable := called.untouched.same State.threadJoinable fun _ => rfl
    refine .elsewhere rfl ?_ (called.untouched.same State.inbound fun _ => rfl)
      fun running => joinable ▸ running
    rcases called.waiting live with ⟨there, -⟩ | ⟨there, -⟩
    · exact Or.inl there
    · exact Or.inr ⟨pc, _, there⟩
  | @parsed count pc here bounded leads =>
    obtain ⟨-, less, -⟩ := parsed_restOfTurn taken
    rcases leads with rfl | rfl <;>
      exact within rfl nofun here rfl ⟨nofun, nofun, nofun⟩ nofun nofun nofun nofun less
  | @flushAfter sends pc =>
    refine within rfl nofun pc rfl ⟨nofun, nofun, nofun⟩ nofun nofun nofun nofun ?_
    simp only [restOfTurn, pc]
    omega
  | heartbeat pc =>
    refine within rfl nofun pc rfl ⟨nofun, nofun, nofun⟩ nofun nofun nofun nofun ?_
    simp only [restOfTurn, pc]
    omega
  | disconnect pc pending =>
    refine within rfl nofun pc rfl ⟨nofun, nofun, nofun⟩ nofun nofun nofun nofun ?_
    simp only [restOfTurn, pc]
    omega
  | endTurn pc settled =>
    refine within rfl nofun pc rfl ⟨nofun, nofun, nofun⟩ nofun nofun nofun nofun ?_
    simp only [restOfTurn, pc]
    omega
  | finalDisconnect pc =>
    refine within rfl nofun pc rfl ⟨nofun, nofun, nofun⟩ nofun nofun (fun _ => rfl) nofun ?_
    simp only [restOfTurn, pc]
    omega
  | @waitOver pending pc completed =>
    exact absurd (List.contains_iff_mem.mp completed) (unanswered pending pc)

end State

end ModuleContext.RabbitMqBus.Driver
