import ModuleContext.RabbitMqBus.Driver.Bootstrap
import ModuleContext.RabbitMqBus.Driver.Coherence

/-!
# Steps as the connection sees them

For what happens on a connection, a step of the system does one of a few things: it leaves the
connection alone, executes a command, makes a callback of the AMQP library, or ends or begins
a connection.
-/

namespace ModuleContext.RabbitMqBus.Driver
open Foundation Misc

variable [AmqpFields]

namespace State

/-- The delivery that comes in with a step: its channel and its context. -/
def received (s : State) (l : Label) : Option (Nat × DeliveryContext) :=
  match l, s.connection with
  | .event (.received id _ _), some connection =>
      (connection.channels.find? (fun channel => channel.id == id && !channel.closed)).bind
        fun channel => channel.receiver.map fun spec =>
          (id, deliveryContext spec channel.nextTag)
  | _, _ => none

/-- A step that calls `HandleDisconnect`. -/
def disconnects (s : State) : Label → Bool
  | .endTurn _ _ => s.pendingDisconnect
  | .finalDisconnect _ => true
  | _ => false

/-- The connection and what belongs to it are unchanged but for bytes. -/
structure Kept (s s' : State) : Prop where
  config : s'.config = s.config
  ready : s'.ready = s.ready
  admin : s'.adminChannel = s.adminChannel
  runtimes : s'.consumerRuntimes = s.consumerRuntimes
  channels : s'.nextChannel = s.nextChannel
  connection : s'.connection.map (·.core) = s.connection.map (·.core)

theorem Kept.refl (s : State) : Kept s s := ⟨rfl, rfl, rfl, rfl, rfl, rfl⟩

theorem Kept.trans {a b c : State} (first : Kept a b) (second : Kept b c) : Kept a c :=
  ⟨second.config.trans first.config, second.ready.trans first.ready,
    second.admin.trans first.admin, second.runtimes.trans first.runtimes,
    second.channels.trans first.channels, second.connection.trans first.connection⟩

theorem Quiet.kept {s s' : State} (quiet : Quiet s s') : Kept s s' where
  config := quiet.same State.config fun _ => rfl
  ready := quiet.same State.ready fun _ => rfl
  admin := quiet.same State.adminChannel fun _ => rfl
  runtimes := quiet.same State.consumerRuntimes fun _ => rfl
  channels := quiet.same State.nextChannel fun _ => rfl
  connection := by
    refine quiet.same (fun s => s.connection.map (·.core)) fun s => ?_
    unfold State.core
    cases s.connection <;> rfl

theorem Reports.kept {s s' : State} (reports : Reports s s') : Kept s s' := by
  obtain ⟨_, _, _, rfl⟩ := reports
  exact ⟨rfl, rfl, rfl, rfl, rfl, rfl⟩

/-- An operation that ends in the answer to a command. -/
theorem Quiet.kept_answered {s sent : State} (quiet : Quiet s sent) (pending : Nat)
    (value : Result Unit) : Kept s (sent.completePendingResult pending value) :=
  quiet.kept.trans (reports_completePendingResult pending value sent).kept

theorem kept_enqueueCommand (body : CommandBody) (s : State) :
    Kept s (s.enqueueCommand body) := by
  unfold enqueueCommand
  split <;> exact ⟨rfl, rfl, rfl, rfl, rfl, rfl⟩

theorem kept_finishTask (task : Task) (outcome : HandlerOutcome) (s : State) :
    Kept s (finishTask task outcome s) := by
  rcases finishTask_cases task outcome s with ⟨-, same⟩ | ⟨-, queued⟩
  · rw [same]
    exact .refl s
  · rw [queued]
    exact kept_enqueueCommand _ s

theorem Handled.kept {s s' : State} {delivery : DeliveryContext} {origin : Nat}
    (handled : Handled s delivery origin s') : Kept s s' := by
  cases handled with
  | ignored => exact .refl s
  | answered running other => exact (kept_enqueueCommand _ s).trans ⟨rfl, rfl, rfl, rfl, rfl, rfl⟩
  | dispatched => exact ⟨rfl, rfl, rfl, rfl, rfl, rfl⟩

/-- The connection before a change that keeps it. -/
theorem Kept.connection_of {s s' : State} (kept : Kept s s') {connection' : Connection}
    (live' : s'.connection = some connection') :
    ∃ connection, s.connection = some connection ∧ connection'.core = connection.core := by
  have same := kept.connection
  rw [live', Option.map_some] at same
  obtain ⟨connection, live, equal⟩ := Option.map_eq_some_iff.mp same.symm
  exact ⟨connection, live, equal.symm⟩

/-- What a step does to the connection. -/
inductive ConnectionStep (s : State) : Label → State → Prop where
  | same {l : Label} {s' : State} : s.received l = none → s.disconnects l = false →
      Kept s s' → ConnectionStep s l s'
  | executed {l : Label} {taken after s' : State} {command : Command} : s.received l = none →
      s.disconnects l = false → Kept s taken → Coherent taken → Executed taken command after →
      Kept after s' → ConnectionStep s l s'
  | called {connection : Connection} {event : AmqpEvent} {s' : State} :
      s.connection = some connection → Called s connection event s' →
      ConnectionStep s (.event event) s'
  | dropped {l : Label} {s' : State} : s.received l = none → s.disconnects l = true →
      s'.connection = none → s'.adminChannel = none → s'.ready = false →
      s'.consumerRuntimes = ∅ → s'.nextChannel = s.nextChannel → s'.config = s.config →
      ConnectionStep s l s'
  | connected {socketFd : Nat} {produced : List UInt8} {now : Int} : s.connection = none →
      s.consumerRuntimes = ∅ →
      ConnectionStep s (.connect (.connected socketFd produced) now)
        { s.connectSocket socketFd produced now with pc := .loopTest }

theorem connectionStep_handleDisconnect {s : State} {l : Label} (reason : ReasonRef) (now : Int)
    (pc : DriverPc) (receives : s.received l = none) (disconnects : s.disconnects l = true) :
    ConnectionStep s l { s.handleDisconnect reason now with pc } := by
  obtain ⟨_, _, _, _, _, dropped⟩ := handleDisconnect_eq reason now s
  rw [dropped]
  exact .dropped receives disconnects rfl rfl rfl rfl rfl rfl

theorem step_connectionStep {s s' : State} {l : Label} (coherent : Coherent s)
    (taken : s.step l = some s') : ConnectionStep s l s' := by
  have kept {next : State} (config : next.config = s.config) (ready : next.ready = s.ready)
      (admin : next.adminChannel = s.adminChannel)
      (runtimes : next.consumerRuntimes = s.consumerRuntimes)
      (channels : next.nextChannel = s.nextChannel)
      (connection : next.connection = s.connection) : Kept s next :=
    ⟨config, ready, admin, runtimes, channels, by rw [connection]⟩
  cases step_cases taken with
  | startRefused joinable => exact .same rfl rfl (.refl s)
  | start idle fresh => exact .same rfl rfl (kept rfl rfl rfl rfl rfl rfl)
  | stopRequest idle => exact .same rfl rfl (kept rfl rfl rfl rfl rfl rfl)
  | stopJoin joining ended => exact .same rfl rfl (kept rfl rfl rfl rfl rfl rfl)
  | stopFinish finishing => exact .same rfl rfl (kept rfl rfl rfl rfl rfl rfl)
  | callAnswered checked => exact .same rfl rfl (.refl s)
  | callQueued checked => exact .same rfl rfl (kept_enqueueCommand _ s)
  | registerHandler => exact .same rfl rfl (kept rfl rfl rfl rfl rfl rfl)
  | unregisterHandler => exact .same rfl rfl (kept rfl rfl rfl rfl rfl rfl)
  | @finishTask index outcome task found =>
    have removed : Kept s { s with tasks := s.tasks.eraseIdx index } :=
      kept rfl rfl rfl rfl rfl rfl
    exact .same rfl rfl (removed.trans (kept_finishTask task outcome _))
  | entered pc => exact .same rfl rfl (kept rfl rfl rfl rfl rfl rfl)
  | entryFailed pc => exact .same rfl rfl (kept rfl rfl rfl rfl rfl rfl)
  | stopSeen pc stop => exact .same rfl rfl (kept rfl rfl rfl rfl rfl rfl)
  | goOn pc goOn => exact .same rfl rfl (kept rfl rfl rfl rfl rfl rfl)
  | swapCommands pc => exact .same rfl rfl (kept rfl rfl rfl rfl rfl rfl)
  | @runCommand answer sends command rest pc queued =>
    have popped : Coherent { s with localCommands := rest } :=
      { coherent with place := by rw [pc]; trivial }
    have same : Kept s { s with localCommands := rest } := kept rfl rfl rfl rfl rfl rfl
    exact .executed rfl rfl same popped
      (execute_cases command answer { s with localCommands := rest })
      (quiet_flushOutboundData sends _).kept
  | commandsDone pc none up => exact .same rfl rfl (kept rfl rfl rfl rfl rfl rfl)
  | commandsDoneDown pc none down => exact .same rfl rfl (kept rfl rfl rfl rfl rfl rfl)
  | attempt pc attempt => exact .same rfl rfl (kept rfl rfl rfl rfl rfl rfl)
  | noAttempt pc refused => exact .same rfl rfl (kept rfl rfl rfl rfl rfl rfl)
  | connected pc =>
    have place := coherent.place
    rw [pc] at place
    exact .connected (coherent.gone place.1) (coherent.down place.1).2.2
  | connectFailed pc => exact .same rfl rfl (kept rfl rfl rfl rfl rfl rfl)
  | @flushBefore sends pc =>
    have flushed := (quiet_flushOutboundData sends s).kept
    exact .same rfl rfl (flushed.trans ⟨rfl, rfl, rfl, rfl, rfl, rfl⟩)
  | @poll outcome pc possible =>
    cases outcome <;> exact .same rfl rfl (kept rfl rfl rfl rfl rfl rfl)
  | event pc live alive called => exact .called live called
  | parsed pc bounded next => exact .same rfl rfl (kept rfl rfl rfl rfl rfl rfl)
  | @flushAfter sends pc =>
    have flushed := (quiet_flushOutboundData sends s).kept
    exact .same rfl rfl (flushed.trans ⟨rfl, rfl, rfl, rfl, rfl, rfl⟩)
  | @heartbeat now produced pc =>
    exact .same rfl rfl
      ((quiet_maybeSendHeartbeat now produced s).kept.trans ⟨rfl, rfl, rfl, rfl, rfl, rfl⟩)
  | disconnect pc pending => exact connectionStep_handleDisconnect _ _ _ rfl pending
  | endTurn pc settled => exact .same rfl settled (kept rfl rfl rfl rfl rfl rfl)
  | finalDisconnect pc => exact connectionStep_handleDisconnect _ _ _ rfl rfl
  | waitOver pc completed => exact .same rfl rfl (kept rfl rfl rfl rfl rfl rfl)

/-- The admin channel of a connection has a number that no earlier channel had. -/
theorem ConnectionStep.admin {s s' : State} {l : Label} (step : ConnectionStep s l s') :
    (s'.adminChannel = s.adminChannel ∨ s'.adminChannel = none ∨
        s'.adminChannel = some s.nextChannel ∧ s.nextChannel < s'.nextChannel) ∧
      s.nextChannel ≤ s'.nextChannel := by
  cases step with
  | same receives disconnects kept =>
    exact ⟨Or.inl kept.admin, Nat.le_of_eq kept.channels.symm⟩
  | executed receives disconnects before coherent executed after =>
    have turn := executed.sameTurn
    refine ⟨Or.inl (after.admin.trans (turn.admin.trans before.admin)), ?_⟩
    rw [after.channels, ← before.channels]
    exact turn.channels
  | called live called =>
    obtain ⟨pc, -, turn⟩ := called.waits
    exact ⟨Or.inl turn.admin, turn.channels⟩
  | dropped receives disconnects gone admin ready runtimes channels config =>
    exact ⟨Or.inr (Or.inl admin), Nat.le_of_eq channels.symm⟩
  | connected gone runtimes => exact ⟨Or.inr (Or.inr ⟨rfl, Nat.lt_succ_self _⟩), Nat.le_succ _⟩

end State

end ModuleContext.RabbitMqBus.Driver
