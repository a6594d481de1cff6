import ModuleContext.RabbitMqBus.Driver.Bootstrap
import ModuleContext.RabbitMqBus.Driver.Steps

/-!
# What callbacks and commands leave alone

Callbacks and commands change the connection, the queue, the topology and the public state.
`outline` is what is left of a state without these, and they leave all of it as it is.
-/

namespace ModuleContext.RabbitMqBus.Driver
open Foundation Misc

variable [AmqpFields]

namespace State

/-- A state without what callbacks and commands may change. -/
def outline (s : State) : State :=
  { s with
    config := { s.config with exchanges := [], queues := [], bindings := [] }
    state := .created, commands := [], connection := none, consumerRuntimes := ∅
    ready := false, handshakeReady := false
    pendingDisconnect := false, pendingDisconnectReason := ""
    outbound := [], lastHeartbeatSent := none, pc := .idle
    completed := [], nextPending := 0, nextChannel := 0, tasks := [] }

/-- Only what callbacks and commands may change is changed. -/
def Untouched (s s' : State) : Prop := s'.outline = s.outline

variable {s s' : State}

theorem Untouched.refl (s : State) : Untouched s s := rfl

theorem Untouched.trans {a b c : State} (first : Untouched a b) (second : Untouched b c) :
    Untouched a c :=
  Eq.trans second first

theorem Untouched.same {α : Type} (untouched : Untouched s s') (field : State → α)
    (blind : ∀ s, field s.outline = field s) : field s' = field s := by
  rw [← blind s', untouched, blind s]

theorem Quiet.untouched (quiet : Quiet s s') : Untouched s s' :=
  quiet.same outline fun _ => rfl

theorem Reports.untouched (reports : Reports s s') : Untouched s s' := by
  obtain ⟨_, _, _, rfl⟩ := reports
  rfl

theorem untouched_submit (channel : Nat) (operation : AmqpOperation) (callback : Callback)
    (answer : Answer) (s : State) : Untouched s (s.submit channel operation callback answer) := by
  unfold submit
  dsimp only
  split
  · rfl
  · exact (reports_onError callback _ _).untouched

theorem untouched_markActive (name tag : String) (s : State) :
    Untouched s (s.markActive name tag) := by
  unfold markActive
  split <;> rfl

theorem Advanced.untouched {done : List AmqpOperation} {opened : Nat}
    (advanced : Advanced s done opened s') : Untouched s s' := by
  induction advanced with
  | stuck => rfl
  | broken => rfl
  | finished => rfl
  | submitted place running => exact untouched_submit _ _ _ _ _
  | opened here next ih => exact ih
  | active next ih => exact (untouched_markActive _ _ _).trans ih

theorem untouched_enqueueCommand (body : CommandBody) (s : State) :
    Untouched s (s.enqueueCommand body) := by
  unfold enqueueCommand
  split <;> rfl

theorem untouched_finishTask (task : Task) (outcome : HandlerOutcome) (s : State) :
    Untouched s (finishTask task outcome s) := by
  rcases finishTask_cases task outcome s with ⟨-, same⟩ | ⟨-, queued⟩
  · rw [same]
    exact .refl s
  · rw [queued]
    exact untouched_enqueueCommand _ s

theorem Handled.untouched {delivery : DeliveryContext} {origin : Nat}
    (handled : Handled s delivery origin s') : Untouched s s' := by
  cases handled with
  | ignored => rfl
  | answered running other => exact untouched_enqueueCommand _ s
  | dispatched => rfl

theorem Executed.untouched {command : Command} (executed : Executed s command s') :
    Untouched s s' := by
  cases executed with
  | answered quiet => exact quiet.untouched.trans (reports_completePendingResult _ _ _).untouched
  | submitted body ready admin => exact untouched_submit _ _ _ _ s

theorem untouched_runCommand (command : Command) (answer : Answer) (sends : List SendOutcome)
    (s : State) : Untouched s (flushOutboundData sends (execute command answer s)) :=
  (execute_cases command answer s).untouched.trans
    (quiet_flushOutboundData sends (execute command answer s)).untouched

/-- A declaration made at run time is recorded in the topology. -/
theorem untouched_record (declaration : Declaration) (s : State) :
    Untouched s { s with config := declaration.record s.config } := by
  cases declaration <;> rfl

theorem Called.untouched {connection : Connection} {event : AmqpEvent}
    (called : Called s connection event s') : Untouched s s' := by
  cases called with
  | ready fresh => exact (startBootstrap_advanced _ _).untouched
  | @succeeded index tag answer deferred found =>
    rcases onSuccess_chain deferred.callback tag answer (s.onConnection (.confirm index deferred))
      with ⟨declaration, pending, callback⟩ | ⟨chain, done, opened, advanced⟩
    · rw [callback]
      exact (untouched_record declaration _).trans (reports_completePendingResult _ _ _).untouched
    · exact advanced.untouched
  | failed found => exact (reports_onError _ _ _).untouched
  | channelError member isOpen => exact (reports_failChannel _ _ s).untouched
  | connectionError => exact (reports_failConnection _ s).untouched
  | closed => rfl
  | received found receives => exact (handleIncomingMessage_cases _ _ _ _ _ _).untouched
  | cancelled member receives => rfl
  | data => rfl

end State

end ModuleContext.RabbitMqBus.Driver
