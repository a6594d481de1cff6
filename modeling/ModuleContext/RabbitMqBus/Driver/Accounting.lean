import Mathlib.Algebra.BigOperators.Group.List.Basic
import ModuleContext.Misc.Obligations
import ModuleContext.RabbitMqBus.Driver.Coherence

/-!
# Every accepted command is answered once

The number of a `PendingResult` is open while its command is queued, taken out of the queue or
waiting for the broker, and settled when the result is set. No step loses one; what a driver
that has returned leaves open is therefore what is still queued.
-/

namespace ModuleContext.RabbitMqBus.Driver
open Foundation Misc

/-- The number of the pending call that a callback answers. -/
def Callback.owed : Callback → Multiset ℕ
  | .declared _ pending => {pending}
  | _ => 0

/-- The number of the pending call that a callback of `fail` answers. -/
def FailCallback.owed : FailCallback → Multiset ℕ
  | .operation callback => callback.owed
  | _ => 0

theorem owed_of_isBootstrap {callback : Callback} (chain : callback.isBootstrap = true) :
    callback.owed = 0 := by
  cases callback with
  | declared declaration pending => cases chain
  | bootstrap index declaration => rfl
  | qos index spec => rfl
  | consume index spec => rfl

section

variable [AmqpFields]

/-- The pending calls whose answers are on their way from the broker. -/
def Connection.awaited (connection : Connection) : Multiset ℕ :=
  (connection.outstanding.map (·.callback.owed)).sum

namespace State

/-- The numbers of the results that are not set yet. -/
def unsettled (s : State) : Multiset ℕ :=
  ↑(s.commands.map (·.pending)) + ↑(s.localCommands.map (·.pending)) +
    (s.connection.map (·.awaited)).getD 0

/-- Each accepted command is in hand, open or settled, exactly once. -/
def Balanced (inHand : Multiset ℕ) (s : State) : Prop :=
  Accounted (inHand + s.unsettled) (s.completed.map (·.1)) s.nextPending

/-- From `s` to `s'` no result is set, and the open numbers `taken` are taken in hand. -/
structure Takes (taken : Multiset ℕ) (s s' : State) : Prop where
  unsettled : s.unsettled = taken + s'.unsettled
  completed : s'.completed = s.completed
  nextPending : s'.nextPending = s.nextPending

theorem Balanced.takes {inHand taken : Multiset ℕ} {s s' : State} (balanced : Balanced inHand s)
    (takes : Takes taken s s') : Balanced (taken + inHand) s' := by
  unfold Balanced at balanced ⊢
  rw [takes.completed, takes.nextPending]
  rw [takes.unsettled] at balanced
  convert balanced using 1
  abel

/-- What is in hand is put back. -/
theorem Balanced.puts {inHand put : Multiset ℕ} {s s' : State}
    (balanced : Balanced (put + inHand) s) (takes : Takes put s' s) : Balanced inHand s' := by
  unfold Balanced at balanced ⊢
  rw [← takes.completed, ← takes.nextPending, takes.unsettled]
  convert balanced using 1
  abel

theorem Balanced.nothing {inHand : Multiset ℕ} {s : State} (balanced : Balanced (0 + inHand) s) :
    Balanced inHand s := by
  rwa [zero_add] at balanced

theorem Balanced.keeps {inHand : Multiset ℕ} {s s' : State} (balanced : Balanced inHand s)
    (keeps : Takes 0 s s') : Balanced inHand s' :=
  (balanced.takes keeps).nothing

/-- The result of a command in hand is set. -/
theorem Balanced.complete {inHand : Multiset ℕ} {s : State} {pending : Nat}
    (balanced : Balanced ({pending} + inHand) s) (value : Result Unit) :
    Balanced inHand (s.completePendingResult pending value) := by
  unfold Balanced at balanced
  rw [add_assoc] at balanced
  have fresh : ((s.completed.map (·.1)).contains pending) = false := by
    rw [List.contains_eq_mem, decide_eq_false_iff_not]
    exact balanced.notSettled
  rw [completePendingResult, fresh, if_neg Bool.false_ne_true]
  unfold Balanced
  rw [List.map_append]
  exact balanced.settle

/-! ## Changes of the connection -/

theorem takes_onConnection {taken : Multiset ℕ} {s : State} {connection : Connection}
    (change : Connection → Connection) (live : s.connection = some connection)
    (awaited : connection.awaited = taken + (change connection).awaited) :
    Takes taken s (s.onConnection change) where
  unsettled := by
    simp only [unsettled, onConnection, live, Option.map_some, Option.getD_some, awaited]
    abel
  completed := rfl
  nextPending := rfl

theorem puts_onConnection {put : Multiset ℕ} {s : State} {connection : Connection}
    (change : Connection → Connection) (live : s.connection = some connection)
    (awaited : (change connection).awaited = put + connection.awaited) :
    Takes put (s.onConnection change) s where
  unsettled := by
    simp only [unsettled, onConnection, live, Option.map_some, Option.getD_some, awaited]
    abel
  completed := rfl
  nextPending := rfl

/-- A change that keeps the outstanding operations. -/
theorem keeps_onConnection (change : Connection → Connection)
    (same : ∀ connection, (change connection).outstanding = connection.outstanding) (s : State) :
    Takes 0 s (s.onConnection change) where
  unsettled := by
    cases live : s.connection with
    | none => simp [unsettled, onConnection, live]
    | some connection => simp [unsettled, onConnection, live, Connection.awaited, same]
  completed := rfl
  nextPending := rfl

theorem awaited_submit (deferred : Deferred) (connection : Connection) :
    (connection.submit deferred).awaited = deferred.callback.owed + connection.awaited := by
  simp only [Connection.awaited, Connection.submit, List.map_append, List.sum_append,
    List.map_singleton, List.sum_singleton]
  exact add_comm _ _

/-- The answer to one outstanding operation. -/
theorem awaited_eraseIdx {connection : Connection} {index : Nat} {deferred : Deferred}
    (found : connection.outstanding[index]? = some deferred) :
    connection.awaited = deferred.callback.owed +
      ((connection.outstanding.eraseIdx index).map (·.callback.owed)).sum := by
  obtain ⟨bounded, rfl⟩ := List.getElem?_eq_some_iff.mp found
  have perm := (List.getElem_cons_eraseIdx_perm bounded).map (·.callback.owed)
  exact perm.sum_eq.symm

/-- The outstanding operations of one channel and those of the others. -/
theorem awaited_failChannel (id : Nat) (connection : Connection) :
    connection.awaited =
      ((connection.outstanding.filter (·.channel == id)).map (·.callback.owed)).sum +
        (connection.failChannel id).awaited := by
  have perm := (List.filter_append_perm (·.channel == id) connection.outstanding).map
    (·.callback.owed)
  have split := perm.sum_eq
  rw [List.map_append, List.sum_append] at split
  exact split.symm

/-! ## Operations of the driver -/

/-- `DrainCommands` takes the next command of its batch. -/
theorem takes_localCommands {s : State} {command : Command} {rest : List Command}
    (queued : s.localCommands = command :: rest) :
    Takes {command.pending} s { s with localCommands := rest } := by
  refine ⟨?_, rfl, rfl⟩
  simp only [unsettled, queued, List.map_cons, ← Multiset.cons_coe, ← Multiset.singleton_add]
  abel

theorem Quiet.takes {s s' : State} (quiet : Quiet s s') : Takes 0 s s' where
  unsettled := by
    have blind (s : State) : s.core.unsettled = s.unsettled := by
      unfold State.core unsettled
      cases s.connection <;> rfl
    rw [quiet.same State.unsettled blind, zero_add]
  completed := quiet.same State.completed fun _ => rfl
  nextPending := quiet.same State.nextPending fun _ => rfl

theorem keeps_openConsumerChannel (spec : ConsumerSpec) (s : State) :
    Takes 0 s (s.openConsumerChannel spec) := by
  have opened := keeps_onConnection (.openChannel
    ((s.consumerRuntimes.lookup spec.name).bind (·.channel))
    { id := s.nextChannel
      errorText := "Consumer channel error for '" ++ spec.name ++ "'"
      closed := false, receiver := none, nextTag := 1 }) (fun _ => rfl) s
  exact ⟨opened.unsettled, opened.completed, opened.nextPending⟩

theorem keeps_markActive (name tag : String) (s : State) : Takes 0 s (s.markActive name tag) := by
  unfold markActive
  split <;> exact ⟨(zero_add _).symm, rfl, rfl⟩

variable {inHand : Multiset ℕ} {s s' : State}

theorem Balanced.onError {callback : Callback} (balanced : Balanced (callback.owed + inHand) s)
    (message : String) : Balanced inHand (s.onError callback message) := by
  cases callback with
  | declared declaration pending => exact balanced.complete _
  | bootstrap index declaration => exact balanced.nothing.keeps (quiet_requestDisconnect _ s).takes
  | qos index spec => exact balanced.nothing.keeps (quiet_requestDisconnect _ s).takes
  | consume index spec => exact balanced.nothing.keeps (quiet_requestDisconnect _ s).takes

theorem Balanced.onErrors {deferreds : List Deferred} (message : State → String)
    (balanced : Balanced ((deferreds.map (·.callback.owed)).sum + inHand) s) :
    Balanced inHand
      (deferreds.foldl (fun s deferred => s.onError deferred.callback (message s)) s) := by
  induction deferreds generalizing s with
  | nil => exact balanced.nothing
  | cons deferred deferreds ih =>
    rw [List.map_cons, List.sum_cons, add_assoc] at balanced
    exact ih (balanced.onError (message s))

theorem Balanced.submit {channel : Nat} {operation : AmqpOperation} {callback : Callback}
    {answer : Answer} (live : s.connection.isSome = true)
    (balanced : Balanced (callback.owed + inHand) s) :
    Balanced inHand (s.submit channel operation callback answer) := by
  obtain ⟨connection, live⟩ := Option.isSome_iff_exists.mp live
  have produced := balanced.keeps (quiet_onData answer.produced s).takes
  have liveAfter : (s.onData answer.produced).connection = some
      { connection with produced := connection.produced ++ answer.produced } := by
    simp only [onData, onConnection, live, Option.map_some]
  unfold State.submit
  dsimp only
  split
  · exact produced.puts (puts_onConnection _ liveAfter (awaited_submit _ _))
  · have unsent := keeps_onConnection (.submitUnsent operation) (fun _ => rfl)
      (s.onData answer.produced)
    exact (produced.keeps unsent).onError _

/-- The bootstrap chain answers no pending call. -/
theorem Balanced.advanced {done : List AmqpOperation} {opened : Nat}
    (advanced : Advanced s done opened s') (live : s.connection.isSome = true)
    (balanced : Balanced inHand s) : Balanced inHand s' := by
  induction advanced with
  | stuck => exact balanced
  | broken => exact balanced.keeps (quiet_requestDisconnect _ _).takes
  | finished => exact balanced.keeps ⟨(zero_add _).symm, rfl, rfl⟩
  | submitted place running =>
    rw [← zero_add inHand, ← owed_of_isBootstrap place.isBootstrap] at balanced
    exact balanced.submit live
  | @opened s s' opened spec done here next ih =>
    exact ih ((sameTurn_openConsumerChannel spec s).live.trans live)
      (balanced.keeps (keeps_openConsumerChannel spec s))
  | @active s s' opened name tag done next ih =>
    exact ih ((sameTurn_markActive name tag s).live.trans live)
      (balanced.keeps (keeps_markActive name tag s))

theorem Balanced.onSuccess {callback : Callback} {tag : String} {answer : Answer}
    (live : s.connection.isSome = true) (balanced : Balanced (callback.owed + inHand) s) :
    Balanced inHand (s.onSuccess callback tag answer) := by
  obtain ⟨declaration, pending, rfl⟩ | ⟨chain, done, opened, advanced⟩ :=
    onSuccess_chain callback tag answer s
  · have recorded : Takes 0 s { s with config := declaration.record s.config } :=
      ⟨(zero_add _).symm, rfl, rfl⟩
    exact (balanced.keeps recorded).complete _
  · rw [owed_of_isBootstrap chain, zero_add] at balanced
    exact balanced.advanced advanced live

theorem Balanced.executed {command : Command} (coherent : Coherent s)
    (balanced : Balanced ({command.pending} + inHand) s) (executed : Executed s command s') :
    Balanced inHand s' := by
  cases executed with
  | answered quiet => exact (balanced.keeps quiet.takes).complete _
  | submitted body ready admin =>
    simp only [isReadyLocked, Bool.and_eq_true] at ready
    exact Balanced.submit (coherent.live.trans ready.1.1) balanced

theorem Balanced.failCallback {callback : FailCallback}
    (balanced : Balanced (callback.owed + inHand) s) (message : String) :
    Balanced inHand (s.failCallback callback message) := by
  cases callback with
  | operation callback => exact balanced.onError message
  | channel errorText => exact balanced.nothing.keeps (quiet_requestDisconnect _ s).takes
  | handler => exact balanced.nothing.keeps (quiet_requestDisconnect _ s).takes

theorem Balanced.failCallbacks {reports : List (FailCallback × String)}
    (balanced : Balanced (((reports.map Prod.fst).map FailCallback.owed).sum + inHand) s) :
    Balanced inHand (reports.foldl (fun s (callback, message) =>
      s.failCallback callback message) s) := by
  induction reports generalizing s with
  | nil => exact balanced.nothing
  | cons report reports ih =>
    rw [List.map_cons, List.map_cons, List.sum_cons, add_assoc] at balanced
    exact ih (balanced.failCallback report.2)

/-- Only the operations owe an answer. -/
theorem owed_failCallbacks (connection : Connection) :
    (connection.failCallbacks.map FailCallback.owed).sum = connection.awaited := by
  have none (channels : List Channel) : ((channels.map fun channel =>
      FailCallback.channel channel.errorText).map FailCallback.owed).sum = 0 := by
    induction channels with
    | nil => rfl
    | cons channel channels ih => rw [List.map_cons, List.map_cons, List.sum_cons, ih]; rfl
  simp only [Connection.failCallbacks, List.map_append, List.sum_append, none]
  simp [FailCallback.owed, Connection.awaited, Function.comp_def]

theorem Balanced.failConnection (balanced : Balanced inHand s) (reason : ReasonRef) :
    Balanced inHand (s.failConnection reason) := by
  unfold State.failConnection
  split
  · exact balanced
  · rename_i connection live
    have answered : connection.awaited = connection.awaited + connection.fail.awaited := by
      simp [Connection.fail, Connection.awaited]
    have failed := balanced.takes (takes_onConnection .fail live answered)
    apply Balanced.failCallbacks
    rw [reports_callbacks, owed_failCallbacks]
    exact failed

theorem Balanced.failChannel (balanced : Balanced inHand s) (channel : Channel)
    (message : String) : Balanced inHand (s.failChannel channel message) := by
  unfold State.failChannel
  split
  · exact balanced
  · rename_i connection live
    have failed := balanced.takes (takes_onConnection (.failChannel channel.id) live
      (awaited_failChannel channel.id connection))
    exact (failed.onErrors fun _ => message).keeps (quiet_requestDisconnect _ _).takes

theorem Balanced.enqueueCommand (balanced : Balanced inHand s) (body : CommandBody) :
    Balanced inHand (s.enqueueCommand body) := by
  unfold State.enqueueCommand
  split
  · unfold Balanced at balanced ⊢
    have queued : unsettled { s with
        commands := s.commands ++ [⟨body, s.nextPending⟩], nextPending := s.nextPending + 1 } =
        {s.nextPending} + s.unsettled := by
      simp only [unsettled, List.map_append, ← Multiset.coe_add, List.map_cons, List.map_nil,
        Multiset.coe_singleton]
      abel
    rw [queued, ← add_assoc, add_comm inHand, add_assoc]
    exact balanced.issue
  · exact balanced

theorem Balanced.handled {delivery : DeliveryContext} {origin : Nat}
    (balanced : Balanced inHand s) (handled : Handled s delivery origin s') :
    Balanced inHand s' := by
  cases handled with
  | ignored => exact balanced
  | answered running other =>
    exact (balanced.enqueueCommand _).keeps ⟨(zero_add _).symm, rfl, rfl⟩
  | dispatched => exact balanced.keeps ⟨(zero_add _).symm, rfl, rfl⟩

theorem Balanced.called {connection : Connection} {event : AmqpEvent}
    (live : s.connection = some connection) (called : Called s connection event s')
    (balanced : Balanced inHand s) : Balanced inHand s' := by
  have isLive (change : Connection → Connection) :
      (s.onConnection change).connection.isSome = true := by
    simp [onConnection, live]
  cases called with
  | ready fresh =>
    have handshaken := keeps_onConnection
      (fun connection => { connection with handshaken := true }) (fun _ => rfl) s
    have ready : Takes 0 s { s.onConnection (fun connection =>
        { connection with handshaken := true }) with handshakeReady := true } :=
      ⟨handshaken.unsettled, rfl, rfl⟩
    exact (balanced.keeps ready).advanced (startBootstrap_advanced _ _) (isLive _)
  | @succeeded index tag answer deferred found =>
    have taken := balanced.takes (takes_onConnection (.confirm index deferred) live
      (awaited_eraseIdx found))
    exact taken.onSuccess (isLive _)
  | @failed index message deferred found =>
    have taken := balanced.takes (takes_onConnection (.refuse index deferred) live
      (awaited_eraseIdx found))
    exact taken.onError message
  | channelError member isOpen => exact balanced.failChannel _ _
  | connectionError => exact balanced.failConnection _
  | closed =>
    have closed := keeps_onConnection
      (fun connection => { connection with closed := true }) (fun _ => rfl) s
    exact (balanced.keeps closed).keeps (quiet_requestDisconnect _ _).takes
  | @received id message dispatch channel spec found receives =>
    have counted := keeps_onConnection (.countDelivery id) (fun _ => rfl) s
    exact (balanced.keeps counted).handled (handleIncomingMessage_cases _ _ _ _ _ _)
  | cancelled member receives => exact balanced.keeps (quiet_requestDisconnect _ s).takes
  | data => exact balanced.keeps (quiet_onData _ s).takes

theorem Balanced.handleDisconnect (balanced : Balanced inHand s) (reason : ReasonRef)
    (now : Int) : Balanced inHand (s.handleDisconnect reason now) := by
  have failed := balanced.failConnection reason
  obtain ⟨_, _, completed, report⟩ := reports_failConnection reason s
  obtain ⟨_, _, _, _, _, dropped⟩ := handleDisconnect_eq reason now s
  have nothingAwaited : ((s.connection.map Connection.fail).map (·.awaited)).getD 0 = 0 := by
    cases s.connection <;> rfl
  have drops : Takes 0 (s.failConnection reason) (s.handleDisconnect reason now) := by
    refine ⟨?_, ?_, ?_⟩
    · rw [dropped, report]
      simp only [unsettled, onConnection, nothingAwaited, Option.map_none, Option.getD_none,
        zero_add]
    · rw [dropped]
    · rw [dropped, report]
      rfl
  exact failed.keeps drops

theorem balanced_step {l : Label} (coherent : Coherent s) (balanced : Balanced 0 s)
    (taken : s.step l = some s') : Balanced 0 s' := by
  have place := coherent.place
  have moved {s s' : State} (balanced : Balanced 0 s) (open_ : s'.unsettled = s.unsettled)
      (completed : s'.completed = s.completed) (next : s'.nextPending = s.nextPending) :
      Balanced 0 s' :=
    balanced.keeps ⟨by rw [open_, zero_add], completed, next⟩
  cases step_cases taken with
  | startRefused joinable => exact balanced
  | start idle fresh => exact moved balanced rfl rfl rfl
  | stopRequest idle => exact moved balanced rfl rfl rfl
  | stopJoin joining ended => exact moved balanced rfl rfl rfl
  | stopFinish finishing => exact moved balanced rfl rfl rfl
  | callAnswered checked => exact balanced
  | callQueued checked => exact balanced.enqueueCommand _
  | registerHandler => exact moved balanced rfl rfl rfl
  | unregisterHandler => exact moved balanced rfl rfl rfl
  | @finishTask index outcome task found =>
    have removed : Balanced 0 { s with tasks := s.tasks.eraseIdx index } :=
      moved balanced rfl rfl rfl
    rcases finishTask_cases task outcome { s with tasks := s.tasks.eraseIdx index } with
      ⟨-, same⟩ | ⟨-, queued⟩
    · rw [same]
      exact removed
    · rw [queued]
      exact removed.enqueueCommand _
  | entered pc => exact moved balanced rfl rfl rfl
  | entryFailed pc => exact moved balanced rfl rfl rfl
  | stopSeen pc stop => exact moved balanced rfl rfl rfl
  | goOn pc goOn => exact moved balanced rfl rfl rfl
  | swapCommands pc =>
    rw [pc] at place
    refine moved balanced ?_ rfl rfl
    simp only [unsettled, place.2, List.map_nil, Multiset.coe_nil, zero_add, add_zero]
  | @runCommand answer sends command rest pc queued =>
    have popped := takes_localCommands queued
    have popCoherent : Coherent { s with localCommands := rest } :=
      { coherent with place := by rw [pc]; trivial }
    have executed := (balanced.takes popped).executed popCoherent (execute_cases command answer _)
    exact executed.keeps (quiet_flushOutboundData sends _).takes
  | commandsDone pc none up => exact moved balanced rfl rfl rfl
  | commandsDoneDown pc none down => exact moved balanced rfl rfl rfl
  | attempt pc attempt => exact moved balanced rfl rfl rfl
  | noAttempt pc refused => exact moved balanced rfl rfl rfl
  | connected pc =>
    rw [pc] at place
    have down := coherent.gone place.1
    refine moved balanced ?_ rfl rfl
    simp [unsettled, connectSocket, onData, onConnection, Connection.awaited, down]
  | connectFailed pc => exact moved balanced rfl rfl rfl
  | flushBefore pc => exact moved (balanced.keeps (quiet_flushOutboundData _ s).takes) rfl rfl rfl
  | @poll outcome pc possible =>
    cases outcome <;> exact moved balanced rfl rfl rfl
  | event pc live alive called => exact balanced.called live called
  | parsed pc bounded next => exact moved balanced rfl rfl rfl
  | flushAfter pc => exact moved (balanced.keeps (quiet_flushOutboundData _ s).takes) rfl rfl rfl
  | heartbeat pc => exact moved (balanced.keeps (quiet_maybeSendHeartbeat _ _ s).takes) rfl rfl rfl
  | disconnect pc pending => exact moved (balanced.handleDisconnect _ _) rfl rfl rfl
  | endTurn pc settled => exact moved balanced rfl rfl rfl
  | finalDisconnect pc => exact moved (balanced.handleDisconnect _ _) rfl rfl rfl
  | waitOver pc completed => exact moved balanced rfl rfl rfl

theorem balanced_new (config : RabbitMqBusConfig) (now : Int) : Balanced 0 (new config now) :=
  rfl

/-- Along every run each accepted command is queued, taken out, awaited or answered, and that
exactly once. -/
theorem run_balanced {config : RabbitMqBusConfig} {now : Int} {past : List (State × Label)}
    (run : DriverRun config now past s) : Balanced 0 s :=
  run.invariant_past (fun _ => Balanced 0) (balanced_new config now)
    (fun _ _ _ _ before balanced taken => balanced_step (run_coherent before) balanced taken)

/-! ## What a driver that has returned leaves open -/

/-- Every command that `EnqueueCommand` accepted has its result. -/
def AllAnswered (s : State) : Prop := ∀ pending < s.nextPending, pending ∈ s.completed.map (·.1)

theorem allAnswered_iff (balanced : Balanced 0 s) : s.AllAnswered ↔ s.unsettled = 0 := by
  rw [Balanced, zero_add] at balanced
  exact balanced.allSettled_iff

/-- Without a connection and outside of `DrainCommands`, what is open is what is queued. -/
theorem unsettled_down (coherent : Coherent s) (down : s.connected = false)
    (locals : s.localCommands = []) : s.unsettled = 0 ↔ s.commands = [] := by
  simp [unsettled, locals, coherent.gone down]

/-- A step that calls `EnqueueCommand`. -/
def enqueues (s : State) : Label → Prop
  | .call call => ∃ body, call.command = .ok body
  | .finishTask index _ => ∃ task, s.tasks[index]? = some task ∧ task.driverRef = true ∧
      task.delivery.autoAck = false ∧ task.delivery.consumerName.isEmpty = false
  | _ => False

/-- How many commands had been accepted when `DrainCommands` last swapped the queue. -/
def acceptedAtSwap : List (State × Label) → Nat
  | [] => 0
  | (s, .swapCommands) :: _ => s.nextPending
  | _ :: past => acceptedAtSwap past

/-- No command has been accepted since the last swap when the thread leaves `ThreadMain`, and
none is accepted once it has left. -/
def LeavesNothing (past : List (State × Label)) (s : State) (l : Label) : Prop :=
  match l with
  | .enter false | .finalDisconnect _ => s.nextPending = acceptedAtSwap past
  | l => s.pc = .returned → s.enqueues l → s.accepts = false

/-- The queue grows by the commands that a step accepts, unless the step swaps it. -/
theorem queue_step {l : Label} (taken : s.step l = some s') (swaps : l ≠ .swapCommands) :
    s'.commands.length + s.nextPending = s.commands.length + s'.nextPending := by
  cases step_cases taken with
  | startRefused joinable => rfl
  | start idle fresh => rfl
  | stopRequest idle => rfl
  | stopJoin joining ended => rfl
  | stopFinish finishing => rfl
  | callAnswered checked => rfl
  | callQueued checked => exact (sameTurn_enqueueCommand _ s).queue
  | registerHandler => rfl
  | unregisterHandler => rfl
  | finishTask found => exact (sameTurn_finishTask _ _ _).queue
  | entered pc => rfl
  | entryFailed pc => rfl
  | stopSeen pc stop => rfl
  | goOn pc goOn => rfl
  | swapCommands pc => exact absurd rfl swaps
  | runCommand pc queued =>
    exact (sameTurn_runCommand _ _ _ _).queue
  | commandsDone pc none up => rfl
  | commandsDoneDown pc none down => rfl
  | attempt pc attempt => rfl
  | noAttempt pc refused => rfl
  | connected pc => rfl
  | connectFailed pc => rfl
  | flushBefore pc => exact (quiet_flushOutboundData _ s).sameTurn.queue
  | @poll outcome pc possible => cases outcome <;> rfl
  | event pc live alive called =>
    obtain ⟨next, -, turn⟩ := called.waits
    exact turn.queue
  | parsed pc bounded leads => rfl
  | flushAfter pc => exact (quiet_flushOutboundData _ s).sameTurn.queue
  | heartbeat pc => exact (quiet_maybeSendHeartbeat _ _ s).sameTurn.queue
  | @disconnect now stale pc pending =>
    obtain ⟨_, _, _, _, _, dropped⟩ := handleDisconnect_eq (.pendingReason stale) now s
    rw [dropped]
  | endTurn pc settled => rfl
  | @finalDisconnect now pc =>
    obtain ⟨_, _, _, _, _, dropped⟩ :=
      handleDisconnect_eq (.text "RabbitMQ driver stopped") now s
    rw [dropped]
  | waitOver pc completed => rfl

/-- The queue holds the commands accepted since the last swap. -/
theorem run_queue {config : RabbitMqBusConfig} {now : Int} {past : List (State × Label)}
    (run : DriverRun config now past s) :
    s.commands.length + acceptedAtSwap past = s.nextPending := by
  refine run.invariant_past (fun past s => s.commands.length + acceptedAtSwap past = s.nextPending)
    rfl fun past s l s' before holds taken => ?_
  by_cases swaps : l = .swapCommands
  · subst swaps
    cases step_cases taken with
    | swapCommands pc => exact Nat.zero_add _
  · have grows := queue_step taken swaps
    have same : acceptedAtSwap ((s, l) :: past) = acceptedAtSwap past := by
      cases l <;> first | rfl | exact absurd rfl swaps
    omega

theorem answered_iff (coherent : Coherent s) (balanced : Balanced 0 s) :
    (s.pc = .returned → s.AllAnswered) ↔ (s.pc = .returned → s.commands = []) := by
  refine imp_congr_right fun pc => ?_
  have place := coherent.place
  rw [pc] at place
  rw [allAnswered_iff balanced, unsettled_down coherent place.1 place.2]

theorem commands_enqueueCommand (body : CommandBody) (s : State) :
    (s.enqueueCommand body).commands = [] ↔ s.commands = [] ∧ s.accepts = false := by
  unfold State.enqueueCommand
  split <;> simp [*]

theorem commands_finishTask {index : Nat} {outcome : HandlerOutcome} {task : Task}
    (found : s.tasks[index]? = some task) :
    (finishTask task outcome { s with tasks := s.tasks.eraseIdx index }).commands = [] ↔
      s.commands = [] ∧ (s.enqueues (.finishTask index outcome) → s.accepts = false) := by
  have calls : s.enqueues (.finishTask index outcome) ↔ task.driverRef = true ∧
      task.delivery.autoAck = false ∧ task.delivery.consumerName.isEmpty = false := by
    simp [enqueues, found]
  rw [calls]
  rcases finishTask_cases task outcome { s with tasks := s.tasks.eraseIdx index } with
    ⟨quiet, same⟩ | ⟨answers, queued⟩
  · rw [same]
    exact ⟨fun empty => ⟨empty, fun calls => absurd calls quiet⟩, And.left⟩
  · rw [queued, commands_enqueueCommand]
    exact and_congr_right fun _ => ⟨fun refused _ => refused, fun refused => refused answers⟩

/-- A step keeps what is queued at the return of `ThreadMain` empty exactly if it leaves
nothing. -/
theorem leavesNothing_step {past : List (State × Label)} {l : Label}
    (queue : s.commands.length + acceptedAtSwap past = s.nextPending)
    (drained : s.pc = .returned → s.commands = []) (taken : s.step l = some s') :
    (s'.pc = .returned → s'.commands = []) ↔ s.LeavesNothing past l := by
  have empty : s.commands = [] ↔ s.nextPending = acceptedAtSwap past := by
    rw [← List.length_eq_zero_iff]
    omega
  cases step_cases taken with
  | startRefused joinable => exact iff_of_true drained fun _ => False.elim
  | start idle fresh => exact iff_of_true nofun fun _ => False.elim
  | stopRequest idle => exact iff_of_true drained fun _ => False.elim
  | stopJoin joining ended => exact iff_of_true drained fun _ => False.elim
  | stopFinish finishing => exact iff_of_true drained fun _ => False.elim
  | callAnswered checked =>
    refine iff_of_true drained fun _ ⟨body, queued⟩ => ?_
    rw [checked] at queued
    cases queued
  | @callQueued call body checked =>
    have same := (sameTurn_enqueueCommand body s).pc
    rw [same, commands_enqueueCommand]
    have calls : s.enqueues (.call call) := ⟨body, checked⟩
    constructor
    · exact fun empty returned _ => (empty returned).2
    · exact fun refused returned => ⟨drained returned, refused returned calls⟩
  | registerHandler => exact iff_of_true drained fun _ => False.elim
  | unregisterHandler => exact iff_of_true drained fun _ => False.elim
  | @finishTask index outcome task found =>
    have same : (finishTask task outcome { s with tasks := s.tasks.eraseIdx index }).pc = s.pc :=
      (sameTurn_finishTask task outcome _).pc
    rw [same, commands_finishTask found]
    constructor
    · exact fun empty returned => (empty returned).2
    · exact fun refused returned => ⟨drained returned, refused returned⟩
  | entered pc => exact iff_of_true nofun fun _ => False.elim
  | entryFailed pc => exact ⟨fun left => empty.mp (left rfl), fun left _ => empty.mpr left⟩
  | stopSeen pc stop => exact iff_of_true nofun fun _ => False.elim
  | goOn pc goOn => exact iff_of_true nofun fun _ => False.elim
  | swapCommands pc => exact iff_of_true nofun fun _ => False.elim
  | @runCommand answer sends command rest pc queued =>
    have same : (flushOutboundData sends
        (execute command answer { s with localCommands := rest })).pc = s.pc :=
      (sameTurn_runCommand command answer sends _).pc
    rw [same, pc]
    exact iff_of_true nofun fun _ => False.elim
  | commandsDone pc none up => exact iff_of_true nofun fun _ => False.elim
  | commandsDoneDown pc none down => exact iff_of_true nofun fun _ => False.elim
  | attempt pc attempt => exact iff_of_true nofun fun _ => False.elim
  | noAttempt pc refused => exact iff_of_true nofun fun _ => False.elim
  | connected pc => exact iff_of_true nofun fun _ => False.elim
  | connectFailed pc => exact iff_of_true nofun fun _ => False.elim
  | flushBefore pc => exact iff_of_true nofun fun _ => False.elim
  | @poll outcome pc possible =>
    cases outcome <;> exact iff_of_true nofun fun _ => False.elim
  | event pc live alive called =>
    obtain ⟨next, stays, turn⟩ := called.waits
    rw [turn.pc]
    rcases stays with rfl | ⟨pending, rfl⟩
    · rw [pc]
      exact iff_of_true nofun fun _ => False.elim
    · exact iff_of_true nofun fun _ => False.elim
  | parsed pc bounded leads =>
    rcases leads with rfl | rfl <;> exact iff_of_true nofun fun _ => False.elim
  | flushAfter pc => exact iff_of_true nofun fun _ => False.elim
  | heartbeat pc => exact iff_of_true nofun fun _ => False.elim
  | disconnect pc pending => exact iff_of_true nofun fun _ => False.elim
  | endTurn pc settled => exact iff_of_true nofun fun _ => False.elim
  | @finalDisconnect now pc =>
    obtain ⟨_, _, _, _, _, dropped⟩ :=
      handleDisconnect_eq (.text "RabbitMQ driver stopped") now s
    rw [dropped]
    exact ⟨fun left => empty.mp (left rfl), fun left _ => empty.mpr left⟩
  | waitOver pc completed => exact iff_of_true nofun fun _ => False.elim

/-- In every state of a run in which `ThreadMain` has returned, all accepted commands are
answered, exactly if no command was accepted between the last swap of the queue and that
return, or after it. -/
theorem answered_at_return_iff (config : RabbitMqBusConfig) (now : Int)
    (past : List (State × Label)) (s : State) (run : DriverRun config now past s) :
    AllStates (fun s => s.pc = .returned → s.AllAnswered) past s ↔
      AllSteps (fun past s l => s.LeavesNothing past l) past := by
  refine run.allStates_iff nofun fun past s l s' before answered taken => ?_
  have coherent := run_coherent before
  have drained := (answered_iff coherent (run_balanced before)).mp answered
  rw [answered_iff (coherent_step coherent taken) (run_balanced (before.snoc taken))]
  exact leavesNothing_step (run_queue before) drained taken

end State

end

namespace State

open PlainFields

/-- A publish command that is queued before the driver looks for commands. -/
def publishThenStop : List Label :=
  [.start 0, .enter true, .call (.publish pingRequest), .testStop, .swapCommands,
    .runCommand ⟨true, []⟩ [], .commandsDone, .testReconnect 0,
    .connect (.failed ⟨.ioError, "Unable to connect to RabbitMQ broker"⟩) 0, .stopRequest,
    .testStop, .finalDisconnect 0]

theorem publishThenStop_answered :
    ∃ past s, exec step publishThenStop [] (new workerConfig 0) = some (past, s) ∧
      s.pc = .returned ∧ s.AllAnswered := by
  obtain ⟨past, s, executed, returned, orderly⟩ :
      ∃ past s, exec step publishThenStop [] (new workerConfig 0) = some (past, s) ∧
        s.pc = .returned ∧ AllSteps (fun past s l => s.LeavesNothing past l) past :=
    ⟨_, _, rfl, rfl, rfl, nofun, nofun, nofun, nofun, nofun, nofun, nofun, nofun, nofun, nofun,
      nofun, trivial⟩
  have answered := (answered_at_return_iff workerConfig 0 past s
    (run_of_exec .nil executed)).mpr orderly
  exact ⟨past, s, executed, returned, answered.last returned⟩

/-- The same command, queued after the driver has looked for commands and before it sees the
stop request, is never answered. -/
theorem publish_lost_at_stop :
    ¬ ∀ (config : RabbitMqBusConfig) (now : Int) (past : List (State × Label)) (s : State),
      DriverRun config now past s → s.pc = .returned → s.AllAnswered := by
  intro answered
  obtain ⟨past, s, executed, returned, accepted, completed⟩ :
      ∃ past s, exec step
          [.start 0, .enter true, .testStop, .swapCommands, .commandsDone,
            .call (.publish pingRequest), .testReconnect 0,
            .connect (.failed ⟨.ioError, "Unable to connect to RabbitMQ broker"⟩) 0,
            .stopRequest, .testStop, .finalDisconnect 0]
          [] (new workerConfig 0) = some (past, s) ∧
        s.pc = .returned ∧ s.nextPending = 1 ∧ s.completed = [] :=
    ⟨_, _, rfl, rfl, rfl, rfl⟩
  have lost := answered workerConfig 0 past s (run_of_exec .nil executed) returned 0
    (accepted ▸ Nat.one_pos)
  rw [completed] at lost
  cases lost

end State

end ModuleContext.RabbitMqBus.Driver
