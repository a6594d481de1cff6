import ModuleContext.RabbitMqBus.Driver.CommandOrder
import ModuleContext.RabbitMqBus.Driver.Refusals

/-!
# Results of calls

The result of a call is set once, by the step that executes its command, by the broker's answer
to its declaration or by whatever goes wrong before. A step that tells a caller of a success
hands exactly its frame over, or records exactly its declaration.
-/

namespace ModuleContext.RabbitMqBus.Driver
open Foundation Misc

variable [AmqpFields]

def CommandBody.isDeclare : CommandBody → Bool
  | .declare _ => true
  | _ => false

/-- The frame that a command hands over when it succeeds. A completion goes to the channel that
the consumer of the delivery has at that time. -/
inductive Hands : Command → Transfer → Prop where
  | published {request : PublishRequest} {pending : Nat} :
      Hands ⟨.publish request, pending⟩ (.published request.exchange request.routingKey
        (State.envelopeOf request (tableOf request.headers)))
  | settled {delivery : DeliveryContext} {action : ConsumeAction} {origin : Option Nat}
      {pending channel : Nat} :
      Hands ⟨.completeDelivery delivery action origin, pending⟩
        (.settled channel delivery.deliveryTag action)

theorem Hands.other {command : Command} {frame : Transfer} (hands : Hands command frame) :
    command.body.isDeclare = false := by
  cases hands <;> rfl

/-- The envelope is filled from the request: what is empty is not set. -/
structure Envelope.FilledFrom (envelope : Envelope) (request : PublishRequest) : Prop where
  payload : envelope.payload = request.payload
  contentType : envelope.contentType =
    if request.contentType = "" then none else some request.contentType
  correlationId : envelope.correlationId =
    if request.correlationId = "" then none else some request.correlationId
  replyTo : envelope.replyTo = if request.replyTo = "" then none else some request.replyTo
  headers : if request.headers = [] then envelope.headers = none
    else ∃ table, envelope.headers = some table ∧ RepresentsEntries table request.headers
  persistent : envelope.persistent = request.persistent

/-- The frame that a command asks for, field by field. -/
inductive AsksFor : Command → Transfer → Prop where
  | published {request : PublishRequest} {pending : Nat} {envelope : Envelope} :
      envelope.FilledFrom request →
      AsksFor ⟨.publish request, pending⟩
        (.published request.exchange request.routingKey envelope)
  | settled {delivery : DeliveryContext} {action : ConsumeAction} {origin : Option Nat}
      {pending channel : Nat} :
      AsksFor ⟨.completeDelivery delivery action origin, pending⟩
        (.settled channel delivery.deliveryTag action)

theorem filledFrom_envelopeOf (request : PublishRequest) :
    (State.envelopeOf request (tableOf request.headers)).FilledFrom request where
  payload := rfl
  contentType := by simp [State.envelopeOf]
  correlationId := by simp [State.envelopeOf]
  replyTo := by simp [State.envelopeOf]
  headers := by
    unfold State.envelopeOf
    dsimp only
    cases headers : request.headers with
    | nil => rfl
    | cons entry entries => exact ⟨_, rfl, tableOf_represents _⟩
  persistent := rfl

theorem Hands.asksFor {command : Command} {frame : Transfer} (hands : Hands command frame) :
    AsksFor command frame := by
  cases hands with
  | published => exact .published (filledFrom_envelopeOf _)
  | settled => exact .settled

namespace State

/-- The result that the call with this number has been given. -/
def resultOf (pending : Nat) (s : State) : Option (Result Unit) := s.completed.lookup pending

/-- The call whose declaration the broker confirms in a step. -/
def confirms (s : State) (l : Label) : Option (Declaration × Nat) :=
  match l, s.connection with
  | .event (.succeeded index _ _), some connection =>
      connection.outstanding[index]?.bind (·.callback.call)
  | _, _ => none

variable {s s' : State}

/-! ## Commands and callbacks -/

/-- What executing a command amounts to. -/
inductive Performed (s : State) (command : Command) (answer : Answer) : State → Prop where
  | refused {e : Error} :
      Performed s command answer (s.completePendingResult command.pending (.error e))
  | handed {frame : Transfer} : Hands command frame → answer.accepted = true →
      s.connection.isSome = true →
      Performed s command answer
        ((s.transfer frame answer).completePendingResult command.pending makeSuccess)
  | submitted {declaration : Declaration} {channel : Nat} :
      command.body = .declare declaration →
      Performed s command answer
        (s.submit channel declaration.operation (.declared declaration command.pending) answer)

/-- A consumer only has a channel while there is a connection. -/
theorem Coherent.live_of_channel (coherent : Coherent s) {delivery : DeliveryContext}
    {channel : Nat} (runs : s.completionChannel delivery = some channel) :
    s.connection.isSome = true := by
  rw [coherent.live]
  by_contra down
  rw [Bool.not_eq_true] at down
  rw [completionChannel, (coherent.down down).2.2] at runs
  cases runs

theorem transfer_refused {frame : Transfer} {answer : Answer} (refused : answer.accepted ≠ true)
    (s : State) : s.transfer frame answer = s := by
  rw [transfer, if_neg refused]

theorem execute_performed (coherent : Coherent s) (command : Command) (answer : Answer) :
    Performed s command answer (s.execute command answer) := by
  have live (ready : s.isReadyLocked = true) : s.connection.isSome = true := by
    simp only [isReadyLocked, Bool.and_eq_true] at ready
    exact coherent.live.trans ready.1.1
  obtain ⟨body, pending⟩ := command
  cases body with
  | publish request =>
    simp only [execute, executePublish, configObjectToAmqpTable_eq]
    split
    · rename_i ready
      split
      · rename_i accepted
        exact .handed .published accepted (live ready)
      · rename_i refused
        rw [transfer_refused refused]
        exact .refused
    · exact .refused
  | declare declaration =>
    have executed := execute_cases ⟨.declare declaration, pending⟩ answer s
    simp only [execute, executeDeclare, configObjectToAmqpTable_eq] at executed ⊢
    split
    · rename_i ready
      simp only [isReadyLocked, Bool.and_eq_true] at ready
      obtain ⟨channel, admin⟩ := Option.isSome_iff_exists.mp ready.2
      rw [admin]
      exact .submitted rfl
    · exact .refused
  | completeDelivery delivery action origin =>
    simp only [execute, executeCompleteDelivery]
    split
    · exact .refused
    · rename_i channel runs
      split
      · rename_i accepted
        exact .handed .settled accepted (coherent.live_of_channel runs)
      · rename_i refused
        rw [transfer_refused refused]
        exact .refused

/-- A callback answers a declaration, or grants nothing. -/
theorem Called.result {connection : Connection} {event : AmqpEvent}
    (live : s.connection = some connection) (called : Called s connection event s') :
    (s.confirms (.event event) = none ∧ Refuses s s') ∨
      ∃ declaration pending, s.confirms (.event event) = some (declaration, pending) ∧
        (declaration, pending) ∈ s.awaitedCalls ∧
        ∃ between, Refuses s between ∧ between.completed = s.completed ∧
          s' = completePendingResult pending makeSuccess
            { between with config := declaration.record between.config } := by
  cases called with
  | ready fresh =>
    have handshaken := refuses_onConnection
      (fun connection => { connection with handshaken := true }) (fun _ => rfl)
      (fun _ => List.Subset.refl _) s
    have ready : Refuses s { s.onConnection (fun connection =>
        { connection with handshaken := true }) with handshakeReady := true } :=
      handshaken.trans (refuses_same rfl rfl rfl)
    exact Or.inl ⟨rfl, ready.trans (startBootstrap_advanced _ _).refuses⟩
  | @succeeded index tag answer deferred found =>
    have confirmed := refuses_onConnection (.confirm index deferred) (fun _ => rfl)
      (fun _ => List.eraseIdx_subset) s
    have confirms : s.confirms (.event (.succeeded index tag answer)) = deferred.callback.call := by
      simp only [State.confirms, live, found, Option.bind_some]
    rcases onSuccess_chain deferred.callback tag answer (s.onConnection (.confirm index deferred))
      with ⟨declaration, pending, callback⟩ | ⟨chain, done, opened, advanced⟩
    · refine Or.inr ⟨declaration, pending, ?_, ?_, _, confirmed, rfl, ?_⟩
      · rw [confirms, callback]
        rfl
      · rw [awaitedCalls, live]
        exact List.mem_filterMap.mpr ⟨deferred, List.mem_of_getElem? found, by rw [callback]; rfl⟩
      · rw [callback]
        rfl
    · refine Or.inl ⟨?_, confirmed.trans advanced.refuses⟩
      rw [confirms]
      cases callback : deferred.callback with
      | declared declaration pending =>
        rw [callback] at chain
        cases chain
      | _ => rfl
  | @failed index message deferred found =>
    have refused := refuses_onConnection (.refuse index deferred) (fun _ => rfl)
      (fun _ => List.eraseIdx_subset) s
    exact Or.inl ⟨rfl, refused.trans (refuses_onError _ _ _)⟩
  | channelError member isOpen => exact Or.inl ⟨rfl, refuses_failChannel _ _ s⟩
  | connectionError => exact Or.inl ⟨rfl, refuses_failConnection _ s⟩
  | closed =>
    have closed := refuses_onConnection (fun connection => { connection with closed := true })
      (fun _ => rfl) (fun _ => List.Subset.refl _) s
    exact Or.inl ⟨rfl, closed.trans (refuses_requestDisconnect _ _)⟩
  | @received id message dispatch channel spec found receives =>
    have counted := refuses_onConnection (.countDelivery id) (fun _ => rfl)
      (fun _ => List.Subset.refl _) s
    exact Or.inl ⟨rfl, counted.trans (handleIncomingMessage_cases _ _ _ _ _ _).refuses⟩
  | cancelled member receives => exact Or.inl ⟨rfl, refuses_requestDisconnect _ s⟩
  | data => exact Or.inl ⟨rfl, refuses_onData _ s⟩

/-! ## Results -/

theorem resultOf_append {news : List (Nat × Result Unit)}
    (completed : s'.completed = s.completed ++ news) (pending : Nat) :
    s'.resultOf pending = (s.resultOf pending).or (news.lookup pending) := by
  rw [resultOf, completed, List.lookup_append, resultOf]

theorem resultOf_none {pending : Nat} (unset : pending ∉ s.completed.map (·.1)) :
    s.resultOf pending = none := by
  rw [resultOf, List.lookup_eq_none_iff]
  intro entry member
  rw [bne_iff_ne]
  rintro rfl
  exact unset (List.mem_map_of_mem member)

/-- A number that is open has no result. -/
theorem Balanced.open_unanswered (balanced : Balanced 0 s) {pending : Nat}
    (isOpen : pending ∈ s.unsettled) : pending ∉ s.completed.map (·.1) := by
  obtain ⟨others, split⟩ := Multiset.exists_cons_of_mem isOpen
  rw [Balanced, zero_add, split, ← Multiset.singleton_add] at balanced
  exact balanced.notSettled

theorem awaited_of_call {deferreds : List Deferred} {declaration : Declaration} {pending : Nat}
    (waits : (declaration, pending) ∈ deferreds.filterMap (·.callback.call)) :
    pending ∈ (deferreds.map (·.callback.owed)).sum := by
  induction deferreds with
  | nil => cases waits
  | cons deferred deferreds ih =>
    rw [List.map_cons, List.sum_cons, Multiset.mem_add]
    obtain ⟨other, member, calls⟩ := List.mem_filterMap.mp waits
    rcases List.mem_cons.mp member with rfl | later
    · left
      cases callback : other.callback with
      | declared stated number =>
        rw [callback] at calls
        cases calls
        exact Multiset.mem_singleton_self _
      | _ =>
        rw [callback] at calls
        cases calls
    · exact Or.inr (ih (List.mem_filterMap.mpr ⟨other, later, calls⟩))

/-- A call that waits for the broker has no result. -/
theorem Balanced.awaited_unanswered (balanced : Balanced 0 s) {declaration : Declaration}
    {pending : Nat} (waits : (declaration, pending) ∈ s.awaitedCalls) :
    s.resultOf pending = none := by
  apply resultOf_none
  apply balanced.open_unanswered
  rw [unsettled, Multiset.mem_add]
  right
  cases live : s.connection with
  | none =>
    rw [awaitedCalls, live] at waits
    cases waits
  | some connection =>
    rw [awaitedCalls, live] at waits
    exact awaited_of_call waits

/-- A command that is taken out of the batch has no result. -/
theorem Balanced.batch_unanswered (balanced : Balanced 0 s) {command : Command}
    {rest : List Command} (queued : s.localCommands = command :: rest) :
    s.resultOf command.pending = none := by
  apply resultOf_none
  have inHand := balanced.takes (takes_localCommands queued)
  rw [Balanced, add_zero] at inHand
  exact inHand.notSettled

theorem completed_fresh {pending : Nat} (fresh : s.resultOf pending = none)
    (value : Result Unit) :
    (s.completePendingResult pending value).completed = s.completed ++ [(pending, value)] := by
  have unset : (s.completed.map (·.1)).contains pending = false := by
    rw [Bool.eq_false_iff]
    intro found
    obtain ⟨entry, member, rfl⟩ := List.mem_map.mp (List.contains_iff_mem.mp found)
    rw [resultOf, List.lookup_eq_none_iff] at fresh
    exact (bne_iff_ne.mp (fresh entry member)) rfl
  rw [completePendingResult, unset, if_neg Bool.false_ne_true]

/-! ## Steps -/

/-- A step grants nothing. When it ends the connection, the frames that were handed over stay
handed over. -/
structure Silent (s : State) (l : Label) (s' : State) : Prop where
  config : s'.config = s.config
  transfers : (if s.disconnects l then s.transfers else []) ++ s'.transfers = s.transfers
  completed : ∃ errors, s'.completed = s.completed ++ errors ∧
    ∀ entry ∈ errors, isOk entry.2 = false
  awaits : ∀ call ∈ s'.awaitedCalls, call ∈ s.awaitedCalls

/-- What a step means for the callers. The numbers of commands that are executed or confirmed
have no result before. -/
inductive ResultStep (s : State) (l : Label) (s' : State) : Prop where
  | silent : s.executes l = none → s.confirms l = none → Silent s l s' → ResultStep s l s'
  | performed {command : Command} {frame : Transfer} {errors : List (Nat × Result Unit)} :
      s.executes l = some command → s.confirms l = none → s.disconnects l = false →
      Hands command frame → s.resultOf command.pending = none → s'.config = s.config →
      s'.transfers = s.transfers ++ [frame] →
      s'.completed = s.completed ++ (command.pending, makeSuccess) :: errors →
      (∀ entry ∈ errors, isOk entry.2 = false) →
      (∀ call ∈ s'.awaitedCalls, call ∈ s.awaitedCalls) → ResultStep s l s'
  | denied {command : Command} : s.executes l = some command → s.confirms l = none →
      s.disconnects l = false → s.resultOf command.pending = none → s'.config = s.config →
      s'.transfers = s.transfers →
      (∃ errors, s'.completed = s.completed ++ errors ∧ ∀ entry ∈ errors, isOk entry.2 = false) →
      (command.body.isDeclare = false → (s'.resultOf command.pending).isSome = true) →
      (∀ call ∈ s'.awaitedCalls, call ∈ s.awaitedCalls ∨ command = ⟨.declare call.1, call.2⟩) →
      ResultStep s l s'
  | confirmed {declaration : Declaration} {pending : Nat} : s.executes l = none →
      s.confirms l = some (declaration, pending) → s.disconnects l = false →
      (declaration, pending) ∈ s.awaitedCalls → s.resultOf pending = none →
      s'.config = declaration.record s.config → s'.transfers = s.transfers →
      s'.completed = s.completed ++ [(pending, makeSuccess)] →
      (∀ call ∈ s'.awaitedCalls, call ∈ s.awaitedCalls) → ResultStep s l s'

theorem Refuses.silent {l : Label} (refuses : Refuses s s') (lasts : s.disconnects l = false) :
    Silent s l s' where
  config := refuses.config
  transfers := by rw [lasts, refuses.transfers]; rfl
  completed := refuses.completed
  awaits := refuses.awaits

theorem silent_handleDisconnect {l : Label} (ends : s.disconnects l = true) (reason : ReasonRef)
    (now : Int) (pc : DriverPc) : Silent s l { s.handleDisconnect reason now with pc } := by
  obtain ⟨_, _, _, _, _, dropped⟩ := handleDisconnect_eq reason now s
  rw [dropped]
  refine ⟨rfl, ?_, (refuses_failConnection reason s).completed, nofun⟩
  rw [ends, if_pos rfl]
  exact List.append_nil _

theorem transfers_transfer {frame : Transfer} {answer : Answer} (accepted : answer.accepted = true)
    (live : s.connection.isSome = true) :
    (s.transfer frame answer).transfers = s.transfers ++ [frame] := by
  obtain ⟨connection, live⟩ := Option.isSome_iff_exists.mp live
  simp only [State.transfer, if_pos accepted, State.transfers, onData, onConnection, live,
    Option.map_some, Option.getD_some]

theorem awaitedCalls_transfer (frame : Transfer) (answer : Answer) (s : State) :
    (s.transfer frame answer).awaitedCalls = s.awaitedCalls := by
  unfold State.transfer
  split
  · cases live : s.connection <;> simp only [awaitedCalls, onData, onConnection, live] <;> rfl
  · rfl

/-- A command is executed in the middle of a step that grants nothing else. -/
theorem Performed.result {l : Label} {taken after : State} {command : Command} {answer : Answer}
    (performed : Performed taken command answer after) (executes : s.executes l = some command)
    (unconfirmed : s.confirms l = none) (lasts : s.disconnects l = false)
    (config : taken.config = s.config) (connection : taken.connection = s.connection)
    (completed : taken.completed = s.completed) (fresh : s.resultOf command.pending = none)
    (flushed : Refuses after s') : ResultStep s l s' := by
  have freshTaken : taken.resultOf command.pending = none := by
    rw [resultOf, completed]
    exact fresh
  have before : Refuses s taken := refuses_same config connection completed
  cases performed with
  | @refused e =>
    have refused := (before.trans (refuses_completePendingResult command.pending e taken)).trans
      flushed
    refine .denied executes unconfirmed lasts fresh refused.config refused.transfers
      refused.completed ?_ fun call waits => Or.inl (refused.awaits call waits)
    intro other
    obtain ⟨errors, grown, -⟩ := flushed.completed
    rw [resultOf_append grown, resultOf_append (completed_fresh freshTaken (.error e)), freshTaken]
    simp
  | @handed frame hands accepted live =>
    have sentFresh : (taken.transfer frame answer).resultOf command.pending = none := by
      rw [resultOf, (quiet_transfer frame answer taken).same State.completed fun _ => rfl]
      exact freshTaken
    have told := completed_fresh sentFresh makeSuccess
    rw [(quiet_transfer frame answer taken).same State.completed fun _ => rfl, completed] at told
    obtain ⟨_, _, _, reported⟩ := reports_completePendingResult command.pending makeSuccess
      (taken.transfer frame answer)
    obtain ⟨errors, grown, refused⟩ := flushed.completed
    refine .performed executes unconfirmed lasts hands fresh ?_ ?_ ?_ refused ?_
    · rw [flushed.config, reported, ← config]
      exact (quiet_transfer frame answer taken).same State.config fun _ => rfl
    · rw [flushed.transfers, reported]
      show (taken.transfer frame answer).transfers = s.transfers ++ [frame]
      rw [transfers_transfer accepted live, before.transfers]
    · rw [grown, told, List.append_assoc]
      rfl
    · intro call waits
      have waits := flushed.awaits call waits
      rw [reported] at waits
      have waits : call ∈ (taken.transfer frame answer).awaitedCalls := waits
      rw [awaitedCalls_transfer] at waits
      exact before.awaits call waits
  | @submitted declaration channel body =>
    obtain ⟨stated, pending⟩ := command
    subst body
    rcases submit_result channel declaration.operation (.declared declaration pending) answer taken
      with refused | ⟨sameConfig, transfers, same, awaits⟩
    · have refused := (before.trans refused).trans flushed
      exact .denied executes unconfirmed lasts fresh refused.config refused.transfers
        refused.completed nofun fun call waits => Or.inl (refused.awaits call waits)
    · refine .denied executes unconfirmed lasts fresh ?_ ?_ ?_ nofun ?_
      · rw [flushed.config, sameConfig, config]
      · rw [flushed.transfers, transfers, before.transfers]
      · obtain ⟨errors, grown, refused⟩ := flushed.completed
        exact ⟨errors, by rw [grown, same, completed], refused⟩
      · intro call waits
        rcases awaits call (flushed.awaits call waits) with earlier | new
        · exact Or.inl (before.awaits call earlier)
        · cases new
          exact Or.inr rfl

theorem step_result {l : Label} (coherent : Coherent s) (balanced : Balanced 0 s)
    (taken : s.step l = some s') : ResultStep s l s' := by
  have same {l : Label} {next : State} (idle : s.executes l = none) (silent : s.confirms l = none)
      (lasts : s.disconnects l = false) (config : next.config = s.config)
      (connection : next.connection = s.connection) (completed : next.completed = s.completed) :
      ResultStep s l next :=
    .silent idle silent ((refuses_same config connection completed).silent lasts)
  have moved {l : Label} {after : State} (idle : s.executes l = none)
      (silent : s.confirms l = none) (lasts : s.disconnects l = false) (refuses : Refuses s after)
      (pc : DriverPc) : ResultStep s l { after with pc } := by
    have goesOn : Refuses s { after with pc } := refuses.trans (refuses_same rfl rfl rfl)
    exact .silent idle silent (goesOn.silent lasts)
  cases step_cases taken with
  | startRefused joinable => exact same rfl rfl rfl rfl rfl rfl
  | start idle fresh => exact same rfl rfl rfl rfl rfl rfl
  | stopRequest idle => exact same rfl rfl rfl rfl rfl rfl
  | stopJoin joining ended => exact same rfl rfl rfl rfl rfl rfl
  | stopFinish finishing => exact same rfl rfl rfl rfl rfl rfl
  | callAnswered checked => exact same rfl rfl rfl rfl rfl rfl
  | callQueued checked => exact .silent rfl rfl ((refuses_enqueueCommand _ s).silent rfl)
  | registerHandler => exact same rfl rfl rfl rfl rfl rfl
  | unregisterHandler => exact same rfl rfl rfl rfl rfl rfl
  | @finishTask index outcome task found =>
    have removed : Refuses s { s with tasks := s.tasks.eraseIdx index } :=
      refuses_same rfl rfl rfl
    exact .silent rfl rfl ((removed.trans (refuses_finishTask task outcome _)).silent rfl)
  | entered pc => exact same rfl rfl rfl rfl rfl rfl
  | entryFailed pc => exact same rfl rfl rfl rfl rfl rfl
  | stopSeen pc stop => exact same rfl rfl rfl rfl rfl rfl
  | goOn pc goOn => exact same rfl rfl rfl rfl rfl rfl
  | swapCommands pc => exact same rfl rfl rfl rfl rfl rfl
  | @runCommand answer sends command rest pc queued =>
    have popped : Coherent { s with localCommands := rest } :=
      { coherent with place := by rw [pc]; trivial }
    have executes : s.executes (.runCommand answer sends) = some command := by
      rw [State.executes, queued]
      rfl
    exact (execute_performed popped command answer).result executes rfl rfl rfl rfl rfl
      (balanced.batch_unanswered queued) (refuses_flushOutboundData sends _)
  | commandsDone pc none up => exact same rfl rfl rfl rfl rfl rfl
  | commandsDoneDown pc none down => exact same rfl rfl rfl rfl rfl rfl
  | attempt pc attempt => exact same rfl rfl rfl rfl rfl rfl
  | noAttempt pc refused => exact same rfl rfl rfl rfl rfl rfl
  | connected pc =>
    have place := coherent.place
    rw [pc] at place
    have down := coherent.gone place.1
    refine .silent rfl rfl ⟨rfl, ?_, ⟨[], (List.append_nil _).symm, ?_⟩, ?_⟩
    · rw [State.transfers, State.transfers, down]
      rfl
    · intro entry member
      cases member
    · intro call member
      cases member
  | connectFailed pc => exact same rfl rfl rfl rfl rfl rfl
  | flushBefore pc => exact moved rfl rfl rfl (refuses_flushOutboundData _ s) _
  | @poll outcome pc possible => cases outcome <;> exact same rfl rfl rfl rfl rfl rfl
  | event pc live alive called =>
    rcases called.result live with ⟨silent, refuses⟩ |
      ⟨declaration, pending, confirms, waits, between, refuses, completed, rfl⟩
    · exact .silent rfl silent (refuses.silent rfl)
    · have fresh := balanced.awaited_unanswered waits
      have freshBetween : between.resultOf pending = none := by
        rw [resultOf, completed]
        exact fresh
      have told := completed_fresh
        (s := { between with config := declaration.record between.config }) freshBetween makeSuccess
      obtain ⟨_, _, _, reported⟩ := reports_completePendingResult pending makeSuccess
        { between with config := declaration.record between.config }
      refine .confirmed rfl confirms rfl waits fresh ?_ ?_ ?_ ?_
      · rw [reported, ← refuses.config]
      · rw [reported]
        exact refuses.transfers
      · rw [told, completed]
      · intro call still
        rw [reported] at still
        exact refuses.awaits call still
  | parsed pc bounded next => exact same rfl rfl rfl rfl rfl rfl
  | flushAfter pc => exact moved rfl rfl rfl (refuses_flushOutboundData _ s) _
  | heartbeat pc => exact moved rfl rfl rfl (refuses_maybeSendHeartbeat _ _ s) _
  | @disconnect now stale pc pending =>
    have ends : s.disconnects (.endTurn now stale) = true := pending
    exact .silent rfl rfl (silent_handleDisconnect ends _ _ _)
  | endTurn pc settled => exact same rfl rfl settled rfl rfl rfl
  | finalDisconnect pc => exact .silent rfl rfl (silent_handleDisconnect rfl _ _ _)
  | waitOver pc completed => exact same rfl rfl rfl rfl rfl rfl

end State

end ModuleContext.RabbitMqBus.Driver
