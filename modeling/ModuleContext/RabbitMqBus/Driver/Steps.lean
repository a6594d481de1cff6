import ModuleContext.RabbitMqBus.Driver.Operations

/-!
# What a step can do

Every step of the system, and every callback of the AMQP library, as one case with what it
requires and what it leaves. All invariants are proved from these two case analyses.
-/

namespace ModuleContext.RabbitMqBus.Driver
open Foundation Misc

/-- A channel found by its number. -/
theorem found_channel {channels : List Channel} {id : Nat} {channel : Channel}
    (found : channels.find? (fun channel => channel.id == id && !channel.closed) = some channel) :
    channel ∈ channels ∧ channel.id = id ∧ channel.closed = false := by
  have holds := List.find?_some found
  rw [Bool.and_eq_true, beq_iff_eq, Bool.not_eq_true'] at holds
  exact ⟨List.mem_of_find?_eq_some found, holds.1, holds.2⟩

variable [AmqpFields]

namespace State

/-- The cases of a callback that `parse` makes on a connection that has not failed. -/
inductive Called (s : State) (connection : Connection) : AmqpEvent → State → Prop where
  | ready {answer : Answer} : connection.handshaken = false →
      Called s connection (.ready answer)
        (startBootstrap answer
          { s.onConnection ({ · with handshaken := true }) with handshakeReady := true })
  | succeeded {index : Nat} {tag : String} {answer : Answer} {deferred : Deferred} :
      connection.outstanding[index]? = some deferred →
      Called s connection (.succeeded index tag answer)
        (onSuccess deferred.callback tag answer (s.onConnection (.confirm index deferred)))
  | failed {index : Nat} {message : String} {deferred : Deferred} :
      connection.outstanding[index]? = some deferred →
      Called s connection (.failed index message)
        (onError deferred.callback message (s.onConnection (.refuse index deferred)))
  | channelError {message : String} {channel : Channel} :
      channel ∈ connection.channels → channel.closed = false →
      Called s connection (.channelError channel.id message) (s.failChannel channel message)
  | connectionError {message : String} :
      Called s connection (.connectionError message) (s.failConnection (.text message))
  | closed : Called s connection .closed
      (requestDisconnect "RabbitMQ connection closed" (s.onConnection ({ · with closed := true })))
  | received {id : Nat} {message : AmqpMessage} {dispatch : Dispatch} {channel : Channel}
      {spec : ConsumerSpec} :
      connection.channels.find? (fun channel => channel.id == id && !channel.closed) =
        some channel → channel.receiver = some spec →
      Called s connection (.received id message dispatch)
        (handleIncomingMessage spec message channel.nextTag id dispatch
          (s.onConnection (.countDelivery id)))
  | cancelled {channel : Channel} {spec : ConsumerSpec} :
      channel ∈ connection.channels → channel.receiver = some spec →
      Called s connection (.cancelled channel.id)
        (s.requestDisconnect
          ("RabbitMQ consumer '" ++ spec.name ++ "' was cancelled by broker"))
  | data {produced : List UInt8} : Called s connection (.data produced) (s.onData produced)

theorem amqpEvent_cases {s s' : State} {event : AmqpEvent}
    (made : s.amqpEvent event = some s') :
    ∃ connection, s.connection = some connection ∧ connection.closed = false ∧
      Called s connection event s' := by
  unfold amqpEvent at made
  cases live : s.connection with
  | none => simp [live] at made
  | some connection =>
    rw [live] at made
    dsimp only at made
    split at made
    · cases made
    · rename_i alive
      refine ⟨connection, rfl, by simpa using alive, ?_⟩
      cases event with
      | ready answer =>
        dsimp only at made
        split at made
        · cases made
        · rename_i fresh
          cases made
          exact .ready (by simpa using fresh)
      | succeeded index tag answer =>
        cases found : connection.outstanding[index]? with
        | none => simp [found] at made
        | some deferred =>
          simp only [found, Option.some.injEq] at made
          subst made
          exact .succeeded found
      | failed index message =>
        cases found : connection.outstanding[index]? with
        | none => simp [found] at made
        | some deferred =>
          simp only [found, Option.some.injEq] at made
          subst made
          exact .failed found
      | channelError id message =>
        dsimp only at made
        split at made
        · cases made
        · rename_i channel found
          obtain ⟨member, rfl, isOpen⟩ := found_channel found
          cases made
          exact .channelError member isOpen
      | connectionError message =>
        cases made
        exact .connectionError
      | closed =>
        cases made
        exact .closed
      | received id message dispatch =>
        dsimp only at made
        split at made
        · cases made
        · rename_i channel found
          split at made
          · cases made
          · rename_i spec receives
            cases made
            exact .received found receives
      | cancelled id =>
        dsimp only at made
        split at made
        · cases made
        · rename_i channel found
          obtain ⟨member, rfl, -⟩ := found_channel found
          obtain ⟨spec, receives, rfl⟩ := Option.map_eq_some_iff.mp made
          exact .cancelled member receives
      | data produced =>
        cases made
        exact .data

/-- The cases of a step. -/
inductive Stepped (s : State) : Label → State → Prop where
  | startRefused {now : Int} : s.threadJoinable = true → Stepped s (.start now) s
  | start {now : Int} : s.control = .idle → s.threadJoinable = false →
      Stepped s (.start now)
        { s with
          stopRequested := false, state := .connecting, lastError := "", nextReconnectAt := now
          reconnectDelayMs := s.config.connection.reconnect.initialDelayMs
          threadJoinable := true, pc := .entry }
  | stopRequest : s.control = .idle →
      Stepped s .stopRequest { s with stopRequested := true, control := .joining }
  | stopJoin : s.control = .joining → (s.threadJoinable = true → s.pc = .returned) →
      Stepped s .stopJoin { s with threadJoinable := false, control := .finishing }
  | stopFinish : s.control = .finishing →
      Stepped s .stopFinish { s with state := .stopped, control := .idle }
  | callAnswered {call : ClientCall} {result : Result Unit} : call.command = .error result →
      Stepped s (.call call) s
  | callQueued {call : ClientCall} {body : CommandBody} : call.command = .ok body →
      Stepped s (.call call) (s.enqueueCommand body)
  | registerHandler {consumerName : String} {handler : Nat} :
      Stepped s (.registerHandler consumerName handler)
        { s with handlers := s.handlers.insert consumerName handler }
  | unregisterHandler {consumerName : String} :
      Stepped s (.unregisterHandler consumerName)
        { s with handlers := s.handlers.erase consumerName }
  | finishTask {index : Nat} {outcome : HandlerOutcome} {task : Task} :
      s.tasks[index]? = some task →
      Stepped s (.finishTask index outcome)
        (finishTask task outcome { s with tasks := s.tasks.eraseIdx index })
  | entered : s.pc = .entry → Stepped s (.enter true) { s with pc := .loopTest }
  | entryFailed : s.pc = .entry →
      Stepped s (.enter false)
        { s with
          state := .error, lastError := "Failed to initialize socket subsystem", pc := .returned }
  | stopSeen : s.pc = .loopTest → s.stopRequested = true →
      Stepped s .testStop { s with pc := .finalDisconnect }
  | goOn : s.pc = .loopTest → s.stopRequested = false →
      Stepped s .testStop { s with pc := .drain }
  | swapCommands : s.pc = .drain →
      Stepped s .swapCommands
        { s with localCommands := s.commands, commands := [], pc := .commands }
  | runCommand {answer : Answer} {sends : List SendOutcome} {command : Command}
      {rest : List Command} : s.pc = .commands → s.localCommands = command :: rest →
      Stepped s (.runCommand answer sends)
        (flushOutboundData sends (execute command answer { s with localCommands := rest }))
  | commandsDone : s.pc = .commands → s.localCommands = [] → s.connected = true →
      Stepped s .commandsDone { s with pc := .flushBefore }
  | commandsDoneDown : s.pc = .commands → s.localCommands = [] → s.connected = false →
      Stepped s .commandsDone { s with pc := .connectTest }
  | attempt {now : Int} : s.pc = .connectTest → s.shouldAttemptReconnect now = true →
      Stepped s (.testReconnect now) { s with pc := .connect }
  | noAttempt {now : Int} : s.pc = .connectTest → s.shouldAttemptReconnect now = false →
      Stepped s (.testReconnect now) { s with pc := .loopTest }
  | connected {socketFd : Nat} {produced : List UInt8} {now : Int} : s.pc = .connect →
      Stepped s (.connect (.connected socketFd produced) now)
        { s.connectSocket socketFd produced now with pc := .loopTest }
  | connectFailed {e : Error} {now : Int} : s.pc = .connect →
      Stepped s (.connect (.failed e) now)
        { s.applyReconnectBackoff e.message now with pc := .loopTest }
  | flushBefore {sends : List SendOutcome} : s.pc = .flushBefore →
      Stepped s (.flush sends) { s.flushOutboundData sends with pc := .pump }
  | poll {outcome : PollOutcome} : s.pc = .pump → outcome.isPossible = true →
      Stepped s (.poll outcome) (s.pollSocket outcome)
  | event {event : AmqpEvent} {connection : Connection} {s' : State} : s.pc = .parsing →
      s.connection = some connection → connection.closed = false →
      Called s connection event s' → Stepped s (.event event) s'
  | parsed {count : Nat} {pc : DriverPc} : s.pc = .parsing → count ≤ s.inbound.length →
      pc = .flushAfter ∨ pc = .parsing →
      Stepped s (.parsed count) { s with inbound := s.inbound.drop count, pc }
  | flushAfter {sends : List SendOutcome} : s.pc = .flushAfter →
      Stepped s (.flush sends) { s.flushOutboundData sends with pc := .heartbeat }
  | heartbeat {now : Int} {produced : List UInt8} : s.pc = .heartbeat →
      Stepped s (.heartbeat now produced) { s.maybeSendHeartbeat now produced with pc := .turnEnd }
  | disconnect {now : Int} {stale : List String} : s.pc = .turnEnd →
      s.pendingDisconnect = true → Stepped s (.endTurn now stale)
        { s.handleDisconnect (.pendingReason stale) now with pc := .loopTest }
  | endTurn {now : Int} {stale : List String} : s.pc = .turnEnd → s.pendingDisconnect = false →
      Stepped s (.endTurn now stale) { s with pc := .loopTest }
  | finalDisconnect {now : Int} : s.pc = .finalDisconnect →
      Stepped s (.finalDisconnect now)
        { s.handleDisconnect (.text "RabbitMQ driver stopped") now with pc := .returned }
  | waitOver {pending : Nat} : s.pc = .waiting pending →
      (s.completed.map (·.1)).contains pending = true →
      Stepped s .waitOver { s with pc := .parsing }

theorem driverStep_cases {s s' : State} {l : Label} (taken : s.driverStep l = some s') :
    Stepped s l s' := by
  unfold driverStep at taken
  split at taken
  · rename_i socketsOk pc
    cases socketsOk with
    | true =>
      cases taken
      exact .entered pc
    | false =>
      cases taken
      exact .entryFailed pc
  · rename_i pc
    cases taken
    by_cases stop : s.stopRequested = true
    · rw [if_pos stop]
      exact .stopSeen pc stop
    · rw [if_neg stop]
      exact .goOn pc (by simpa using stop)
  · rename_i pc
    cases taken
    exact .swapCommands pc
  · rename_i answer sends pc
    cases queued : s.localCommands with
    | nil => simp [queued] at taken
    | cons command rest =>
      simp only [queued, Option.some.injEq] at taken
      subst taken
      exact .runCommand pc queued
  · rename_i pc
    by_cases done : s.localCommands.isEmpty = true
    · rw [if_pos done] at taken
      cases taken
      have none := List.isEmpty_iff.mp done
      by_cases up : s.connected = true
      · rw [if_pos up]
        exact .commandsDone pc none up
      · rw [if_neg up]
        exact .commandsDoneDown pc none (by simpa using up)
    · rw [if_neg done] at taken
      cases taken
  · rename_i now pc
    cases taken
    by_cases attempt : s.shouldAttemptReconnect now = true
    · rw [if_pos attempt]
      exact .attempt pc attempt
    · rw [if_neg attempt]
      exact .noAttempt pc (by simpa using attempt)
  · rename_i outcome now pc
    cases outcome with
    | connected socketFd produced =>
      cases taken
      exact .connected pc
    | failed e =>
      cases taken
      exact .connectFailed pc
  · rename_i pc
    cases taken
    exact .flushBefore pc
  · rename_i outcome pc
    by_cases possible : outcome.isPossible = true
    · rw [if_pos possible] at taken
      cases taken
      exact .poll pc possible
    · rw [if_neg possible] at taken
      cases taken
  · rename_i pc
    obtain ⟨connection, live, alive, called⟩ := amqpEvent_cases taken
    exact .event pc live alive called
  · rename_i count pc
    by_cases bounded : count ≤ s.inbound.length
    · rw [if_pos bounded] at taken
      cases taken
      refine .parsed pc bounded ?_
      split
      · exact Or.inl rfl
      · exact Or.inr rfl
    · rw [if_neg bounded] at taken
      cases taken
  · rename_i pending pc
    by_cases completed : (s.completed.map (·.1)).contains pending = true
    · rw [if_pos completed] at taken
      cases taken
      exact .waitOver pc completed
    · rw [if_neg completed] at taken
      cases taken
  · rename_i pc
    cases taken
    exact .flushAfter pc
  · rename_i pc
    cases taken
    exact .heartbeat pc
  · rename_i pc
    by_cases pending : s.pendingDisconnect = true
    · rw [if_pos pending] at taken
      cases taken
      exact .disconnect pc pending
    · rw [if_neg pending] at taken
      cases taken
      exact .endTurn pc (by simpa using pending)
  · rename_i pc
    cases taken
    exact .finalDisconnect pc
  · cases taken

theorem step_cases {s s' : State} {l : Label} (taken : s.step l = some s') :
    Stepped s l s' := by
  cases l
  case start now =>
    simp only [step, Option.ite_none_right_eq_some, Option.some.injEq] at taken
    obtain ⟨idle, rfl⟩ := taken
    unfold start
    split
    · rename_i joinable
      exact .startRefused joinable
    · rename_i fresh
      exact .start idle (by simpa using fresh)
  case stopRequest =>
    simp only [step, Option.ite_none_right_eq_some, Option.some.injEq] at taken
    obtain ⟨idle, rfl⟩ := taken
    exact .stopRequest idle
  case stopJoin =>
    simp only [step, Option.ite_none_right_eq_some, Option.some.injEq] at taken
    obtain ⟨⟨joining, ended⟩, rfl⟩ := taken
    exact .stopJoin joining ended
  case stopFinish =>
    simp only [step, Option.ite_none_right_eq_some, Option.some.injEq] at taken
    obtain ⟨finishing, rfl⟩ := taken
    exact .stopFinish finishing
  case call call =>
    cases checked : call.command with
    | error result =>
      simp only [step, checked, Option.some.injEq] at taken
      subst taken
      exact .callAnswered checked
    | ok body =>
      simp only [step, checked, Option.some.injEq] at taken
      subst taken
      exact .callQueued checked
  case registerHandler consumerName handler =>
    simp only [step, Option.ite_none_right_eq_some, Option.some.injEq] at taken
    obtain ⟨-, rfl⟩ := taken
    exact .registerHandler
  case unregisterHandler consumerName =>
    simp only [step, Option.some.injEq] at taken
    subst taken
    exact .unregisterHandler
  case finishTask index outcome =>
    cases found : s.tasks[index]? with
    | none => simp [step, found] at taken
    | some task =>
      simp only [step, found, Option.some.injEq] at taken
      subst taken
      exact .finishTask found
  all_goals exact driverStep_cases taken

end State

end ModuleContext.RabbitMqBus.Driver
