import ModuleContext.Misc.Spacing
import ModuleContext.RabbitMqBus.Driver.ReconnectDelay

/-!
# Heartbeats

Once the handshake is complete, each turn of the driver thread looks whether half of the
configured interval has passed since the last heartbeat, or since the socket was connected, and
then sends one. Only these two moments are remembered, and only for the connection at hand.
-/

namespace ModuleContext.RabbitMqBus.Driver
open Foundation Misc

/-- Half of the configured interval, in milliseconds. -/
def heartbeatInterval (heartbeatSeconds : UInt16) : Int := max 1 (heartbeatSeconds.toNat * 500)

theorem heartbeatInterval_pos (heartbeatSeconds : UInt16) :
    0 < heartbeatInterval heartbeatSeconds := by
  unfold heartbeatInterval
  omega

section

variable [AmqpFields]

namespace State

/-- The connection at hand is far enough for heartbeats, and they are configured. -/
def heartbeatsRun (s : State) : Bool :=
  !(!s.connected || s.connection.isNone || !s.handshakeReady ||
    s.config.connection.heartbeatSeconds == 0)

/-- The time of a heartbeat that a step sends. -/
def beats (s : State) : Label → Option Int
  | .heartbeat now _ =>
      if s.heartbeatsRun && (s.lastHeartbeatSent.all fun last =>
          decide (last + heartbeatInterval s.config.connection.heartbeatSeconds ≤ now))
      then some now else none
  | _ => none

/-- The time at which a step connects a socket. -/
def connects : Label → Option Int
  | .connect (.connected _ _) now => some now
  | _ => none

/-- When the last socket was connected and the heartbeats sent since then, newest first. -/
def signsOfLife : List (State × Label) → List Int
  | [] => []
  | (s, l) :: past =>
      match connects l with
      | some now => [now]
      | none => (s.beats l).toList ++ signsOfLife past

variable {s s' : State}

/-! ## Operations that leave the last heartbeat alone -/

theorem Reports.lastHeartbeatSent (reports : Reports s s') :
    s'.lastHeartbeatSent = s.lastHeartbeatSent := by
  obtain ⟨_, _, _, rfl⟩ := reports
  rfl

theorem lastHeartbeatSent_transfer (frame : Transfer) (answer : Answer) (s : State) :
    (s.transfer frame answer).lastHeartbeatSent = s.lastHeartbeatSent := by
  unfold transfer
  split <;> rfl

theorem lastHeartbeatSent_flushOutboundData (sends : List SendOutcome) (s : State) :
    (s.flushOutboundData sends).lastHeartbeatSent = s.lastHeartbeatSent := by
  induction sends generalizing s with
  | nil => rfl
  | cons outcome outcomes ih =>
    unfold flushOutboundData
    split
    · split
      · exact ih _
      · split <;> rfl
    · rfl

theorem lastHeartbeatSent_submit (channel : Nat) (operation : AmqpOperation) (callback : Callback)
    (answer : Answer) (s : State) :
    (s.submit channel operation callback answer).lastHeartbeatSent = s.lastHeartbeatSent := by
  unfold submit
  dsimp only
  split
  · rfl
  · exact (reports_onError callback _ _).lastHeartbeatSent

theorem lastHeartbeatSent_markActive (name tag : String) (s : State) :
    (s.markActive name tag).lastHeartbeatSent = s.lastHeartbeatSent := by
  unfold markActive
  split <;> rfl

theorem Advanced.lastHeartbeatSent {done : List AmqpOperation} {opened : Nat}
    (advanced : Advanced s done opened s') : s'.lastHeartbeatSent = s.lastHeartbeatSent := by
  induction advanced with
  | stuck => rfl
  | broken => rfl
  | finished => rfl
  | submitted place running => exact lastHeartbeatSent_submit _ _ _ _ _
  | opened here next ih => exact ih
  | active next ih => exact ih.trans (lastHeartbeatSent_markActive _ _ _)

theorem lastHeartbeatSent_enqueueCommand (body : CommandBody) (s : State) :
    (s.enqueueCommand body).lastHeartbeatSent = s.lastHeartbeatSent := by
  unfold enqueueCommand
  split <;> rfl

theorem lastHeartbeatSent_finishTask (task : Task) (outcome : HandlerOutcome) (s : State) :
    (finishTask task outcome s).lastHeartbeatSent = s.lastHeartbeatSent := by
  rcases finishTask_cases task outcome s with ⟨-, same⟩ | ⟨-, queued⟩
  · rw [same]
  · rw [queued, lastHeartbeatSent_enqueueCommand]

theorem Handled.lastHeartbeatSent {delivery : DeliveryContext} {origin : Nat}
    (handled : Handled s delivery origin s') : s'.lastHeartbeatSent = s.lastHeartbeatSent := by
  cases handled with
  | ignored => rfl
  | answered running other => exact lastHeartbeatSent_enqueueCommand _ s
  | dispatched => rfl

theorem lastHeartbeatSent_execute (command : Command) (answer : Answer) (s : State) :
    (s.execute command answer).lastHeartbeatSent = s.lastHeartbeatSent := by
  have completed (pending : Nat) (value : Result Unit) (s : State) :
      (s.completePendingResult pending value).lastHeartbeatSent = s.lastHeartbeatSent :=
    (reports_completePendingResult pending value s).lastHeartbeatSent
  obtain ⟨body, pending⟩ := command
  cases body with
  | publish request =>
    simp only [execute, executePublish]
    split
    · split
      · exact completed _ _ s
      · split <;> rw [completed, lastHeartbeatSent_transfer]
    · exact completed _ _ s
  | declare declaration =>
    simp only [execute, executeDeclare]
    split
    · split
      · exact completed _ _ s
      · split
        · rfl
        · exact lastHeartbeatSent_submit _ _ _ _ s
    · exact completed _ _ s
  | completeDelivery delivery action origin =>
    simp only [execute, executeCompleteDelivery]
    split
    · exact completed _ _ s
    · split <;> rw [completed, lastHeartbeatSent_transfer]

theorem Called.lastHeartbeatSent {connection : Connection} {event : AmqpEvent}
    (called : Called s connection event s') : s'.lastHeartbeatSent = s.lastHeartbeatSent := by
  cases called with
  | ready fresh => exact (startBootstrap_advanced _ _).lastHeartbeatSent
  | @succeeded index tag answer deferred found =>
    rcases onSuccess_chain deferred.callback tag answer (s.onConnection (.confirm index deferred))
      with ⟨declaration, pending, callback⟩ | ⟨chain, done, opened, advanced⟩
    · rw [callback]
      exact (reports_completePendingResult _ _ _).lastHeartbeatSent
    · exact advanced.lastHeartbeatSent
  | failed found => exact (reports_onError _ _ _).lastHeartbeatSent
  | channelError member isOpen => exact (reports_failChannel _ _ s).lastHeartbeatSent
  | connectionError => exact (reports_failConnection _ s).lastHeartbeatSent
  | closed => rfl
  | received found receives => exact (handleIncomingMessage_cases _ _ _ _ _ _).lastHeartbeatSent
  | cancelled member receives => rfl
  | data => rfl

/-! ## Steps -/

/-- The loop sends a heartbeat exactly when `beats` says so. -/
theorem maybeSendHeartbeat_eq (now : Int) (produced : List UInt8) (s : State) :
    s.maybeSendHeartbeat now produced =
      if (s.beats (.heartbeat now produced)).isSome then
        { s.onData produced with lastHeartbeatSent := some now }
      else s := by
  unfold maybeSendHeartbeat beats heartbeatsRun
  dsimp only
  cases guard : !s.connected || s.connection.isNone || !s.handshakeReady ||
      s.config.connection.heartbeatSeconds == 0 with
  | true => rfl
  | false =>
    cases sent : s.lastHeartbeatSent with
    | none => rfl
    | some last =>
      have same : (!decide (now - last < heartbeatInterval s.config.connection.heartbeatSeconds)) =
          decide (last + heartbeatInterval s.config.connection.heartbeatSeconds ≤ now) := by
        rw [← decide_not, decide_eq_decide]
        omega
      change (if !decide (now - last < heartbeatInterval s.config.connection.heartbeatSeconds)
        then _ else s) = _
      rw [same]
      by_cases due : last + heartbeatInterval s.config.connection.heartbeatSeconds ≤ now
      · simp [due]
      · simp [due]

theorem beats_spec {l : Label} {now : Int} (beats : s.beats l = some now) :
    s.heartbeatsRun = true ∧ ∀ last, s.lastHeartbeatSent = some last →
      last + heartbeatInterval s.config.connection.heartbeatSeconds ≤ now := by
  cases l with
  | heartbeat time produced =>
    rw [State.beats] at beats
    split at beats
    · rename_i due
      cases beats
      rw [Bool.and_eq_true] at due
      refine ⟨due.1, fun last there => ?_⟩
      rw [there] at due
      exact of_decide_eq_true due.2
    · cases beats
  | _ => cases beats

theorem heartbeatsRun_connected (run : s.heartbeatsRun = true) : s.connected = true := by
  simp only [heartbeatsRun, Bool.not_or, Bool.and_eq_true, Bool.not_not] at run
  exact run.1.1.1

/-- What a step does to the last heartbeat: a socket is connected, a heartbeat is sent, or it
stays. -/
inductive BeatStep (s : State) (l : Label) (s' : State) : Prop where
  | connects {now : Int} : connects l = some now → s'.lastHeartbeatSent = some now →
      BeatStep s l s'
  | beats {now : Int} : connects l = none → s.beats l = some now →
      s'.lastHeartbeatSent = some now → BeatStep s l s'
  | kept : connects l = none → s.beats l = none → (s'.connected = true → s.connected = true) →
      s'.lastHeartbeatSent = s.lastHeartbeatSent → BeatStep s l s'

theorem step_beat {l : Label} (taken : s.step l = some s') : BeatStep s l s' := by
  have same {l : Label} {next : State} (unconnected : connects l = none)
      (silent : s.beats l = none) (connected : next.connected = s.connected)
      (last : next.lastHeartbeatSent = s.lastHeartbeatSent) : BeatStep s l next :=
    .kept unconnected silent (fun up => connected.symm.trans up) last
  have dropped {l : Label} (reason : ReasonRef) (now : Int) (pc : DriverPc)
      (unconnected : connects l = none) (silent : s.beats l = none) :
      BeatStep s l { s.handleDisconnect reason now with pc } := by
    obtain ⟨_, _, _, _, _, gone⟩ := handleDisconnect_eq reason now s
    rw [gone]
    exact .kept unconnected silent (fun up => by cases up) rfl
  cases step_cases taken with
  | startRefused joinable => exact same rfl rfl rfl rfl
  | start idle fresh => exact same rfl rfl rfl rfl
  | stopRequest idle => exact same rfl rfl rfl rfl
  | stopJoin joining ended => exact same rfl rfl rfl rfl
  | stopFinish finishing => exact same rfl rfl rfl rfl
  | callAnswered checked => exact same rfl rfl rfl rfl
  | @callQueued call body checked =>
    exact same rfl rfl (sameTurn_enqueueCommand body s).connected
      (lastHeartbeatSent_enqueueCommand body s)
  | registerHandler => exact same rfl rfl rfl rfl
  | unregisterHandler => exact same rfl rfl rfl rfl
  | @finishTask index outcome task found =>
    exact same rfl rfl (sameTurn_finishTask task outcome _).connected
      (lastHeartbeatSent_finishTask task outcome _)
  | entered pc => exact same rfl rfl rfl rfl
  | entryFailed pc => exact same rfl rfl rfl rfl
  | stopSeen pc stop => exact same rfl rfl rfl rfl
  | goOn pc goOn => exact same rfl rfl rfl rfl
  | swapCommands pc => exact same rfl rfl rfl rfl
  | @runCommand answer sends command rest pc queued =>
    have turn := sameTurn_runCommand command answer sends { s with localCommands := rest }
    refine same rfl rfl turn.connected ?_
    rw [lastHeartbeatSent_flushOutboundData, lastHeartbeatSent_execute]
  | commandsDone pc none up => exact same rfl rfl rfl rfl
  | commandsDoneDown pc none down => exact same rfl rfl rfl rfl
  | attempt pc attempt => exact same rfl rfl rfl rfl
  | noAttempt pc refused => exact same rfl rfl rfl rfl
  | connected pc => exact .connects rfl rfl
  | connectFailed pc => exact same rfl rfl rfl rfl
  | @flushBefore sends pc =>
    exact same rfl rfl (quiet_flushOutboundData sends s).sameTurn.connected
      (lastHeartbeatSent_flushOutboundData sends s)
  | @poll outcome pc possible => cases outcome <;> exact same rfl rfl rfl rfl
  | event pc live alive called =>
    obtain ⟨next, -, turn⟩ := called.waits
    exact same rfl rfl turn.connected called.lastHeartbeatSent
  | parsed pc bounded leads => exact same rfl rfl rfl rfl
  | @flushAfter sends pc =>
    exact same rfl rfl (quiet_flushOutboundData sends s).sameTurn.connected
      (lastHeartbeatSent_flushOutboundData sends s)
  | @heartbeat now produced pc =>
    cases beats : s.beats (.heartbeat now produced) with
    | some time =>
      have sent : time = now := by
        rw [State.beats] at beats
        split at beats <;> cases beats
        rfl
      subst sent
      refine .beats rfl beats ?_
      rw [maybeSendHeartbeat_eq, beats]
      rfl
    | none =>
      refine same rfl beats ?_ ?_
      · rw [maybeSendHeartbeat_eq, beats]
        rfl
      · rw [maybeSendHeartbeat_eq, beats]
        rfl
  | disconnect pc pending => exact dropped _ _ _ rfl rfl
  | endTurn pc settled => exact same rfl rfl rfl rfl
  | finalDisconnect pc => exact dropped _ _ _ rfl rfl
  | waitOver pc completed => exact same rfl rfl rfl rfl

/-! ## Runs -/

variable {config : RabbitMqBusConfig} {now : Int} {past : List (State × Label)}

theorem signsOfLife_connected {l : Label} {now : Int} (connected : connects l = some now) :
    signsOfLife ((s, l) :: past) = [now] := by
  rw [signsOfLife, connected]

theorem signsOfLife_sent {l : Label} {now : Int} (unconnected : connects l = none)
    (beats : s.beats l = some now) : signsOfLife ((s, l) :: past) = now :: signsOfLife past := by
  rw [signsOfLife, unconnected, beats]
  rfl

theorem signsOfLife_kept {l : Label} (unconnected : connects l = none) (silent : s.beats l = none) :
    signsOfLife ((s, l) :: past) = signsOfLife past := by
  rw [signsOfLife, unconnected, silent]
  rfl

/-- The last heartbeat is the newest sign of life, and the signs are spaced. -/
structure Beating (heartbeatSeconds : UInt16) (past : List (State × Label)) (s : State) : Prop where
  last : s.connected = true →
    ∃ last rest, signsOfLife past = last :: rest ∧ s.lastHeartbeatSent = some last
  spaced : Spaced (heartbeatInterval heartbeatSeconds) (signsOfLife past)

theorem run_beating (run : DriverRun config now past s) :
    Beating config.connection.heartbeatSeconds past s := by
  refine run.invariant_past (Beating config.connection.heartbeatSeconds)
    ⟨fun up => (by cases up), .nil⟩ fun past s l s' before beating taken => ?_
  cases step_beat taken with
  | connects connected last =>
    have signs : signsOfLife ((s, l) :: past) = [_] := signsOfLife_connected connected
    refine ⟨fun _ => ⟨_, _, signs, last⟩, ?_⟩
    rw [signs]
    exact .singleton _
  | beats unconnected beats sent =>
    have signs : signsOfLife ((s, l) :: past) = _ := signsOfLife_sent unconnected beats
    obtain ⟨runs, waited⟩ := beats_spec beats
    refine ⟨fun _ => ⟨_, _, signs, sent⟩, ?_⟩
    rw [signs]
    apply beating.spaced.next (heartbeatInterval_pos _).le
    intro previous rest some
    obtain ⟨last, earlier, first, here⟩ := beating.last (heartbeatsRun_connected runs)
    cases first.symm.trans some
    rw [← run_connectionConfig before]
    exact waited _ here
  | kept unconnected silent stays last =>
    have signs : signsOfLife ((s, l) :: past) = _ := signsOfLife_kept unconnected silent
    refine ⟨fun up => ?_, ?_⟩
    · rw [signs, last]
      exact beating.last (stays up)
    · rw [signs]
      exact beating.spaced

/-- Once the thread has looked for it, no heartbeat is due. -/
theorem Beating.punctual {heartbeatSeconds : UInt16} (beating : Beating heartbeatSeconds past s)
    (same : s.config.connection.heartbeatSeconds = heartbeatSeconds) (runs : s.heartbeatsRun = true)
    (time : Int) (produced : List UInt8) :
    ∃ last, (s.maybeSendHeartbeat time produced).lastHeartbeatSent = some last ∧
      time < last + heartbeatInterval heartbeatSeconds := by
  rw [maybeSendHeartbeat_eq]
  cases beats : s.beats (.heartbeat time produced) with
  | some sent =>
    have positive := heartbeatInterval_pos heartbeatSeconds
    exact ⟨time, rfl, by omega⟩
  | none =>
    obtain ⟨last, rest, -, here⟩ := beating.last (heartbeatsRun_connected runs)
    refine ⟨last, here, ?_⟩
    by_contra due
    rw [Int.not_lt, ← same] at due
    simp [State.beats, runs, here, due] at beats

/-- How the heartbeats are spread in time, from the moment at which the socket was connected. -/
structure HeartbeatsSpaced (heartbeatSeconds : UInt16) (past : List (State × Label)) (s : State) :
    Prop where
  /-- On a connection the last sign of life is known, so that the time before all times, with
  which the driver is constructed, is never compared with the clock. -/
  last : s.connected = true →
    ∃ last rest, signsOfLife past = last :: rest ∧ s.lastHeartbeatSent = some last
  spaced : Spaced (heartbeatInterval heartbeatSeconds) (signsOfLife past)
  window : ∀ start finish, start ≤ finish →
    ((inWindow start finish (signsOfLife past)).length : Int) ≤
      (finish - start) / heartbeatInterval heartbeatSeconds + 1
  punctual : AllSteps (fun _ s l => ∀ time produced, l = .heartbeat time produced →
    s.heartbeatsRun = true →
      ∃ last, (s.maybeSendHeartbeat time produced).lastHeartbeatSent = some last ∧
        time < last + heartbeatInterval heartbeatSeconds) past
  silent : heartbeatSeconds = 0 → AllSteps (fun _ s l => s.beats l = none) past

/-- On every connection, heartbeats are at least half of the configured interval apart, and
whenever the thread looks, the last one is less than that ago afterwards. -/
theorem heartbeats_spaced (config : RabbitMqBusConfig) (now : Int) (past : List (State × Label))
    (s : State) (run : DriverRun config now past s) :
    HeartbeatsSpaced config.connection.heartbeatSeconds past s := by
  have beating := run_beating run
  have configured {past : List (State × Label)} {s : State} (run : DriverRun config now past s) :
      s.config.connection.heartbeatSeconds = config.connection.heartbeatSeconds :=
    congrArg ConnectionConfig.heartbeatSeconds (run_connectionConfig run)
  refine ⟨beating.last, beating.spaced,
    fun _ _ => beating.spaced.length_window (heartbeatInterval_pos _), ?_, ?_⟩
  · refine run.allSteps fun past s l s' before taken => ?_
    rintro time produced rfl runs
    exact (run_beating before).punctual (configured before) runs time produced
  · intro none
    refine run.allSteps fun past s l s' before taken => ?_
    rw [Option.eq_none_iff_forall_ne_some]
    intro time beats
    have runs := (beats_spec beats).1
    rw [heartbeatsRun, configured before, none] at runs
    simp at runs

end State

end

namespace State

open PlainFields

/-- A broker that is to see a sign of life every two seconds. -/
def beatingConfig : RabbitMqBusConfig :=
  { workerConfig with connection := ⟨"amqp://localhost/", 2, 100, ⟨true, 1000, 30000⟩⟩ }

/-- Two turns on a connection: in the first one no heartbeat is due yet. -/
def twoTurns : List Label :=
  bringUp ++ [.parsed 1, .flush [], .heartbeat 500 [], .endTurn 500 [], .testStop, .swapCommands,
    .commandsDone, .flush [], .poll .notReadable, .flush [], .heartbeat 1000 [8], .endTurn 1000 []]

theorem heartbeats_spaced_twoTurns :
    ∃ past s, exec step twoTurns [] (new beatingConfig 0) = some (past, s) ∧
      signsOfLife past = [1000, 0] ∧ s.outbound = [8] ∧
      HeartbeatsSpaced beatingConfig.connection.heartbeatSeconds past s := by
  obtain ⟨past, s, executed, signs, sent⟩ :
      ∃ past s, exec step twoTurns [] (new beatingConfig 0) = some (past, s) ∧
        signsOfLife past = [1000, 0] ∧ s.outbound = [8] :=
    ⟨_, _, rfl, rfl, rfl⟩
  exact ⟨past, s, executed, signs, sent,
    heartbeats_spaced beatingConfig 0 past s (run_of_exec .nil executed)⟩

end State

end ModuleContext.RabbitMqBus.Driver
