import ModuleContext.RabbitMqBus.Driver.BootstrapOrder

/-!
# Channels and their consumers

Each consumer has a channel of its own on every connection, with a number that no channel had
before. As long as a connection lasts, a consumer that has a channel keeps it, and the channel
on which its deliveries come in is that one.
-/

namespace ModuleContext.RabbitMqBus.Driver
open Foundation Misc

/-- Channels that are changed without touching their number and receiver. -/
theorem same_channels {channels : List Channel} {change : Channel → Channel}
    (sameId : ∀ channel, (change channel).id = channel.id)
    (sameReceiver : ∀ channel, (change channel).receiver = channel.receiver) :
    ∀ channel' ∈ channels.map change, ∃ channel ∈ channels,
      channel.id = channel'.id ∧ channel.receiver = channel'.receiver := by
  intro channel' member
  obtain ⟨channel, before, rfl⟩ := List.mem_map.mp member
  exact ⟨channel, before, (sameId channel).symm, (sameReceiver channel).symm⟩

variable [AmqpFields]

/-- How many consumers have their channel when an operation with this callback is under way. -/
def Callback.opened : Callback → Nat
  | .qos index _ | .consume index _ => index + 1
  | _ => 0

theorem Position.opened_eq {config : RabbitMqBusConfig} {callback : Callback} {opened : Nat}
    {done : List AmqpOperation} {operation : AmqpOperation}
    (place : Position config callback opened done operation) : opened = callback.opened := by
  cases place <;> rfl

/-- No channel, receiver or outstanding operation is added. -/
structure Connection.Shrinks (connection connection' : Connection) : Prop where
  unshaken : connection'.handshaken = false → connection.handshaken = false
  outstanding : connection'.outstanding ⊆ connection.outstanding
  channels : ∀ channel' ∈ connection'.channels, ∃ channel ∈ connection.channels,
    channel.id = channel'.id ∧ channel.receiver = channel'.receiver

namespace State

/-- The channel on which a consumer runs. -/
def channelOf (s : State) (name : String) : Option Nat :=
  (s.consumerRuntimes.lookup name).bind (·.channel)

/-- No consumer but the first `opened` has a channel. -/
def OpenedOnly (opened : Nat) (s : State) : Prop :=
  ∀ name id, s.channelOf name = some id → name ∈ (s.config.consumers.take opened).map (·.name)

structure Wired (s : State) : Prop where
  consumers : (s.config.consumers.map (·.name)).Nodup
  numbered : ∀ admin, s.adminChannel = some admin → admin < s.nextChannel
  running : ∀ name id, s.channelOf name = some id →
    id < s.nextChannel ∧ ∀ admin, s.adminChannel = some admin → admin < id
  receivers : ∀ connection channel spec, s.connection = some connection →
    channel ∈ connection.channels → channel.receiver = some spec →
    s.channelOf spec.name = some channel.id
  outstanding : ∀ connection deferred, s.connection = some connection →
    deferred ∈ connection.outstanding → deferred.callback.isBootstrap = true →
    deferred.callback.channel s = some deferred.channel ∧ OpenedOnly deferred.callback.opened s
  fresh : ∀ connection, s.connection = some connection → connection.handshaken = false →
    OpenedOnly 0 s

/-! ## Changes that add nothing to the wiring -/

structure Shrinks (s s' : State) : Prop where
  consumers : s'.config.consumers = s.config.consumers
  admin : s'.adminChannel = s.adminChannel
  channels : s'.nextChannel = s.nextChannel
  channelOf : ∀ name, s'.channelOf name = s.channelOf name
  connection : ∀ connection', s'.connection = some connection' →
    ∃ connection, s.connection = some connection ∧ connection.Shrinks connection'

theorem Shrinks.openedOnly {s s' : State} (shrinks : Shrinks s s') {opened : Nat}
    (only : OpenedOnly opened s) : OpenedOnly opened s' := by
  intro name id runs
  rw [shrinks.channelOf] at runs
  rw [shrinks.consumers]
  exact only name id runs

theorem Shrinks.callbackChannel {s s' : State} (shrinks : Shrinks s s') (callback : Callback) :
    callback.channel s' = callback.channel s := by
  cases callback with
  | bootstrap index declaration => exact shrinks.admin
  | qos index spec => exact shrinks.channelOf spec.name
  | consume index spec => exact shrinks.channelOf spec.name
  | declared declaration pending => exact shrinks.admin

theorem Wired.shrinks {s s' : State} (wired : Wired s) (shrinks : Shrinks s s') : Wired s' where
  consumers := by rw [shrinks.consumers]; exact wired.consumers
  numbered admin isAdmin := by
    rw [shrinks.channels]
    exact wired.numbered admin (shrinks.admin ▸ isAdmin)
  running name id runs := by
    rw [shrinks.channels, shrinks.admin]
    exact wired.running name id (shrinks.channelOf name ▸ runs)
  receivers connection' channel' spec live' member receives := by
    obtain ⟨connection, live, shrunk⟩ := shrinks.connection connection' live'
    obtain ⟨channel, before, sameId, sameReceiver⟩ := shrunk.channels channel' member
    rw [shrinks.channelOf, ← sameId]
    exact wired.receivers connection channel spec live before (sameReceiver.trans receives)
  outstanding connection' deferred live' member chain := by
    obtain ⟨connection, live, shrunk⟩ := shrinks.connection connection' live'
    obtain ⟨runs, only⟩ := wired.outstanding connection deferred live
      (shrunk.outstanding member) chain
    exact ⟨(shrinks.callbackChannel _).trans runs, shrinks.openedOnly only⟩
  fresh connection' live' unshaken := by
    obtain ⟨connection, live, shrunk⟩ := shrinks.connection connection' live'
    exact shrinks.openedOnly (wired.fresh connection live (shrunk.unshaken unshaken))

theorem Kept.shrinks {s s' : State} (kept : Kept s s') : Shrinks s s' where
  consumers := by rw [kept.config]
  admin := kept.admin
  channels := kept.channels
  channelOf name := by rw [channelOf, kept.runtimes]; rfl
  connection connection' live' := by
    obtain ⟨connection, live, same⟩ := kept.connection_of live'
    have handshaken := congrArg Connection.handshaken same
    have outstanding := congrArg Connection.outstanding same
    have channels := congrArg Connection.channels same
    refine ⟨connection, live, fun unshaken => handshaken.symm.trans unshaken,
      fun deferred member => ?_, fun channel member => ?_⟩
    · exact outstanding ▸ member
    · exact ⟨channel, channels ▸ member, rfl, rfl⟩

theorem shrinks_onConnection (change : Connection → Connection)
    (shrinks : ∀ connection : Connection, connection.Shrinks (change connection)) (s : State) :
    Shrinks s (s.onConnection change) where
  consumers := rfl
  admin := rfl
  channels := rfl
  channelOf _ := rfl
  connection connection' live' := by
    obtain ⟨connection, live, rfl⟩ := Option.map_eq_some_iff.mp live'
    exact ⟨connection, live, shrinks connection⟩

theorem shrinks_fail (connection : Connection) : connection.Shrinks connection.fail :=
  ⟨id, List.nil_subset _, same_channels (fun _ => rfl) fun _ => rfl⟩

theorem shrinks_failChannel (id : Nat) (connection : Connection) :
    connection.Shrinks (connection.failChannel id) :=
  ⟨fun unshaken => unshaken, List.filter_subset_self _,
    same_channels (fun channel => by split <;> rfl)
      fun channel => by split <;> rfl⟩

theorem shrinks_refuse (index : Nat) (deferred : Deferred) (connection : Connection) :
    connection.Shrinks (connection.refuse index deferred) :=
  ⟨id, List.eraseIdx_subset, fun channel member => ⟨channel, member, rfl, rfl⟩⟩

theorem shrinks_countDelivery (id : Nat) (connection : Connection) :
    connection.Shrinks (connection.countDelivery id) :=
  ⟨fun unshaken => unshaken, List.Subset.refl _,
    same_channels (fun channel => by split <;> rfl)
      fun channel => by split <;> rfl⟩

theorem shrinks_markActive (name tag : String) (s : State) :
    Shrinks s (s.markActive name tag) := by
  unfold markActive
  split
  · exact (Kept.refl s).shrinks
  · rename_i runtime found
    refine ⟨rfl, rfl, rfl, fun other => ?_, fun connection live => ⟨connection, live, id,
      List.Subset.refl _, fun channel member => ⟨channel, member, rfl, rfl⟩⟩⟩
    by_cases same : other = name
    · subst same
      simp [channelOf, found]
    · simp [channelOf, AList.lookup_insert_ne same]

/-! ## The bootstrap -/

/-- The connection is between two operations of its bootstrap. -/
def Waiting (s : State) : Prop :=
  ∀ connection, s.connection = some connection →
    connection.outstanding = [] ∧ connection.handshaken = true

theorem Waiting.shrinks {s s' : State} (waiting : Waiting s) (shrinks : Shrinks s s') :
    Waiting s' := by
  intro connection' live'
  obtain ⟨connection, live, shrunk⟩ := shrinks.connection connection' live'
  obtain ⟨nothing, handshaken⟩ := waiting connection live
  have none := shrunk.outstanding
  rw [nothing] at none
  refine ⟨List.subset_nil.mp none, ?_⟩
  by_contra unshaken
  cases handshaken.symm.trans (shrunk.unshaken (by simpa using unshaken))

theorem wired_submit {s : State} (wired : Wired s) {channel : Nat} {operation : AmqpOperation}
    {callback : Callback} {answer : Answer} (running : callback.channel s = some channel)
    (only : callback.isBootstrap = true → OpenedOnly callback.opened s) :
    Wired (s.submit channel operation callback answer) := by
  have produced := wired.shrinks (quiet_onData answer.produced s).kept.shrinks
  unfold submit
  dsimp only
  split
  · exact {
      consumers := produced.consumers
      numbered := produced.numbered
      running := produced.running
      receivers := by
        intro connection' other spec live' member receives
        obtain ⟨connection, live, rfl⟩ := Option.map_eq_some_iff.mp live'
        exact produced.receivers connection other spec live member receives
      outstanding := by
        intro connection' deferred live' member chain
        obtain ⟨connection, live, rfl⟩ := Option.map_eq_some_iff.mp live'
        rcases List.mem_append.mp member with before | new
        · exact produced.outstanding connection deferred live before chain
        · cases List.mem_singleton.mp new
          exact ⟨running, only chain⟩
      fresh := by
        intro connection' live' unshaken
        obtain ⟨connection, live, rfl⟩ := Option.map_eq_some_iff.mp live'
        exact produced.fresh connection live unshaken }
  · have unsent := shrinks_onConnection (.submitUnsent operation)
      (fun connection => ⟨id, List.Subset.refl _, fun other member => ⟨other, member, rfl, rfl⟩⟩)
      (s.onData answer.produced)
    exact (produced.shrinks unsent).shrinks (reports_onError _ _ _).kept.shrinks

theorem channelOf_submit (channel : Nat) (operation : AmqpOperation) (callback : Callback)
    (answer : Answer) (s : State) (name : String) :
    (s.submit channel operation callback answer).channelOf name = s.channelOf name := by
  unfold submit
  dsimp only
  split
  · rfl
  · exact (reports_onError _ _ _).kept.shrinks.channelOf name

/-- The next consumer has no channel yet. -/
theorem OpenedOnly.next {s : State} {opened : Nat} {spec : ConsumerSpec}
    (only : OpenedOnly opened s) (distinct : (s.config.consumers.map (·.name)).Nodup)
    (here : s.config.consumers[opened]? = some spec) : s.channelOf spec.name = none := by
  cases runs : s.channelOf spec.name with
  | none => rfl
  | some id =>
    exfalso
    obtain ⟨bounded, rfl⟩ := List.getElem?_eq_some_iff.mp here
    have before := only _ _ runs
    rw [← List.take_append_drop opened s.config.consumers, List.map_append,
      List.drop_eq_getElem_cons bounded, List.map_cons] at distinct
    exact (List.disjoint_of_nodup_append distinct) before List.mem_cons_self

theorem channelOf_openConsumerChannel (spec : ConsumerSpec) (s : State) (name : String) :
    (s.openConsumerChannel spec).channelOf name =
      if name = spec.name then some s.nextChannel else s.channelOf name := by
  by_cases same : name = spec.name
  · subst same
    simp [channelOf, openConsumerChannel]
  · simp [channelOf, openConsumerChannel, AList.lookup_insert_ne same, same]

theorem wired_openConsumerChannel {s : State} (wired : Wired s) (waiting : Waiting s)
    {opened : Nat} {spec : ConsumerSpec} (only : OpenedOnly opened s)
    (here : s.config.consumers[opened]? = some spec) :
    Wired (s.openConsumerChannel spec) ∧ Waiting (s.openConsumerChannel spec) ∧
      OpenedOnly (opened + 1) (s.openConsumerChannel spec) := by
  have fresh := only.next wired.consumers here
  refine ⟨?_, ?_, ?_⟩
  · exact {
      consumers := wired.consumers
      numbered := fun admin isAdmin => Nat.lt_succ_of_lt (wired.numbered admin isAdmin)
      running := by
        intro name id runs
        rw [channelOf_openConsumerChannel] at runs
        split at runs
        · cases runs
          exact ⟨Nat.lt_succ_self _, wired.numbered⟩
        · obtain ⟨bounded, above⟩ := wired.running name id runs
          exact ⟨Nat.lt_succ_of_lt bounded, above⟩
      receivers := by
        intro connection' channel other live' member receives
        obtain ⟨connection, live, rfl⟩ := Option.map_eq_some_iff.mp live'
        rcases List.mem_append.mp member with before | new
        · have runs := wired.receivers connection channel other live (List.mem_of_mem_filter before)
            receives
          rw [channelOf_openConsumerChannel, if_neg ?_, runs]
          intro same
          rw [same, fresh] at runs
          cases runs
        · cases List.mem_singleton.mp new
          cases receives
      outstanding := by
        intro connection' deferred live' member
        obtain ⟨connection, live, rfl⟩ := Option.map_eq_some_iff.mp live'
        have nothing : deferred ∈ connection.outstanding := member
        rw [(waiting connection live).1] at nothing
        cases nothing
      fresh := by
        intro connection' live' unshaken
        obtain ⟨connection, live, rfl⟩ := Option.map_eq_some_iff.mp live'
        cases (waiting connection live).2.symm.trans unshaken }
  · intro connection' live'
    obtain ⟨connection, live, rfl⟩ := Option.map_eq_some_iff.mp live'
    exact waiting connection live
  · intro name id runs
    rw [channelOf_openConsumerChannel] at runs
    change name ∈ (s.config.consumers.take (opened + 1)).map (·.name)
    rw [List.take_add_one, here, List.map_append]
    split at runs
    · rename_i same
      exact List.mem_append_right _ (by simp [same])
    · exact List.mem_append_left _ (only name id runs)

/-- The bootstrap keeps the wiring, and every consumer its channel. -/
theorem Advanced.wired {s s' : State} {done : List AmqpOperation} {opened : Nat}
    (advanced : Advanced s done opened s') (wired : Wired s) (waiting : Waiting s)
    (only : OpenedOnly opened s) :
    Wired s' ∧ ∀ name id, s.channelOf name = some id → s'.channelOf name = some id := by
  induction advanced with
  | stuck => exact ⟨wired, fun _ _ => id⟩
  | broken => exact ⟨wired.shrinks (quiet_requestDisconnect _ _).kept.shrinks, fun _ _ => id⟩
  | finished => exact ⟨{ wired with }, fun _ _ => id⟩
  | submitted place running =>
    refine ⟨wired_submit wired running fun _ => place.opened_eq ▸ only, fun name id runs => ?_⟩
    rw [channelOf_submit, runs]
  | @opened s s' opened spec done here next ih =>
    obtain ⟨wired', waiting', only'⟩ := wired_openConsumerChannel wired waiting only here
    obtain ⟨wiredAfter, keeps⟩ := ih wired' waiting' only'
    refine ⟨wiredAfter, fun name id runs => keeps name id ?_⟩
    rw [channelOf_openConsumerChannel, if_neg ?_, runs]
    intro same
    rw [same, only.next wired.consumers here] at runs
    cases runs
  | @active s s' opened name tag done next ih =>
    have shrinks := shrinks_markActive name tag s
    obtain ⟨wiredAfter, keeps⟩ := ih (wired.shrinks shrinks) (waiting.shrinks shrinks)
      (shrinks.openedOnly only)
    exact ⟨wiredAfter, fun name id runs => keeps name id ((shrinks.channelOf name).trans runs)⟩

/-! ## Steps -/

/-- A consumer that the broker has started receives on its own channel. -/
theorem wired_confirm {s : State} (wired : Wired s) {connection : Connection} {index : Nat}
    {deferred : Deferred} (live : s.connection = some connection)
    (found : connection.outstanding[index]? = some deferred) :
    Wired (s.onConnection (.confirm index deferred)) := by
  have isLive : (s.onConnection (.confirm index deferred)).connection =
      some (connection.confirm index deferred) := by
    rw [onConnection, live, Option.map_some]
  have kept : ∀ channel ∈ (connection.confirm index deferred).channels,
      ∀ spec, channel.receiver = some spec → s.channelOf spec.name = some channel.id := by
    intro channel member spec receives
    cases callback : deferred.callback with
    | consume index' started =>
      simp only [Connection.confirm, callback] at member
      obtain ⟨before, old, rfl⟩ := List.mem_map.mp member
      split at receives
      · rename_i here
        cases receives
        have runs := (wired.outstanding connection deferred live (List.mem_of_getElem? found)
          (by rw [callback]; rfl)).1
        rw [callback] at runs
        rw [if_pos here, eq_of_beq here]
        exact runs
      · rename_i elsewhere
        rw [if_neg elsewhere]
        exact wired.receivers connection before spec live old receives
    | bootstrap index' declaration =>
      simp only [Connection.confirm, callback] at member
      exact wired.receivers connection channel spec live member receives
    | qos index' other =>
      simp only [Connection.confirm, callback] at member
      exact wired.receivers connection channel spec live member receives
    | declared declaration pending =>
      simp only [Connection.confirm, callback] at member
      exact wired.receivers connection channel spec live member receives
  exact {
    consumers := wired.consumers
    numbered := wired.numbered
    running := wired.running
    receivers := by
      intro connection' channel spec live' member receives
      cases isLive.symm.trans live'
      exact kept channel member spec receives
    outstanding := by
      intro connection' other live' member chain
      cases isLive.symm.trans live'
      exact wired.outstanding connection other live (List.mem_of_mem_eraseIdx member) chain
    fresh := by
      intro connection' live' unshaken
      cases isLive.symm.trans live'
      exact wired.fresh connection live unshaken }

/-- What a step on a connection keeps of the wiring. -/
def KeepsWiring (s s' : State) : Prop :=
  Wired s' ∧ ∀ name id, s.channelOf name = some id → s'.channelOf name = some id

theorem Shrinks.keepsWiring {s s' : State} (shrinks : Shrinks s s') (wired : Wired s) :
    KeepsWiring s s' :=
  ⟨wired.shrinks shrinks, fun name _ runs => (shrinks.channelOf name).trans runs⟩

theorem Shrinks.trans {a b c : State} (first : Shrinks a b) (second : Shrinks b c) :
    Shrinks a c where
  consumers := second.consumers.trans first.consumers
  admin := second.admin.trans first.admin
  channels := second.channels.trans first.channels
  channelOf name := (second.channelOf name).trans (first.channelOf name)
  connection connection'' live'' := by
    obtain ⟨connection', live', later⟩ := second.connection connection'' live''
    obtain ⟨connection, live, sooner⟩ := first.connection connection' live'
    refine ⟨connection, live, fun unshaken => sooner.unshaken (later.unshaken unshaken),
      List.Subset.trans later.outstanding sooner.outstanding, fun channel'' member => ?_⟩
    obtain ⟨channel', before', sameId', sameReceiver'⟩ := later.channels channel'' member
    obtain ⟨channel, before, sameId, sameReceiver⟩ := sooner.channels channel' before'
    exact ⟨channel, before, sameId.trans sameId', sameReceiver.trans sameReceiver'⟩

theorem Called.keepsWiring {s s' : State} {connection : Connection} {event : AmqpEvent}
    (live : s.connection = some connection) (called : Called s connection event s')
    (inPhase : InPhase s) (wired : Wired s) : KeepsWiring s s' := by
  have phase := inPhase connection live
  cases called with
  | ready fresh =>
    have handshaken := shrinks_onConnection
      (fun connection => { connection with handshaken := true })
      (fun connection => ⟨nofun, List.Subset.refl _, fun channel member =>
        ⟨channel, member, rfl, rfl⟩⟩) s
    have shrinks : Shrinks s { s.onConnection ({ · with handshaken := true }) with
        handshakeReady := true } :=
      ⟨rfl, rfl, rfl, fun _ => rfl, handshaken.connection⟩
    have waiting : Waiting { s.onConnection ({ · with handshaken := true }) with
        handshakeReady := true } := by
      intro connection' live'
      obtain ⟨other, isLive, rfl⟩ := Option.map_eq_some_iff.mp live'
      cases live.symm.trans isLive
      exact ⟨(phase.unshaken fresh).2.1, rfl⟩
    exact (startBootstrap_advanced _ _).wired (wired.shrinks shrinks) waiting
      (shrinks.openedOnly (wired.fresh connection live fresh))
  | @succeeded index tag answer deferred found =>
    have confirmed := wired_confirm wired live found
    rcases phase.confirm found with
      ⟨opened, done, ready, handshaken, place, nothing, log⟩ |
        ⟨declaration, pending, callback, recorded⟩
    · have waiting : Waiting (s.onConnection (.confirm index deferred)) := by
        intro connection' live'
        obtain ⟨other, isLive, rfl⟩ := Option.map_eq_some_iff.mp live'
        cases live.symm.trans isLive
        exact ⟨nothing, handshaken⟩
      have only : OpenedOnly opened s := by
        rw [place.opened_eq]
        exact (wired.outstanding connection deferred live (List.mem_of_getElem? found)
          place.isBootstrap).2
      exact (onSuccess_advanced (s := s.onConnection (.confirm index deferred)) tag answer
        place).wired
        confirmed waiting only
    · have consumers : (declaration.record s.config).consumers = s.config.consumers := by
        cases declaration <;> rfl
      have declared : Shrinks (s.onConnection (.confirm index deferred))
          { s.onConnection (.confirm index deferred) with
            config := declaration.record s.config } :=
        ⟨consumers, rfl, rfl, fun _ => rfl, fun connection live => ⟨connection, live, id,
          List.Subset.refl _, fun channel member => ⟨channel, member, rfl, rfl⟩⟩⟩
      rw [callback]
      exact (declared.trans (reports_completePendingResult _ _ _).kept.shrinks).keepsWiring
        confirmed
  | @failed index message deferred found =>
    exact ((shrinks_onConnection _ (shrinks_refuse index deferred) s).trans
      (reports_onError _ _ _).kept.shrinks).keepsWiring wired
  | @channelError message channel member isOpen =>
    exact ((shrinks_onConnection _ (shrinks_failChannel channel.id) s).trans
      (reports_failChannel channel message s).kept.shrinks).keepsWiring wired
  | @connectionError message =>
    exact ((shrinks_onConnection _ shrinks_fail s).trans
      (reports_failConnection (.text message) s).kept.shrinks).keepsWiring wired
  | closed =>
    have closed := shrinks_onConnection
      (fun connection => { connection with closed := true })
      (fun connection => ⟨id, List.Subset.refl _, fun channel member =>
        ⟨channel, member, rfl, rfl⟩⟩) s
    exact (closed.trans (quiet_requestDisconnect _ _).kept.shrinks).keepsWiring wired
  | @received id message dispatch channel spec found receives =>
    exact ((shrinks_onConnection _ (shrinks_countDelivery id) s).trans
      (handleIncomingMessage_cases _ _ _ _ _ _).kept.shrinks).keepsWiring wired
  | cancelled member receives =>
    exact (quiet_requestDisconnect _ s).kept.shrinks.keepsWiring wired
  | data => exact (quiet_onData _ s).kept.shrinks.keepsWiring wired

theorem Executed.keepsWiring {s s' : State} {command : Command}
    (executed : Executed s command s') (wired : Wired s) : KeepsWiring s s' := by
  cases executed with
  | answered quiet =>
    exact (quiet.kept_answered _ _).shrinks.keepsWiring wired
  | submitted body ready admin =>
    refine ⟨wired_submit wired admin nofun, fun name id runs => ?_⟩
    rw [channelOf_submit, runs]

theorem ConnectionStep.wired {s s' : State} {l : Label} (step : ConnectionStep s l s')
    (inPhase : InPhase s) (wired : Wired s) : Wired s' := by
  cases step with
  | same receives disconnects kept => exact wired.shrinks kept.shrinks
  | executed receives disconnects before coherent executed after =>
    exact (executed.keepsWiring (wired.shrinks before.shrinks)).1.shrinks after.shrinks
  | called live called => exact (called.keepsWiring live inPhase wired).1
  | dropped receives disconnects gone admin ready runtimes channels config =>
    have nothing (connection : Connection) : s'.connection ≠ some connection := by
      rw [gone]
      nofun
    exact {
      consumers := by rw [config]; exact wired.consumers
      numbered := by rw [admin]; nofun
      running := fun name id runs => by simp [channelOf, runtimes] at runs
      receivers := fun connection channel spec live => absurd live (nothing connection)
      outstanding := fun connection deferred live => absurd live (nothing connection)
      fresh := fun connection live => absurd live (nothing connection) }
  | @connected socketFd produced now gone runtimes =>
    have idle (name : String) (id : Nat) :
        ({ s.connectSocket socketFd produced now with pc := .loopTest } : State).channelOf name ≠
          some id := by
      simp [channelOf, connectSocket, onData, onConnection, runtimes]
    exact {
      consumers := wired.consumers
      numbered := fun admin isAdmin => by cases isAdmin; exact Nat.lt_succ_self _
      running := fun name id runs => absurd runs (idle name id)
      receivers := fun connection channel spec live member receives => by
        cases live
        cases List.mem_singleton.mp member
        cases receives
      outstanding := fun connection deferred live member => by
        cases live
        cases member
      fresh := fun connection live unshaken name id runs => absurd runs (idle name id) }

theorem run_wired {config : RabbitMqBusConfig} {now : Int} {past : List (State × Label)}
    {s : State} (distinct : (config.consumers.map (·.name)).Nodup)
    (run : DriverRun config now past s) : Wired s :=
  run.invariant_past (fun _ => Wired)
    { consumers := distinct
      numbered := fun _ isAdmin => by cases isAdmin
      running := fun name id runs => by simp [channelOf, new] at runs
      receivers := fun _ _ _ live => by cases live
      outstanding := fun _ _ live => by cases live
      fresh := fun _ live => by cases live }
    (fun _ _ _ _ before wired taken =>
      (step_connectionStep (run_coherent before) taken).wired (run_inPhase before) wired)

end State

end ModuleContext.RabbitMqBus.Driver
