import ModuleContext.RabbitMqBus.Driver.ConnectionSteps

/-!
# Operations that grant nothing

Most of what the driver does tells no caller of a success: no frame is handed to a channel, no
declaration is recorded, and the results that are set are errors.
-/

namespace ModuleContext.RabbitMqBus.Driver
open Foundation Misc

variable [AmqpFields]

/-- The call that waits for a deferred operation. -/
def Callback.call : Callback → Option (Declaration × Nat)
  | .declared declaration pending => some (declaration, pending)
  | _ => none

namespace State

/-- The frames handed to the channels of the connection. -/
def transfers (s : State) : List Transfer := (s.connection.map (·.transfers)).getD []

/-- The calls that wait for the broker to answer their declarations. -/
def awaitedCalls (s : State) : List (Declaration × Nat) :=
  ((s.connection.map (·.outstanding)).getD []).filterMap (·.callback.call)

/-- No frame is handed over and no declaration recorded, the results that are set are errors,
and no further call waits for the broker. -/
structure Refuses (s s' : State) : Prop where
  config : s'.config = s.config
  transfers : s'.transfers = s.transfers
  completed : ∃ errors, s'.completed = s.completed ++ errors ∧
    ∀ entry ∈ errors, isOk entry.2 = false
  awaits : ∀ call ∈ s'.awaitedCalls, call ∈ s.awaitedCalls

variable {s s' : State}

theorem Refuses.refl (s : State) : Refuses s s :=
  ⟨rfl, rfl, ⟨[], (List.append_nil _).symm, nofun⟩, fun _ member => member⟩

theorem Refuses.trans {a b c : State} (first : Refuses a b) (second : Refuses b c) :
    Refuses a c := by
  obtain ⟨earlier, one, errorsBefore⟩ := first.completed
  obtain ⟨later, two, errorsAfter⟩ := second.completed
  refine ⟨second.config.trans first.config, second.transfers.trans first.transfers,
    ⟨earlier ++ later, ?_, ?_⟩, ?_⟩
  · rw [two, one, List.append_assoc]
  · intro entry member
    rcases List.mem_append.mp member with before | after
    · exact errorsBefore entry before
    · exact errorsAfter entry after
  · intro call member
    exact first.awaits call (second.awaits call member)

/-- A change of the driver alone. -/
theorem refuses_same (config : s'.config = s.config) (connection : s'.connection = s.connection)
    (completed : s'.completed = s.completed) : Refuses s s' := by
  refine ⟨config, ?_, ⟨[], ?_, nofun⟩, ?_⟩
  · rw [State.transfers, connection, State.transfers]
  · rw [completed, List.append_nil]
  · intro call member
    rwa [awaitedCalls, connection] at member

/-- A change of the connection that hands nothing over, and after which nothing more waits. -/
theorem refuses_onConnection (change : Connection → Connection)
    (transfers : ∀ connection, (change connection).transfers = connection.transfers)
    (outstanding : ∀ connection, (change connection).outstanding ⊆ connection.outstanding)
    (s : State) : Refuses s (s.onConnection change) := by
  refine ⟨rfl, ?_, ⟨[], (List.append_nil _).symm, nofun⟩, ?_⟩
  · cases live : s.connection with
    | none => simp only [State.transfers, onConnection, live, Option.map_none]
    | some connection =>
      simp only [State.transfers, onConnection, live, Option.map_some, transfers, Option.getD_some]
  · intro call member
    cases live : s.connection with
    | none =>
      rw [onConnection_none live] at member
      exact member
    | some connection =>
      simp only [awaitedCalls, onConnection, live, Option.map_some, Option.getD_some,
        List.mem_filterMap] at member ⊢
      obtain ⟨deferred, waits, calls⟩ := member
      exact ⟨deferred, outstanding connection waits, calls⟩

theorem refuses_requestDisconnect (reason : String) (s : State) :
    Refuses s (s.requestDisconnect reason) :=
  refuses_same rfl rfl rfl

theorem refuses_onData (data : List UInt8) (s : State) : Refuses s (s.onData data) := by
  have produced := refuses_onConnection
    (fun connection => { connection with produced := connection.produced ++ data })
    (fun _ => rfl) (fun _ => List.Subset.refl _) s
  exact produced.trans (refuses_same rfl rfl rfl)

theorem refuses_completePendingResult (pending : Nat) (e : Error) (s : State) :
    Refuses s (s.completePendingResult pending (.error e)) := by
  unfold completePendingResult
  split
  · exact .refl s
  · refine ⟨rfl, rfl, ⟨[(pending, .error e)], rfl, ?_⟩, fun _ member => member⟩
    intro entry member
    rw [List.mem_singleton.mp member]
    rfl

theorem refuses_onError (callback : Callback) (message : String) (s : State) :
    Refuses s (s.onError callback message) := by
  cases callback with
  | bootstrap index declaration => exact refuses_requestDisconnect _ s
  | qos index spec => exact refuses_requestDisconnect _ s
  | consume index spec => exact refuses_requestDisconnect _ s
  | declared declaration pending => exact refuses_completePendingResult _ _ s

theorem refuses_foldl {α : Type} {report : State → α → State}
    (each : ∀ s item, Refuses s (report s item)) (items : List α) (s : State) :
    Refuses s (items.foldl report s) := by
  induction items generalizing s with
  | nil => exact .refl s
  | cons item items ih =>
    rw [List.foldl_cons]
    exact (each s item).trans (ih (report s item))

/-- An operation that the library cannot send fails at once, and otherwise its call waits. -/
theorem submit_result (channel : Nat) (operation : AmqpOperation) (callback : Callback)
    (answer : Answer) (s : State) :
    Refuses s (s.submit channel operation callback answer) ∨
      ((s.submit channel operation callback answer).config = s.config ∧
        (s.submit channel operation callback answer).transfers = s.transfers ∧
        (s.submit channel operation callback answer).completed = s.completed ∧
        ∀ call ∈ (s.submit channel operation callback answer).awaitedCalls,
          call ∈ s.awaitedCalls ∨ callback.call = some call) := by
  have produced := refuses_onData answer.produced s
  unfold submit
  dsimp only
  split
  · right
    refine ⟨rfl, ?_, rfl, ?_⟩
    · cases live : s.connection with
      | none => simp only [State.transfers, onData, onConnection, live, Option.map_none]
      | some connection =>
        simp only [State.transfers, onData, onConnection, live, Option.map_some]
        rfl
    · intro call member
      cases live : s.connection with
      | none =>
        simp only [awaitedCalls, onData, onConnection, live, Option.map_none] at member
        cases member
      | some connection =>
        simp only [awaitedCalls, onData, onConnection, live, Option.map_some, Option.getD_some,
          Connection.submit, List.filterMap_append, List.mem_append] at member ⊢
        rcases member with before | new
        · exact Or.inl before
        · rw [List.filterMap_cons, List.filterMap_nil] at new
          cases calls : callback.call with
          | none => simp only [calls, List.not_mem_nil] at new
          | some other =>
            simp only [calls, List.mem_singleton] at new
            exact Or.inr (congrArg some new.symm)
  · left
    have unsent := refuses_onConnection (.submitUnsent operation) (fun _ => rfl)
      (fun _ => List.Subset.refl _) (s.onData answer.produced)
    exact (produced.trans unsent).trans (refuses_onError callback _ _)

/-- The bootstrap answers no call. -/
theorem refuses_submit {callback : Callback} (chain : callback.isBootstrap = true)
    (channel : Nat) (operation : AmqpOperation) (answer : Answer) (s : State) :
    Refuses s (s.submit channel operation callback answer) := by
  have nobody : callback.call = none := by
    cases callback with
    | declared declaration pending => cases chain
    | _ => rfl
  rcases submit_result channel operation callback answer s with
    refused | ⟨config, transfers, completed, awaits⟩
  · exact refused
  · refine ⟨config, transfers, ⟨[], ?_, nofun⟩, ?_⟩
    · rw [completed, List.append_nil]
    · intro call member
      rcases awaits call member with before | new
      · exact before
      · rw [nobody] at new
        cases new

theorem refuses_openConsumerChannel (spec : ConsumerSpec) (s : State) :
    Refuses s (s.openConsumerChannel spec) := by
  have opened := refuses_onConnection (.openChannel
    ((s.consumerRuntimes.lookup spec.name).bind (·.channel))
    { id := s.nextChannel
      errorText := "Consumer channel error for '" ++ spec.name ++ "'"
      closed := false, receiver := none, nextTag := 1 })
    (fun _ => rfl) (fun _ => List.Subset.refl _) s
  exact opened.trans (refuses_same rfl rfl rfl)

theorem refuses_markActive (name tag : String) (s : State) :
    Refuses s (s.markActive name tag) := by
  unfold markActive
  split
  · exact .refl s
  · exact refuses_same rfl rfl rfl

theorem Advanced.refuses {done : List AmqpOperation} {opened : Nat}
    (advanced : Advanced s done opened s') : Refuses s s' := by
  induction advanced with
  | stuck => exact .refl _
  | broken => exact refuses_requestDisconnect _ _
  | finished => exact refuses_same rfl rfl rfl
  | submitted place running => exact refuses_submit place.isBootstrap _ _ _ _
  | opened here next ih => exact (refuses_openConsumerChannel _ _).trans ih
  | active next ih => exact (refuses_markActive _ _ _).trans ih

theorem refuses_flushOutboundData (sends : List SendOutcome) (s : State) :
    Refuses s (s.flushOutboundData sends) := by
  induction sends generalizing s with
  | nil => exact .refl s
  | cons outcome outcomes ih =>
    unfold flushOutboundData
    split
    · split
      · have sent := refuses_onConnection (fun connection =>
            { connection with sent := connection.sent ++ s.outbound.take outcome.sent.toNat })
          (fun _ => rfl) (fun _ => List.Subset.refl _) s
        refine Refuses.trans ?_ (ih _)
        exact sent.trans (refuses_same rfl rfl rfl)
      · split
        · exact .refl s
        · exact refuses_requestDisconnect _ s
    · exact .refl s

theorem refuses_maybeSendHeartbeat (now : Int) (produced : List UInt8) (s : State) :
    Refuses s (s.maybeSendHeartbeat now produced) := by
  have sent : Refuses s { s.onData produced with lastHeartbeatSent := some now } :=
    (refuses_onData produced s).trans (refuses_same rfl rfl rfl)
  unfold maybeSendHeartbeat
  dsimp only
  split
  · exact .refl s
  · split
    · exact sent
    · split
      · exact sent
      · exact .refl s

theorem refuses_failCallback (callback : FailCallback) (message : String) (s : State) :
    Refuses s (s.failCallback callback message) := by
  cases callback with
  | operation callback => exact refuses_onError callback message s
  | channel errorText => exact refuses_requestDisconnect _ s
  | handler => exact refuses_requestDisconnect _ s

theorem refuses_failConnection (reason : ReasonRef) (s : State) :
    Refuses s (s.failConnection reason) := by
  unfold failConnection
  split
  · exact .refl s
  · have failed := refuses_onConnection .fail (fun _ => rfl) (fun _ => List.nil_subset _) s
    exact failed.trans (refuses_foldl (fun s (report : FailCallback × String) =>
      refuses_failCallback report.1 report.2 s) _ _)

theorem refuses_failChannel (channel : Channel) (message : String) (s : State) :
    Refuses s (s.failChannel channel message) := by
  unfold failChannel
  split
  · exact .refl s
  · rename_i connection live
    have failed := refuses_onConnection (.failChannel channel.id) (fun _ => rfl)
      (fun _ => List.filter_subset_self _) s
    have reported := failed.trans (refuses_foldl
      (fun s (deferred : Deferred) => refuses_onError deferred.callback message s)
      (connection.outstanding.filter (·.channel == channel.id)) _)
    exact reported.trans (refuses_requestDisconnect _ _)

theorem refuses_enqueueCommand (body : CommandBody) (s : State) :
    Refuses s (s.enqueueCommand body) := by
  unfold enqueueCommand
  split
  · exact refuses_same rfl rfl rfl
  · exact .refl s

theorem refuses_finishTask (task : Task) (outcome : HandlerOutcome) (s : State) :
    Refuses s (finishTask task outcome s) := by
  rcases finishTask_cases task outcome s with ⟨-, same⟩ | ⟨-, queued⟩
  · rw [same]
    exact .refl s
  · rw [queued]
    exact refuses_enqueueCommand _ s

theorem Handled.refuses {delivery : DeliveryContext} {origin : Nat}
    (handled : Handled s delivery origin s') : Refuses s s' := by
  cases handled with
  | ignored => exact .refl s
  | answered running other => exact (refuses_enqueueCommand _ s).trans (refuses_same rfl rfl rfl)
  | dispatched => exact refuses_same rfl rfl rfl

end State

end ModuleContext.RabbitMqBus.Driver
