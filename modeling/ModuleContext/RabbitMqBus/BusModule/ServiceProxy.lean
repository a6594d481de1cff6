import ModuleContext.RabbitMqBus.BusModule.ServingDriver

/-!
# The service proxy

`MessageBusServiceProxy` and the `…WithDriver` functions behind it. A call copies the driver of
the shared state under its mutex and goes to that driver later, when the module may have been
stopped, or stopped and started again, in the meantime.
-/

namespace ModuleContext.RabbitMqBus
open Foundation Misc Framework

/-! ## Calls of the service -/

/-- The methods of `IMessageBusService` that go to the driver. -/
inductive ServiceCall where
  | publish (request : PublishRequest)
  | declareExchange (spec : ExchangeSpec)
  | declareQueue (spec : QueueSpec)
  | bindQueue (spec : BindingSpec)

/-- The method of the driver behind a method of the service. -/
def ServiceCall.clientCall : ServiceCall → Driver.ClientCall
  | .publish request => .publish request
  | .declareExchange spec => .declareExchange spec
  | .declareQueue spec => .declareQueue spec
  | .bindQueue spec => .bindQueue spec

/-- How far a call has come: its driver is looked up, its command is queued, or it has returned
without one. -/
inductive CallStage where
  | lookedUp
  | queued
  | returned (result : Result Unit)

structure CallRecord where
  call : ServiceCall
  driverRef : Option Nat
  stage : CallStage

def notStarted : Error := makeDisconnected "RabbitMQ bus module is not started"

def notRunning : Error := makeInvalidState "RabbitMQ connection driver is not running"

/-- `PublishWithDriver` and its siblings, up to the end of `EnqueueCommand`. -/
def withDriver (driver : Option RabbitMqBusModule.DriverObject) (call : ServiceCall) : CallStage :=
  match driver with
  | none => .returned (.error notStarted)
  | some driver =>
      match call.clientCall.command with
      | .error result => .returned result
      | .ok _ => if driver.accepts then .queued else .returned (.error notRunning)

/-- A module with the calls that threads have made on its service. -/
structure BusService where
  module : RabbitMqBusModule
  calls : List CallRecord

namespace BusService
open RabbitMqBusModule (ModuleRun serving retired)

def new : BusService := ⟨.new, []⟩

/-- A step of the module, or of a thread that calls the service. -/
inductive Label where
  | module (l : RabbitMqBusModule.Label)
  | lookupDriver (call : ServiceCall)
  | withDriver (n : Nat)

def step (s : BusService) : Label → Option BusService
  | .module l => (s.module.step l).map fun module => { s with module }
  | .lookupDriver call =>
      some { s with calls := s.calls ++ [⟨call, s.module.shared.driver, .lookedUp⟩] }
  | .withDriver n =>
      match s.calls[n]? with
      | some ⟨call, none, .lookedUp⟩ =>
          some { s with calls := s.calls.set n ⟨call, none, withDriver none call⟩ }
      | some ⟨call, some id, .lookedUp⟩ =>
          match s.module.drivers[id]? with
          | none => none
          | some driver =>
              some { s with calls := s.calls.set n ⟨call, some id, withDriver (some driver) call⟩ }
      | _ => none

abbrev ServiceRun (past : List (BusService × Label)) (s : BusService) : Prop := Run step new past s

/-- The steps of the module. -/
def modulePast (past : List (BusService × Label)) :
    List (RabbitMqBusModule × RabbitMqBusModule.Label) :=
  past.filterMap fun (s, l) =>
    match l with
    | .module l => some (s.module, l)
    | .lookupDriver _ | .withDriver _ => none

variable {past : List (BusService × Label)} {s s' : BusService} {l : Label}

/-- The calls of the service do not disturb the module. -/
theorem module_step (taken : s.step l = some s') :
    (∃ moduleLabel, l = .module moduleLabel ∧ s.module.step moduleLabel = some s'.module ∧
      s'.calls = s.calls) ∨
      ((∀ moduleLabel, l ≠ .module moduleLabel) ∧ s'.module = s.module) := by
  cases l with
  | module moduleLabel =>
    obtain ⟨module, stepped, rfl⟩ := Option.map_eq_some_iff.mp taken
    exact .inl ⟨moduleLabel, rfl, stepped, rfl⟩
  | lookupDriver call =>
    cases taken
    exact .inr ⟨nofun, rfl⟩
  | withDriver n =>
    refine .inr ⟨nofun, ?_⟩
    simp only [step] at taken
    split at taken
    · cases taken
      rfl
    · split at taken
      · cases taken
      · cases taken
        rfl
    · cases taken

theorem run_module {first : BusService} (run : Run step first past s) :
    Run RabbitMqBusModule.step first.module (modulePast past) s.module := by
  induction run with
  | nil => exact .nil
  | @snoc past s s' l before taken ih =>
    rcases module_step taken with ⟨moduleLabel, rfl, stepped, -⟩ | ⟨other, same⟩
    · exact ih.snoc stepped
    · rw [same]
      cases l with
      | module moduleLabel => exact absurd rfl (other moduleLabel)
      | lookupDriver call => exact ih
      | withDriver n => exact ih

/-- A call keeps the driver that it has looked up. -/
theorem call_kept (taken : s.step l = some s') {n : Nat} {record : CallRecord}
    (there : s.calls[n]? = some record) :
    ∃ stage, s'.calls[n]? = some { record with stage } := by
  cases l with
  | module moduleLabel =>
    obtain ⟨module, -, rfl⟩ := Option.map_eq_some_iff.mp taken
    exact ⟨record.stage, there⟩
  | lookupDriver call =>
    cases taken
    refine ⟨record.stage, ?_⟩
    rw [List.getElem?_append_left (List.getElem?_eq_some_iff.mp there).1]
    exact there
  | withDriver other =>
    simp only [step] at taken
    split at taken
    · rename_i call found
      cases taken
      by_cases same : other = n
      · subst same
        rw [found] at there
        cases there
        exact ⟨_, List.getElem?_set_self (List.getElem?_eq_some_iff.mp found).1⟩
      · exact ⟨record.stage, by rw [List.getElem?_set_ne same]; exact there⟩
    · rename_i call id found
      split at taken
      · cases taken
      · cases taken
        by_cases same : other = n
        · subst same
          rw [found] at there
          cases there
          exact ⟨_, List.getElem?_set_self (List.getElem?_eq_some_iff.mp found).1⟩
        · exact ⟨record.stage, by rw [List.getElem?_set_ne same]; exact there⟩
    · cases taken

theorem run_call_kept {first : BusService} (run : Run step first past s) {n : Nat}
    {record : CallRecord} (there : first.calls[n]? = some record) :
    ∃ stage, s.calls[n]? = some { record with stage } := by
  refine run.invariant (fun s => ∃ stage, s.calls[n]? = some { record with stage }) ?_ ?_
  · exact ⟨record.stage, there⟩
  · rintro s l s' ⟨stage, here⟩ taken
    obtain ⟨stage', there⟩ := call_kept taken here
    exact ⟨stage', there⟩

theorem mem_modulePast {before : BusService} {moduleLabel : RabbitMqBusModule.Label}
    (member : (before, .module moduleLabel) ∈ past) :
    (before.module, moduleLabel) ∈ modulePast past := by
  rw [modulePast, List.mem_filterMap]
  exact ⟨_, member, rfl⟩

/-- Call `n` looked its driver up in the given step. -/
def LookedUp (n : Nat) (before : BusService) (l : Label) : Prop :=
  ∃ call, l = .lookupDriver call ∧ before.calls.length = n

/-- A driver that was looked up before a request to stop does not serve after it. -/
theorem not_serving_of_stop (run : ServiceRun past s) {n id : Nat} {record : CallRecord}
    (there : s.calls[n]? = some record) (ref : record.driverRef = some id)
    (served : serving (modulePast past) = some id)
    {later earlier : List (BusService × Label)} {before : BusService} {l : Label}
    (split : past = later ++ (before, l) :: earlier) (lookup : LookedUp n before l) :
    ∀ entry ∈ later, entry.2 ≠ .module .requestStop := by
  rintro ⟨middle, label⟩ member rfl
  obtain ⟨call, rfl, length⟩ := lookup
  subst split
  obtain ⟨after, reached, taken, rest⟩ := run.cut
  cases taken
  -- what the call has looked up
  have made : (before.calls ++ [⟨call, before.module.shared.driver, .lookedUp⟩])[n]? =
      some ⟨call, before.module.shared.driver, .lookedUp⟩ := by
    rw [← length]
    exact List.getElem?_concat_length
  obtain ⟨stage, kept⟩ := run_call_kept rest made
  have isRef : before.module.shared.driver = some id := by
    rw [there] at kept
    cases kept
    exact ref
  have known := (RabbitMqBusModule.run_fresh (run_module reached)).current id isRef
  -- what the request has retired
  obtain ⟨last, first, rfl⟩ := List.append_of_mem member
  obtain ⟨stopped, upTo, -, -⟩ := rest.cut
  have longer := RabbitMqBusModule.run_length_le (run_module upTo)
  dsimp only at longer
  have asked : (middle.module, RabbitMqBusModule.Label.requestStop) ∈
      modulePast ((last ++ (middle, .module .requestStop) :: first) ++
        (before, .lookupDriver call) :: earlier) :=
    mem_modulePast (List.mem_append_left _ member)
  have gone := RabbitMqBusModule.retired_of_mem (run_module run) asked
  have fresh := (RabbitMqBusModule.run_fresh (run_module run)).serving id served
  omega

/-- How a call of the service goes on once its driver is looked up. -/
structure Routed (past : List (BusService × Label)) (s : BusService) (n : Nat)
    (record : CallRecord) (stage : CallStage) : Prop where
  /-- Its command is queued if its arguments pass and its driver is the one that serves. -/
  queued : stage = .queued ↔ (∃ body, record.call.clientCall.command = .ok body) ∧
    ∃ id, record.driverRef = some id ∧ serving (modulePast past) = some id
  /-- Then the module is `Started`, with this driver. -/
  current : stage = .queued →
    s.module.base.state = .started ∧ s.module.shared.driver = record.driverRef
  /-- And no driver was asked to stop since the lookup. -/
  unstopped : stage = .queued → ∀ later earlier before l,
    past = later ++ (before, l) :: earlier → LookedUp n before l →
      ∀ entry ∈ later, entry.2 ≠ .module .requestStop
  /-- Otherwise it returns: there was no driver, the arguments do not pass, or the driver does
  not run. -/
  returned : stage ≠ .queued →
    (record.driverRef = none ∧ stage = .returned (.error notStarted)) ∨
    (∃ result, record.call.clientCall.command = .error result ∧ stage = .returned result) ∨
    stage = .returned (.error notRunning)

theorem withDriver_some (driver : RabbitMqBusModule.DriverObject) (call : ServiceCall) :
    (withDriver (some driver) call = .queued ↔
      (∃ body, call.clientCall.command = .ok body) ∧ driver.accepts = true) ∧
    (withDriver (some driver) call ≠ .queued →
      (∃ result, call.clientCall.command = .error result ∧
        withDriver (some driver) call = .returned result) ∨
      withDriver (some driver) call = .returned (.error notRunning)) := by
  unfold withDriver
  cases checked : call.clientCall.command with
  | error result => simp
  | ok body =>
    cases accepts : driver.accepts with
    | true => simp [accepts]
    | false => simp [accepts]

/-- Every call is routed to the driver that serves, or refused: a driver that was looked up
before the module was stopped never gets a command afterwards. -/
theorem service_calls_routed (run : ServiceRun past s) {n : Nat} {s' : BusService}
    (taken : s.step (.withDriver n) = some s') :
    ∃ record stage, s.calls[n]? = some record ∧ s'.calls[n]? = some { record with stage } ∧
      Routed past s n record stage := by
  have moduleRun := run_module run
  have serves := RabbitMqBusModule.run_serves moduleRun
  simp only [step] at taken
  split at taken
  · rename_i call found
    cases taken
    refine ⟨_, _, found, List.getElem?_set_self (List.getElem?_eq_some_iff.mp found).1, ?_⟩
    refine ⟨iff_of_false nofun ?_, nofun, nofun, fun _ => .inl ⟨rfl, rfl⟩⟩
    rintro ⟨-, id, none, -⟩
    cases none
  · rename_i call id found
    split at taken
    · cases taken
    · rename_i driver there
      cases taken
      refine ⟨_, _, found, List.getElem?_set_self (List.getElem?_eq_some_iff.mp found).1, ?_⟩
      obtain ⟨queued, returned⟩ := withDriver_some driver call
      have accepts := serves.accepts id driver there
      refine ⟨?_, ?_, ?_, fun unqueued => .inr (returned unqueued)⟩
      · rw [queued, accepts]
        refine and_congr_right fun _ => ?_
        constructor
        · exact fun served => ⟨id, rfl, served⟩
        · rintro ⟨other, same, served⟩
          cases same
          exact served
      · intro isQueued
        have accepting := (queued.mp isQueued).2
        have served := accepts.mp accepting
        refine ⟨serves.started ?_, ?_⟩
        · rw [served]
          exact nofun
        · exact (RabbitMqBusModule.invariant_of_run moduleRun).current id driver there
            (RabbitMqBusModule.DriverObject.joinable_of_accepts accepting)
      · intro isQueued later earlier before l split lookup
        have served := accepts.mp (queued.mp isQueued).2
        exact not_serving_of_stop run found rfl served split lookup
  · cases taken

/-- A call that has looked its driver up is overtaken by a restart of the module; a second one
is made after it. -/
def restarted : List Label :=
  RabbitMqBusModule.startUp.map .module ++ [.lookupDriver (.publish Driver.pingRequest)] ++
    ([.stop, .stopRead, .requestStop, .threadEnds 0, .joinDriver, .shutdownPool (.ok ()), .start,
      .startRead, .startPool (.ok ()), .installDriver, .startDriver none] :
        List RabbitMqBusModule.Label).map .module ++
    [.lookupDriver (.publish Driver.pingRequest)]

/-- The command of the second call goes to the new driver; the first call is refused. -/
theorem service_calls_routed_restarted :
    ∃ past s, exec step restarted [] new = some (past, s) ∧
      serving (modulePast past) = some 1 ∧ s.module.base.state = .started ∧
      ∃ s', s.step (.withDriver 0) = some s' ∧
        ∀ record, s'.calls[0]? = some record → record.stage ≠ .queued := by
  obtain ⟨past, s, s₀, s₁, executed, first, second, record, there, isQueued, ref⟩ :
      ∃ past s s₀ s₁, exec step restarted [] new = some (past, s) ∧
        s.step (.withDriver 0) = some s₀ ∧ s.step (.withDriver 1) = some s₁ ∧
        ∃ record, s₁.calls[1]? = some record ∧ record.stage = .queued ∧
          record.driverRef = some 1 :=
    ⟨_, _, _, _, rfl, rfl, rfl, _, rfl, rfl, rfl⟩
  have run := run_of_exec .nil executed
  obtain ⟨old, stage, -, kept, routed⟩ := service_calls_routed run second
  rw [there] at kept
  cases kept
  obtain ⟨-, id, isRef, served⟩ := routed.queued.mp isQueued
  cases ref.symm.trans isRef
  refine ⟨past, s, executed, served, (routed.current isQueued).1, s₀, first, ?_⟩
  obtain ⟨old', stage', before, after, routed'⟩ := service_calls_routed run first
  intro record' there' isQueued'
  rw [after] at there'
  cases there'
  obtain ⟨-, other, isOther, served'⟩ := routed'.queued.mp isQueued'
  have same : old'.driverRef = some 0 := by
    have found : s.calls[0]?.map (·.driverRef) = some (some 0) := by
      cases executed
      rfl
    rw [before] at found
    exact Option.some.inj found
  rw [same] at isOther
  cases isOther
  cases served.symm.trans served'

end BusService

end ModuleContext.RabbitMqBus
