import ModuleContext.RabbitMqBus.BusModule.Invariant

/-!
# Deliveries of the bus module

What has been recorded about each delivery agrees with how far it has come: the handler that was
registered when it was dispatched is called at most once, and the delivery is completed once it
is finished, and not before.
-/

namespace ModuleContext.RabbitMqBus.RabbitMqBusModule
open Foundation Misc Framework
open Driver (HandlerOutcome)

/-- The calls of `CompleteDelivery` for one delivery. -/
def completionsOf (n : Nat) (m : RabbitMqBusModule) : List Completion :=
  m.completions.filter (·.delivery == n)

/-- The handler calls for one delivery. -/
def callsOf (n : Nat) (m : RabbitMqBusModule) : List HandlerCall :=
  m.handlerCalls.filter (·.delivery == n)

/-- The completions that are due for a delivery as far as it has come. -/
def Delivery.completions (n : Nat) (delivery : Delivery) : List Completion :=
  match delivery.stage, delivery.snapshot.driverRef with
  | .finished ending, some driver =>
      if delivery.snapshot.delivery.autoAck then []
      else [⟨n, driver, delivery.snapshot.delivery, ending.action⟩]
  | _, _ => []

theorem Delivery.completions_unfinished {n : Nat} {delivery : Delivery}
    (unfinished : ∀ ending, delivery.stage ≠ .finished ending) : delivery.completions n = [] := by
  unfold Delivery.completions
  split
  · rename_i ending _ isFinished _
    exact absurd isFinished (unfinished ending)
  · rfl

theorem Delivery.completions_autoAck {n : Nat} {delivery : Delivery}
    (autoAck : delivery.snapshot.delivery.autoAck = true) : delivery.completions n = [] := by
  unfold Delivery.completions
  split
  · rw [if_pos autoAck]
  · rfl

theorem Delivery.completions_finished {n d : Nat} {snapshot : Snapshot} {ending : Ending}
    (driverRef : snapshot.driverRef = some d) (needsAck : snapshot.delivery.autoAck = false) :
    Delivery.completions n ⟨snapshot, .finished ending⟩ =
      [⟨n, d, snapshot.delivery, ending.action⟩] := by
  simp only [Delivery.completions, driverRef, needsAck]
  rfl

/-- `Submit` has refused the task of a delivery. -/
def Refused (past : List (RabbitMqBusModule × Label)) (n : Nat) : Prop :=
  ∃ before id driver, (before, Label.submit id false) ∈ past ∧
    before.drivers[id]? = some driver ∧ driver.thread = .inCallback n

/-- Why the handling of a delivery has ended as it has, given the calls of its handler. -/
def Ending.Explained (past : List (RabbitMqBusModule × Label)) (n : Nat) (snapshot : Snapshot)
    (calls : List HandlerCall) : Ending → Prop
  | .returned action => ∃ handler, snapshot.handler = some handler ∧
      calls = [⟨n, handler, snapshot.incoming, .returned action⟩]
  | .threw => ∃ handler, snapshot.handler = some handler ∧
      calls = [⟨n, handler, snapshot.incoming, .threw⟩]
  | .noHandler => snapshot.handler = none ∧ calls = []
  | .refused => Refused past n ∧ calls = []
  | .noPool => snapshot.workerPool = none ∧ calls = []

/-- The handler is called on the way from `queued` to `handled`. -/
def Stage.Explained (past : List (RabbitMqBusModule × Label)) (n : Nat) (snapshot : Snapshot)
    (calls : List HandlerCall) : Stage → Prop
  | .dispatched | .queued => calls = []
  | .handled ending | .finished ending => ending.Explained past n snapshot calls

theorem Refused.snoc {past : List (RabbitMqBusModule × Label)} {n : Nat}
    (refused : Refused past n) (entry : RabbitMqBusModule × Label) : Refused (entry :: past) n := by
  obtain ⟨before, id, driver, member, found, thread⟩ := refused
  exact ⟨before, id, driver, List.mem_cons_of_mem _ member, found, thread⟩

theorem Stage.Explained.snoc {past : List (RabbitMqBusModule × Label)} {n : Nat}
    {snapshot : Snapshot} {calls : List HandlerCall} {stage : Stage}
    (explained : stage.Explained past n snapshot calls) (entry : RabbitMqBusModule × Label) :
    stage.Explained (entry :: past) n snapshot calls := by
  have later (ending : Ending) (explained : ending.Explained past n snapshot calls) :
      ending.Explained (entry :: past) n snapshot calls := by
    cases ending with
    | refused => exact ⟨explained.1.snoc entry, explained.2⟩
    | returned action => exact explained
    | threw => exact explained
    | noHandler => exact explained
    | noPool => exact explained
  cases stage with
  | dispatched => exact explained
  | queued => exact explained
  | handled ending => exact later ending explained
  | finished ending => exact later ending explained

/-! ## What one delivery advances by -/

/-- One delivery goes on, and only about this one something is recorded. -/
structure Advance (m m' : RabbitMqBusModule) (n : Nat) (delivery : Delivery)
    (calls : List HandlerCall) : Prop where
  deliveries : m'.deliveries = m.deliveries.set n delivery
  completions : ∀ k, m'.completionsOf k =
    m.completionsOf k ++ if k = n then delivery.completions n else []
  calls : ∀ k, m'.callsOf k = m.callsOf k ++ if k = n then calls else []

section Advance

variable {m : RabbitMqBusModule} {n : Nat}

theorem advance_setStage {delivery : Delivery} {stage : Stage}
    (unfinished : ∀ ending, stage ≠ .finished ending) :
    Advance m (m.setStage n delivery stage) n { delivery with stage } [] := by
  have none : Delivery.completions n { delivery with stage } = [] :=
    Delivery.completions_unfinished unfinished
  refine ⟨rfl, fun k => ?_, fun k => ?_⟩
  · rw [none, ite_self, List.append_nil]
    rfl
  · rw [ite_self, List.append_nil]
    rfl

theorem advance_complete {delivery : Delivery} {ending : Ending} :
    Advance m (m.complete n delivery ending) n { delivery with stage := .finished ending } [] := by
  unfold complete
  dsimp only
  split
  · rename_i noDriver
    refine ⟨rfl, fun k => ?_, fun k => ?_⟩
    · simp only [Delivery.completions, noDriver, ite_self, List.append_nil]
      rfl
    · rw [ite_self, List.append_nil]
      rfl
  · rename_i driver hasDriver
    split
    · rename_i autoAck
      refine ⟨rfl, fun k => ?_, fun k => ?_⟩
      · simp only [Delivery.completions, hasDriver, autoAck, if_true, ite_self, List.append_nil]
        rfl
      · rw [ite_self, List.append_nil]
        rfl
    · rename_i needsAck
      refine ⟨rfl, fun k => ?_, fun k => ?_⟩
      · by_cases same : k = n
        · subst same
          simp [completionsOf, Delivery.completions, hasDriver, needsAck, setStage]
        · simp [completionsOf, setStage, same, Ne.symm same]
      · rw [ite_self, List.append_nil]
        rfl

theorem advance_runHandler_none {delivery : Delivery} {outcome : HandlerOutcome}
    (noHandler : delivery.snapshot.handler = none) :
    Advance m (m.runHandler n delivery outcome) n
      { delivery with stage := .handled .noHandler } [] := by
  unfold runHandler
  rw [noHandler]
  exact advance_setStage nofun

theorem advance_runHandler_some {delivery : Delivery} {outcome : HandlerOutcome} {handler : Nat}
    (hasHandler : delivery.snapshot.handler = some handler) :
    Advance m (m.runHandler n delivery outcome) n
      { delivery with stage := .handled (.ofOutcome outcome) }
      [⟨n, handler, delivery.snapshot.incoming, outcome⟩] := by
  unfold runHandler
  rw [hasHandler]
  have moved := @advance_setStage m n delivery (.handled (.ofOutcome outcome)) nofun
  refine ⟨moved.deliveries, moved.completions, fun k => ?_⟩
  by_cases same : k = n
  · subst same
    simp [callsOf]
  · simp [callsOf, same, Ne.symm same]

end Advance

/-! ## The ledger -/

/-- The delivery that a thread is handing over. -/
def ThreadState.delivery : ThreadState → Option Nat
  | .inCallback n => some n
  | .absent | .looping | .ended => none

/-- The delivery with which a driver is in the callback. -/
def callbackOf (id : Nat) (m : RabbitMqBusModule) : Option Nat :=
  m.drivers[id]?.bind (·.thread.delivery)

/-- The records of a module are complete. -/
structure Ledger (past : List (RabbitMqBusModule × Label)) (m : RabbitMqBusModule) : Prop where
  callback : ∀ (id n : Nat), m.callbackOf id = some n ↔
    ∃ snapshot, m.deliveries[n]? = some ⟨snapshot, .dispatched⟩ ∧ snapshot.receiver = id
  completions : ∀ (n : Nat) (delivery : Delivery), m.deliveries[n]? = some delivery →
    m.completionsOf n = delivery.completions n
  calls : ∀ (n : Nat) (delivery : Delivery), m.deliveries[n]? = some delivery →
    delivery.stage.Explained past n delivery.snapshot (m.callsOf n)
  fresh : ∀ n : Nat, m.deliveries.length ≤ n → m.completionsOf n = [] ∧ m.callsOf n = []

theorem ledger_new : Ledger [] new := by
  have empty (n : Nat) (delivery : Delivery) : new.deliveries[n]? ≠ some delivery := by
    intro found
    cases List.mem_of_getElem? found
  refine ⟨?_, ?_, ?_, ?_⟩
  · intro id n
    refine iff_of_false nofun ?_
    rintro ⟨snapshot, found, -⟩
    exact empty n _ found
  · intro n delivery found
    exact absurd found (empty n delivery)
  · intro n delivery found
    exact absurd found (empty n delivery)
  · intro n _
    exact ⟨rfl, rfl⟩

section Ledger

variable {past : List (RabbitMqBusModule × Label)} {m m' : RabbitMqBusModule}
  {entry : RabbitMqBusModule × Label}

/-- A step that has nothing to do with deliveries. -/
theorem Ledger.keep (holds : Ledger past m) (deliveries : m'.deliveries = m.deliveries)
    (completions : m'.completions = m.completions) (calls : m'.handlerCalls = m.handlerCalls)
    (threads : ∀ id, m'.callbackOf id = m.callbackOf id) : Ledger (entry :: past) m' := by
  have sameCompletions (n : Nat) : m'.completionsOf n = m.completionsOf n := by
    rw [completionsOf, completions, completionsOf]
  have sameCalls (n : Nat) : m'.callsOf n = m.callsOf n := by
    rw [callsOf, calls, callsOf]
  refine ⟨?_, ?_, ?_, ?_⟩
  · intro id n
    rw [threads, deliveries]
    exact holds.callback id n
  · intro n delivery found
    rw [deliveries] at found
    rw [sameCompletions]
    exact holds.completions n delivery found
  · intro n delivery found
    rw [deliveries] at found
    rw [sameCalls]
    exact (holds.calls n delivery found).snoc entry
  · intro n beyond
    rw [deliveries] at beyond
    rw [sameCompletions, sameCalls]
    exact holds.fresh n beyond

/-- A delivery that is not finished goes on. -/
theorem Ledger.advance {n : Nat} {delivery next : Delivery} {calls : List HandlerCall}
    (holds : Ledger past m) (there : m.deliveries[n]? = some delivery)
    (unfinished : delivery.completions n = []) (moved : Advance m m' n next calls)
    (explained : next.stage.Explained (entry :: past) n next.snapshot (m.callsOf n ++ calls))
    (threads : ∀ id k, m'.callbackOf id = some k ↔
      ∃ snapshot, m'.deliveries[k]? = some ⟨snapshot, .dispatched⟩ ∧ snapshot.receiver = id) :
    Ledger (entry :: past) m' := by
  have inside : n < m.deliveries.length := (List.getElem?_eq_some_iff.mp there).1
  have lookup {k : Nat} {found : Delivery} (member : m'.deliveries[k]? = some found) :
      (k = n ∧ found = next) ∨ (k ≠ n ∧ m.deliveries[k]? = some found) := by
    rw [moved.deliveries, List.getElem?_set] at member
    split at member
    · rename_i same
      cases member
      exact .inl ⟨same.symm, rfl⟩
    · rename_i different
      exact .inr ⟨Ne.symm different, member⟩
  refine ⟨threads, fun k found member => ?_, fun k found member => ?_, fun k beyond => ?_⟩
  · rw [moved.completions]
    rcases lookup member with ⟨rfl, rfl⟩ | ⟨different, before⟩
    · rw [holds.completions k delivery there, unfinished, if_pos rfl, List.nil_append]
    · rw [if_neg different, List.append_nil]
      exact holds.completions k found before
  · rw [moved.calls]
    rcases lookup member with ⟨rfl, rfl⟩ | ⟨different, before⟩
    · rw [if_pos rfl]
      exact explained
    · rw [if_neg different, List.append_nil]
      exact (holds.calls k found before).snoc entry
  · rw [moved.deliveries, List.length_set] at beyond
    have different : k ≠ n := by omega
    rw [moved.completions, moved.calls, if_neg different, if_neg different, List.append_nil,
      List.append_nil]
    exact holds.fresh k beyond

theorem callbackOf_setDriver {id other : Nat} {driver d : DriverObject}
    (found : m.drivers[id]? = some driver) :
    (m.setDriver id d).callbackOf other =
      if other = id then d.thread.delivery else m.callbackOf other := by
  have inside : id < m.drivers.length := (List.getElem?_eq_some_iff.mp found).1
  unfold callbackOf setDriver
  rw [List.getElem?_set]
  by_cases same : other = id
  · subst same
    rw [if_pos rfl, if_pos inside, if_pos rfl]
    rfl
  · rw [if_neg (Ne.symm same), if_neg same]

/-- What happens to a driver outside of the callback. -/
theorem callbackOf_same {id : Nat} {driver d : DriverObject} (found : m.drivers[id]? = some driver)
    (same : d.thread.delivery = driver.thread.delivery) (other : Nat) :
    (m.setDriver id d).callbackOf other = m.callbackOf other := by
  rw [callbackOf_setDriver found]
  split
  · rename_i isThis
    rw [isThis, callbackOf, found, same]
    rfl
  · rfl

theorem callbackOf_installDriver {config : RabbitMqBusConfig} (other : Nat) :
    (m.installDriver config).callbackOf other = m.callbackOf other := by
  unfold callbackOf RabbitMqBusModule.installDriver
  dsimp only
  rw [List.getElem?_append]
  split
  · rfl
  · rename_i beyond
    rw [List.getElem?_eq_none (Nat.le_of_not_lt beyond)]
    cases index : other - m.drivers.length with
    | zero => rfl
    | succ k => rfl

/-- A driver that has no thread is not in the callback. -/
theorem delivery_of_not_running {driver : DriverObject} (idle : driver.isRunning = false) :
    driver.thread.delivery = none := by
  unfold DriverObject.isRunning at idle
  cases thread : driver.thread with
  | inCallback n =>
    rw [thread] at idle
    cases idle
  | absent => rfl
  | looping => rfl
  | ended => rfl

theorem callbackOf_of_found {id : Nat} {driver : DriverObject}
    (found : m.drivers[id]? = some driver) : m.callbackOf id = driver.thread.delivery := by
  rw [callbackOf, found]
  rfl

/-- The deliveries whose callback is still running, once one has gone on. -/
theorem dispatched_set {n k : Nat} {next : Delivery} {snapshot : Snapshot}
    (gone : next.stage ≠ .dispatched) :
    (m.deliveries.set n next)[k]? = some ⟨snapshot, .dispatched⟩ ↔
      k ≠ n ∧ m.deliveries[k]? = some ⟨snapshot, .dispatched⟩ := by
  rw [List.getElem?_set]
  by_cases same : n = k
  · rw [if_pos same]
    refine iff_of_false ?_ fun there => there.1 same.symm
    intro found
    split at found
    · cases found
      exact gone rfl
    · cases found
  · rw [if_neg same]
    exact ⟨fun found => ⟨Ne.symm same, found⟩, fun there => there.2⟩

/-- A message is handed to the callback. -/
theorem Ledger.enterCallback {id : Nat} {driver : DriverObject} {incoming : IncomingMessage}
    {delivery : DeliveryContext} (holds : Ledger past m) (found : m.drivers[id]? = some driver)
    (thread : driver.thread = .looping) :
    Ledger (entry :: past)
      { m.setDriver id { driver with thread := .inCallback m.deliveries.length } with
        deliveries :=
          m.deliveries ++ [⟨m.shared.snapshot id incoming delivery, .dispatched⟩] } := by
  have outside : m.callbackOf id = none := by
    rw [callbackOf_of_found found, thread]
    rfl
  have lookup {k : Nat} {there : Delivery}
      (member : (m.deliveries ++ [⟨m.shared.snapshot id incoming delivery, .dispatched⟩])[k]? =
        some there) :
      m.deliveries[k]? = some there ∨ (k = m.deliveries.length ∧
        there = ⟨m.shared.snapshot id incoming delivery, .dispatched⟩) := by
    rw [List.getElem?_append] at member
    split at member
    · exact .inl member
    · rw [List.getElem?_singleton] at member
      split at member
      · cases member
        exact .inr ⟨by omega, rfl⟩
      · cases member
  refine ⟨?_, ?_, ?_, ?_⟩
  · intro other n
    have now : callbackOf other
        { m.setDriver id { driver with thread := .inCallback m.deliveries.length } with
          deliveries :=
            m.deliveries ++ [⟨m.shared.snapshot id incoming delivery, .dispatched⟩] } =
        if other = id then some m.deliveries.length else m.callbackOf other :=
      callbackOf_setDriver found
    rw [now]
    constructor
    · intro handing
      split at handing
      · rename_i isThis
        cases handing
        refine ⟨m.shared.snapshot id incoming delivery, ?_, isThis.symm⟩
        exact List.getElem?_concat_length
      · obtain ⟨snapshot, there, receiver⟩ := (holds.callback other n).mp handing
        refine ⟨snapshot, ?_, receiver⟩
        rw [List.getElem?_append_left (List.getElem?_eq_some_iff.mp there).1]
        exact there
    · rintro ⟨snapshot, member, receiver⟩
      rcases lookup member with before | ⟨rfl, isNew⟩
      · have handing := (holds.callback other n).mpr ⟨snapshot, before, receiver⟩
        rw [if_neg, handing]
        rintro rfl
        rw [outside] at handing
        cases handing
      · cases isNew
        have isThis : other = id := receiver.symm
        rw [if_pos isThis]
  · intro n there member
    rcases lookup member with before | ⟨rfl, rfl⟩
    · exact holds.completions n there before
    · exact (holds.fresh _ le_rfl).1
  · intro n there member
    rcases lookup member with before | ⟨rfl, rfl⟩
    · exact (holds.calls n there before).snoc entry
    · exact (holds.fresh _ le_rfl).2
  · intro n beyond
    rw [List.length_append, List.length_singleton] at beyond
    exact holds.fresh n (by omega)

/-- What `Submit` makes of a delivery. -/
theorem advance_submit {n : Nat} {delivery : Delivery} {accepted : Bool} :
    ∃ stage, stage ≠ .dispatched ∧
      Advance m (m.submit n delivery accepted) n { delivery with stage } [] ∧
      ∀ past : List (RabbitMqBusModule × Label), (accepted = false → Refused past n) →
        stage.Explained past n delivery.snapshot [] := by
  unfold submit
  split
  · rename_i noPool
    exact ⟨.finished .noPool, nofun, advance_complete, fun _ _ => ⟨noPool, rfl⟩⟩
  · split
    · exact ⟨.queued, nofun, advance_setStage nofun, fun _ _ => rfl⟩
    · rename_i refused
      rw [Bool.not_eq_true] at refused
      exact ⟨.finished .refused, nofun, advance_complete, fun _ seen => ⟨seen refused, rfl⟩⟩

/-- The callback returns. -/
theorem Ledger.submit {id n : Nat} {driver : DriverObject} {delivery : Delivery} {accepted : Bool}
    (holds : Ledger past m) (found : m.drivers[id]? = some driver)
    (thread : driver.thread = .inCallback n) (there : m.deliveries[n]? = some delivery) :
    Ledger ((m, .submit id accepted) :: past)
      ((m.submit n delivery accepted).setDriver id { driver with thread := .looping }) := by
  have handing : m.callbackOf id = some n := by
    rw [callbackOf_of_found found, thread]
    rfl
  obtain ⟨snapshot, isDispatched, receiver⟩ := (holds.callback id n).mp handing
  rw [there, Option.some.injEq] at isDispatched
  subst isDispatched
  obtain ⟨stage, gone, moved, explained⟩ := @advance_submit m n ⟨snapshot, .dispatched⟩ accepted
  obtain ⟨deliveries, handlerCalls, completions, changed⟩ :=
    ledgerOnly_submit n ⟨snapshot, .dispatched⟩ accepted m
  have drivers : (m.submit n ⟨snapshot, .dispatched⟩ accepted).drivers[id]? = some driver := by
    rw [changed]
    exact found
  have threads (other : Nat) : (m.submit n ⟨snapshot, .dispatched⟩ accepted).callbackOf other =
      m.callbackOf other := by
    rw [changed]
    rfl
  have calls : m.callsOf n = [] := holds.calls n _ there
  refine holds.advance there rfl ⟨moved.deliveries, moved.completions, moved.calls⟩ ?_ ?_
  · rw [calls, List.append_nil]
    exact explained _ fun refused => ⟨m, id, driver, by rw [refused]; simp, found, thread⟩
  · intro other k
    rw [callbackOf_setDriver drivers, threads]
    show _ ↔ ∃ seen, (m.submit n ⟨snapshot, .dispatched⟩ accepted).deliveries[k]? = _ ∧ _
    have goneOn : Delivery.stage ⟨snapshot, stage⟩ ≠ .dispatched := gone
    rw [moved.deliveries]
    simp only [dispatched_set goneOn]
    by_cases isThis : other = id
    · subst isThis
      rw [if_pos rfl]
      refine iff_of_false nofun ?_
      rintro ⟨seen, ⟨different, before⟩, sameReceiver⟩
      have again := (holds.callback other k).mpr ⟨seen, before, sameReceiver⟩
      rw [handing, Option.some.injEq] at again
      exact different again.symm
    · rw [if_neg isThis, holds.callback]
      constructor
      · rintro ⟨seen, before, sameReceiver⟩
        refine ⟨seen, ⟨?_, before⟩, sameReceiver⟩
        rintro rfl
        rw [there] at before
        cases before
        exact isThis (sameReceiver.symm.trans receiver)
      · rintro ⟨seen, ⟨-, before⟩, sameReceiver⟩
        exact ⟨seen, before, sameReceiver⟩

/-- A task goes on. -/
theorem Ledger.task {n : Nat} {delivery next : Delivery} {calls : List HandlerCall}
    (holds : Ledger past m) (there : m.deliveries[n]? = some delivery)
    (unfinished : delivery.completions n = []) (moved : Advance m m' n next calls)
    (explained : next.stage.Explained (entry :: past) n next.snapshot (m.callsOf n ++ calls))
    (before : delivery.stage ≠ .dispatched) (after : next.stage ≠ .dispatched)
    (drivers : m'.drivers = m.drivers) : Ledger (entry :: past) m' := by
  refine holds.advance there unfinished moved explained fun id k => ?_
  rw [moved.deliveries]
  simp only [dispatched_set after]
  rw [callbackOf, drivers, ← callbackOf, holds.callback]
  constructor
  · rintro ⟨seen, found, receiver⟩
    refine ⟨seen, ⟨?_, found⟩, receiver⟩
    rintro rfl
    rw [there] at found
    cases found
    exact before rfl
  · rintro ⟨seen, ⟨-, found⟩, receiver⟩
    exact ⟨seen, found, receiver⟩

/-- Every step keeps the ledger. -/
theorem Ledger.step {l : Label} (holds : Ledger past m) (inv : m.Invariant)
    (stepped : Stepped m l m') : Ledger ((m, l) :: past) m' := by
  cases stepped with
  | startRead pc =>
    obtain ⟨base, pc, changed⟩ := readForStart_eq m
    rw [changed]
    exact holds.keep rfl rfl rfl fun _ => rfl
  | installDriver pc => exact holds.keep rfl rfl rfl callbackOf_installDriver
  | @startDriver id driver refused pc found =>
    have control := inv.control
    rw [pc] at control
    have quiet := control.2.1 id driver found
    have idle : driver.isRunning = false := by
      by_contra running
      rw [Bool.not_eq_false] at running
      rw [inv.joinable id driver found running] at quiet
      cases quiet
    have same : (driver.start refused).2.thread.delivery = driver.thread.delivery := by
      unfold DriverObject.start
      rw [quiet]
      cases refused with
      | some e => rfl
      | none => exact (delivery_of_not_running idle).symm
    obtain ⟨base, pc, changed⟩ := startDriver_eq id driver refused m
    rw [changed]
    exact holds.keep rfl rfl rfl (callbackOf_same found same)
  | requestStop pc found => exact holds.keep rfl rfl rfl (callbackOf_same found rfl)
  | joinDriver pc found rests => exact holds.keep rfl rfl rfl (callbackOf_same found rfl)
  | @shutdownPool pool caller answer pc =>
    obtain ⟨base, pc, changed⟩ := shutdownPool_eq pool caller answer m
    rw [changed]
    exact holds.keep rfl rfl rfl fun _ => rfl
  | enterCallback found thread => exact holds.enterCallback found thread
  | submit found thread there => exact holds.submit found thread there
  | threadEnds found thread =>
    refine holds.keep rfl rfl rfl (callbackOf_same found ?_)
    rw [thread]
    rfl
  | @runHandler n snapshot outcome there =>
    obtain ⟨deliveries, handlerCalls, completions, changed⟩ :=
      ledgerOnly_runHandler n ⟨snapshot, .queued⟩ outcome m
    have drivers : (m.runHandler n ⟨snapshot, .queued⟩ outcome).drivers = m.drivers := by
      rw [changed]
    have calls : m.callsOf n = [] := holds.calls n _ there
    cases hasHandler : snapshot.handler with
    | none =>
      have moved := @advance_runHandler_none m n ⟨snapshot, .queued⟩ outcome hasHandler
      refine holds.task there rfl moved ?_ nofun nofun drivers
      rw [calls]
      exact ⟨hasHandler, rfl⟩
    | some handler =>
      have moved := @advance_runHandler_some m n ⟨snapshot, .queued⟩ outcome handler hasHandler
      refine holds.task there rfl moved ?_ nofun nofun drivers
      rw [calls]
      cases outcome with
      | returned action => exact ⟨handler, hasHandler, rfl⟩
      | threw => exact ⟨handler, hasHandler, rfl⟩
  | @finishTask n snapshot ending there =>
    obtain ⟨deliveries, handlerCalls, completions, changed⟩ :=
      ledgerOnly_complete n ⟨snapshot, .handled ending⟩ ending m
    have drivers : (m.complete n ⟨snapshot, .handled ending⟩ ending).drivers = m.drivers := by
      rw [changed]
    have explained := Stage.Explained.snoc (holds.calls n _ there) (m, .finishTask n)
    refine holds.task there rfl advance_complete ?_ nofun nofun drivers
    rw [List.append_nil]
    exact explained
  | _ => exact holds.keep rfl rfl rfl fun _ => rfl

end Ledger

theorem ledger_of_run {past : List (RabbitMqBusModule × Label)} {m : RabbitMqBusModule}
    (run : ModuleRun past m) : Ledger past m :=
  run.invariant_past Ledger ledger_new fun _ _ _ _ before holds taken =>
    holds.step (invariant_of_run before) (step_cases taken)

end ModuleContext.RabbitMqBus.RabbitMqBusModule
