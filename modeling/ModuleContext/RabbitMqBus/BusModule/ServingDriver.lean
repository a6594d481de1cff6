import ModuleContext.RabbitMqBus.BusModule.DriverView

/-!
# The driver that serves

A driver takes commands from its start until it is asked to stop, and it is never started again:
every `OnStart` makes a driver of its own. So at most one driver takes commands, and a driver
from before a stop is not the one.
-/

namespace ModuleContext.RabbitMqBus
open Foundation Misc Framework

namespace RabbitMqBusModule

/-! ## Which driver takes commands -/

/-- The test of `EnqueueCommand`. -/
def DriverObject.accepts (driver : DriverObject) : Bool :=
  driver.joinable && !driver.stopRequested

theorem DriverObject.accepts_ofState [AmqpFields] (config : RabbitMqBusConfig)
    (s : Driver.State) :
    (ofState config s).accepts = s.accepts := rfl

/-- The driver that has been started last, if it has not been asked to stop. -/
def serving : List (RabbitMqBusModule × Label) → Option Nat
  | [] => none
  | (m, .startDriver none) :: past =>
      match m.pc with
      | .startDriver id => some id
      | _ => serving past
  | (_, .requestStop) :: _ => none
  | _ :: past => serving past

/-- The driver that takes commands is the one that serves, and only a `Started` module has it. -/
structure Serves (past : List (RabbitMqBusModule × Label)) (m : RabbitMqBusModule) : Prop where
  found : ∀ id, serving past = some id → ∃ driver, m.drivers[id]? = some driver
  accepts : ∀ (id : Nat) (driver : DriverObject), m.drivers[id]? = some driver →
    (driver.accepts = true ↔ serving past = some id)
  started : serving past ≠ none → m.base.state = .started
  asked : ∀ id pool caller, m.pc = .joinDriver id pool caller → serving past = none

theorem DriverObject.joinable_of_accepts {driver : DriverObject} (accepts : driver.accepts = true) :
    driver.joinable = true := by
  rw [DriverObject.accepts, Bool.and_eq_true] at accepts
  exact accepts.1

section Serving

variable {past : List (RabbitMqBusModule × Label)} {m m' : RabbitMqBusModule} {l : Label}

/-- Nothing serves while there is no thread. -/
theorem Serves.none_of_quiet (serves : Serves past m) (quiet : m.NoThread) :
    serving past = none := by
  cases served : serving past with
  | none => rfl
  | some id =>
    obtain ⟨driver, found⟩ := serves.found id served
    have joinable := DriverObject.joinable_of_accepts ((serves.accepts id driver found).mpr served)
    rw [quiet id driver found] at joinable
    cases joinable

/-- A step that no driver is touched by. -/
theorem Serves.keep (serves : Serves past m) (same : serving ((m, l) :: past) = serving past)
    (drivers : m'.drivers = m.drivers) (base : serving past ≠ none → m'.base.state = .started)
    (pc : ∀ id pool caller, m'.pc = .joinDriver id pool caller → serving past = none) :
    Serves ((m, l) :: past) m' := by
  refine ⟨?_, ?_, ?_, ?_⟩
  · rw [same, drivers]
    exact serves.found
  · rw [same, drivers]
    exact serves.accepts
  · rw [same]
    exact base
  · rw [same]
    exact pc

theorem Serves.of_quiet (none : serving past = none) (quiet : m.NoThread) : Serves past m := by
  refine ⟨?_, ?_, fun served => absurd none served, fun _ _ _ _ => none⟩
  · rw [none]
    exact nofun
  · intro id driver found
    rw [none]
    refine iff_of_false ?_ nofun
    intro accepts
    have joinable := DriverObject.joinable_of_accepts accepts
    rw [quiet id driver found] at joinable
    cases joinable

/-- A step while there is no thread, after which there still is none. -/
theorem Serves.rest (serves : Serves past m) (quiet : m.NoThread)
    (same : serving ((m, l) :: past) = serving past) (quiet' : m'.NoThread) :
    Serves ((m, l) :: past) m' :=
  .of_quiet (same.trans (serves.none_of_quiet quiet)) quiet'

/-- The thread of a driver goes on. -/
theorem Serves.setThread (serves : Serves past m) {id : Nat} {driver : DriverObject}
    (found : m.drivers[id]? = some driver) (thread : ThreadState)
    (same : serving ((m, l) :: past) = serving past)
    (drivers : m'.drivers = (m.setDriver id { driver with thread }).drivers)
    (base : m'.base = m.base) (pc : m'.pc = m.pc) : Serves ((m, l) :: past) m' := by
  refine ⟨?_, ?_, ?_, ?_⟩
  · intro other served
    rw [same] at served
    obtain ⟨seen, there⟩ := serves.found other served
    rw [drivers]
    by_cases equal : other = id
    · subst equal
      exact ⟨_, lookup_setDriver_self found⟩
    · refine ⟨seen, ?_⟩
      rw [setDriver, List.getElem?_set_ne fun same => equal same.symm]
      exact there
  · intro other seen lookup
    rw [drivers] at lookup
    rw [same]
    rcases lookup_setDriver lookup with ⟨rfl, rfl⟩ | ⟨-, lookup⟩
    · exact serves.accepts other driver found
    · exact serves.accepts other seen lookup
  · rw [same, base]
    exact serves.started
  · rw [same, pc]
    exact serves.asked

theorem Serves.startDriver (serves : Serves past m) (holds : m.Invariant) {id : Nat}
    {driver : DriverObject} {refused : Option Error} (pc : m.pc = .startDriver id)
    (found : m.drivers[id]? = some driver) :
    Serves ((m, .startDriver refused) :: past) (m.startDriver id driver refused) := by
  have control := holds.control
  rw [pc] at control
  obtain ⟨startable, quiet, -⟩ := control
  have fresh := quiet id driver found
  cases refused with
  | some e =>
    have unchanged : (m.startDriver id driver (some e)).drivers =
        (m.setDriver id driver).drivers := by
      unfold RabbitMqBusModule.startDriver DriverObject.start
      rw [fresh]
      rfl
    refine serves.rest quiet rfl ?_
    intro other seen lookup
    rw [unchanged] at lookup
    rcases lookup_setDriver lookup with ⟨rfl, rfl⟩ | ⟨-, lookup⟩
    · exact fresh
    · exact quiet other seen lookup
  | none =>
    have served : serving ((m, .startDriver none) :: past) = some id := by
      simp only [serving, pc]
    have running : (m.startDriver id driver none).drivers =
        (m.setDriver id ⟨driver.config, true, false, .looping⟩).drivers := by
      unfold RabbitMqBusModule.startDriver DriverObject.start
      rw [fresh]
      rfl
    have state : (m.startDriver id driver none).base.state = .started ∧
        (m.startDriver id driver none).pc = .idle := by
      unfold RabbitMqBusModule.startDriver DriverObject.start
      rw [fresh]
      exact ⟨finishStart_state startable, rfl⟩
    refine ⟨?_, ?_, fun _ => state.1, ?_⟩
    · intro other same
      rw [served] at same
      cases same
      rw [running]
      exact ⟨_, lookup_setDriver_self found⟩
    · intro other seen lookup
      rw [running] at lookup
      rw [served, Option.some.injEq]
      rcases lookup_setDriver lookup with ⟨rfl, rfl⟩ | ⟨different, lookup⟩
      · exact iff_of_true rfl rfl
      · refine iff_of_false ?_ fun same => different same.symm
        intro accepts
        have joinable := DriverObject.joinable_of_accepts accepts
        rw [quiet other seen lookup] at joinable
        cases joinable
    · intro other pool caller place
      rw [state.2] at place
      cases place

/-- Once a driver is asked to stop, no driver takes commands. -/
theorem serves_requestStop (holds : m.Invariant) {id : Nat} {pool : Option WorkerPool}
    {caller : StopCaller} {driver : DriverObject}
    (pc : m.pc = .requestStop (some id) pool caller) :
    Serves ((m, .requestStop) :: past)
      { m.setDriver id { driver with stopRequested := true } with
        pc := .joinDriver id pool caller } := by
  have control := holds.control
  rw [pc] at control
  have current : some id = m.shared.driver := control
  refine ⟨nofun, ?_, fun served => absurd rfl served, fun _ _ _ _ => rfl⟩
  intro other seen lookup
  refine iff_of_false ?_ nofun
  intro accepts
  rcases lookup_setDriver lookup with ⟨rfl, rfl⟩ | ⟨different, lookup⟩
  · simp [DriverObject.accepts] at accepts
  · have isCurrent := holds.current other seen lookup (DriverObject.joinable_of_accepts accepts)
    rw [← current] at isCurrent
    exact different (Option.some.inj isCurrent).symm

/-- A lifecycle step that leaves the state and the drivers alone. -/
theorem Serves.goto (serves : Serves past m) {p : LifecyclePc}
    (same : serving ((m, l) :: past) = serving past)
    (place : ∀ id pool caller, p ≠ .joinDriver id pool caller) :
    Serves ((m, l) :: past) { m with pc := p } :=
  serves.keep same rfl serves.started
    fun id pool caller there => absurd there (place id pool caller)

theorem Serves.step (serves : Serves past m) (holds : m.Invariant) (stepped : Stepped m l m') :
    Serves ((m, l) :: past) m' := by
  have control := holds.control
  cases stepped with
  | turnedAway pc call =>
    cases call <;> exact serves.keep rfl rfl serves.started serves.asked
  | initFailed pc valid =>
    have quiet := NoThread.idle holds pc (not_started_of_init valid)
    exact serves.rest quiet rfl quiet
  | initRead pc valid parsed => exact serves.goto rfl nofun
  | initCommit pc =>
    rw [pc] at control
    exact serves.rest control rfl control
  | startEntered pc valid => exact serves.goto rfl nofun
  | startRead pc =>
    rw [pc] at control
    obtain ⟨base, pc', changed⟩ := m.readForStart_eq
    refine serves.rest control.2 rfl ?_
    rw [changed]
    exact control.2
  | poolRefused pc =>
    rw [pc] at control
    exact serves.rest control.2.1 rfl control.2.1
  | poolStarted pc => exact serves.goto rfl nofun
  | @installDriver config pool pc =>
    rw [pc] at control
    have installed := (holds.installDriver pc).control
    exact serves.rest control.2.1 rfl installed.2.1
  | startDriver pc found => exact serves.startDriver holds pc found
  | abandonDriver pc =>
    rw [pc] at control
    exact serves.rest control rfl control
  | stopEntered pc call valid => cases call <;> exact serves.goto rfl nofun
  | stopRead pc => exact serves.goto rfl nofun
  | nothingToStop pc => exact .of_quiet rfl (holds.step (.nothingToStop pc)).control
  | requestStop pc found => exact serves_requestStop holds pc
  | @joinDriver id pool caller driver pc found rests =>
    exact .of_quiet (serves.asked id pool caller pc) (holds.joinDriver pc found rests).control
  | @shutdownPool pool caller answer pc =>
    rw [pc] at control
    obtain ⟨base, pc', changed⟩ := shutdownPool_eq pool caller answer m
    refine serves.rest control rfl ?_
    rw [changed]
    exact control
  | finiEntered pc invalid => exact serves.goto rfl nofun
  | finiUnused pc invalid =>
    have quiet := NoThread.idle holds pc (not_started_of_no_stop invalid)
    exact serves.rest quiet rfl quiet
  | finiClear pc =>
    rw [pc] at control
    exact serves.rest control rfl control
  | registerHandler => exact serves.keep rfl rfl serves.started serves.asked
  | unregisterHandler => exact serves.keep rfl rfl serves.started serves.asked
  | enterCallback found thread => exact serves.setThread found _ rfl rfl rfl rfl
  | @submit id n driver delivery accepted found thread there =>
    obtain ⟨deliveries, handlerCalls, completions, changed⟩ :=
      ledgerOnly_submit n delivery accepted m
    rw [changed]
    exact serves.setThread found _ rfl rfl rfl rfl
  | threadEnds found thread => exact serves.setThread found _ rfl rfl rfl rfl
  | @runHandler n snapshot outcome found =>
    obtain ⟨deliveries, handlerCalls, completions, changed⟩ :=
      ledgerOnly_runHandler n ⟨snapshot, .queued⟩ outcome m
    rw [changed]
    exact serves.keep rfl rfl serves.started serves.asked
  | @finishTask n snapshot ending found =>
    obtain ⟨deliveries, handlerCalls, completions, changed⟩ :=
      ledgerOnly_complete n ⟨snapshot, .handled ending⟩ ending m
    rw [changed]
    exact serves.keep rfl rfl serves.started serves.asked

theorem run_serves (run : ModuleRun past m) : Serves past m := by
  refine run.invariant_past Serves ?_ ?_
  · exact ⟨nofun, nofun, fun served => absurd rfl served, nofun⟩
  · intro past m l m' before serves taken
    exact serves.step (invariant_of_run before) (step_cases taken)

end Serving

/-! ## Drivers are not started again -/

/-- How many drivers there were when one was last asked to stop. -/
def retired : List (RabbitMqBusModule × Label) → Nat
  | [] => 0
  | (m, .requestStop) :: _ => m.drivers.length
  | _ :: past => retired past

/-- The driver that serves was made after the last request to stop. -/
structure Fresh (past : List (RabbitMqBusModule × Label)) (m : RabbitMqBusModule) : Prop where
  current : ∀ id, m.shared.driver = some id → id < m.drivers.length
  retired : retired past ≤ m.drivers.length
  starting : ∀ id, m.pc = .startDriver id → RabbitMqBusModule.retired past ≤ id
  serving : ∀ id, serving past = some id → RabbitMqBusModule.retired past ≤ id

/-- What a step does to the list of drivers and to who points into it. -/
inductive Pointed (m : RabbitMqBusModule) : Label → RabbitMqBusModule → Prop where
  | installed {config : RabbitMqBusConfig} : Pointed m .installDriver (m.installDriver config)
  | asked {m' : RabbitMqBusModule} : m'.drivers.length = m.drivers.length →
      m'.shared.driver = m.shared.driver → (∀ id, m'.pc ≠ .startDriver id) →
      Pointed m .requestStop m'
  | kept {l : Label} {m' : RabbitMqBusModule} : l ≠ .requestStop →
      m'.drivers.length = m.drivers.length →
      (m'.shared.driver = m.shared.driver ∨ m'.shared.driver = none) →
      (∀ id, m'.pc = .startDriver id → m.pc = .startDriver id) → Pointed m l m'

section Freshness

variable {past : List (RabbitMqBusModule × Label)} {m m' : RabbitMqBusModule} {l : Label}

theorem length_setDriver (id : Nat) (driver : DriverObject) :
    (m.setDriver id driver).drivers.length = m.drivers.length :=
  List.length_set

theorem pointed_of_stepped (stepped : Stepped m l m') : Pointed m l m' := by
  cases stepped with
  | turnedAway pc call => cases call <;> exact .kept nofun rfl (.inl rfl) fun id there => there
  | initFailed pc valid => exact .kept nofun rfl (.inl rfl) nofun
  | initRead pc valid parsed => exact .kept nofun rfl (.inl rfl) nofun
  | initCommit pc => exact .kept nofun rfl (.inr rfl) nofun
  | startEntered pc valid => exact .kept nofun rfl (.inl rfl) nofun
  | startRead pc =>
    unfold RabbitMqBusModule.readForStart
    split
    · exact .kept nofun rfl (.inl rfl) nofun
    · split
      · exact .kept nofun rfl (.inl rfl) nofun
      · exact .kept nofun rfl (.inl rfl) nofun
  | poolRefused pc => exact .kept nofun rfl (.inl rfl) nofun
  | poolStarted pc => exact .kept nofun rfl (.inl rfl) nofun
  | installDriver pc => exact .installed
  | @startDriver id driver refused pc found =>
    refine .kept nofun ?_ ?_ fun other there => ?_
    · obtain ⟨base, pc', changed⟩ := startDriver_eq id driver refused m
      rw [changed]
      exact length_setDriver id _
    · obtain ⟨base, pc', changed⟩ := startDriver_eq id driver refused m
      rw [changed]
      exact .inl rfl
    · unfold RabbitMqBusModule.startDriver at there
      dsimp only at there
      split at there
      · cases there
      · cases there
  | abandonDriver pc => exact .kept nofun rfl (.inr rfl) nofun
  | stopEntered pc call valid => cases call <;> exact .kept nofun rfl (.inl rfl) nofun
  | stopRead pc => exact .kept nofun rfl (.inl rfl) nofun
  | nothingToStop pc => exact .asked rfl rfl nofun
  | requestStop pc found => exact .asked (length_setDriver _ _) rfl nofun
  | joinDriver pc found rests => exact .kept nofun (length_setDriver _ _) (.inl rfl) nofun
  | @shutdownPool pool caller answer pc =>
    unfold RabbitMqBusModule.shutdownPool
    cases caller with
    | stop => exact .kept nofun rfl (.inl rfl) nofun
    | fini => exact .kept nofun rfl (.inl rfl) nofun
  | finiEntered pc invalid => exact .kept nofun rfl (.inl rfl) nofun
  | finiUnused pc invalid => exact .kept nofun rfl (.inl rfl) nofun
  | finiClear pc => exact .kept nofun rfl (.inr rfl) nofun
  | registerHandler =>
    refine .kept nofun rfl (.inl ?_) fun id there => there
    generalize changed : (m.shared.registerConsumerHandler _ _).2 = shared
    obtain ⟨handlers⟩ := changed ▸ m.shared.handlersOnly_register _ _
    rfl
  | unregisterHandler =>
    refine .kept nofun rfl (.inl ?_) fun id there => there
    generalize changed : (m.shared.unregisterConsumerHandler _).2 = shared
    obtain ⟨handlers⟩ := changed ▸ m.shared.handlersOnly_unregister _
    rfl
  | enterCallback found thread =>
    exact .kept nofun (length_setDriver _ _) (.inl rfl) fun id there => there
  | @submit id n driver delivery accepted found thread there =>
    obtain ⟨deliveries, handlerCalls, completions, changed⟩ :=
      ledgerOnly_submit n delivery accepted m
    rw [changed]
    exact .kept nofun (length_setDriver _ _) (.inl rfl) fun id there => there
  | threadEnds found thread =>
    exact .kept nofun (length_setDriver _ _) (.inl rfl) fun id there => there
  | @runHandler n snapshot outcome found =>
    obtain ⟨deliveries, handlerCalls, completions, changed⟩ :=
      ledgerOnly_runHandler n ⟨snapshot, .queued⟩ outcome m
    rw [changed]
    exact .kept nofun rfl (.inl rfl) fun id there => there
  | @finishTask n snapshot ending found =>
    obtain ⟨deliveries, handlerCalls, completions, changed⟩ :=
      ledgerOnly_complete n ⟨snapshot, .handled ending⟩ ending m
    rw [changed]
    exact .kept nofun rfl (.inl rfl) fun id there => there

theorem Pointed.length_le (pointed : Pointed m l m') : m.drivers.length ≤ m'.drivers.length := by
  cases pointed with
  | installed => simp [RabbitMqBusModule.installDriver]
  | asked length current elsewhere => exact length.ge
  | kept notAsked length current starting => exact length.ge

/-- Only a request to stop changes how many drivers are retired. -/
theorem retired_of_ne (notAsked : l ≠ .requestStop) : retired ((m, l) :: past) = retired past := by
  cases l <;> first | rfl | exact absurd rfl notAsked

/-- Only a start makes another driver serve. -/
theorem serving_step (notAsked : l ≠ .requestStop) {id : Nat}
    (served : serving ((m, l) :: past) = some id) :
    serving past = some id ∨ m.pc = .startDriver id := by
  cases l with
  | startDriver refused =>
    cases refused with
    | some e => exact .inl served
    | none =>
      simp only [serving] at served
      split at served
      · rename_i pc
        cases served
        exact .inr pc
      · exact .inl served
  | requestStop => exact absurd rfl notAsked
  | _ => exact .inl served

theorem Fresh.step (fresh : Fresh past m) (pointed : Pointed m l m') :
    Fresh ((m, l) :: past) m' := by
  cases pointed with
  | @installed config =>
    have longer : (m.installDriver config).drivers.length = m.drivers.length + 1 := by
      simp [RabbitMqBusModule.installDriver]
    refine ⟨?_, ?_, ?_, fresh.serving⟩
    · intro id current
      cases current
      omega
    · exact fresh.retired.trans (by omega)
    · intro id starting
      cases starting
      exact fresh.retired
  | asked length current elsewhere =>
    refine ⟨?_, length.ge, fun id there => absurd there (elsewhere id), nofun⟩
    rw [current, length]
    exact fresh.current
  | kept notAsked length current starting =>
    refine ⟨?_, ?_, ?_, ?_⟩
    · intro id there
      rw [length]
      rcases current with same | none
      · exact fresh.current id (same ▸ there)
      · rw [none] at there
        cases there
    · rw [retired_of_ne notAsked, length]
      exact fresh.retired
    · intro id there
      rw [retired_of_ne notAsked]
      exact fresh.starting id (starting id there)
    · intro id served
      rw [retired_of_ne notAsked]
      rcases serving_step notAsked served with before | there
      · exact fresh.serving id before
      · exact fresh.starting id there

theorem run_fresh (run : ModuleRun past m) : Fresh past m := by
  refine run.invariant_past Fresh ?_ ?_
  · exact ⟨nofun, Nat.zero_le _, nofun, nofun⟩
  · intro past m l m' _ fresh taken
    exact fresh.step (pointed_of_stepped (step_cases taken))

theorem run_length_le {first : RabbitMqBusModule} (run : Run step first past m) :
    first.drivers.length ≤ m.drivers.length := by
  refine run.invariant (fun m => first.drivers.length ≤ m.drivers.length) le_rfl ?_
  intro m l m' longer taken
  exact longer.trans (pointed_of_stepped (step_cases taken)).length_le

/-- Whoever was there at a request to stop is retired. -/
theorem retired_of_mem (run : ModuleRun past m) {before : RabbitMqBusModule}
    (asked : (before, .requestStop) ∈ past) : before.drivers.length ≤ retired past := by
  induction run with
  | nil => cases asked
  | @snoc past m m' l reached taken ih =>
    rcases List.mem_cons.mp asked with same | earlier
    · cases same
      exact le_rfl
    · by_cases again : l = .requestStop
      · subst again
        exact (ih earlier).trans (run_fresh reached).retired
      · rw [retired_of_ne again]
        exact ih earlier

end Freshness

end RabbitMqBusModule

end ModuleContext.RabbitMqBus
