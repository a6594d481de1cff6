import ModuleContext.Misc.FrameCode
import ModuleContext.RabbitMqBus.Driver.ConnectionSteps
import ModuleContext.RabbitMqBus.Driver.Untouched

/-!
# The inbound stream

`PumpIncomingData` appends what the socket yields to `inbound_` and lets the AMQP connection
parse it as long as it consumes something. The frames that are handed over, and what stays in
the buffer, depend only on the bytes that have arrived and not on how they were cut.
-/

namespace ModuleContext.RabbitMqBus.Driver
open Foundation Misc

section

variable [AmqpFields]

/-- The bytes that `recv` yields in a step. -/
def Label.chunk : Label → List UInt8
  | .poll (.received data) => data
  | _ => []

namespace State

/-- A step that begins or ends a connection, and empties `inbound_`. -/
def renews (s : State) : Label → Bool
  | .connect (.connected _ _) _ => true
  | l => s.disconnects l

/-- The frames that `parse` consumes in a step. -/
def consumes (code : FrameCode UInt8) (s : State) : Label → List (List UInt8)
  | .parsed count => (code.cut (s.inbound.take count)).1
  | _ => []

/-- What has arrived on the present connection. -/
def arrived : List (State × Label) → List UInt8
  | [] => []
  | (s, l) :: past => if s.renews l then [] else arrived past ++ l.chunk

/-- The frames that have been handed to the present connection. -/
def handed (code : FrameCode UInt8) : List (State × Label) → List (List UInt8)
  | [] => []
  | (s, l) :: past => if s.renews l then [] else handed code past ++ s.consumes code l

/-- `parse` consumes complete frames from the front of the buffer, and nothing exactly if there
is no complete frame. -/
def ParsesFrames (code : FrameCode UInt8) (s : State) (l : Label) : Prop :=
  ∀ count, l = .parsed count →
    (code.cut (s.inbound.take count)).2 = [] ∧ (count = 0 ↔ code.front s.inbound = none)

/-- The calls of `parse` since the last call of `recv`. -/
def rounds : List (State × Label) → Nat
  | [] => 0
  | (_, .poll _) :: _ => 0
  | (_, .parsed _) :: past => rounds past + 1
  | _ :: past => rounds past

/-- The size of `inbound_` after the last call of `recv`. -/
def buffered : List (State × Label) → Nat
  | [] => 0
  | (s, .poll outcome) :: _ => (s.pollSocket outcome).inbound.length
  | _ :: past => buffered past

/-- The driver thread is in the loop of `PumpIncomingData`. -/
def InParse (s : State) : Prop := s.pc = .parsing ∨ ∃ pending, s.pc = .waiting pending

variable {s s' : State}

/-! ## Steps -/

/-- What a step does to the inbound buffer. -/
inductive InboundStep (s : State) : Label → State → Prop where
  | renewed {l : Label} {s' : State} : s.renews l = true → s'.inbound = [] → ¬ s'.InParse →
      InboundStep s l s'
  | polled {outcome : PollOutcome} {s' : State} : ¬ s.InParse →
      s'.inbound = s.inbound ++ (Label.poll outcome).chunk →
      (s'.InParse → s'.inbound ≠ []) → (¬ s'.InParse → (Label.poll outcome).chunk = []) →
      s' = s.pollSocket outcome → InboundStep s (.poll outcome) s'
  | parsed {count : Nat} {s' : State} : s.InParse → count ≤ s.inbound.length →
      s'.inbound = s.inbound.drop count →
      (s'.InParse → count ≠ 0 ∧ s'.inbound ≠ []) → (¬ s'.InParse → count = 0 ∨ s'.inbound = []) →
      InboundStep s (.parsed count) s'
  | kept {l : Label} {s' : State} : s.renews l = false → (∀ outcome, l ≠ .poll outcome) →
      (∀ count, l ≠ .parsed count) → s'.inbound = s.inbound → (s'.InParse ↔ s.InParse) →
      InboundStep s l s'

theorem parsed_cases {count : Nat} (taken : s.step (.parsed count) = some s') :
    s.pc = .parsing ∧ count ≤ s.inbound.length ∧
      s' = { s with
        inbound := s.inbound.drop count
        pc := if count = 0 || (s.inbound.drop count).isEmpty then .flushAfter else .parsing } := by
  have here : s.pc = .parsing := by
    cases step_cases taken with
    | parsed pc bounded leads => exact pc
  simp only [step, driverStep, here, Option.ite_none_right_eq_some, Option.some.injEq] at taken
  exact ⟨here, taken.1, taken.2.symm⟩

theorem step_parsed {count : Nat} (taken : s.step (.parsed count) = some s') :
    InboundStep s (.parsed count) s' := by
  obtain ⟨here, bounded, rfl⟩ := parsed_cases taken
  refine .parsed (Or.inl here) bounded rfl ?_ ?_
  · intro inside
    by_cases ends : (count = 0 || (s.inbound.drop count).isEmpty) = true
    · simp [InParse, ends] at inside
    · simpa [List.isEmpty_iff] using ends
  · intro outside
    by_cases ends : (count = 0 || (s.inbound.drop count).isEmpty) = true
    · simpa [List.isEmpty_iff] using ends
    · simp [InParse, ends] at outside

/-- After a disconnect the buffer is empty, and the thread is not in the loop. -/
theorem inboundStep_handleDisconnect {l : Label} (reason : ReasonRef) (now : Int)
    {pc : DriverPc} (renews : s.renews l = true)
    (outside : ∀ pending, pc ≠ .parsing ∧ pc ≠ .waiting pending) :
    InboundStep s l { s.handleDisconnect reason now with pc } := by
  obtain ⟨_, _, _, _, _, dropped⟩ := handleDisconnect_eq reason now s
  rw [dropped]
  refine .renewed renews rfl ?_
  rintro (inside | ⟨pending, inside⟩)
  · exact (outside 0).1 inside
  · exact (outside pending).2 inside

theorem step_inbound {l : Label} (coherent : Coherent s) (taken : s.step l = some s') :
    InboundStep s l s' := by
  have stays {l : Label} {next : State} (goesOn : s.renews l = false)
      (notPoll : ∀ outcome, l ≠ .poll outcome) (notParsed : ∀ count, l ≠ .parsed count)
      (untouched : Untouched s next) (pc : next.pc = s.pc) : InboundStep s l next :=
    .kept goesOn notPoll notParsed (untouched.same State.inbound fun _ => rfl)
      (by simp only [InParse, pc])
  have moves {l : Label} {next : State} (goesOn : s.renews l = false)
      (notPoll : ∀ outcome, l ≠ .poll outcome) (notParsed : ∀ count, l ≠ .parsed count)
      (inbound : next.inbound = s.inbound) (before : ¬ s.InParse) (after : ¬ next.InParse) :
      InboundStep s l next :=
    .kept goesOn notPoll notParsed inbound (iff_of_false after before)
  have outside {next : State} {pc : DriverPc} (here : next.pc = pc)
      (elsewhere : ∀ pending, pc ≠ .parsing ∧ pc ≠ .waiting pending) : ¬ next.InParse := by
    rintro (inside | ⟨pending, inside⟩)
    · exact (elsewhere 0).1 (here.symm.trans inside)
    · exact (elsewhere pending).2 (here.symm.trans inside)
  cases step_cases taken with
  | startRefused joinable => exact stays rfl nofun nofun (.refl s) rfl
  | start idle fresh =>
    refine moves rfl nofun nofun rfl ?_ (outside rfl (by simp))
    rcases coherent.joinable fresh with here | here
    · exact outside here (by simp)
    · exact outside here (by simp)
  | stopRequest idle => exact .kept rfl nofun nofun rfl Iff.rfl
  | stopJoin joining ended => exact .kept rfl nofun nofun rfl Iff.rfl
  | stopFinish finishing => exact .kept rfl nofun nofun rfl Iff.rfl
  | callAnswered checked => exact stays rfl nofun nofun (.refl s) rfl
  | @callQueued call body checked =>
    exact stays rfl nofun nofun (untouched_enqueueCommand body s)
      (sameTurn_enqueueCommand body s).pc
  | registerHandler => exact .kept rfl nofun nofun rfl Iff.rfl
  | unregisterHandler => exact .kept rfl nofun nofun rfl Iff.rfl
  | @finishTask index outcome task found =>
    exact stays rfl nofun nofun
      (untouched_finishTask task outcome { s with tasks := s.tasks.eraseIdx index })
      (sameTurn_finishTask task outcome _).pc
  | entered pc => exact moves rfl nofun nofun rfl (outside pc (by simp)) (outside rfl (by simp))
  | entryFailed pc =>
    exact moves rfl nofun nofun rfl (outside pc (by simp)) (outside rfl (by simp))
  | stopSeen pc stop =>
    exact moves rfl nofun nofun rfl (outside pc (by simp)) (outside rfl (by simp))
  | goOn pc goOn => exact moves rfl nofun nofun rfl (outside pc (by simp)) (outside rfl (by simp))
  | swapCommands pc =>
    exact moves rfl nofun nofun rfl (outside pc (by simp)) (outside rfl (by simp))
  | @runCommand answer sends command rest pc queued =>
    have turn := sameTurn_runCommand command answer sends { s with localCommands := rest }
    have same := untouched_runCommand command answer sends { s with localCommands := rest }
    exact .kept rfl nofun nofun (same.same State.inbound fun _ => rfl)
      (by simp only [InParse, turn.pc])
  | commandsDone pc none up =>
    exact moves rfl nofun nofun rfl (outside pc (by simp)) (outside rfl (by simp))
  | commandsDoneDown pc none down =>
    exact moves rfl nofun nofun rfl (outside pc (by simp)) (outside rfl (by simp))
  | attempt pc attempt =>
    exact moves rfl nofun nofun rfl (outside pc (by simp)) (outside rfl (by simp))
  | noAttempt pc refused =>
    exact moves rfl nofun nofun rfl (outside pc (by simp)) (outside rfl (by simp))
  | connected pc => exact .renewed rfl rfl (outside rfl (by simp))
  | connectFailed pc =>
    exact moves rfl nofun nofun rfl (outside pc (by simp)) (outside rfl (by simp))
  | @flushBefore sends pc =>
    have inbound := (quiet_flushOutboundData sends s).untouched.same State.inbound fun _ => rfl
    exact moves rfl nofun nofun inbound (outside pc (by simp)) (outside rfl (by simp))
  | @poll outcome pc possible =>
    have before : ¬ s.InParse := outside pc (by simp)
    cases outcome with
    | received data =>
      refine .polled before rfl (fun _ nothing => ?_) (fun out => absurd (Or.inl rfl) out) rfl
      have nonempty : data ≠ [] := by
        rintro rfl
        cases possible
      exact nonempty (List.append_eq_nil_iff.mp nothing).2
    | _ =>
      refine .polled before (List.append_nil _).symm (fun inside => ?_) (fun _ => rfl) rfl
      exact absurd inside (outside rfl (by simp [pollSocket]))
  | event pc live alive called =>
    obtain ⟨next, waits, turn⟩ := called.waits
    have there : s'.pc = next := turn.pc
    refine .kept rfl nofun nofun (called.untouched.same State.inbound fun _ => rfl)
      (iff_of_true ?_ (Or.inl pc))
    rcases waits with rfl | ⟨pending, rfl⟩
    · exact Or.inl (there.trans pc)
    · exact Or.inr ⟨pending, there⟩
  | parsed pc bounded leads => exact step_parsed taken
  | @flushAfter sends pc =>
    have inbound := (quiet_flushOutboundData sends s).untouched.same State.inbound fun _ => rfl
    exact moves rfl nofun nofun inbound (outside pc (by simp)) (outside rfl (by simp))
  | @heartbeat now produced pc =>
    have inbound := (quiet_maybeSendHeartbeat now produced s).untouched.same State.inbound
      fun _ => rfl
    exact moves rfl nofun nofun inbound (outside pc (by simp)) (outside rfl (by simp))
  | disconnect pc pending => exact inboundStep_handleDisconnect _ _ pending (by simp)
  | @endTurn now stale pc settled =>
    exact moves (l := .endTurn now stale) settled nofun nofun rfl (outside pc (by simp))
      (outside rfl (by simp))
  | finalDisconnect pc => exact inboundStep_handleDisconnect _ _ rfl (by simp)
  | waitOver pc completed =>
    exact .kept rfl nofun nofun rfl (iff_of_true (Or.inl rfl) (Or.inr ⟨_, pc⟩))

/-! ## Runs -/

variable {config : RabbitMqBusConfig} {now : Int} {past : List (State × Label)}
  {code : FrameCode UInt8}

/-- What has arrived is what has been handed over and what is in the buffer; outside of the loop
there is no complete frame in the buffer. -/
structure Cuts (code : FrameCode UInt8) (past : List (State × Label)) (s : State) : Prop where
  parses : code.Parses (arrived past) (handed code past) s.inbound
  done : ¬ s.InParse → code.front s.inbound = none

/-- `parse` hands over the frames that it consumes. -/
theorem parses_consumed {count : Nat} (obeys : s.ParsesFrames code (.parsed count)) :
    code.Parses s.inbound (s.consumes code (.parsed count)) (s.inbound.drop count) := by
  have cuts := (code.cut_parses (s.inbound.take count)).1
  rw [(obeys count rfl).1] at cuts
  have extended := cuts.append (s.inbound.drop count)
  rwa [List.take_append_drop, List.nil_append] at extended

theorem InboundStep.cuts {l : Label} (step : InboundStep s l s') (holds : Cuts code past s)
    (obeys : s.ParsesFrames code l) : Cuts code ((s, l) :: past) s' := by
  cases step with
  | renewed renews empty outside =>
    constructor
    · rw [arrived, handed, if_pos renews, if_pos renews, empty]
      exact .nil []
    · intro _
      rw [empty]
      exact FrameCode.front_nil
  | @polled outcome _ before inbound nonempty nothing polled =>
    have goesOn : s.renews (.poll outcome) = false := rfl
    constructor
    · rw [arrived, handed, goesOn, inbound]
      simpa [consumes] using holds.parses.append (Label.poll outcome).chunk
    · intro outside
      rw [inbound, nothing outside, List.append_nil]
      exact holds.done before
  | @parsed count _ inside bounded inbound goesOn ends =>
    have lasts : s.renews (.parsed count) = false := rfl
    constructor
    · rw [arrived, handed, lasts, inbound]
      simpa [Label.chunk] using holds.parses.trans (parses_consumed obeys)
    · intro outside
      rcases ends outside with none | empty
      · rw [inbound, none, List.drop_zero]
        exact (obeys count rfl).2.mp none
      · rw [empty]
        exact FrameCode.front_nil
  | kept lasts notPoll notParsed inbound same =>
    have chunk : l.chunk = [] := by
      cases l with
      | poll outcome => exact absurd rfl (notPoll outcome)
      | _ => rfl
    have none : s.consumes code l = [] := by
      cases l with
      | parsed count => exact absurd rfl (notParsed count)
      | _ => rfl
    constructor
    · rw [arrived, handed, lasts, chunk, none, inbound]
      simpa using holds.parses
    · intro outside
      rw [inbound]
      exact holds.done fun inside => outside (same.mpr inside)

theorem run_cuts (run : DriverRun config now past s)
    (obeys : AllSteps (fun _ s l => s.ParsesFrames code l) past) : Cuts code past s := by
  refine run.invariant_past
    (fun past s => AllSteps (fun _ s l => s.ParsesFrames code l) past → Cuts code past s)
    (fun _ => ⟨.nil [], fun _ => FrameCode.front_nil⟩)
    (fun past s l s' before holds taken obeys => ?_) obeys
  exact (step_inbound (run_coherent before) taken).cuts (holds obeys.2) obeys.1

/-- Each call of `parse` but the last one leaves less in the buffer. -/
structure Bounded (past : List (State × Label)) (s : State) : Prop where
  rounds : rounds past ≤ buffered past
  inside : s.InParse → s.inbound ≠ [] ∧ State.rounds past + s.inbound.length ≤ buffered past

theorem run_bounded (run : DriverRun config now past s) : Bounded past s := by
  refine run.invariant_past Bounded ⟨Nat.le_refl 0, ?_⟩ fun past s l s' before holds taken => ?_
  · rintro (inside | ⟨pending, inside⟩) <;> cases inside
  cases step_inbound (run_coherent before) taken with
  | renewed renews empty outside =>
    refine ⟨?_, fun inside => absurd inside outside⟩
    cases l with
    | poll outcome => exact Nat.zero_le _
    | parsed count => cases renews
    | _ => exact holds.rounds
  | @polled outcome _ before inbound nonempty nothing polled =>
    refine ⟨Nat.zero_le _, fun inside => ⟨nonempty inside, ?_⟩⟩
    rw [rounds, buffered, polled, Nat.zero_add]
  | @parsed count _ inside bounded inbound goesOn ends =>
    obtain ⟨nonempty, room⟩ := holds.inside inside
    have positive := List.length_pos_iff.mpr nonempty
    have more : rounds ((s, .parsed count) :: past) = rounds past + 1 := rfl
    have size : buffered ((s, .parsed count) :: past) = buffered past := rfl
    refine ⟨by omega, fun inside' => ⟨(goesOn inside').2, ?_⟩⟩
    have consumed := (goesOn inside').1
    rw [more, size, inbound, List.length_drop]
    omega
  | kept lasts notPoll notParsed inbound same =>
    have count : rounds ((s, l) :: past) = rounds past := by
      cases l with
      | poll outcome => exact absurd rfl (notPoll outcome)
      | parsed count => exact absurd rfl (notParsed count)
      | _ => rfl
    have size : buffered ((s, l) :: past) = buffered past := by
      cases l with
      | poll outcome => exact absurd rfl (notPoll outcome)
      | _ => rfl
    refine ⟨by rw [count, size]; exact holds.rounds, fun inside => ?_⟩
    rw [count, size, inbound]
    exact holds.inside (same.mp inside)

/-- What two drivers have handed over and what they still hold, when both are outside of the parse
loop; and at any time, in the loop too, `parse` has been called for the last chunk at most as
often as there were bytes to parse. -/
structure SameInbound (code : FrameCode UInt8) (past₁ past₂ : List (State × Label))
    (s₁ s₂ : State) : Prop where
  frames : ¬ s₁.InParse → ¬ s₂.InParse → handed code past₁ = handed code past₂
  rest : ¬ s₁.InParse → ¬ s₂.InParse → s₁.inbound = s₂.inbound
  ends₁ : rounds past₁ ≤ buffered past₁
  ends₂ : rounds past₂ ≤ buffered past₂

/-- Two drivers that have received the same bytes, in whatever chunks, have handed over the same
frames and hold the same rest, whenever both are outside of the parse loop. -/
theorem inbound_independent_of_chunks (code : FrameCode UInt8)
    {config₁ config₂ : RabbitMqBusConfig} {now₁ now₂ : Int}
    {past₁ past₂ : List (State × Label)} {s₁ s₂ : State}
    (run₁ : DriverRun config₁ now₁ past₁ s₁) (run₂ : DriverRun config₂ now₂ past₂ s₂)
    (obeys₁ : AllSteps (fun _ s l => s.ParsesFrames code l) past₁)
    (obeys₂ : AllSteps (fun _ s l => s.ParsesFrames code l) past₂)
    (same : arrived past₁ = arrived past₂) : SameInbound code past₁ past₂ s₁ s₂ := by
  have cuts₁ := run_cuts run₁ obeys₁
  have cuts₂ := run_cuts run₂ obeys₂
  have unique (outside₁ : ¬ s₁.InParse) (outside₂ : ¬ s₂.InParse) :
      handed code past₁ = handed code past₂ ∧ s₁.inbound = s₂.inbound :=
    cuts₁.parses.unique (cuts₁.done outside₁) (same ▸ cuts₂.parses) (cuts₂.done outside₂)
  exact ⟨fun outside₁ outside₂ => (unique outside₁ outside₂).1,
    fun outside₁ outside₂ => (unique outside₁ outside₂).2,
    (run_bounded run₁).rounds, (run_bounded run₂).rounds⟩

end State

end

/-- The size of the frame at the front of a buffer: its type, its channel, the size of its
payload, the payload and an end byte. -/
def frameSize : List UInt8 → Option Nat
  | _ :: _ :: _ :: a :: b :: c :: d :: rest =>
      let size := ((a.toNat * 256 + b.toNat) * 256 + c.toNat) * 256 + d.toNat + 8
      if size ≤ rest.length + 7 then some size else none
  | _ => none

def amqpFrames : FrameCode UInt8 where
  front := frameSize
  pos := by
    intro buffer n front
    unfold frameSize at front
    split at front
    · simp only [Option.ite_none_right_eq_some, Option.some.injEq] at front
      omega
    · cases front
  le := by
    intro buffer n front
    unfold frameSize at front
    split at front
    · simp only [Option.ite_none_right_eq_some, Option.some.injEq] at front
      simp only [List.length_cons]
      omega
    · cases front
  stable := by
    intro buffer n front more
    unfold frameSize at front
    split at front
    · simp only [Option.ite_none_right_eq_some, Option.some.injEq] at front
      obtain ⟨fits, rfl⟩ := front
      simp only [List.cons_append, frameSize, List.length_append, Option.ite_none_right_eq_some,
        and_true]
      omega
    · cases front

namespace State

open PlainFields

/-- A driver that has just connected and goes on to receive. -/
def connectAndPump : List Label :=
  [.start 0, .enter true, .testStop, .swapCommands, .commandsDone, .testReconnect 0,
    .connect (.connected 3 []) 0, .testStop, .swapCommands, .commandsDone, .flush []]

/-- A heartbeat frame. -/
def heartbeatFrame : List UInt8 := [8, 0, 0, 0, 0, 0, 0, 206]

/-- A heartbeat arrives in one chunk with the beginning of the next frame. -/
def receiveAtOnce : List Label :=
  connectAndPump ++ [.poll (.received (heartbeatFrame ++ [8, 0, 0])), .parsed 8, .parsed 0]

/-- The same bytes arrive in two chunks. -/
def receiveInTwo : List Label :=
  connectAndPump ++ [.poll (.received [8, 0, 0, 0]), .parsed 0, .flush [], .heartbeat 0 [],
    .endTurn 0 [], .testStop, .swapCommands, .commandsDone, .flush [],
    .poll (.received [0, 0, 0, 206, 8, 0, 0]), .parsed 8, .parsed 0]

theorem inbound_independent_of_chunks_heartbeat :
    ∃ past₁ past₂ s₁ s₂,
      exec step receiveAtOnce [] (new workerConfig 0) = some (past₁, s₁) ∧
      exec step receiveInTwo [] (new workerConfig 0) = some (past₂, s₂) ∧
      handed amqpFrames past₁ = [heartbeatFrame] ∧
      handed amqpFrames past₂ = [heartbeatFrame] ∧ s₁.inbound = s₂.inbound ∧
      SameInbound amqpFrames past₁ past₂ s₁ s₂ := by
  have parsed {s : State} {count : Nat}
      (whole : (amqpFrames.cut (s.inbound.take count)).2 = [])
      (progress : count = 0 ↔ amqpFrames.front s.inbound = none) :
      s.ParsesFrames amqpFrames (.parsed count) := by
    rintro _ ⟨⟩
    exact ⟨whole, progress⟩
  have outside {s : State} (pc : s.pc = .flushAfter) : ¬ s.InParse := by
    rintro (inside | ⟨pending, inside⟩)
    · cases pc.symm.trans inside
    · cases pc.symm.trans inside
  obtain ⟨past₁, s₁, executed₁, pc₁, frames, arrived₁, obeys₁⟩ :
      ∃ past s, exec step receiveAtOnce [] (new workerConfig 0) = some (past, s) ∧
        s.pc = .flushAfter ∧ handed amqpFrames past = [heartbeatFrame] ∧
        arrived past = heartbeatFrame ++ [8, 0, 0] ∧
        AllSteps (fun _ s l => s.ParsesFrames amqpFrames l) past := by
    exact ⟨_, _, rfl, rfl, rfl, rfl, parsed rfl (by decide), parsed rfl (by decide), nofun, nofun,
      nofun, nofun, nofun, nofun, nofun, nofun, nofun, nofun, nofun, nofun, trivial⟩
  obtain ⟨past₂, s₂, executed₂, pc₂, arrived₂, obeys₂⟩ :
      ∃ past s, exec step receiveInTwo [] (new workerConfig 0) = some (past, s) ∧
        s.pc = .flushAfter ∧ arrived past = heartbeatFrame ++ [8, 0, 0] ∧
        AllSteps (fun _ s l => s.ParsesFrames amqpFrames l) past := by
    exact ⟨_, _, rfl, rfl, rfl, parsed rfl (by decide), parsed rfl (by decide), nofun, nofun,
      nofun, nofun, nofun, nofun, nofun, nofun, parsed rfl (by decide), nofun, nofun, nofun, nofun,
      nofun, nofun, nofun, nofun, nofun, nofun, nofun, nofun, trivial⟩
  have same := inbound_independent_of_chunks amqpFrames (run_of_exec .nil executed₁)
    (run_of_exec .nil executed₂) obeys₁ obeys₂ (arrived₁.trans arrived₂.symm)
  have sameFrames := same.frames (outside pc₁) (outside pc₂)
  exact ⟨past₁, past₂, s₁, s₂, executed₁, executed₂, frames, sameFrames.symm.trans frames,
    same.rest (outside pc₁) (outside pc₂), same⟩

end State

end ModuleContext.RabbitMqBus.Driver
