import TokioFsm.RunConstruction

/-!
# When a state can be entered

`EntersAt` follows the declared transitions with a clock in hand: the first
declared handler of an event may move at any time, the timeout handler once the
timeout of the state has passed, and neither after a deadline out of range.
Whatever a run has entered it has entered in this way, and whatever can be
entered in this way is entered by some run.
-/

namespace TokioFsm

open StepRuns

variable {Context Payload Failure : Type}

/-- The state can be entered with the clock at this reading. -/
inductive FsmStructure.EntersAt (fsm : FsmStructure) (representable : Nat → Bool) :
    Ident → Nat → Prop
  | initial (clock : Nat) : fsm.EntersAt representable fsm.initialState clock
  | event {source event target : Ident} {clock nanos later : Nat} {handler : Handler} :
      fsm.EntersAt representable source clock → fsm.TimeoutOf source nanos →
        representable (clock + nanos) = true → clock ≤ later →
          fsm.handlers.find? (fun handler => decide (handler.Handles source event)) =
            some handler → target ∈ handler.targets → fsm.EntersAt representable target later
  | timeout {source target : Ident} {clock nanos later : Nat} {handler : Handler} :
      fsm.EntersAt representable source clock → fsm.TimeoutOf source nanos →
        representable (clock + nanos) = true → clock + nanos ≤ later →
          handler ∈ fsm.handlers → handler.isTimeoutHandler = true →
            target ∈ handler.targets → fsm.EntersAt representable target later

/-- The state can be entered early enough to set its timer. -/
def FsmStructure.EntersInRange (fsm : FsmStructure) (representable : Nat → Bool)
    (state : Ident) : Prop :=
  ∃ clock nanos, fsm.EntersAt representable state clock ∧ fsm.TimeoutOf state nanos ∧
    representable (clock + nanos) = true

theorem FsmStructure.EntersAt.mono {fsm : FsmStructure} {representable : Nat → Bool}
    {state : Ident} {clock later : Nat} (enters : fsm.EntersAt representable state clock)
    (isLater : clock ≤ later) : fsm.EntersAt representable state later := by
  cases enters with
  | initial => exact .initial later
  | event enters timeout fits waited found targetMem =>
      exact .event enters timeout fits (Nat.le_trans waited isLater) found targetMem
  | timeout enters timeout fits waited handlerMem isTimeout targetMem =>
      exact .timeout enters timeout fits (Nat.le_trans waited isLater) handlerMem isTimeout
        targetMem

/-- The loop entered its state in time, and its timer is due the timeout of the
state after the entry. -/
structure EnteredInTime (fsm : FsmStructure) (representable : Nat → Bool)
    (config : Config Context Payload Failure) : Prop where
  enters : ¬ config.phase.Selects →
    fsm.EntersAt representable config.loopState config.clock
  armed : config.phase.Selects → ∃ reading nanos,
    fsm.EntersAt representable config.loopState reading ∧
      fsm.TimeoutOf config.loopState nanos ∧ representable (reading + nanos) = true ∧
        reading ≤ config.clock ∧ config.deadline = reading + nanos
  fired : ∀ call argument entry, config.phase = .calling call argument entry →
    call.handler.isTimeoutHandler = true → config.deadline ≤ config.clock

section Accepted

variable {crates : Crates} {args : FsmArgs} {block : ItemImpl}
  (machine : AcceptedFsm crates args block) {representable : Nat → Bool}
  {initial config last : Config Context Payload Failure}
  {trace : List (Moment Context Payload Failure)}

/-- A finished handler leads to a state that can be entered at this time. -/
theorem EnteredInTime.enters_target {call : HandlerCall} {argument : Option Payload}
    {entry : FsmInstance Context} {target : Ident}
    (inTime : EnteredInTime machine.fsm representable config)
    (isCalling : config.phase = .calling call argument entry)
    (callFrom : machine.program.CallFrom entry.state call)
    (targetMem : target ∈ call.handler.targets) :
    machine.fsm.EntersAt representable target config.clock := by
  rcases inTime.armed (by rw [isCalling]; trivial) with
    ⟨reading, nanos, enters, timeout, fits, readingLe, deadlineEq⟩
  rw [Config.loopState_of_calling isCalling] at enters timeout
  cases callFrom with
  | event matched =>
      exact .event enters timeout fits readingLe (machine.matchArm_eq_some matched).1 targetMem
  | timer logic =>
      rcases machine.timeoutLogic_eq_some logic with ⟨handlerMem, isTimeout, -, -⟩
      have fired := inTime.fired call argument entry isCalling isTimeout
      rw [deadlineEq] at fired
      exact .timeout enters timeout fits fired handlerMem isTimeout targetMem

theorem EnteredInTime.of_idle {fsm : FsmStructure}
    (enters : fsm.EntersAt representable config.fsm.state config.clock)
    (idle : config.phase = .starting ∨ config.phase = .rearming ∨ config.phase = .publishing) :
    EnteredInTime fsm representable config where
  enters _ := by
    rcases idle with idle | idle | idle
    all_goals
      rw [Config.loopState, idle]
      exact enters
  armed selects := by
    rcases idle with idle | idle | idle
    all_goals
      rw [idle] at selects
      exact selects.elim
  fired call argument entry isCalling := by
    rcases idle with idle | idle | idle
    all_goals
      rw [idle] at isCalling
      cases isCalling

/-- What the task does takes no time, and its timer does not fire early. -/
theorem EnteredInTime.loop {action : LoopAction Context Failure}
    {next : Config Context Payload Failure}
    (inTime : EnteredInTime machine.fsm representable config)
    (sound : Sound machine.program config)
    (move : LoopMove machine.program representable config action next)
    (notEnded : ¬ next.phase.Ended) : EnteredInTime machine.fsm representable next := by
  have atIdle (state : Ident) (notSelects : ¬ config.phase.Selects)
      (stateEq : config.loopState = state) :
      machine.fsm.EntersAt representable state config.clock := by
    rw [← stateEq]
    exact inTime.enters notSelects
  have atSelect (isSelecting : config.phase = .selecting) := inTime.armed (by
    rw [isSelecting]
    trivial)
  cases move with
  | start isStarting =>
      refine .of_idle (atIdle _ ?_ ?_) (.inr (.inl rfl))
      · rw [isStarting]
        exact id
      · rw [Config.loopState, isStarting]
  | rearm isRearming fits =>
      have enters : machine.fsm.EntersAt representable config.fsm.state config.clock := by
        refine atIdle _ ?_ ?_
        · rw [isRearming]
          exact id
        · rw [Config.loopState, isRearming]
      refine ⟨fun outside => absurd trivial outside, fun _ => ?_, ?_⟩
      · exact ⟨config.clock, _, enters, machine.timeoutOf_iff.mpr rfl, fits, Nat.le_refl _, rfl⟩
      · intro call argument entry isCalling
        cases isCalling
  | wait | outOfBudget | expiredUnhandled => exact inTime
  | expired isSelecting isDue logic =>
      have armed := atSelect isSelecting
      rw [Config.loopState_of_selecting isSelecting] at armed
      exact ⟨fun outside => absurd trivial outside, fun _ => armed, fun _ _ _ _ _ => isDue⟩
  | unmatched isSelecting queued noArm => exact ⟨inTime.enters, inTime.armed, inTime.fired⟩
  | matched isSelecting queued found =>
      have armed := atSelect isSelecting
      rw [Config.loopState_of_selecting isSelecting] at armed
      refine ⟨fun outside => absurd trivial outside, fun _ => armed, ?_⟩
      intro call argument entry isCalling isTimeout
      cases isCalling
      rw [machine.isEvent_of_matchArm found] at isTimeout
      cases isTimeout
  | @handlerPending call argument entry after isCalling notCancelled typed =>
      have same : Config.loopState { config with fsm := after } = config.loopState := by
        simp [Config.loopState, isCalling]
      refine ⟨fun outside => ?_, fun selects => ?_, inTime.fired⟩
      · rw [same]
        exact inTime.enters outside
      · rw [same]
        exact inTime.armed selects
  | @handlerReady call argument entry after output result isCalling typed returns dispatched =>
      cases result with
      | error error => exact absurd trivial notEnded
      | ok target =>
          rcases returns.dispatch with ⟨result, resultEq, inTargets⟩
          rw [dispatched] at resultEq
          have targetMem := inTargets target (Option.some.inj resultEq).symm
          have callFrom := (sound.calling call argument entry isCalling).2
          exact .of_idle (inTime.enters_target machine isCalling callFrom targetMem)
            (.inr (.inr rfl))
  | publish isPublishing =>
      refine .of_idle (atIdle _ ?_ ?_) (.inr (.inl rfl))
      · rw [isPublishing]
        exact id
      · rw [Config.loopState, isPublishing]
  | dropReceiver isEnded | dropSender isEnded => exact absurd isEnded notEnded
  | overflow | cancelled | closed | handlerCancelled | handlerPanics | abort =>
      exact absurd trivial notEnded

/-- Wherever a run has come, it could be entered by then. -/
theorem Executes.enteredInTime
    (executes : Executes machine.program representable initial trace last) :
    ¬ last.phase.Ended → EnteredInTime machine.fsm representable last := by
  induction executes using Executes.rec_moves with
  | spawned _ begin =>
      intro _
      refine .of_idle ?_ (.inl begin.phase_eq)
      rw [begin.state_eq, machine.initialState_eq]
      exact .initial _
  | environment trace middle action last _ _ move entered =>
      intro notEnded
      rw [move.phase_eq] at notEnded
      rcases entered notEnded with ⟨enters, armed, fired⟩
      have clockLe := move.clock_le
      constructor
      · intro outside
        rw [move.phase_eq] at outside
        rw [move.loopState_eq]
        exact (enters outside).mono clockLe
      · intro selects
        rw [move.phase_eq] at selects
        rw [move.loopState_eq, move.deadline_eq]
        rcases armed selects with ⟨reading, nanos, enters, timeout, fits, readingLe, deadlineEq⟩
        exact ⟨reading, nanos, enters, timeout, fits, Nat.le_trans readingLe clockLe, deadlineEq⟩
      · intro call argument entry isCalling isTimeout
        rw [move.phase_eq] at isCalling
        rw [move.deadline_eq]
        exact Nat.le_trans (fired call argument entry isCalling isTimeout) clockLe
  | loop trace middle action last executes _ move entered =>
      intro notEnded
      have inTime := entered (move.notEnded_of notEnded)
      exact inTime.loop machine (executes.sound machine) move notEnded

/-- A run that is about to arm the timer has just entered its state. -/
theorem Executes.entersAt_of_rearming
    (executes : Executes machine.program representable initial trace last)
    (isRearming : last.phase = .rearming) :
    machine.fsm.EntersAt representable last.fsm.state last.clock := by
  have running : ¬ last.phase.Ended := by
    rw [isRearming]
    exact id
  have enters := (executes.enteredInTime machine running).enters (by rw [isRearming]; exact id)
  rw [Config.loopState, isRearming] at enters
  exact enters

/-- A run at the outer `select!` entered its state when the deadline was still
in range. -/
theorem Executes.entersInRange
    (executes : Executes machine.program representable initial trace last)
    (isSelecting : last.phase = .selecting) :
    machine.fsm.EntersInRange representable last.fsm.state := by
  have running : ¬ last.phase.Ended := by
    rw [isSelecting]
    exact id
  rcases (executes.enteredInTime machine running).armed (by rw [isSelecting]; trivial) with
    ⟨clock, nanos, enters, timeout, fits, -, -⟩
  rw [Config.loopState_of_selecting isSelecting] at enters timeout
  exact ⟨clock, nanos, enters, timeout, fits⟩

/-! ## Runs into every such state -/

/-- An arm is generated for the first handler of an event in a state. -/
theorem AcceptedFsm.exists_arm {state event : Ident} {handler : Handler}
    (found : machine.fsm.handlers.find? (fun handler => decide (handler.Handles state event)) =
      some handler) :
    ∃ arm, machine.program.matchArm state event = some arm ∧ arm.call.handler = handler := by
  have handles := List.find?_some found
  rw [decide_eq_true_eq] at handles
  have isArm : machine.program.matchArm state event ≠ none := fun missing =>
    machine.matchArm_eq_none_iff.mp missing handler (List.mem_of_find?_eq_some found) handles
  rcases Option.ne_none_iff_exists'.mp isArm with ⟨arm, matched⟩
  have foundArm := (machine.matchArm_eq_some matched).1
  rw [found] at foundArm
  exact ⟨arm, matched, (Option.some.inj foundArm).symm⟩

/-- Every event that a handler declares is a variant of the event enum. -/
theorem AcceptedFsm.exists_event [Inhabited Payload] {handler : Handler} {state event : Ident}
    (handlerMem : handler ∈ machine.fsm.handlers) (handles : handler.Handles state event) :
    ∃ value : EventValue Payload, value.variant = event ∧ machine.program.Accepts value := by
  rcases Option.map_eq_some_iff.mp handles.2 with ⟨declared, eventEq, nameEq⟩
  have declaredMem : declared ∈ declaredEvents machine.fsm.handlers :=
    List.mem_filterMap.mpr ⟨handler, handlerMem, eventEq⟩
  have recorded := (FirstSeen.mem_keys_recordAll Event.name []
    (declaredEvents machine.fsm.handlers) event).mpr
      (Or.inr (List.mem_map.mpr ⟨declared, declaredMem, nameEq⟩))
  rcases List.mem_map.mp recorded with ⟨variant, variantMem, variantName⟩
  refine ⟨⟨event, variant.payloadType.map fun _ => default⟩, rfl, variant, ?_, variantName, ?_⟩
  · rw [machine.eventEnum_eq, machine.parsedBlock.events_eq]
    exact variantMem
  · rw [Option.isSome_map]

/-- The timer calls the timeout handler. -/
theorem AcceptedFsm.exists_timeoutCall {handler : Handler}
    (handlerMem : handler ∈ machine.fsm.handlers)
    (isTimeout : handler.isTimeoutHandler = true) :
    ∃ call, machine.program.timeoutLogic = some call ∧ call.handler = handler := by
  rcases machine.timeoutLogic_of_handler handlerMem isTimeout with ⟨call, logic⟩
  rcases machine.timeoutLogic_eq_some logic with ⟨callMem, callTimeout, -, -⟩
  exact ⟨call, logic, machine.timeoutHandler_unique callMem handlerMem callTimeout isTimeout⟩

/-- The state of a run is one that handlers can be called in. -/
theorem Executes.typed {state : Ident} {clock : Nat}
    (executes : Executes machine.program representable initial trace last)
    (quiet : Quiet last state clock) : state ∈ machine.program.stateEnum := by
  rw [← quiet.state_eq]
  exact (executes.sound machine).state_mem

/-- A run that is about to arm the timer goes on to the outer `select!`, and
stays there as long as it likes. -/
theorem Executes.exists_selecting {state : Ident} {clock nanos later : Nat}
    (executes : Executes machine.program representable initial trace last)
    (isRearming : last.phase = .rearming) (quiet : Quiet last state clock)
    (timeout : machine.fsm.TimeoutOf state nanos)
    (fits : representable (clock + nanos) = true) (isLater : clock ≤ later) :
    ∃ trace waiting, Executes machine.program representable initial trace waiting ∧
      waiting.phase = .selecting ∧ waiting.deadline = clock + nanos ∧
        Quiet waiting state later := by
  rw [machine.timeoutOf_iff.mp timeout] at fits ⊢
  rcases exists_rearm quiet isRearming fits with
    ⟨armed, arms, isSelecting, deadlineEq, armedQuiet⟩
  let waiting : Config Context Payload Failure := { armed with clock := later }
  have clockEq : armed.clock + (later - clock) = later := by
    rw [armedQuiet.clock_eq]
    omega
  have waits : step machine.program representable armed
      (.environment (.advance (later - clock))) = some waiting := by
    rw [step, environmentStep, clockEq]
  exact ⟨_, waiting, (executes.snoc arms).snoc waits, isSelecting, deadlineEq,
    armedQuiet.state_eq, rfl, armedQuiet.queue_eq, armedQuiet.handles_eq,
    armedQuiet.cancelled_eq, armedQuiet.receiverDropped_eq⟩

/-- From the outer `select!` the first handler of an event in the state can lead
to every state of its return type. -/
theorem Executes.exists_event [Inhabited Payload] {state event target : Ident} {clock : Nat}
    {handler : Handler} (executes : Executes machine.program representable initial trace last)
    (isSelecting : last.phase = .selecting) (quiet : Quiet last state clock)
    (found : machine.fsm.handlers.find? (fun handler => decide (handler.Handles state event)) =
      some handler)
    (targetMem : target ∈ handler.targets) :
    ∃ before sent rest final,
      Executes machine.program representable initial
          (before ++ (sent, .loop .recvBranch) :: rest) final ∧
        sent.phase = .selecting ∧ sent.fsm.state = state ∧
          sent.queue.head?.map EventValue.variant = some event ∧
            OneTransition machine.program ((sent, .loop .recvBranch) :: rest) handler state
              target ∧
              final.phase = .rearming ∧ Quiet final target clock := by
  have handles := List.find?_some found
  rw [decide_eq_true_eq] at handles
  have hasValue : ∃ value : EventValue Payload,
      value.variant = event ∧ machine.program.Accepts value :=
    machine.exists_event (List.mem_of_find?_eq_some found) handles
  rcases hasValue with ⟨value, variantEq, accepts⟩
  rcases machine.exists_arm found with ⟨arm, matched, rfl⟩
  rw [← variantEq] at matched
  have arity := (machine.callFrom_spec (.event matched)).2.2
  rcases exists_event_transition quiet isSelecting machine.channelSize_pos accepts
      (executes.typed machine quiet) matched arity targetMem with
    ⟨sent, rest, final, sends, sentSelecting, sentState, queued, run, one, isRearming,
      finalQuiet⟩
  refine ⟨_, sent, rest, final, ⟨executes.spawned, (executes.snoc sends).run.append run⟩,
    sentSelecting, sentState, ?_, one, isRearming, finalQuiet⟩
  rw [queued, ← variantEq]
  rfl

/-- From the outer `select!` the timeout handler can lead to every state of its
return type, once the timer is due. -/
theorem Executes.exists_timeout {state target : Ident} {clock : Nat}
    {handler : Handler} (executes : Executes machine.program representable initial trace last)
    (isSelecting : last.phase = .selecting) (quiet : Quiet last state clock)
    (isDue : last.deadline ≤ clock) (handlerMem : handler ∈ machine.fsm.handlers)
    (isTimeout : handler.isTimeoutHandler = true) (targetMem : target ∈ handler.targets) :
    ∃ rest final,
      Executes machine.program representable initial
          (trace ++ (last, .loop .timerBranch) :: rest) final ∧
        OneTransition machine.program ((last, .loop .timerBranch) :: rest) handler state
          target ∧
          final.phase = .rearming ∧ Quiet final target clock := by
  rcases machine.exists_timeoutCall handlerMem isTimeout with ⟨call, logic, rfl⟩
  have callFrom : machine.program.CallFrom state call := .timer logic
  have arity := (machine.callFrom_spec callFrom).2.2
  rw [← quiet.clock_eq] at isDue
  rcases exists_timer_transition quiet isSelecting isDue (executes.typed machine quiet) logic
      arity targetMem with
    ⟨rest, final, run, one, isRearming, finalQuiet⟩
  exact ⟨rest, final, ⟨executes.spawned, executes.run.append run⟩, one, isRearming, finalQuiet⟩

variable (Context Payload Failure) in
/-- A state that can be entered is entered by a run at that time. -/
theorem FsmStructure.EntersAt.exists_executes [Inhabited Context] [Inhabited Payload]
    (capacity : machine.program.channelSize ≤ usizeMax >>> 3) {state : Ident} {clock : Nat}
    (enters : machine.fsm.EntersAt representable state clock) :
    ∃ (initial : Config Context Payload Failure)
      (trace : List (Moment Context Payload Failure)) (last : Config Context Payload Failure),
        Executes machine.program representable initial trace last ∧ last.phase = .rearming ∧
          Quiet last state clock := by
  induction enters with
  | initial clock =>
      have start := @exists_start Context Payload Failure machine.program representable default
        clock machine.channelSize_pos capacity
      rw [machine.initialState_eq] at start
      exact start
  | event enters timeout fits isLater found targetMem ih =>
      rcases ih with ⟨initial, trace, last, executes, isRearming, quiet⟩
      rcases executes.exists_selecting machine isRearming quiet timeout fits isLater with
        ⟨trace, waiting, executes, isSelecting, -, quiet⟩
      rcases executes.exists_event machine isSelecting quiet found targetMem with
        ⟨before, sent, rest, final, executes, -, -, -, -, isRearming, quiet⟩
      exact ⟨initial, _, final, executes, isRearming, quiet⟩
  | timeout enters timeout fits isLater handlerMem isTimeout targetMem ih =>
      rcases ih with ⟨initial, trace, last, executes, isRearming, quiet⟩
      rcases executes.exists_selecting machine isRearming quiet timeout fits
          (Nat.le_trans (Nat.le_add_right _ _) isLater) with
        ⟨trace, waiting, executes, isSelecting, deadlineEq, quiet⟩
      rw [← deadlineEq] at isLater
      rcases executes.exists_timeout machine isSelecting quiet isLater handlerMem isTimeout
          targetMem with
        ⟨rest, final, executes, -, isRearming, quiet⟩
      exact ⟨initial, _, final, executes, isRearming, quiet⟩

variable (Context Payload Failure) in
/-- A state that is entered early enough is one in which a run can wait until
its timer is due. -/
theorem FsmStructure.EntersInRange.exists_executes [Inhabited Context] [Inhabited Payload]
    (capacity : machine.program.channelSize ≤ usizeMax >>> 3) {state : Ident}
    (inRange : machine.fsm.EntersInRange representable state) :
    ∃ (initial : Config Context Payload Failure)
      (trace : List (Moment Context Payload Failure))
      (waiting : Config Context Payload Failure) (clock : Nat),
        Executes machine.program representable initial trace waiting ∧
          waiting.phase = .selecting ∧ waiting.deadline ≤ clock ∧ Quiet waiting state clock := by
  rcases inRange with ⟨clock, nanos, enters, timeout, fits⟩
  rcases enters.exists_executes Context Payload Failure machine capacity with
    ⟨initial, trace, last, executes, isRearming, quiet⟩
  rcases executes.exists_selecting machine isRearming quiet timeout fits
      (Nat.le_add_right clock nanos) with
    ⟨trace, waiting, executes, isSelecting, deadlineEq, quiet⟩
  exact ⟨initial, trace, waiting, clock + nanos, executes, isSelecting,
    Nat.le_of_eq deadlineEq, quiet⟩

end Accepted

end TokioFsm
