import TokioFsm.GraphRefinement
import TokioFsm.DeadTransitions
import TokioFsm.Library.AutomatonReading

/-!
# The machine as an automaton

An accepted block describes an automaton: its alphabet are the events, a state
with a timeout has silent steps, and an event without a handler is read in
place.  The states in which the loop can be at its outer `select!`, after it has
received a word of events, are exactly those that the automaton can be in after
this word.  Where the automaton has no choice, the same events lead to the same
state, however the runs interleave and whatever the handlers do to the context.
-/

namespace TokioFsm

open StepRuns AutomatonReading

variable {Context Payload Failure : Type}

def FsmStructure.automaton (fsm : FsmStructure) : εNFA Ident Ident where
  step state
    | some event =>
        match fsm.handlers.find? fun handler => decide (handler.Handles state event) with
        | some handler => { target | target ∈ handler.targets }
        | none => {state}
    | none => { target | fsm.Timed state ∧ ∃ handler ∈ fsm.handlers,
        handler.isTimeoutHandler = true ∧ target ∈ handler.targets }
  start := {fsm.initialState}
  accept := Set.univ

/-- The events that the moments receive. -/
def wordOf (trace : List (Moment Context Payload Failure)) : List Ident :=
  (trace.filterMap Moment.received).map EventValue.variant

theorem wordOf_append (first second : List (Moment Context Payload Failure)) :
    wordOf (first ++ second) = wordOf first ++ wordOf second := by
  rw [wordOf, List.filterMap_append, List.map_append]
  rfl

/-! ## Runs follow the automaton -/

/-- The automaton can be where the task is, or wherever the handler in flight
may lead. -/
structure Reads (fsm : FsmStructure) (word : List Ident)
    (config : Config Context Payload Failure) : Prop where
  state : ¬ config.phase.Ended → config.inFlight = [] → config.fsm.state ∈ fsm.automaton.eval word
  inFlight : ∀ called ∈ config.inFlight, ∀ target ∈ called.1.handler.targets,
    target ∈ fsm.automaton.eval word

theorem Reads.of_ended {fsm : FsmStructure} {word : List Ident}
    {config : Config Context Payload Failure} (ended : config.phase.Ended) :
    Reads fsm word config where
  state notEnded := absurd ended notEnded
  inFlight called isCalled := by
    unfold Config.inFlight at isCalled
    split at isCalled
    next isCalling =>
      rw [isCalling] at ended
      exact ended.elim
    next => exact absurd isCalled List.not_mem_nil

section Accepted

variable {crates : Crates} {args : FsmArgs} {block : ItemImpl}
  (machine : AcceptedFsm crates args block) {representable : Nat → Bool}
  {initial config next last : Config Context Payload Failure}
  {trace : List (Moment Context Payload Failure)} {word : List Ident}

/-- A state in which no call is in flight is one of the automaton. -/
theorem Reads.of_state (idle : config.inFlight = [])
    (stateMem : config.fsm.state ∈ machine.fsm.automaton.eval word) :
    Reads machine.fsm word config where
  state _ _ := stateMem
  inFlight := by
    rw [idle]
    exact List.forall_mem_nil _

theorem AcceptedFsm.mem_eval_matched {state event target : Ident} {arm : EventArm}
    (before : state ∈ machine.fsm.automaton.eval word)
    (found : machine.program.matchArm state event = some arm)
    (targetMem : target ∈ arm.call.handler.targets) :
    target ∈ machine.fsm.automaton.eval (word ++ [event]) := by
  apply mem_eval_read before
  simp only [FsmStructure.automaton, (machine.matchArm_eq_some found).1]
  exact targetMem

theorem AcceptedFsm.mem_eval_unmatched {state event : Ident}
    (before : state ∈ machine.fsm.automaton.eval word)
    (noArm : machine.program.matchArm state event = none) :
    state ∈ machine.fsm.automaton.eval (word ++ [event]) := by
  apply mem_eval_read before
  have notFound : (machine.fsm.handlers.find? fun handler =>
      decide (handler.Handles state event)) = none := by
    simpa using machine.matchArm_eq_none_iff.mp noArm
  simp only [FsmStructure.automaton, notFound]
  exact Set.mem_singleton state

theorem AcceptedFsm.mem_eval_timeout {state target : Ident} {call : HandlerCall}
    (before : state ∈ machine.fsm.automaton.eval word) (timed : machine.fsm.Timed state)
    (logic : machine.program.timeoutLogic = some call)
    (targetMem : target ∈ call.handler.targets) :
    target ∈ machine.fsm.automaton.eval word := by
  obtain ⟨handlerMem, isTimeout, -, -⟩ := machine.timeoutLogic_eq_some logic
  exact mem_eval_silent before ⟨timed, call.handler, handlerMem, isTimeout, targetMem⟩

/-- The automaton follows a move of the task. -/
theorem LoopMove.reads {action : LoopAction Context Failure}
    (move : LoopMove machine.program representable config action next)
    (reads : Reads machine.fsm word config)
    (timed : action = .timerBranch → machine.program.timeoutLogic ≠ none →
      machine.fsm.Timed config.fsm.state) :
    Reads machine.fsm (word ++ wordOf [(config, Action.loop action)]) next := by
  have noEvent (notReceived : Moment.received (config, Action.loop action) = none) :
      word ++ wordOf [(config, Action.loop action)] = word := by
    rw [wordOf, List.filterMap_cons_none notReceived]
    exact List.append_nil word
  have idle (phaseEq : config.phase = .starting ∨ config.phase = .rearming ∨
      config.phase = .selecting ∨ config.phase = .publishing) :
      config.fsm.state ∈ machine.fsm.automaton.eval word := by
    apply reads.state
    · obtain phaseEq | phaseEq | phaseEq | phaseEq := phaseEq
      all_goals
        rw [phaseEq]
        exact id
    · unfold Config.inFlight
      obtain phaseEq | phaseEq | phaseEq | phaseEq := phaseEq
      all_goals rw [phaseEq]
  cases move with
  | start isStarting =>
      rw [noEvent rfl]
      exact .of_state machine rfl (idle (.inl isStarting))
  | rearm isRearming =>
      rw [noEvent rfl]
      exact .of_state machine rfl (idle (.inr (.inl isRearming)))
  | publish isPublishing =>
      rw [noEvent rfl]
      exact .of_state machine rfl (idle (.inr (.inr (.inr isPublishing))))
  | wait | outOfBudget | expiredUnhandled =>
      rw [noEvent rfl]
      exact reads
  | handlerPending isCalling =>
      rw [noEvent rfl]
      refine ⟨fun _ noCall => ?_, reads.inFlight⟩
      simp [Config.inFlight, isCalling] at noCall
  | @expired call isSelecting isDue logic =>
      rw [noEvent rfl]
      refine ⟨fun _ noCall => absurd noCall (List.cons_ne_nil _ _), ?_⟩
      intro called isCalled target targetMem
      obtain rfl := List.mem_singleton.mp isCalled
      have isTimed := timed rfl (Option.ne_none_iff_exists'.mpr ⟨call, logic⟩)
      exact machine.mem_eval_timeout (idle (.inr (.inr (.inl isSelecting)))) isTimed logic
        targetMem
  | @unmatched event queue isSelecting queued noArm =>
      have received : wordOf [(config, Action.loop .recvBranch)] = [event.variant] := by
        simp [wordOf, Moment.received, queued]
      rw [received]
      have stateMem := idle (.inr (.inr (.inl isSelecting)))
      refine .of_state machine ?_ (machine.mem_eval_unmatched stateMem noArm)
      simp [Config.inFlight, isSelecting]
  | @matched event queue arm isSelecting queued found =>
      have received : wordOf [(config, Action.loop .recvBranch)] = [event.variant] := by
        simp [wordOf, Moment.received, queued]
      rw [received]
      refine ⟨fun _ noCall => absurd noCall (List.cons_ne_nil _ _), ?_⟩
      intro called isCalled target targetMem
      obtain rfl := List.mem_singleton.mp isCalled
      exact machine.mem_eval_matched (idle (.inr (.inr (.inl isSelecting)))) found targetMem
  | @handlerReady call argument entry after output result isCalling _ returns dispatched =>
      rw [noEvent rfl]
      cases result with
      | error error => exact .of_ended trivial
      | ok target =>
          obtain ⟨result, resultEq, inTargets⟩ := returns.dispatch
          rw [dispatched] at resultEq
          have targetMem := inTargets target (Option.some.inj resultEq).symm
          have isCalled : (call, argument) ∈ config.inFlight := by
            rw [Config.inFlight, isCalling]
            exact List.mem_singleton_self _
          exact .of_state machine rfl (reads.inFlight _ isCalled target targetMem)
  | dropReceiver isEnded | dropSender isEnded => exact .of_ended isEnded
  | overflow | cancelled | closed | handlerCancelled | handlerPanics | abort =>
      exact .of_ended trivial

/-- When the timer fires, the timeout handler is called in states with a
timeout only. -/
def Punctual (trace : List (Moment Context Payload Failure)) : Prop :=
  ∀ moment ∈ trace, moment.2 = .loop .timerBranch → machine.program.timeoutLogic ≠ none →
    machine.fsm.Timed moment.1.fsm.state

theorem Executes.punctual
    (executes : Executes machine.program representable initial trace last)
    (short : ShortStays machine.fsm trace) : Punctual machine trace := by
  rintro ⟨config, action⟩ momentMem isTimer -
  obtain rfl : action = .loop .timerBranch := isTimer
  obtain ⟨before, after, cut⟩ := List.append_of_mem momentMem
  obtain ⟨toConfig, next, taken, -⟩ := executes.moment cut
  obtain ⟨isSelecting, isDue⟩ : config.phase = .selecting ∧ config.deadline ≤ config.clock := by
    cases LoopMove.of_loopStep taken with
    | expiredUnhandled isSelecting isDue | expired isSelecting isDue =>
        exact ⟨isSelecting, isDue⟩
  apply toConfig.timed_of_timer machine isSelecting isDue
  rw [cut, List.append_cons] at short
  exact short.of_append

theorem Executes.reads
    (executes : Executes machine.program representable initial trace last)
    (punctual : Punctual machine trace) : Reads machine.fsm (wordOf trace) last := by
  induction executes using Executes.rec_moves with
  | spawned _ begin =>
      apply Reads.of_state
      · rw [Config.inFlight, begin.phase_eq]
      · apply mem_eval_start
        rw [begin.state_eq, machine.initialState_eq]
        exact Set.mem_singleton _
  | environment trace middle action last _ _ move reads =>
      have noEvent : wordOf [(middle, Action.environment action)] = [] := rfl
      rw [wordOf_append, noEvent, List.append_nil]
      obtain ⟨state, inFlight⟩ := reads (List.forall_mem_append.mp punctual).1
      have sameCall : last.inFlight = middle.inFlight := by
        rw [Config.inFlight, Config.inFlight, move.phase_eq]
      constructor
      · rw [move.phase_eq, move.fsm_eq, sameCall]
        exact state
      · rw [sameCall]
        exact inFlight
  | loop trace middle action last _ _ move reads =>
      obtain ⟨before, now⟩ := List.forall_mem_append.mp punctual
      rw [wordOf_append]
      apply move.reads machine (reads before)
      intro isTimer
      exact now _ (List.mem_singleton_self _) (congrArg Action.loop isTimer)

end Accepted

/-! ## A run for every word -/

section Arriving

variable {program : GeneratedFsm} {config : Config Context Payload Failure}
  {state target : Ident} {clock : Nat}

/-- A handler in flight can bring the loop back to its outer `select!` in any
state of its return type. -/
theorem exists_arrival {call : HandlerCall} {argument : Option Payload}
    {entry : FsmInstance Context} (quiet : Quiet config state clock)
    (isCalling : config.phase = .calling call argument entry)
    (typed : state ∈ program.stateEnum)
    (arity : call.handler.targets.length = call.returnKind.arity)
    (targetMem : target ∈ call.handler.targets) :
    ∃ moments last, Run (step program fun _ => true) config moments last ∧
      wordOf moments = [] ∧ (∀ moment ∈ moments, moment.1.phase ≠ .selecting) ∧
        last.phase = .selecting ∧ last.deadline = clock + program.timeoutFor target ∧
          Quiet last target clock := by
  obtain ⟨output, returns, dispatched⟩ := HandlerCall.exists_returns Failure arity targetMem
  rw [← quiet.state_eq] at typed
  let moved := applyResult config config.fsm (.ok target)
  have finishes : step program (fun _ => true) config
      (.loop (.handlerReady config.fsm output)) = some moved :=
    LoopMove.step_eq (.handlerReady isCalling typed returns dispatched)
  let published : Config Context Payload Failure := { moved with
    watch := moved.watch.send moved.handles moved.fsm.state
    phase := .rearming }
  have publishes : step program (fun _ => true) moved (.loop .publish) = some published :=
    LoopMove.step_eq (.publish rfl)
  have rearms : step program (fun _ => true) published (.loop .rearm) = some { published with
      deadline := published.clock + program.timeoutFor published.fsm.state
      phase := .selecting } :=
    LoopMove.step_eq (.rearm rfl rfl)
  refine ⟨_, _, ((Run.single finishes).snoc publishes).snoc rearms, rfl, ?_, rfl, ?_, ?_⟩
  · intro moment momentMem
    obtain rfl | rfl | rfl : moment = _ ∨ moment = _ ∨ moment = _ := by simpa using momentMem
    · simp [isCalling]
    · exact nofun
    · exact nofun
  · rw [← quiet.clock_eq]
    rfl
  · exact ⟨rfl, quiet.clock_eq, quiet.queue_eq, quiet.handles_eq, quiet.cancelled_eq,
      quiet.receiverDropped_eq⟩

end Arriving

section Accepted

variable {crates : Crates} {args : FsmArgs} {block : ItemImpl}
  (machine : AcceptedFsm crates args block)

/-- A run stands at the outer `select!`, has just entered its state, and has
nowhere stayed without a timeout until the timer was due. -/
structure Standing (word : List Ident) (state : Ident)
    (initial : Config Context Payload Failure) (trace : List (Moment Context Payload Failure))
    (last : Config Context Payload Failure) : Prop where
  executes : Executes machine.program (fun _ => true) initial trace last
  word_eq : wordOf trace = word
  isSelecting : last.phase = .selecting
  fresh : last.deadline = last.clock + machine.program.timeoutFor state
  quiet : Quiet last state last.clock
  early : ∀ moment ∈ trace, moment.1.phase = .selecting →
    ¬ machine.fsm.Timed moment.1.fsm.state → moment.1.clock < moment.1.deadline

variable {machine} {word : List Ident} {state target : Ident}
  {initial last : Config Context Payload Failure}
  {trace : List (Moment Context Payload Failure)}

theorem Standing.extend (standing : Standing machine word state initial trace last)
    {moments : List (Moment Context Payload Failure)} {final : Config Context Payload Failure}
    (run : Run (step machine.program fun _ => true) last moments final)
    (isSelecting : final.phase = .selecting)
    (fresh : final.deadline = final.clock + machine.program.timeoutFor target)
    (quiet : Quiet final target final.clock)
    (early : ∀ moment ∈ moments, moment.1.phase = .selecting →
      ¬ machine.fsm.Timed moment.1.fsm.state → moment.1.clock < moment.1.deadline) :
    Standing machine (word ++ wordOf moments) target initial (trace ++ moments) final where
  executes := ⟨standing.executes.spawned, standing.executes.run.append run⟩
  word_eq := by rw [wordOf_append, standing.word_eq]
  isSelecting := isSelecting
  fresh := fresh
  quiet := quiet
  early := List.forall_mem_append.mpr ⟨standing.early, early⟩

/-- Without a timeout the timer is due a century later. -/
theorem Standing.clock_lt (standing : Standing machine word state initial trace last)
    (untimed : ¬ machine.fsm.Timed state) : last.clock < last.deadline := by
  rw [standing.fresh, machine.timeoutFor_eq_noTimeout untimed, noTimeoutSecs]
  omega

theorem Standing.typed (standing : Standing machine word state initial trace last) :
    state ∈ machine.program.stateEnum :=
  standing.executes.typed machine standing.quiet

/-- The handle sends a declared event. -/
theorem Standing.exists_send [Inhabited Payload]
    (standing : Standing machine word state initial trace last) {event : Ident}
    (declared : event ∈ machine.program.eventEnum.map Event.name) :
    ∃ value : EventValue Payload, value.variant = event ∧
      step machine.program (fun _ => true) last (.environment (.send value)) =
        some { last with queue := [value] } := by
  obtain ⟨variant, variantMem, variantName⟩ := List.mem_map.mp declared
  let value : EventValue Payload := ⟨event, variant.payloadType.map fun _ => default⟩
  have accepts : machine.program.Accepts value :=
    ⟨variant, variantMem, variantName, by rw [Option.isSome_map]⟩
  refine ⟨value, rfl, ?_⟩
  simp [step, environmentStep, standing.quiet.handles_eq, standing.quiet.receiverDropped_eq,
    standing.quiet.queue_eq, machine.channelSize_pos, accepts]

/-- A handler of the event leads to each of its states. -/
theorem Standing.event [Inhabited Payload]
    (standing : Standing machine word state initial trace last) {event : Ident} {handler : Handler}
    (declared : event ∈ machine.program.eventEnum.map Event.name)
    (found : machine.fsm.handlers.find? (fun handler => decide (handler.Handles state event)) =
      some handler)
    (targetMem : target ∈ handler.targets) :
    ∃ trace final, Standing machine (word ++ [event]) target initial trace final := by
  obtain ⟨value, rfl, sends⟩ := standing.exists_send declared
  obtain ⟨arm, matched, rfl⟩ := machine.exists_arm found
  let sent : Config Context Payload Failure := { last with queue := [value] }
  have isArm : machine.program.matchArm sent.fsm.state value.variant = some arm := by
    rw [← matched, ← standing.quiet.state_eq]
  have receives : step machine.program (fun _ => true) sent (.loop .recvBranch) =
      some (arm.invoke value { sent with queue := [] }) :=
    LoopMove.step_eq (.matched standing.isSelecting rfl isArm)
  have called : Quiet (arm.invoke value { sent with queue := [] }) state last.clock :=
    ⟨standing.quiet.state_eq, rfl, rfl, standing.quiet.handles_eq, standing.quiet.cancelled_eq,
      standing.quiet.receiverDropped_eq⟩
  have arity := (machine.callFrom_spec (.event matched)).2.2
  obtain ⟨moments, final, arrives, noEvent, elsewhere, isSelecting, fresh, quiet⟩ :=
    exists_arrival called rfl standing.typed arity targetMem
  have run := ((Run.single sends).snoc receives).append arrives
  have received : wordOf ([(last, Action.environment (.send value))] ++
      [(sent, Action.loop .recvBranch)] ++ moments) = [value.variant] := by
    rw [wordOf_append, noEvent]
    rfl
  rw [← received]
  rw [← quiet.clock_eq] at fresh quiet
  refine ⟨_, _, standing.extend run isSelecting fresh quiet ?_⟩
  intro moment momentMem isSelecting untimed
  rw [List.mem_append, List.mem_append, List.mem_singleton, List.mem_singleton] at momentMem
  obtain (rfl | rfl) | momentMem := momentMem
  · rw [standing.quiet.state_eq] at untimed
    exact standing.clock_lt untimed
  · have sameState : sent.fsm.state = state := standing.quiet.state_eq
    rw [sameState] at untimed
    exact standing.clock_lt untimed
  · exact absurd isSelecting (elsewhere moment momentMem)

/-- An event without a handler is dropped. -/
theorem Standing.drop [Inhabited Payload]
    (standing : Standing machine word state initial trace last) {event : Ident}
    (declared : event ∈ machine.program.eventEnum.map Event.name)
    (notFound : machine.fsm.handlers.find?
      (fun handler => decide (handler.Handles state event)) = none) :
    ∃ trace final, Standing machine (word ++ [event]) state initial trace final := by
  obtain ⟨value, rfl, sends⟩ := standing.exists_send declared
  let sent : Config Context Payload Failure := { last with queue := [value] }
  have noArm : machine.program.matchArm sent.fsm.state value.variant = none := by
    have sameState : sent.fsm.state = state := standing.quiet.state_eq
    rw [sameState, machine.matchArm_eq_none_iff]
    simpa using notFound
  have receives : step machine.program (fun _ => true) sent (.loop .recvBranch) =
      some { sent with queue := [] } :=
    LoopMove.step_eq (.unmatched standing.isSelecting rfl noArm)
  have run := (Run.single sends).snoc receives
  have quiet := standing.quiet
  refine ⟨_, _, standing.extend run standing.isSelecting standing.fresh
    ⟨quiet.state_eq, rfl, rfl, quiet.handles_eq, quiet.cancelled_eq, quiet.receiverDropped_eq⟩ ?_⟩
  intro moment momentMem _ untimed
  rw [List.mem_append, List.mem_singleton, List.mem_singleton] at momentMem
  obtain rfl | rfl := momentMem
  · rw [quiet.state_eq] at untimed
    exact standing.clock_lt untimed
  · have sameState : sent.fsm.state = state := quiet.state_eq
    rw [sameState] at untimed
    exact standing.clock_lt untimed

/-- In a state with a timeout one can wait for it. -/
theorem Standing.timeout (standing : Standing machine word state initial trace last)
    (timed : machine.fsm.Timed state) {handler : Handler}
    (handlerMem : handler ∈ machine.fsm.handlers) (isTimeout : handler.isTimeoutHandler = true)
    (targetMem : target ∈ handler.targets) :
    ∃ trace final, Standing machine word target initial trace final := by
  obtain ⟨call, logic, rfl⟩ := machine.exists_timeoutCall handlerMem isTimeout
  let waiting : Config Context Payload Failure :=
    { last with clock := last.clock + machine.program.timeoutFor state }
  have waits : step machine.program (fun _ => true) last
      (.environment (.advance (machine.program.timeoutFor state))) = some waiting := rfl
  have isDue : waiting.deadline ≤ waiting.clock := Nat.le_of_eq standing.fresh
  have fires : step machine.program (fun _ => true) waiting (.loop .timerBranch) =
      some { waiting with phase := .calling call none waiting.fsm } :=
    LoopMove.step_eq (.expired standing.isSelecting isDue logic)
  let called : Config Context Payload Failure :=
    { waiting with phase := .calling call none waiting.fsm }
  have quiet := standing.quiet
  have calledQuiet : Quiet called state waiting.clock :=
    ⟨quiet.state_eq, rfl, quiet.queue_eq, quiet.handles_eq, quiet.cancelled_eq,
      quiet.receiverDropped_eq⟩
  have callFrom : machine.program.CallFrom state call := .timer logic
  have arity := (machine.callFrom_spec callFrom).2.2
  obtain ⟨moments, final, arrives, noEvent, elsewhere, isSelecting, fresh, finalQuiet⟩ :=
    exists_arrival calledQuiet rfl standing.typed arity targetMem
  have run := ((Run.single waits).snoc fires).append arrives
  rw [← finalQuiet.clock_eq] at fresh finalQuiet
  have extended := standing.extend run isSelecting fresh finalQuiet ?_
  · have received : wordOf ([(last, Action.environment
        (.advance (machine.program.timeoutFor state)))] ++
          [(waiting, Action.loop .timerBranch)] ++ moments) = [] := by
      rw [wordOf_append, noEvent]
      rfl
    rw [received, List.append_nil] at extended
    exact ⟨_, _, extended⟩
  · intro moment momentMem isSelecting untimed
    rw [List.mem_append, List.mem_append, List.mem_singleton, List.mem_singleton] at momentMem
    obtain (rfl | rfl) | momentMem := momentMem
    · rw [quiet.state_eq] at untimed
      exact absurd timed untimed
    · have sameState : waiting.fsm.state = state := quiet.state_eq
      rw [sameState] at untimed
      exact absurd timed untimed
    · exact absurd isSelecting (elsewhere moment momentMem)

/-- The machine begins in its initial state, with nothing received. -/
theorem exists_standing (Context Payload Failure : Type) [Inhabited Context]
    (capacity : machine.program.channelSize ≤ usizeMax >>> 3) :
    ∃ (initial : Config Context Payload Failure) (trace : List (Moment Context Payload Failure))
      (last : Config Context Payload Failure),
        Standing machine [] machine.fsm.initialState initial trace last := by
  let initial : Config Context Payload Failure := {
    fsm := ⟨machine.program.initialState, default, none⟩
    clock := 0
    cancelled := false
    watch := { value := machine.program.initialState } }
  have spawned : machine.program.spawnNamedWithToken none default false 0 = some initial :=
    if_pos ⟨machine.channelSize_pos, capacity⟩
  let started : Config Context Payload Failure :=
    { initial with phase := .rearming, deadline := initial.clock }
  have starts : step machine.program (fun _ => true) initial (.loop .start) = some started :=
    LoopMove.step_eq (.start rfl)
  have rearms : step machine.program (fun _ => true) started (.loop .rearm) = some { started with
      deadline := started.clock + machine.program.timeoutFor started.fsm.state
      phase := .selecting } :=
    LoopMove.step_eq (.rearm rfl rfl)
  refine ⟨initial, _, _, ⟨⟨none, default, false, 0, spawned⟩, (Run.single starts).snoc rearms⟩,
    rfl, rfl, ?_, ?_, ?_⟩
  · rw [← machine.initialState_eq]
  · exact ⟨machine.initialState_eq, rfl, rfl, rfl, rfl, rfl⟩
  · intro moment momentMem isSelecting
    obtain rfl | rfl : moment = _ ∨ moment = _ := by simpa using momentMem
    · cases isSelecting
    · cases isSelecting

/-- Whatever the automaton can read the machine can receive. -/
theorem exists_standing_of_mem [Inhabited Context] [Inhabited Payload]
    (capacity : machine.program.channelSize ≤ usizeMax >>> 3)
    (stateMem : state ∈ machine.fsm.automaton.eval word) :
    (∀ event ∈ word, event ∈ machine.program.eventEnum.map Event.name) →
      ∃ (initial : Config Context Payload Failure)
        (trace : List (Moment Context Payload Failure)) (last : Config Context Payload Failure),
          Standing machine word state initial trace last := by
  refine eval_induction (motive := fun word state =>
    (∀ event ∈ word, event ∈ machine.program.eventEnum.map Event.name) →
      ∃ initial trace last, Standing machine word state initial trace last) ?_ ?_ ?_ stateMem
  · intro state starts _
    rw [Set.mem_singleton_iff.mp starts]
    exact exists_standing Context Payload Failure capacity
  · intro word state target ih silent declared
    obtain ⟨initial, trace, last, standing⟩ := ih declared
    obtain ⟨timed, handler, handlerMem, isTimeout, targetMem⟩ := silent
    obtain ⟨trace, final, standing⟩ := standing.timeout timed handlerMem isTimeout targetMem
    exact ⟨initial, trace, final, standing⟩
  · intro word event state target ih reads declared
    rw [List.forall_mem_append, List.forall_mem_singleton] at declared
    obtain ⟨initial, trace, last, standing⟩ := ih declared.1
    cases found : machine.fsm.handlers.find? fun handler =>
        decide (handler.Handles state event) with
    | some handler =>
        simp only [FsmStructure.automaton, found] at reads
        obtain ⟨trace, final, standing⟩ := standing.event declared.2 found reads
        exact ⟨initial, trace, final, standing⟩
    | none =>
        simp only [FsmStructure.automaton, found, Set.mem_singleton_iff] at reads
        subst reads
        obtain ⟨trace, final, standing⟩ := standing.drop declared.2 found
        exact ⟨initial, trace, final, standing⟩

/-- A state has been entered last with one clock reading. -/
theorem LastEntered.unique {first second : Nat} (firstEntered : LastEntered trace state first)
    (secondEntered : LastEntered trace state second) : first = second := by
  obtain ⟨before, config, after, rfl, -, rfl, quiet⟩ := firstEntered
  obtain ⟨before', config', after', cut, -, rfl, quiet'⟩ := secondEntered
  -- the later of two entries would come after the last one
  have entered (config : Config Context Payload Failure) :
      Moment.entered (config, Action.loop .rearm) ≠ none := by
    simp [Moment.entered]
  obtain ⟨gap, -, gapEq⟩ | ⟨gap, -, gapEq⟩ := List.append_eq_append_iff.mp cut
  · cases gap with
    | nil => cases gapEq; rfl
    | cons moment gap =>
        obtain ⟨-, rfl⟩ := List.cons.inj gapEq
        exact absurd (quiet (config', .loop .rearm) (by simp)).2 (entered config')
  · cases gap with
    | nil => cases gapEq; rfl
    | cons moment gap =>
        obtain ⟨-, rfl⟩ := List.cons.inj gapEq
        exact absurd (quiet' (config, .loop .rearm) (by simp)).2 (entered config)

/-- The timer shows that no stay without a timeout has been too long. -/
theorem Standing.shortStays (standing : Standing machine word state initial trace last) :
    ShortStays machine.fsm trace := by
  intro before config action after cut isSelecting untimed reading entered
  have toConfig := (standing.executes.moment cut).1
  have armed := toConfig.armed (by rw [isSelecting]; trivial)
  rw [Config.loopState_of_selecting isSelecting] at armed
  obtain ⟨armedAt, armedEntered, -, deadlineEq⟩ := armed
  rw [machine.timeoutFor_eq_noTimeout untimed, armedEntered.unique entered] at deadlineEq
  rw [← deadlineEq]
  exact standing.early (config, action) (by rw [cut]; simp) isSelecting untimed

variable (machine) in
/-- The loop can be at its outer `select!` in a state after a word of events
exactly when these are declared events and the automaton can be in the state
after reading them. -/
theorem machine_reads_automaton [Inhabited Context] [Inhabited Payload] (word : List Ident)
    (state : Ident) :
    (∃ (initial last : Config Context Payload Failure)
      (trace : List (Moment Context Payload Failure)),
        Executes machine.program (fun _ => true) initial trace last ∧
          ShortStays machine.fsm trace ∧ wordOf trace = word ∧ last.phase = .selecting ∧
            last.fsm.state = state) ↔
      args.channelSize ≤ usizeMax >>> 3 ∧
        (∀ event ∈ word, event ∈ machine.program.eventEnum.map Event.name) ∧
          state ∈ machine.fsm.automaton.eval word := by
  constructor
  · rintro ⟨initial, last, trace, executes, short, rfl, isSelecting, rfl⟩
    refine ⟨?_, ?_, ?_⟩
    · rw [← machine.channelSize_eq]
      exact executes.spawned_initial.channelSize_le
    · intro event eventMem
      obtain ⟨value, received, rfl⟩ := List.mem_map.mp eventMem
      have accepted := executes.conserved.received_prefix_accepted.subset received
      obtain ⟨variant, variantMem, variantName, -⟩ := executes.accepts value accepted
      exact List.mem_map.mpr ⟨variant, variantMem, variantName⟩
    · apply (executes.reads machine (executes.punctual machine short)).state
      · rw [isSelecting]
        exact id
      · rw [Config.inFlight, isSelecting]
  · rintro ⟨capacity, declared, stateMem⟩
    rw [← machine.channelSize_eq] at capacity
    obtain ⟨initial, trace, last, standing⟩ :
        ∃ (initial : Config Context Payload Failure)
          (trace : List (Moment Context Payload Failure)) (last : Config Context Payload Failure),
            Standing machine word state initial trace last :=
      exists_standing_of_mem capacity stateMem declared
    exact ⟨initial, last, trace, standing.executes, standing.shortStays, standing.word_eq,
      standing.isSelecting, standing.quiet.state_eq⟩

/-! ## Machines without a choice -/

variable (machine) in
/-- Without a timeout handler, and with one state in every return type, the
events alone decide where the machine comes to rest. -/
theorem replay_agrees {representable representable' : Nat → Bool}
    {initial initial' last last' : Config Context Payload Failure}
    {trace trace' : List (Moment Context Payload Failure)}
    (noTimeout : ∀ handler ∈ machine.fsm.handlers, handler.isTimeoutHandler = false)
    (oneTarget : ∀ handler ∈ machine.fsm.handlers, ∀ first ∈ handler.targets,
      ∀ second ∈ handler.targets, first = second)
    (executes : Executes machine.program representable initial trace last)
    (executes' : Executes machine.program representable' initial' trace' last')
    (sameWord : wordOf trace = wordOf trace') (isSelecting : last.phase = .selecting)
    (isSelecting' : last'.phase = .selecting) : last.fsm.state = last'.fsm.state := by
  have punctual (trace : List (Moment Context Payload Failure)) : Punctual machine trace := by
    intro moment _ _ hasLogic
    obtain ⟨call, logic⟩ := Option.ne_none_iff_exists'.mp hasLogic
    obtain ⟨handlerMem, isTimeout, -, -⟩ := machine.timeoutLogic_eq_some logic
    rw [noTimeout _ handlerMem] at isTimeout
    cases isTimeout
  have reads := executes.reads machine (punctual trace)
  have reads' := executes'.reads machine (punctual trace')
  have rests {config : Config Context Payload Failure} {word : List Ident}
      (reads : Reads machine.fsm word config) (isSelecting : config.phase = .selecting) :
      config.fsm.state ∈ machine.fsm.automaton.eval word := by
    apply reads.state
    · rw [isSelecting]
      exact id
    · rw [Config.inFlight, isSelecting]
  rw [← sameWord] at reads'
  apply eval_unique ?_ ?_ ?_ (rests reads isSelecting) (rests reads' isSelecting')
  · rintro first rfl second rfl
    rfl
  · intro state
    apply Set.eq_empty_of_forall_notMem
    rintro target ⟨-, handler, handlerMem, isTimeout, -⟩
    rw [noTimeout handler handlerMem] at isTimeout
    cases isTimeout
  · intro state event first firstMem second secondMem
    cases found : machine.fsm.handlers.find? fun handler =>
        decide (handler.Handles state event) with
    | some handler =>
        simp only [FsmStructure.automaton, found] at firstMem secondMem
        exact oneTarget handler (List.mem_of_find?_eq_some found) first firstMem second secondMem
    | none =>
        simp only [FsmStructure.automaton, found, Set.mem_singleton_iff] at firstMem secondMem
        rw [firstMem, secondMem]

end Accepted

/-! ## A switch -/

def switchBlock : ItemImpl where
  selfTy := namedType "SwitchFsm"
  items := workerTypes ++ [
    asyncMethod [onAttribute "Idle" "Press"] "turn_on" [] (transitionType "Lit"),
    asyncMethod [onAttribute "Lit" "Press"] "turn_off" [] (transitionType "Idle"),
    asyncMethod [onAttribute "Lit" "Break"] "go_out" [] (transitionType "Idle")]

def switch : AcceptedFsm sampleCrates workerArgs switchBlock :=
  (accept sampleCrates workerArgs switchBlock).get (by decide)

/-- One event after the other. -/
def pressedActions : List (Action Nat Nat String) := [
  .loop .start, .loop .rearm,
  .environment (.send ⟨"Break", none⟩), .loop .recvBranch,
  .environment (.send ⟨"Press", none⟩), .loop .recvBranch,
  .loop (.handlerReady ⟨"Idle", 1, none⟩ (.transition "Lit")), .loop .publish, .loop .rearm]

/-- The same events wait for the loop, and the handler for the clock. -/
def queuedActions : List (Action Nat Nat String) := [
  .environment (.send ⟨"Break", none⟩), .environment (.send ⟨"Press", none⟩),
  .loop .start, .loop .rearm, .loop .recvBranch, .loop .recvBranch,
  .loop (.handlerPending ⟨"Idle", 4, none⟩), .environment (.advance 500),
  .loop (.handlerReady ⟨"Idle", 5, none⟩ (.transition "Lit")), .loop .publish, .loop .rearm]

def switchRun (actions : List (Action Nat Nat String))
    (possible : (replay (step switch.program fun _ => true) workerInitial actions).isSome) :
    List (Moment Nat Nat String) × Config Nat Nat String :=
  (replay (step switch.program fun _ => true) workerInitial actions).get possible

theorem switchRun_executes (actions : List (Action Nat Nat String))
    (possible : (replay (step switch.program fun _ => true) workerInitial actions).isSome) :
    Executes switch.program (fun _ => true) workerInitial (switchRun actions possible).1
      (switchRun actions possible).2 := by
  have replayed : replay (step switch.program fun _ => true) workerInitial actions =
      some (switchRun actions possible) := (Option.some_get possible).symm
  exact .of_replay ⟨none, 0, false, 0, rfl⟩ replayed

theorem replay_agrees_switch :
    (switchRun pressedActions (by decide)).2.fsm.state =
      (switchRun queuedActions (by decide)).2.fsm.state :=
  replay_agrees switch (by decide) (by decide) (switchRun_executes _ _)
    (switchRun_executes _ _) (by decide) rfl rfl

end TokioFsm
