import TokioFsm.EventConservation

/-!
# Building runs

The converse of the safety results: from a quiet machine the transitions of
the generated arms can be made to happen.  Each lemma extends a run by one
transition and says which handler it invoked and where it led.
-/

namespace TokioFsm

open StepRuns WatchChannel

variable {Context Payload Failure : Type}

/-- Nothing is queued or cancelled, one handle is left, and the task lives. -/
structure Quiet (config : Config Context Payload Failure) (state : Ident) (clock : Nat) :
    Prop where
  state_eq : config.fsm.state = state
  clock_eq : config.clock = clock
  queue_eq : config.queue = []
  handles_eq : config.handles = 1
  cancelled_eq : config.cancelled = false
  receiverDropped_eq : config.receiverDropped = false

/-- The moments invoke one handler, whose transition leads from one state to
another. -/
structure OneTransition (program : GeneratedFsm)
    (moments : List (Moment Context Payload Failure)) (handler : Handler)
    (source target : Ident) : Prop where
  invoked : ∃ call argument, call.handler = handler ∧
    moments.filterMap (Moment.invoked program) = [(call, argument)]
  transition : moments.filterMap Moment.transition = [(source, target)]

section Building

variable {program : GeneratedFsm} {representable : Nat → Bool}
  {config : Config Context Payload Failure} {state target : Ident} {clock : Nat}

/-- A handler can finish with any state of its return type. -/
theorem exists_completion {call : HandlerCall} {argument : Option Payload}
    {entry : FsmInstance Context} (quiet : Quiet config state clock)
    (isCalling : config.phase = .calling call argument entry) (entryEq : entry.state = state)
    (typed : state ∈ program.stateEnum)
    (arity : call.handler.targets.length = call.returnKind.arity)
    (targetMem : target ∈ call.handler.targets) :
    ∃ moments last, Run (step program representable) config moments last ∧
      moments.filterMap (Moment.invoked program) = [] ∧
        moments.filterMap Moment.transition = [(state, target)] ∧
          last.phase = .rearming ∧ Quiet last target clock := by
  rcases HandlerCall.exists_returns Failure arity targetMem with ⟨output, returns, dispatched⟩
  rw [← quiet.state_eq] at typed
  let moved := applyResult config config.fsm (.ok target)
  have finishes : step program representable config
      (.loop (.handlerReady config.fsm output)) = some moved :=
    LoopMove.step_eq (.handlerReady isCalling typed returns dispatched)
  have publishes : step program representable moved (.loop .publish) =
      some { moved with
        watch := moved.watch.send moved.handles moved.fsm.state
        phase := .rearming } :=
    LoopMove.step_eq (.publish rfl)
  refine ⟨_, _, (Run.single finishes).snoc publishes, rfl, ?_, rfl,
    ⟨rfl, quiet.clock_eq, quiet.queue_eq, quiet.handles_eq, quiet.cancelled_eq,
      quiet.receiverDropped_eq⟩⟩
  have transition : Moment.transition (config, .loop (.handlerReady config.fsm output)) =
      some (state, target) := by
    rw [← entryEq]
    exact Moment.transition_handlerReady isCalling dispatched config.fsm
  simp [transition]
  rfl

/-- An event with a handler is received, and the handler moves the machine to
any state of its return type. -/
theorem exists_event_transition {event : EventValue Payload} {arm : EventArm}
    (quiet : Quiet config state clock) (isSelecting : config.phase = .selecting)
    (capacity : 0 < program.channelSize) (accepts : program.Accepts event)
    (typed : state ∈ program.stateEnum)
    (matched : program.matchArm state event.variant = some arm)
    (arity : arm.call.handler.targets.length = arm.call.returnKind.arity)
    (targetMem : target ∈ arm.call.handler.targets) :
    ∃ sent rest last, step program representable config (.environment (.send event)) =
        some sent ∧
      sent.phase = .selecting ∧ sent.fsm.state = state ∧ sent.queue = [event] ∧
        Run (step program representable) sent ((sent, .loop .recvBranch) :: rest) last ∧
          OneTransition program ((sent, .loop .recvBranch) :: rest) arm.call.handler state
            target ∧
            last.phase = .rearming ∧ Quiet last target clock := by
  let sent : Config Context Payload Failure := { config with queue := [event] }
  have sends : step program representable config (.environment (.send event)) = some sent := by
    simp [step, environmentStep, quiet.handles_eq, quiet.receiverDropped_eq, quiet.queue_eq,
      capacity, accepts, sent]
  have found : program.matchArm sent.fsm.state event.variant = some arm := by
    rw [← quiet.state_eq] at matched
    exact matched
  have receives : step program representable sent (.loop .recvBranch) =
      some (arm.invoke event { sent with queue := [] }) :=
    LoopMove.step_eq (.matched isSelecting rfl found)
  have calledQuiet : Quiet (arm.invoke event { sent with queue := [] }) state clock :=
    ⟨quiet.state_eq, quiet.clock_eq, rfl, quiet.handles_eq, quiet.cancelled_eq,
      quiet.receiverDropped_eq⟩
  rcases exists_completion calledQuiet rfl quiet.state_eq typed arity targetMem with
    ⟨rest, last, run, noneInvoked, transitions, isRearming, lastQuiet⟩
  have invoked : Moment.invoked program (sent, .loop .recvBranch) =
      some (arm.call, if arm.call.passesPayload then event.payload else none) := by
    simp [Moment.invoked, sent, matched, quiet.state_eq]
  have oneInvoked : ((sent, .loop .recvBranch) :: rest).filterMap
      (Moment.invoked program) =
        [(arm.call, if arm.call.passesPayload then event.payload else none)] := by
    rw [List.filterMap_cons_some invoked, noneInvoked]
  exact ⟨sent, rest, last, sends, isSelecting, quiet.state_eq, rfl,
    (Run.single receives).append run, ⟨⟨_, _, rfl, oneInvoked⟩, transitions⟩, isRearming,
    lastQuiet⟩

/-- When the timer is due, the timeout handler moves the machine to any state
of its return type. -/
theorem exists_timer_transition {call : HandlerCall} (quiet : Quiet config state clock)
    (isSelecting : config.phase = .selecting) (isDue : config.deadline ≤ config.clock)
    (typed : state ∈ program.stateEnum) (logic : program.timeoutLogic = some call)
    (arity : call.handler.targets.length = call.returnKind.arity)
    (targetMem : target ∈ call.handler.targets) :
    ∃ rest last,
      Run (step program representable) config ((config, .loop .timerBranch) :: rest) last ∧
        OneTransition program ((config, .loop .timerBranch) :: rest) call.handler state
          target ∧
          last.phase = .rearming ∧ Quiet last target clock := by
  have fires : step program representable config (.loop .timerBranch) =
      some { config with phase := .calling call none config.fsm } :=
    LoopMove.step_eq (.expired isSelecting isDue logic)
  let called : Config Context Payload Failure :=
    { config with phase := .calling call none config.fsm }
  have calledQuiet : Quiet called state clock :=
    ⟨quiet.state_eq, quiet.clock_eq, quiet.queue_eq, quiet.handles_eq, quiet.cancelled_eq,
      quiet.receiverDropped_eq⟩
  rcases exists_completion calledQuiet rfl quiet.state_eq typed arity targetMem with
    ⟨rest, last, run, noneInvoked, transitions, isRearming, lastQuiet⟩
  have oneInvoked : ((config, .loop .timerBranch) :: rest).filterMap
      (Moment.invoked program) = [(call, none)] := by
    have invoked : Moment.invoked program (config, .loop .timerBranch) = some (call, none) := by
      rw [Moment.invoked, logic]
      rfl
    rw [List.filterMap_cons_some invoked, noneInvoked]
  exact ⟨rest, last, (Run.single fires).append run, ⟨⟨_, _, rfl, oneInvoked⟩, transitions⟩,
    isRearming, lastQuiet⟩

/-- The timer is set, unless its deadline is out of range. -/
theorem exists_rearm (quiet : Quiet config state clock) (isRearming : config.phase = .rearming)
    (fits : representable (clock + program.timeoutFor state) = true) :
    ∃ last, step program representable config (.loop .rearm) = some last ∧
      last.phase = .selecting ∧ last.deadline = clock + program.timeoutFor state ∧
        Quiet last state clock := by
  rcases quiet with ⟨rfl, rfl, queueEq, handlesEq, cancelledEq, receiverDroppedEq⟩
  exact ⟨_, LoopMove.step_eq (.rearm isRearming fits), rfl, rfl,
    ⟨rfl, rfl, queueEq, handlesEq, cancelledEq, receiverDroppedEq⟩⟩

/-- A machine can be spawned at any time. -/
theorem exists_start (context : Context) (clock : Nat)
    (capacity : 0 < program.channelSize) (fits : program.channelSize ≤ usizeMax >>> 3) :
    ∃ (initial : Config Context Payload Failure)
      (trace : List (Moment Context Payload Failure)) (last : Config Context Payload Failure),
      Executes program representable initial trace last ∧ last.phase = .rearming ∧
        Quiet last program.initialState clock := by
  let initial : Config Context Payload Failure := {
    fsm := ⟨program.initialState, context, none⟩
    clock
    cancelled := false
    watch := { value := program.initialState } }
  have spawned : program.spawnNamedWithToken none context false clock = some initial :=
    if_pos ⟨capacity, fits⟩
  have starts : step program representable initial (.loop .start) =
      some { initial with phase := .rearming, deadline := initial.clock } :=
    LoopMove.step_eq (.start rfl)
  exact ⟨initial, _, _, ⟨⟨none, context, false, clock, spawned⟩, Run.single starts⟩, rfl,
    ⟨rfl, rfl, rfl, rfl, rfl, rfl⟩⟩

end Building

end TokioFsm
