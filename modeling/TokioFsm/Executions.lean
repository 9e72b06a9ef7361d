import TokioFsm.GeneratedLoop

/-!
# Executions of a spawned machine

An execution is a run from a configuration that one of the spawn functions
returns.  What happened in it (events accepted and received, handlers invoked
and completed, transitions, states published, timers armed) is read off its
moments.
-/

namespace TokioFsm

open StepRuns WatchChannel

variable {Context Payload Failure : Type}

/-- A configuration with the action taken in it. -/
abbrev Moment (Context Payload Failure : Type) :=
  Config Context Payload Failure × Action Context Payload Failure

/-- A run of a machine that has just been spawned. -/
structure Executes (program : GeneratedFsm) (representable : Nat → Bool)
    (initial : Config Context Payload Failure) (trace : List (Moment Context Payload Failure))
    (last : Config Context Payload Failure) : Prop where
  spawned : ∃ name context tokenCancelled clock,
    program.spawnNamedWithToken name context tokenCancelled clock = some initial
  run : Run (step program representable) initial trace last

/-! ## What a moment shows -/

/-- A finished call of a handler. -/
structure Invocation (Context Payload Failure : Type) where
  call : HandlerCall
  argument : Option Payload
  entry : FsmInstance Context
  exit : FsmInstance Context
  output : HandlerOutput Failure

namespace Moment

def accepted : Moment Context Payload Failure → Option (EventValue Payload)
  | (_, .environment (.send event)) => some event
  | _ => none

def received : Moment Context Payload Failure → Option (EventValue Payload)
  | (config, .loop .recvBranch) => config.queue.head?
  | _ => none

/-- The call begun, with its argument. -/
def invoked (program : GeneratedFsm) :
    Moment Context Payload Failure → Option (HandlerCall × Option Payload)
  | (_, .loop .timerBranch) => program.timeoutLogic.map fun call => (call, none)
  | (config, .loop .recvBranch) =>
      config.queue.head?.bind fun event =>
        (program.matchArm config.fsm.state event.variant).map fun arm =>
          (arm.call, if arm.call.passesPayload then event.payload else none)
  | _ => none

def completed : Moment Context Payload Failure → Option (Invocation Context Payload Failure)
  | (config, .loop (.handlerReady after output)) =>
      match config.phase with
      | .calling call argument entry => some ⟨call, argument, entry, after, output⟩
      | _ => none
  | _ => none

end Moment

/-- Where a finished call leads: from the state in which it began to the state
it returned. -/
def Invocation.transition (invocation : Invocation Context Payload Failure) :
    Option (Ident × Ident) :=
  match invocation.call.returnKind.dispatch invocation.output with
  | some (.ok target) => some (invocation.entry.state, target)
  | _ => none

namespace Moment

/-- The transition applied. -/
def transition (moment : Moment Context Payload Failure) : Option (Ident × Ident) :=
  moment.completed.bind Invocation.transition

theorem transition_handlerReady {config : Config Context Payload Failure}
    {call : HandlerCall} {argument : Option Payload} {entry : FsmInstance Context}
    {output : HandlerOutput Failure} {result : Except Failure Ident}
    (isCalling : config.phase = .calling call argument entry)
    (dispatched : call.returnKind.dispatch output = some result)
    (after : FsmInstance Context) :
    Moment.transition (config, .loop (.handlerReady after output)) =
      result.toOption.map fun target => (entry.state, target) := by
  cases result with
  | ok target =>
      simp [Moment.transition, Moment.completed, Invocation.transition, isCalling, dispatched,
        Except.toOption]
  | error error =>
      simp [Moment.transition, Moment.completed, Invocation.transition, isCalling, dispatched,
        Except.toOption]

/-- A transition is applied when a handler has returned its target. -/
theorem transition_eq_some {moment : Moment Context Payload Failure} {source target : Ident}
    (transition : moment.transition = some (source, target)) :
    ∃ config after output call argument entry,
      moment = (config, .loop (.handlerReady after output)) ∧
        config.phase = .calling call argument entry ∧
          call.returnKind.dispatch output = some (.ok target) ∧ entry.state = source := by
  rcases Option.bind_eq_some_iff.mp transition with ⟨invocation, completed, led⟩
  unfold Moment.completed at completed
  split at completed
  next config after output =>
    split at completed
    next call argument entry isCalling =>
      cases completed
      unfold Invocation.transition at led
      split at led
      next target' dispatched =>
        cases led
        exact ⟨config, after, output, call, argument, entry, rfl, isCalling, dispatched, rfl⟩
      next => cases led
    next => cases completed
  next => cases completed

/-- The task has no part in the moment: an action of the environment, or the
dropping of what the task owned. -/
def Outside : Moment Context Payload Failure → Prop
  | (_, .environment _) | (_, .loop .dropReceiver) | (_, .loop .dropSender) => True
  | _ => False

/-- The state published; without a handle nothing is. -/
def published : Moment Context Payload Failure → Option Ident
  | (config, .loop .publish) => if config.handles = 0 then none else some config.fsm.state
  | _ => none

/-- The state for which the timer is set, with the reading of the clock. -/
def entered : Moment Context Payload Failure → Option (Ident × Nat)
  | (config, .loop .rearm) => some (config.fsm.state, config.clock)
  | _ => none

end Moment

section Executing

variable {program : GeneratedFsm} {representable : Nat → Bool}
  {initial middle last : Config Context Payload Failure}
  {trace before after : List (Moment Context Payload Failure)}

namespace Executes

theorem of_replay {actions : List (Action Context Payload Failure)}
    (spawned : ∃ name context tokenCancelled clock,
      program.spawnNamedWithToken name context tokenCancelled clock = some initial)
    (replayed : replay (step program representable) initial actions = some (trace, last)) :
    Executes program representable initial trace last :=
  ⟨spawned, run_of_replay replayed⟩

theorem snoc {action : Action Context Payload Failure}
    (executes : Executes program representable initial trace middle)
    (taken : step program representable middle action = some last) :
    Executes program representable initial (trace ++ [(middle, action)]) last :=
  ⟨executes.spawned, executes.run.snoc taken⟩

/-- A moment of an execution ends an execution and begins a run. -/
theorem moment {action : Action Context Payload Failure}
    (executes : Executes program representable initial trace last)
    (cut : trace = before ++ (middle, action) :: after) :
    Executes program representable initial before middle ∧
      ∃ next, step program representable middle action = some next ∧
        Run (step program representable) next after last := by
  rcases executes.run.moment cut with ⟨toMiddle, next, taken, fromNext⟩
  exact ⟨⟨executes.spawned, toMiddle⟩, next, taken, fromNext⟩

end Executes

/-- How a spawned machine begins. -/
structure Spawned (program : GeneratedFsm) (config : Config Context Payload Failure) :
    Prop where
  state_eq : config.fsm.state = program.initialState
  phase_eq : config.phase = .starting
  queue_eq : config.queue = []
  receiverDropped_eq : config.receiverDropped = false
  handles_eq : config.handles = 1
  watch_eq : config.watch = { value := program.initialState }
  channelSize_le : program.channelSize ≤ usizeMax >>> 3

theorem Spawned.of_spawn {name : Option String} {context : Context} {tokenCancelled : Bool}
    {clock : Nat}
    (spawned : program.spawnNamedWithToken name context tokenCancelled clock = some initial) :
    Spawned program initial := by
  unfold GeneratedFsm.spawnNamedWithToken at spawned
  split at spawned
  next fits =>
    cases spawned
    exact ⟨rfl, rfl, rfl, rfl, rfl, rfl, fits.2⟩
  next => cases spawned

theorem Executes.spawned_initial
    (executes : Executes program representable initial trace last) :
    Spawned program initial := by
  rcases executes.spawned with ⟨name, context, tokenCancelled, clock, spawned⟩
  exact .of_spawn spawned

/-- Induction along an execution: it begins with a spawned machine, and goes on
with moves of the environment and of the task. -/
theorem Executes.rec_moves
    {motive : ∀ last trace, Executes program representable initial trace last → Prop}
    (spawned : ∀ executes, Spawned program initial → motive initial [] executes)
    (environment : ∀ trace middle action last
      (executes : Executes program representable initial trace middle)
      (taken : step program representable middle (.environment action) = some last),
        EnvironmentMove program middle action.sent last → motive middle trace executes →
          motive last (trace ++ [(middle, .environment action)]) (executes.snoc taken))
    (loop : ∀ trace middle action last
      (executes : Executes program representable initial trace middle)
      (taken : step program representable middle (.loop action) = some last),
        LoopMove program representable middle action last → motive middle trace executes →
          motive last (trace ++ [(middle, .loop action)]) (executes.snoc taken))
    (executes : Executes program representable initial trace last) :
    motive last trace executes := by
  have begin := executes.spawned_initial
  rcases executes with ⟨isSpawned, run⟩
  induction run with
  | refl => exact spawned ⟨isSpawned, .refl⟩ begin
  | @snoc trace middle last action previous taken ih =>
      cases action with
      | environment action =>
          exact environment trace middle action last ⟨isSpawned, previous⟩ taken
            (.of_environmentStep taken) ih
      | loop action =>
          exact loop trace middle action last ⟨isSpawned, previous⟩ taken (.of_loopStep taken) ih

end Executing

/-! ## What holds in every configuration -/

/-- The generated code makes the call in the state, for some event or because
the timer fired. -/
inductive GeneratedFsm.CallFrom (program : GeneratedFsm) (state : Ident) :
    HandlerCall → Prop
  | event {event : Ident} {arm : EventArm} :
      program.matchArm state event = some arm → program.CallFrom state arm.call
  | timer {call : HandlerCall} :
      program.timeoutLogic = some call → program.CallFrom state call

/-- The state is one of the enum, a call in flight was made by the generated
code, and the channels are open until the task is over. -/
structure Sound (program : GeneratedFsm) (config : Config Context Payload Failure) :
    Prop where
  state_mem : config.fsm.state ∈ program.stateEnum
  calling : ∀ call argument entry, config.phase = .calling call argument entry →
    entry.state ∈ program.stateEnum ∧ program.CallFrom entry.state call
  channels_open : ¬ config.phase.Ended →
    config.receiverDropped = false ∧ config.watch.closed = false

namespace Sound

variable {program : GeneratedFsm} {config : Config Context Payload Failure}

theorem of_ended (stateMem : config.fsm.state ∈ program.stateEnum)
    (ended : config.phase.Ended) : Sound program config where
  state_mem := stateMem
  calling call argument entry isCalling := by
    rw [isCalling] at ended
    exact ended.elim
  channels_open notEnded := absurd ended notEnded

theorem of_idle (stateMem : config.fsm.state ∈ program.stateEnum)
    (idle : config.phase = .rearming ∨ config.phase = .selecting)
    (channelsOpen : config.receiverDropped = false ∧ config.watch.closed = false) :
    Sound program config where
  state_mem := stateMem
  calling call argument entry isCalling := by
    rw [isCalling] at idle
    rcases idle with idle | idle
    · cases idle
    · cases idle
  channels_open _ := channelsOpen

theorem of_publishing (stateMem : config.fsm.state ∈ program.stateEnum)
    (isPublishing : config.phase = .publishing)
    (channelsOpen : config.receiverDropped = false ∧ config.watch.closed = false) :
    Sound program config where
  state_mem := stateMem
  calling call argument entry isCalling := by
    rw [isCalling] at isPublishing
    cases isPublishing
  channels_open _ := channelsOpen

theorem of_call {call : HandlerCall} {argument : Option Payload}
    {entry : FsmInstance Context} (stateMem : config.fsm.state ∈ program.stateEnum)
    (isCalling : config.phase = .calling call argument entry)
    (entryMem : entry.state ∈ program.stateEnum) (callFrom : program.CallFrom entry.state call)
    (channelsOpen : config.receiverDropped = false ∧ config.watch.closed = false) :
    Sound program config where
  state_mem := stateMem
  calling call' argument' entry' isCalling' := by
    rw [isCalling] at isCalling'
    cases isCalling'
    exact ⟨entryMem, callFrom⟩
  channels_open _ := channelsOpen

end Sound

/-- The target of the last transition, or the initial state before the first. -/
def lastTarget (program : GeneratedFsm)
    (trace : List (Moment Context Payload Failure)) : Ident :=
  ((trace.filterMap Moment.transition).getLast?.map Prod.snd).getD program.initialState

/-- The state the loop is in.  While a handler runs it is the state in which
the handler was called, whatever the body assigns to the field. -/
def Config.loopState (config : Config Context Payload Failure) : Ident :=
  match config.phase with
  | .calling _ _ entry => entry.state
  | _ => config.fsm.state

section Following

variable {program : GeneratedFsm} {representable : Nat → Bool}
  {initial config next last : Config Context Payload Failure}
  {trace : List (Moment Context Payload Failure)}

theorem lastTarget_snoc_none {moment : Moment Context Payload Failure}
    (noTransition : moment.transition = none) :
    lastTarget program (trace ++ [moment]) = lastTarget program trace := by
  simp [lastTarget, List.filterMap_append, noTransition]

theorem lastTarget_snoc_some {moment : Moment Context Payload Failure}
    {source target : Ident} (transition : moment.transition = some (source, target)) :
    lastTarget program (trace ++ [moment]) = target := by
  simp [lastTarget, List.filterMap_append, transition]

theorem lastTarget_append_none {after : List (Moment Context Payload Failure)}
    (noTransition : ∀ moment ∈ after, Moment.transition moment = none) :
    lastTarget program (trace ++ after) = lastTarget program trace := by
  rw [lastTarget, List.filterMap_append, List.filterMap_eq_nil_iff.mpr noTransition,
    List.append_nil]
  rfl

theorem Config.loopState_of_calling {call : HandlerCall} {argument : Option Payload}
    {entry : FsmInstance Context} (isCalling : config.phase = .calling call argument entry) :
    config.loopState = entry.state := by
  rw [loopState, isCalling]

theorem Config.loopState_of_selecting (isSelecting : config.phase = .selecting) :
    config.loopState = config.fsm.state := by
  rw [loopState, isSelecting]

theorem EnvironmentMove.loopState_eq {sent : List (EventValue Payload)}
    (move : EnvironmentMove program config sent next) : next.loopState = config.loopState := by
  rw [Config.loopState, Config.loopState, move.phase_eq, move.fsm_eq]

/-- A move of the task ends it, leaves the state alone, or applies one
transition. -/
theorem LoopMove.state_cases {action : LoopAction Context Failure}
    (move : LoopMove program representable config action next) :
    next.phase.Ended ∨
      (Moment.transition (config, .loop action) = none ∧
        next.loopState = config.loopState) ∨
      ∃ target, Moment.transition (config, .loop action) = some (config.loopState, target) ∧
        next.loopState = target := by
  cases move with
  | start isStarting =>
      refine .inr (.inl ⟨rfl, ?_⟩)
      simp [Config.loopState, isStarting]
  | rearm isRearming =>
      refine .inr (.inl ⟨rfl, ?_⟩)
      simp [Config.loopState, isRearming]
  | publish isPublishing =>
      refine .inr (.inl ⟨rfl, ?_⟩)
      simp [Config.loopState, isPublishing]
  | expired isSelecting =>
      exact .inr (.inl ⟨rfl, (Config.loopState_of_selecting isSelecting).symm⟩)
  | matched isSelecting =>
      exact .inr (.inl ⟨rfl, (Config.loopState_of_selecting isSelecting).symm⟩)
  | wait | outOfBudget | expiredUnhandled | unmatched => exact .inr (.inl ⟨rfl, rfl⟩)
  | handlerPending isCalling =>
      refine .inr (.inl ⟨rfl, ?_⟩)
      simp [Config.loopState, isCalling]
  | @handlerReady call argument entry after output result isCalling typed returns dispatched =>
      cases result with
      | error error => exact .inl trivial
      | ok target =>
          refine .inr (.inr ⟨target, ?_, rfl⟩)
          rw [Config.loopState_of_calling isCalling]
          exact Moment.transition_handlerReady isCalling dispatched after
  | dropReceiver isEnded => exact .inl isEnded
  | dropSender isEnded => exact .inl isEnded
  | overflow | cancelled | closed | handlerCancelled | handlerPanics | abort =>
      exact .inl trivial

/-- Until the task is over, the loop is in the state last moved to. -/
theorem Executes.loopState_eq
    (executes : Executes program representable initial trace last) :
    ¬ last.phase.Ended → last.loopState = lastTarget program trace := by
  intro notEnded
  induction executes using Executes.rec_moves with
  | spawned _ begin =>
      rw [Config.loopState, begin.phase_eq, begin.state_eq]
      rfl
  | environment trace middle action last _ _ move ih =>
      rw [move.phase_eq] at notEnded
      rw [move.loopState_eq, lastTarget_snoc_none rfl]
      exact ih notEnded
  | loop trace middle action last _ _ move ih =>
      rcases move.state_cases with ended | ⟨noTransition, same⟩ | ⟨target, transition, moved⟩
      · exact absurd ended notEnded
      · rw [same, lastTarget_snoc_none noTransition]
        exact ih (move.notEnded_of notEnded)
      · rw [moved, lastTarget_snoc_some transition]

/-- Once the task is over it does nothing, and what it left stays. -/
theorem run_of_ended {after : List (Moment Context Payload Failure)}
    (run : Run (step program representable) config after last) (ended : config.phase.Ended) :
    last.phase = config.phase ∧ last.fsm = config.fsm ∧
      last.watch.value = config.watch.value ∧ last.deadline = config.deadline ∧
        ∀ moment ∈ after, Moment.Outside moment := by
  induction run with
  | refl => exact ⟨rfl, rfl, rfl, rfl, fun _ momentMem => absurd momentMem List.not_mem_nil⟩
  | @snoc after middle last action _ taken ih =>
      rcases ih with ⟨phaseEq, fsmEq, valueEq, deadlineEq, outside⟩
      have outsideSnoc (isOutside : Moment.Outside (middle, action)) :
          ∀ moment ∈ after ++ [(middle, action)], Moment.Outside moment :=
        List.forall_mem_append.mpr ⟨outside, List.forall_mem_singleton.mpr isOutside⟩
      cases action with
      | environment action =>
          have move := EnvironmentMove.of_environmentStep taken
          refine ⟨move.phase_eq.trans phaseEq, move.fsm_eq.trans fsmEq, ?_,
            move.deadline_eq.trans deadlineEq, outsideSnoc trivial⟩
          rw [move.watch_eq, valueEq]
      | loop action =>
          rw [← phaseEq] at ended
          rcases (LoopMove.of_loopStep taken).of_ended ended with
            ⟨dropped, samePhase, sameFsm, sameValue, sameDeadline⟩
          refine ⟨samePhase.trans phaseEq, sameFsm.trans fsmEq, sameValue.trans valueEq,
            sameDeadline.trans deadlineEq, outsideSnoc ?_⟩
          rcases dropped with rfl | rfl
          · trivial
          · trivial

end Following

section Accepted

variable {crates : Crates} {args : FsmArgs} {block : ItemImpl}
  (machine : AcceptedFsm crates args block) {representable : Nat → Bool}
  {initial last : Config Context Payload Failure}
  {trace : List (Moment Context Payload Failure)}

theorem AcceptedFsm.callFrom_spec {state : Ident} {call : HandlerCall}
    (callFrom : machine.program.CallFrom state call) :
    call.handler ∈ machine.fsm.handlers ∧
      call.handler.returnKind = some call.returnKind ∧
      call.handler.targets.length = call.returnKind.arity := by
  have spec : call.handler ∈ machine.fsm.handlers ∧
      call.handler.returnKind = some call.returnKind ∧
      (call.handler.event.isSome ∨ call.handler.isTimeoutHandler = true) := by
    cases callFrom with
    | event matched =>
        rcases machine.matchArm_eq_some matched with ⟨found, -, -, kindEq, -, -⟩
        have handles := List.find?_some found
        rw [decide_eq_true_eq] at handles
        exact ⟨List.mem_of_find?_eq_some found, kindEq, Or.inl handles.event_isSome⟩
    | timer logic =>
        rcases machine.timeoutLogic_eq_some logic with ⟨handlerMem, isTimeout, kindEq, -⟩
        exact ⟨handlerMem, kindEq, Or.inr isTimeout⟩
  rcases (machine.wellFormed spec.1).returnKind_of_trigger spec.2.2 with ⟨kind, kindEq, arity⟩
  rw [spec.2.1] at kindEq
  rw [← Option.some.inj kindEq] at arity
  exact ⟨spec.1, spec.2.1, by rw [Handler.targets, List.length_map, arity]⟩

theorem AcceptedFsm.target_mem {state target : Ident} {call : HandlerCall}
    (callFrom : machine.program.CallFrom state call)
    (targetMem : target ∈ call.handler.targets) : target ∈ machine.program.stateEnum := by
  rw [machine.stateEnum_eq]
  exact machine.closed.targets_mem _ (machine.callFrom_spec callFrom).1 _ targetMem

theorem Executes.sound (executes : Executes machine.program representable initial trace last) :
    Sound machine.program last := by
  induction executes using Executes.rec_moves with
  | spawned _ begin =>
      constructor
      · rw [begin.state_eq, machine.stateEnum_eq, machine.initialState_eq]
        exact machine.closed.initialState_mem
      · intro call argument entry isCalling
        rw [begin.phase_eq] at isCalling
        cases isCalling
      · intro _
        rw [begin.watch_eq]
        exact ⟨begin.receiverDropped_eq, rfl⟩
  | environment trace middle action last _ _ move sound =>
      constructor
      · rw [move.fsm_eq]
        exact sound.state_mem
      · rw [move.phase_eq]
        exact sound.calling
      · rw [move.phase_eq, move.receiverDropped_eq, move.watch_eq]
        exact sound.channels_open
  | loop trace middle action last _ _ move sound =>
      have isOpen (notEnded : ¬ middle.phase.Ended) := sound.channels_open notEnded
      cases move with
      | start isStarting =>
          exact .of_idle sound.state_mem (.inl rfl) (isOpen (by rw [isStarting]; exact id))
      | rearm isRearming fits =>
          exact .of_idle sound.state_mem (.inr rfl) (isOpen (by rw [isRearming]; exact id))
      | overflow isRearming overflows => exact .of_ended sound.state_mem trivial
      | wait | outOfBudget | expiredUnhandled => exact sound
      | expired isSelecting isDue logic =>
          exact .of_call sound.state_mem rfl sound.state_mem (.timer logic)
            (isOpen (by rw [isSelecting]; exact id))
      | cancelled isSelecting isCancelled => exact .of_ended sound.state_mem trivial
      | unmatched isSelecting queued noArm =>
          exact ⟨sound.state_mem, sound.calling, sound.channels_open⟩
      | matched isSelecting queued found =>
          exact .of_call sound.state_mem rfl sound.state_mem (.event found)
            (isOpen (by rw [isSelecting]; exact id))
      | closed isSelecting isEmpty isClosed => exact .of_ended sound.state_mem trivial
      | handlerPending isCalling notCancelled typed =>
          exact ⟨typed, sound.calling, sound.channels_open⟩
      | @handlerReady call argument entry after output result isCalling typed returns
          dispatched =>
          cases result with
          | error error => exact .of_ended typed trivial
          | ok target =>
              have callFrom := (sound.calling call argument entry isCalling).2
              rcases returns.dispatch with ⟨result, resultEq, inTargets⟩
              rw [dispatched] at resultEq
              have targetMem := inTargets target (Option.some.inj resultEq).symm
              exact .of_publishing (machine.target_mem callFrom targetMem) rfl
                (isOpen (by rw [isCalling]; exact id))
      | handlerCancelled isCalling isCancelled typed => exact .of_ended typed trivial
      | handlerPanics isCalling => exact .of_ended sound.state_mem trivial
      | publish isPublishing =>
          have stillOpen := isOpen (by rw [isPublishing]; exact id)
          refine .of_idle sound.state_mem (.inl rfl) ⟨stillOpen.1, ?_⟩
          rw [Channel.closed_send]
          exact stillOpen.2
      | abort isSuspended => exact .of_ended sound.state_mem trivial
      | dropReceiver isEnded receiverLeft => exact .of_ended sound.state_mem isEnded
      | dropSender isEnded senderLeft => exact .of_ended sound.state_mem isEnded

end Accepted

end TokioFsm
