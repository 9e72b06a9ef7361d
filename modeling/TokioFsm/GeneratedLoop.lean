import TokioFsm.CodeGeneration
import TokioFsm.Library.StepRuns
import TokioFsm.Library.WatchChannel

/-!
# The generated event loop

A machine that has been spawned consists of the task that runs the loop, the
two channels between the task and the handles, a cancellation token and a
clock.  The task moves between its await points, and inside `apply_transition`
between its two effects that other threads can see; everything else that may
happen between two of its moves is an action of the environment.  Handler
bodies are arbitrary: every poll may leave the machine's own fields changed,
and a body that finishes may return any value of its declared return type.

Times are nanoseconds.  `representable` says which of them `Instant` can hold.
-/

namespace TokioFsm

open StepRuns WatchChannel

/-- The generated struct. -/
structure FsmInstance (Context : Type) where
  state : Ident
  context : Context
  name : Option String := none
deriving DecidableEq

/-- A value of the generated event enum. -/
structure EventValue (Payload : Type) where
  variant : Ident
  payload : Option Payload := none
deriving DecidableEq

/-- What a handler body returns. -/
inductive HandlerOutput (Failure : Type)
  /-- `Transition<Next>` -/
  | transition (next : Ident)
  /-- `Ok(Transition<Next>)` -/
  | ok (next : Ident)
  /-- `Err(Transition<Next>)` -/
  | errTransition (next : Ident)
  /-- `Err(error)` with an error that is not a transition -/
  | errFailure (error : Failure)
deriving DecidableEq

/-- The value has the handler's return type. -/
def HandlerCall.Returns {Failure : Type} (call : HandlerCall) :
    HandlerOutput Failure → Prop
  | .transition next =>
      call.returnKind = .transition ∧ call.handler.targets[0]? = some next
  | .ok next =>
      (call.returnKind = .resultTransition ∨ call.returnKind = .resultError) ∧
        call.handler.targets[0]? = some next
  | .errTransition next =>
      call.returnKind = .resultTransition ∧ call.handler.targets[1]? = some next
  | .errFailure _ => call.returnKind = .resultError

instance {Failure : Type} (call : HandlerCall) (output : HandlerOutput Failure) :
    Decidable (call.Returns output) := by
  unfold HandlerCall.Returns
  split <;> infer_instance

/-- The dispatch on a handler's result: the state to go to, or the error with
which the task returns. -/
def HandlerReturnKind.dispatch {Failure : Type} :
    HandlerReturnKind → HandlerOutput Failure → Option (Except Failure Ident)
  | .transition, .transition next => some (.ok next)
  | .resultTransition, .ok next => some (.ok next)
  | .resultTransition, .errTransition next => some (.ok next)
  | .resultError, .ok next => some (.ok next)
  | .resultError, .errFailure error => some (.error error)
  | _, _ => none

/-- Where the task stands. -/
inductive Phase (Context Payload Failure : Type)
  /-- spawned and not yet polled -/
  | starting
  /-- about to reset the timer for the current state -/
  | rearming
  /-- at the outer `select!` -/
  | selecting
  /-- at the inner `select!`, with the machine as it was when the call began -/
  | calling (call : HandlerCall) (argument : Option Payload) (entry : FsmInstance Context)
  /-- in `apply_transition`, about to send the new state -/
  | publishing
  | returned (result : Except Failure Context)
  | panicked
  /-- dropped by the runtime after its `JoinHandle` was told to abort -/
  | aborted

/-- The task is over; what it owned is dropped next. -/
def Phase.Ended {Context Payload Failure : Type} : Phase Context Payload Failure → Prop
  | .returned _ | .panicked | .aborted => True
  | _ => False

instance {Context Payload Failure : Type} (phase : Phase Context Payload Failure) :
    Decidable phase.Ended := by
  unfold Phase.Ended
  split <;> infer_instance

/-- The task may rest here between two polls, so it can be aborted. -/
def Phase.Suspended {Context Payload Failure : Type} :
    Phase Context Payload Failure → Prop
  | .starting | .selecting | .calling _ _ _ => True
  | _ => False

instance {Context Payload Failure : Type} (phase : Phase Context Payload Failure) :
    Decidable phase.Suspended := by
  unfold Phase.Suspended
  split <;> infer_instance

/-- The loop is at one of its two `select!`s. -/
def Phase.Selects {Context Payload Failure : Type} :
    Phase Context Payload Failure → Prop
  | .selecting | .calling _ _ _ => True
  | _ => False

theorem Phase.Selects.not_ended {Context Payload Failure : Type}
    {phase : Phase Context Payload Failure} (selects : phase.Selects) : ¬ phase.Ended := by
  cases phase with
  | starting | selecting | calling | rearming | publishing => exact id
  | returned | panicked | aborted => exact selects.elim

theorem Phase.Selects.cases {Context Payload Failure : Type}
    {phase : Phase Context Payload Failure} (selects : phase.Selects) :
    phase = .selecting ∨ ∃ call argument entry, phase = .calling call argument entry := by
  cases phase with
  | selecting => exact .inl rfl
  | calling call argument entry => exact .inr ⟨call, argument, entry, rfl⟩
  | starting | rearming | publishing | returned | panicked | aborted => exact selects.elim

/-- A spawned machine. -/
structure Config (Context Payload Failure : Type) where
  fsm : FsmInstance Context
  phase : Phase Context Payload Failure := .starting
  /-- the deadline of the pinned sleep -/
  deadline : Nat := 0
  clock : Nat
  /-- the events accepted by the channel and not yet received -/
  queue : List (EventValue Payload) := []
  receiverDropped : Bool := false
  /-- each handle owns a sender of events and a receiver of states -/
  handles : Nat := 1
  cancelled : Bool
  watch : Channel Ident

/-- What happens outside the task. -/
inductive EnvironmentAction (Payload : Type)
  | advance (nanos : Nat)
  | send (event : EventValue Payload)
  | cloneHandle
  | dropHandle
  | shutdown
  /-- an ancestor of the token is cancelled, or the token through a clone -/
  | cancelAncestor

/-- What the task does next.  Handler actions carry the machine as the poll of
the body leaves it. -/
inductive LoopAction (Context Failure : Type)
  | start
  | rearm
  /-- suspend at the outer `select!` -/
  | wait
  /-- suspend at either `select!`, which polls none of its branches once the
  cooperative budget of the task is used up -/
  | outOfBudget
  | timerBranch
  | cancelledBranch
  | recvBranch
  | handlerPending (after : FsmInstance Context)
  | handlerReady (after : FsmInstance Context) (output : HandlerOutput Failure)
  | handlerCancelled (after : FsmInstance Context)
  | handlerPanics
  | publish
  | abort
  | dropReceiver
  | dropSender

inductive Action (Context Payload Failure : Type)
  | environment (action : EnvironmentAction Payload)
  | loop (action : LoopAction Context Failure)

variable {Context Payload Failure : Type}

namespace GeneratedFsm

variable (program : GeneratedFsm)

/-- The event is a value of the generated enum. -/
def Accepts (event : EventValue Payload) : Prop :=
  ∃ declared ∈ program.eventEnum,
    declared.name = event.variant ∧ declared.payloadType.isSome = event.payload.isSome

instance (event : EventValue Payload) : Decidable (program.Accepts event) := by
  unfold Accepts
  infer_instance

/-- Creating the channels panics on a capacity the semaphore cannot hold. -/
def spawnNamedWithToken (name : Option String) (context : Context) (tokenCancelled : Bool)
    (clock : Nat) : Option (Config Context Payload Failure) :=
  if 0 < program.channelSize ∧ program.channelSize ≤ usizeMax >>> 3 then
    some {
      fsm := ⟨program.initialState, context, name⟩
      clock
      cancelled := tokenCancelled
      watch := { value := program.initialState } }
  else none

def spawn (context : Context) (clock : Nat) : Option (Config Context Payload Failure) :=
  program.spawnNamedWithToken none context false clock

def spawnNamed (name : String) (context : Context) (clock : Nat) :
    Option (Config Context Payload Failure) :=
  program.spawnNamedWithToken (some name) context false clock

def spawnWithToken (context : Context) (tokenCancelled : Bool) (clock : Nat) :
    Option (Config Context Payload Failure) :=
  program.spawnNamedWithToken none context tokenCancelled clock

end GeneratedFsm

section Steps

variable (program : GeneratedFsm) (representable : Nat → Bool)

def environmentStep (config : Config Context Payload Failure) :
    EnvironmentAction Payload → Option (Config Context Payload Failure)
  | .advance nanos => some { config with clock := config.clock + nanos }
  | .send event =>
      if 0 < config.handles ∧ config.receiverDropped = false ∧
          config.queue.length < program.channelSize ∧ program.Accepts event then
        some { config with queue := config.queue ++ [event] }
      else none
  | .cloneHandle =>
      if 0 < config.handles then some { config with handles := config.handles + 1 } else none
  | .dropHandle =>
      if 0 < config.handles then some { config with handles := config.handles - 1 } else none
  | .shutdown => if 0 < config.handles then some { config with cancelled := true } else none
  | .cancelAncestor => some { config with cancelled := true }

/-- `Instant::now() + duration` panics when the sum cannot be represented. -/
def resetTimeoutForCurrentState (config : Config Context Payload Failure) :
    Config Context Payload Failure :=
  let deadline := config.clock + program.timeoutFor config.fsm.state
  if representable deadline then { config with deadline, phase := .selecting }
  else { config with phase := .panicked }

/-- The body of an arm starts with the call of its handler. -/
def EventArm.invoke (arm : EventArm) (event : EventValue Payload)
    (config : Config Context Payload Failure) : Config Context Payload Failure :=
  { config with
    phase := .calling arm.call (if arm.call.passesPayload then event.payload else none)
      config.fsm }

/-- The part of `apply_transition` after the dispatch and up to the send. -/
def applyResult (config : Config Context Payload Failure) (after : FsmInstance Context) :
    Except Failure Ident → Config Context Payload Failure
  | .ok next => { config with fsm := { after with state := next }, phase := .publishing }
  | .error error => { config with fsm := after, phase := .returned (.error error) }

def loopStep (config : Config Context Payload Failure)
    (action : LoopAction Context Failure) : Option (Config Context Payload Failure) :=
  match config.phase, action with
  | .starting, .start => some { config with phase := .rearming, deadline := config.clock }
  | .rearming, .rearm => some (resetTimeoutForCurrentState program representable config)
  | .selecting, .wait =>
      -- an expired timer may still go unnoticed by the runtime
      if config.cancelled = false ∧ config.queue = [] ∧ 0 < config.handles then some config
      else none
  -- what is left of the budget depends on all that the task did since it was woken
  | .selecting, .outOfBudget => some config
  | .calling _ _ _, .outOfBudget => some config
  | .selecting, .timerBranch =>
      if config.deadline ≤ config.clock then
        match program.timeoutLogic with
        | none => some config
        | some call => some { config with phase := .calling call none config.fsm }
      else none
  | .selecting, .cancelledBranch =>
      if config.cancelled then
        some { config with phase := .returned (.ok config.fsm.context) }
      else none
  | .selecting, .recvBranch =>
      match config.queue with
      | event :: queue =>
          match program.matchArm config.fsm.state event.variant with
          | none => some { config with queue }
          | some arm => some (arm.invoke event { config with queue })
      | [] =>
          if config.handles = 0 then
            some { config with phase := .returned (.ok config.fsm.context) }
          else none
  | .calling _ _ _, .handlerPending after =>
      if config.cancelled = false ∧ after.state ∈ program.stateEnum then
        some { config with fsm := after }
      else none
  | .calling call _ _, .handlerReady after output =>
      if after.state ∈ program.stateEnum ∧ call.Returns output then
        (call.returnKind.dispatch output).map (applyResult config after)
      else none
  | .calling _ _ _, .handlerCancelled after =>
      if config.cancelled ∧ after.state ∈ program.stateEnum then
        some { config with fsm := after, phase := .returned (.ok after.context) }
      else none
  | .calling _ _ _, .handlerPanics => some { config with phase := .panicked }
  | .publishing, .publish =>
      some { config with
        watch := config.watch.send config.handles config.fsm.state
        phase := .rearming }
  | phase, .abort =>
      if phase.Suspended then some { config with phase := .aborted } else none
  | phase, .dropReceiver =>
      if phase.Ended ∧ config.receiverDropped = false then
        some { config with queue := [], receiverDropped := true }
      else none
  | phase, .dropSender =>
      if phase.Ended ∧ config.watch.closed = false then
        some { config with watch := config.watch.close }
      else none
  | _, _ => none

def step (config : Config Context Payload Failure) :
    Action Context Payload Failure → Option (Config Context Payload Failure)
  | .environment action => environmentStep program config action
  | .loop action => loopStep program representable config action

end Steps

/-! ## What one step can do -/

/-- The moves of the task, one constructor for each outcome. -/
inductive LoopMove (program : GeneratedFsm) (representable : Nat → Bool)
    (config : Config Context Payload Failure) :
    LoopAction Context Failure → Config Context Payload Failure → Prop
  | start : config.phase = .starting →
      LoopMove program representable config .start
        { config with phase := .rearming, deadline := config.clock }
  | rearm : config.phase = .rearming →
      representable (config.clock + program.timeoutFor config.fsm.state) = true →
        LoopMove program representable config .rearm
          { config with
            deadline := config.clock + program.timeoutFor config.fsm.state
            phase := .selecting }
  | overflow : config.phase = .rearming →
      representable (config.clock + program.timeoutFor config.fsm.state) = false →
        LoopMove program representable config .rearm { config with phase := .panicked }
  | wait : config.phase = .selecting → config.cancelled = false → config.queue = [] →
      0 < config.handles → LoopMove program representable config .wait config
  | outOfBudget : config.phase.Selects →
      LoopMove program representable config .outOfBudget config
  | expiredUnhandled : config.phase = .selecting → config.deadline ≤ config.clock →
      program.timeoutLogic = none →
        LoopMove program representable config .timerBranch config
  | expired {call : HandlerCall} : config.phase = .selecting →
      config.deadline ≤ config.clock → program.timeoutLogic = some call →
        LoopMove program representable config .timerBranch
          { config with phase := .calling call none config.fsm }
  | cancelled : config.phase = .selecting → config.cancelled = true →
      LoopMove program representable config .cancelledBranch
        { config with phase := .returned (.ok config.fsm.context) }
  | unmatched {event : EventValue Payload} {queue : List (EventValue Payload)} :
      config.phase = .selecting → config.queue = event :: queue →
        program.matchArm config.fsm.state event.variant = none →
          LoopMove program representable config .recvBranch { config with queue }
  | matched {event : EventValue Payload} {queue : List (EventValue Payload)}
      {arm : EventArm} : config.phase = .selecting → config.queue = event :: queue →
        program.matchArm config.fsm.state event.variant = some arm →
          LoopMove program representable config .recvBranch
            (arm.invoke event { config with queue })
  | closed : config.phase = .selecting → config.queue = [] → config.handles = 0 →
      LoopMove program representable config .recvBranch
        { config with phase := .returned (.ok config.fsm.context) }
  | handlerPending {call : HandlerCall} {argument : Option Payload}
      {entry after : FsmInstance Context} : config.phase = .calling call argument entry →
        config.cancelled = false → after.state ∈ program.stateEnum →
          LoopMove program representable config (.handlerPending after)
            { config with fsm := after }
  | handlerReady {call : HandlerCall} {argument : Option Payload}
      {entry after : FsmInstance Context} {output : HandlerOutput Failure}
      {result : Except Failure Ident} : config.phase = .calling call argument entry →
        after.state ∈ program.stateEnum → call.Returns output →
          call.returnKind.dispatch output = some result →
            LoopMove program representable config (.handlerReady after output)
              (applyResult config after result)
  | handlerCancelled {call : HandlerCall} {argument : Option Payload}
      {entry after : FsmInstance Context} : config.phase = .calling call argument entry →
        config.cancelled = true → after.state ∈ program.stateEnum →
          LoopMove program representable config (.handlerCancelled after)
            { config with fsm := after, phase := .returned (.ok after.context) }
  | handlerPanics {call : HandlerCall} {argument : Option Payload}
      {entry : FsmInstance Context} : config.phase = .calling call argument entry →
        LoopMove program representable config .handlerPanics
          { config with phase := .panicked }
  | publish : config.phase = .publishing →
      LoopMove program representable config .publish
        { config with
          watch := config.watch.send config.handles config.fsm.state
          phase := .rearming }
  | abort : config.phase.Suspended → LoopMove program representable config .abort
      { config with phase := .aborted }
  | dropReceiver : config.phase.Ended → config.receiverDropped = false →
      LoopMove program representable config .dropReceiver
        { config with queue := [], receiverDropped := true }
  | dropSender : config.phase.Ended → config.watch.closed = false →
      LoopMove program representable config .dropSender
        { config with watch := config.watch.close }

section Moves

variable {program : GeneratedFsm} {representable : Nat → Bool}
  {config next : Config Context Payload Failure}

/-- Every step of the task is one of the moves. -/
theorem LoopMove.of_loopStep {action : LoopAction Context Failure}
    (taken : loopStep program representable config action = some next) :
    LoopMove program representable config action next := by
  unfold loopStep at taken
  split at taken
  next isStarting =>
    cases taken
    exact .start isStarting
  next isRearming =>
    cases taken
    unfold resetTimeoutForCurrentState
    dsimp only
    split
    next fits => exact .rearm isRearming fits
    next overflows => exact .overflow isRearming (Bool.eq_false_iff.mpr overflows)
  next isSelecting =>
    split at taken
    next idle =>
      cases taken
      exact .wait isSelecting idle.1 idle.2.1 idle.2.2
    next => cases taken
  next isSelecting =>
    cases taken
    exact .outOfBudget (by rw [isSelecting]; trivial)
  next isCalling =>
    cases taken
    exact .outOfBudget (by rw [isCalling]; trivial)
  next isSelecting =>
    split at taken
    next isDue =>
      split at taken
      next noLogic =>
        cases taken
        exact .expiredUnhandled isSelecting isDue noLogic
      next call logic =>
        cases taken
        exact .expired isSelecting isDue logic
    next => cases taken
  next isSelecting =>
    split at taken
    next isCancelled =>
      cases taken
      exact .cancelled isSelecting isCancelled
    next => cases taken
  next isSelecting =>
    split at taken
    next event queue queued =>
      split at taken
      next noArm =>
        cases taken
        exact .unmatched isSelecting queued noArm
      next arm found =>
        cases taken
        exact .matched isSelecting queued found
    next isEmpty =>
      split at taken
      next isClosed =>
        cases taken
        exact .closed isSelecting isEmpty isClosed
      next => cases taken
  next isCalling =>
    split at taken
    next allowed =>
      cases taken
      exact .handlerPending isCalling allowed.1 allowed.2
    next => cases taken
  next isCalling =>
    split at taken
    next allowed =>
      rcases Option.map_eq_some_iff.mp taken with ⟨result, dispatched, rfl⟩
      exact .handlerReady isCalling allowed.1 allowed.2 dispatched
    next => cases taken
  next isCalling =>
    split at taken
    next allowed =>
      cases taken
      exact .handlerCancelled isCalling allowed.1 allowed.2
    next => cases taken
  next isCalling =>
    cases taken
    exact .handlerPanics isCalling
  next isPublishing =>
    cases taken
    exact .publish isPublishing
  next =>
    split at taken
    next isSuspended =>
      cases taken
      exact .abort isSuspended
    next => cases taken
  next =>
    split at taken
    next allowed =>
      cases taken
      exact .dropReceiver allowed.1 allowed.2
    next => cases taken
  next =>
    split at taken
    next allowed =>
      cases taken
      exact .dropSender allowed.1 allowed.2
    next => cases taken
  next => cases taken

/-- Every move is possible. -/
theorem LoopMove.loopStep_eq {action : LoopAction Context Failure}
    (move : LoopMove program representable config action next) :
    loopStep program representable config action = some next := by
  cases move with
  | start isStarting => simp [loopStep, isStarting]
  | rearm isRearming fits => simp [loopStep, isRearming, resetTimeoutForCurrentState, fits]
  | overflow isRearming overflows =>
      simp [loopStep, isRearming, resetTimeoutForCurrentState, overflows]
  | wait isSelecting notCancelled isEmpty hasHandle =>
      simp [loopStep, isSelecting, notCancelled, isEmpty, hasHandle]
  | outOfBudget selects =>
      rcases selects.cases with isSelecting | ⟨call, argument, entry, isCalling⟩
      · simp [loopStep, isSelecting]
      · simp [loopStep, isCalling]
  | expiredUnhandled isSelecting isDue noLogic =>
      simp [loopStep, isSelecting, isDue, noLogic]
  | expired isSelecting isDue logic => simp [loopStep, isSelecting, isDue, logic]
  | cancelled isSelecting isCancelled => simp [loopStep, isSelecting, isCancelled]
  | unmatched isSelecting queued noArm => simp [loopStep, isSelecting, queued, noArm]
  | matched isSelecting queued found => simp [loopStep, isSelecting, queued, found]
  | closed isSelecting isEmpty isClosed => simp [loopStep, isSelecting, isEmpty, isClosed]
  | handlerPending isCalling notCancelled typed =>
      simp [loopStep, isCalling, notCancelled, typed]
  | handlerReady isCalling typed returns dispatched =>
      simp [loopStep, isCalling, typed, returns, dispatched]
  | handlerCancelled isCalling isCancelled typed =>
      simp [loopStep, isCalling, isCancelled, typed]
  | handlerPanics isCalling => simp [loopStep, isCalling]
  | publish isPublishing => simp [loopStep, isPublishing]
  | abort isSuspended => simp [loopStep, isSuspended]
  | dropReceiver isEnded receiverLeft => simp [loopStep, isEnded, receiverLeft]
  | dropSender isEnded senderLeft => simp [loopStep, isEnded, senderLeft]

theorem LoopMove.step_eq {action : LoopAction Context Failure}
    (move : LoopMove program representable config action next) :
    step program representable config (.loop action) = some next :=
  move.loopStep_eq

/-- Nothing happens after the end but the dropping of channels. -/
theorem LoopMove.of_ended {action : LoopAction Context Failure}
    (move : LoopMove program representable config action next)
    (ended : config.phase.Ended) :
    (action = .dropReceiver ∨ action = .dropSender) ∧ next.phase = config.phase ∧
      next.fsm = config.fsm ∧ next.watch.value = config.watch.value ∧
        next.deadline = config.deadline := by
  cases move with
  | dropReceiver => exact ⟨.inl rfl, rfl, rfl, rfl, rfl⟩
  | dropSender => exact ⟨.inr rfl, rfl, rfl, rfl, rfl⟩
  | abort isSuspended =>
      cases phaseEq : config.phase <;> simp_all [Phase.Ended, Phase.Suspended]
  | outOfBudget selects => exact (selects.not_ended ended).elim
  | start phaseEq | rearm phaseEq | overflow phaseEq | wait phaseEq
  | expiredUnhandled phaseEq | expired phaseEq | cancelled phaseEq | unmatched phaseEq
  | matched phaseEq | closed phaseEq | handlerPending phaseEq | handlerReady phaseEq
  | handlerCancelled phaseEq | handlerPanics phaseEq | publish phaseEq =>
      rw [phaseEq] at ended
      exact ended.elim

theorem LoopMove.notEnded_of {action : LoopAction Context Failure}
    (move : LoopMove program representable config action next) (notEnded : ¬ next.phase.Ended) :
    ¬ config.phase.Ended := by
  intro ended
  rw [(move.of_ended ended).2.1] at notEnded
  exact notEnded ended

/-- Time, handles and the token are not the task's to change. -/
theorem LoopMove.frame {action : LoopAction Context Failure}
    (move : LoopMove program representable config action next) :
    next.clock = config.clock ∧ next.handles = config.handles ∧
      next.cancelled = config.cancelled := by
  cases move with
  | @handlerReady _ _ _ _ _ result =>
      cases result with
      | ok target => exact ⟨rfl, rfl, rfl⟩
      | error error => exact ⟨rfl, rfl, rfl⟩
  | _ => exact ⟨rfl, rfl, rfl⟩

/-- A call in flight was in flight before, or has just been made. -/
theorem LoopMove.calling_cases {action : LoopAction Context Failure} {call : HandlerCall}
    {argument : Option Payload} {entry : FsmInstance Context}
    (move : LoopMove program representable config action next)
    (isCalling : next.phase = .calling call argument entry) :
    config.phase = .calling call argument entry ∨
      (action = .timerBranch ∧ config.phase = .selecting ∧ config.deadline ≤ config.clock ∧
        program.timeoutLogic = some call ∧ argument = none ∧ entry = config.fsm) ∨
      (action = .recvBranch ∧ config.phase = .selecting ∧
        ∃ event queue arm, config.queue = event :: queue ∧
          program.matchArm config.fsm.state event.variant = some arm ∧ arm.call = call ∧
            argument = (if call.passesPayload then event.payload else none) ∧
              entry = config.fsm) := by
  cases move with
  | expired isSelecting isDue logic =>
      cases isCalling
      exact .inr (.inl ⟨rfl, isSelecting, isDue, logic, rfl, rfl⟩)
  | @matched event queue arm isSelecting queued found =>
      cases isCalling
      exact .inr (.inr ⟨rfl, isSelecting, event, queue, arm, queued, found, rfl, rfl, rfl⟩)
  | @handlerReady _ _ _ _ _ result =>
      cases result with
      | ok target => cases isCalling
      | error error => cases isCalling
  | wait | outOfBudget | expiredUnhandled | unmatched | handlerPending | dropReceiver
  | dropSender => exact .inl isCalling
  | start | rearm | overflow | cancelled | closed | handlerCancelled | handlerPanics | publish
  | abort => cases isCalling

/-- The events an action of the environment sends. -/
def EnvironmentAction.sent : EnvironmentAction Payload → List (EventValue Payload)
  | .send event => [event]
  | _ => []

/-- The environment leaves the task alone: it appends to the queue, lets time
pass, moves handles and cancels. -/
structure EnvironmentMove (program : GeneratedFsm) (config : Config Context Payload Failure)
    (sent : List (EventValue Payload)) (next : Config Context Payload Failure) : Prop where
  fsm_eq : next.fsm = config.fsm
  phase_eq : next.phase = config.phase
  deadline_eq : next.deadline = config.deadline
  watch_eq : next.watch = config.watch
  receiverDropped_eq : next.receiverDropped = config.receiverDropped
  queue_eq : next.queue = config.queue ++ sent
  clock_le : config.clock ≤ next.clock
  cancelled_of : config.cancelled = true → next.cancelled = true
  handles_of : config.handles = 0 → next.handles = 0
  sent_of : sent ≠ [] → 0 < config.handles ∧ config.receiverDropped = false
  accepts : ∀ event ∈ sent, program.Accepts event

theorem EnvironmentMove.of_environmentStep {action : EnvironmentAction Payload}
    (taken : environmentStep program config action = some next) :
    EnvironmentMove program config action.sent next := by
  cases action with
  | advance nanos =>
      cases taken
      exact ⟨rfl, rfl, rfl, rfl, rfl, (List.append_nil _).symm, Nat.le_add_right _ _, id, id,
        fun sent => absurd rfl sent, fun _ sent => absurd sent List.not_mem_nil⟩
  | send event =>
      simp only [environmentStep] at taken
      split at taken
      next allowed =>
        cases taken
        exact ⟨rfl, rfl, rfl, rfl, rfl, rfl, Nat.le_refl _, id, id,
          fun _ => ⟨allowed.1, allowed.2.1⟩,
          fun _ sent => by rw [List.mem_singleton.mp sent]; exact allowed.2.2.2⟩
      next => cases taken
  | cloneHandle =>
      simp only [environmentStep] at taken
      split at taken
      next hasHandle =>
        cases taken
        exact ⟨rfl, rfl, rfl, rfl, rfl, (List.append_nil _).symm, Nat.le_refl _, id,
          fun none => by omega, fun sent => absurd rfl sent,
          fun _ sent => absurd sent List.not_mem_nil⟩
      next => cases taken
  | dropHandle =>
      simp only [environmentStep] at taken
      split at taken
      next hasHandle =>
        cases taken
        exact ⟨rfl, rfl, rfl, rfl, rfl, (List.append_nil _).symm, Nat.le_refl _, id,
          fun none => by omega, fun sent => absurd rfl sent,
          fun _ sent => absurd sent List.not_mem_nil⟩
      next => cases taken
  | shutdown =>
      simp only [environmentStep] at taken
      split at taken
      next hasHandle =>
        cases taken
        exact ⟨rfl, rfl, rfl, rfl, rfl, (List.append_nil _).symm, Nat.le_refl _, fun _ => rfl,
          id, fun sent => absurd rfl sent, fun _ sent => absurd sent List.not_mem_nil⟩
      next => cases taken
  | cancelAncestor =>
      cases taken
      exact ⟨rfl, rfl, rfl, rfl, rfl, (List.append_nil _).symm, Nat.le_refl _, fun _ => rfl,
        id, fun sent => absurd rfl sent, fun _ sent => absurd sent List.not_mem_nil⟩

theorem EnvironmentMove.notCancelled_of {sent : List (EventValue Payload)}
    (move : EnvironmentMove program config sent next) (notCancelled : next.cancelled = false) :
    config.cancelled = false := by
  by_contra isCancelled
  rw [move.cancelled_of (by simpa using isCancelled)] at notCancelled
  cases notCancelled

/-- A value of the return type has a dispatch, and a transition goes to a
state of the return type. -/
theorem HandlerCall.Returns.dispatch {call : HandlerCall} {output : HandlerOutput Failure}
    (returns : call.Returns output) :
    ∃ result, call.returnKind.dispatch output = some result ∧
      ∀ state, result = .ok state → state ∈ call.handler.targets := by
  cases output with
  | transition target =>
      rcases returns with ⟨kindEq, found⟩
      refine ⟨.ok target, by rw [kindEq]; rfl, fun state equal => ?_⟩
      rw [← Except.ok.inj equal]
      exact List.mem_of_getElem? found
  | ok target =>
      rcases returns with ⟨kindEq | kindEq, found⟩
      all_goals
        refine ⟨.ok target, by rw [kindEq]; rfl, fun state equal => ?_⟩
        rw [← Except.ok.inj equal]
        exact List.mem_of_getElem? found
  | errTransition target =>
      rcases returns with ⟨kindEq, found⟩
      refine ⟨.ok target, by rw [kindEq]; rfl, fun state equal => ?_⟩
      rw [← Except.ok.inj equal]
      exact List.mem_of_getElem? found
  | errFailure error =>
      have kindEq : call.returnKind = .resultError := returns
      exact ⟨.error error, by rw [kindEq]; rfl, nofun⟩

/-- Only an error value makes the task return an error. -/
theorem HandlerReturnKind.dispatch_eq_error {returnKind : HandlerReturnKind}
    {output : HandlerOutput Failure} {error : Failure}
    (dispatched : returnKind.dispatch output = some (.error error)) :
    output = .errFailure error := by
  unfold dispatch at dispatched
  split at dispatched <;> cases dispatched
  rfl

/-- Every state of a return type can be returned. -/
theorem HandlerCall.exists_returns (Failure : Type) {call : HandlerCall} {target : Ident}
    (arity : call.handler.targets.length = call.returnKind.arity)
    (targetMem : target ∈ call.handler.targets) :
    ∃ output : HandlerOutput Failure, call.Returns output ∧
      call.returnKind.dispatch output = some (.ok target) := by
  cases kindEq : call.returnKind with
  | transition =>
      rw [kindEq] at arity
      rcases List.length_eq_one_iff.mp arity with ⟨only, targetsEq⟩
      obtain rfl : target = only := by simpa [targetsEq] using targetMem
      exact ⟨.transition target, ⟨kindEq, by rw [targetsEq]; rfl⟩, rfl⟩
  | resultTransition =>
      rw [kindEq] at arity
      rcases List.length_eq_two.mp arity with ⟨okState, errState, targetsEq⟩
      have either : target = okState ∨ target = errState := by simpa [targetsEq] using targetMem
      rcases either with rfl | rfl
      · exact ⟨.ok target, ⟨Or.inl kindEq, by rw [targetsEq]; rfl⟩, rfl⟩
      · exact ⟨.errTransition target, ⟨kindEq, by rw [targetsEq]; rfl⟩, rfl⟩
  | resultError =>
      rw [kindEq] at arity
      rcases List.length_eq_one_iff.mp arity with ⟨only, targetsEq⟩
      obtain rfl : target = only := by simpa [targetsEq] using targetMem
      exact ⟨.ok target, ⟨Or.inr kindEq, by rw [targetsEq]; rfl⟩, rfl⟩

end Moves

end TokioFsm
