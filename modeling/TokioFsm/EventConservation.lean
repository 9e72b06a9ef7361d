import TokioFsm.GraphRefinement

/-!
# Events are conserved

The events received are a prefix of the events accepted.  A received event is
handed to the first declared handler that handles it in the current state, or
changes nothing.  A task that is neither cancelled, aborted nor failed returns
only when every handle is gone and every event has been received, with the
context that the invoked handlers made, one after the other.
-/

namespace TokioFsm

open StepRuns

variable {Context Payload Failure : Type}

/-- What was received is the beginning of what the channel has accepted, and
the rest is queued until the receiver is dropped. -/
structure Conserved (trace : List (Moment Context Payload Failure))
    (config : Config Context Payload Failure) : Prop where
  received_prefix_accepted : trace.filterMap Moment.received <+: trace.filterMap Moment.accepted
  accepted_eq : config.receiverDropped = false →
    trace.filterMap Moment.accepted = trace.filterMap Moment.received ++ config.queue

/-- Calls in order, each beginning with the context its predecessor left. -/
inductive AppliedInOrder (start : Context) :
    List (Invocation Context Payload Failure) → Context → Prop
  | nil : AppliedInOrder start [] start
  | snoc {invocations : List (Invocation Context Payload Failure)}
      {invocation : Invocation Context Payload Failure} :
      AppliedInOrder start invocations invocation.entry.context →
        AppliedInOrder start (invocations ++ [invocation]) invocation.exit.context

/-- Handlers that act on the context as a function are applied as a fold. -/
theorem AppliedInOrder.foldl {start final : Context}
    {invocations : List (Invocation Context Payload Failure)}
    (applied : AppliedInOrder start invocations final)
    (body : Handler → Option Payload → Context → Context)
    (acts : ∀ invocation ∈ invocations, invocation.exit.context =
      body invocation.call.handler invocation.argument invocation.entry.context) :
    final = invocations.foldl
      (fun context invocation => body invocation.call.handler invocation.argument context)
      start := by
  induction applied with
  | nil => rfl
  | @snoc invocations invocation _ ih =>
      rw [List.foldl_append, ← ih fun other otherMem => acts other (by simp [otherMem])]
      exact acts invocation (by simp)

/-- The handler and the argument of a call. -/
def Invocation.signature (invocation : Invocation Context Payload Failure) :
    HandlerCall × Option Payload :=
  (invocation.call, invocation.argument)

/-- While a call is in flight, only its environment acts and its body is
polled, unless the budget does not allow it. -/
def Moment.InFlight : Moment Context Payload Failure → Prop
  | (_, .environment _) | (_, .loop (.handlerPending _)) | (_, .loop .outOfBudget) => True
  | _ => False

/-- How a call may end: its body finishes, the token is cancelled, or the task
as a whole is lost. -/
def Moment.EndsCall : Moment Context Payload Failure → Prop
  | (_, .loop (.handlerReady _ _)) => True
  | (config, .loop (.handlerCancelled _)) => config.cancelled = true
  | (_, .loop .handlerPanics) | (_, .loop .abort) => True
  | _ => False

/-- A call is still in flight or has ended. -/
def CallFate (call : HandlerCall) (argument : Option Payload) (entry : FsmInstance Context)
    (after : List (Moment Context Payload Failure)) (last : Config Context Payload Failure) :
    Prop :=
  (last.phase = .calling call argument entry ∧ ∀ moment ∈ after, Moment.InFlight moment) ∨
    ∃ during ending rest, after = during ++ ending :: rest ∧
      (∀ moment ∈ during, Moment.InFlight moment) ∧
        ending.1.phase = .calling call argument entry ∧ Moment.EndsCall ending

section Conserving

variable {program : GeneratedFsm} {representable : Nat → Bool}
  {initial config next last : Config Context Payload Failure}
  {trace after : List (Moment Context Payload Failure)}

theorem accepted_environment (config : Config Context Payload Failure)
    (action : EnvironmentAction Payload) :
    (Moment.accepted (config, Action.environment action)).toList = action.sent := by
  cases action <;> rfl

/-- A move of the task takes the first event off the queue, drops the
receiver, or leaves the queue alone. -/
theorem LoopMove.queue_cases {action : LoopAction Context Failure}
    (move : LoopMove program representable config action next) :
    (∃ event, Moment.received (config, .loop action) = some event ∧
      config.phase = .selecting ∧ config.queue = event :: next.queue ∧
        next.receiverDropped = config.receiverDropped) ∨
    (Moment.received (config, .loop action) = none ∧ config.receiverDropped = false ∧
      next.receiverDropped = true) ∨
    (Moment.received (config, .loop action) = none ∧ next.queue = config.queue ∧
      next.receiverDropped = config.receiverDropped) := by
  cases move with
  | @unmatched event queue isSelecting queued =>
      exact .inl ⟨event, by rw [Moment.received, queued]; rfl, isSelecting, queued, rfl⟩
  | @matched event queue arm isSelecting queued =>
      exact .inl ⟨event, by rw [Moment.received, queued]; rfl, isSelecting, queued, rfl⟩
  | closed isSelecting isEmpty =>
      exact .inr (.inr ⟨by rw [Moment.received, isEmpty]; rfl, rfl, rfl⟩)
  | dropReceiver isEnded receiverLeft => exact .inr (.inl ⟨rfl, receiverLeft, rfl⟩)
  | @handlerReady _ _ _ _ _ result =>
      cases result with
      | ok target => exact .inr (.inr ⟨rfl, rfl, rfl⟩)
      | error error => exact .inr (.inr ⟨rfl, rfl, rfl⟩)
  | start | rearm | overflow | wait | outOfBudget | expiredUnhandled | expired | cancelled
  | handlerPending | handlerCancelled | handlerPanics | publish | abort | dropSender =>
      exact .inr (.inr ⟨rfl, rfl, rfl⟩)

/-- Only events of the generated enum are accepted. -/
theorem Executes.accepts
    (executes : Executes program representable initial trace last) :
    ∀ event ∈ trace.filterMap Moment.accepted, program.Accepts event := by
  induction executes using Executes.rec_moves with
  | spawned => simp
  | environment trace middle action last _ _ move accepts =>
      intro event eventMem
      rw [filterMap_snoc, accepted_environment] at eventMem
      rcases List.mem_append.mp eventMem with earlier | latest
      · exact accepts event earlier
      · exact move.accepts event latest
  | loop trace middle action last _ _ _ accepts =>
      intro event eventMem
      have notAccepted : Moment.accepted (middle, Action.loop action) = none := rfl
      rw [filterMap_snoc, notAccepted, Option.toList_none, List.append_nil] at eventMem
      exact accepts event eventMem

/-- A call in flight stays in flight until it ends. -/
theorem callFate_of_run {call : HandlerCall} {argument : Option Payload}
    {entry : FsmInstance Context} (run : Run (step program representable) config after last)
    (isCalling : config.phase = .calling call argument entry) :
    CallFate call argument entry after last := by
  induction run with
  | refl => exact .inl ⟨isCalling, fun _ momentMem => absurd momentMem List.not_mem_nil⟩
  | @snoc after middle last action _ taken ih =>
      rcases ih with ⟨inFlight, quiet⟩ | ⟨during, ending, rest, rfl, quiet, endingPhase, ends⟩
      · have stays (isInFlight : Moment.InFlight (middle, action)) :
            ∀ moment ∈ after ++ [(middle, action)], Moment.InFlight moment :=
          List.forall_mem_append.mpr ⟨quiet, List.forall_mem_singleton.mpr isInFlight⟩
        have isOver (ends : Moment.EndsCall (middle, action)) :
            CallFate call argument entry (after ++ [(middle, action)]) last :=
          .inr ⟨after, (middle, action), [], rfl, quiet, inFlight, ends⟩
        cases action with
        | environment action =>
            have move := EnvironmentMove.of_environmentStep taken
            exact .inl ⟨move.phase_eq.trans inFlight, stays trivial⟩
        | loop action =>
            cases LoopMove.of_loopStep taken with
            | handlerPending | outOfBudget => exact .inl ⟨inFlight, stays trivial⟩
            | handlerReady => exact isOver trivial
            | handlerCancelled _ isCancelled => exact isOver isCancelled
            | handlerPanics => exact isOver trivial
            | abort => exact isOver trivial
            | start phaseEq | rearm phaseEq | overflow phaseEq | wait phaseEq
            | expiredUnhandled phaseEq | expired phaseEq | cancelled phaseEq | unmatched phaseEq
            | matched phaseEq | closed phaseEq | publish phaseEq =>
                rw [inFlight] at phaseEq
                cases phaseEq
            | dropReceiver isEnded | dropSender isEnded =>
                rw [inFlight] at isEnded
                exact isEnded.elim
      · exact .inr
          ⟨during, ending, rest ++ [(middle, action)], by simp, quiet, endingPhase, ends⟩

/-- The task has not returned a context and never will. -/
def Phase.Lost : Phase Context Payload Failure → Prop
  | .returned (.error _) | .panicked | .aborted => True
  | _ => False

/-- The context that the calls finished so far have made. -/
def Config.loopContext (config : Config Context Payload Failure) : Context :=
  match config.phase with
  | .calling _ _ entry => entry.context
  | .returned (.ok context) => context
  | _ => config.fsm.context

/-- The call in flight, if there is one. -/
def Config.inFlight (config : Config Context Payload Failure) :
    List (HandlerCall × Option Payload) :=
  match config.phase with
  | .calling call argument _ => [(call, argument)]
  | _ => []

/-- A move of a task that is not cancelled loses the task, lets contexts and
calls be, begins a call, or finishes the call in flight. -/
theorem LoopMove.call_cases {action : LoopAction Context Failure}
    (move : LoopMove program representable config action next)
    (notCancelled : config.cancelled = false) :
    next.phase.Lost ∨
    (Moment.completed (config, .loop action) = none ∧ next.loopContext = config.loopContext ∧
      config.inFlight ++ (Moment.invoked program (config, .loop action)).toList =
        next.inFlight) ∨
    ∃ invocation, Moment.completed (config, .loop action) = some invocation ∧
      Moment.invoked program (config, .loop action) = none ∧
        config.inFlight = [invocation.signature] ∧ next.inFlight = [] ∧
          invocation.entry.context = config.loopContext ∧
            next.loopContext = invocation.exit.context := by
  have context_of_selecting (isSelecting : config.phase = .selecting) :
      config.loopContext = config.fsm.context := by
    rw [Config.loopContext, isSelecting]
  have idle_of_selecting (isSelecting : config.phase = .selecting) : config.inFlight = [] := by
    rw [Config.inFlight, isSelecting]
  cases move with
  | start phaseEq | rearm phaseEq | publish phaseEq =>
      refine .inr (.inl ⟨rfl, ?_, ?_⟩)
      · rw [Config.loopContext, Config.loopContext, phaseEq]
      · rw [Config.inFlight, phaseEq]
        rfl
  | handlerPending isCalling =>
      refine .inr (.inl ⟨rfl, ?_, ?_⟩)
      · rw [Config.loopContext, Config.loopContext, isCalling]
      · exact List.append_nil _
  | wait | outOfBudget | dropReceiver | dropSender =>
      exact .inr (.inl ⟨rfl, rfl, List.append_nil _⟩)
  | expiredUnhandled isSelecting isDue noLogic =>
      refine .inr (.inl ⟨rfl, rfl, ?_⟩)
      rw [Moment.invoked, noLogic]
      exact List.append_nil _
  | unmatched isSelecting queued noArm =>
      refine .inr (.inl ⟨rfl, rfl, ?_⟩)
      simp only [Moment.invoked, queued, List.head?_cons, Option.bind_some, noArm,
        Option.map_none, Option.toList_none, List.append_nil]
      rfl
  | closed isSelecting isEmpty =>
      refine .inr (.inl ⟨rfl, (context_of_selecting isSelecting).symm, ?_⟩)
      rw [idle_of_selecting isSelecting]
      simp [Moment.invoked, isEmpty]
      rfl
  | expired isSelecting isDue logic =>
      refine .inr (.inl ⟨rfl, (context_of_selecting isSelecting).symm, ?_⟩)
      rw [idle_of_selecting isSelecting, Moment.invoked, logic]
      rfl
  | @matched event queue arm isSelecting queued found =>
      refine .inr (.inl ⟨rfl, (context_of_selecting isSelecting).symm, ?_⟩)
      rw [idle_of_selecting isSelecting]
      simp [Moment.invoked, queued, found]
      rfl
  | cancelled isSelecting isCancelled | handlerCancelled isCalling isCancelled =>
      rw [notCancelled] at isCancelled
      cases isCancelled
  | @handlerReady call argument entry after output result isCalling typed returns dispatched =>
      cases result with
      | error error => exact .inl trivial
      | ok target =>
          refine .inr (.inr ⟨⟨call, argument, entry, after, output⟩, ?_, rfl, ?_, rfl, ?_, rfl⟩)
          · rw [Moment.completed, isCalling]
          · rw [Config.inFlight, isCalling]
            rfl
          · rw [Config.loopContext, isCalling]
  | overflow | handlerPanics | abort => exact .inl trivial

/-- The calls made are those finished, in the order of their contexts, and the
one in flight. -/
structure InOrder (program : GeneratedFsm) (start : Context)
    (trace : List (Moment Context Payload Failure)) (config : Config Context Payload Failure) :
    Prop where
  applied : AppliedInOrder start (trace.filterMap Moment.completed) config.loopContext
  invoked : trace.filterMap (Moment.invoked program) =
    (trace.filterMap Moment.completed).map Invocation.signature ++ config.inFlight

theorem Executes.inOrder (executes : Executes program representable initial trace last) :
    last.cancelled = false → ¬ last.phase.Lost →
      InOrder program initial.fsm.context trace last := by
  induction executes using Executes.rec_moves with
  | spawned _ begin =>
      intro _ _
      constructor
      · rw [Config.loopContext, begin.phase_eq]
        exact .nil
      · rw [Config.inFlight, begin.phase_eq]
        rfl
  | environment trace middle action last _ _ move inOrder =>
      intro notCancelled notLost
      rw [move.phase_eq] at notLost
      have before := move.notCancelled_of notCancelled
      have notCompleted : Moment.completed (middle, Action.environment action) = none := rfl
      have notInvoked : Moment.invoked program (middle, Action.environment action) = none := rfl
      have earlier := inOrder before notLost
      constructor
      · rw [filterMap_snoc, notCompleted, Config.loopContext, move.phase_eq, move.fsm_eq]
        simpa [Config.loopContext] using earlier.applied
      · rw [filterMap_snoc, filterMap_snoc, notCompleted, notInvoked, Config.inFlight,
          move.phase_eq]
        simpa [Config.inFlight] using earlier.invoked
  | loop trace middle action last _ _ move inOrder =>
      intro notCancelled notLost
      rw [move.frame.2.2] at notCancelled
      have before : ¬ middle.phase.Lost := by
        intro lost
        have ended : middle.phase.Ended := by
          cases phaseEq : middle.phase <;> simp_all [Phase.Lost, Phase.Ended]
        rw [(move.of_ended ended).2.1] at notLost
        exact notLost lost
      have earlier := inOrder notCancelled before
      rcases move.call_cases notCancelled with lost | ⟨notCompleted, sameContext, calls⟩ |
        ⟨invocation, completed, notInvoked, wasInFlight, idle, entered, left⟩
      · exact absurd lost notLost
      · constructor
        · rw [filterMap_snoc, notCompleted, sameContext, Option.toList_none, List.append_nil]
          exact earlier.applied
        · rw [filterMap_snoc, filterMap_snoc, notCompleted, earlier.invoked, ← calls]
          simp
      · constructor
        · rw [filterMap_snoc, completed, left]
          exact .snoc (by rw [entered]; exact earlier.applied)
        · rw [filterMap_snoc, filterMap_snoc, completed, notInvoked, earlier.invoked, wasInFlight,
            idle]
          simp

end Conserving

section Accepted

variable {crates : Crates} {args : FsmArgs} {block : ItemImpl}
  (machine : AcceptedFsm crates args block) {representable : Nat → Bool}
  {initial last : Config Context Payload Failure}
  {trace : List (Moment Context Payload Failure)}

theorem Executes.conserved
    (executes : Executes machine.program representable initial trace last) :
    Conserved trace last := by
  induction executes using Executes.rec_moves with
  | spawned _ begin =>
      refine ⟨List.prefix_refl _, fun _ => ?_⟩
      rw [begin.queue_eq]
      rfl
  | environment trace middle action last _ _ move conserved =>
      have notReceived : Moment.received (middle, Action.environment action) = none := rfl
      refine ⟨?_, fun receiverLeft => ?_⟩
      · rw [filterMap_snoc, filterMap_snoc, notReceived, Option.toList_none, List.append_nil]
        exact conserved.received_prefix_accepted.trans (List.prefix_append _ _)
      · rw [move.receiverDropped_eq] at receiverLeft
        rw [filterMap_snoc, filterMap_snoc, accepted_environment, notReceived, Option.toList_none,
          List.append_nil, move.queue_eq, conserved.accepted_eq receiverLeft, List.append_assoc]
  | loop trace middle action last executes _ move conserved =>
      have sameAccepted : (trace ++ [(middle, Action.loop action)]).filterMap Moment.accepted =
          trace.filterMap Moment.accepted := by
        rw [filterMap_snoc]
        exact List.append_nil _
      rcases move.queue_cases with ⟨event, received, isSelecting, queued, sameDropped⟩ |
        ⟨received, receiverLeft, dropped⟩ | ⟨received, sameQueue, sameDropped⟩
      · have receiverLeft := (executes.sound machine).channels_open (by rw [isSelecting]; exact id)
        have accepted := conserved.accepted_eq receiverLeft.1
        have moved : trace.filterMap Moment.accepted =
            (trace ++ [(middle, Action.loop action)]).filterMap Moment.received ++ last.queue := by
          rw [filterMap_snoc, received, accepted, queued, Option.toList_some, List.append_assoc,
            List.singleton_append]
        refine ⟨?_, fun _ => ?_⟩
        · rw [sameAccepted, moved]
          exact List.prefix_append _ _
        · rw [sameAccepted, moved]
      · refine ⟨?_, fun receiverLeft => ?_⟩
        · rw [sameAccepted, filterMap_snoc, received, Option.toList_none, List.append_nil]
          exact conserved.received_prefix_accepted
        · rw [dropped] at receiverLeft
          cases receiverLeft
      · refine ⟨?_, fun receiverLeft => ?_⟩
        · rw [sameAccepted, filterMap_snoc, received, Option.toList_none, List.append_nil]
          exact conserved.received_prefix_accepted
        · rw [sameAccepted, filterMap_snoc, received, Option.toList_none, List.append_nil,
            sameQueue]
          rw [sameDropped] at receiverLeft
          exact conserved.accepted_eq receiverLeft

/-- A value of the event enum carries a payload exactly when the handlers of
its event take one. -/
theorem AcceptedFsm.hasPayload_eq {event : EventValue Payload} {handler : Handler}
    {state : Ident} (accepts : machine.program.Accepts event)
    (handlerMem : handler ∈ machine.fsm.handlers)
    (handles : handler.Handles state event.variant) :
    handler.hasPayload = event.payload.isSome := by
  rcases accepts with ⟨declared, declaredMem, nameEq, payloadEq⟩
  rcases Option.map_eq_some_iff.mp handles.2 with ⟨own, ownEq, ownName⟩
  have declaredIn : declared ∈ declaredEvents machine.fsm.handlers := by
    rw [machine.eventEnum_eq, machine.parsedBlock.events_eq] at declaredMem
    rcases FirstSeen.mem_of_mem_recordAll declaredMem with none | declaredIn
    · exact absurd none List.not_mem_nil
    · exact declaredIn
  have ownIn : own ∈ declaredEvents machine.fsm.handlers :=
    List.mem_filterMap.mpr ⟨handler, handlerMem, ownEq⟩
  have samePayload : own.payloadType = declared.payloadType :=
    machine.parsedBlock.payloads_agree own ownIn declared declaredIn (ownName.trans nameEq.symm)
  rw [(machine.wellFormed handlerMem).hasPayload_eq, ownEq, ← payloadEq, ← samePayload]
  rfl

/-- The arm that matches belongs to the first handler declared for the event
in the state, and passes the payload on as it is. -/
theorem AcceptedFsm.matchArm_spec {event : EventValue Payload} {state : Ident}
    {arm : EventArm} (accepts : machine.program.Accepts event)
    (matched : machine.program.matchArm state event.variant = some arm) :
    (∃ earlier later, machine.fsm.handlers = earlier ++ arm.call.handler :: later ∧
      ⟨state, event.variant⟩ ∈ onAttrs crates arm.call.handler.method.attrs ∧
        ∀ handler ∈ earlier, ⟨state, event.variant⟩ ∉ onAttrs crates handler.method.attrs) ∧
      (if arm.call.passesPayload then event.payload else none) = event.payload := by
  rcases machine.handles_of_matchArm matched with ⟨handlerMem, handles⟩
  constructor
  · have found := (machine.matchArm_eq_some matched).1
    rcases (List.find?_eq_some_iff_append.mp found).2 with ⟨earlier, later, split, missed⟩
    refine ⟨earlier, later, split, ((machine.parsedFrom handlerMem).handles_iff _ _).mpr handles,
      ?_⟩
    intro handler earlierMem declared
    have otherMem : handler ∈ machine.fsm.handlers := by
      rw [split]
      exact List.mem_append_left _ earlierMem
    have otherHandles := ((machine.parsedFrom otherMem).handles_iff _ _).mp declared
    have notHandles := missed handler earlierMem
    simp [otherHandles] at notHandles
  · rw [(machine.matchArm_eq_some matched).2.2.2.2.2,
      machine.hasPayload_eq accepts handlerMem handles]
    cases event.payload with
    | none => rfl
    | some payload => rfl

/-- A context is returned only when nothing is left to receive, and an error
only when a handler returned it. -/
structure Returned (trace : List (Moment Context Payload Failure))
    (config : Config Context Payload Failure) : Prop where
  ok : ∀ context, config.phase = .returned (.ok context) → config.handles = 0 ∧
    trace.filterMap Moment.accepted = trace.filterMap Moment.received
  error : ∀ error, config.phase = .returned (.error error) →
    ∃ invocation ∈ trace.filterMap Moment.completed, invocation.output = .errFailure error

theorem Returned.of_not {trace : List (Moment Context Payload Failure)}
    {config : Config Context Payload Failure}
    (notReturned : ∀ result, config.phase ≠ .returned result) : Returned trace config where
  ok _ isReturned := absurd isReturned (notReturned _)
  error _ isReturned := absurd isReturned (notReturned _)

/-- Moments in which nothing is accepted or received keep what is known of the
result. -/
theorem Returned.snoc {config next : Config Context Payload Failure}
    {moment : Moment Context Payload Failure} (returned : Returned trace config)
    (samePhase : next.phase = config.phase)
    (handlesOf : config.handles = 0 → next.handles = 0)
    (notAccepted : config.handles = 0 → moment.accepted = none)
    (notReceived : moment.received = none) : Returned (trace ++ [moment]) next where
  ok context isReturned := by
    rw [samePhase] at isReturned
    rcases returned.ok context isReturned with ⟨noHandle, all⟩
    refine ⟨handlesOf noHandle, ?_⟩
    rw [filterMap_snoc, filterMap_snoc, notAccepted noHandle, notReceived, all]
  error error isReturned := by
    rw [samePhase] at isReturned
    rcases returned.error error isReturned with ⟨invocation, invocationMem, outputEq⟩
    refine ⟨invocation, ?_, outputEq⟩
    rw [filterMap_snoc]
    exact List.mem_append_left _ invocationMem

theorem Executes.returned
    (executes : Executes machine.program representable initial trace last) :
    last.cancelled = false → Returned trace last := by
  induction executes using Executes.rec_moves with
  | spawned _ begin =>
      intro _
      apply Returned.of_not
      intro result isReturned
      rw [begin.phase_eq] at isReturned
      cases isReturned
  | environment trace middle action last _ _ move returned =>
      intro notCancelled
      apply (returned (move.notCancelled_of notCancelled)).snoc move.phase_eq move.handles_of
      · intro noHandle
        have nothingSent : action.sent = [] := by
          by_contra sent
          have hasHandle := (move.sent_of sent).1
          omega
        rw [← Option.toList_eq_nil_iff, accepted_environment, nothingSent]
      · rfl
  | loop trace middle action last executes _ move returned =>
      intro notCancelled
      rw [move.frame.2.2] at notCancelled
      cases move with
      | closed isSelecting isEmpty noHandle =>
          refine ⟨fun context _ => ⟨noHandle, ?_⟩, fun error isReturned => by cases isReturned⟩
          have channelsOpen := (executes.sound machine).channels_open (by rw [isSelecting]; exact id)
          have all := (executes.conserved machine).accepted_eq channelsOpen.1
          have notReceived : Moment.received (middle, Action.loop .recvBranch) = none := by
            rw [Moment.received, isEmpty]
            rfl
          rw [filterMap_snoc, filterMap_snoc, notReceived, all, isEmpty, List.append_nil]
          rfl
      | @handlerReady call argument entry after output result isCalling typed returns
          dispatched =>
          cases result with
          | ok target => exact .of_not fun _ isReturned => by cases isReturned
          | error error =>
              refine ⟨fun context isReturned => ?_, fun error' isReturned => ?_⟩
              · cases isReturned
              cases isReturned
              refine ⟨⟨call, argument, entry, after, output⟩, ?_,
                HandlerReturnKind.dispatch_eq_error dispatched⟩
              rw [filterMap_snoc, Moment.completed, isCalling]
              simp
      | outOfBudget | dropReceiver | dropSender =>
          exact (returned notCancelled).snoc rfl id (fun _ => rfl) rfl
      | cancelled _ isCancelled | handlerCancelled _ isCancelled =>
          rw [notCancelled] at isCancelled
          cases isCancelled
      | wait phaseEq | expiredUnhandled phaseEq | unmatched phaseEq | handlerPending phaseEq =>
          apply Returned.of_not
          intro result isReturned
          cases phaseEq.symm.trans isReturned
      | start | rearm | overflow | expired | matched | handlerPanics | publish | abort =>
          exact .of_not fun _ isReturned => by cases isReturned

/-- Where a received event goes: to the first handler declared for it in the
current state, with its payload, or nowhere. -/
theorem Executes.received_fate
    (executes : Executes machine.program representable initial trace last)
    {before after : List (Moment Context Payload Failure)}
    {config : Config Context Payload Failure} {event : EventValue Payload}
    {queue : List (EventValue Payload)}
    (cut : trace = before ++ (config, .loop .recvBranch) :: after)
    (queued : config.queue = event :: queue) :
    (∃ call earlier later, machine.fsm.handlers = earlier ++ call.handler :: later ∧
      ⟨config.fsm.state, event.variant⟩ ∈ onAttrs crates call.handler.method.attrs ∧
      (∀ handler ∈ earlier,
        ⟨config.fsm.state, event.variant⟩ ∉ onAttrs crates handler.method.attrs) ∧
      Moment.invoked machine.program (config, .loop .recvBranch) =
        some (call, event.payload) ∧
      CallFate call event.payload config.fsm after last) ∨
    ((∀ handler ∈ machine.fsm.handlers,
      ⟨config.fsm.state, event.variant⟩ ∉ onAttrs crates handler.method.attrs) ∧
      Moment.invoked machine.program (config, .loop .recvBranch) = none ∧
      ∃ next, step machine.program representable config (.loop .recvBranch) = some next ∧
        next.fsm = config.fsm ∧ next.watch = config.watch ∧
          next.deadline = config.deadline ∧ next.phase = .selecting) := by
  rcases executes.moment cut with ⟨toConfig, next, taken, fromNext⟩
  have channelsOpen (isSelecting : config.phase = .selecting) :=
    (toConfig.sound machine).channels_open (by rw [isSelecting]; exact id)
  have accepts (isSelecting : config.phase = .selecting) : machine.program.Accepts event := by
    apply toConfig.accepts event
    rw [(toConfig.conserved machine).accepted_eq (channelsOpen isSelecting).1, queued]
    simp
  cases LoopMove.of_loopStep taken with
  | unmatched isSelecting queued' noArm =>
      rw [queued] at queued'
      cases queued'
      refine .inr ⟨?_, ?_, _, taken, rfl, rfl, rfl, isSelecting⟩
      · intro handler handlerMem declared
        exact machine.matchArm_eq_none_iff.mp noArm handler handlerMem
          (((machine.parsedFrom handlerMem).handles_iff _ _).mp declared)
      · simp [Moment.invoked, queued, noArm]
  | matched isSelecting queued' found =>
      rw [queued] at queued'
      cases queued'
      rcases machine.matchArm_spec (accepts isSelecting) found with
        ⟨⟨earlier, later, split, declared, missed⟩, argumentEq⟩
      refine .inl ⟨_, earlier, later, split, declared, missed, ?_, ?_⟩
      · simp [Moment.invoked, queued, found, argumentEq]
      · rw [← argumentEq]
        exact callFate_of_run fromNext rfl
  | closed isSelecting isEmpty =>
      rw [queued] at isEmpty
      cases isEmpty

/-- The events received are a prefix of those accepted, each goes to the one
handler declared first or nowhere, and a task that is neither cancelled nor
lost returns after all events with the context its handlers made. -/
theorem events_conserved
    (executes : Executes machine.program representable initial trace last) :
    trace.filterMap Moment.received <+: trace.filterMap Moment.accepted ∧
    (∀ before config after event queue,
      trace = before ++ (config, .loop .recvBranch) :: after → config.queue = event :: queue →
        (∃ call earlier later, machine.fsm.handlers = earlier ++ call.handler :: later ∧
          ⟨config.fsm.state, event.variant⟩ ∈ onAttrs crates call.handler.method.attrs ∧
          (∀ handler ∈ earlier,
            ⟨config.fsm.state, event.variant⟩ ∉ onAttrs crates handler.method.attrs) ∧
          Moment.invoked machine.program (config, .loop .recvBranch) =
            some (call, event.payload) ∧
          CallFate call event.payload config.fsm after last) ∨
        ((∀ handler ∈ machine.fsm.handlers,
          ⟨config.fsm.state, event.variant⟩ ∉ onAttrs crates handler.method.attrs) ∧
          Moment.invoked machine.program (config, .loop .recvBranch) = none ∧
          ∃ next, step machine.program representable config (.loop .recvBranch) = some next ∧
            next.fsm = config.fsm ∧ next.watch = config.watch ∧
              next.deadline = config.deadline ∧ next.phase = .selecting)) ∧
    (last.cancelled = false →
      (∀ invocation ∈ trace.filterMap Moment.completed, ∀ error,
        invocation.output ≠ .errFailure error) →
      ∀ result, last.phase = .returned result →
        ∃ context, result = .ok context ∧ last.handles = 0 ∧
          trace.filterMap Moment.received = trace.filterMap Moment.accepted ∧
          trace.filterMap (Moment.invoked machine.program) =
            (trace.filterMap Moment.completed).map Invocation.signature ∧
          AppliedInOrder initial.fsm.context (trace.filterMap Moment.completed) context) := by
  refine ⟨(executes.conserved machine).received_prefix_accepted, ?_, ?_⟩
  · intro before config after event queue cut queued
    exact executes.received_fate machine cut queued
  · intro notCancelled noFailure result isReturned
    cases result with
    | error error =>
        rcases (executes.returned machine notCancelled).error error isReturned with
          ⟨invocation, invocationMem, outputEq⟩
        exact absurd outputEq (noFailure invocation invocationMem error)
    | ok context =>
        rcases (executes.returned machine notCancelled).ok context isReturned with ⟨noHandle, all⟩
        have inOrder := executes.inOrder notCancelled (by rw [isReturned]; exact id)
        refine ⟨context, rfl, noHandle, all.symm, ?_, ?_⟩
        · rw [inOrder.invoked, Config.inFlight, isReturned, List.append_nil]
        · have applied := inOrder.applied
          rwa [Config.loopContext, isReturned] at applied

end Accepted

/-- Both of the worker's handlers ran, one after the other, before it
returned. -/
theorem events_conserved_worker :
    ∃ context, workerRun.2.phase = .returned (.ok context) ∧
      AppliedInOrder 0 (workerRun.1.filterMap Moment.completed) context := by
  have isReturned : workerRun.2.phase = .returned (.ok 1) := rfl
  have noFailure : ∀ invocation ∈ workerRun.1.filterMap Moment.completed, ∀ error,
      invocation.output ≠ .errFailure error := by
    intro invocation invocationMem error failed
    have outputs : (workerRun.1.filterMap Moment.completed).map Invocation.output =
        [.transition "Working", .transition "Idle"] := rfl
    have outputMem : invocation.output ∈
        (workerRun.1.filterMap Moment.completed).map Invocation.output :=
      List.mem_map_of_mem invocationMem
    rw [outputs, failed] at outputMem
    simp at outputMem
  rcases (events_conserved worker workerRun_executes).2.2 rfl noFailure _ isReturned with
    ⟨context, contextEq, -, -, -, applied⟩
  exact ⟨context, by rw [isReturned, contextEq], applied⟩

end TokioFsm
