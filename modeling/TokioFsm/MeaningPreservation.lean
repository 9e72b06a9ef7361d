import TokioFsm.BlockSemantics

/-!
# The generated program means what the block says

The generated program and the machine the block describes follow each other
step for step.  The program has steps of its own that nobody sees, which are
idling, polling a handler that is not done, sending the new state to the
handles, and dropping its sender; everything else corresponds, in both
directions and in every reachable state, so the two show the same traces.
-/

namespace TokioFsm

open StepRuns WeakBisimulation

variable {Context Payload Failure : Type}

/-- The task stands where the described machine stands. -/
def Stands (config : Config Context Payload Failure) (source : BlockConfig Context Payload) :
    Activity → Prop
  | .fresh => config.phase = .starting ∧ config.fsm.state = source.state ∧
      config.fsm.context = source.context
  | .entering => (config.phase = .rearming ∨ config.phase = .publishing) ∧
      config.fsm.state = source.state ∧ config.fsm.context = source.context
  | .waiting due => config.phase = .selecting ∧ config.fsm.state = source.state ∧
      config.fsm.context = source.context ∧ config.deadline = due
  | .running method => ∃ call argument entry, config.phase = .calling call argument entry ∧
      entry.state = source.state ∧ call.handler.method = method
  | .ended => config.phase.Ended

/-- The configuration is one in which the described machine is in `source`. -/
structure Mirrors (config : Config Context Payload Failure)
    (source : BlockConfig Context Payload) : Prop where
  stands : Stands config source source.activity
  mailbox_eq : source.mailbox = config.queue
  closed_eq : source.closed = config.receiverDropped
  handles_eq : source.handles = config.handles
  cancelled_eq : source.cancelled = config.cancelled
  clock_eq : source.clock = config.clock

section Mirroring

variable {crates : Crates} {args : FsmArgs} {block : ItemImpl}
  (machine : AcceptedFsm crates args block) {representable : Nat → Bool}
  {config next : Config Context Payload Failure} {source : BlockConfig Context Payload}

/-- What can be reached is what executions end in. -/
theorem exists_executes_of_reachable {program : GeneratedFsm}
    (reachable : (programSystem program representable Context Payload Failure).Reachable
      config) :
    ∃ initial trace, Executes program representable initial trace config := by
  rcases reachable with ⟨start, labels, spawned, steps⟩
  induction steps with
  | refl => exact ⟨start, [], spawned, .refl⟩
  | snoc _ step ih =>
      rcases ih with ⟨initial, trace, executes⟩
      rcases step with ⟨action, taken, -⟩
      exact ⟨initial, _, executes.snoc taken⟩

/-- What waits in the queue has been accepted. -/
theorem Executes.accepts_queued {initial : Config Context Payload Failure}
    {trace : List (Moment Context Payload Failure)} {event : EventValue Payload}
    (executes : Executes machine.program representable initial trace config)
    (isSelecting : config.phase = .selecting) (queued : event ∈ config.queue) :
    machine.program.Accepts event := by
  have isOpen := (executes.sound machine).channels_open (by rw [isSelecting]; exact id)
  apply executes.accepts
  rw [executes.conserved.accepted_eq isOpen.1]
  exact List.mem_append_right _ queued

theorem Mirrors.of_environment {sent : List (EventValue Payload)}
    {after : BlockConfig Context Payload} (mirrors : Mirrors config source)
    (move : EnvironmentMove machine.program config sent next)
    (sameActivity : after.activity = source.activity) (sameState : after.state = source.state)
    (sameContext : after.context = source.context) (sameClosed : after.closed = source.closed)
    (mailbox : after.mailbox = source.mailbox ++ sent) (handles : after.handles = next.handles)
    (cancelled : after.cancelled = next.cancelled) (clock : after.clock = next.clock) :
    Mirrors next after where
  stands := by
    have stands := mirrors.stands
    rw [sameActivity]
    cases activityEq : source.activity with
    | fresh | entering | waiting | running | ended =>
        rw [activityEq] at stands
        simp only [Stands, move.phase_eq, move.fsm_eq, move.deadline_eq, sameState, sameContext]
        exact stands
  mailbox_eq := by rw [mailbox, mirrors.mailbox_eq, move.queue_eq]
  closed_eq := by rw [sameClosed, mirrors.closed_eq, move.receiverDropped_eq]
  handles_eq := handles
  cancelled_eq := cancelled
  clock_eq := clock

/-- What happens outside happens to both. -/
theorem Mirrors.environment_forward {action : EnvironmentAction Payload}
    (mirrors : Mirrors config source)
    (taken : environmentStep machine.program config action = some next) :
    ∃ after, (blockSystem crates args block representable Context Payload Failure).step source
      (some (.environment action)) after ∧ Mirrors next after := by
  have move := EnvironmentMove.of_environmentStep taken
  cases action with
  | advance nanos =>
      cases taken
      refine ⟨_, .advance nanos, mirrors.of_environment machine move rfl rfl rfl rfl
        (List.append_nil _).symm mirrors.handles_eq mirrors.cancelled_eq ?_⟩
      simp [mirrors.clock_eq]
  | send event =>
      simp only [environmentStep] at taken
      split at taken
      next allowed =>
        cases taken
        rw [← mirrors.handles_eq, ← mirrors.closed_eq, ← mirrors.mailbox_eq,
          machine.channelSize_eq, ← machine.offers_iff] at allowed
        exact ⟨_, .send allowed.1 allowed.2.1 allowed.2.2.1 allowed.2.2.2,
          mirrors.of_environment machine move rfl rfl rfl rfl rfl mirrors.handles_eq
            mirrors.cancelled_eq mirrors.clock_eq⟩
      next => cases taken
  | cloneHandle =>
      simp only [environmentStep] at taken
      split at taken
      next hasHandle =>
        cases taken
        rw [← mirrors.handles_eq] at hasHandle
        refine ⟨_, .cloneHandle hasHandle, mirrors.of_environment machine move rfl rfl rfl rfl
          (List.append_nil _).symm ?_ mirrors.cancelled_eq mirrors.clock_eq⟩
        simp [mirrors.handles_eq]
      next => cases taken
  | dropHandle =>
      simp only [environmentStep] at taken
      split at taken
      next hasHandle =>
        cases taken
        rw [← mirrors.handles_eq] at hasHandle
        refine ⟨_, .dropHandle hasHandle, mirrors.of_environment machine move rfl rfl rfl rfl
          (List.append_nil _).symm ?_ mirrors.cancelled_eq mirrors.clock_eq⟩
        simp [mirrors.handles_eq]
      next => cases taken
  | shutdown =>
      simp only [environmentStep] at taken
      split at taken
      next hasHandle =>
        cases taken
        rw [← mirrors.handles_eq] at hasHandle
        exact ⟨_, .shutdown hasHandle, mirrors.of_environment machine move rfl rfl rfl rfl
          (List.append_nil _).symm mirrors.handles_eq rfl mirrors.clock_eq⟩
      next => cases taken
  | cancelAncestor =>
      cases taken
      exact ⟨_, .cancelAncestor, mirrors.of_environment machine move rfl rfl rfl rfl
        (List.append_nil _).symm mirrors.handles_eq rfl mirrors.clock_eq⟩

/-! ### Where the described machine stands -/

section Standing

variable {call : HandlerCall} {argument : Option Payload} {entry : FsmInstance Context}

theorem Mirrors.of_starting (mirrors : Mirrors config source)
    (isStarting : config.phase = .starting) :
    source.activity = .fresh ∧ Stands config source .fresh := by
  have stands := mirrors.stands
  cases activityEq : source.activity <;> simp_all [Stands, Phase.Ended]

theorem Mirrors.of_entering (mirrors : Mirrors config source)
    (isEntering : config.phase = .rearming ∨ config.phase = .publishing) :
    source.activity = .entering ∧ Stands config source .entering := by
  have stands := mirrors.stands
  rcases isEntering with isEntering | isEntering
  · cases activityEq : source.activity <;> simp_all [Stands, Phase.Ended]
  · cases activityEq : source.activity <;> simp_all [Stands, Phase.Ended]

theorem Mirrors.of_selecting (mirrors : Mirrors config source)
    (isSelecting : config.phase = .selecting) :
    source.activity = .waiting config.deadline ∧
      Stands config source (.waiting config.deadline) := by
  have stands := mirrors.stands
  cases activityEq : source.activity <;> simp_all [Stands, Phase.Ended]

theorem Mirrors.of_calling (mirrors : Mirrors config source)
    (isCalling : config.phase = .calling call argument entry) :
    source.activity = .running call.handler.method ∧ entry.state = source.state := by
  have stands := mirrors.stands
  cases activityEq : source.activity <;> simp_all [Stands, Phase.Ended]

theorem Mirrors.of_ended (mirrors : Mirrors config source) (ended : config.phase.Ended) :
    source.activity = .ended := by
  have stands := mirrors.stands
  cases activityEq : source.activity with
  | ended => rfl
  | fresh | entering | waiting | running =>
      rw [activityEq] at stands
      cases phaseEq : config.phase <;> simp_all [Stands, Phase.Ended]

theorem Mirrors.suspended_iff (mirrors : Mirrors config source) :
    source.activity.Suspended ↔ config.phase.Suspended := by
  have stands := mirrors.stands
  cases activityEq : source.activity with
  | fresh | waiting =>
      rw [activityEq] at stands
      simp [stands.1, Activity.Suspended, Phase.Suspended]
  | entering =>
      rw [activityEq] at stands
      rcases stands.1 with phaseEq | phaseEq
      · simp [phaseEq, Activity.Suspended, Phase.Suspended]
      · simp [phaseEq, Activity.Suspended, Phase.Suspended]
  | running =>
      rw [activityEq] at stands
      rcases stands with ⟨call, argument, entry, phaseEq, -⟩
      simp [phaseEq, Activity.Suspended, Phase.Suspended]
  | ended =>
      rw [activityEq] at stands
      cases phaseEq : config.phase <;>
        simp_all [Stands, Activity.Suspended, Phase.Suspended, Phase.Ended]

end Standing

/-! ### What the program does, the block says -/

section Forward

variable {action : LoopAction Context Failure} {after : BlockConfig Context Payload}

/-- The described machine can follow a move that shows these labels. -/
def Follows (crates : Crates) (args : FsmArgs) (block : ItemImpl) (representable : Nat → Bool)
    (source : BlockConfig Context Payload) (label : Option (BlockLabel Context Payload Failure))
    (next : Config Context Payload Failure) : Prop :=
  ∃ after, (blockSystem crates args block representable Context Payload Failure).Steps source
    label.toList after ∧ Mirrors next after

theorem Follows.of_step {label shown : Option (BlockLabel Context Payload Failure)}
    (stepped : BlockStep crates args block representable source label after)
    (mirrored : Mirrors next after) (labelEq : shown = label) :
    Follows crates args block representable source shown next := by
  rw [labelEq]
  exact ⟨after, .single stepped, mirrored⟩

theorem Follows.of_quiet {shown : Option (BlockLabel Context Payload Failure)}
    (mirrored : Mirrors next source) (labelEq : shown = none) :
    Follows crates args block representable source shown next := by
  rw [labelEq]
  exact ⟨source, .refl, mirrored⟩

theorem Mirrors.loop_forward {initial : Config Context Payload Failure}
    {trace : List (Moment Context Payload Failure)}
    (executes : Executes machine.program representable initial trace config)
    (mirrors : Mirrors config source)
    (move : LoopMove machine.program representable config action next) :
    Follows crates args block representable source
      (Moment.label machine.program representable (config, .loop action)) next := by
  rcases mirrors with ⟨stands, mailboxEq, closedEq, handlesEq, cancelledEq, clockEq⟩
  have mirrors : Mirrors config source :=
    ⟨stands, mailboxEq, closedEq, handlesEq, cancelledEq, clockEq⟩
  cases move with
  | start isStarting =>
      rcases mirrors.of_starting isStarting with ⟨activityEq, -, same⟩
      exact .of_step (.start activityEq)
        ⟨⟨.inl rfl, same⟩, mailboxEq, closedEq, handlesEq, cancelledEq, clockEq⟩ rfl
  | rearm isRearming fits =>
      rcases mirrors.of_entering (.inl isRearming) with ⟨activityEq, -, sameState, sameContext⟩
      refine .of_step (.enter activityEq (machine.waitsFor_iff.mpr rfl) ?_)
        ⟨⟨rfl, sameState, sameContext, ?_⟩, mailboxEq, closedEq, handlesEq, cancelledEq,
          clockEq⟩ ?_
      · rw [clockEq, ← sameState]
        exact fits
      · simp only [clockEq, sameState]
      · rw [← sameState]
        exact if_pos fits
  | overflow isRearming overflows =>
      rcases mirrors.of_entering (.inl isRearming) with ⟨activityEq, -, sameState, -⟩
      refine .of_step (.overflow activityEq (machine.waitsFor_iff.mpr rfl) ?_)
        ⟨trivial, mailboxEq, closedEq, handlesEq, cancelledEq, clockEq⟩ ?_
      · rw [clockEq, ← sameState]
        exact overflows
      · exact if_neg (by rw [overflows]; exact Bool.false_ne_true)
  | wait | outOfBudget => exact .of_quiet mirrors rfl
  | expiredUnhandled isSelecting isDue noLogic =>
      refine .of_quiet mirrors ?_
      rw [Moment.label, noLogic]
      rfl
  | expired isSelecting isDue logic =>
      rcases mirrors.of_selecting isSelecting with ⟨activityEq, -, sameState, -⟩
      have isTimeout := machine.timeoutLogic_method
      rw [logic] at isTimeout
      refine .of_step (.expire activityEq (by rwa [clockEq]) isTimeout.symm)
        ⟨⟨_, _, _, rfl, sameState, rfl⟩, mailboxEq, closedEq, handlesEq, cancelledEq,
          clockEq⟩ ?_
      rw [Moment.label, logic]
      rfl
  | cancelled isSelecting isCancelled =>
      rcases mirrors.of_selecting isSelecting with ⟨activityEq, -, -, sameContext, -⟩
      refine .of_step (.stop activityEq (.inl (by rwa [cancelledEq])))
        ⟨trivial, mailboxEq, closedEq, handlesEq, cancelledEq, clockEq⟩ ?_
      rw [← sameContext]
      rfl
  | @unmatched event queue isSelecting queued noArm =>
      rcases mirrors.of_selecting isSelecting with ⟨activityEq, -, sameState, same⟩
      have unhandled := machine.matchArm_method config.fsm.state event.variant
      rw [noArm, sameState] at unhandled
      refine .of_step (.ignore activityEq (mailboxEq.trans queued) unhandled.symm)
        ⟨?_, rfl, closedEq, handlesEq, cancelledEq, clockEq⟩ ?_
      · simp only [activityEq]
        exact ⟨isSelecting, sameState, same⟩
      · simp only [Moment.label, queued, noArm]
  | @matched event queue arm isSelecting queued found =>
      rcases mirrors.of_selecting isSelecting with ⟨activityEq, -, sameState, -⟩
      have declared := machine.matchArm_method config.fsm.state event.variant
      rw [found, sameState] at declared
      have accepts := executes.accepts_queued machine isSelecting
        (by rw [queued]; exact List.mem_cons_self)
      refine .of_step (.call activityEq (mailboxEq.trans queued) declared.symm)
        ⟨⟨_, _, _, rfl, sameState, rfl⟩, rfl, closedEq, handlesEq, cancelledEq, clockEq⟩ ?_
      simp only [Moment.label, queued, found, (machine.matchArm_spec accepts found).2]
  | closed isSelecting isEmpty isClosed =>
      rcases mirrors.of_selecting isSelecting with ⟨activityEq, -, -, sameContext, -⟩
      refine .of_step (.stop activityEq
          (.inr ⟨mailboxEq.trans isEmpty, handlesEq.trans isClosed⟩))
        ⟨trivial, mailboxEq, closedEq, handlesEq, cancelledEq, clockEq⟩ ?_
      simp only [Moment.label, isEmpty, sameContext]
  | handlerPending isCalling =>
      refine .of_quiet ⟨?_, mailboxEq, closedEq, handlesEq, cancelledEq, clockEq⟩ rfl
      rw [(mirrors.of_calling isCalling).1] at stands ⊢
      exact stands
  | @handlerReady call argument entry after output result isCalling typed returns dispatched =>
      rcases mirrors.of_calling isCalling with ⟨activityEq, sameState⟩
      have callFrom := (executes.sound machine |>.calling call argument entry isCalling).2
      have admits := (machine.returns_iff callFrom).mp returns
      rw [returns.dispatch_eq] at dispatched
      have outcome := Option.some.inj dispatched
      cases result with
      | ok target =>
          exact .of_step (.finish activityEq admits outcome)
            ⟨⟨.inr rfl, rfl, rfl⟩, mailboxEq, closedEq, handlesEq, cancelledEq, clockEq⟩ rfl
      | error error =>
          exact .of_step (.fail activityEq admits outcome)
            ⟨trivial, mailboxEq, closedEq, handlesEq, cancelledEq, clockEq⟩ rfl
  | handlerCancelled isCalling isCancelled =>
      have activityEq := (mirrors.of_calling isCalling).1
      exact .of_step (.interrupt activityEq (by rwa [cancelledEq]))
        ⟨trivial, mailboxEq, closedEq, handlesEq, cancelledEq, clockEq⟩ rfl
  | handlerPanics isCalling =>
      have activityEq := (mirrors.of_calling isCalling).1
      exact .of_step (.panic activityEq)
        ⟨trivial, mailboxEq, closedEq, handlesEq, cancelledEq, clockEq⟩ rfl
  | publish isPublishing =>
      refine .of_quiet ⟨?_, mailboxEq, closedEq, handlesEq, cancelledEq, clockEq⟩ rfl
      rcases mirrors.of_entering (.inr isPublishing) with ⟨activityEq, -, same⟩
      rw [activityEq]
      exact ⟨.inl rfl, same⟩
  | abort isSuspended =>
      exact .of_step (.abort (mirrors.suspended_iff.mpr isSuspended))
        ⟨trivial, mailboxEq, closedEq, handlesEq, cancelledEq, clockEq⟩ rfl
  | dropReceiver isEnded receiverLeft =>
      refine .of_step (.close (mirrors.of_ended isEnded) (by rwa [closedEq]))
        ⟨?_, rfl, rfl, handlesEq, cancelledEq, clockEq⟩ rfl
      simp only [mirrors.of_ended isEnded]
      exact isEnded
  | dropSender isEnded =>
      refine .of_quiet ⟨?_, mailboxEq, closedEq, handlesEq, cancelledEq, clockEq⟩ rfl
      rw [mirrors.of_ended isEnded]
      exact isEnded

end Forward

/-! ### What the block says, the program does -/

section Backward

variable {after : BlockConfig Context Payload}
  {label : Option (BlockLabel Context Payload Failure)}

/-- The program can follow a step that shows these labels. -/
def Executable (machine : AcceptedFsm crates args block) (representable : Nat → Bool)
    (config : Config Context Payload Failure)
    (label : Option (BlockLabel Context Payload Failure))
    (after : BlockConfig Context Payload) : Prop :=
  ∃ next, (programSystem machine.program representable Context Payload Failure).Steps config
    label.toList next ∧ Mirrors next after

theorem Executable.of_step {action : Action Context Payload Failure}
    (taken : step machine.program representable config action = some next)
    (labelEq : Moment.label machine.program representable (config, action) = label)
    (mirrored : Mirrors next after) :
    Executable machine representable config label after :=
  ⟨next, .single ⟨action, taken, labelEq.symm⟩, mirrored⟩

theorem Executable.after_quiet {middle : Config Context Payload Failure}
    {action : Action Context Payload Failure}
    (taken : step machine.program representable config action = some middle)
    (quiet : Moment.label machine.program representable (config, action) = none)
    (executable : Executable machine representable middle label after) :
    Executable machine representable config label after := by
  rcases executable with ⟨next, steps, mirrored⟩
  have silent : (programSystem machine.program representable Context Payload Failure).step
      config none middle := ⟨action, taken, quiet.symm⟩
  exact ⟨next, (LabelledSystem.Steps.silent silent).trans steps, mirrored⟩

/-- Before a state is entered the new state is sent to the handles. -/
theorem Mirrors.exists_rearming (mirrors : Mirrors config source)
    (isEntering : source.activity = .entering)
    (executable : ∀ middle : Config Context Payload Failure, Mirrors middle source →
      middle.phase = .rearming → Executable machine representable middle label after) :
    Executable machine representable config label after := by
  have stands := mirrors.stands
  rw [isEntering] at stands
  rcases stands with ⟨isRearming | isPublishing, same⟩
  · exact executable config mirrors isRearming
  · refine .after_quiet machine (LoopMove.step_eq (.publish isPublishing)) rfl
      (executable _ ⟨?_, mirrors.mailbox_eq, mirrors.closed_eq, mirrors.handles_eq,
        mirrors.cancelled_eq, mirrors.clock_eq⟩ rfl)
    rw [isEntering]
    exact ⟨.inl rfl, same⟩

theorem Executable.of_environment {action : EnvironmentAction Payload}
    (taken : environmentStep machine.program config action = some next)
    (mirrored : EnvironmentMove machine.program config action.sent next → Mirrors next after) :
    Executable machine representable config (some (.environment action)) after :=
  .of_step machine (show step machine.program representable config (.environment action) =
    some next from taken) rfl (mirrored (.of_environmentStep taken))

theorem Mirrors.step_backward {initial : Config Context Payload Failure}
    {trace : List (Moment Context Payload Failure)}
    (executes : Executes machine.program representable initial trace config)
    (mirrors : Mirrors config source)
    (stepped : BlockStep crates args block representable source label after) :
    Executable machine representable config label after := by
  rcases mirrors with ⟨stands, mailboxEq, closedEq, handlesEq, cancelledEq, clockEq⟩
  have mirrors : Mirrors config source :=
    ⟨stands, mailboxEq, closedEq, handlesEq, cancelledEq, clockEq⟩
  have sound := executes.sound machine
  cases stepped with
  | advance nanos =>
      exact .of_environment machine rfl fun move =>
        mirrors.of_environment machine move rfl rfl rfl rfl (List.append_nil _).symm handlesEq
          cancelledEq (by simp [clockEq])
  | @send event hasHandle isOpen fits offers =>
      rw [handlesEq] at hasHandle
      rw [closedEq] at isOpen
      rw [mailboxEq, ← machine.channelSize_eq] at fits
      rw [machine.offers_iff] at offers
      exact .of_environment machine (if_pos ⟨hasHandle, isOpen, fits, offers⟩)
        fun move => mirrors.of_environment machine move rfl rfl rfl rfl rfl handlesEq cancelledEq
          clockEq
  | cloneHandle hasHandle =>
      rw [handlesEq] at hasHandle
      exact .of_environment machine (if_pos hasHandle) fun move =>
        mirrors.of_environment machine move rfl rfl rfl rfl (List.append_nil _).symm
          (by simp [handlesEq]) cancelledEq clockEq
  | dropHandle hasHandle =>
      rw [handlesEq] at hasHandle
      exact .of_environment machine (if_pos hasHandle) fun move =>
        mirrors.of_environment machine move rfl rfl rfl rfl (List.append_nil _).symm
          (by simp [handlesEq]) cancelledEq clockEq
  | shutdown hasHandle =>
      rw [handlesEq] at hasHandle
      exact .of_environment machine (if_pos hasHandle) fun move =>
        mirrors.of_environment machine move rfl rfl rfl rfl (List.append_nil _).symm handlesEq rfl
          clockEq
  | cancelAncestor =>
      exact .of_environment machine rfl fun move =>
        mirrors.of_environment machine move rfl rfl rfl rfl (List.append_nil _).symm handlesEq rfl
          clockEq
  | start isFresh =>
      rw [isFresh] at stands
      exact .of_step machine (LoopMove.step_eq (.start stands.1)) rfl
        ⟨⟨.inl rfl, stands.2⟩, mailboxEq, closedEq, handlesEq, cancelledEq, clockEq⟩
  | enter isEntering waits fits =>
      apply mirrors.exists_rearming machine isEntering
      intro middle mirrored isRearming
      obtain rfl := machine.waitsFor_iff.mp waits
      have stands := mirrored.stands
      rw [isEntering] at stands
      rw [← stands.2.1, mirrored.clock_eq] at fits
      refine .of_step machine (LoopMove.step_eq (.rearm isRearming fits)) ?_
        ⟨⟨rfl, stands.2.1, stands.2.2, ?_⟩, mirrored.mailbox_eq, mirrored.closed_eq,
          mirrored.handles_eq, mirrored.cancelled_eq, mirrored.clock_eq⟩
      · rw [← stands.2.1]
        exact if_pos fits
      · simp only [stands.2.1, mirrored.clock_eq]
  | overflow isEntering waits overflows =>
      apply mirrors.exists_rearming machine isEntering
      intro middle mirrored isRearming
      obtain rfl := machine.waitsFor_iff.mp waits
      have stands := mirrored.stands
      rw [isEntering] at stands
      rw [← stands.2.1, mirrored.clock_eq] at overflows
      refine .of_step machine (LoopMove.step_eq (.overflow isRearming overflows)) ?_
        ⟨trivial, mirrored.mailbox_eq, mirrored.closed_eq, mirrored.handles_eq,
          mirrored.cancelled_eq, mirrored.clock_eq⟩
      exact if_neg (by rw [overflows]; exact Bool.false_ne_true)
  | @ignore due event mailbox isWaiting mailed unhandled =>
      rw [isWaiting] at stands
      rcases stands with ⟨isSelecting, sameState, same⟩
      have noArm := machine.matchArm_method source.state event.variant
      rw [unhandled, Option.map_eq_none_iff, ← sameState] at noArm
      have queued := mailboxEq.symm.trans mailed
      refine .of_step machine (LoopMove.step_eq (.unmatched isSelecting queued noArm)) ?_
        ⟨?_, rfl, closedEq, handlesEq, cancelledEq, clockEq⟩
      · simp only [Moment.label, queued, noArm]
      · simp only [isWaiting]
        exact ⟨isSelecting, sameState, same⟩
  | @call due event mailbox method isWaiting mailed declared =>
      rw [isWaiting] at stands
      rcases stands with ⟨isSelecting, sameState, same⟩
      have handled := machine.matchArm_method source.state event.variant
      rw [declared, ← sameState] at handled
      rcases Option.map_eq_some_iff.mp handled with ⟨arm, found, rfl⟩
      have queued := mailboxEq.symm.trans mailed
      have accepts := executes.accepts_queued machine isSelecting
        (by rw [queued]; exact List.mem_cons_self)
      refine .of_step machine (LoopMove.step_eq (.matched isSelecting queued found)) ?_
        ⟨⟨_, _, _, rfl, sameState, rfl⟩, rfl, closedEq, handlesEq, cancelledEq, clockEq⟩
      simp only [Moment.label, queued, found, (machine.matchArm_spec accepts found).2]
  | @expire due method isWaiting isDue declared =>
      rw [isWaiting] at stands
      rcases stands with ⟨isSelecting, sameState, -, deadlineEq⟩
      have handled := machine.timeoutLogic_method
      rw [declared] at handled
      rcases Option.map_eq_some_iff.mp handled with ⟨call, logic, rfl⟩
      rw [clockEq, ← deadlineEq] at isDue
      refine .of_step machine (LoopMove.step_eq (.expired isSelecting isDue logic)) ?_
        ⟨⟨_, _, _, rfl, sameState, rfl⟩, mailboxEq, closedEq, handlesEq, cancelledEq,
          clockEq⟩
      rw [Moment.label, logic]
      rfl
  | @finish method output target context isRunning admits outcome =>
      rw [isRunning] at stands
      rcases stands with ⟨call, argument, entry, isCalling, sameState, rfl⟩
      have callFrom := (sound.calling call argument entry isCalling).2
      have returns := (machine.returns_iff callFrom).mpr admits
      have dispatched := returns.dispatch_eq
      rw [outcome] at dispatched
      let left : FsmInstance Context := { config.fsm with context }
      have typed : left.state ∈ machine.program.stateEnum := sound.state_mem
      exact .of_step machine
        (LoopMove.step_eq (.handlerReady isCalling typed returns dispatched)) rfl
        ⟨⟨.inr rfl, rfl, rfl⟩, mailboxEq, closedEq, handlesEq, cancelledEq, clockEq⟩
  | @fail method output error context isRunning admits outcome =>
      rw [isRunning] at stands
      rcases stands with ⟨call, argument, entry, isCalling, sameState, rfl⟩
      have callFrom := (sound.calling call argument entry isCalling).2
      have returns := (machine.returns_iff callFrom).mpr admits
      have dispatched := returns.dispatch_eq
      rw [outcome] at dispatched
      let left : FsmInstance Context := { config.fsm with context }
      have typed : left.state ∈ machine.program.stateEnum := sound.state_mem
      exact .of_step machine
        (LoopMove.step_eq (.handlerReady isCalling typed returns dispatched)) rfl
        ⟨trivial, mailboxEq, closedEq, handlesEq, cancelledEq, clockEq⟩
  | stop isWaiting reason =>
      rw [isWaiting] at stands
      rcases stands with ⟨isSelecting, -, sameContext, -⟩
      rw [← sameContext]
      rcases reason with isCancelled | ⟨isEmpty, isClosed⟩
      · rw [cancelledEq] at isCancelled
        exact .of_step machine (LoopMove.step_eq (.cancelled isSelecting isCancelled)) rfl
          ⟨trivial, mailboxEq, closedEq, handlesEq, cancelledEq, clockEq⟩
      · rw [mailboxEq] at isEmpty
        rw [handlesEq] at isClosed
        refine .of_step machine (LoopMove.step_eq (.closed isSelecting isEmpty isClosed)) ?_
          ⟨trivial, mailboxEq, closedEq, handlesEq, cancelledEq, clockEq⟩
        simp only [Moment.label, isEmpty]
  | @interrupt method context isRunning isCancelled =>
      rw [isRunning] at stands
      rcases stands with ⟨call, argument, entry, isCalling, sameState, rfl⟩
      rw [cancelledEq] at isCancelled
      let left : FsmInstance Context := { config.fsm with context }
      have typed : left.state ∈ machine.program.stateEnum := sound.state_mem
      exact .of_step machine
        (LoopMove.step_eq (.handlerCancelled isCalling isCancelled typed)) rfl
        ⟨trivial, mailboxEq, closedEq, handlesEq, cancelledEq, clockEq⟩
  | panic isRunning =>
      rw [isRunning] at stands
      rcases stands with ⟨call, argument, entry, isCalling, -⟩
      exact .of_step machine (LoopMove.step_eq (.handlerPanics isCalling)) rfl
        ⟨trivial, mailboxEq, closedEq, handlesEq, cancelledEq, clockEq⟩
  | abort isSuspended =>
      exact .of_step machine (LoopMove.step_eq (.abort (mirrors.suspended_iff.mp isSuspended))) rfl
        ⟨trivial, mailboxEq, closedEq, handlesEq, cancelledEq, clockEq⟩
  | close isEnded isOpen =>
      rw [isEnded] at stands
      rw [closedEq] at isOpen
      refine .of_step machine (LoopMove.step_eq (.dropReceiver stands isOpen)) rfl
        ⟨?_, rfl, rfl, handlesEq, cancelledEq, clockEq⟩
      simp only [isEnded]
      exact stands

end Backward

theorem Mirrors.of_spawn {name : Option String} {context : Context} {tokenCancelled : Bool}
    {clock : Nat}
    (spawned : machine.program.spawnNamedWithToken name context tokenCancelled clock =
      some config) :
    args.channelSize ≤ usizeMax >>> 3 ∧
      Mirrors config { state := args.initial, context, cancelled := tokenCancelled, clock } := by
  unfold GeneratedFsm.spawnNamedWithToken at spawned
  split at spawned
  next fits =>
    cases spawned
    rw [machine.channelSize_eq] at fits
    have initialEq := machine.initialState_eq.trans machine.parsedBlock.initialState_eq
    exact ⟨fits.2, ⟨⟨rfl, initialEq, rfl⟩, rfl, rfl, rfl, rfl, rfl⟩⟩
  next => cases spawned

end Mirroring

/-- The generated program and the machine the block describes are weakly
bisimilar, through a relation that equates their states, contexts, mailboxes,
deadlines and handles; they therefore show the same traces. -/
theorem meaning_preserved {crates : Crates} {args : FsmArgs} {block : ItemImpl}
    (machine : AcceptedFsm crates args block) (representable : Nat → Bool)
    (Context Payload Failure : Type) :
    Bisimulation (programSystem machine.program representable Context Payload Failure)
        (blockSystem crates args block representable Context Payload Failure) Mirrors ∧
      (programSystem machine.program representable Context Payload Failure).traces =
        (blockSystem crates args block representable Context Payload Failure).traces := by
  have bisimulation :
      Bisimulation (programSystem machine.program representable Context Payload Failure)
        (blockSystem crates args block representable Context Payload Failure) Mirrors := by
    constructor
    · constructor
      · rintro config ⟨name, context, tokenCancelled, clock, spawned⟩
        rcases Mirrors.of_spawn machine spawned with ⟨fits, mirrors⟩
        exact ⟨_, ⟨fits, context, tokenCancelled, clock, rfl⟩, mirrors⟩
      · rintro config source label next reachable - mirrors ⟨action, taken, rfl⟩
        rcases exists_executes_of_reachable reachable with ⟨initial, trace, executes⟩
        cases action with
        | environment action =>
            rcases mirrors.environment_forward machine taken with ⟨after, stepped, mirrored⟩
            exact ⟨after, .single stepped, mirrored⟩
        | loop action =>
            exact mirrors.loop_forward machine executes (.of_loopStep taken)
    · constructor
      · rintro source ⟨fits, context, cancelled, clock, rfl⟩
        rw [← machine.channelSize_eq] at fits
        let initial : Config Context Payload Failure := {
          fsm := ⟨machine.program.initialState, context, none⟩
          clock
          cancelled
          watch := { value := machine.program.initialState } }
        have spawned : machine.program.spawnNamedWithToken none context cancelled clock =
            some initial := if_pos ⟨machine.channelSize_pos, fits⟩
        exact ⟨_, ⟨none, context, cancelled, clock, spawned⟩,
          (Mirrors.of_spawn machine spawned).2⟩
      · rintro source config label after - reachable mirrors stepped
        rcases exists_executes_of_reachable reachable with ⟨initial, trace, executes⟩
        exact mirrors.step_backward machine executes stepped
  exact ⟨bisimulation, bisimulation.traces_eq⟩

end TokioFsm
