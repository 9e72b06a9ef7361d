import TokioFsm.ClientSession
import TokioFsm.EntryTimes
import TokioFsm.Draining

/-!
# Driving a machine in lock step

If every event of a session is handled where it is sent, and leads to one state
that is another one, then an answered wait means that the machine has come to
rest: nothing is queued, it is in the state waited for, and has published no
other state since the event was sent.  A self-transition cannot be awaited, since
its state is there already when the wait begins.
-/

namespace TokioFsm

open StepRuns WatchChannel

variable {Context Payload Failure : Type}

/-! ## Moves in a turn -/

section Turns

variable {crates : Crates} {args : FsmArgs} {block : ItemImpl}
  (machine : AcceptedFsm crates args block)

/-- The event is handled here, and leads to the state that is waited for. -/
structure AcceptedFsm.Leads (here : Ident) (turn : Turn Payload) : Prop where
  accepted : machine.program.Accepts turn.event
  handled : ∃ handler, machine.fsm.handlers.find?
      (fun handler => decide (handler.Handles here turn.event.variant)) = some handler ∧
    ∀ target ∈ handler.targets, target = turn.target
  moves : turn.target ≠ here

/-- Each turn begins where the one before has led. -/
def AcceptedFsm.Drives : Ident → List (Turn Payload) → Prop
  | _, [] => True
  | here, turn :: turns => machine.Leads here turn ∧ AcceptedFsm.Drives turn.target turns

/-- The timer calls no handler. -/
def NoTimeoutCall (program : GeneratedFsm) (trace : List (Moment Context Payload Failure)) :
    Prop :=
  ∀ moment ∈ trace, moment.2 = .loop .timerBranch → program.timeoutLogic = none

/-- The loop is between two transitions. -/
def Phase.Settled : Phase Context Payload Failure → Prop
  | .starting | .rearming | .selecting => True
  | _ => False

/-- The machine has nothing to do, and everyone can see where it is. -/
structure Resting (here : Ident) (config : Config Context Payload Failure) : Prop where
  settled : config.phase.Settled
  queue_eq : config.queue = []
  state_eq : config.fsm.state = here
  value_eq : config.watch.value = here

/-- Between the sending of an event and the answer of the wait. -/
inductive Serving (here : Ident) (turn : Turn Payload)
    (config : Config Context Payload Failure) : Prop
  | queued : config.phase.Settled → config.queue = [turn.event] → config.fsm.state = here →
      config.watch.value = here → Serving here turn config
  | calling {call : HandlerCall} {argument : Option Payload} {entry : FsmInstance Context} :
      config.phase = .calling call argument entry → config.queue = [] →
        (∀ target ∈ call.handler.targets, target = turn.target) → config.watch.value = here →
          Serving here turn config
  | publishing : config.phase = .publishing → config.queue = [] →
      config.fsm.state = turn.target → config.watch.value = here → Serving here turn config
  | arrived : Resting turn.target config → Serving here turn config
  | ended : config.phase.Ended →
      config.watch.value = here ∨ config.watch.value = turn.target → Serving here turn config

variable {machine} {representable : Nat → Bool} {here : Ident} {turn : Turn Payload}
  {config next : Config Context Payload Failure} {action : LoopAction Context Failure}

theorem Phase.Settled.notEnded {phase : Phase Context Payload Failure} (settled : phase.Settled) :
    ¬ phase.Ended := by
  intro ended
  cases phase with
  | starting | rearming | selecting => exact ended
  | calling | publishing | returned | panicked | aborted => exact settled

/-- A machine at rest stays where it is, or ends. -/
theorem LoopMove.resting (move : LoopMove machine.program representable config action next)
    (resting : Resting here config)
    (noTimeout : action = .timerBranch → machine.program.timeoutLogic = none) :
    (Resting here next ∨ next.phase.Ended) ∧ next.watch.value = config.watch.value ∧
      Moment.published (config, .loop action) = none := by
  obtain ⟨settled, queueEq, stateEq, valueEq⟩ := resting
  cases move with
  | start | rearm => exact ⟨.inl ⟨trivial, queueEq, stateEq, valueEq⟩, rfl, rfl⟩
  | wait | outOfBudget | expiredUnhandled =>
      exact ⟨.inl ⟨settled, queueEq, stateEq, valueEq⟩, rfl, rfl⟩
  | overflow | cancelled | closed | abort => exact ⟨.inr trivial, rfl, rfl⟩
  | expired _ _ logic =>
      rw [noTimeout rfl] at logic
      cases logic
  | unmatched _ queued | matched _ queued =>
      rw [queueEq] at queued
      cases queued
  | handlerPending isCalling | handlerReady isCalling | handlerCancelled isCalling
  | handlerPanics isCalling =>
      rw [isCalling] at settled
      exact settled.elim
  | publish isPublishing =>
      rw [isPublishing] at settled
      exact settled.elim
  | dropReceiver isEnded | dropSender isEnded => exact absurd isEnded settled.notEnded

/-- The event in the queue is received by its handler. -/
theorem LoopMove.serving_of_queued
    (move : LoopMove machine.program representable config action next)
    (leads : machine.Leads here turn) (settled : config.phase.Settled)
    (queueEq : config.queue = [turn.event]) (stateEq : config.fsm.state = here)
    (valueEq : config.watch.value = here)
    (noTimeout : action = .timerBranch → machine.program.timeoutLogic = none) :
    Serving here turn next ∧ next.watch.value = config.watch.value ∧
      Moment.published (config, .loop action) = none := by
  cases move with
  | start | rearm => exact ⟨.queued trivial queueEq stateEq valueEq, rfl, rfl⟩
  | outOfBudget | expiredUnhandled =>
      exact ⟨.queued settled queueEq stateEq valueEq, rfl, rfl⟩
  | overflow | cancelled | abort => exact ⟨.ended trivial (.inl valueEq), rfl, rfl⟩
  | expired _ _ logic =>
      rw [noTimeout rfl] at logic
      cases logic
  | wait _ _ isEmpty | closed _ isEmpty =>
      rw [queueEq] at isEmpty
      cases isEmpty
  | unmatched _ queued noArm =>
      obtain ⟨rfl, rfl⟩ := List.cons.inj (queueEq.symm.trans queued)
      obtain ⟨handler, found, -⟩ := leads.handled
      obtain ⟨arm, matched, -⟩ := machine.exists_arm found
      rw [stateEq, matched] at noArm
      cases noArm
  | @matched event queue arm _ queued matched =>
      obtain ⟨rfl, rfl⟩ := List.cons.inj (queueEq.symm.trans queued)
      obtain ⟨handler, found, toTarget⟩ := leads.handled
      have isHandler := (machine.matchArm_eq_some matched).1
      rw [stateEq, found] at isHandler
      obtain rfl := Option.some.inj isHandler
      exact ⟨.calling rfl rfl toTarget valueEq, rfl, rfl⟩
  | handlerPending isCalling | handlerReady isCalling | handlerCancelled isCalling
  | handlerPanics isCalling =>
      rw [isCalling] at settled
      exact settled.elim
  | publish isPublishing =>
      rw [isPublishing] at settled
      exact settled.elim
  | dropReceiver isEnded | dropSender isEnded => exact absurd isEnded settled.notEnded

/-- The handler in flight leads to the state that is waited for. -/
theorem LoopMove.serving_of_calling {call : HandlerCall} {argument : Option Payload}
    {entry : FsmInstance Context}
    (move : LoopMove machine.program representable config action next)
    (isCalling : config.phase = .calling call argument entry) (queueEq : config.queue = [])
    (toTarget : ∀ target ∈ call.handler.targets, target = turn.target)
    (valueEq : config.watch.value = here) :
    Serving here turn next ∧ next.watch.value = config.watch.value ∧
      Moment.published (config, .loop action) = none := by
  cases move with
  | handlerPending | outOfBudget =>
      exact ⟨.calling isCalling queueEq toTarget valueEq, rfl, rfl⟩
  | @handlerReady _ _ _ _ _ result isCalling' _ returns dispatched =>
      obtain ⟨rfl, rfl, rfl⟩ := Phase.calling.inj (isCalling.symm.trans isCalling')
      cases result with
      | error error => exact ⟨.ended trivial (.inl valueEq), rfl, rfl⟩
      | ok target =>
          obtain ⟨result, resultEq, inTargets⟩ := returns.dispatch
          rw [dispatched] at resultEq
          have targetEq := toTarget target (inTargets target (Option.some.inj resultEq).symm)
          exact ⟨.publishing rfl queueEq targetEq valueEq, rfl, rfl⟩
  | handlerCancelled | handlerPanics | abort => exact ⟨.ended trivial (.inl valueEq), rfl, rfl⟩
  | start phaseEq | rearm phaseEq | overflow phaseEq | wait phaseEq | expiredUnhandled phaseEq
  | expired phaseEq | cancelled phaseEq | unmatched phaseEq | matched phaseEq | closed phaseEq
  | publish phaseEq =>
      rw [isCalling] at phaseEq
      cases phaseEq
  | dropReceiver isEnded | dropSender isEnded =>
      rw [isCalling] at isEnded
      exact isEnded.elim

theorem LoopMove.serving_of_publishing (here : Ident)
    (move : LoopMove machine.program representable config action next)
    (isPublishing : config.phase = .publishing) (queueEq : config.queue = [])
    (stateEq : config.fsm.state = turn.target) (hasHandle : config.handles = 1) :
    Serving here turn next ∧ next.watch.value = turn.target ∧
      Moment.published (config, .loop action) = some turn.target := by
  cases move with
  | publish =>
      have sent : (config.watch.send config.handles config.fsm.state).value = turn.target := by
        rw [hasHandle, stateEq]
        rfl
      refine ⟨.arrived ⟨trivial, queueEq, stateEq, sent⟩, sent, ?_⟩
      rw [Moment.published, hasHandle, stateEq]
      rfl
  | abort isSuspended =>
      rw [isPublishing] at isSuspended
      exact isSuspended.elim
  | outOfBudget selects =>
      rw [isPublishing] at selects
      exact selects.elim
  | start phaseEq | rearm phaseEq | overflow phaseEq | wait phaseEq | expiredUnhandled phaseEq
  | expired phaseEq | cancelled phaseEq | unmatched phaseEq | matched phaseEq | closed phaseEq
  | handlerPending phaseEq | handlerReady phaseEq | handlerCancelled phaseEq
  | handlerPanics phaseEq =>
      rw [isPublishing] at phaseEq
      cases phaseEq
  | dropReceiver isEnded | dropSender isEnded =>
      rw [isPublishing] at isEnded
      exact isEnded.elim

/-- A move of the task in a turn publishes nothing, or the state that is waited
for. -/
theorem LoopMove.serving (move : LoopMove machine.program representable config action next)
    (leads : machine.Leads here turn) (serving : Serving here turn config)
    (hasHandle : config.handles = 1)
    (noTimeout : action = .timerBranch → machine.program.timeoutLogic = none) :
    Serving here turn next ∧
      (next.watch.value = config.watch.value ∧ Moment.published (config, .loop action) = none ∨
        config.watch.value = here ∧ next.watch.value = turn.target ∧
          Moment.published (config, .loop action) = some turn.target) := by
  cases serving with
  | queued settled queueEq stateEq valueEq =>
      obtain ⟨serving, quiet⟩ :=
        move.serving_of_queued leads settled queueEq stateEq valueEq noTimeout
      exact ⟨serving, .inl quiet⟩
  | calling isCalling queueEq toTarget valueEq =>
      obtain ⟨serving, quiet⟩ := move.serving_of_calling isCalling queueEq toTarget valueEq
      exact ⟨serving, .inl quiet⟩
  | publishing isPublishing queueEq stateEq valueEq =>
      obtain ⟨serving, published⟩ :=
        move.serving_of_publishing here isPublishing queueEq stateEq hasHandle
      exact ⟨serving, .inr ⟨valueEq, published⟩⟩
  | arrived resting =>
      obtain ⟨stays | ended, quiet⟩ := move.resting resting noTimeout
      · exact ⟨.arrived stays, .inl quiet⟩
      · refine ⟨.ended ended (.inr ?_), .inl quiet⟩
        rw [quiet.1]
        exact resting.value_eq
  | ended isEnded valueCases =>
      obtain ⟨isDrop, samePhase, -, sameValue, -⟩ := move.of_ended isEnded
      rw [← samePhase] at isEnded
      rw [← sameValue] at valueCases
      refine ⟨.ended isEnded valueCases, .inl ⟨sameValue, ?_⟩⟩
      obtain rfl | rfl := isDrop
      · rfl
      · rfl

end Turns

/-! ## The session as a whole -/

/-- Where the turns so far have led. -/
def Session.here (initialState : Ident) (session : Session Context Payload Failure) : Ident :=
  (session.finished.map Turn.target).getLast?.getD initialState

/-- The client is in the middle of a turn, and has seen the state it waits for
only if it is published. -/
inductive Session.Awaits (turn : Turn Payload) (session : Session Context Payload Failure) : Prop
  | sent : session.point = .sent → session.Awaits turn
  | waiting {index : Nat} {waiter : Waiter Ident} : session.point = .waiting index →
      session.observed.waiters[index]? = some waiter → waiter.target = turn.target →
        waiter.Active → (waiter.Saw fun state => state = turn.target →
          session.observed.machine.watch.value = turn.target) → session.Awaits turn

/-- How the client and the machine stand to each other. -/
inductive InStep (here : Ident) (session : Session Context Payload Failure)
    (published : List Ident) : Prop
  | ready : session.point = .ready → published = session.finished.map Turn.target →
      (Resting here session.observed.machine ∨ session.observed.machine.phase.Ended ∧
        session.observed.machine.watch.value = here) → InStep here session published
  | serving {turn : Turn Payload} {turns : List (Turn Payload)} :
      session.ahead = turn :: turns → session.Awaits turn →
        Serving here turn session.observed.machine →
          published = session.finished.map Turn.target ++
            (if session.observed.machine.watch.value = here then [] else [turn.target]) →
              InStep here session published
  | failed : session.point = .failed → published = session.finished.map Turn.target →
      session.observed.machine.phase.Ended → InStep here session published

section Accepted

variable {crates : Crates} {args : FsmArgs} {block : ItemImpl}
  (machine : AcceptedFsm crates args block) {representable : Nat → Bool}
  {initial : Config Context Payload Failure} {turns ahead : List (Turn Payload)}
  {session next last : Session Context Payload Failure} {turn : Turn Payload} {here : Ident}
  {trace : List (Session Context Payload Failure × SessionAction Context Failure)}
  {published : List Ident}

/-- The turns are taken in order, from a state in which the next one can be. -/
structure Orderly (turns : List (Turn Payload)) (session : Session Context Payload Failure)
    (published : List Ident) : Prop where
  turns_eq : session.finished ++ session.ahead = turns
  drives : machine.Drives (session.here machine.fsm.initialState) session.ahead
  handles_eq : session.observed.machine.handles = 1
  inStep : InStep (session.here machine.fsm.initialState) session published

variable {machine}

theorem Session.Awaits.busy (awaits : session.Awaits turn) :
    session.point ≠ .ready ∧ session.point ≠ .failed := by
  cases awaits with
  | sent isSent => simp [isSent]
  | waiting isWaiting => simp [isWaiting]

/-- What the client has seen is still published. -/
theorem Session.Awaits.later {config : Config Context Payload Failure}
    (awaits : session.Awaits turn)
    (stays : session.observed.machine.watch.value = turn.target →
      config.watch.value = turn.target) :
    Session.Awaits turn
      { session with observed := { session.observed with machine := config } } := by
  cases awaits with
  | sent isSent => exact .sent isSent
  | waiting isWaiting found targetEq active saw =>
      exact .waiting isWaiting found targetEq active (saw.mono fun _ seen isTarget =>
        stays (seen isTarget))

theorem InStep.loop {action : LoopAction Context Failure}
    {config : Config Context Payload Failure} (inStep : InStep here session published)
    (drives : machine.Drives here session.ahead)
    (hasHandle : session.observed.machine.handles = 1)
    (move : LoopMove machine.program representable session.observed.machine action config)
    (noTimeout : action = .timerBranch → machine.program.timeoutLogic = none) :
    InStep here { session with observed := { session.observed with machine := config } }
      (published ++
        (Moment.published (session.observed.machine, .loop action)).toList) := by
  cases inStep with
  | ready isReady publishedEq stands =>
      obtain resting | ⟨isEnded, valueEq⟩ := stands
      · obtain ⟨rests, sameValue, quiet⟩ := move.resting resting noTimeout
        rw [quiet, Option.toList_none, List.append_nil]
        refine .ready isReady publishedEq (rests.imp_right fun ended => ⟨ended, ?_⟩)
        rw [sameValue]
        exact resting.value_eq
      · obtain ⟨isDrop, samePhase, -, sameValue, -⟩ := move.of_ended isEnded
        rw [← samePhase] at isEnded
        rw [← sameValue] at valueEq
        obtain rfl | rfl := isDrop
        all_goals
          refine .ready isReady ?_ (.inr ⟨isEnded, valueEq⟩)
          rw [publishedEq]
          exact List.append_nil _
  | @serving turn turns aheadEq awaits serving publishedEq =>
      rw [aheadEq] at drives
      obtain ⟨serves, quiet | ⟨wasHere, isTarget, publishes⟩⟩ :=
        move.serving drives.1 serving hasHandle noTimeout
      · obtain ⟨sameValue, none⟩ := quiet
        refine .serving aheadEq (awaits.later fun seen => ?_) serves ?_
        · rw [sameValue]
          exact seen
        · rw [none, sameValue, Option.toList_none, List.append_nil]
          exact publishedEq
      · refine .serving aheadEq (awaits.later fun _ => isTarget) serves ?_
        rw [publishes, isTarget, publishedEq, if_pos wasHere, if_neg drives.1.moves,
          List.append_nil]
        rfl
  | failed isFailed publishedEq isEnded =>
      obtain ⟨isDrop, samePhase, -⟩ := move.of_ended isEnded
      rw [← samePhase] at isEnded
      obtain rfl | rfl := isDrop
      all_goals
        refine .failed isFailed ?_ isEnded
        rw [publishedEq]
        exact List.append_nil _

theorem EnvironmentMove.resting {config changed : Config Context Payload Failure}
    (move : EnvironmentMove machine.program config [] changed) (resting : Resting here config) :
    Resting here changed where
  settled := by
    rw [move.phase_eq]
    exact resting.settled
  queue_eq := by
    rw [move.queue_eq, resting.queue_eq]
    rfl
  state_eq := by
    rw [move.fsm_eq]
    exact resting.state_eq
  value_eq := by
    rw [move.watch_eq]
    exact resting.value_eq

theorem EnvironmentMove.serving {config changed : Config Context Payload Failure}
    (move : EnvironmentMove machine.program config [] changed)
    (serving : Serving here turn config) : Serving here turn changed := by
  have sameQueue := move.queue_eq
  rw [List.append_nil] at sameQueue
  cases serving with
  | queued settled queueEq stateEq valueEq =>
      apply Serving.queued
      · rwa [move.phase_eq]
      · rwa [sameQueue]
      · rwa [move.fsm_eq]
      · rwa [move.watch_eq]
  | calling isCalling queueEq toTarget valueEq =>
      refine .calling (move.phase_eq.trans isCalling) ?_ toTarget ?_
      · rwa [sameQueue]
      · rwa [move.watch_eq]
  | publishing isPublishing queueEq stateEq valueEq =>
      apply Serving.publishing
      · rwa [move.phase_eq]
      · rwa [sameQueue]
      · rwa [move.fsm_eq]
      · rwa [move.watch_eq]
  | arrived resting => exact .arrived (move.resting resting)
  | ended isEnded valueCases =>
      apply Serving.ended
      · rwa [move.phase_eq]
      · rwa [move.watch_eq]

theorem InStep.elapse {config : Config Context Payload Failure}
    (inStep : InStep here session published)
    (move : EnvironmentMove machine.program session.observed.machine [] config) :
    InStep here { session with observed := { session.observed with machine := config } }
      published := by
  cases inStep with
  | ready isReady publishedEq stands =>
      refine .ready isReady publishedEq (stands.imp move.resting fun ended => ?_)
      rwa [move.phase_eq, move.watch_eq]
  | serving aheadEq awaits serving publishedEq =>
      refine .serving aheadEq (awaits.later fun seen => ?_) (move.serving serving) ?_
      · rwa [move.watch_eq]
      · rwa [move.watch_eq]
  | failed isFailed publishedEq isEnded =>
      refine .failed isFailed publishedEq ?_
      rwa [move.phase_eq]

theorem InStep.stands (inStep : InStep here session published)
    (isReady : session.point = .ready) :
    published = session.finished.map Turn.target ∧
      (Resting here session.observed.machine ∨ session.observed.machine.phase.Ended ∧
        session.observed.machine.watch.value = here) := by
  cases inStep with
  | ready _ publishedEq stands => exact ⟨publishedEq, stands⟩
  | serving _ awaits => exact absurd isReady awaits.busy.1
  | failed isFailed =>
      rw [isReady] at isFailed
      cases isFailed

theorem InStep.send {config : Config Context Payload Failure}
    (inStep : InStep here session published) (isReady : session.point = .ready)
    (aheadEq : session.ahead = turn :: ahead)
    (move : EnvironmentMove machine.program session.observed.machine [turn.event] config) :
    InStep here { session with
      observed := { session.observed with machine := config }, point := .sent } published := by
  obtain ⟨publishedEq, stands⟩ := inStep.stands isReady
  have valueEq : config.watch.value = here := by
    rw [move.watch_eq]
    exact stands.elim Resting.value_eq And.right
  refine .serving aheadEq (.sent rfl) ?_ ?_
  · obtain ⟨settled, queueEq, stateEq, -⟩ | ⟨isEnded, -⟩ := stands
    · refine .queued ?_ ?_ ?_ valueEq
      · rwa [move.phase_eq]
      · rw [move.queue_eq, queueEq]
        rfl
      · rwa [move.fsm_eq]
    · refine .ended ?_ (.inl valueEq)
      rwa [move.phase_eq]
  · rw [publishedEq, if_pos valueEq, List.append_nil]

theorem InStep.midTurn (inStep : InStep here session published)
    (aheadEq : session.ahead = turn :: ahead) (notReady : session.point ≠ .ready)
    (notFailed : session.point ≠ .failed) :
    session.Awaits turn ∧ Serving here turn session.observed.machine ∧
      published = session.finished.map Turn.target ++
        (if session.observed.machine.watch.value = here then [] else [turn.target]) := by
  cases inStep with
  | ready isReady => exact absurd isReady notReady
  | serving aheadEq' awaits serving publishedEq =>
      obtain ⟨rfl, -⟩ := List.cons.inj (aheadEq.symm.trans aheadEq')
      exact ⟨awaits, serving, publishedEq⟩
  | failed isFailed => exact absurd isFailed notFailed

theorem InStep.call (inStep : InStep here session published) (isSent : session.point = .sent)
    (aheadEq : session.ahead = turn :: ahead) :
    InStep here { session with
      observed := { session.observed with
        waiters := session.observed.waiters ++ [waitForState turn.target] }
      point := .waiting session.observed.waiters.length } published := by
  obtain ⟨-, serving, publishedEq⟩ :=
    inStep.midTurn aheadEq (by simp [isSent]) (by simp [isSent])
  exact .serving aheadEq (.waiting rfl List.getElem?_concat_length rfl trivial trivial) serving
    publishedEq

/-- The call that the client awaits. -/
theorem InStep.awaited {index : Nat} {waiter : Waiter Ident}
    (inStep : InStep here session published) (isWaiting : session.point = .waiting index)
    (aheadEq : session.ahead = turn :: ahead)
    (found : session.observed.waiters[index]? = some waiter) :
    waiter.target = turn.target ∧ (waiter.Saw fun state => state = turn.target →
        session.observed.machine.watch.value = turn.target) ∧
      Serving here turn session.observed.machine ∧
        published = session.finished.map Turn.target ++
          (if session.observed.machine.watch.value = here then [] else [turn.target]) := by
  obtain ⟨awaits, serving⟩ :=
    inStep.midTurn aheadEq (by simp [isWaiting]) (by simp [isWaiting])
  cases awaits with
  | sent isSent =>
      rw [isWaiting] at isSent
      cases isSent
  | waiting isWaiting' found' targetEq _ saw =>
      obtain rfl := ClientPoint.waiting.inj (isWaiting.symm.trans isWaiting')
      obtain rfl := Option.some.inj (found.symm.trans found')
      exact ⟨targetEq, saw, serving⟩

theorem InStep.advance {index : Nat} {waiter moved : Waiter Ident}
    (inStep : InStep here session published) (isWaiting : session.point = .waiting index)
    (aheadEq : session.ahead = turn :: ahead)
    (found : session.observed.waiters[index]? = some waiter)
    (stepped : waiter.advance session.observed.machine.watch = some moved)
    (active : moved.Active) :
    InStep here { session with observed := { session.observed with
      waiters := session.observed.waiters.set index moved } } published := by
  obtain ⟨targetEq, saw, serving, publishedEq⟩ := inStep.awaited isWaiting aheadEq found
  have foundMoved : (session.observed.waiters.set index moved)[index]? = some moved :=
    List.getElem?_set_self (List.getElem?_eq_some_iff.mp found).1
  exact .serving aheadEq (.waiting isWaiting foundMoved
    ((Waiter.advance_cases stepped).1.trans targetEq) active (saw.advance id stepped)) serving
    publishedEq

/-- An answered wait finds the machine at rest, or over. -/
theorem InStep.answered {index : Nat} {waiter moved : Waiter Ident} {waiters : List (Waiter Ident)}
    (inStep : InStep here session published) (leads : machine.Leads here turn)
    (isWaiting : session.point = .waiting index) (aheadEq : session.ahead = turn :: ahead)
    (found : session.observed.waiters[index]? = some waiter)
    (stepped : waiter.advance session.observed.machine.watch = some moved)
    (isReturned : moved.point = .returned true) :
    InStep turn.target
      { observed := { session.observed with waiters }
        finished := session.finished ++ [turn]
        ahead } published := by
  obtain ⟨targetEq, saw, serving, publishedEq⟩ := inStep.awaited isWaiting aheadEq found
  have sawTarget := saw.advance id stepped
  rw [Waiter.Saw, isReturned] at sawTarget
  have isTarget := sawTarget ((Waiter.advance_cases stepped).1.trans targetEq)
  have notHere : session.observed.machine.watch.value ≠ here := by
    rw [isTarget]
    exact leads.moves
  refine .ready rfl ?_ ?_
  · rw [publishedEq, if_neg notHere, List.map_append]
    rfl
  · cases serving with
    | arrived resting => exact .inl resting
    | ended isEnded => exact .inr ⟨isEnded, isTarget⟩
    | queued _ _ _ valueEq | calling _ _ _ valueEq | publishing _ _ _ valueEq =>
        exact absurd valueEq notHere

/-- A wait fails only if the machine ended before it got to the state. -/
theorem InStep.denied {index : Nat} {waiter moved : Waiter Ident} {waiters : List (Waiter Ident)}
    (inStep : InStep here session published)
    (sound : Sound machine.program session.observed.machine)
    (isWaiting : session.point = .waiting index) (aheadEq : session.ahead = turn :: ahead)
    (found : session.observed.waiters[index]? = some waiter)
    (tracks : Waiter.Tracks session.observed.machine.watch waiter)
    (stepped : waiter.advance session.observed.machine.watch = some moved)
    (isReturned : moved.point = .returned false) :
    InStep here { session with
      observed := { session.observed with waiters }, point := .failed } published := by
  obtain ⟨targetEq, -, serving, publishedEq⟩ := inStep.awaited isWaiting aheadEq found
  have known := tracks.advance stepped
  rw [Waiter.Tracks, isReturned] at known
  obtain ⟨isClosed, differs⟩ := known rfl
  rw [(Waiter.advance_cases stepped).1, targetEq] at differs
  have isEnded : session.observed.machine.phase.Ended := by
    by_contra notEnded
    rw [(sound.channels_open notEnded).2] at isClosed
    cases isClosed
  refine .failed rfl ?_ isEnded
  cases serving with
  | arrived resting => exact absurd resting.value_eq differs
  | ended _ valueCases =>
      rw [publishedEq, if_pos (valueCases.resolve_right differs), List.append_nil]
  | queued _ _ _ valueEq | calling _ _ _ valueEq | publishing _ _ _ valueEq =>
      rw [publishedEq, if_pos valueEq, List.append_nil]

theorem SessionMove.orderly {action : SessionAction Context Failure}
    (move : SessionMove machine.program representable session action next)
    (orderly : Orderly machine turns session published)
    (noTimeout : action = .loop .timerBranch → machine.program.timeoutLogic = none)
    (sound : Sound machine.program session.observed.machine)
    (tracks : ∀ waiter ∈ session.observed.waiters,
      Waiter.Tracks session.observed.machine.watch waiter) :
    Orderly machine turns next
      (published ++ (machineMoments [(session, action)]).filterMap Moment.published) := by
  obtain ⟨turnsEq, drives, handlesEq, inStep⟩ := orderly
  cases move with
  | @loop action config move =>
      have readOff : (machineMoments [(session, SessionAction.loop action)]).filterMap
          Moment.published =
            (Moment.published (session.observed.machine, .loop action)).toList := by
        change [(session.observed.machine, Action.loop action)].filterMap Moment.published = _
        cases published : Moment.published (session.observed.machine, .loop action) with
        | none => simp [published]
        | some state => simp [published]
      rw [readOff]
      have timely (isTimer : action = .timerBranch) : machine.program.timeoutLogic = none :=
        noTimeout (congrArg SessionAction.loop isTimer)
      exact ⟨turnsEq, drives, move.frame.2.1.trans handlesEq,
        inStep.loop drives handlesEq move timely⟩
  | @elapse nanos _ move sameHandles =>
      have nothing : (machineMoments [(session, SessionAction.elapse nanos)]).filterMap
          Moment.published = [] := rfl
      rw [nothing, List.append_nil]
      exact ⟨turnsEq, drives, sameHandles.trans handlesEq, inStep.elapse move⟩
  | refused isReady isDropped =>
      rw [published_client, List.append_nil]
      have isEnded : session.observed.machine.phase.Ended := by
        by_contra notEnded
        rw [(sound.channels_open notEnded).1] at isDropped
        cases isDropped
      exact ⟨turnsEq, drives, handlesEq, .failed rfl (inStep.stands isReady).1 isEnded⟩
  | send isReady aheadEq move sameHandles =>
      rw [published_client, List.append_nil]
      exact ⟨turnsEq, drives, sameHandles.trans handlesEq, inStep.send isReady aheadEq move⟩
  | call isSent aheadEq =>
      rw [published_client, List.append_nil]
      exact ⟨turnsEq, drives, handlesEq, inStep.call isSent aheadEq⟩
  | advance isWaiting aheadEq found stepped active =>
      rw [published_client, List.append_nil]
      exact ⟨turnsEq, drives, handlesEq,
        inStep.advance isWaiting aheadEq found stepped active⟩
  | @answered turn ahead _ _ _ isWaiting aheadEq found stepped isReturned =>
      rw [published_client, List.append_nil]
      rw [aheadEq] at drives turnsEq
      have hereEq (observed : Observed Context Payload Failure) :
          ({ observed, finished := session.finished ++ [turn], ahead } :
            Session Context Payload Failure).here machine.fsm.initialState = turn.target := by
        rw [Session.here, List.map_append, List.getLast?_append]
        rfl
      refine ⟨?_, ?_, handlesEq, ?_⟩
      · rw [← turnsEq, List.append_assoc]
        rfl
      · rw [hereEq]
        exact drives.2
      · rw [hereEq]
        exact inStep.answered drives.1 isWaiting aheadEq found stepped isReturned
  | denied isWaiting aheadEq found stepped isReturned =>
      rw [published_client, List.append_nil]
      have known := tracks _ (List.mem_of_getElem? found)
      exact ⟨turnsEq, drives, handlesEq,
        inStep.denied sound isWaiting aheadEq found known stepped isReturned⟩

theorem ExecutesSession.orderly
    (executes : ExecutesSession machine.program representable initial turns trace last)
    (drives : machine.Drives machine.fsm.initialState turns)
    (noTimeout : NoTimeoutCall machine.program (machineMoments trace)) :
    Orderly machine turns last ((machineMoments trace).filterMap Moment.published) := by
  obtain ⟨spawned, run⟩ := executes
  induction run with
  | refl =>
      obtain ⟨_, _, _, _, spawns⟩ := spawned
      have begin := Spawned.of_spawn spawns
      have valueEq : initial.watch.value = machine.fsm.initialState := by
        rw [begin.watch_eq, machine.initialState_eq]
      refine ⟨rfl, drives, begin.handles_eq,
        .ready rfl rfl (.inl ⟨?_, begin.queue_eq, ?_, valueEq⟩)⟩
      · rw [begin.phase_eq]
        trivial
      · rw [begin.state_eq, machine.initialState_eq]
        rfl
  | @snoc trace middle last action previous taken ih =>
      have toMiddle : ExecutesSession machine.program representable initial turns trace middle :=
        ⟨spawned, previous⟩
      rw [machineMoments_append] at noTimeout ⊢
      obtain ⟨before, now⟩ := List.forall_mem_append.mp noTimeout
      rw [List.filterMap_append]
      apply (SessionMove.of_sessionStep taken).orderly (ih before)
      · rintro rfl
        exact now _ (List.mem_singleton_self _) rfl
      · exact toMiddle.observed.machine.sound machine
      · exact toMiddle.observed.tracks fun executes => executes.sound machine

/-! ## Every session can be finished -/

/-- A bound on the steps to the end of the session. -/
def Session.toGo (session : Session Context Payload Failure) : Nat :=
  match session.point, session.ahead with
  | .ready, ahead => 16 * ahead.length
  | .sent, _ :: turns => 16 * turns.length + 15
  | .waiting index, turn :: turns =>
      16 * turns.length +
        if session.observed.machine.watch.value = turn.target then
          (session.observed.waiters[index]?.map fun waiter =>
            waiter.remaining session.observed.machine.watch).getD 0
        else 6 + session.observed.machine.toGo
  | _, _ => 0

theorem sessionStep_client {request : ObservedAction Context Payload Failure}
    {observed : Observed Context Payload Failure} (requested : session.request = some request)
    (taken : observedStep machine.program representable session.observed request =
      some observed) :
    sessionStep machine.program representable session .client =
      some (session.resume observed) := by
  simp only [sessionStep, requested, taken]

/-- Until the state is published the task has a move that brings it nearer. -/
theorem Serving.exists_move {config : Config Context Payload Failure}
    (serving : Serving here turn config) (leads : machine.Leads here turn)
    (sound : Sound machine.program config) (notEnded : ¬ config.phase.Ended)
    (notTarget : config.watch.value ≠ turn.target)
    (fits : ∀ deadline, representable deadline = true) :
    config.toGo ≤ 7 ∧ ∃ action next, LoopMove machine.program representable config action next ∧
      action ≠ .timerBranch ∧ ¬ next.phase.Ended ∧ next.toGo < config.toGo := by
  cases serving with
  | queued settled queueEq stateEq _ =>
      cases phaseEq : config.phase with
      | starting =>
          refine ⟨by simp [Config.toGo, phaseEq, queueEq, Phase.toGo], .start, _, .start phaseEq,
            by simp, id, ?_⟩
          simp [Config.toGo, phaseEq, Phase.toGo]
      | rearming =>
          refine ⟨by simp [Config.toGo, phaseEq, queueEq, Phase.toGo], .rearm, _,
            .rearm phaseEq (fits _), by simp, id, ?_⟩
          simp [Config.toGo, phaseEq, Phase.toGo]
      | selecting =>
          obtain ⟨handler, found, -⟩ := leads.handled
          obtain ⟨arm, matched, -⟩ := machine.exists_arm found
          rw [← stateEq] at matched
          refine ⟨by simp [Config.toGo, phaseEq, queueEq, Phase.toGo], .recvBranch, _,
            .matched phaseEq queueEq matched, by simp, id, ?_⟩
          simp [Config.toGo, phaseEq, queueEq, Phase.toGo, EventArm.invoke]
      | calling | publishing | returned | panicked | aborted =>
          rw [phaseEq] at settled
          exact settled.elim
  | @calling call argument entry isCalling queueEq _ _ =>
      obtain ⟨-, callFrom⟩ := sound.calling call argument entry isCalling
      obtain ⟨-, -, arity⟩ := machine.callFrom_spec callFrom
      have returnsState : 0 < call.handler.targets.length := by
        rw [arity]
        cases call.returnKind <;> decide
      obtain ⟨target, targetMem⟩ := List.exists_mem_of_length_pos returnsState
      obtain ⟨output, returns, dispatched⟩ := HandlerCall.exists_returns Failure arity targetMem
      refine ⟨by simp [Config.toGo, isCalling, queueEq, Phase.toGo],
        .handlerReady config.fsm output, _,
        .handlerReady isCalling sound.state_mem returns dispatched, by simp, id, ?_⟩
      simp [Config.toGo, isCalling, Phase.toGo, applyResult]
  | publishing isPublishing queueEq _ _ =>
      refine ⟨by simp [Config.toGo, isPublishing, queueEq, Phase.toGo], .publish, _,
        .publish isPublishing, by simp, id, ?_⟩
      simp [Config.toGo, isPublishing, Phase.toGo]
  | arrived resting => exact absurd resting.value_eq notTarget
  | ended isEnded => exact absurd isEnded notEnded

theorem InStep.toGo_le (inStep : InStep here session published)
    (drives : machine.Drives here session.ahead)
    (sound : Sound machine.program session.observed.machine)
    (notEnded : ¬ session.observed.machine.phase.Ended)
    (fits : ∀ deadline, representable deadline = true) :
    session.toGo ≤ 16 * session.ahead.length := by
  cases inStep with
  | ready isReady =>
      rw [Session.toGo, isReady]
  | @serving turn ahead aheadEq awaits serving =>
      rw [aheadEq] at drives ⊢
      rw [List.length_cons]
      cases awaits with
      | sent isSent =>
          simp only [Session.toGo, isSent, aheadEq]
          omega
      | @waiting index waiter isWaiting found =>
          have known := Waiter.remaining_le session.observed.machine.watch waiter
          simp only [Session.toGo, isWaiting, aheadEq, found, Option.map_some, Option.getD_some]
          split
          · omega
          next notTarget =>
            have near := (serving.exists_move drives.1 sound notEnded notTarget fits).1
            omega
  | failed _ _ isEnded => exact absurd isEnded notEnded

variable (machine) (representable) (initial) (turns) in
/-- The session goes on, and the task with it. -/
structure Ongoing (session : Session Context Payload Failure) : Prop where
  executes : ∃ trace, ExecutesSession machine.program representable initial turns trace session ∧
    NoTimeoutCall machine.program (machineMoments trace)
  notEnded : ¬ session.observed.machine.phase.Ended

theorem Ongoing.snoc {action : SessionAction Context Failure}
    (ongoing : Ongoing machine representable initial turns session)
    (taken : sessionStep machine.program representable session action = some next)
    (notTimer : action ≠ .loop .timerBranch) (notEnded : ¬ next.observed.machine.phase.Ended) :
    Ongoing machine representable initial turns next := by
  obtain ⟨⟨trace, ⟨spawned, run⟩, noTimeout⟩, -⟩ := ongoing
  refine ⟨⟨_, ⟨spawned, run.snoc taken⟩, ?_⟩, notEnded⟩
  rw [machineMoments_append]
  refine List.forall_mem_append.mpr ⟨noTimeout, ?_⟩
  intro moment momentMem isTimer
  cases action with
  | loop action =>
      obtain rfl : moment = (session.observed.machine, .loop action) :=
        List.mem_singleton.mp momentMem
      exact absurd (congrArg SessionAction.loop (Action.loop.inj isTimer)) notTimer
  | elapse nanos =>
      obtain rfl : moment = (session.observed.machine, .environment (.advance nanos)) :=
        List.mem_singleton.mp momentMem
      cases isTimer
  | client =>
      cases requested : session.request with
      | none =>
          simp [machineMoments, sessionMoment, SessionAction.observed, requested] at momentMem
      | some request =>
          obtain ⟨_, rfl⟩ | ⟨_, rfl⟩ | ⟨_, rfl⟩ := Session.request_cases requested
          all_goals
            simp [machineMoments, sessionMoment, SessionAction.observed, requested,
              machineMoment] at momentMem
          rw [momentMem] at isTimer
          cases isTimer

/-- The client can begin its next turn. -/
theorem Ongoing.exists_send (ongoing : Ongoing machine representable initial turns session)
    (isReady : session.point = .ready) (aheadEq : session.ahead = turn :: ahead)
    (leads : machine.Leads here turn) (hasHandle : session.observed.machine.handles = 1)
    (isOpen : session.observed.machine.receiverDropped = false)
    (isEmpty : session.observed.machine.queue = []) :
    ∃ next, sessionStep machine.program representable session .client = some next ∧
      Ongoing machine representable initial turns next ∧ next.toGo < session.toGo := by
  have requested : session.request = some (.machine (.environment (.send turn.event))) := by
    simp [Session.request, isReady, aheadEq, isOpen]
  have sends : observedStep machine.program representable session.observed
      (.machine (.environment (.send turn.event))) = some { session.observed with
        machine := { session.observed.machine with queue := [turn.event] } } := by
    simp [observedStep, step, environmentStep, hasHandle, isOpen, isEmpty,
      machine.channelSize_pos, leads.accepted]
  have taken := sessionStep_client requested sends
  refine ⟨_, taken, ongoing.snoc taken (by simp) ?_, ?_⟩
  · rw [Session.observed_resume]
    exact ongoing.notEnded
  · simp [Session.resume, Session.toGo, isReady, aheadEq]
    omega

end Accepted

/-! ## A worker's day -/

end TokioFsm
