import TokioFsm.StateTimer

/-!
# Transitions are all or nothing

A handler that completes with a transition changes the state, what the watch
channel publishes and the timer together, before the loop does anything else.
One that completes with an error, or is cancelled, ends the task and changes
neither the published state nor the timer.  The states published are therefore
the targets of the completed transitions, in order.
-/

namespace TokioFsm

open StepRuns WatchChannel

variable {Context Payload Failure : Type}

/-- What a handle reads from its receiver. -/
def Config.currentState (config : Config Context Payload Failure) : Ident :=
  config.watch.value

/-- The states the watch channel has held, from the one it was made with. -/
def publishedStates (initial : Config Context Payload Failure)
    (trace : List (Moment Context Payload Failure)) : List Ident :=
  initial.currentState :: trace.filterMap Moment.published

/-- The targets of the transitions applied. -/
def targetsOf (trace : List (Moment Context Payload Failure)) : List Ident :=
  (trace.filterMap Moment.transition).map Prod.snd

/-- A transition whose target is about to be published. -/
def Config.unpublished (config : Config Context Payload Failure) : List Ident :=
  match config.phase with
  | .publishing => [config.fsm.state]
  | _ => []

/-- The handles have seen the target of every transition, and see the last. -/
structure Published (program : GeneratedFsm)
    (trace : List (Moment Context Payload Failure))
    (config : Config Context Payload Failure) : Prop where
  targets : 0 < config.handles →
    trace.filterMap Moment.published ++ config.unpublished = targetsOf trace
  value : config.watch.value =
    (trace.filterMap Moment.published).getLast?.getD program.initialState

section Publishing

variable {program : GeneratedFsm} {representable : Nat → Bool}
  {initial config next last : Config Context Payload Failure}
  {trace : List (Moment Context Payload Failure)}

theorem targetsOf_snoc_none {moment : Moment Context Payload Failure}
    (noTransition : moment.transition = none) :
    targetsOf (trace ++ [moment]) = targetsOf trace := by
  simp [targetsOf, List.filterMap_append, noTransition]

theorem targetsOf_snoc_some {moment : Moment Context Payload Failure} {source target : Ident}
    (transition : moment.transition = some (source, target)) :
    targetsOf (trace ++ [moment]) = targetsOf trace ++ [target] := by
  simp [targetsOf, List.filterMap_append, transition]

theorem lastTarget_eq (program : GeneratedFsm)
    (trace : List (Moment Context Payload Failure)) :
    lastTarget program trace = (targetsOf trace).getLast?.getD program.initialState := by
  rw [lastTarget, targetsOf, List.getLast?_map]

/-- Moves that neither publish nor apply a transition. -/
theorem Published.snoc {moment : Moment Context Payload Failure}
    (published : Published program trace config) (noTransition : moment.transition = none)
    (notPublished : moment.published = none)
    (handlesLe : 0 < next.handles → 0 < config.handles)
    (sameUnpublished : next.unpublished = config.unpublished)
    (sameValue : next.watch.value = config.watch.value) :
    Published program (trace ++ [moment]) next := by
  have samePublished : (trace ++ [moment]).filterMap Moment.published =
      trace.filterMap Moment.published := by
    simp [List.filterMap_append, notPublished]
  constructor
  · intro hasHandle
    rw [samePublished, sameUnpublished, targetsOf_snoc_none noTransition]
    exact published.targets (handlesLe hasHandle)
  · rw [samePublished, sameValue]
    exact published.value

theorem Executes.published
    (executes : Executes program representable initial trace last) :
    Published program trace last := by
  induction executes using Executes.rec_moves with
  | spawned _ begin =>
      constructor
      · intro _
        simp [Config.unpublished, begin.phase_eq, targetsOf]
      · simp [begin.watch_eq]
  | environment trace middle action last _ _ move published =>
      refine published.snoc rfl rfl ?_ ?_ ?_
      · intro hasHandle
        have handlesOf := move.handles_of
        omega
      · rw [Config.unpublished, Config.unpublished, move.phase_eq, move.fsm_eq]
      · rw [move.watch_eq]
  | loop trace middle action last _ _ move published =>
      cases move with
      | publish isPublishing =>
          have pending : middle.unpublished = [middle.fsm.state] := by
            rw [Config.unpublished, isPublishing]
          by_cases noHandle : middle.handles = 0
          · refine ⟨fun hasHandle => absurd hasHandle (by simp [noHandle]), ?_⟩
            have value := published.value
            simp [List.filterMap_append, Moment.published, noHandle, Channel.send, value]
          · have targets := published.targets (Nat.pos_of_ne_zero noHandle)
            rw [pending] at targets
            refine ⟨fun _ => ?_, ?_⟩
            · rw [targetsOf_snoc_none rfl, ← targets]
              simp [List.filterMap_append, Moment.published, noHandle, Config.unpublished]
            · simp [List.filterMap_append, Moment.published, noHandle, Channel.send]
      | @handlerReady call argument entry after output result isCalling typed returns
          dispatched =>
          have nothingPending : middle.unpublished = [] := by
            rw [Config.unpublished, isCalling]
          cases result with
          | error error =>
              refine published.snoc ?_ rfl id ?_ rfl
              · exact Moment.transition_handlerReady isCalling dispatched after
              · rw [nothingPending]
                rfl
          | ok target =>
              have transition : Moment.transition (middle, .loop (.handlerReady after output)) =
                  some (entry.state, target) :=
                Moment.transition_handlerReady isCalling dispatched after
              refine ⟨fun hasHandle => ?_, ?_⟩
              · have targets := published.targets hasHandle
                rw [targetsOf_snoc_some transition, ← targets, nothingPending]
                simp [List.filterMap_append, Moment.published, Config.unpublished, applyResult]
              · have value := published.value
                simpa [List.filterMap_append, Moment.published, applyResult] using value
      | start isStarting | rearm isStarting | overflow isStarting | expired isStarting
      | cancelled isStarting | matched isStarting | closed isStarting
      | handlerPending isStarting | handlerCancelled isStarting | handlerPanics isStarting =>
          refine published.snoc rfl rfl id ?_ rfl
          simp [Config.unpublished, isStarting, EventArm.invoke]
      | wait | outOfBudget | expiredUnhandled | unmatched =>
          exact published.snoc rfl rfl id rfl rfl
      | abort isSuspended =>
          refine published.snoc rfl rfl id ?_ rfl
          cases phaseEq : middle.phase <;> simp_all [Config.unpublished, Phase.Suspended]
      | dropReceiver | dropSender => exact published.snoc rfl rfl id rfl rfl

end Publishing

section Accepted

variable {crates : Crates} {args : FsmArgs} {block : ItemImpl}
  (machine : AcceptedFsm crates args block) {representable : Nat → Bool}
  {initial last : Config Context Payload Failure}
  {trace : List (Moment Context Payload Failure)}

/-- After a completed transition the loop is not back at its outer `select!`
before state, published state and timer all stand for the target. -/
theorem Executes.transition_shows
    (executes : Executes machine.program representable initial trace last)
    {before after : List (Moment Context Payload Failure)}
    {moment : Moment Context Payload Failure} {source target : Ident}
    (cut : trace = before ++ moment :: after)
    (transition : moment.transition = some (source, target))
    (noneLater : ∀ later ∈ after, Moment.transition later = none)
    (isSelecting : last.phase = .selecting) :
    last.fsm.state = target ∧ (0 < last.handles → last.currentState = target) ∧
      ∃ reading, LastEntered after target reading ∧
        ∀ nanos, machine.fsm.TimeoutOf target nanos → last.deadline = reading + nanos := by
  have target_eq : lastTarget machine.program trace = target := by
    rw [cut, List.append_cons, lastTarget_append_none noneLater, lastTarget_snoc_some transition]
  have stateEq : last.fsm.state = target := by
    rw [← Config.loopState_of_selecting isSelecting, ← target_eq]
    exact executes.loopState_eq (by rw [isSelecting]; exact id)
  refine ⟨stateEq, ?_, ?_⟩
  · intro hasHandle
    have published := executes.published
    have targets := published.targets hasHandle
    rw [Config.unpublished, isSelecting, List.append_nil] at targets
    rw [Config.currentState, published.value, targets, ← lastTarget_eq, target_eq]
  · have armed := executes.armed (by rw [isSelecting]; trivial)
    rw [Config.loopState_of_selecting isSelecting, stateEq, cut] at armed
    rcases armed with ⟨reading, entered, -, deadlineEq⟩
    refine ⟨reading, entered.of_append (by simp [transition]), fun nanos timeout => ?_⟩
    rw [machine.timeoutOf_iff.mp timeout, deadlineEq]

/-- A completed transition shows in state, published state and timer before
the loop goes on; an error or a cancellation ends the task with nothing
changed; and the handles see the initial state and the targets of the
transitions in order. -/
theorem transitions_atomic
    (executes : Executes machine.program representable initial trace last) :
    (∀ before config after output middle call argument entry target,
      trace = before ++ (config, .loop (.handlerReady after output)) :: middle →
        config.phase = .calling call argument entry →
          call.returnKind.dispatch output = some (.ok target) →
            (∀ moment ∈ middle, Moment.transition moment = none) →
              last.phase = .selecting →
                last.fsm.state = target ∧ (0 < last.handles → last.currentState = target) ∧
                  ∃ reading, LastEntered middle target reading ∧
                    ∀ nanos, machine.fsm.TimeoutOf target nanos →
                      last.deadline = reading + nanos) ∧
    (∀ before config after output later call argument entry error,
      trace = before ++ (config, .loop (.handlerReady after output)) :: later →
        config.phase = .calling call argument entry →
          call.returnKind.dispatch output = some (.error error) →
            last.phase = .returned (.error error) ∧
              last.currentState = config.currentState ∧ last.deadline = config.deadline ∧
                ∀ moment ∈ later, Moment.Outside moment) ∧
    (∀ before config after later,
      trace = before ++ (config, .loop (.handlerCancelled after)) :: later →
        last.phase = .returned (.ok after.context) ∧
          last.currentState = config.currentState ∧ last.deadline = config.deadline ∧
            ∀ moment ∈ later, Moment.Outside moment) ∧
    (0 < last.handles → last.phase ≠ .publishing →
      publishedStates initial trace = machine.program.initialState :: targetsOf trace) ∧
    (0 < last.handles → last.phase.Ended →
      some last.currentState =
        (machine.program.initialState :: targetsOf trace).getLast?) := by
  have published := executes.published
  have allPublished (hasHandle : 0 < last.handles) (notPublishing : last.phase ≠ .publishing) :
      trace.filterMap Moment.published = targetsOf trace := by
    have targets := published.targets hasHandle
    have nothingPending : last.unpublished = [] := by
      cases phaseEq : last.phase <;> simp_all [Config.unpublished]
    rwa [nothingPending, List.append_nil] at targets
  refine ⟨?_, ?_, ?_, ?_, ?_⟩
  · intro before config after output middle call argument entry target cut isCalling
      dispatched noneLater isSelecting
    exact executes.transition_shows machine cut
      (Moment.transition_handlerReady isCalling dispatched after) noneLater isSelecting
  · intro before config after output later call argument entry error cut isCalling dispatched
    rcases executes.moment cut with ⟨-, next, taken, fromNext⟩
    have nextEq : next = applyResult config after (.error error) := by
      cases LoopMove.of_loopStep taken with
      | handlerReady isCalling' typed returns dispatched' =>
          rw [isCalling] at isCalling'
          cases isCalling'
          rw [dispatched] at dispatched'
          cases dispatched'
          rfl
    subst next
    rcases run_of_ended fromNext trivial with ⟨phaseEq, -, valueEq, deadlineEq, outside⟩
    exact ⟨phaseEq, valueEq, deadlineEq, outside⟩
  · intro before config after later cut
    rcases executes.moment cut with ⟨-, next, taken, fromNext⟩
    cases LoopMove.of_loopStep taken with
    | handlerCancelled isCalling isCancelled typed =>
        rcases run_of_ended fromNext trivial with ⟨phaseEq, -, valueEq, deadlineEq, outside⟩
        exact ⟨phaseEq, valueEq, deadlineEq, outside⟩
  · intro hasHandle notPublishing
    have isInitial : initial.currentState = machine.program.initialState := by
      rw [Config.currentState, executes.spawned_initial.watch_eq]
    rw [publishedStates, allPublished hasHandle notPublishing, isInitial]
  · intro hasHandle ended
    have notPublishing : last.phase ≠ .publishing := by
      intro isPublishing
      rw [isPublishing] at ended
      exact ended
    rw [Config.currentState, published.value, allPublished hasHandle notPublishing,
      List.getLast?_cons]

end Accepted

/-- The worker's handle sees it start to work and become idle again. -/
theorem transitions_atomic_worker :
    ∃ trace last, Executes worker.program (fun _ => true) workerInitial trace last ∧
      publishedStates workerInitial trace = ["Idle", "Working", "Idle"] := by
  have cut : workerRun.1 = workerRun.1.take 12 ++
      ((workerRun.1.get ⟨12, by decide⟩).1, (workerRun.1.get ⟨12, by decide⟩).2) ::
        workerRun.1.drop 13 := rfl
  have executes := (workerRun_executes.moment cut).1
  refine ⟨_, _, executes, ?_⟩
  rw [(transitions_atomic worker executes).2.2.2.1 (by decide) nofun]
  decide

end TokioFsm
