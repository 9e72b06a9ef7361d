import TokioFsm.EventConservation

/-!
# Shutdown is cooperative

Cancelling the token makes one branch of each `select!` ready, and from then on
the task waits for nothing: it suspends only where the cooperative budget of
its poll is used up, and a handler that would wait is dropped.  The token does
not outrank the other branches, though.  An event already queued, a timer
already expired and a handler that finishes at the same poll may still be
served before the token is noticed.
-/

namespace TokioFsm

open StepRuns

variable {Context Payload Failure : Type}

/-- The task suspends. -/
def LoopAction.Suspends : LoopAction Context Failure → Prop
  | .wait | .outOfBudget | .handlerPending _ => True
  | _ => False

/-- A `select!` takes the branch of the token, and the task returns this
context. -/
def Moment.notices : Moment Context Payload Failure → Option Context
  | (config, .loop .cancelledBranch) => some config.fsm.context
  | (_, .loop (.handlerCancelled exit)) => some exit.context
  | _ => none

/-- No body is polled: the environment acts, or there is no budget. -/
def Moment.Withheld : Moment Context Payload Failure → Prop
  | (_, .environment _) | (_, .loop .outOfBudget) => True
  | _ => False

section Cancelling

variable {program : GeneratedFsm} {representable : Nat → Bool}
  {initial config next last : Config Context Payload Failure}
  {action : Action Context Payload Failure}
  {trace before after : List (Moment Context Payload Failure)}

/-- A task whose token is cancelled suspends only for want of budget, with
everything as it is. -/
theorem LoopMove.suspends_of_cancelled {action : LoopAction Context Failure}
    (move : LoopMove program representable config action next)
    (isCancelled : config.cancelled = true) (suspends : action.Suspends) :
    action = .outOfBudget ∧ next = config := by
  cases move with
  | wait _ notCancelled | handlerPending _ notCancelled =>
      rw [isCancelled] at notCancelled
      cases notCancelled
  | outOfBudget => exact ⟨rfl, rfl⟩
  | _ => exact suspends.elim

/-- Nothing takes a cancellation back. -/
theorem cancelled_of_step (taken : step program representable config action = some next)
    (isCancelled : config.cancelled = true) : next.cancelled = true := by
  cases action with
  | environment action => exact (EnvironmentMove.of_environmentStep taken).cancelled_of isCancelled
  | loop action => exact (LoopMove.of_loopStep taken).frame.2.2.trans isCancelled

theorem cancelled_of_run (run : Run (step program representable) config after last)
    (isCancelled : config.cancelled = true) : last.cancelled = true := by
  induction run with
  | refl => exact isCancelled
  | snoc _ taken ih => exact cancelled_of_step taken ih

/-- In every moment of a run that begins cancelled the token is cancelled. -/
theorem moment_of_cancelled {moment : Moment Context Payload Failure}
    (run : Run (step program representable) config after last)
    (isCancelled : config.cancelled = true) (momentMem : moment ∈ after) :
    moment.1.cancelled = true ∧
      ∃ next, step program representable moment.1 moment.2 = some next := by
  rcases List.append_of_mem momentMem with ⟨first, rest, cut⟩
  rcases run.moment cut with ⟨toMoment, next, taken, -⟩
  exact ⟨cancelled_of_run toMoment isCancelled, next, taken⟩

theorem Moment.InFlight.withheld {moment : Moment Context Payload Failure}
    (inFlight : moment.InFlight) (isCancelled : moment.1.cancelled = true)
    (taken : step program representable moment.1 moment.2 = some next) : moment.Withheld := by
  rcases moment with ⟨config, environment | loop⟩
  · trivial
  · cases loop with
    | outOfBudget => trivial
    | handlerPending =>
        have suspends := (LoopMove.of_loopStep taken).suspends_of_cancelled isCancelled trivial
        cases suspends.1
    | _ => exact inFlight.elim

/-- After cancellation the body of a handler is polled at most once more, and
its call ends with that poll. -/
theorem withheld_of_cancelled {call : HandlerCall} {argument : Option Payload}
    {entry : FsmInstance Context} (run : Run (step program representable) config after last)
    (isCancelled : config.cancelled = true)
    (isCalling : config.phase = .calling call argument entry) :
    (last.phase = .calling call argument entry ∧ ∀ moment ∈ after, Moment.Withheld moment) ∨
      ∃ during ending rest, after = during ++ ending :: rest ∧
        (∀ moment ∈ during, Moment.Withheld moment) ∧
          ending.1.phase = .calling call argument entry ∧ Moment.EndsCall ending := by
  have withheld {moment : Moment Context Payload Failure} (momentMem : moment ∈ after)
      (inFlight : moment.InFlight) : moment.Withheld := by
    rcases moment_of_cancelled run isCancelled momentMem with ⟨stillCancelled, next, taken⟩
    exact inFlight.withheld stillCancelled taken
  rcases callFate_of_run run isCalling with ⟨inFlight, quiet⟩ |
    ⟨during, ending, rest, cut, quiet, endingPhase, ends⟩
  · exact .inl ⟨inFlight, fun moment momentMem => withheld momentMem (quiet moment momentMem)⟩
  · refine .inr ⟨during, ending, rest, cut, fun moment momentMem => ?_, endingPhase, ends⟩
    exact withheld (by rw [cut]; exact List.mem_append_left _ momentMem) (quiet moment momentMem)

/-- At either `select!` a cancelled task can return at once, with its context
as it is. -/
theorem exists_notices (sound : Sound program config) (isCancelled : config.cancelled = true)
    (selects : config.phase.Selects) :
    ∃ action next, Moment.notices (config, .loop action) = some config.fsm.context ∧
      step program representable config (.loop action) = some next ∧
        next.phase = .returned (.ok config.fsm.context) := by
  rcases selects.cases with isSelecting | ⟨call, argument, entry, isCalling⟩
  · exact ⟨.cancelledBranch, _, rfl, LoopMove.step_eq (.cancelled isSelecting isCancelled), rfl⟩
  · exact ⟨.handlerCancelled config.fsm, _, rfl,
      LoopMove.step_eq (.handlerCancelled isCalling isCancelled sound.state_mem), rfl⟩

/-- Once the token is noticed the task has returned and does nothing more. -/
theorem Executes.after_notice
    (executes : Executes program representable initial trace last)
    {moment : Moment Context Payload Failure} {context : Context}
    (cut : trace = before ++ moment :: after) (noticed : moment.notices = some context) :
    last.phase = .returned (.ok context) ∧ ∀ later ∈ after, Moment.Outside later := by
  rcases moment with ⟨config, action⟩
  rcases executes.moment cut with ⟨-, next, taken, fromNext⟩
  have returned : next.phase = .returned (.ok context) := by
    unfold Moment.notices at noticed
    split at noticed
    next momentEq =>
      cases momentEq
      cases noticed
      cases LoopMove.of_loopStep taken with
      | cancelled => rfl
    next momentEq =>
      cases momentEq
      cases noticed
      cases LoopMove.of_loopStep taken with
      | handlerCancelled => rfl
    next => cases noticed
  rcases run_of_ended fromNext (by rw [returned]; trivial) with ⟨phaseEq, -, -, -, outside⟩
  exact ⟨phaseEq.trans returned, outside⟩

end Cancelling

section Accepted

variable {crates : Crates} {args : FsmArgs} {block : ItemImpl}
  (machine : AcceptedFsm crates args block) {representable : Nat → Bool}
  {initial last : Config Context Payload Failure}
  {trace : List (Moment Context Payload Failure)}

/-- After the token is cancelled the task suspends only for want of budget, and
leaves everything as it is then.  It can return its context at every `select!`,
polls the body of a handler at most once more, serves another branch only if
that is ready too, and does nothing more once a `select!` has taken the token's
branch. -/
theorem shutdown_cooperative
    (executes : Executes machine.program representable initial trace last)
    {before after : List (Moment Context Payload Failure)}
    {config : Config Context Payload Failure} {action : Action Context Payload Failure}
    (cut : trace = before ++ (config, action) :: after)
    (isCancelled : config.cancelled = true) :
    (∀ later ∈ (config, action) :: after, ∀ loopAction, later.2 = .loop loopAction →
      loopAction.Suspends → loopAction = .outOfBudget ∧
        step machine.program representable later.1 later.2 = some later.1) ∧
    (config.phase.Selects → ∃ loopAction next,
      Moment.notices (config, .loop loopAction) = some config.fsm.context ∧
        step machine.program representable config (.loop loopAction) = some next ∧
          next.phase = .returned (.ok config.fsm.context)) ∧
    (∀ call argument entry, config.phase = .calling call argument entry →
      (last.phase = .calling call argument entry ∧
        ∀ later ∈ (config, action) :: after, Moment.Withheld later) ∨
      ∃ during ending rest, (config, action) :: after = during ++ ending :: rest ∧
        (∀ later ∈ during, Moment.Withheld later) ∧
          ending.1.phase = .calling call argument entry ∧ Moment.EndsCall ending) ∧
    (action = .loop .timerBranch → config.deadline ≤ config.clock) ∧
    (action = .loop .recvBranch → config.queue ≠ [] ∨ config.handles = 0) ∧
    (∀ context, Moment.notices (config, action) = some context →
      last.phase = .returned (.ok context) ∧ ∀ later ∈ after, Moment.Outside later) := by
  rcases executes.moment cut with ⟨toConfig, next, taken, fromNext⟩
  have fromConfig : Run (step machine.program representable) config
      ((config, action) :: after) last := (Run.single taken).append fromNext
  refine ⟨?_, ?_, ?_, ?_, ?_, ?_⟩
  · intro later laterMem loopAction actionEq suspends
    rcases moment_of_cancelled fromConfig isCancelled laterMem with
      ⟨stillCancelled, afterwards, goesOn⟩
    rw [actionEq] at goesOn ⊢
    rcases (LoopMove.of_loopStep goesOn).suspends_of_cancelled stillCancelled suspends with
      ⟨isOutOfBudget, same⟩
    rw [same] at goesOn
    exact ⟨isOutOfBudget, goesOn⟩
  · exact exists_notices (toConfig.sound machine) isCancelled
  · intro call argument entry isCalling
    exact withheld_of_cancelled fromConfig isCancelled isCalling
  · rintro rfl
    cases LoopMove.of_loopStep taken with
    | expiredUnhandled isSelecting isDue => exact isDue
    | expired isSelecting isDue => exact isDue
  · rintro rfl
    cases LoopMove.of_loopStep taken with
    | unmatched _ queued => exact .inl (by simp [queued])
    | matched _ queued => exact .inl (by simp [queued])
    | closed _ _ noHandle => exact .inr noHandle
  · intro context noticed
    exact executes.after_notice cut noticed

end Accepted

/-! ## A queued event outlives the shutdown -/

/-- The worker is shut down with a job in its queue. -/
def lateActions : List (Action Nat Nat String) := [
  .loop .start, .loop .rearm,
  .environment (.send ⟨"Start", some 7⟩), .environment .shutdown,
  .loop .recvBranch, .loop (.handlerReady ⟨"Idle", 1, none⟩ (.transition "Working")),
  .loop .publish, .loop .rearm, .loop .cancelledBranch]

def lateRun : List (Moment Nat Nat String) × Config Nat Nat String :=
  (replay (step worker.program fun _ => true) workerInitial lateActions).get (by decide)

theorem lateRun_executes :
    Executes worker.program (fun _ => true) workerInitial lateRun.1 lateRun.2 := by
  have replayed : replay (step worker.program fun _ => true) workerInitial lateActions =
      some lateRun := (Option.some_get _).symm
  exact .of_replay ⟨none, 0, false, 0, rfl⟩ replayed

/-- The event is received, its handler invoked and its transition applied, all
after the shutdown. -/
theorem shutdown_outrun :
    ¬ ∀ (initial last : Config Nat Nat String) (trace : List (Moment Nat Nat String)),
      Executes worker.program (fun _ => true) initial trace last →
        ∀ moment ∈ trace, moment.1.cancelled = true →
          moment.received = none ∧ moment.invoked worker.program = none ∧
            moment.transition = none := by
  intro stops
  have served : (lateRun.1.get ⟨4, by decide⟩).received = some ⟨"Start", some 7⟩ := rfl
  have stopped := stops _ _ _ lateRun_executes (lateRun.1.get ⟨4, by decide⟩)
    (List.get_mem _ _) rfl
  rw [served] at stopped
  cases stopped.1

theorem shutdown_cooperative_worker :
    lateRun.2.phase = .returned (.ok 1) := by
  have cut : lateRun.1 = lateRun.1.take 8 ++
      ((lateRun.1.get ⟨8, by decide⟩).1, (lateRun.1.get ⟨8, by decide⟩).2) :: [] := rfl
  exact ((shutdown_cooperative worker lateRun_executes cut rfl).2.2.2.2.2 1 rfl).1

end TokioFsm
