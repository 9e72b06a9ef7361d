import TokioFsm.Shutdown
import TokioFsm.Library.Potential

/-!
# The task handle

`spawn` returns a handle of the task beside the handle of the machine.  To
await it is to learn how the task ended, and to drop it is to abort the task.
The runtime polls the task, between polls it may cancel it if it was told to,
and its result is there once everything it owned has been dropped.
-/

namespace TokioFsm

open StepRuns WatchChannel

variable {Context Payload Failure : Type}

inductive Poll (Output : Type)
  | ready (output : Output)
  | pending

/-- `tokio::task::JoinError` -/
inductive JoinError
  | cancelled
  | panicked
deriving DecidableEq

inductive TaskError (Failure : Type)
  | fsm (error : Failure)
  | join (error : JoinError)

/-- The output of the spawned future is stored after the future itself.  Whoever
polls the handle has budget left for it. -/
def joinHandlePoll (config : Config Context Payload Failure) :
    Poll (Except JoinError (Except Failure Context)) :=
  if config.receiverDropped ∧ config.watch.closed then
    match config.phase with
    | .returned result => .ready (.ok result)
    | .panicked => .ready (.error .panicked)
    | .aborted => .ready (.error .cancelled)
    | _ => .pending
  else .pending

/-- `poll` of the generated task. -/
def taskPoll (config : Config Context Payload Failure) :
    Poll (Except (TaskError Failure) Context) :=
  match joinHandlePoll config with
  | .ready (.ok (.ok context)) => .ready (.ok context)
  | .ready (.ok (.error error)) => .ready (.error (.fsm error))
  | .ready (.error error) => .ready (.error (.join error))
  | .pending => .pending

/-- A spawned machine together with its task handle. -/
structure OwnedTask (Context Payload Failure : Type) where
  machine : Config Context Payload Failure
  /-- a thread of the runtime is polling the task -/
  polling : Bool := false
  held : Bool := true
  abortRequested : Bool := false
  /-- the handle has given the output away -/
  joined : Bool := false

inductive TaskAction (Context Payload Failure : Type)
  | environment (action : EnvironmentAction Payload)
  | beginPoll
  | loop (action : LoopAction Context Failure)
  | await
  | drop

instance (action : LoopAction Context Failure) : Decidable action.Suspends := by
  unfold LoopAction.Suspends
  split <;> infer_instance

/-- The task runs while it is polled; when it is at rest the runtime may cancel
it, and when it is over its parts are dropped. -/
def OwnedTask.MayTake (task : OwnedTask Context Payload Failure) :
    LoopAction Context Failure → Prop
  | .abort => task.abortRequested = true ∧ task.polling = false
  | .dropReceiver | .dropSender => True
  | _ => task.polling = true

instance (task : OwnedTask Context Payload Failure) (action : LoopAction Context Failure) :
    Decidable (task.MayTake action) := by
  unfold OwnedTask.MayTake
  split <;> infer_instance

def taskStep (program : GeneratedFsm) (representable : Nat → Bool)
    (task : OwnedTask Context Payload Failure) :
    TaskAction Context Payload Failure → Option (OwnedTask Context Payload Failure)
  | .environment action =>
      (environmentStep program task.machine action).map fun machine => { task with machine }
  | .beginPoll =>
      if task.machine.phase.Suspended ∧ task.polling = false ∧ task.abortRequested = false then
        some { task with polling := true }
      else none
  | .loop action =>
      if task.MayTake action then
        (loopStep program representable task.machine action).map fun machine => { task with
          machine
          polling := task.polling && !decide action.Suspends && !decide machine.phase.Ended }
      else none
  | .await =>
      if task.held ∧ task.joined = false then
        match taskPoll task.machine with
        | .ready _ => some { task with joined := true }
        | .pending => some task
      else none
  | .drop => if task.held then some { task with held := false, abortRequested := true } else none

/-- A task with the action taken. -/
abbrev TaskMoment (Context Payload Failure : Type) :=
  OwnedTask Context Payload Failure × TaskAction Context Payload Failure

/-- A run of a machine that has just been spawned, with its task handle. -/
structure TaskExecutes (program : GeneratedFsm) (representable : Nat → Bool)
    (initial : OwnedTask Context Payload Failure)
    (trace : List (TaskMoment Context Payload Failure))
    (last : OwnedTask Context Payload Failure) : Prop where
  spawned : ∃ name context tokenCancelled clock config,
    program.spawnNamedWithToken name context tokenCancelled clock = some config ∧
      initial = { machine := config }
  run : Run (taskStep program representable) initial trace last

/-- What happens to the machine in a moment. -/
def TaskMoment.ofMachine :
    TaskMoment Context Payload Failure → Option (Moment Context Payload Failure)
  | (task, .environment action) => some (task.machine, .environment action)
  | (task, .loop action) => some (task.machine, .loop action)
  | _ => none

/-! ## How a task ends -/

/-- The moment is one in which a task ends, and this is what awaiting it then
gives. -/
def Moment.Yields (program : GeneratedFsm) (representable : Nat → Bool) :
    Moment Context Payload Failure → Except (TaskError Failure) Context → Prop
  | (config, .loop .cancelledBranch), .ok context =>
      config.cancelled = true ∧ config.fsm.context = context
  | (config, .loop .recvBranch), .ok context =>
      config.queue = [] ∧ config.handles = 0 ∧ config.fsm.context = context
  | (config, .loop (.handlerCancelled after)), .ok context =>
      config.cancelled = true ∧ after.context = context
  | (_, .loop (.handlerReady _ output)), .error (.fsm error) => output = .errFailure error
  | (_, .loop .handlerPanics), .error (.join .panicked) => True
  | (config, .loop .rearm), .error (.join .panicked) =>
      representable (config.clock + program.timeoutFor config.fsm.state) = false
  | _, _ => False

/-- The phase of a task that is over, as its handle reports it. -/
def Phase.Reports : Phase Context Payload Failure → Except (TaskError Failure) Context → Prop
  | .returned (.ok context), .ok context' => context = context'
  | .returned (.error error), .error (.fsm error') => error = error'
  | .panicked, .error (.join .panicked) | .aborted, .error (.join .cancelled) => True
  | _, _ => False

section Ending

variable {program : GeneratedFsm} {representable : Nat → Bool}
  {initial config next last : Config Context Payload Failure}
  {trace : List (Moment Context Payload Failure)}

/-- A task that is over was ended by one move, after which only the
environment and the dropping of channels are left. -/
theorem Executes.exists_ending
    (executes : Executes program representable initial trace last) :
    last.phase.Ended → ∃ before config action next after,
      trace = before ++ (config, .loop action) :: after ∧ ¬ config.phase.Ended ∧
        LoopMove program representable config action next ∧ next.phase = last.phase ∧
          ∀ moment ∈ after, Moment.Outside moment := by
  induction executes using Executes.rec_moves with
  | spawned _ begin =>
      intro ended
      rw [begin.phase_eq] at ended
      exact ended.elim
  | environment trace middle action last _ _ move ih =>
      intro ended
      rw [move.phase_eq] at ended
      obtain ⟨before, config, ending, next, after, rfl, notEnded, ends, phaseEq, outside⟩ :=
        ih ended
      refine ⟨before, config, ending, next, after ++ [(middle, .environment action)], by simp,
        notEnded, ends, phaseEq.trans move.phase_eq.symm, ?_⟩
      exact List.forall_mem_append.mpr ⟨outside, List.forall_mem_singleton.mpr trivial⟩
  | loop trace middle action last _ _ move ih =>
      intro ended
      by_cases wasEnded : middle.phase.Ended
      · obtain ⟨before, config, ending, next, after, rfl, notEnded, ends, phaseEq, outside⟩ :=
          ih wasEnded
        obtain ⟨dropped, samePhase, -⟩ := move.of_ended wasEnded
        refine ⟨before, config, ending, next, after ++ [(middle, .loop action)], by simp,
          notEnded, ends, phaseEq.trans samePhase.symm, ?_⟩
        refine List.forall_mem_append.mpr ⟨outside, List.forall_mem_singleton.mpr ?_⟩
        obtain rfl | rfl := dropped
        · trivial
        · trivial
      · exact ⟨trace, middle, action, last, [], rfl, wasEnded, move, rfl, by simp⟩

/-- A move that ends the task yields what its phase reports, or aborts it. -/
theorem LoopMove.yields {action : LoopAction Context Failure}
    {result : Except (TaskError Failure) Context}
    (move : LoopMove program representable config action next) (notEnded : ¬ config.phase.Ended)
    (reports : next.phase.Reports result) :
    Moment.Yields program representable (config, .loop action) result ∨ action = .abort := by
  cases move with
  | overflow _ overflows =>
      cases result with
      | ok => exact reports.elim
      | error error =>
          cases error with
          | fsm => exact reports.elim
          | join error =>
              cases error with
              | cancelled => exact reports.elim
              | panicked => exact .inl overflows
  | cancelled _ isCancelled =>
      cases result with
      | ok => exact .inl ⟨isCancelled, reports⟩
      | error => exact reports.elim
  | closed _ isEmpty isClosed =>
      cases result with
      | ok => exact .inl ⟨isEmpty, isClosed, reports⟩
      | error => exact reports.elim
  | @handlerReady _ _ _ _ output outcome _ _ _ dispatched =>
      cases outcome with
      | ok => exact reports.elim
      | error error =>
          cases result with
          | ok => exact reports.elim
          | error error' =>
              cases error' with
              | join => exact reports.elim
              | fsm error' =>
                  obtain rfl : error = error' := reports
                  exact .inl (HandlerReturnKind.dispatch_eq_error dispatched)
  | handlerCancelled _ isCancelled =>
      cases result with
      | ok => exact .inl ⟨isCancelled, reports⟩
      | error => exact reports.elim
  | handlerPanics =>
      cases result with
      | ok => exact reports.elim
      | error error =>
          cases error with
          | fsm => exact reports.elim
          | join error =>
              cases error with
              | cancelled => exact reports.elim
              | panicked => exact .inl trivial
  | abort => exact .inr rfl
  | dropReceiver isEnded | dropSender isEnded => exact absurd isEnded notEnded
  | start | rearm | publish | expired | matched => exact reports.elim
  | wait isSelecting | expiredUnhandled isSelecting | unmatched isSelecting =>
      simp [isSelecting, Phase.Reports] at reports
  | handlerPending isCalling => simp [isCalling, Phase.Reports] at reports
  | outOfBudget selects =>
      obtain isSelecting | ⟨call, argument, entry, isCalling⟩ := selects.cases
      · simp [isSelecting, Phase.Reports] at reports
      · simp [isCalling, Phase.Reports] at reports

theorem LoopMove.of_aborted {action : LoopAction Context Failure}
    (move : LoopMove program representable config action next)
    (isAborted : next.phase = .aborted) : config.phase = .aborted ∨ action = .abort := by
  cases move with
  | abort => exact .inr rfl
  | @handlerReady _ _ _ _ _ outcome =>
      cases outcome with
      | ok | error => cases isAborted
  | wait | outOfBudget | expiredUnhandled | unmatched | handlerPending | dropReceiver
  | dropSender => exact .inl isAborted
  | start | rearm | overflow | expired | cancelled | matched | closed | handlerCancelled
  | handlerPanics | publish => cases isAborted

/-- The task is over and everything it owned is gone. -/
structure Settled (config : Config Context Payload Failure) : Prop where
  ended : config.phase.Ended
  receiverDropped : config.receiverDropped = true
  watchClosed : config.watch.closed = true

theorem taskPoll_eq_ready {result : Except (TaskError Failure) Context}
    (ready : taskPoll config = .ready result) :
    Settled config ∧ config.phase.Reports result := by
  unfold taskPoll joinHandlePoll at ready
  by_cases dropped : config.receiverDropped ∧ config.watch.closed
  · rw [if_pos dropped] at ready
    cases phaseEq : config.phase with
    | returned outcome =>
        rw [phaseEq] at ready
        cases outcome with
        | ok | error =>
            cases ready
            exact ⟨⟨by rw [phaseEq]; trivial, dropped.1, dropped.2⟩, rfl⟩
    | panicked | aborted =>
        rw [phaseEq] at ready
        cases ready
        exact ⟨⟨by rw [phaseEq]; trivial, dropped.1, dropped.2⟩, trivial⟩
    | starting | rearming | selecting | calling | publishing =>
        rw [phaseEq] at ready
        cases ready
  · rw [if_neg dropped] at ready
    cases ready

/-- A settled task gives its result. -/
theorem Settled.exists_ready (settled : Settled config) :
    ∃ result, taskPoll config = .ready result := by
  obtain ⟨ended, receiverDropped, watchClosed⟩ := settled
  unfold taskPoll joinHandlePoll
  rw [if_pos ⟨receiverDropped, watchClosed⟩]
  cases phaseEq : config.phase with
  | returned outcome =>
      cases outcome with
      | ok | error => exact ⟨_, rfl⟩
  | panicked | aborted => exact ⟨_, rfl⟩
  | starting | rearming | selecting | calling | publishing =>
      rw [phaseEq] at ended
      exact ended.elim

end Ending

/-! ## What one step of the task can do -/

/-- The moves of a task and its handle. -/
inductive TaskMove (program : GeneratedFsm) (representable : Nat → Bool)
    (task : OwnedTask Context Payload Failure) :
    TaskAction Context Payload Failure → OwnedTask Context Payload Failure → Prop
  | environment {action : EnvironmentAction Payload} {machine : Config Context Payload Failure} :
      environmentStep program task.machine action = some machine →
        TaskMove program representable task (.environment action) { task with machine }
  | beginPoll : task.machine.phase.Suspended → task.polling = false →
      task.abortRequested = false →
        TaskMove program representable task .beginPoll { task with polling := true }
  | loop {action : LoopAction Context Failure} {machine : Config Context Payload Failure} :
      task.MayTake action → loopStep program representable task.machine action = some machine →
        TaskMove program representable task (.loop action) { task with
          machine
          polling := task.polling && !decide action.Suspends && !decide machine.phase.Ended }
  | ready {result : Except (TaskError Failure) Context} : task.held = true →
      task.joined = false → taskPoll task.machine = .ready result →
        TaskMove program representable task .await { task with joined := true }
  | pending : task.held = true → task.joined = false → taskPoll task.machine = .pending →
      TaskMove program representable task .await task
  | drop : task.held = true →
      TaskMove program representable task .drop
        { task with held := false, abortRequested := true }

section Tasks

variable {program : GeneratedFsm} {representable : Nat → Bool}
  {initial task next last : OwnedTask Context Payload Failure}
  {trace before after : List (TaskMoment Context Payload Failure)}

theorem TaskMove.of_taskStep {action : TaskAction Context Payload Failure}
    (taken : taskStep program representable task action = some next) :
    TaskMove program representable task action next := by
  cases action with
  | environment action =>
      obtain ⟨machine, moved, rfl⟩ := Option.map_eq_some_iff.mp taken
      exact .environment moved
  | beginPoll =>
      simp only [taskStep] at taken
      split at taken
      next allowed =>
        cases taken
        exact .beginPoll allowed.1 allowed.2.1 allowed.2.2
      next => cases taken
  | loop action =>
      simp only [taskStep] at taken
      split at taken
      next mayTake =>
        obtain ⟨machine, moved, rfl⟩ := Option.map_eq_some_iff.mp taken
        exact .loop mayTake moved
      next => cases taken
  | await =>
      simp only [taskStep] at taken
      split at taken
      next allowed =>
        split at taken
        next result isReady =>
          cases taken
          exact .ready allowed.1 allowed.2 isReady
        next isPending =>
          cases taken
          exact .pending allowed.1 allowed.2 isPending
      next => cases taken
  | drop =>
      simp only [taskStep] at taken
      split at taken
      next isHeld =>
        cases taken
        exact .drop isHeld
      next => cases taken

/-- The machine inside a run of its task executes. -/
theorem TaskExecutes.machine
    (executes : TaskExecutes program representable initial trace last) :
    Executes program representable initial.machine (trace.filterMap TaskMoment.ofMachine)
      last.machine := by
  obtain ⟨⟨name, context, tokenCancelled, clock, config, spawned, rfl⟩, run⟩ := executes
  induction run with
  | refl => exact ⟨⟨name, context, tokenCancelled, clock, spawned⟩, .refl⟩
  | @snoc trace middle last action _ taken ih =>
      rw [filterMap_snoc]
      cases TaskMove.of_taskStep taken with
      | environment moved => exact ih.snoc moved
      | loop _ moved => exact ih.snoc moved
      | beginPoll | ready | pending | drop =>
          simpa [TaskMoment.ofMachine] using ih

/-- What holds of a task at all times. -/
structure TaskSound (task : OwnedTask Context Payload Failure) : Prop where
  held_eq : task.held = !task.abortRequested
  aborted : task.machine.phase = .aborted → task.abortRequested = true
  resting : task.polling = false →
    task.machine.phase.Suspended ∨ task.machine.phase.Ended

/-- A poll ends at an await point or with the task. -/
theorem LoopMove.rests {config machine : Config Context Payload Failure}
    {action : LoopAction Context Failure}
    (move : LoopMove program representable config action machine) (suspends : action.Suspends) :
    machine.phase.Suspended := by
  cases move with
  | wait isSelecting =>
      rw [isSelecting]
      trivial
  | handlerPending isCalling =>
      simp only [isCalling]
      trivial
  | outOfBudget selects =>
      obtain isSelecting | ⟨call, argument, entry, isCalling⟩ := selects.cases
      · rw [isSelecting]
        trivial
      · rw [isCalling]
        trivial
  | _ => exact suspends.elim

/-- Without a poll the task can only be aborted and taken apart. -/
theorem OwnedTask.MayTake.resting_cases {action : LoopAction Context Failure}
    (mayTake : task.MayTake action) (isResting : task.polling = false) :
    action = .abort ∧ task.abortRequested = true ∨ action = .dropReceiver ∨
      action = .dropSender := by
  cases action with
  | abort => exact .inl ⟨rfl, mayTake.1⟩
  | dropReceiver => exact .inr (.inl rfl)
  | dropSender => exact .inr (.inr rfl)
  | _ =>
      have isPolled : task.polling = true := mayTake
      rw [isResting] at isPolled
      cases isPolled

theorem LoopMove.ends_of_resting {machine : Config Context Payload Failure}
    {action : LoopAction Context Failure}
    (move : LoopMove program representable task.machine action machine)
    (mayTake : task.MayTake action) (isResting : task.polling = false) :
    machine.phase.Ended := by
  obtain ⟨rfl, -⟩ | rfl | rfl := mayTake.resting_cases isResting
  · cases move with
    | abort => trivial
  · cases move with
    | dropReceiver isEnded => exact isEnded
  · cases move with
    | dropSender isEnded => exact isEnded

theorem TaskExecutes.sound
    (executes : TaskExecutes program representable initial trace last) : TaskSound last := by
  obtain ⟨⟨name, context, tokenCancelled, clock, config, spawned, rfl⟩, run⟩ := executes
  induction run with
  | refl =>
      have begin := (Spawned.of_spawn spawned).phase_eq
      refine ⟨rfl, fun isAborted => ?_, fun _ => .inl ?_⟩
      · rw [begin] at isAborted
        cases isAborted
      · rw [begin]
        trivial
  | snoc _ taken sound =>
      cases TaskMove.of_taskStep taken with
      | @environment action machine moved =>
          have samePhase := (EnvironmentMove.of_environmentStep moved).phase_eq
          refine ⟨sound.held_eq, ?_, ?_⟩
          · rw [samePhase]
            exact sound.aborted
          · rw [samePhase]
            exact sound.resting
      | beginPoll => exact ⟨sound.held_eq, sound.aborted, nofun⟩
      | pending | ready => exact ⟨sound.held_eq, sound.aborted, sound.resting⟩
      | drop => exact ⟨rfl, fun _ => rfl, sound.resting⟩
      | @loop action machine mayTake moved =>
          have move := LoopMove.of_loopStep moved
          refine ⟨sound.held_eq, fun isAborted => ?_, fun isResting => ?_⟩
          · obtain wasAborted | rfl := move.of_aborted isAborted
            · exact sound.aborted wasAborted
            · exact mayTake.1
          · simp only [Bool.and_eq_false_iff, Bool.not_eq_false', decide_eq_true_eq] at isResting
            obtain (wasResting | suspends) | ended := isResting
            · exact .inr (move.ends_of_resting mayTake wasResting)
            · exact .inl (move.rests suspends)
            · exact .inr ended

/-- Nothing happens to a settled machine. -/
theorem Settled.move {config machine : Config Context Payload Failure}
    {action : LoopAction Context Failure} (settled : Settled config) :
    ¬ LoopMove program representable config action machine := by
  intro move
  obtain ⟨rfl | rfl, -⟩ := move.of_ended settled.ended
  · cases move with
    | dropReceiver _ receiverLeft =>
        rw [settled.receiverDropped] at receiverLeft
        cases receiverLeft
  · cases move with
    | dropSender _ senderLeft =>
        rw [settled.watchClosed] at senderLeft
        cases senderLeft

/-- After the task has settled, nothing is sent to it and nothing changes. -/
theorem run_of_settled (run : Run (taskStep program representable) task after last)
    (settled : Settled task.machine) :
    Settled last.machine ∧ last.machine.phase = task.machine.phase ∧
      last.machine.watch.value = task.machine.watch.value ∧
        ∀ moment ∈ after.filterMap TaskMoment.ofMachine,
          moment.Outside ∧ moment.accepted = none := by
  induction run with
  | refl => exact ⟨settled, rfl, rfl, by simp⟩
  | @snoc after middle last action _ taken ih =>
      obtain ⟨middleSettled, samePhase, sameValue, outside⟩ := ih
      rw [filterMap_snoc]
      cases TaskMove.of_taskStep taken with
      | beginPoll | ready | pending | drop =>
          refine ⟨middleSettled, samePhase, sameValue, ?_⟩
          simpa [TaskMoment.ofMachine] using outside
      | @environment action machine moved =>
          have move := EnvironmentMove.of_environmentStep moved
          have notSent : action.sent = [] := by
            by_contra sent
            have isOpen := (move.sent_of sent).2
            rw [middleSettled.receiverDropped] at isOpen
            cases isOpen
          have notAccepted := accepted_environment middle.machine action
          rw [notSent, Option.toList_eq_nil_iff] at notAccepted
          refine ⟨⟨?_, ?_, ?_⟩, move.phase_eq.trans samePhase, ?_, ?_⟩
          · rw [move.phase_eq]
            exact middleSettled.ended
          · exact move.receiverDropped_eq.trans middleSettled.receiverDropped
          · rw [move.watch_eq]
            exact middleSettled.watchClosed
          · rw [move.watch_eq, sameValue]
          · exact List.forall_mem_append.mpr
              ⟨outside, List.forall_mem_singleton.mpr ⟨trivial, notAccepted⟩⟩
      | loop _ moved => exact absurd (LoopMove.of_loopStep moved) middleSettled.move

/-- The output is given away once. -/
theorem not_await_of_joined (run : Run (taskStep program representable) task after last)
    (joined : task.joined = true) :
    last.joined = true ∧ ∀ moment ∈ after, moment.2 ≠ .await := by
  induction run with
  | refl => exact ⟨joined, by simp⟩
  | @snoc after middle last action _ taken ih =>
      obtain ⟨middleJoined, noAwait⟩ := ih
      have keeps (notAwait : action ≠ .await) :
          ∀ moment ∈ after ++ [(middle, action)], moment.2 ≠ .await :=
        List.forall_mem_append.mpr ⟨noAwait, List.forall_mem_singleton.mpr notAwait⟩
      cases TaskMove.of_taskStep taken with
      | environment | beginPoll | loop | drop => exact ⟨middleJoined, keeps nofun⟩
      | ready _ notJoined | pending _ notJoined =>
          rw [middleJoined] at notJoined
          cases notJoined

theorem TaskExecutes.moment {action : TaskAction Context Payload Failure}
    (executes : TaskExecutes program representable initial trace last)
    (cut : trace = before ++ (task, action) :: after) :
    TaskExecutes program representable initial before task ∧
      ∃ next, taskStep program representable task action = some next ∧
        Run (taskStep program representable) next after last := by
  obtain ⟨toTask, next, taken, fromNext⟩ := executes.run.moment cut
  exact ⟨⟨executes.spawned, toTask⟩, next, taken, fromNext⟩

/-- What awaiting a task gives is what its last move yielded, be it a context,
an error of a handler or a panic; that the task was cancelled is never
reported.  From then on every send fails and the published state stays. -/
theorem task_result_faithful {result : Except (TaskError Failure) Context}
    (executes : TaskExecutes program representable initial trace last)
    (cut : trace = before ++ (task, .await) :: after)
    (ready : taskPoll task.machine = .ready result) :
    (∃ earlier moment later, before.filterMap TaskMoment.ofMachine =
        earlier ++ moment :: later ∧ moment.Yields program representable result ∧
          ∀ other ∈ later, Moment.Outside other) ∧
      (∀ moment ∈ after, moment.2 ≠ .await ∧
        ∀ step, moment.ofMachine = some step → step.Outside ∧ step.accepted = none) ∧
      last.machine.phase = task.machine.phase ∧
      last.machine.watch.value = task.machine.watch.value := by
  obtain ⟨toTask, next, taken, fromNext⟩ := executes.moment cut
  obtain ⟨settled, reports⟩ := taskPoll_eq_ready ready
  obtain ⟨isHeld, rfl⟩ : task.held = true ∧ next = { task with joined := true } := by
    cases TaskMove.of_taskStep taken with
    | ready isHeld => exact ⟨isHeld, rfl⟩
    | pending _ _ isPending =>
        rw [ready] at isPending
        cases isPending
  obtain ⟨-, samePhase, sameValue, outside⟩ := run_of_settled fromNext settled
  obtain ⟨-, noAwait⟩ := not_await_of_joined fromNext rfl
  refine ⟨?_, ?_, samePhase, sameValue⟩
  · obtain ⟨earlier, config, action, ended, later, split, notEnded, move, phaseEq, quiet⟩ :=
      toTask.machine.exists_ending settled.ended
    refine ⟨earlier, _, later, split, ?_, quiet⟩
    rw [← phaseEq] at reports
    obtain yields | rfl := move.yields notEnded reports
    · exact yields
    · -- a task is aborted only when its handle has been dropped
      have isAborted : task.machine.phase = .aborted := by
        rw [← phaseEq]
        cases move with
        | abort => rfl
      have wasDropped := toTask.sound.aborted isAborted
      have heldEq := toTask.sound.held_eq
      rw [isHeld, wasDropped] at heldEq
      cases heldEq
  · intro moment momentMem
    refine ⟨noAwait moment momentMem, fun step stepEq => ?_⟩
    exact outside step (List.mem_filterMap.mpr ⟨moment, momentMem, stepEq⟩)

/-! ## Dropping the handle -/

/-- The task takes no part in the moment, or is aborted in it. -/
def Moment.Idle (moment : Moment Context Payload Failure) : Prop :=
  moment.Outside ∨ ∃ config, moment = (config, .loop .abort)

theorem LoopMove.idle_of_resting {machine : Config Context Payload Failure}
    {action : LoopAction Context Failure}
    (move : LoopMove program representable task.machine action machine)
    (mayTake : task.MayTake action) (isResting : task.polling = false) :
    Moment.Idle (task.machine, .loop action) ∧
      machine.watch.value = task.machine.watch.value ∧
        (machine.phase = task.machine.phase ∨ machine.phase = .aborted) := by
  obtain ⟨rfl, -⟩ | rfl | rfl := mayTake.resting_cases isResting
  · cases move with
    | abort => exact ⟨.inr ⟨_, rfl⟩, rfl, .inr rfl⟩
  · cases move with
    | dropReceiver => exact ⟨.inl trivial, rfl, .inl rfl⟩
  · cases move with
    | dropSender => exact ⟨.inl trivial, rfl, .inl rfl⟩

/-- A task that is to be aborted and is not being polled runs no more. -/
theorem run_of_abandoned (run : Run (taskStep program representable) task after last)
    (abandoned : task.abortRequested = true) (isResting : task.polling = false) :
    last.abortRequested = true ∧ last.polling = false ∧
      (∀ moment ∈ after.filterMap TaskMoment.ofMachine, Moment.Idle moment) ∧
        last.machine.watch.value = task.machine.watch.value ∧
          (last.machine.phase = task.machine.phase ∨ last.machine.phase = .aborted) := by
  induction run with
  | refl => exact ⟨abandoned, isResting, by simp, rfl, .inl rfl⟩
  | @snoc after middle last action _ taken ih =>
      obtain ⟨stillAbandoned, stillResting, idle, sameValue, phaseCases⟩ := ih
      rw [filterMap_snoc]
      cases TaskMove.of_taskStep taken with
      | beginPoll _ _ notRequested =>
          rw [stillAbandoned] at notRequested
          cases notRequested
      | ready | pending =>
          exact ⟨stillAbandoned, stillResting, by simpa [TaskMoment.ofMachine] using idle,
            sameValue, phaseCases⟩
      | drop =>
          exact ⟨rfl, stillResting, by simpa [TaskMoment.ofMachine] using idle, sameValue,
            phaseCases⟩
      | @environment action machine moved =>
          have move := EnvironmentMove.of_environmentStep moved
          refine ⟨stillAbandoned, stillResting, ?_, ?_, ?_⟩
          · exact List.forall_mem_append.mpr
              ⟨idle, List.forall_mem_singleton.mpr (.inl trivial)⟩
          · rw [move.watch_eq, sameValue]
          · rw [move.phase_eq]
            exact phaseCases
      | @loop action machine mayTake moved =>
          have polling : (middle.polling && !decide action.Suspends &&
              !decide machine.phase.Ended) = false := by simp [stillResting]
          obtain ⟨isIdle, valueKept, phaseKept⟩ :=
            (LoopMove.of_loopStep moved).idle_of_resting mayTake stillResting
          refine ⟨stillAbandoned, polling, ?_, valueKept.trans sameValue, ?_⟩
          · exact List.forall_mem_append.mpr ⟨idle, List.forall_mem_singleton.mpr isIdle⟩
          · obtain samePhase | isAborted := phaseKept
            · rw [samePhase]
              exact phaseCases
            · exact .inr isAborted

/-- A task that is over is taken apart. -/
theorem exists_settled_of_ended (ended : task.machine.phase.Ended) :
    ∃ after last, Run (taskStep program representable) task after last ∧
      Settled last.machine ∧ last.machine.phase = task.machine.phase ∧
        ∀ moment ∈ after, ∃ action, moment.2 = TaskAction.loop action := by
  have taken {task : OwnedTask Context Payload Failure} {action : LoopAction Context Failure}
      {machine : Config Context Payload Failure} (mayTake : task.MayTake action)
      (move : LoopMove program representable task.machine action machine) :
      taskStep program representable task (.loop action) = some { task with
        machine
        polling := task.polling && !decide action.Suspends && !decide machine.phase.Ended } := by
    simp only [taskStep, if_pos mayTake, move.loopStep_eq, Option.map_some]
  -- first the receiver, then the sender, each unless it is gone already
  obtain ⟨first, middle, toMiddle, receiverDropped, samePhase, firstLoop⟩ :
      ∃ first middle, Run (taskStep program representable) task first middle ∧
        middle.machine.receiverDropped = true ∧ middle.machine.phase = task.machine.phase ∧
          ∀ moment ∈ first, ∃ action, moment.2 = TaskAction.loop action := by
    by_cases receiverDropped : task.machine.receiverDropped = true
    · exact ⟨[], task, .refl, receiverDropped, rfl, by simp⟩
    · have receiverLeft : task.machine.receiverDropped = false := by simpa using receiverDropped
      have mayTake : task.MayTake .dropReceiver := trivial
      exact ⟨_, _, .single (taken mayTake (.dropReceiver ended receiverLeft)), rfl, rfl,
        by simp⟩
  rw [← samePhase] at ended
  by_cases watchClosed : middle.machine.watch.closed = true
  · exact ⟨first, middle, toMiddle, ⟨ended, receiverDropped, watchClosed⟩, samePhase, firstLoop⟩
  · have senderLeft : middle.machine.watch.closed = false := by simpa using watchClosed
    have mayTake : middle.MayTake .dropSender := trivial
    refine ⟨_, _, toMiddle.snoc (taken mayTake (.dropSender ended senderLeft)),
      ⟨ended, receiverDropped, rfl⟩, samePhase, ?_⟩
    exact List.forall_mem_append.mpr ⟨firstLoop, List.forall_mem_singleton.mpr ⟨_, rfl⟩⟩

theorem run_of_dropped (run : Run (taskStep program representable) task after last)
    (abandoned : task.abortRequested = true) (notHeld : task.held = false) :
    last.abortRequested = true ∧ last.held = false ∧
      ∀ moment ∈ after, moment.2 ≠ .beginPoll ∧ moment.2 ≠ .await := by
  induction run with
  | refl => exact ⟨abandoned, notHeld, by simp⟩
  | @snoc after middle last action _ taken ih =>
      obtain ⟨stillAbandoned, stillDropped, neither⟩ := ih
      have keeps (isOther : action ≠ .beginPoll ∧ action ≠ .await) :
          ∀ moment ∈ after ++ [(middle, action)], moment.2 ≠ .beginPoll ∧ moment.2 ≠ .await :=
        List.forall_mem_append.mpr ⟨neither, List.forall_mem_singleton.mpr isOther⟩
      cases TaskMove.of_taskStep taken with
      | environment | loop => exact ⟨stillAbandoned, stillDropped, keeps ⟨nofun, nofun⟩⟩
      | beginPoll _ _ notRequested =>
          rw [stillAbandoned] at notRequested
          cases notRequested
      | ready isHeld | pending isHeld | drop isHeld =>
          rw [stillDropped] at isHeld
          cases isHeld

/-- The runtime can finish with a task that is to be aborted. -/
theorem TaskSound.exists_settled (sound : TaskSound task)
    (abandoned : task.abortRequested = true) (isResting : task.polling = false) :
    ∃ more final, Run (taskStep program representable) task more final ∧
      Settled final.machine ∧
        (task.machine.phase.Suspended → final.machine.phase = .aborted) ∧
          ∀ moment ∈ more, ∃ action, moment.2 = TaskAction.loop action := by
  by_cases isSuspended : task.machine.phase.Suspended
  · let aborted : OwnedTask Context Payload Failure :=
      { task with machine := { task.machine with phase := .aborted }, polling := false }
    have mayTake : task.MayTake .abort := ⟨abandoned, isResting⟩
    have move : LoopMove program representable task.machine .abort aborted.machine :=
      .abort isSuspended
    have aborts : taskStep program representable task (.loop .abort) = some aborted := by
      simp only [taskStep, if_pos mayTake, move.loopStep_eq, Option.map_some, isResting,
        Bool.false_and, aborted]
    have ended : aborted.machine.phase.Ended := trivial
    obtain ⟨more, final, run, settled, phaseEq, allLoop⟩ :
        ∃ more final, Run (taskStep program representable) aborted more final ∧
          Settled final.machine ∧ final.machine.phase = .aborted ∧
            ∀ moment ∈ more, ∃ action, moment.2 = TaskAction.loop action :=
      exists_settled_of_ended ended
    refine ⟨_, final, (Run.single aborts).append run, settled, fun _ => phaseEq, ?_⟩
    exact List.forall_mem_append.mpr ⟨List.forall_mem_singleton.mpr ⟨_, rfl⟩, allLoop⟩
  · have ended := (sound.resting isResting).resolve_left isSuspended
    obtain ⟨more, final, run, settled, -, allLoop⟩ := exists_settled_of_ended ended
    exact ⟨more, final, run, settled, fun suspended => absurd suspended isSuspended, allLoop⟩

/-- Once its handle has been dropped a task is neither polled again nor
awaited.  As soon as the poll in progress is over, if there is one, no handler
runs, nothing is received and nothing published, and the runtime can take the
task apart, after which every send fails. -/
theorem dropped_task_stops (executes : TaskExecutes program representable initial trace last)
    (cut : trace = before ++ (task, .drop) :: after) :
    (∀ moment ∈ after, moment.2 ≠ .beginPoll ∧ moment.2 ≠ .await) ∧
      (∀ during middle action rest, after = during ++ (middle, action) :: rest →
        middle.polling = false →
          (∀ moment ∈ ((middle, action) :: rest).filterMap TaskMoment.ofMachine,
            Moment.Idle moment) ∧
          last.machine.watch.value = middle.machine.watch.value) ∧
      (last.polling = false → ∃ more final,
        Run (taskStep program representable) last more final ∧ Settled final.machine ∧
          (last.machine.phase.Suspended → final.machine.phase = .aborted) ∧
            ∀ moment ∈ more, ∃ action, moment.2 = TaskAction.loop action) := by
  obtain ⟨-, next, taken, fromNext⟩ := executes.moment cut
  obtain rfl : next = { task with held := false, abortRequested := true } := by
    cases TaskMove.of_taskStep taken with
    | drop => rfl
  obtain ⟨abandoned, -, neither⟩ := run_of_dropped fromNext rfl rfl
  refine ⟨neither, ?_, fun isResting => executes.sound.exists_settled abandoned isResting⟩
  intro during middle action rest split isResting
  obtain ⟨midway, toMidway, fromMidway⟩ := fromNext.split split
  obtain ⟨stillAbandoned, -⟩ := run_of_dropped toMidway rfl rfl
  -- the rest of the run begins in the state its first moment records
  obtain rfl : midway = middle := by
    obtain ⟨toMiddle, -⟩ := fromMidway.moment (List.nil_append _).symm
    exact toMiddle.eq_of_nil
  obtain ⟨-, -, idle, sameValue, -⟩ := run_of_abandoned fromMidway stillAbandoned isResting
  exact ⟨idle, sameValue⟩

end Tasks

/-! ## Shutting a task down -/

/-- What is left to be done with a task whose token is cancelled. -/
def Phase.toStop : Phase Context Payload Failure → Nat
  | .starting | .publishing => 3
  | .rearming => 2
  | .selecting | .calling _ _ _ => 1
  | .returned _ | .panicked | .aborted => 0

/-- What is left of the channels of the task. -/
def Config.toDrop (config : Config Context Payload Failure) : Nat :=
  (if config.receiverDropped then 0 else 1) + if config.watch.closed then 0 else 1

def OwnedTask.toStop (task : OwnedTask Context Payload Failure) : Nat :=
  task.machine.phase.toStop + task.machine.toDrop +
    if task.polling = true ∨ task.machine.phase.Ended then 0 else 1

/-- The task goes on to its end; a handler in its way is left where it waits. -/
def TaskMoment.Stops : TaskMoment Context Payload Failure → Prop
  | (_, .beginPoll) | (_, .loop .start) | (_, .loop .rearm) | (_, .loop .cancelledBranch) => True
  | (task, .loop (.handlerCancelled after)) => after = task.machine.fsm
  | (_, .loop .publish) | (_, .loop .dropReceiver) | (_, .loop .dropSender) => True
  | _ => False

section Stopping

variable {program : GeneratedFsm} {representable : Nat → Bool}
  {task : OwnedTask Context Payload Failure}

theorem Phase.toStop_le (phase : Phase Context Payload Failure) : phase.toStop ≤ 3 := by
  cases phase with
  | starting | rearming | selecting | calling | publishing | returned | panicked | aborted =>
      simp [Phase.toStop]

theorem OwnedTask.toStop_le (task : OwnedTask Context Payload Failure) : task.toStop ≤ 6 := by
  have phase := task.machine.phase.toStop_le
  unfold OwnedTask.toStop Config.toDrop
  split_ifs <;> omega

/-- A move of the loop that brings the task nearer to its end. -/
theorem OwnedTask.stopping_loop {action : LoopAction Context Failure}
    {machine : Config Context Payload Failure}
    (move : LoopMove program representable task.machine action machine)
    (mayTake : task.MayTake action) (stops : TaskMoment.Stops (task, .loop action))
    (goesOn : ¬ action.Suspends) (resting : task.polling = true ∨ machine.phase.Ended)
    (lower : machine.phase.toStop + machine.toDrop < task.machine.phase.toStop +
      task.machine.toDrop) :
    ∃ action next, TaskMoment.Stops (task, action) ∧
      taskStep program representable task action = some next ∧ next.toStop < task.toStop := by
  let next : OwnedTask Context Payload Failure := { task with
    machine
    polling := task.polling && !decide action.Suspends && !decide machine.phase.Ended }
  have taken : taskStep program representable task (.loop action) = some next := by
    simp only [taskStep, if_pos mayTake, move.loopStep_eq, Option.map_some, next]
  have running : next.polling = true ∨ next.machine.phase.Ended := by
    by_cases ended : machine.phase.Ended
    · exact .inr ended
    · exact .inl (by simp [next, resting.resolve_right ended, goesOn, ended])
  refine ⟨.loop action, next, stops, taken, ?_⟩
  rw [OwnedTask.toStop, if_pos running]
  exact Nat.lt_of_lt_of_le lower (Nat.le_add_right _ _)

/-- A task whose token is cancelled comes nearer to its end by itself. -/
theorem OwnedTask.exists_stopping_step (sound : Sound program task.machine)
    (taskSound : TaskSound task) (notAborted : task.abortRequested = false)
    (isCancelled : task.machine.cancelled = true) :
    Settled task.machine ∨ ∃ action next, TaskMoment.Stops (task, action) ∧
      taskStep program representable task action = some next ∧ next.toStop < task.toStop := by
  by_cases ended : task.machine.phase.Ended
  · by_cases receiverDropped : task.machine.receiverDropped = true
    · by_cases watchClosed : task.machine.watch.closed = true
      · exact .inl ⟨ended, receiverDropped, watchClosed⟩
      · have senderLeft : task.machine.watch.closed = false := by simpa using watchClosed
        refine .inr (stopping_loop (.dropSender ended senderLeft) trivial trivial id (.inr ended)
          ?_)
        simp [Config.toDrop, senderLeft, Channel.close]
    · have receiverLeft : task.machine.receiverDropped = false := by simpa using receiverDropped
      refine .inr (stopping_loop (.dropReceiver ended receiverLeft) trivial trivial id (.inr ended)
        ?_)
      simp [Config.toDrop, receiverLeft]
  · by_cases isPolling : task.polling = true
    · right
      cases phaseEq : task.machine.phase with
      | starting =>
          refine stopping_loop (.start phaseEq) isPolling trivial id (.inl isPolling) ?_
          simp [phaseEq, Phase.toStop, Config.toDrop]
      | rearming =>
          by_cases fits :
              representable (task.machine.clock + program.timeoutFor task.machine.fsm.state) = true
          · refine stopping_loop (.rearm phaseEq fits) isPolling trivial id (.inl isPolling) ?_
            simp [phaseEq, Phase.toStop, Config.toDrop]
          · refine stopping_loop (.overflow phaseEq (Bool.eq_false_iff.mpr fits)) isPolling
              trivial id (.inl isPolling) ?_
            simp [phaseEq, Phase.toStop, Config.toDrop]
      | selecting =>
          refine stopping_loop (.cancelled phaseEq isCancelled) isPolling trivial id
            (.inl isPolling) ?_
          simp [phaseEq, Phase.toStop, Config.toDrop]
      | calling =>
          refine stopping_loop (.handlerCancelled phaseEq isCancelled sound.state_mem) isPolling
            rfl id (.inl isPolling) ?_
          simp [phaseEq, Phase.toStop, Config.toDrop]
      | publishing =>
          refine stopping_loop (.publish phaseEq) isPolling trivial id (.inl isPolling) ?_
          simp [phaseEq, Phase.toStop, Config.toDrop]
      | returned | panicked | aborted =>
          rw [phaseEq] at ended
          exact absurd trivial ended
    · have isResting : task.polling = false := by simpa using isPolling
      have isSuspended := (taskSound.resting isResting).resolve_right ended
      refine .inr ⟨.beginPoll, { task with polling := true }, trivial,
        if_pos ⟨isSuspended, isResting, notAborted⟩, ?_⟩
      simp [OwnedTask.toStop, isResting, ended]

/-- A task of some execution that is shut down and still owned. -/
structure ShutDown (program : GeneratedFsm) (representable : Nat → Bool)
    (task : OwnedTask Context Payload Failure) : Prop where
  reached : ∃ initial trace, TaskExecutes program representable initial trace task
  notAborted : task.abortRequested = false
  isCancelled : task.machine.cancelled = true

theorem ShutDown.snoc {action : TaskAction Context Payload Failure}
    {next : OwnedTask Context Payload Failure} (shutDown : ShutDown program representable task)
    (stops : TaskMoment.Stops (task, action))
    (taken : taskStep program representable task action = some next) :
    ShutDown program representable next := by
  obtain ⟨⟨initial, trace, executes⟩, notAborted, isCancelled⟩ := shutDown
  have reached : ∃ initial trace, TaskExecutes program representable initial trace next :=
    ⟨initial, _, executes.spawned, executes.run.snoc taken⟩
  cases TaskMove.of_taskStep taken with
  | beginPoll => exact ⟨reached, notAborted, isCancelled⟩
  | loop _ moved =>
      exact ⟨reached, notAborted, (LoopMove.of_loopStep moved).frame.2.2.trans isCancelled⟩
  | environment | ready | pending | drop => exact stops.elim

variable {crates : Crates} {args : FsmArgs} {block : ItemImpl}
  (machine : AcceptedFsm crates args block) {initial : OwnedTask Context Payload Failure}
  {trace : List (TaskMoment Context Payload Failure)}

theorem ShutDown.exists_settled (shutDown : ShutDown machine.program representable task) :
    ∃ more final, Run (taskStep machine.program representable) task more final ∧
      Settled final.machine ∧ more.length + final.toStop ≤ task.toStop ∧
        ∀ moment ∈ more, TaskMoment.Stops moment := by
  refine exists_run_of_progress (ShutDown machine.program representable)
    (fun task => Settled task.machine) TaskMoment.Stops OwnedTask.toStop ?_ shutDown
  intro current shutDown
  obtain ⟨initial, trace, executes⟩ := shutDown.reached
  obtain settled | ⟨action, next, stops, taken, lower⟩ :=
    current.exists_stopping_step (executes.machine.sound machine) executes.sound
      shutDown.notAborted shutDown.isCancelled
  · exact .inl settled
  · exact .inr ⟨action, next, stops, taken, shutDown.snoc stops taken, lower⟩

/-- Wherever a task is when its token is cancelled, six moves of its own can bring
it to its end, unless its handle is dropped; a poll that is out of budget only
leaves them to the next one.  It waits for no event, no time and no handler, and
it gives a result. -/
theorem cancelled_task_settles
    (executes : TaskExecutes machine.program representable initial trace task)
    (notAborted : task.abortRequested = false) (isCancelled : task.machine.cancelled = true) :
    ∃ more final, Run (taskStep machine.program representable) task more final ∧
      more.length ≤ 6 ∧ (∀ moment ∈ more, TaskMoment.Stops moment) ∧
        ∃ result, taskPoll final.machine = .ready result := by
  have shutDown : ShutDown machine.program representable task :=
    ⟨⟨initial, trace, executes⟩, notAborted, isCancelled⟩
  obtain ⟨more, final, run, settled, short, stops⟩ := shutDown.exists_settled machine
  have bound := task.toStop_le
  exact ⟨more, final, run, by omega, stops, settled.exists_ready⟩

end Stopping

/-! ## Runs of the worker's task -/

def workerTask : OwnedTask Nat Nat String where
  machine := workerInitial

/-- The worker is started, shut down and awaited, and a job comes too late. -/
def awaitedActions : List (TaskAction Nat Nat String) := [
  .beginPoll, .loop .start, .loop .rearm, .environment .shutdown, .loop .cancelledBranch,
  .loop .dropReceiver, .loop .dropSender, .await, .environment (.advance 1)]

def awaitedRun : List (TaskMoment Nat Nat String) × OwnedTask Nat Nat String :=
  (replay (taskStep worker.program fun _ => true) workerTask awaitedActions).get (by decide)

/-- A job is begun, and the handle is dropped while the worker waits. -/
def droppedActions : List (TaskAction Nat Nat String) := [
  .beginPoll, .loop .start, .loop .rearm, .loop .wait, .drop,
  .environment (.send ⟨"Start", some 7⟩), .loop .abort]

def droppedRun : List (TaskMoment Nat Nat String) × OwnedTask Nat Nat String :=
  (replay (taskStep worker.program fun _ => true) workerTask droppedActions).get (by decide)

theorem TaskExecutes.of_worker {actions : List (TaskAction Nat Nat String)}
    {trace : List (TaskMoment Nat Nat String)} {last : OwnedTask Nat Nat String}
    (replayed : replay (taskStep worker.program fun _ => true) workerTask actions =
      some (trace, last)) :
    TaskExecutes worker.program (fun _ => true) workerTask trace last :=
  ⟨⟨none, 0, false, 0, workerInitial, rfl, rfl⟩, run_of_replay replayed⟩

/-- The worker that was shut down gives its count. -/
theorem task_result_faithful_worker :
    ∃ earlier moment later, (awaitedRun.1.take 7).filterMap TaskMoment.ofMachine =
        earlier ++ moment :: later ∧
      moment.Yields worker.program (fun _ => true) (.ok 0) := by
  have replayed : replay (taskStep worker.program fun _ => true) workerTask awaitedActions =
      some awaitedRun := (Option.some_get _).symm
  have cut : awaitedRun.1 = awaitedRun.1.take 7 ++
      ((awaitedRun.1.get ⟨7, by decide⟩).1, .await) :: awaitedRun.1.drop 8 := rfl
  have ready : taskPoll (awaitedRun.1.get ⟨7, by decide⟩).1.machine = .ready (.ok 0) := rfl
  obtain ⟨⟨earlier, moment, later, split, yields, -⟩, -⟩ :=
    task_result_faithful (.of_worker replayed) cut ready
  exact ⟨earlier, moment, later, split, yields⟩

/-- The job that was sent after the drop is not begun. -/
theorem dropped_task_stops_worker :
    ((droppedRun.1.drop 5).filterMap TaskMoment.ofMachine).Forall Moment.Idle := by
  have replayed : replay (taskStep worker.program fun _ => true) workerTask droppedActions =
      some droppedRun := (Option.some_get _).symm
  have cut : droppedRun.1 = droppedRun.1.take 4 ++
      ((droppedRun.1.get ⟨4, by decide⟩).1, .drop) :: droppedRun.1.drop 5 := rfl
  have rest : droppedRun.1.drop 5 = [] ++
      (droppedRun.1.get ⟨5, by decide⟩) :: droppedRun.1.drop 6 := rfl
  exact List.forall_iff_forall_mem.mpr
    ((dropped_task_stops (.of_worker replayed) cut).2.1 _ _ _ _ rest rfl).1

/-- The worker is shut down in the midst of a job. -/
def shutDownRun : List (TaskMoment Nat Nat String) × OwnedTask Nat Nat String :=
  (replay (taskStep worker.program fun _ => true) workerTask [
    .beginPoll, .loop .start, .loop .rearm, .environment (.send ⟨"Start", some 7⟩),
    .loop .recvBranch, .loop (.handlerPending workerInitial.fsm),
    .environment .shutdown]).get (by decide)

theorem cancelled_task_settles_worker :
    ∃ more final, Run (taskStep worker.program fun _ => true) shutDownRun.2 more final ∧
      more.length ≤ 6 ∧ ∃ result, taskPoll final.machine = .ready result := by
  have replayed : replay (taskStep worker.program fun _ => true) workerTask _ =
      some shutDownRun := (Option.some_get _).symm
  obtain ⟨more, final, run, short, -, ready⟩ :=
    cancelled_task_settles worker (.of_worker replayed) rfl rfl
  exact ⟨more, final, run, short, ready⟩

end TokioFsm
