import TokioFsm.Acceptance
import TokioFsm.Executions

/-!
# The state timer

One sleep serves all states.  Whenever the loop is at its outer `select!` the
sleep is due exactly the timeout of the current state after the clock reading
with which that state was last entered, however many events were dropped in
between, so the timeout handler is never invoked early and never on behalf of
an earlier stay.
-/

namespace TokioFsm

open Fallible StepRuns

variable {Context Payload Failure : Type}

/-- The duration parsed for a state, common to all handlers that carry one and
can return the state; the loop's century otherwise. -/
inductive FsmStructure.TimeoutOf (fsm : FsmStructure) (state : Ident) : Nat → Prop
  | declared {handler : Handler} {duration : Duration} :
      handler ∈ fsm.handlers → handler.timeout = some duration → state ∈ handler.targets →
        fsm.TimeoutOf state duration.toNanos
  | undeclared : ¬ fsm.Timed state → fsm.TimeoutOf state (noTimeoutSecs * 1000000000)

/-- The state was entered with this clock reading, and no transition has been
applied since. -/
def LastEntered (trace : List (Moment Context Payload Failure)) (state : Ident)
    (reading : Nat) : Prop :=
  ∃ (before : List (Moment Context Payload Failure)) (config : Config Context Payload Failure)
    (after : List (Moment Context Payload Failure)),
      trace = before ++ (config, .loop .rearm) :: after ∧
        config.fsm.state = state ∧ config.clock = reading ∧
          ∀ moment ∈ after, moment.transition = none ∧ moment.entered = none

/-- The timer is due the timeout of the state after its last entry. -/
def Armed (program : GeneratedFsm) (trace : List (Moment Context Payload Failure))
    (config : Config Context Payload Failure) (state : Ident) : Prop :=
  ∃ reading, LastEntered trace state reading ∧ reading ≤ config.clock ∧
    config.deadline = reading + program.timeoutFor state

section Entering

variable {program : GeneratedFsm} {representable : Nat → Bool}
  {initial config next last : Config Context Payload Failure}
  {trace : List (Moment Context Payload Failure)} {state : Ident} {reading : Nat}

theorem LastEntered.of_rearm (trace : List (Moment Context Payload Failure))
    (config : Config Context Payload Failure) :
    LastEntered (trace ++ [(config, .loop .rearm)]) config.fsm.state config.clock :=
  ⟨trace, config, [], rfl, rfl, rfl, fun _ momentMem => absurd momentMem List.not_mem_nil⟩

theorem LastEntered.snoc {moment : Moment Context Payload Failure}
    (entered : LastEntered trace state reading) (noTransition : moment.transition = none)
    (noEntry : moment.entered = none) :
    LastEntered (trace ++ [moment]) state reading := by
  rcases entered with ⟨before, config, after, rfl, stateEq, readingEq, quiet⟩
  refine ⟨before, config, after ++ [moment], by simp, stateEq, readingEq, ?_⟩
  intro other otherMem
  rcases List.mem_append.mp otherMem with earlier | latest
  · exact quiet other earlier
  · rw [List.mem_singleton.mp latest]
    exact ⟨noTransition, noEntry⟩

/-- The last entry comes after every transition. -/
theorem LastEntered.of_append {first second : List (Moment Context Payload Failure)}
    {moment : Moment Context Payload Failure}
    (entered : LastEntered (first ++ moment :: second) state reading)
    (transition : moment.transition ≠ none) : LastEntered second state reading := by
  rcases entered with ⟨before, config, after, cut, stateEq, readingEq, quiet⟩
  have notRearm : moment ≠ (config, .loop .rearm) := fun equal => transition (by rw [equal]; rfl)
  rcases List.append_eq_append_iff.mp cut with ⟨gap, beforeEq, gapEq⟩ | ⟨gap, firstEq, gapEq⟩
  · cases gap with
    | nil => exact absurd (List.cons.inj gapEq).1 notRearm
    | cons head gap =>
        exact ⟨gap, config, after, (List.cons.inj gapEq).2, stateEq, readingEq, quiet⟩
  · cases gap with
    | nil => exact absurd (List.cons.inj gapEq).1.symm notRearm
    | cons head gap =>
        have momentMem : moment ∈ after := by
          rw [(List.cons.inj gapEq).2]
          simp
        exact absurd (quiet moment momentMem).1 transition

theorem Armed.snoc {moment : Moment Context Payload Failure}
    (armed : Armed program trace config state) (noTransition : moment.transition = none)
    (noEntry : moment.entered = none) (clockLe : config.clock ≤ next.clock)
    (sameDeadline : next.deadline = config.deadline) :
    Armed program (trace ++ [moment]) next state := by
  rcases armed with ⟨reading, entered, readingLe, deadlineEq⟩
  exact ⟨reading, entered.snoc noTransition noEntry, Nat.le_trans readingLe clockLe,
    sameDeadline.trans deadlineEq⟩

/-- A move of the task leaves both `select!`s, arms the timer, or keeps it as
it was. -/
theorem LoopMove.timer_cases {action : LoopAction Context Failure}
    (move : LoopMove program representable config action next) :
    ¬ next.phase.Selects ∨
      (action = .rearm ∧ next.loopState = config.fsm.state ∧ next.clock = config.clock ∧
        next.deadline = config.clock + program.timeoutFor config.fsm.state) ∨
      (config.phase.Selects ∧ Moment.transition (config, .loop action) = none ∧
        Moment.entered (config, .loop action) = none ∧ next.loopState = config.loopState ∧
          next.clock = config.clock ∧ next.deadline = config.deadline) := by
  cases move with
  | rearm isRearming fits => exact .inr (.inl ⟨rfl, rfl, rfl, rfl⟩)
  | wait isSelecting | expiredUnhandled isSelecting | unmatched isSelecting =>
      refine .inr (.inr ⟨?_, rfl, rfl, rfl, rfl, rfl⟩)
      rw [isSelecting]
      trivial
  | outOfBudget selects => exact .inr (.inr ⟨selects, rfl, rfl, rfl, rfl, rfl⟩)
  | expired isSelecting | matched isSelecting =>
      refine .inr (.inr ⟨?_, rfl, rfl, ?_, rfl, rfl⟩)
      · rw [isSelecting]
        trivial
      · rw [Config.loopState_of_selecting isSelecting]
        rfl
  | handlerPending isCalling =>
      refine .inr (.inr ⟨?_, rfl, rfl, ?_, rfl, rfl⟩)
      · rw [isCalling]
        trivial
      · simp [Config.loopState, isCalling]
  | @handlerReady _ _ _ _ _ result =>
      cases result with
      | ok target => exact .inl id
      | error error => exact .inl id
  | dropReceiver isEnded | dropSender isEnded =>
      exact .inl fun selects => selects.not_ended isEnded
  | start | overflow | cancelled | closed | handlerCancelled | handlerPanics | publish
  | abort => exact .inl id

/-- The deadline follows the state through every move. -/
theorem Executes.armed (executes : Executes program representable initial trace last) :
    last.phase.Selects → Armed program trace last last.loopState := by
  induction executes using Executes.rec_moves with
  | spawned _ begin =>
      intro selects
      rw [begin.phase_eq] at selects
      exact selects.elim
  | environment trace middle action last _ _ move armed =>
      intro selects
      rw [move.phase_eq] at selects
      rw [move.loopState_eq]
      exact (armed selects).snoc rfl rfl move.clock_le move.deadline_eq
  | loop trace middle action last _ _ move armed =>
      intro selects
      rcases move.timer_cases with left | ⟨rfl, stateEq, clockEq, deadlineEq⟩ |
        ⟨selected, noTransition, noEntry, stateEq, clockEq, deadlineEq⟩
      · exact absurd selects left
      · rw [stateEq]
        exact ⟨middle.clock, .of_rearm trace middle, Nat.le_of_eq clockEq.symm, deadlineEq⟩
      · rw [stateEq]
        exact (armed selected).snoc noTransition noEntry (Nat.le_of_eq clockEq.symm) deadlineEq

end Entering

section Accepted

variable {crates : Crates} {args : FsmArgs} {block : ItemImpl}
  (machine : AcceptedFsm crates args block) {representable : Nat → Bool}
  {initial last : Config Context Payload Failure}
  {trace : List (Moment Context Payload Failure)}

/-- The generated arms give every state its timeout. -/
theorem AcceptedFsm.timeoutOf_iff {state : Ident} {nanos : Nat} :
    machine.fsm.TimeoutOf state nanos ↔ nanos = machine.program.timeoutFor state := by
  constructor
  · intro timeout
    cases timeout with
    | declared handlerMem timeoutEq targetMem =>
        exact (machine.timeoutFor_eq handlerMem timeoutEq targetMem).symm
    | undeclared untimed => exact (machine.timeoutFor_eq_noTimeout untimed).symm
  · rintro rfl
    by_cases timed : machine.fsm.Timed state
    · rcases timed with ⟨handler, handlerMem, hasTimeout, targetMem⟩
      rcases Option.isSome_iff_exists.mp hasTimeout with ⟨duration, timeoutEq⟩
      rw [machine.timeoutFor_eq handlerMem timeoutEq targetMem]
      exact .declared handlerMem timeoutEq targetMem
    · rw [machine.timeoutFor_eq_noTimeout timed]
      exact .undeclared timed

/-- At the outer `select!` the timer is due the timeout of the current state
after the clock reading of its last entry, and whenever it fires that timeout
has passed since the state was last entered. -/
theorem deadline_follows_state
    (executes : Executes machine.program representable initial trace last) :
    (∀ state, ∃! nanos, machine.fsm.TimeoutOf state nanos) ∧
      (last.phase = .selecting →
        last.fsm.state = lastTarget machine.program trace ∧
          ∃ reading, LastEntered trace last.fsm.state reading ∧ reading ≤ last.clock ∧
            ∀ nanos, machine.fsm.TimeoutOf last.fsm.state nanos →
              last.deadline = reading + nanos) ∧
      ∀ before config after, trace = before ++ (config, .loop .timerBranch) :: after →
        ∃ reading, LastEntered before config.fsm.state reading ∧
          ∀ nanos, machine.fsm.TimeoutOf config.fsm.state nanos →
            reading + nanos ≤ config.clock := by
  have atSelect {trace : List (Moment Context Payload Failure)}
      {config : Config Context Payload Failure}
      (executes : Executes machine.program representable initial trace config)
      (isSelecting : config.phase = .selecting) :
      ∃ reading, LastEntered trace config.fsm.state reading ∧ reading ≤ config.clock ∧
        ∀ nanos, machine.fsm.TimeoutOf config.fsm.state nanos →
          config.deadline = reading + nanos := by
    have armed := executes.armed (by rw [isSelecting]; trivial)
    rw [Config.loopState_of_selecting isSelecting] at armed
    rcases armed with ⟨reading, entered, readingLe, deadlineEq⟩
    refine ⟨reading, entered, readingLe, fun nanos timeout => ?_⟩
    rw [machine.timeoutOf_iff.mp timeout, deadlineEq]
  refine ⟨?_, ?_, ?_⟩
  · intro state
    exact ⟨_, machine.timeoutOf_iff.mpr rfl, fun _ => machine.timeoutOf_iff.mp⟩
  · intro isSelecting
    refine ⟨?_, atSelect executes isSelecting⟩
    rw [← Config.loopState_of_selecting isSelecting]
    exact executes.loopState_eq (by rw [isSelecting]; exact id)
  · intro before config after cut
    rcases executes.moment cut with ⟨toConfig, next, taken, -⟩
    have fired : config.phase = .selecting ∧ config.deadline ≤ config.clock := by
      cases LoopMove.of_loopStep taken with
      | expiredUnhandled isSelecting isDue => exact ⟨isSelecting, isDue⟩
      | expired isSelecting isDue => exact ⟨isSelecting, isDue⟩
    rcases atSelect toConfig fired.1 with ⟨reading, entered, -, deadlineEq⟩
    refine ⟨reading, entered, fun nanos timeout => ?_⟩
    rw [← deadlineEq nanos timeout]
    exact fired.2

end Accepted

/-! ## A run of the worker machine -/

/-- A worker that counts the jobs it was given. -/
def workerInitial : Config Nat Nat String where
  fsm := ⟨"Idle", 0, none⟩
  clock := 0
  cancelled := false
  watch := { value := "Idle" }

/-- A job is started and times out, and then the handle is dropped. -/
def workerActions : List (Action Nat Nat String) := [
  .loop .start, .loop .rearm,
  .environment (.send ⟨"Start", some 7⟩), .loop .recvBranch,
  .loop (.handlerReady ⟨"Idle", 1, none⟩ (.transition "Working")),
  .loop .publish, .loop .rearm,
  .environment (.advance 30000000000), .loop .timerBranch,
  .loop (.handlerReady ⟨"Working", 1, none⟩ (.transition "Idle")),
  .loop .publish, .loop .rearm,
  .environment .dropHandle, .loop .recvBranch]

/-- The moments of that run, and where it ends. -/
def workerRun : List (Moment Nat Nat String) × Config Nat Nat String :=
  (replay (step worker.program fun _ => true) workerInitial workerActions).get (by decide)

theorem workerRun_executes :
    Executes worker.program (fun _ => true) workerInitial workerRun.1 workerRun.2 := by
  have replayed : replay (step worker.program fun _ => true) workerInitial workerActions =
      some workerRun := (Option.some_get _).symm
  exact .of_replay ⟨none, 0, false, 0, rfl⟩ replayed

/-- The timer fired thirty seconds after the worker had begun to work. -/
theorem deadline_follows_state_worker :
    ∃ before config after, workerRun.1 = before ++ (config, .loop .timerBranch) :: after ∧
      ∃ reading, LastEntered before "Working" reading ∧
        reading + 30000000000 ≤ config.clock := by
  have cut : workerRun.1 = workerRun.1.take 8 ++
      ((workerRun.1.get ⟨8, by decide⟩).1, .loop .timerBranch) :: workerRun.1.drop 9 := rfl
  refine ⟨_, _, _, cut, ?_⟩
  have timeout : worker.fsm.TimeoutOf "Working" 30000000000 :=
    worker.timeoutOf_iff.mpr (by decide)
  rcases (deadline_follows_state worker workerRun_executes).2.2 _ _ _ cut with
    ⟨reading, entered, due⟩
  exact ⟨reading, entered, due _ timeout⟩

end TokioFsm
