import TokioFsm.Shutdown
import TokioFsm.Library.Potential

/-!
# Draining an abandoned machine

Once the last handle is gone nothing new can be sent, so the loop has only the
queue before it.  Each event costs at most four moves of the task: it is
received, its handler finishes, the new state is published and the timer is
reset.  A timer that fires brings a call of its own.  Nothing else keeps the
task from returning, and it can return from wherever it is.
-/

namespace TokioFsm

open StepRuns

variable {Context Payload Failure : Type}

/-- How far the task is from receiving once more, and from there to its end. -/
def Phase.toGo : Phase Context Payload Failure → Nat
  | .calling _ _ _ => 4
  | .publishing => 3
  | .starting => 3
  | .rearming => 2
  | .selecting => 1
  | .returned _ | .panicked | .aborted => 0

def Config.toGo (config : Config Context Payload Failure) : Nat :=
  4 * config.queue.length + config.phase.toGo

/-- The task gets on: it makes a move that is neither the polling of a body
that stays pending nor a suspension for want of budget. -/
def Moment.works : Moment Context Payload Failure → Bool
  | (_, .environment _) | (_, .loop (.handlerPending _)) | (_, .loop .outOfBudget) => false
  | (_, .loop .dropReceiver) | (_, .loop .dropSender) => false
  | _ => true

def Moment.fires : Moment Context Payload Failure → Bool
  | (_, .loop .timerBranch) => true
  | _ => false

/-- The loop serves its queue, and handlers finish. -/
def Moment.Serves : Moment Context Payload Failure → Prop
  | (_, .loop .start) | (_, .loop .rearm) | (_, .loop .recvBranch) => True
  | (_, .loop (.handlerReady _ _)) | (_, .loop .publish) => True
  | _ => False

section Moves

variable {program : GeneratedFsm} {representable : Nat → Bool}
  {config next : Config Context Payload Failure}

theorem Phase.Suspended.toGo_pos {phase : Phase Context Payload Failure}
    (isSuspended : phase.Suspended) : 0 < phase.toGo := by
  cases phase with
  | starting | selecting | calling => simp [Phase.toGo]
  | rearming | publishing | returned | panicked | aborted => exact isSuspended.elim

/-- Without a handle every move of the task brings it nearer to the end, but
for the timer, which may bring a call. -/
theorem LoopMove.toGo_le {action : LoopAction Context Failure}
    (move : LoopMove program representable config action next) (noHandle : config.handles = 0) :
    (Moment.works (config, .loop action)).toNat + next.toGo ≤
      config.toGo + 4 * (Moment.fires (config, .loop action)).toNat := by
  cases move with
  | start isStarting =>
      simp [Config.toGo, Moment.works, Phase.toGo, isStarting]
      omega
  | rearm isRearming | overflow isRearming =>
      simp [Config.toGo, Moment.works, Phase.toGo, isRearming]
      omega
  | wait _ _ _ hasHandle => omega
  | outOfBudget => simp [Moment.works]
  | expiredUnhandled =>
      simp [Moment.works, Moment.fires]
      omega
  | expired isSelecting =>
      simp [Config.toGo, Moment.works, Moment.fires, Phase.toGo, isSelecting]
      omega
  | cancelled isSelecting | closed isSelecting =>
      simp [Config.toGo, Moment.works, Phase.toGo, isSelecting]
      omega
  | unmatched isSelecting queued | matched isSelecting queued =>
      simp [Config.toGo, Moment.works, Phase.toGo, EventArm.invoke, isSelecting, queued]
      omega
  | handlerPending => simp [Config.toGo, Moment.works]
  | @handlerReady _ _ _ _ _ result isCalling =>
      cases result with
      | ok target | error error =>
          simp [Config.toGo, Moment.works, Phase.toGo, applyResult, isCalling]
          omega
  | handlerCancelled isCalling | handlerPanics isCalling =>
      simp [Config.toGo, Moment.works, Phase.toGo, isCalling]
      omega
  | publish isPublishing =>
      simp [Config.toGo, Moment.works, Phase.toGo, isPublishing]
      omega
  | abort isSuspended =>
      have positive := isSuspended.toGo_pos
      have none : (Phase.aborted : Phase Context Payload Failure).toGo = 0 := rfl
      simp [Config.toGo, Moment.works, none]
      omega
  | dropReceiver =>
      simp [Config.toGo, Moment.works]
      omega
  | dropSender => simp [Config.toGo, Moment.works]

theorem EnvironmentMove.toGo_eq {sent : List (EventValue Payload)}
    (move : EnvironmentMove program config sent next) (noHandle : config.handles = 0) :
    next.toGo = config.toGo := by
  have nothingSent : sent = [] := by
    by_contra sent
    have hasHandle := (move.sent_of sent).1
    omega
  rw [Config.toGo, Config.toGo, move.phase_eq, move.queue_eq, nothingSent, List.append_nil]

end Moves

/-! ## Abandoned machines -/

/-- A configuration of some execution, with no handle left. -/
def Abandoned (program : GeneratedFsm) (representable : Nat → Bool)
    (config : Config Context Payload Failure) : Prop :=
  (∃ initial trace, Executes program representable initial trace config) ∧ config.handles = 0

/-- The task has just returned its context with nothing queued, or panicked
on a timer that cannot be set. -/
structure Config.Drained (config : Config Context Payload Failure) : Prop where
  receiverLeft : config.receiverDropped = false
  outcome : (∃ context, config.phase = .returned (.ok context)) ∧ config.queue = [] ∨
    config.phase = .panicked

/-- An abandoned task that is not over, unless it is drained. -/
structure Draining (program : GeneratedFsm) (representable : Nat → Bool)
    (config : Config Context Payload Failure) : Prop where
  abandoned : Abandoned program representable config
  goesOn : ¬ config.phase.Ended ∨ config.Drained

section Abandoned

variable {program : GeneratedFsm} {representable : Nat → Bool}
  {config next : Config Context Payload Failure}

theorem Abandoned.snoc {action : Action Context Payload Failure}
    (abandoned : Abandoned program representable config)
    (taken : step program representable config action = some next) :
    Abandoned program representable next := by
  obtain ⟨⟨initial, trace, executes⟩, noHandle⟩ := abandoned
  refine ⟨⟨initial, _, executes.snoc taken⟩, ?_⟩
  cases action with
  | environment action => exact (EnvironmentMove.of_environmentStep taken).handles_of noHandle
  | loop action => exact (LoopMove.of_loopStep taken).frame.2.1.trans noHandle

/-- The work that is left, as an account that the timer may raise. -/
def drainPotential (program : GeneratedFsm) (representable : Nat → Bool) :
    Potential (step program representable :
      Config Context Payload Failure → Action Context Payload Failure → Option _) where
  domain := Abandoned program representable
  value := Config.toGo
  counts := Moment.works
  paysIn := Moment.fires
  rate := 4
  domain_step := Abandoned.snoc
  balance {config next action} abandoned taken := by
    cases action with
    | environment action =>
        rw [(EnvironmentMove.of_environmentStep taken).toGo_eq abandoned.2]
        simp [Moment.works]
    | loop action => exact (LoopMove.of_loopStep taken).toGo_le abandoned.2

/-- Without a handle the loop does not wait for events. -/
theorem not_wait_of_abandoned {after : List (Moment Context Payload Failure)}
    {last : Config Context Payload Failure} (abandoned : Abandoned program representable config)
    (run : Run (step program representable) config after last)
    (idle : Config Context Payload Failure) : (idle, Action.loop .wait) ∉ after := by
  intro waits
  obtain ⟨before, rest, cut⟩ := List.append_of_mem waits
  obtain ⟨toIdle, _, taken, -⟩ := run.moment cut
  have stillAbandoned := ((drainPotential program representable).countP_le abandoned toIdle).1
  cases LoopMove.of_loopStep taken with
  | wait _ _ _ hasHandle =>
      have noHandle := stillAbandoned.2
      omega

theorem Moment.Serves.works_eq {moment : Moment Context Payload Failure}
    (serves : moment.Serves) :
    moment.works = true ∧ moment.fires = false ∧ moment.accepted = none := by
  unfold Moment.Serves at serves
  split at serves
  any_goals exact ⟨rfl, rfl, rfl⟩
  exact serves.elim

end Abandoned

section Accepted

variable {crates : Crates} {args : FsmArgs} {block : ItemImpl}
  (machine : AcceptedFsm crates args block) {representable : Nat → Bool}
  {initial config middle last : Config Context Payload Failure}
  {trace before after : List (Moment Context Payload Failure)}

/-- As long as the task is not over it can go on by itself, or end for good. -/
theorem Sound.exists_serves (sound : Sound machine.program config)
    (noHandle : config.handles = 0) (notEnded : ¬ config.phase.Ended) :
    ∃ action next, Moment.Serves (config, .loop action) ∧
      LoopMove machine.program representable config action next ∧
        (¬ next.phase.Ended ∨ next.Drained) := by
  have receiverLeft := (sound.channels_open notEnded).1
  cases phaseEq : config.phase with
  | starting => exact ⟨.start, _, trivial, .start phaseEq, .inl id⟩
  | rearming =>
      by_cases fits :
          representable (config.clock + machine.program.timeoutFor config.fsm.state) = true
      · exact ⟨.rearm, _, trivial, .rearm phaseEq fits, .inl id⟩
      · exact ⟨.rearm, _, trivial, .overflow phaseEq (Bool.eq_false_iff.mpr fits),
          .inr ⟨receiverLeft, .inr rfl⟩⟩
  | selecting =>
      cases queued : config.queue with
      | nil =>
          exact ⟨.recvBranch, _, trivial, .closed phaseEq queued noHandle,
            .inr ⟨receiverLeft, .inl ⟨⟨_, rfl⟩, queued⟩⟩⟩
      | cons event queue =>
          cases found : machine.program.matchArm config.fsm.state event.variant with
          | none =>
              refine ⟨.recvBranch, _, trivial, .unmatched phaseEq queued found, .inl ?_⟩
              simp [phaseEq, Phase.Ended]
          | some arm => exact ⟨.recvBranch, _, trivial, .matched phaseEq queued found, .inl id⟩
  | calling call argument entry =>
      -- the body may finish at its next poll, with a state of its return type
      obtain ⟨-, callFrom⟩ := sound.calling call argument entry phaseEq
      obtain ⟨-, -, arity⟩ := machine.callFrom_spec callFrom
      have returnsState : 0 < call.handler.targets.length := by
        rw [arity]
        cases call.returnKind <;> decide
      obtain ⟨target, targetMem⟩ := List.exists_mem_of_length_pos returnsState
      obtain ⟨output, returns, dispatched⟩ := HandlerCall.exists_returns Failure arity targetMem
      exact ⟨.handlerReady config.fsm output, _, trivial,
        .handlerReady phaseEq sound.state_mem returns dispatched, .inl id⟩
  | publishing => exact ⟨.publish, _, trivial, .publish phaseEq, .inl id⟩
  | returned | panicked | aborted =>
      rw [phaseEq] at notEnded
      exact absurd trivial notEnded

/-- Serving nothing but its queue, an abandoned machine reaches its end. -/
theorem Abandoned.exists_drain (abandoned : Abandoned machine.program representable config)
    (notEnded : ¬ config.phase.Ended) :
    ∃ drain final, Run (step machine.program representable) config drain final ∧
      final.Drained ∧ drain.length + final.toGo ≤ config.toGo ∧
        ∀ moment ∈ drain, Moment.Serves moment := by
  refine exists_run_of_progress (Draining machine.program representable) Config.Drained
    Moment.Serves Config.toGo ?_ ⟨abandoned, .inl notEnded⟩
  rintro current ⟨stillAbandoned, notEnded | drained⟩
  · obtain ⟨_, _, toCurrent⟩ := stillAbandoned.1
    obtain ⟨action, next, serves, move, goesOn⟩ :
        ∃ action next, Moment.Serves (current, .loop action) ∧
          LoopMove machine.program representable current action next ∧
            (¬ next.phase.Ended ∨ next.Drained) :=
      (toCurrent.sound machine).exists_serves machine stillAbandoned.2 notEnded
    have lower := move.toGo_le stillAbandoned.2
    obtain ⟨works, notFires, -⟩ := serves.works_eq
    rw [works, notFires, Bool.toNat_true, Bool.toNat_false] at lower
    exact .inr ⟨.loop action, next, serves, move.step_eq,
      ⟨stillAbandoned.snoc move.step_eq, goesOn⟩, by omega⟩
  · exact .inl drained

/-- What a drained machine has served is what was queued. -/
theorem Executes.received_drain
    (executes : Executes machine.program representable initial trace config)
    {drain : List (Moment Context Payload Failure)}
    (run : Run (step machine.program representable) config drain last)
    (notEnded : ¬ config.phase.Ended) (receiverLeft : last.receiverDropped = false)
    (serves : ∀ moment ∈ drain, Moment.Serves moment) :
    config.queue = drain.filterMap Moment.received ++ last.queue := by
  have whole : Executes machine.program representable initial (trace ++ drain) last :=
    ⟨executes.spawned, executes.run.append run⟩
  have nothingAccepted : drain.filterMap Moment.accepted = [] :=
    List.filterMap_eq_nil_iff.mpr fun moment momentMem => (serves moment momentMem).works_eq.2.2
  have queuedBefore := (executes.conserved machine).accepted_eq
    ((executes.sound machine).channels_open notEnded).1
  have queuedAfter := (whole.conserved machine).accepted_eq receiverLeft
  rw [List.filterMap_append, List.filterMap_append, nothingAccepted, List.append_nil,
    queuedBefore, List.append_assoc] at queuedAfter
  exact List.append_cancel_left queuedAfter

/-- Without handles the moves of the task are bounded by what is queued and by
the calls its timer brings, it never waits for events, and from wherever it is
it can serve its queue, in order and by itself, and return. -/
theorem abandoned_machine_drains
    (executes : Executes machine.program representable initial before middle)
    (noHandle : middle.handles = 0)
    (rest : Run (step machine.program representable) middle after last) :
    after.countP Moment.works + last.toGo ≤ middle.toGo + 4 * after.countP Moment.fires ∧
    (∀ idle, (idle, Action.loop .wait) ∉ after) ∧
    (¬ last.phase.Ended →
      ∃ drain final, Run (step machine.program representable) last drain final ∧
        drain.length ≤ last.toGo ∧ (∀ moment ∈ drain, Moment.Serves moment) ∧
          last.queue = drain.filterMap Moment.received ++ final.queue ∧
            ((∃ context, final.phase = .returned (.ok context)) ∧ final.queue = [] ∨
              final.phase = .panicked)) := by
  have abandoned : Abandoned machine.program representable middle :=
    ⟨⟨initial, before, executes⟩, noHandle⟩
  have account := (drainPotential machine.program representable).countP_le abandoned rest
  refine ⟨account.2, not_wait_of_abandoned abandoned rest, fun notEnded => ?_⟩
  obtain ⟨drain, final, run, drained, short, serves⟩ :
      ∃ drain final, Run (step machine.program representable) last drain final ∧
        final.Drained ∧ drain.length + final.toGo ≤ last.toGo ∧
          ∀ moment ∈ drain, Moment.Serves moment := account.1.exists_drain machine notEnded
  have toLast : Executes machine.program representable initial (before ++ after) last :=
    ⟨executes.spawned, executes.run.append rest⟩
  exact ⟨drain, final, run, by omega, serves,
    toLast.received_drain machine run notEnded drained.receiverLeft serves, drained.outcome⟩

end Accepted

/-- The worker's only handle is dropped with a job in the queue. -/
def abandoningActions : List (Action Nat Nat String) := [
  .loop .start, .loop .rearm, .environment (.send ⟨"Start", some 7⟩), .environment .dropHandle]

def abandoningRun : List (Moment Nat Nat String) × Config Nat Nat String :=
  (replay (step worker.program fun _ => true) workerInitial abandoningActions).get (by decide)

theorem abandoningRun_executes :
    Executes worker.program (fun _ => true) workerInitial abandoningRun.1 abandoningRun.2 := by
  have replayed : replay (step worker.program fun _ => true) workerInitial abandoningActions =
      some abandoningRun := (Option.some_get _).symm
  exact .of_replay ⟨none, 0, false, 0, rfl⟩ replayed

/-- Five moves are enough for the job that was left. -/
theorem abandoned_machine_drains_worker :
    ∃ drain final, Run (step worker.program fun _ => true) abandoningRun.2 drain final ∧
      drain.length ≤ 5 ∧
        [⟨"Start", some 7⟩] = drain.filterMap Moment.received ++ final.queue := by
  obtain ⟨drain, final, run, short, -, served, -⟩ :=
    (abandoned_machine_drains worker abandoningRun_executes rfl .refl).2.2 id
  exact ⟨drain, final, run, short, served⟩

end TokioFsm
