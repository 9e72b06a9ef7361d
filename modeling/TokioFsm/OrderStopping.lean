import TokioFsm.OrderLifecycle
import TokioFsm.Library.Potential

/-!
# Orders that leave the map

An order that is stopped has left the map before its machine is shut down.  The
machine then needs nobody but itself to come to its end, and once it has ended
nothing happens to it any more.  A machine made for an order that exists
already never comes into the map.
-/

namespace TokioFsm

open StepRuns WatchChannel

section Leaving

variable {representable : Nat → Bool} {server middle next last : AppServer}
  {action : ServerAction} {trace before after : List ServerMoment} {machine : Nat}

/-- The machine is not in the map, and nobody is about to put it there. -/
structure AppServer.Withdrawn (server : AppServer) (machine : Nat) : Prop where
  made : machine < server.machines.length
  notUpcoming : ¬ server.Upcoming machine

theorem AppServer.Withdrawn.move (withdrawn : server.Withdrawn machine)
    (move : ServerMove representable server action next) : next.Withdrawn machine where
  made := Nat.lt_of_lt_of_le withdrawn.made move.machines_length
  notUpcoming upcoming := by
    obtain wasUpcoming | isNew := move.upcoming_cases upcoming
    · exact withdrawn.notUpcoming wasUpcoming
    · exact absurd withdrawn.made (by omega)

theorem AppServer.Withdrawn.not_registered (withdrawn : server.Withdrawn machine) (id : String) :
    server.orders.lookup id ≠ some machine :=
  fun found => withdrawn.notUpcoming (.inl ⟨id, found⟩)

/-- Who owns the task of a machine outside the map withdraws it. -/
theorem AppServer.Accounted.withdrawn (accounted : server.Accounted) {index : Nat}
    {request : Request} {task : OrderTask} (found : server.requests[index]? = some request)
    (present : server.machines[machine]? = some task) (owns : request.ownsTask machine = true)
    (notCreating : ∀ id, request ≠ .creating id machine) : server.Withdrawn machine where
  made := (List.getElem?_eq_some_iff.mp present).1
  notUpcoming := accounted.not_upcoming found owns notCreating

/-! ## Orders that were stopped -/

theorem OrderStep.settled {task task' : OrderTask} {sent : Option Ident}
    (moved : OrderStep representable task sent task') (settled : Settled task.machine) :
    Settled task'.machine ∧ task'.machine.watch.value = task.machine.watch.value ∧
      sent = none := by
  obtain ⟨taskAction, taken, -, accepted⟩ := moved
  obtain ⟨stillSettled, -, sameValue, outside⟩ := run_of_settled (Run.single taken) settled
  refine ⟨stillSettled, sameValue, ?_⟩
  have notAccepted : (TaskMoment.ofMachine (task, taskAction)).bind Moment.accepted = none := by
    cases isMachine : TaskMoment.ofMachine (task, taskAction) with
    | none => rfl
    | some moment => exact (outside moment (by simp [isMachine])).2
  rw [notAccepted] at accepted
  exact Option.map_eq_none_iff.mp accepted.symm

/-- A machine that has settled outside the map stays there as it is. -/
theorem AppServer.Withdrawn.run_of_settled (withdrawn : middle.Withdrawn machine)
    (goesOn : Run (AppServer.step representable) middle after last) {task : OrderTask}
    (present : middle.machines[machine]? = some task) (settled : Settled task.machine) :
    last.Withdrawn machine ∧ after.filterMap (ServerMoment.delivered machine) = [] ∧
      ∃ task', last.machines[machine]? = some task' ∧ Settled task'.machine ∧
        task'.machine.watch.value = task.machine.watch.value := by
  induction goesOn with
  | refl => exact ⟨withdrawn, rfl, task, present, settled, rfl⟩
  | snoc _ taken ih =>
      obtain ⟨reached, nothing, task', stillPresent, stillSettled, sameValue⟩ := ih
      have move := ServerMove.of_step taken
      obtain ⟨task'', present'', moved⟩ := move.exists_next stillPresent
      rw [filterMap_snoc, nothing, List.nil_append, Option.toList_eq_nil_iff]
      obtain ⟨rfl, notDelivered⟩ | moved := moved
      · exact ⟨reached.move move, notDelivered, _, present'', stillSettled, sameValue⟩
      · obtain ⟨settled'', value'', notDelivered⟩ := moved.settled stillSettled
        exact ⟨reached.move move, notDelivered, task'', present'', settled'',
          value''.trans sameValue⟩

/-- Who owns the task of a machine owns a handle of it too. -/
theorem AppServer.Accounted.exists_task (accounted : server.Accounted) {index : Nat}
    {request : Request} (found : server.requests[index]? = some request)
    (owns : request.ownsTask machine = true) (ownsHandle : request.ownsHandle machine = true) :
    ∃ task, server.machines[machine]? = some task ∧ task.held = true ∧
      0 < task.machine.handles := by
  have tasks := accounted.tasks machine
  have handles := accounted.handles machine
  have owner := AppServer.countP_pos found owns
  have handleOwner := AppServer.countP_pos found ownsHandle
  rw [AppServer.taskOwners, AppServer.held] at tasks
  rw [AppServer.handleOwners, AppServer.handles] at handles
  cases present : server.machines[machine]? with
  | none =>
      rw [present] at tasks
      dsimp only [Option.elim] at tasks
      omega
  | some task =>
      rw [present] at tasks handles
      dsimp only [Option.elim] at tasks handles
      have atMostOne := Bool.toNat_le task.held
      exact ⟨task, rfl, Bool.toNat_eq_one.mp (by omega), by omega⟩

/-- Nobody but its owner can abort a task. -/
theorem ServiceRun.not_aborted (run : ServiceRun representable trace last) {task : OrderTask}
    (present : last.machines[machine]? = some task) (isHeld : task.held = true) :
    task.abortRequested = false ∧ task.machine.phase ≠ .aborted := by
  obtain ⟨initial, taskTrace, executes, -⟩ := run.taskExecutes present
  have notAborted : task.abortRequested = false := by
    have heldEq := executes.sound.held_eq
    rw [isHeld] at heldEq
    simpa using heldEq.symm
  refine ⟨notAborted, fun isAborted => ?_⟩
  rw [executes.sound.aborted isAborted] at notAborted
  cases notAborted

/-- The handlers of an order do not fail. -/
theorem Phase.Reports.of_order {phase : Phase OrderContext Empty Empty}
    {result : Except (TaskError Empty) OrderContext} (reports : phase.Reports result)
    (notAborted : phase ≠ .aborted) :
    (∃ context, result = .ok context) ∨ result = .error (.join .panicked) := by
  cases result with
  | ok context => exact .inl ⟨context, rfl⟩
  | error error =>
      cases error with
      | fsm error => exact error.elim
      | join error =>
          cases error with
          | panicked => exact .inr rfl
          | cancelled =>
              cases phase with
              | aborted => exact absurd rfl notAborted
              | returned result => cases result <;> exact reports.elim
              | starting | rearming | selecting | calling | publishing | panicked =>
                  exact reports.elim

/-- When a request that stops an order is answered, the machine has returned or
has panicked.  It stays as it is, outside the map: it is sent nothing any more,
and who still waits to send to it is told that it is closed. -/
theorem stopped_order_final {index : Nat} {task : OrderTask}
    {result : Except (TaskError Empty) OrderContext}
    (run : ServiceRun representable trace last)
    (cut : trace = before ++ (server, .join index) :: after)
    (stopping : server.requests[index]? = some (.stopping machine))
    (present : server.machines[machine]? = some task)
    (ready : taskPoll task.machine = .ready result) :
    ((∃ context, result = .ok context) ∨ result = .error (.join .panicked)) ∧
    (∀ id, last.orders.lookup id ≠ some machine) ∧
    after.filterMap (ServerMoment.delivered machine) = [] ∧
    (∃ task', last.machines[machine]? = some task' ∧ Settled task'.machine ∧
      task'.machine.watch.value = task.machine.watch.value) ∧
    ∀ (other : Nat) event started next,
      last.requests[other]? = some (.sending machine event started) →
        last.step representable (.deliver other) = some next →
          next.requests[other]? =
            some (.leaving machine false (some AppError.fsmClosed.intoResponse)) := by
  obtain ⟨clock, run⟩ := run
  obtain ⟨toServer, next, taken, fromNext⟩ := run.moment cut
  have serverRun : ServiceRun representable before server := ⟨clock, toServer⟩
  have owns : (Request.stopping machine).ownsTask machine = true := decide_eq_true rfl
  have withdrawn := serverRun.accounted.withdrawn stopping present owns (by simp)
  obtain ⟨settled, reports⟩ := taskPoll_eq_ready ready
  have goesOn := (Run.single taken).append fromNext
  obtain ⟨stillWithdrawn, nothing, task', present', settled', sameValue⟩ :=
    withdrawn.run_of_settled goesOn present settled
  obtain ⟨owned, isPresent, isHeld, -⟩ := serverRun.accounted.exists_task stopping owns owns
  rw [present] at isPresent
  cases isPresent
  refine ⟨reports.of_order (serverRun.not_aborted present isHeld).2,
    stillWithdrawn.not_registered, nothing, ⟨task', present', settled', sameValue⟩, ?_⟩
  intro other event started next sending answered
  cases ServerMove.of_step answered with
  | notFound path | cloned path => cases path
  | gone sending' =>
      rw [sending] at sending'
      cases sending'
      obtain ⟨inside, -⟩ := List.getElem?_eq_some_iff.mp sending
      exact List.getElem?_set_self inside
  | delivered sending' present'' receiverLeft _ =>
      rw [sending] at sending'
      cases sending'
      rw [present'] at present''
      cases present''
      rw [settled'.receiverDropped] at receiverLeft
      cases receiverLeft

/-! ## How an order is stopped -/

theorem taskStep_joined {task task' : OrderTask} {taskAction : TaskAction OrderContext Empty Empty}
    (taken : taskStep order.program representable task taskAction = some task')
    (isJoined : task'.joined = true) (isHeld : task'.held = true) :
    (task.joined = true ∧ task.held = true) ∨
      (taskAction = .await ∧ taskPoll task.machine ≠ .pending) := by
  cases TaskMove.of_taskStep taken with
  | environment | beginPoll | loop | pending => exact .inl ⟨isJoined, isHeld⟩
  | ready _ _ isReady => exact .inr ⟨rfl, by simp [isReady]⟩
  | drop => cases isHeld

/-- A task that has given its result belongs to a request that is leaving. -/
theorem ServerMove.joined_cases (move : ServerMove representable server action next)
    {task' : OrderTask} (present' : next.machines[machine]? = some task')
    (isJoined : task'.joined = true) (isHeld : task'.held = true) :
    (∃ task, server.machines[machine]? = some task ∧ task.joined = true ∧ task.held = true) ∨
      ∃ (index : Nat) (response : Option Response),
        next.requests[index]? = some (.leaving machine true response) := by
  have kept {put : Nat} {task task'' : OrderTask}
      {taskAction : TaskAction OrderContext Empty Empty}
      (present : server.machines[put]? = some task)
      (taken : taskStep order.program representable task taskAction = some task'')
      (notReady : taskAction ≠ .await ∨ taskPoll task.machine = .pending)
      (present' : (server.put put task'').machines[machine]? = some task') :
      ∃ task, server.machines[machine]? = some task ∧ task.joined = true ∧ task.held = true := by
    obtain ⟨rfl, rfl⟩ | present' := AppServer.getElem?_put present'
    · obtain wasJoined | ⟨awaits, isReady⟩ := taskStep_joined taken isJoined isHeld
      · exact ⟨task, present, wasJoined⟩
      · obtain notAwait | isPending := notReady
        · exact absurd awaits notAwait
        · exact absurd isPending isReady
    · exact ⟨task', present', isJoined, isHeld⟩
  cases move with
  | notFound | duplicate | inserted | status | removed | gone | disconnected =>
      exact .inl ⟨task', present', isJoined, isHeld⟩
  | spawned =>
      rw [AppServer.spawn, List.getElem?_append] at present'
      split at present'
      next => exact .inl ⟨task', present', isJoined, isHeld⟩
      next =>
        rw [List.getElem?_singleton] at present'
        split at present'
        next =>
          cases present'
          cases isJoined
        next => cases present'
  | cloned _ _ _ present taken | delivered _ present _ taken | shutdown _ present taken
  | droppedTask _ present taken | droppedHandle _ present taken | beginPoll present taken
  | loop present _ taken =>
      exact .inl (kept present taken (.inl (by simp)) present')
  | pending _ present isPending taken =>
      exact .inl (kept present taken (.inr isPending) present')
  | joined stopping present _ taken =>
      obtain ⟨rfl, -⟩ | present' := AppServer.getElem?_put present'
      · obtain ⟨inside, -⟩ := List.getElem?_eq_some_iff.mp stopping
        exact .inr ⟨_, _, List.getElem?_set_self inside⟩
      · exact .inl ⟨task', present', isJoined, isHeld⟩
  | advanced =>
      rw [AppServer.advance, List.getElem?_map, Option.map_eq_some_iff] at present'
      obtain ⟨task, present, rfl⟩ := present'
      exact .inl ⟨task, present, isJoined, isHeld⟩

theorem AppServer.getElem?_goOn_of_ne {index other : Nat} {old request found : Request}
    (present : server.requests[index]? = some found) (old_eq : server.requests[other]? = some old)
    (different : old ≠ found) : (server.goOn other request).requests[index]? = some found := by
  have notSame : other ≠ index := by
    rintro rfl
    rw [old_eq] at present
    exact different (Option.some.inj present)
  exact (List.getElem?_set_ne notSame).trans present

/-- A request that is leaving with a task drops it next. -/
theorem ServerMove.leaving_cases (move : ServerMove representable server action next)
    {index : Nat} {response : Option Response}
    (leaving : server.requests[index]? = some (.leaving machine true response)) :
    next.requests[index]? = some (.leaving machine true response) ∨
      ∃ task', next.machines[machine]? = some task' ∧ task'.held = false := by
  obtain ⟨inside, -⟩ := List.getElem?_eq_some_iff.mp leaving
  cases move with
  | notFound | spawned | status | removed | cloned =>
      exact .inl ((List.getElem?_append_left inside).trans leaving)
  | duplicate found | inserted found | gone found | delivered found | shutdown found
  | joined found | droppedHandle found =>
      exact .inl (AppServer.getElem?_goOn_of_ne leaving found (by simp))
  | disconnected found owned =>
      refine .inl (AppServer.getElem?_goOn_of_ne leaving found ?_)
      obtain ⟨id, rfl, -⟩ | ⟨rfl, -⟩ | ⟨event, started, rfl, -⟩ := owned
      · simp
      · simp
      · simp
  | pending | beginPoll | loop | advanced => exact .inl leaving
  | @droppedTask other dropped otherResponse task task' found present taken =>
      by_cases same : other = index
      · subst same
        rw [leaving] at found
        cases found
        obtain ⟨present', -⟩ := List.getElem?_eq_some_iff.mp present
        exact .inr ⟨task', List.getElem?_set_self present', (taskStep_drop taken).2.1⟩
      · exact .inl ((List.getElem?_set_ne same).trans leaving)

/-- A task handle that has given its result is on its way out. -/
theorem ServiceRun.leaving_of_joined (run : ServiceRun representable trace last)
    {task : OrderTask} (present : last.machines[machine]? = some task)
    (isJoined : task.joined = true) (isHeld : task.held = true) :
    ∃ (index : Nat) (response : Option Response),
      last.requests[index]? = some (.leaving machine true response) := by
  obtain ⟨clock, run⟩ := run
  induction run generalizing task with
  | refl => simp at present
  | snoc _ taken ih =>
      have move := ServerMove.of_step taken
      obtain ⟨before, wasPresent, wasJoined, wasHeld⟩ | isLeaving :=
        move.joined_cases present isJoined isHeld
      · obtain ⟨index, response, leaving⟩ := ih wasPresent wasJoined wasHeld
        obtain still | ⟨task', present', notHeld⟩ := move.leaving_cases leaving
        · exact ⟨index, response, still⟩
        · rw [present] at present'
          cases present'
          rw [isHeld] at notHeld
          cases notHeld
      · exact isLeaving

theorem OrderStep.cancelled {task task' : OrderTask} {sent : Option Ident}
    (moved : OrderStep representable task sent task')
    (isCancelled : task.machine.cancelled = true) : task'.machine.cancelled = true := by
  obtain ⟨taskAction, taken, -, -⟩ := moved
  cases TaskMove.of_taskStep taken with
  | environment moved => exact (EnvironmentMove.of_environmentStep moved).cancelled_of isCancelled
  | loop _ moved => exact (LoopMove.of_loopStep moved).frame.2.2.trans isCancelled
  | beginPoll | ready | pending | drop => exact isCancelled

/-- A request that waits for a machine to stop has waited before, or has just
shut the machine down. -/
theorem ServerMove.stopping_cases (move : ServerMove representable server action next) {index : Nat}
    (stopping : next.requests[index]? = some (.stopping machine)) :
    server.requests[index]? = some (.stopping machine) ∨
      ∃ task', next.machines[machine]? = some task' ∧ task'.machine.cancelled = true := by
  cases move with
  | notFound | spawned | status | removed | cloned =>
      exact .inl ((AppServer.getElem?_arrive stopping).resolve_right (by simp))
  | duplicate | inserted | gone | delivered | joined | disconnected | droppedTask
  | droppedHandle =>
      obtain ⟨before, -⟩ | ⟨impossible, -⟩ := AppServer.getElem?_goOn stopping
      · exact .inl before
      · cases impossible
  | pending | beginPoll | loop | advanced => exact .inl stopping
  | shutdown _ present taken =>
      obtain ⟨before, -⟩ | ⟨same, -⟩ := AppServer.getElem?_goOn stopping
      · exact .inl before
      · cases same
        obtain ⟨inside, -⟩ := List.getElem?_eq_some_iff.mp present
        obtain ⟨stopped, moved, rfl⟩ := Option.map_eq_some_iff.mp taken
        obtain ⟨-, same⟩ := Option.ite_none_right_eq_some.mp moved
        cases same
        exact .inr ⟨_, List.getElem?_set_self inside, rfl⟩

theorem ServiceRun.stopping_cancelled (run : ServiceRun representable trace last) {index : Nat}
    {task : OrderTask} (stopping : last.requests[index]? = some (.stopping machine))
    (present : last.machines[machine]? = some task) : task.machine.cancelled = true := by
  obtain ⟨clock, run⟩ := run
  induction run generalizing task with
  | refl => simp at present
  | snoc previous taken ih =>
      have move := ServerMove.of_step taken
      obtain wasStopping | ⟨task', present', isCancelled⟩ := move.stopping_cases stopping
      · have owns : (Request.stopping machine).ownsTask machine = true := decide_eq_true rfl
        obtain ⟨before, wasPresent, -⟩ :=
          (ServiceRun.accounted ⟨clock, previous⟩).exists_task wasStopping owns owns
        obtain ⟨task', present', moved⟩ := move.exists_next wasPresent
        rw [present] at present'
        cases present'
        have wasCancelled := ih wasStopping wasPresent
        obtain ⟨rfl, -⟩ | moved := moved
        · exact wasCancelled
        · exact moved.cancelled wasCancelled
      · rw [present] at present'
        cases present'
        exact isCancelled

/-- The request has its answer, and is about to drop what it owns. -/
def stoppedRequest (machine : Nat) : Request :=
  .leaving machine true (some ⟨.ok, "status", "Order stopped and cleaned up"⟩)

/-- A request that stops an order goes on, or the machine of this order does. -/
def ServerMoment.StopsOrder (index machine : Nat) : ServerMoment → Prop
  | (_, .shutdown request) | (_, .join request) => request = index
  | (_, .beginPoll polled) | (_, .loop polled _) => polled = machine
  | _ => False

/-- What is left to be done until the request has its answer. -/
def AppServer.toAnswer (server : AppServer) (index : Nat) : Nat :=
  match server.requests[index]? with
  | some (.removed machine) => 2 + (server.machines[machine]?).elim 0 OwnedTask.toStop
  | some (.stopping machine) => 1 + (server.machines[machine]?).elim 0 OwnedTask.toStop
  | _ => 0

theorem AppServer.act_of_taskStep {task task' : OrderTask}
    {taskAction : TaskAction OrderContext Empty Empty}
    (present : server.machines[machine]? = some task)
    (taken : taskStep order.program representable task taskAction = some task') :
    server.act representable machine taskAction = some (server.put machine task') := by
  rw [AppServer.act, present, Option.bind_some, taken, Option.map_some]

/-- The request shuts the machine down. -/
theorem ServiceRun.exists_shutdown (run : ServiceRun representable trace server) {index : Nat}
    (removed : server.requests[index]? = some (.removed machine)) :
    ∃ next, server.step representable (.shutdown index) = some next ∧
      next.requests[index]? = some (.stopping machine) ∧
        next.toAnswer index < server.toAnswer index := by
  have owns : (Request.removed machine).ownsTask machine = true := decide_eq_true rfl
  obtain ⟨task, present, -, hasHandle⟩ := run.accounted.exists_task removed owns owns
  let task' : OrderTask := { task with machine := { task.machine with cancelled := true } }
  have taken : taskStep order.program representable task (.environment .shutdown) =
      some task' := by
    simp only [taskStep, environmentStep, if_pos hasHandle, Option.map_some, task']
  let next := (server.put machine task').goOn index (.stopping machine)
  have isStopping : next.requests[index]? = some (.stopping machine) :=
    List.getElem?_set_self (List.getElem?_eq_some_iff.mp removed).1
  have present' : next.machines[machine]? = some task' :=
    List.getElem?_set_self (List.getElem?_eq_some_iff.mp present).1
  refine ⟨next, ?_, isStopping, ?_⟩
  · simp only [AppServer.step, AppServer.shutdown, removed,
      AppServer.act_of_taskStep present taken, Option.map_some, next]
  · have sameWork : task'.toStop = task.toStop := rfl
    simp only [AppServer.toAnswer, isStopping, removed, present, present', Option.elim, sameWork]
    omega

/-- The service lets a machine that is shut down go on. -/
theorem AppServer.exists_stopping_action {task task' : OrderTask} {index : Nat}
    {taskAction : TaskAction OrderContext Empty Empty}
    (present : server.machines[machine]? = some task) (stops : TaskMoment.Stops (task, taskAction))
    (taken : taskStep order.program representable task taskAction = some task') :
    ∃ action, ServerMoment.StopsOrder index machine (server, action) ∧
      server.step representable action = some (server.put machine task') := by
  have acted := AppServer.act_of_taskStep present taken
  cases taskAction with
  | beginPoll => exact ⟨.beginPoll machine, rfl, acted⟩
  | environment | await | drop => exact stops.elim
  | loop action =>
      have body : OrderBody task.machine action := by
        cases action with
        | handlerCancelled => exact stops
        | handlerPending | handlerReady => exact stops.elim
        | _ => trivial
      refine ⟨.loop machine action, rfl, ?_⟩
      simp only [AppServer.step, AppServer.loop, present, Option.bind_some, if_pos body, acted]

/-- A request that waits for a task has not got its result yet. -/
theorem ServiceRun.not_joined (run : ServiceRun representable trace server) {index : Nat}
    {task : OrderTask} (stopping : server.requests[index]? = some (.stopping machine))
    (present : server.machines[machine]? = some task) (isHeld : task.held = true) :
    task.joined = false := by
  by_contra isJoined
  rw [Bool.not_eq_false] at isJoined
  obtain ⟨other, response, leaving⟩ := run.leaving_of_joined present isJoined isHeld
  have firstOwns : (Request.stopping machine).ownsTask machine = true := decide_eq_true rfl
  have secondOwns : (Request.leaving machine true response).ownsTask machine = true :=
    decide_eq_true rfl
  cases run.accounted.owner_unique stopping leaving firstOwns secondOwns

/-- The machine comes nearer to its end, or the request gets its result. -/
theorem ServiceRun.exists_stopping_step (run : ServiceRun representable trace server) {index : Nat}
    (stopping : server.requests[index]? = some (.stopping machine)) :
    ∃ action next, ServerMoment.StopsOrder index machine (server, action) ∧
      server.step representable action = some next ∧
        (next.requests[index]? = some (.stopping machine) ∨
          next.requests[index]? = some (stoppedRequest machine)) ∧
        next.toAnswer index < server.toAnswer index := by
  have owns : (Request.stopping machine).ownsTask machine = true := decide_eq_true rfl
  obtain ⟨task, present, isHeld, -⟩ := run.accounted.exists_task stopping owns owns
  obtain ⟨initial, taskTrace, executes, -⟩ := run.taskExecutes present
  have stopping_step : Settled task.machine ∨ ∃ taskAction task',
      TaskMoment.Stops (task, taskAction) ∧
        taskStep order.program representable task taskAction = some task' ∧
          task'.toStop < task.toStop :=
    task.exists_stopping_step (executes.machine.sound order) executes.sound
      (run.not_aborted present isHeld).1 (run.stopping_cancelled stopping present)
  obtain settled | ⟨taskAction, task', stops, taken, lower⟩ := stopping_step
  · obtain ⟨result, ready⟩ := settled.exists_ready
    have taken : taskStep order.program representable task .await =
        some { task with joined := true } := by
      simp only [taskStep, if_pos (And.intro isHeld (run.not_joined stopping present isHeld)),
        ready]
    let next := (server.put machine { task with joined := true }).goOn index
      (stoppedRequest machine)
    have answered : next.requests[index]? = some (stoppedRequest machine) :=
      List.getElem?_set_self (List.getElem?_eq_some_iff.mp stopping).1
    refine ⟨.join index, next, rfl, ?_, .inr answered, ?_⟩
    · simp only [AppServer.step, AppServer.join, stopping, present, Option.bind_some,
        AppServer.act_of_taskStep present taken, Option.map_some, ready]
      rfl
    · simp only [AppServer.toAnswer, answered, stoppedRequest, stopping]
      omega
  · obtain ⟨action, stopsOrder, step⟩ := AppServer.exists_stopping_action present stops taken
    have present' : (server.put machine task').machines[machine]? = some task' :=
      List.getElem?_set_self (List.getElem?_eq_some_iff.mp present).1
    have stillStopping : (server.put machine task').requests[index]? =
        some (.stopping machine) := stopping
    refine ⟨action, _, stopsOrder, step, .inl stillStopping, ?_⟩
    simp only [AppServer.toAnswer, stillStopping, stopping, present', present, Option.elim]
    omega

/-- The request that stops the order is on its way. -/
structure StopRequested (representable : Nat → Bool) (index machine : Nat) (server : AppServer) :
    Prop where
  reached : ∃ trace, ServiceRun representable trace server
  request : server.requests[index]? = some (.removed machine) ∨
    server.requests[index]? = some (.stopping machine) ∨
      server.requests[index]? = some (stoppedRequest machine)

/-- Whenever an order is being stopped, this can be brought to its answer in
eight steps of the request and of the order's machine; no other request, no
other machine and no time is needed for it. -/
theorem stopped_order_answered (run : ServiceRun representable trace server) {index : Nat}
    (request : server.requests[index]? = some (.removed machine) ∨
      server.requests[index]? = some (.stopping machine)) :
    ∃ more last, Run (AppServer.step representable) server more last ∧ more.length ≤ 8 ∧
      (∀ moment ∈ more, ServerMoment.StopsOrder index machine moment) ∧
        last.requests[index]? = some (stoppedRequest machine) := by
  have bound : server.toAnswer index ≤ 8 := by
    have work : (server.machines[machine]?).elim 0 OwnedTask.toStop ≤ 6 := by
      cases server.machines[machine]? with
      | none => exact Nat.zero_le 6
      | some task => exact task.toStop_le
    obtain removed | stopping := request
    · simp only [AppServer.toAnswer, removed]
      omega
    · simp only [AppServer.toAnswer, stopping]
      omega
  have requested : StopRequested representable index machine server :=
    ⟨⟨trace, run⟩, request.imp_right .inl⟩
  obtain ⟨more, last, goesOn, answered, short, stops⟩ :
      ∃ more last, Run (AppServer.step representable) server more last ∧
        last.requests[index]? = some (stoppedRequest machine) ∧
          more.length + last.toAnswer index ≤ server.toAnswer index ∧
            ∀ moment ∈ more, ServerMoment.StopsOrder index machine moment := by
    refine exists_run_of_progress (StopRequested representable index machine)
      (fun server => server.requests[index]? = some (stoppedRequest machine))
      (ServerMoment.StopsOrder index machine) (AppServer.toAnswer · index) ?_ requested
    rintro current ⟨⟨trace, clock, run⟩, removed | stopping | answered⟩
    · obtain ⟨next, taken, stopping, lower⟩ :=
        ServiceRun.exists_shutdown ⟨clock, run⟩ removed
      exact .inr ⟨.shutdown index, next, rfl, taken,
        ⟨⟨_, clock, run.snoc taken⟩, .inr (.inl stopping)⟩, lower⟩
    · obtain ⟨action, next, stops, taken, goesOn, lower⟩ :=
        ServiceRun.exists_stopping_step ⟨clock, run⟩ stopping
      exact .inr ⟨action, next, stops, taken, ⟨⟨_, clock, run.snoc taken⟩, .inr goesOn⟩, lower⟩
    · exact .inl answered
  exact ⟨more, last, goesOn, by omega, stops, answered⟩

/-! ## Orders that were created twice -/

/-- Nobody waits to send to the machine. -/
def AppServer.Unsent (server : AppServer) (machine : Nat) : Prop :=
  ∀ (index : Nat) event started,
    server.requests[index]? ≠ some (.sending machine event started)

theorem AppServer.Unsent.not_delivered (unsent : server.Unsent machine) :
    ServerMoment.delivered machine (server, action) = none := by
  by_contra delivered
  obtain ⟨event, delivered⟩ := Option.ne_none_iff_exists'.mp delivered
  obtain ⟨index, started, -, sending⟩ := ServerMoment.delivered_eq_some delivered
  exact unsent index event started sending

/-- Only the map leads to a machine. -/
theorem AppServer.Unsent.move (unsent : server.Unsent machine)
    (notRegistered : ∀ id, server.orders.lookup id ≠ some machine)
    (move : ServerMove representable server action next) : next.Unsent machine := by
  intro index event started sending
  obtain wasSending | ⟨id, -, -, found⟩ := move.sending_cases sending
  · exact unsent index event started wasSending
  · exact notRegistered id found

/-- Nothing is sent to a machine outside the map for which nobody waits. -/
theorem AppServer.Withdrawn.run_of_unsent (withdrawn : middle.Withdrawn machine)
    (unsent : middle.Unsent machine)
    (goesOn : Run (AppServer.step representable) middle after last) :
    last.Withdrawn machine ∧ last.Unsent machine ∧
      after.filterMap (ServerMoment.delivered machine) = [] := by
  induction goesOn with
  | refl => exact ⟨withdrawn, unsent, rfl⟩
  | snoc _ taken ih =>
      obtain ⟨reached, stillUnsent, nothing⟩ := ih
      have move := ServerMove.of_step taken
      refine ⟨reached.move move, stillUnsent.move reached.not_registered move, ?_⟩
      rw [filterMap_snoc, nothing, stillUnsent.not_delivered]
      rfl

/-- A machine that a request has made and not put into the map yet has not been
in the map: nobody has sent it anything. -/
theorem ServiceRun.creating_unsent (run : ServiceRun representable trace last) {index : Nat}
    {id : String} (creating : last.requests[index]? = some (.creating id machine)) :
    last.Unsent machine ∧ trace.filterMap (ServerMoment.delivered machine) = [] := by
  obtain ⟨clock, run⟩ := run
  induction run with
  | refl => simp at creating
  | @snoc trace middle last action previous taken ih =>
      have move := ServerMove.of_step taken
      have accounted := ServiceRun.accounted ⟨clock, previous⟩
      have before : middle.Unsent machine ∧
          (∀ otherId, middle.orders.lookup otherId ≠ some machine) ∧
            trace.filterMap (ServerMoment.delivered machine) = [] := by
        obtain wasCreating | ⟨isNew, -⟩ := move.creating_cases creating
        · have owns : (Request.creating id machine).ownsTask machine = true := decide_eq_true rfl
          exact ⟨(ih wasCreating).1, accounted.not_registered wasCreating owns,
            (ih wasCreating).2⟩
        · have absent : middle.machines[machine]? = none :=
            List.getElem?_eq_none (Nat.le_of_eq isNew)
          have owners := accounted.handleOwners_eq_zero absent
          rw [AppServer.handleOwners] at owners
          refine ⟨fun other event started sending => ?_, fun otherId found => ?_,
            ServiceRun.delivered_of_absent ⟨clock, previous⟩ absent⟩
          · have owner : 0 < middle.requests.countP (Request.ownsHandle machine) :=
              AppServer.countP_pos sending (by simp [Request.ownsHandle])
            omega
          · have inMap := AppServer.registered_pos found
            omega
      obtain ⟨unsent, notRegistered, nothing⟩ := before
      refine ⟨unsent.move notRegistered move, ?_⟩
      rw [filterMap_snoc, nothing, unsent.not_delivered]
      rfl

/-- A second request to create an order leaves the map and the machines as they
are.  The machine that it has made gets nothing to do: it is never in the map,
is sent no event and never leaves the initial state. -/
theorem duplicate_order_harmless {index other : Nat} {id : String}
    (run : ServiceRun representable trace last)
    (cut : trace = before ++ (server, .insertOrder index) :: after)
    (creating : server.requests[index]? = some (.creating id machine))
    (found : server.orders.lookup id = some other) :
    other ≠ machine ∧
    (∀ next, server.step representable (.insertOrder index) = some next →
      next.orders = server.orders ∧ next.machines = server.machines) ∧
    (∀ otherId, last.orders.lookup otherId ≠ some machine) ∧
    trace.filterMap (ServerMoment.delivered machine) = [] ∧
    ∃ task, last.machines[machine]? = some task ∧ task.machine.watch.value = "Created" := by
  obtain ⟨clock, run⟩ := run
  obtain ⟨toServer, next, taken, fromNext⟩ := run.moment cut
  have serverRun : ServiceRun representable before server := ⟨clock, toServer⟩
  have owns : (Request.creating id machine).ownsTask machine = true := decide_eq_true rfl
  have notRegistered := serverRun.accounted.not_registered creating owns
  have refused {next : AppServer}
      (taken : server.step representable (.insertOrder index) = some next) :
      next = server.goOn index
        (.leaving machine true (some AppError.alreadyExists.intoResponse)) := by
    simp only [AppServer.step, AppServer.insertOrder, creating, found] at taken
    exact (Option.some.inj taken).symm
  obtain ⟨unsent, nothing⟩ := serverRun.creating_unsent creating
  have move := ServerMove.of_step taken
  obtain ⟨task, present, -⟩ := serverRun.wellNamed.creating index id machine creating
  obtain ⟨task', present', -⟩ := move.exists_next present
  have nextRun : ServiceRun representable (before ++ [(server, .insertOrder index)]) next :=
    ⟨clock, toServer.snoc taken⟩
  have leaving : next.requests[index]? =
      some (.leaving machine true (some AppError.alreadyExists.intoResponse)) := by
    rw [refused taken]
    exact List.getElem?_set_self (List.getElem?_eq_some_iff.mp creating).1
  have withdrawn := nextRun.accounted.withdrawn leaving present' owns (by simp)
  obtain ⟨stillWithdrawn, -, nothingMore⟩ :=
    withdrawn.run_of_unsent (unsent.move notRegistered move) fromNext
  have none : trace.filterMap (ServerMoment.delivered machine) = [] := by
    rw [cut, List.filterMap_append, nothing, List.nil_append]
    exact nothingMore
  refine ⟨?_, ?_, stillWithdrawn.not_registered, none, ?_⟩
  · rintro rfl
    exact notRegistered id found
  · intro next taken
    rw [refused taken]
    exact ⟨rfl, rfl⟩
  · have stillPresent := List.getElem?_eq_getElem stillWithdrawn.made
    have earned := (ServiceRun.staged ⟨clock, run⟩ stillPresent).1.value
    rw [none] at earned
    exact ⟨_, stillPresent, earned.eq_of_nil⟩

end Leaving

/-! ## The run of the service once more -/

theorem stopped_order_final_sample :
    ∃ task, stoppedRun.2.machines[0]? = some task ∧ Settled task.machine ∧
      task.machine.watch.value = "Validated" := by
  have cut : stoppedRun.1 = stoppedRun.1.take 21 ++
      ((stoppedRun.1.get ⟨21, by decide⟩).1, .join 3) :: stoppedRun.1.drop 22 := rfl
  have stopping : (stoppedRun.1.get ⟨21, by decide⟩).1.requests[3]? = some (.stopping 0) := rfl
  obtain ⟨-, -, -, ⟨task, present, settled, sameValue⟩, -⟩ :=
    stopped_order_final ServiceRun.stopped cut stopping rfl rfl
  exact ⟨task, present, settled, sameValue⟩

theorem duplicate_order_harmless_sample :
    ∃ task, stoppedRun.2.machines[1]? = some task ∧ task.machine.watch.value = "Created" := by
  have cut : stoppedRun.1 = stoppedRun.1.take 13 ++
      ((stoppedRun.1.get ⟨13, by decide⟩).1, .insertOrder 2) :: stoppedRun.1.drop 14 := rfl
  have creating :
      (stoppedRun.1.get ⟨13, by decide⟩).1.requests[2]? = some (.creating "42" 1) := rfl
  have found : (stoppedRun.1.get ⟨13, by decide⟩).1.orders.lookup "42" = some 0 := by decide
  exact (duplicate_order_harmless ServiceRun.stopped cut creating found).2.2.2.2

/-- The request that stops the order is answered from the moment in which it
has taken the order out of the map. -/
theorem stopped_order_answered_sample :
    ∃ more last, Run (AppServer.step fun _ => true) (stoppedRun.1.get ⟨17, by decide⟩).1 more last ∧
      more.length ≤ 8 ∧ last.requests[3]? = some (stoppedRequest 0) := by
  have cut : stoppedRun.1 = stoppedRun.1.take 17 ++
      ((stoppedRun.1.get ⟨17, by decide⟩).1, .shutdown 3) :: stoppedRun.1.drop 18 := rfl
  obtain ⟨clock, run⟩ := ServiceRun.stopped
  obtain ⟨toRemoved, -⟩ := run.moment cut
  have removed : (stoppedRun.1.get ⟨17, by decide⟩).1.requests[3]? = some (.removed 0) := rfl
  obtain ⟨more, last, goesOn, short, -, answered⟩ :=
    stopped_order_answered ⟨clock, toRemoved⟩ (.inl removed)
  exact ⟨more, last, goesOn, short, answered⟩

end TokioFsm
