import TokioFsm.OrderRegistry

/-!
# The life of an order

An order is created, validated, charged and shipped, and it never goes back.
Each stage has been earned: the requests for it and for the stages before it
were taken up in this order, and by the machine of this very order.  No
endpoint sends the event that would make an order fail.
-/

namespace TokioFsm

open StepRuns WatchChannel Counting

def orderStages : List Ident := ["Created", "Validated", "Charged", "Shipped"]

/-- The events that the service sends; each leads to the next stage. -/
def orderEvents : List Ident := ["Validate", "Charge", "Ship"]

def stageOf (state : Ident) : Nat :=
  orderStages.idxOf state

/-- The events that lead up to the state are among the events, in order. -/
def Earned (events : List Ident) (state : Ident) : Prop :=
  ∃ stage, orderStages[stage]? = some state ∧ (orderEvents.take stage).Sublist events

theorem Earned.append {events : List Ident} {state : Ident} (earned : Earned events state)
    (more : List Ident) : Earned (events ++ more) state := by
  obtain ⟨stage, stageEq, before⟩ := earned
  exact ⟨stage, stageEq, before.trans (List.sublist_append_left events more)⟩

/-- Without events an order stays as it was created. -/
theorem Earned.eq_of_nil {state : Ident} (earned : Earned [] state) : state = "Created" := by
  obtain ⟨stage, stageEq, before⟩ := earned
  have none : orderEvents.take stage = [] := List.sublist_nil.mp before
  obtain rfl : stage = 0 := by simpa [orderEvents] using none
  exact (Option.some.inj stageEq).symm

/-- In each stage at most one of the events finds a handler, which leads to the
next stage, and there is no other way on. -/
structure Advances (program : GeneratedFsm) : Prop where
  noTimeout : program.timeoutLogic = none
  arms : ∀ stage < 4, ∀ event ∈ orderEvents,
    ∀ arm ∈ program.matchArm (orderStages.getD stage "") event,
      orderEvents[stage]? = some event ∧
        arm.call.handler.targets = [orderStages.getD (stage + 1) ""]

theorem order_advances : Advances order.program where
  noTimeout := by decide
  arms := by decide

theorem stageOf_lt_next : ∀ stage < 3,
    stageOf (orderStages.getD stage "") < stageOf (orderStages.getD (stage + 1) "") := by
  decide

/-- An event that finds a handler earns its target. -/
theorem Advances.earned_next {program : GeneratedFsm} (advances : Advances program)
    {events : List Ident} {state event target : Ident} {arm : EventArm}
    (earned : Earned events state) (isEvent : event ∈ orderEvents)
    (found : program.matchArm state event = some arm)
    (targetMem : target ∈ arm.call.handler.targets) :
    Earned (events ++ [event]) target ∧ stageOf state < stageOf target := by
  obtain ⟨stage, stageEq, before⟩ := earned
  obtain ⟨inside, -⟩ := List.getElem?_eq_some_iff.mp stageEq
  obtain rfl : orderStages.getD stage "" = state := by
    rw [List.getD_eq_getElem?_getD, stageEq]
    rfl
  obtain ⟨eventEq, targetsEq⟩ := advances.arms stage inside event isEvent arm found
  obtain ⟨eventInside, rfl⟩ := List.getElem?_eq_some_iff.mp eventEq
  rw [targetsEq, List.mem_singleton] at targetMem
  subst targetMem
  have nextInside : stage + 1 < orderStages.length := Nat.succ_lt_succ eventInside
  refine ⟨⟨stage + 1, ?_, ?_⟩, stageOf_lt_next stage eventInside⟩
  · rw [List.getD_eq_getElem?_getD, List.getElem?_eq_getElem nextInside]
    rfl
  · rw [List.take_succ_eq_append_getElem eventInside]
    exact before.append_right _

section Machine

variable {program : GeneratedFsm} {representable : Nat → Bool}
  {config next : Config OrderContext Empty Empty} {events : List Ident}

/-- What the machine shows has been earned, and so has whatever the handler in
flight may return. -/
structure Staged (events : List Ident) (config : Config OrderContext Empty Empty) : Prop where
  state : Earned events config.fsm.state
  value : Earned events config.watch.value
  behind : stageOf config.watch.value ≤ stageOf config.fsm.state
  inFlight : ∀ called ∈ config.inFlight, ∀ target ∈ called.1.handler.targets,
    Earned events target ∧ stageOf config.fsm.state < stageOf target

theorem Staged.append (staged : Staged events config) (more : List Ident) :
    Staged (events ++ more) config where
  state := staged.state.append more
  value := staged.value.append more
  behind := staged.behind
  inFlight called isCalled target targetMem :=
    ⟨(staged.inFlight called isCalled target targetMem).1.append more,
      (staged.inFlight called isCalled target targetMem).2⟩

/-- A move that calls no handler, and changes neither the state nor what is
published. -/
theorem Staged.quiet (staged : Staged events config) (sameFsm : next.fsm = config.fsm)
    (sameValue : next.watch.value = config.watch.value)
    (noCall : next.inFlight ⊆ config.inFlight) : Staged events next where
  state := by
    rw [sameFsm]
    exact staged.state
  value := by
    rw [sameValue]
    exact staged.value
  behind := by
    rw [sameFsm, sameValue]
    exact staged.behind
  inFlight called isCalled := by
    rw [sameFsm]
    exact staged.inFlight called (noCall isCalled)

theorem Spawned.staged (begin : Spawned order.program config) : Staged [] config := by
  have created : Earned [] "Created" := ⟨0, rfl, List.Sublist.refl _⟩
  have stateEq : config.fsm.state = "Created" := begin.state_eq
  have valueEq : config.watch.value = "Created" := by
    rw [begin.watch_eq]
    rfl
  constructor
  · rwa [stateEq]
  · rwa [valueEq]
  · rw [stateEq, valueEq]
  · rw [Config.inFlight, begin.phase_eq]
    exact List.forall_mem_nil _

/-- A move of the machine, with the event it receives, if any. -/
theorem LoopMove.staged {action : LoopAction OrderContext Empty} (advances : Advances program)
    (move : LoopMove program representable config action next)
    (body : OrderBody config action)
    (queued : ∀ event ∈ config.queue, event.variant ∈ orderEvents)
    (staged : Staged events config) :
    Staged (events ++
        (Moment.received (config, .loop action)).toList.map EventValue.variant) next ∧
      stageOf config.watch.value ≤ stageOf next.watch.value := by
  have noReceive (none : Moment.received (config, Action.loop action) = none) :
      events ++ (Moment.received (config, Action.loop action)).toList.map EventValue.variant =
        events := by
    rw [none]
    exact List.append_nil events
  cases move with
  | start | overflow | cancelled | handlerPanics | abort | rearm =>
      rw [noReceive rfl]
      exact ⟨staged.quiet rfl rfl (List.nil_subset _), Nat.le_refl _⟩
  | wait | outOfBudget | expiredUnhandled | dropReceiver | dropSender =>
      rw [noReceive rfl]
      exact ⟨staged.quiet rfl rfl (List.Subset.refl _), Nat.le_refl _⟩
  | expired _ _ logic =>
      rw [advances.noTimeout] at logic
      cases logic
  | closed _ isEmpty =>
      rw [noReceive (by rw [Moment.received, isEmpty]; rfl)]
      exact ⟨staged.quiet rfl rfl (List.nil_subset _), Nat.le_refl _⟩
  | unmatched =>
      exact ⟨(staged.append _).quiet rfl rfl (List.Subset.refl _), Nat.le_refl _⟩
  | @matched event queue arm isSelecting queuedEq found =>
      have received : Moment.received (config, Action.loop .recvBranch) = some event := by
        rw [Moment.received, queuedEq]
        rfl
      have isEvent := queued event (by rw [queuedEq]; exact List.mem_cons_self)
      rw [received]
      have before := staged.append [event.variant]
      refine ⟨⟨before.state, before.value, before.behind, ?_⟩, Nat.le_refl _⟩
      intro called isCalled target targetMem
      obtain rfl := List.mem_singleton.mp isCalled
      exact advances.earned_next staged.state isEvent found targetMem
  | handlerPending =>
      obtain rfl := body
      rw [noReceive rfl]
      exact ⟨staged.quiet rfl rfl (List.Subset.refl _), Nat.le_refl _⟩
  | handlerCancelled =>
      obtain rfl := body
      rw [noReceive rfl]
      exact ⟨staged.quiet rfl rfl (List.nil_subset _), Nat.le_refl _⟩
  | @handlerReady call argument entry after output result isCalling _ returns dispatched =>
      obtain rfl := body
      rw [noReceive rfl]
      cases result with
      | error error => exact error.elim
      | ok target =>
          obtain ⟨result, resultEq, inTargets⟩ := returns.dispatch
          rw [dispatched] at resultEq
          have targetMem := inTargets target (Option.some.inj resultEq).symm
          have isCalled : (call, argument) ∈ config.inFlight := by
            rw [Config.inFlight, isCalling]
            exact List.mem_singleton_self _
          obtain ⟨earned, ahead⟩ := staged.inFlight _ isCalled target targetMem
          have behind : stageOf config.watch.value ≤ stageOf target :=
            Nat.le_of_lt (Nat.lt_of_le_of_lt staged.behind ahead)
          exact ⟨⟨earned, staged.value, behind, List.forall_mem_nil _⟩, Nat.le_refl _⟩
  | publish isPublishing =>
      rw [noReceive rfl]
      have valueCases : (config.watch.send config.handles config.fsm.state).value =
          config.watch.value ∨
          (config.watch.send config.handles config.fsm.state).value = config.fsm.state := by
        unfold Channel.send
        split
        · exact .inl rfl
        · exact .inr rfl
      obtain same | published := valueCases
      · exact ⟨staged.quiet rfl same (List.nil_subset _),
          Nat.le_of_eq (congrArg stageOf same.symm)⟩
      · refine ⟨⟨staged.state, ?_, ?_, List.forall_mem_nil _⟩, ?_⟩
        · dsimp only
          rw [published]
          exact staged.state
        · dsimp only
          rw [published]
        · dsimp only
          rw [published]
          exact staged.behind

/-- Nobody but the environment puts events into the queue. -/
theorem LoopMove.queue_subset {action : LoopAction OrderContext Empty}
    (move : LoopMove program representable config action next) : next.queue ⊆ config.queue := by
  cases move with
  | dropReceiver => exact List.nil_subset _
  | unmatched _ queued | matched _ queued =>
      rw [queued]
      exact List.subset_cons_self _ _
  | @handlerReady _ _ _ _ _ result =>
      cases result with
      | ok => exact List.Subset.refl _
      | error error => exact error.elim
  | _ => exact List.Subset.refl _

variable {initial last : Config OrderContext Empty Empty}
  {trace : List (Moment OrderContext Empty Empty)}

/-- What a machine of the service shows has been earned by the events that it
has received. -/
theorem Executes.staged (executes : Executes order.program representable initial trace last)
    (bodied : ∀ moment ∈ trace, moment.OrderBodied)
    (sent : ∀ event ∈ trace.filterMap Moment.accepted, event.variant ∈ orderEvents) :
    Staged ((trace.filterMap Moment.received).map EventValue.variant) last ∧
      ∀ event ∈ last.queue, event.variant ∈ orderEvents := by
  induction executes using Executes.rec_moves with
  | spawned _ begin =>
      refine ⟨begin.staged, ?_⟩
      rw [begin.queue_eq]
      exact List.forall_mem_nil _
  | environment trace middle action last _ _ move ih =>
      rw [filterMap_snoc, accepted_environment, List.forall_mem_append] at sent
      rw [List.forall_mem_append] at bodied
      obtain ⟨staged, queued⟩ := ih bodied.1 sent.1
      have notReceived : Moment.received (middle, Action.environment action) = none := rfl
      rw [filterMap_snoc, notReceived, Option.toList_none, List.append_nil]
      constructor
      · apply staged.quiet move.fsm_eq (by rw [move.watch_eq])
        rw [Config.inFlight, Config.inFlight, move.phase_eq]
        exact List.Subset.refl _
      · rw [move.queue_eq]
        exact List.forall_mem_append.mpr ⟨queued, sent.2⟩
  | loop trace middle action last _ _ move ih =>
      rw [filterMap_snoc, List.forall_mem_append] at sent
      rw [List.forall_mem_append, List.forall_mem_singleton] at bodied
      obtain ⟨staged, queued⟩ := ih bodied.1 sent.1
      rw [filterMap_snoc, List.map_append]
      refine ⟨(move.staged order_advances bodied.2 queued staged).1, ?_⟩
      exact fun event eventMem => queued event (move.queue_subset eventMem)

end Machine

/-! ## What reaches an order -/

section Service

variable {representable : Nat → Bool} {server middle next last : AppServer}
  {action : ServerAction} {trace before after : List ServerMoment} {machine : Nat}
  {event : Ident} {started : String}

theorem ServerAction.event_mem (sends : action.sends = some (event, started)) :
    event ∈ orderEvents := by
  cases action with
  | validateOrder | chargeOrder | shipOrder =>
      cases sends
      decide
  | _ => cases sends

/-- A request that waits to send has waited before, or has just found its
order. -/
theorem ServerMove.sending_cases (move : ServerMove representable server action next) {index : Nat}
    (sending : next.requests[index]? = some (.sending machine event started)) :
    server.requests[index]? = some (.sending machine event started) ∨
      ∃ id, action.path = some id ∧ action.sends = some (event, started) ∧
        server.orders.lookup id = some machine := by
  cases move with
  | cloned path sends found =>
      obtain before | latest := AppServer.getElem?_arrive sending
      · exact .inl before
      · cases latest
        exact .inr ⟨_, path, sends, found⟩
  | spawned | notFound | status | removed =>
      exact .inl ((AppServer.getElem?_arrive sending).resolve_right nofun)
  | duplicate | inserted | gone | delivered | shutdown | joined | disconnected | droppedTask
  | droppedHandle =>
      obtain ⟨before, -⟩ | ⟨impossible, -⟩ := AppServer.getElem?_goOn sending
      · exact .inl before
      · cases impossible
  | pending | beginPoll | loop | advanced => exact .inl sending

theorem ServerMoment.delivered_eq_some
    (delivered : ServerMoment.delivered machine (server, action) = some event) :
    ∃ index started, action = .deliver index ∧
      server.requests[index]? = some (.sending machine event started) := by
  unfold ServerMoment.delivered at delivered
  split at delivered
  next server' index momentEq =>
    cases momentEq
    split at delivered
    next target event' started sending =>
      obtain ⟨⟨rfl, -⟩, same⟩ := Option.ite_none_right_eq_some.mp delivered
      cases same
      exact ⟨index, started, rfl, sending⟩
    next => cases delivered
  next => cases delivered

theorem ServiceRun.sending_mem (run : ServiceRun representable trace last) {index : Nat}
    (sending : last.requests[index]? = some (.sending machine event started)) :
    event ∈ orderEvents := by
  obtain ⟨clock, run⟩ := run
  induction run with
  | refl => simp at sending
  | snoc _ taken ih =>
      obtain before | ⟨id, -, sends, -⟩ := (ServerMove.of_step taken).sending_cases sending
      · exact ih before
      · exact ServerAction.event_mem sends

theorem ServiceRun.delivered_mem (run : ServiceRun representable trace last) :
    ∀ event ∈ trace.filterMap (ServerMoment.delivered machine), event ∈ orderEvents := by
  obtain ⟨clock, run⟩ := run
  induction run with
  | refl => exact List.forall_mem_nil _
  | @snoc trace middle last action previous taken ih =>
      rw [filterMap_snoc]
      refine List.forall_mem_append.mpr ⟨ih, fun event latest => ?_⟩
      rw [Option.mem_toList] at latest
      obtain ⟨index, started, -, sending⟩ := ServerMoment.delivered_eq_some latest
      exact ServiceRun.sending_mem ⟨clock, previous⟩ sending

/-- What an order shows has been earned by what was delivered to it. -/
theorem ServiceRun.staged (run : ServiceRun representable trace last) {task : OrderTask}
    (present : last.machines[machine]? = some task) :
    Staged (trace.filterMap (ServerMoment.delivered machine)) task.machine ∧
      ∀ event ∈ task.machine.queue, event.variant ∈ orderEvents := by
  obtain ⟨initial, taskTrace, executes, sameEvents, bodied⟩ := run.taskExecutes present
  have sent : ∀ event ∈ (taskTrace.filterMap TaskMoment.ofMachine).filterMap Moment.accepted,
      event.variant ∈ orderEvents := by
    rw [sameEvents, List.forall_mem_map]
    exact run.delivered_mem
  obtain ⟨staged, queued⟩ := executes.machine.staged bodied sent
  obtain ⟨waiting, received⟩ := (executes.machine.conserved order).received_prefix_accepted
  have variants : trace.filterMap (ServerMoment.delivered machine) =
      (((taskTrace.filterMap TaskMoment.ofMachine).filterMap Moment.received).map
        EventValue.variant) ++ waiting.map EventValue.variant := by
    rw [← List.map_append, received, sameEvents, List.map_map]
    exact (List.map_id _).symm
  rw [variants]
  exact ⟨staged.append _, queued⟩

/-- No step takes an order back. -/
theorem OrderStep.stageOf_le {task task' : OrderTask} {events : List Ident} {sent : Option Ident}
    (moved : OrderStep representable task sent task') (staged : Staged events task.machine)
    (queued : ∀ event ∈ task.machine.queue, event.variant ∈ orderEvents) :
    stageOf task.machine.watch.value ≤ stageOf task'.machine.watch.value := by
  obtain ⟨taskAction, taken, body, -⟩ := moved
  cases TaskMove.of_taskStep taken with
  | beginPoll | ready | pending | drop => exact Nat.le_refl _
  | environment moved =>
      rw [(EnvironmentMove.of_environmentStep moved).watch_eq]
  | loop _ moved =>
      exact ((LoopMove.of_loopStep moved).staged order_advances (body _ rfl) queued staged).2

/-- An order shows a stage that the requests delivered to its own machine have
earned, one after the other; it never shows a failure and never goes back. -/
theorem order_lifecycle (run : ServiceRun representable before middle)
    (goesOn : Run (AppServer.step representable) middle after last) {task : OrderTask}
    (present : middle.machines[machine]? = some task) :
    ∃ task', last.machines[machine]? = some task' ∧
      Earned ((before ++ after).filterMap (ServerMoment.delivered machine))
        task'.machine.watch.value ∧
      stageOf task.machine.watch.value ≤ stageOf task'.machine.watch.value := by
  obtain ⟨clock, run⟩ := run
  induction goesOn with
  | refl =>
      rw [List.append_nil]
      exact ⟨task, present, (ServiceRun.staged ⟨clock, run⟩ present).1.value, Nat.le_refl _⟩
  | @snoc after reached last action goesOn taken ih =>
      obtain ⟨task', stillPresent, -, grown⟩ := ih
      have toReached : ServiceRun representable (before ++ after) reached :=
        ⟨clock, run.append goesOn⟩
      have toLast : ServiceRun representable (before ++ (after ++ [(reached, action)])) last :=
        ⟨clock, run.append (goesOn.snoc taken)⟩
      obtain ⟨staged, queued⟩ := toReached.staged stillPresent
      obtain ⟨task'', present'', moved⟩ := (ServerMove.of_step taken).exists_next stillPresent
      refine ⟨task'', present'', (toLast.staged present'').1.value, Nat.le_trans grown ?_⟩
      obtain ⟨rfl, -⟩ | moved := moved
      · exact Nat.le_refl _
      · exact moved.stageOf_le staged queued

/-! ## Requests for events -/

/-- The event that a new request asks the machine to take up. -/
def ServerMoment.requested (machine : Nat) : ServerMoment → Option Ident
  | (server, action) =>
      if action.path.bind (fun id => server.orders.lookup id) = some machine then
        action.sends.map Prod.fst
      else none

/-- The event whose request ends without it: the machine is closed, or the
client has gone away. -/
def ServerMoment.givenUp (machine : Nat) (moment : ServerMoment) : Option Ident :=
  match moment with
  | (server, .deliver index) | (server, .disconnect index) =>
      match server.requests[index]? with
      | some (.sending target event _) =>
          if target = machine ∧ moment.delivered machine = none then some event else none
      | _ => none
  | _ => none

/-- The request waits to send the event. -/
def Request.waits (machine : Nat) (event : Ident) : Request → Bool
  | .sending target waiting _ => decide (target = machine ∧ waiting = event)
  | _ => false

/-- A request for the event comes, or goes with it. -/
def ServerMoment.Balances (machine : Nat) (event : Ident) (moment : ServerMoment)
    (next : AppServer) : Prop :=
  (moment.requested machine).toList.count event +
      moment.1.requests.countP (Request.waits machine event) =
    (moment.delivered machine).toList.count event + (moment.givenUp machine).toList.count event +
      next.requests.countP (Request.waits machine event)

theorem ServerMoment.Balances.arrive {request : Request}
    (notDelivered : ServerMoment.delivered machine (server, action) = none)
    (notGivenUp : ServerMoment.givenUp machine (server, action) = none)
    (asks : (ServerMoment.requested machine (server, action)).toList.count event =
      (request.waits machine event).toNat)
    (same : next.requests = server.requests ++ [request]) :
    ServerMoment.Balances machine event (server, action) next := by
  have counted := countP_snoc (Request.waits machine event) server.requests request
  rw [Balances, notDelivered, notGivenUp, asks, same, counted, Nat.add_comm]
  exact (Nat.zero_add _).symm

theorem ServerMoment.Balances.goOn {index : Nat} {old request : Request}
    (found : server.requests[index]? = some old) (notWaits : request.waits machine event = false)
    (notRequested : ServerMoment.requested machine (server, action) = none)
    (leaves : (ServerMoment.delivered machine (server, action)).toList.count event +
      (ServerMoment.givenUp machine (server, action)).toList.count event =
        (old.waits machine event).toNat)
    (same : next.requests = server.requests.set index request) :
    ServerMoment.Balances machine event (server, action) next := by
  have counted := countP_set (Request.waits machine event) found request
  rw [notWaits, Bool.toNat_false, Nat.add_zero] at counted
  rw [Balances, notRequested, leaves, same, Nat.add_comm, Nat.add_comm _ (List.countP _ _)]
  exact counted.symm

end Service

/-! ## The run of the service to its end -/

/-- The order has been stopped, and its request answered. -/
def stoppedRun : List ServerMoment × AppServer :=
  (serviceRun 24).get (by decide)

theorem ServiceRun.stopped : ServiceRun (fun _ => true) stoppedRun.1 stoppedRun.2 := by
  have replayed : serviceRun 24 = some stoppedRun := (Option.some_get _).symm
  exact .of_sample replayed

theorem order_lifecycle_sample :
    ∃ task, stoppedRun.2.machines[0]? = some task ∧
      Earned ["Validate"] task.machine.watch.value := by
  have present : stoppedRun.2.machines[0]? = some _ := rfl
  obtain ⟨task, present, earned, -⟩ := order_lifecycle ServiceRun.stopped .refl present
  exact ⟨task, present, earned⟩

end TokioFsm
