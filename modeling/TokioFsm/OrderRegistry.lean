import TokioFsm.OrderServer
import TokioFsm.Library.Counting

/-!
# Who owns an order

The task of an order is owned once, by the map or by one request, until it is
dropped, and there are as many handles as owners and senders.  An order is in
the map under the id for which its machine was made.
-/

namespace TokioFsm

open StepRuns Counting

/-- A state of the service with what happens next. -/
abbrev ServerMoment := AppServer × ServerAction

/-- A run of the service from its start. -/
def ServiceRun (representable : Nat → Bool) (trace : List ServerMoment) (last : AppServer) :
    Prop :=
  ∃ clock, Run (AppServer.step representable) { clock } trace last

/-- The event that the moment puts into the queue of a machine. -/
def ServerMoment.delivered (machine : Nat) : ServerMoment → Option Ident
  | (server, .deliver index) =>
      match server.requests[index]? with
      | some (.sending target event _) =>
          if target = machine ∧
              (server.machines[target]?).any fun task => !task.machine.receiverDropped then
            some event
          else none
      | _ => none
  | _ => none

/-! ## What happens to one machine -/

/-- A machine moves, with the bodies that its handlers have; an event may be
put into its queue. -/
def OrderStep (representable : Nat → Bool) (task : OrderTask) (sent : Option Ident)
    (next : OrderTask) : Prop :=
  ∃ action, taskStep order.program representable task action = some next ∧
    (∀ body, action = .loop body → OrderBody task.machine body) ∧
      (TaskMoment.ofMachine (task, action)).bind Moment.accepted =
        sent.map fun event => ⟨event, none⟩

/-- What a step of the service does to the machines. -/
inductive MachinesMove (representable : Nat → Bool) (server : AppServer)
    (delivered : Nat → Option Ident) : List OrderTask → Prop
  | same : (∀ machine, delivered machine = none) →
      MachinesMove representable server delivered server.machines
  | one {machine : Nat} {task task' : OrderTask} : server.machines[machine]? = some task →
      OrderStep representable task (delivered machine) task' →
        (∀ other, other ≠ machine → delivered other = none) →
          MachinesMove representable server delivered (server.machines.set machine task')
  | spawned {payload : CreateOrderRequest} {machine : Config OrderContext Empty Empty} :
      order.program.spawnNamed payload.id ⟨⟨payload.id, payload.items, payload.total⟩⟩
        server.clock = some machine → (∀ machine, delivered machine = none) →
          MachinesMove representable server delivered (server.machines ++ [{ machine := machine }])
  | advanced (nanos : Nat) : (∀ machine, delivered machine = none) →
      MachinesMove representable server delivered
        (server.machines.map (OrderTask.advance nanos))

section Machines

variable {representable : Nat → Bool} {server next : AppServer} {action : ServerAction}

theorem ServerMoment.delivered_of_path {id : String} (path : action.path = some id)
    (machine : Nat) : ServerMoment.delivered machine (server, action) = none := by
  cases action with
  | deliver => cases path
  | _ => rfl

theorem MachinesMove.put {machine : Nat} {task task' : OrderTask}
    {taskAction : TaskAction OrderContext Empty Empty}
    (present : server.machines[machine]? = some task)
    (taken : taskStep order.program representable task taskAction = some task')
    (body : ∀ loopAction, taskAction = .loop loopAction → OrderBody task.machine loopAction)
    (notAccepted : (TaskMoment.ofMachine (task, taskAction)).bind Moment.accepted = none)
    (nothing : ∀ other, ServerMoment.delivered other (server, action) = none) :
    MachinesMove representable server (ServerMoment.delivered · (server, action))
      (server.put machine task').machines := by
  refine .one present ⟨taskAction, taken, body, ?_⟩ fun other _ => nothing other
  rw [nothing machine, notAccepted]
  rfl

theorem ServerMove.machinesMove (move : ServerMove representable server action next) :
    MachinesMove representable server (ServerMoment.delivered · (server, action))
      next.machines := by
  cases move with
  | notFound path => exact .same fun machine => ServerMoment.delivered_of_path path machine
  | duplicate | inserted | status | removed | disconnected => exact .same fun _ => rfl
  | gone sending present dropped =>
      refine .same fun machine => ?_
      simp [ServerMoment.delivered, sending, present, dropped]
  | spawned config => exact .spawned config fun _ => rfl
  | advanced => exact .advanced _ fun _ => rfl
  | cloned path _ _ present taken =>
      exact .put present taken nofun rfl fun other => ServerMoment.delivered_of_path path other
  | shutdown _ present taken | pending _ present _ taken | joined _ present _ taken
  | droppedTask _ present taken | droppedHandle _ present taken | beginPoll present taken =>
      exact .put present taken nofun rfl fun _ => rfl
  | loop present body taken =>
      refine .put present taken ?_ rfl fun _ => rfl
      intro loopAction same
      cases same
      exact body
  | delivered sending present receiverLeft taken =>
      refine .one present ⟨_, taken, nofun, ?_⟩ fun other different => ?_
      · simp [ServerMoment.delivered, sending, present, receiverLeft, TaskMoment.ofMachine,
          Moment.accepted]
      · simp [ServerMoment.delivered, sending, different.symm]

theorem OrderStep.of_advance (nanos : Nat) (task : OrderTask) :
    OrderStep representable task none (OrderTask.advance nanos task) :=
  ⟨.environment (.advance nanos), rfl, nofun, rfl⟩

/-- A machine has just been made, is left alone, or moves. -/
theorem ServerMove.machine_cases (move : ServerMove representable server action next)
    {machine : Nat} {task' : OrderTask} (present : next.machines[machine]? = some task') :
    (server.machines[machine]? = none ∧ ServerMoment.delivered machine (server, action) = none ∧
      ∃ payload : CreateOrderRequest, ∃ config,
        order.program.spawnNamed payload.id ⟨⟨payload.id, payload.items, payload.total⟩⟩
          server.clock = some config ∧ task' = { machine := config }) ∨
    ∃ task, server.machines[machine]? = some task ∧
      (task' = task ∧ ServerMoment.delivered machine (server, action) = none ∨
        OrderStep representable task (ServerMoment.delivered machine (server, action)) task') := by
  have machines := move.machinesMove
  generalize next.machines = nextMachines at machines present
  cases machines with
  | same nothing => exact .inr ⟨task', present, .inl ⟨rfl, nothing machine⟩⟩
  | @one index task task'' found moved others =>
      rw [List.getElem?_set] at present
      split at present
      next same =>
        subst same
        split at present
        next => exact .inr ⟨task, found, .inr (Option.some.inj present ▸ moved)⟩
        next => cases present
      next different =>
        exact .inr ⟨task', present, .inl ⟨rfl, others machine (Ne.symm different)⟩⟩
  | @spawned payload config isSpawned nothing =>
      by_cases old : machine < server.machines.length
      · rw [List.getElem?_append_left old] at present
        exact .inr ⟨task', present, .inl ⟨rfl, nothing machine⟩⟩
      · rw [List.getElem?_append_right (by omega), List.getElem?_singleton] at present
        split at present
        next =>
          exact .inl ⟨List.getElem?_eq_none (by omega), nothing machine, payload, config,
            isSpawned, (Option.some.inj present).symm⟩
        next => cases present
  | advanced nanos nothing =>
      rw [List.getElem?_map, Option.map_eq_some_iff] at present
      obtain ⟨task, found, rfl⟩ := present
      refine .inr ⟨task, found, .inr ?_⟩
      rw [nothing machine]
      exact .of_advance nanos task

theorem ServerMove.machines_length (move : ServerMove representable server action next) :
    server.machines.length ≤ next.machines.length := by
  have machines := move.machinesMove
  generalize next.machines = nextMachines at machines
  cases machines with
  | same | one | advanced | spawned => simp

/-- Machines do not go away. -/
theorem ServerMove.exists_next (move : ServerMove representable server action next)
    {machine : Nat} {task : OrderTask} (present : server.machines[machine]? = some task) :
    ∃ task', next.machines[machine]? = some task' ∧
      (task' = task ∧ ServerMoment.delivered machine (server, action) = none ∨
        OrderStep representable task (ServerMoment.delivered machine (server, action)) task') := by
  obtain ⟨inside, -⟩ := List.getElem?_eq_some_iff.mp present
  have stillInside := Nat.lt_of_lt_of_le inside move.machines_length
  have found := List.getElem?_eq_getElem stillInside
  obtain ⟨absent, -⟩ | ⟨task'', present', moved⟩ := move.machine_cases found
  · rw [present] at absent
    cases absent
  · rw [present] at present'
    cases present'
    exact ⟨_, found, moved⟩

theorem ServerMoment.delivered_of_absent {machine : Nat}
    (absent : server.machines[machine]? = none) :
    ServerMoment.delivered machine (server, action) = none := by
  unfold ServerMoment.delivered
  split
  next moment server' index momentEq =>
    cases momentEq
    split
    next target event started _ =>
      refine if_neg ?_
      rintro ⟨rfl, receiverLeft⟩
      simp [absent] at receiverLeft
    next => rfl
  next => rfl

/-- Nothing is delivered to a machine before it is made. -/
theorem ServiceRun.delivered_of_absent {trace : List ServerMoment} {last : AppServer}
    (run : ServiceRun representable trace last) {machine : Nat}
    (absent : last.machines[machine]? = none) :
    trace.filterMap (ServerMoment.delivered machine) = [] := by
  obtain ⟨clock, run⟩ := run
  induction run with
  | refl => rfl
  | @snoc trace middle last action _ taken ih =>
      have grows := (ServerMove.of_step taken).machines_length
      rw [List.getElem?_eq_none_iff] at absent
      have wasAbsent : middle.machines[machine]? = none :=
        List.getElem?_eq_none (by omega)
      rw [filterMap_snoc, ih wasAbsent, ServerMoment.delivered_of_absent wasAbsent]
      rfl

/-- The handlers of the moment do what those of an order do. -/
def Moment.OrderBodied : Moment OrderContext Empty Empty → Prop
  | (config, .loop action) => OrderBody config action
  | _ => True

/-- What a service has made of one of its machines is a run of the machine's
task, in which the events accepted are those delivered. -/
theorem ServiceRun.taskExecutes {trace : List ServerMoment} {last : AppServer}
    (run : ServiceRun representable trace last) {machine : Nat} {task : OrderTask}
    (present : last.machines[machine]? = some task) :
    ∃ initial taskTrace, TaskExecutes order.program representable initial taskTrace task ∧
      (taskTrace.filterMap TaskMoment.ofMachine).filterMap Moment.accepted =
        ((trace.filterMap (ServerMoment.delivered machine)).map fun event => ⟨event, none⟩) ∧
      ∀ moment ∈ taskTrace.filterMap TaskMoment.ofMachine, moment.OrderBodied := by
  obtain ⟨clock, run⟩ := run
  induction run generalizing task with
  | refl => simp at present
  | @snoc trace middle last action previous taken ih =>
      rw [filterMap_snoc]
      obtain ⟨absent, nothing, payload, config, isSpawned, rfl⟩ | ⟨before, found, moved⟩ :=
        (ServerMove.of_step taken).machine_cases present
      · refine ⟨_, [], ⟨⟨_, _, _, _, config, isSpawned, rfl⟩, .refl⟩, ?_⟩
        rw [nothing, ServiceRun.delivered_of_absent ⟨clock, previous⟩ absent]
        exact ⟨rfl, List.forall_mem_nil _⟩
      · obtain ⟨initial, taskTrace, executes, sameEvents, bodied⟩ := ih found
        obtain ⟨rfl, nothing⟩ | ⟨taskAction, moved, body, accepted⟩ := moved
        · refine ⟨initial, taskTrace, executes, ?_, bodied⟩
          rw [nothing, sameEvents]
          simp
        · refine ⟨initial, _, ⟨executes.spawned, executes.run.snoc moved⟩, ?_, ?_⟩
          · have flatten (moment : Option (Moment OrderContext Empty Empty)) :
                moment.toList.filterMap Moment.accepted =
                  (moment.bind Moment.accepted).toList := by
              cases moment with
              | none => rfl
              | some moment => exact filterMap_snoc Moment.accepted [] moment
            rw [filterMap_snoc, List.filterMap_append, sameEvents, List.map_append, flatten,
              accepted, Option.toList_map]
          · rw [filterMap_snoc]
            refine List.forall_mem_append.mpr ⟨bodied, ?_⟩
            cases taskAction with
            | loop action => exact List.forall_mem_singleton.mpr (body action rfl)
            | environment => exact List.forall_mem_singleton.mpr trivial
            | beginPoll | await | drop => exact List.forall_mem_nil _

end Machines

/-! ## Names -/

/-- The machine was made for the order. -/
def AppServer.MadeFor (server : AppServer) (machine : Nat) (id : String) : Prop :=
  ∃ task, server.machines[machine]? = some task ∧ task.machine.fsm.name = some id ∧
    task.machine.fsm.context.order.id = id

section Names

variable {representable : Nat → Bool} {server next : AppServer} {action : ServerAction}

/-- A machine keeps its name and its context. -/
theorem OrderStep.fsm_eq {task task' : OrderTask} {sent : Option Ident}
    (moved : OrderStep representable task sent task') :
    task'.machine.fsm.name = task.machine.fsm.name ∧
      task'.machine.fsm.context = task.machine.fsm.context := by
  obtain ⟨action, taken, body, -⟩ := moved
  cases TaskMove.of_taskStep taken with
  | environment moved =>
      rw [(EnvironmentMove.of_environmentStep moved).fsm_eq]
      exact ⟨rfl, rfl⟩
  | beginPoll | ready | pending | drop => exact ⟨rfl, rfl⟩
  | @loop loopAction machine mayTake moved =>
      have sameFsm := body loopAction rfl
      cases LoopMove.of_loopStep moved with
      | handlerPending | handlerCancelled =>
          obtain rfl := sameFsm
          exact ⟨rfl, rfl⟩
      | @handlerReady _ _ _ _ _ result =>
          obtain rfl := sameFsm
          cases result with
          | ok target => exact ⟨rfl, rfl⟩
          | error error => exact error.elim
      | _ => exact ⟨rfl, rfl⟩

theorem ServerMove.madeFor (move : ServerMove representable server action next)
    {machine : Nat} {id : String} (madeFor : server.MadeFor machine id) :
    next.MadeFor machine id := by
  obtain ⟨task, present, nameEq, idEq⟩ := madeFor
  obtain ⟨task', present', ⟨rfl, -⟩ | moved⟩ := move.exists_next present
  · exact ⟨_, present', nameEq, idEq⟩
  · obtain ⟨sameName, sameContext⟩ := moved.fsm_eq
    exact ⟨task', present', sameName.trans nameEq, by rw [sameContext, idEq]⟩

theorem AppServer.getElem?_arrive {request found : Request} {index : Nat}
    (present : (server.arrive request).requests[index]? = some found) :
    server.requests[index]? = some found ∨ found = request := by
  rw [AppServer.arrive, List.getElem?_append] at present
  split at present
  next => exact .inl present
  next =>
    rw [List.getElem?_singleton] at present
    split at present
    next => exact .inr (Option.some.inj present).symm
    next => cases present

theorem AppServer.getElem?_goOn {request found : Request} {index other : Nat}
    (present : (server.goOn index request).requests[other]? = some found) :
    server.requests[other]? = some found ∧ other ≠ index ∨ found = request ∧ other = index := by
  rw [AppServer.goOn, List.getElem?_set] at present
  split at present
  next same =>
    split at present
    next => exact .inr ⟨(Option.some.inj present).symm, same.symm⟩
    next => cases present
  next different => exact .inl ⟨present, Ne.symm different⟩

/-- A request that creates an order has done so before, or has just made its
machine. -/
theorem ServerMove.creating_cases (move : ServerMove representable server action next)
    {index machine : Nat} {id : String}
    (creating : next.requests[index]? = some (.creating id machine)) :
    server.requests[index]? = some (.creating id machine) ∨
      (server.machines.length = machine ∧ next.MadeFor machine id) := by
  cases move with
  | @spawned payload config isSpawned =>
      obtain before | latest := AppServer.getElem?_arrive creating
      · exact .inl before
      · cases latest
        obtain ⟨-, rfl⟩ : _ ∧ _ = config := by simpa [GeneratedFsm.spawnNamed,
          GeneratedFsm.spawnNamedWithToken] using isSpawned
        exact .inr ⟨rfl, _, List.getElem?_concat_length, rfl, rfl⟩
  | notFound | cloned | status | removed =>
      exact .inl ((AppServer.getElem?_arrive creating).resolve_right nofun)
  | duplicate | inserted | gone | delivered | shutdown | joined | disconnected | droppedTask
  | droppedHandle =>
      obtain ⟨before, -⟩ | ⟨impossible, -⟩ := AppServer.getElem?_goOn creating
      · exact .inl before
      · cases impossible
  | pending | beginPoll | loop | advanced => exact .inl creating

/-- An order in the map was there before, or has just been put there. -/
theorem ServerMove.lookup_cases (move : ServerMove representable server action next)
    {id : String} {machine : Nat} (found : next.orders.lookup id = some machine) :
    server.orders.lookup id = some machine ∨
      ∃ index, action = .insertOrder index ∧
        server.requests[index]? = some (.creating id machine) ∧
          next.requests[index]? = some (.answered (some ⟨.created, "status", "Order created"⟩)) := by
  cases move with
  | @inserted index other otherId creating absent =>
      by_cases same : id = otherId
      · subst same
        have inserted : (server.orders.insert id other).lookup id = some machine := found
        rw [AList.lookup_insert, Option.some_inj] at inserted
        subst inserted
        obtain ⟨inside, -⟩ := List.getElem?_eq_some_iff.mp creating
        exact .inr ⟨index, rfl, creating, List.getElem?_set_self inside⟩
      · have inserted : (server.orders.insert otherId other).lookup id = some machine := found
        rw [AList.lookup_insert_ne same] at inserted
        exact .inl inserted
  | @removed otherId other =>
      have erased : (server.orders.erase otherId).lookup id = some machine := found
      by_cases same : id = otherId
      · subst same
        rw [AList.lookup_erase] at erased
        cases erased
      · rw [AList.lookup_erase_ne same] at erased
        exact .inl erased
  | _ => exact .inl found

/-- Whoever refers to a machine by an id has the one made for it. -/
structure AppServer.WellNamed (server : AppServer) : Prop where
  registered : ∀ id machine, server.orders.lookup id = some machine → server.MadeFor machine id
  creating : ∀ (index : Nat) id machine,
    server.requests[index]? = some (.creating id machine) → server.MadeFor machine id

theorem ServiceRun.wellNamed {trace : List ServerMoment} {last : AppServer}
    (run : ServiceRun representable trace last) : last.WellNamed := by
  obtain ⟨clock, run⟩ := run
  induction run with
  | refl => exact ⟨nofun, by simp⟩
  | snoc _ taken ih =>
      have move := ServerMove.of_step taken
      constructor
      · intro id machine found
        obtain before | ⟨index, -, creating, -⟩ := move.lookup_cases found
        · exact move.madeFor (ih.registered id machine before)
        · exact move.madeFor (ih.creating index id machine creating)
      · intro index id machine creating
        obtain before | ⟨-, madeFor⟩ := move.creating_cases creating
        · exact move.madeFor (ih.creating index id machine before)
        · exact madeFor

end Names

/-! ## Accounts -/

/-- The request owns the task of the machine. -/
def Request.ownsTask (machine : Nat) : Request → Bool
  | .creating _ owned | .removed owned | .stopping owned | .leaving owned true _ =>
      decide (owned = machine)
  | _ => false

/-- The request owns a handle of the machine. -/
def Request.ownsHandle (machine : Nat) : Request → Bool
  | .creating _ owned | .sending owned _ _ | .removed owned | .stopping owned
  | .leaving owned _ _ => decide (owned = machine)
  | .answered _ => false

namespace AppServer

/-- How often the machine is in the map. -/
def registered (server : AppServer) (machine : Nat) : Nat :=
  server.orders.entries.countP fun entry => decide (entry.2 = machine)

def taskOwners (server : AppServer) (machine : Nat) : Nat :=
  server.registered machine + server.requests.countP (Request.ownsTask machine)

def handleOwners (server : AppServer) (machine : Nat) : Nat :=
  server.registered machine + server.requests.countP (Request.ownsHandle machine)

/-- Whether the task handle of the machine is still there. -/
def held (server : AppServer) (machine : Nat) : Nat :=
  (server.machines[machine]?).elim 0 fun task => task.held.toNat

def handles (server : AppServer) (machine : Nat) : Nat :=
  (server.machines[machine]?).elim 0 fun task => task.machine.handles

/-- Every task handle has one owner, and every handle of a machine too. -/
structure Accounted (server : AppServer) : Prop where
  tasks : ∀ machine, server.taskOwners machine = server.held machine
  handles : ∀ machine, server.handleOwners machine = server.handles machine

end AppServer

section Accounts

variable {representable : Nat → Bool} {server next : AppServer} {action : ServerAction}
  {request old : Request} {index machine other : Nat} {task task' : OrderTask}

@[simp]
theorem AppServer.held_goOn : (server.goOn index request).held other = server.held other := rfl

@[simp]
theorem AppServer.handles_goOn : (server.goOn index request).handles other = server.handles other :=
  rfl

@[simp]
theorem AppServer.held_arrive : (server.arrive request).held other = server.held other := rfl

@[simp]
theorem AppServer.handles_arrive : (server.arrive request).handles other = server.handles other :=
  rfl

@[simp]
theorem AppServer.taskOwners_put :
    (server.put machine task).taskOwners other = server.taskOwners other :=
  rfl

@[simp]
theorem AppServer.handleOwners_put :
    (server.put machine task).handleOwners other = server.handleOwners other :=
  rfl

@[simp]
theorem AppServer.taskOwners_arrive :
    (server.arrive request).taskOwners other =
      server.taskOwners other + (request.ownsTask other).toNat := by
  rw [taskOwners, taskOwners, arrive, countP_snoc, Nat.add_assoc]
  rfl

@[simp]
theorem AppServer.handleOwners_arrive :
    (server.arrive request).handleOwners other =
      server.handleOwners other + (request.ownsHandle other).toNat := by
  rw [handleOwners, handleOwners, arrive, countP_snoc, Nat.add_assoc]
  rfl

/-- A request that goes on gives up what it owned for what it owns next. -/
theorem AppServer.owners_goOn (found : server.requests[index]? = some old) {tasks handles : Nat}
    (taskBalance : server.taskOwners other + (request.ownsTask other).toNat =
      tasks + (old.ownsTask other).toNat)
    (handleBalance : server.handleOwners other + (request.ownsHandle other).toNat =
      handles + (old.ownsHandle other).toNat) :
    (server.goOn index request).taskOwners other = tasks ∧
      (server.goOn index request).handleOwners other = handles := by
  have taskCount := countP_set (Request.ownsTask other) found request
  have handleCount := countP_set (Request.ownsHandle other) found request
  have same : (server.goOn index request).registered other = server.registered other := rfl
  rw [taskOwners] at taskBalance
  rw [handleOwners] at handleBalance
  rw [taskOwners, handleOwners, same, goOn]
  dsimp only
  omega

theorem AppServer.held_put (present : server.machines[machine]? = some task)
    (task' : OrderTask) :
    server.held machine = task.held.toNat ∧ server.handles machine = task.machine.handles ∧
      (server.put machine task').held machine = task'.held.toNat ∧
        (server.put machine task').handles machine = task'.machine.handles := by
  obtain ⟨inside, -⟩ := List.getElem?_eq_some_iff.mp present
  simp [held, handles, put, present, List.getElem?_set_self inside]

theorem AppServer.held_put_ne (server : AppServer) (task' : OrderTask)
    (different : machine ≠ other) :
    (server.put machine task').held other = server.held other ∧
      (server.put machine task').handles other = server.handles other := by
  simp [held, handles, put, List.getElem?_set_ne different]

theorem AppServer.held_advance {nanos : Nat} :
    (server.advance nanos).held other = server.held other ∧
      (server.advance nanos).handles other = server.handles other := by
  cases present : server.machines[other]? with
  | none | some task => simp [held, handles, advance, OrderTask.advance, present]

theorem taskStep_cloneHandle
    (taken : taskStep order.program representable task (.environment .cloneHandle) = some task') :
    task'.held = task.held ∧ task'.machine.handles = task.machine.handles + 1 := by
  obtain ⟨machine, moved, rfl⟩ := Option.map_eq_some_iff.mp taken
  obtain ⟨-, same⟩ := Option.ite_none_right_eq_some.mp moved
  cases same
  exact ⟨rfl, rfl⟩

theorem taskStep_dropHandle
    (taken : taskStep order.program representable task (.environment .dropHandle) = some task') :
    task'.held = task.held ∧ task'.machine.handles + 1 = task.machine.handles := by
  obtain ⟨machine, moved, rfl⟩ := Option.map_eq_some_iff.mp taken
  obtain ⟨hasHandle, same⟩ := Option.ite_none_right_eq_some.mp moved
  cases same
  exact ⟨rfl, Nat.sub_add_cancel hasHandle⟩

theorem taskStep_drop
    (taken : taskStep order.program representable task .drop = some task') :
    task.held = true ∧ task'.held = false ∧ task'.machine.handles = task.machine.handles := by
  obtain ⟨isHeld, same⟩ := Option.ite_none_right_eq_some.mp taken
  cases same
  exact ⟨isHeld, rfl, rfl⟩

/-- No other action touches the handles. -/
theorem taskStep_keeps {action : TaskAction OrderContext Empty Empty}
    (taken : taskStep order.program representable task action = some task')
    (notClone : action ≠ .environment .cloneHandle)
    (notDropHandle : action ≠ .environment .dropHandle) (notDrop : action ≠ .drop) :
    task'.held = task.held ∧ task'.machine.handles = task.machine.handles := by
  cases TaskMove.of_taskStep taken with
  | drop => exact absurd rfl notDrop
  | beginPoll | ready | pending => exact ⟨rfl, rfl⟩
  | loop _ moved => exact ⟨rfl, (LoopMove.of_loopStep moved).frame.2.1⟩
  | @environment action machine moved =>
      refine ⟨rfl, ?_⟩
      cases action with
      | cloneHandle => exact absurd rfl notClone
      | dropHandle => exact absurd rfl notDropHandle
      | advance | cancelAncestor =>
          cases moved
          rfl
      | send | shutdown =>
          obtain ⟨-, same⟩ := Option.ite_none_right_eq_some.mp moved
          cases same
          rfl

/-- A machine that moves without touching its handles leaves the accounts as
they are. -/
theorem AppServer.accounts_put (present : server.machines[machine]? = some task)
    (kept : task'.held = task.held ∧ task'.machine.handles = task.machine.handles) :
    (server.put machine task').held other = server.held other ∧
      (server.put machine task').handles other = server.handles other := by
  by_cases same : machine = other
  · subst same
    obtain ⟨held, handles, heldPut, handlesPut⟩ := AppServer.held_put present task'
    rw [heldPut, handlesPut, kept.1, kept.2, held, handles]
    exact ⟨rfl, rfl⟩
  · exact AppServer.held_put_ne server task' same

/-- The request owns of every machine what it owned before. -/
theorem AppServer.Accounted.goOn (accounted : server.Accounted)
    (found : server.requests[index]? = some old)
    (sameTask : request.ownsTask other = old.ownsTask other)
    (sameHandle : request.ownsHandle other = old.ownsHandle other) :
    (server.goOn index request).taskOwners other = server.held other ∧
      (server.goOn index request).handleOwners other = server.handles other := by
  apply AppServer.owners_goOn found
  · rw [accounted.tasks, sameTask]
  · rw [accounted.handles, sameHandle]

theorem AppServer.owners_register {id : String} (absent : server.orders.lookup id = none) :
    (server.register id machine).taskOwners other =
        server.taskOwners other + (decide (machine = other)).toNat ∧
      (server.register id machine).handleOwners other =
        server.handleOwners other + (decide (machine = other)).toNat := by
  have inserted := countP_insert (fun entry => decide (entry.2 = other)) absent machine
  dsimp only [taskOwners, handleOwners, registered, register] at inserted ⊢
  omega

theorem AppServer.owners_unregister {id : String}
    (found : server.orders.lookup id = some machine) :
    (server.unregister id).taskOwners other + (decide (machine = other)).toNat =
        server.taskOwners other ∧
      (server.unregister id).handleOwners other + (decide (machine = other)).toNat =
        server.handleOwners other := by
  have erased := countP_erase (fun entry => decide (entry.2 = other)) found
  dsimp only [taskOwners, handleOwners, registered, unregister] at erased ⊢
  omega

theorem AppServer.owners_spawn {id : String} {config : Config OrderContext Empty Empty} :
    (server.spawn id config).taskOwners other =
        server.taskOwners other + (decide (server.machines.length = other)).toNat ∧
      (server.spawn id config).handleOwners other =
        server.handleOwners other + (decide (server.machines.length = other)).toNat := by
  dsimp only [taskOwners, handleOwners, registered, spawn]
  rw [countP_snoc, countP_snoc]
  dsimp only [Request.ownsTask, Request.ownsHandle]
  omega

theorem AppServer.held_spawn {id : String} {config : Config OrderContext Empty Empty}
    (oneHandle : config.handles = 1) :
    (server.spawn id config).held other =
        server.held other + (decide (server.machines.length = other)).toNat ∧
      (server.spawn id config).handles other =
        server.handles other + (decide (server.machines.length = other)).toNat := by
  by_cases same : server.machines.length = other
  · subst same
    simp [held, AppServer.handles, spawn, oneHandle]
  · by_cases old : other < server.machines.length
    · simp [held, AppServer.handles, spawn, same, List.getElem?_append_left old]
    · have absent : server.machines.length < other := by omega
      have stillAbsent : other - server.machines.length ≠ 0 := by omega
      simp [held, AppServer.handles, spawn, same, List.getElem?_append_right (Nat.le_of_lt absent),
        List.getElem?_eq_none (Nat.le_of_lt absent), stillAbsent]

theorem ServerMove.accounted (move : ServerMove representable server action next)
    (accounted : server.Accounted) : next.Accounted := by
  suffices both : ∀ other, next.taskOwners other = next.held other ∧
      next.handleOwners other = next.handles other from
    ⟨fun other => (both other).1, fun other => (both other).2⟩
  intro other
  have tasks := accounted.tasks other
  have handles := accounted.handles other
  cases move with
  | notFound | status => simp [tasks, handles, Request.ownsTask, Request.ownsHandle]
  | @spawned payload config isSpawned =>
      have begin := Spawned.of_spawn isSpawned
      obtain ⟨taskCount, handleCount⟩ := AppServer.owners_spawn
      obtain ⟨heldNext, handlesNext⟩ := AppServer.held_spawn begin.handles_eq
      rw [taskCount, handleCount, heldNext, handlesNext, tasks, handles]
      exact ⟨rfl, rfl⟩
  | duplicate creating | gone creating => exact accounted.goOn creating rfl rfl
  | @inserted index machine id creating absent =>
      have found : (server.register id machine).requests[index]? = _ := creating
      obtain ⟨taskCount, handleCount⟩ := AppServer.owners_register absent
      apply AppServer.owners_goOn found
      · rw [taskCount, tasks]
        rfl
      · rw [handleCount, handles]
        rfl
  | @removed id machine found =>
      obtain ⟨taskCount, handleCount⟩ := AppServer.owners_unregister found
      rw [AppServer.taskOwners_arrive, AppServer.handleOwners_arrive]
      exact ⟨taskCount.trans tasks, handleCount.trans handles⟩
  | @cloned _ id started event machine task task' _ _ found present taken =>
      obtain ⟨sameHeld, cloned⟩ := taskStep_cloneHandle taken
      simp only [AppServer.taskOwners_arrive, AppServer.handleOwners_arrive,
        AppServer.taskOwners_put, AppServer.handleOwners_put, AppServer.held_arrive,
        AppServer.handles_arrive, Request.ownsTask, Request.ownsHandle]
      by_cases same : machine = other
      · subst same
        obtain ⟨held, count, heldPut, countPut⟩ := AppServer.held_put present task'
        simp only [heldPut, countPut, sameHeld, cloned, decide_true, Bool.toNat_true,
          Bool.toNat_false]
        omega
      · obtain ⟨heldPut, countPut⟩ := AppServer.held_put_ne server task' same
        simp [heldPut, countPut, same, tasks, handles]
  | delivered sending present _ taken | shutdown sending present taken
  | joined sending present _ taken =>
      obtain ⟨heldPut, countPut⟩ :=
        AppServer.accounts_put present (taskStep_keeps taken nofun nofun nofun)
      rw [AppServer.held_goOn, AppServer.handles_goOn, heldPut, countPut]
      exact accounted.goOn sending rfl rfl
  | pending _ present _ taken | beginPoll present taken | loop present _ taken =>
      obtain ⟨heldPut, countPut⟩ :=
        AppServer.accounts_put present (taskStep_keeps taken nofun nofun nofun)
      rw [heldPut, countPut]
      exact ⟨tasks, handles⟩
  | disconnected found owned =>
      obtain ⟨id, rfl, rfl⟩ | ⟨rfl, rfl⟩ | ⟨event, started, rfl, rfl⟩ := owned
      · exact accounted.goOn found rfl rfl
      · exact accounted.goOn found rfl rfl
      · exact accounted.goOn found rfl rfl
  | @droppedTask index machine response task task' leaving present taken =>
      obtain ⟨wasHeld, notHeld, sameCount⟩ := taskStep_drop taken
      have found : (server.put machine task').requests[index]? = _ := leaving
      apply AppServer.owners_goOn found
      all_goals
        simp only [AppServer.taskOwners_put, AppServer.handleOwners_put, AppServer.held_goOn,
          AppServer.handles_goOn, Request.ownsTask, Request.ownsHandle]
      · by_cases same : machine = other
        · subst same
          obtain ⟨held, -, heldPut, -⟩ := AppServer.held_put present task'
          simp [heldPut, notHeld, tasks, held, wasHeld]
        · simp [(AppServer.held_put_ne server task' same).1, same, tasks]
      · by_cases same : machine = other
        · subst same
          obtain ⟨-, count, -, countPut⟩ := AppServer.held_put present task'
          rw [countPut, sameCount, handles, count]
        · rw [(AppServer.held_put_ne server task' same).2, handles]
  | @droppedHandle index machine response task task' leaving present taken =>
      obtain ⟨sameHeld, oneLess⟩ := taskStep_dropHandle taken
      have found : (server.put machine task').requests[index]? = _ := leaving
      apply AppServer.owners_goOn found
      all_goals
        simp only [AppServer.taskOwners_put, AppServer.handleOwners_put, AppServer.held_goOn,
          AppServer.handles_goOn, Request.ownsTask, Request.ownsHandle]
      · by_cases same : machine = other
        · subst same
          obtain ⟨held, -, heldPut, -⟩ := AppServer.held_put present task'
          rw [heldPut, sameHeld, tasks, held]
        · rw [(AppServer.held_put_ne server task' same).1, tasks]
      · by_cases same : machine = other
        · subst same
          obtain ⟨-, count, -, countPut⟩ := AppServer.held_put present task'
          simp only [countPut, handles, count, decide_true, Bool.toNat_true, Bool.toNat_false]
          omega
        · simp [(AppServer.held_put_ne server task' same).2, same, handles]
  | advanced =>
      obtain ⟨sameHeld, sameCount⟩ := AppServer.held_advance
      rw [sameHeld, sameCount]
      exact ⟨tasks, handles⟩

theorem ServiceRun.accounted {trace : List ServerMoment} {last : AppServer}
    (run : ServiceRun representable trace last) : last.Accounted := by
  obtain ⟨clock, run⟩ := run
  induction run with
  | refl => exact ⟨fun _ => rfl, fun _ => rfl⟩
  | snoc _ taken ih => exact (ServerMove.of_step taken).accounted ih

theorem AppServer.registered_pos {id : String} (found : server.orders.lookup id = some machine) :
    0 < server.registered machine :=
  List.countP_pos_iff.mpr ⟨⟨id, machine⟩, AList.mem_lookup_iff.mp found, by simp⟩

theorem AppServer.countP_pos {counts : Request → Bool}
    (found : server.requests[index]? = some request) (counted : counts request = true) :
    0 < server.requests.countP counts :=
  List.countP_pos_iff.mpr ⟨request, List.mem_of_getElem? found, counted⟩

theorem AppServer.held_le (server : AppServer) (machine : Nat) : server.held machine ≤ 1 := by
  unfold held
  cases server.machines[machine]? with
  | none => exact Nat.zero_le 1
  | some task => exact Bool.toNat_le task.held

/-- Nobody owns handles of a machine that has not been made. -/
theorem AppServer.Accounted.handleOwners_eq_zero (accounted : server.Accounted)
    (absent : server.machines[machine]? = none) : server.handleOwners machine = 0 := by
  rw [accounted.handles, AppServer.handles, absent]
  rfl

/-- The task of a machine in the map is owned by no request. -/
theorem AppServer.Accounted.not_registered (accounted : server.Accounted)
    (found : server.requests[index]? = some request) (owns : request.ownsTask machine = true)
    (id : String) : server.orders.lookup id ≠ some machine := by
  intro isRegistered
  have inMap := AppServer.registered_pos isRegistered
  have inRequest := AppServer.countP_pos found owns
  have owners := accounted.tasks machine
  have atMostOne := server.held_le machine
  rw [AppServer.taskOwners] at owners
  omega

/-- Two requests that own the task of a machine are one. -/
theorem AppServer.Accounted.owner_unique (accounted : server.Accounted) {first second : Request}
    {firstIndex secondIndex : Nat} (firstFound : server.requests[firstIndex]? = some first)
    (secondFound : server.requests[secondIndex]? = some second)
    (firstOwns : first.ownsTask machine = true) (secondOwns : second.ownsTask machine = true) :
    first = second := by
  apply eq_of_countP_le_one ?_ (List.mem_of_getElem? firstFound)
    (List.mem_of_getElem? secondFound) firstOwns secondOwns
  have owners := accounted.tasks machine
  have atMostOne := server.held_le machine
  rw [AppServer.taskOwners] at owners
  omega

end Accounts

/-! ## What is in the map runs -/

/-- The machine is in the map, or on its way there. -/
def AppServer.Upcoming (server : AppServer) (machine : Nat) : Prop :=
  (∃ id, server.orders.lookup id = some machine) ∨
    ∃ (index : Nat) (id : String), server.requests[index]? = some (.creating id machine)

section Running

variable {representable : Nat → Bool} {server next last : AppServer} {action : ServerAction}
  {trace : List ServerMoment} {machine : Nat}

/-- A machine comes into the map from the request that has made it. -/
theorem ServerMove.upcoming_cases (move : ServerMove representable server action next)
    (upcoming : next.Upcoming machine) :
    server.Upcoming machine ∨ server.machines.length = machine := by
  obtain ⟨id, found⟩ | ⟨index, id, creating⟩ := upcoming
  · obtain before | ⟨index, -, creating, -⟩ := move.lookup_cases found
    · exact .inl (.inl ⟨id, before⟩)
    · exact .inl (.inr ⟨index, id, creating⟩)
  · obtain before | ⟨isNew, -⟩ := move.creating_cases creating
    · exact .inl (.inr ⟨index, id, before⟩)
    · exact .inr isNew

theorem AppServer.Accounted.not_upcoming (accounted : server.Accounted) {index : Nat}
    {request : Request} (found : server.requests[index]? = some request)
    (owns : request.ownsTask machine = true) (notCreating : ∀ id, request ≠ .creating id machine) :
    ¬ server.Upcoming machine := by
  rintro (⟨id, isRegistered⟩ | ⟨other, id, creating⟩)
  · exact accounted.not_registered found owns id isRegistered
  · exact notCreating id (accounted.owner_unique found creating owns (by simp [Request.ownsTask]))

theorem taskStep_cancelled {task task' : OrderTask}
    {taskAction : TaskAction OrderContext Empty Empty}
    (taken : taskStep order.program representable task taskAction = some task')
    (isCancelled : task'.machine.cancelled = true) :
    task.machine.cancelled = true ∨ taskAction = .environment .shutdown ∨
      taskAction = .environment .cancelAncestor := by
  cases TaskMove.of_taskStep taken with
  | beginPoll | ready | pending | drop => exact .inl isCancelled
  | loop _ moved =>
      rw [(LoopMove.of_loopStep moved).frame.2.2] at isCancelled
      exact .inl isCancelled
  | @environment environmentAction machine moved =>
      cases environmentAction with
      | shutdown => exact .inr (.inl rfl)
      | cancelAncestor => exact .inr (.inr rfl)
      | advance =>
          cases moved
          exact .inl isCancelled
      | send | cloneHandle | dropHandle =>
          obtain ⟨-, same⟩ := Option.ite_none_right_eq_some.mp moved
          cases same
          exact .inl isCancelled

theorem AppServer.getElem?_put {put : Nat} {task task' : OrderTask}
    (present : (server.put put task).machines[machine]? = some task') :
    put = machine ∧ task' = task ∨ server.machines[machine]? = some task' := by
  rw [AppServer.put, List.getElem?_set] at present
  split at present
  next same =>
    split at present
    next => exact .inl ⟨same, (Option.some.inj present).symm⟩
    next => cases present
  next => exact .inr present

/-- Only the request that stops an order cancels the token of its machine. -/
theorem ServerMove.cancelled_cases (move : ServerMove representable server action next)
    {task' : OrderTask} (present' : next.machines[machine]? = some task')
    (isCancelled : task'.machine.cancelled = true) :
    (∃ task, server.machines[machine]? = some task ∧ task.machine.cancelled = true) ∨
      ∃ index : Nat, server.requests[index]? = some (.removed machine) := by
  have kept {put : Nat} {task task'' : OrderTask}
      {taskAction : TaskAction OrderContext Empty Empty}
      (present : server.machines[put]? = some task)
      (taken : taskStep order.program representable task taskAction = some task'')
      (notCancels : taskAction ≠ .environment .shutdown ∧
        taskAction ≠ .environment .cancelAncestor)
      (present' : (server.put put task'').machines[machine]? = some task') :
      ∃ task, server.machines[machine]? = some task ∧ task.machine.cancelled = true := by
    obtain ⟨rfl, rfl⟩ | present' := AppServer.getElem?_put present'
    · obtain wasCancelled | stops | stops := taskStep_cancelled taken isCancelled
      · exact ⟨task, present, wasCancelled⟩
      · exact absurd stops notCancels.1
      · exact absurd stops notCancels.2
    · exact ⟨task', present', isCancelled⟩
  cases move with
  | notFound | duplicate | inserted | status | removed | gone | disconnected =>
      exact .inl ⟨task', present', isCancelled⟩
  | @spawned payload config isSpawned =>
      rw [AppServer.spawn, List.getElem?_append] at present'
      split at present'
      next => exact .inl ⟨task', present', isCancelled⟩
      next =>
        rw [List.getElem?_singleton] at present'
        split at present'
        next =>
          -- a machine begins with a fresh token
          obtain ⟨-, rfl⟩ : _ ∧ _ = config := by simpa [GeneratedFsm.spawnNamed,
            GeneratedFsm.spawnNamedWithToken] using isSpawned
          cases present'
          cases isCancelled
        next => cases present'
  | shutdown removed present taken =>
      obtain ⟨rfl, -⟩ | present' := AppServer.getElem?_put present'
      · exact .inr ⟨_, removed⟩
      · exact .inl ⟨task', present', isCancelled⟩
  | cloned _ _ _ present taken | delivered _ present _ taken | pending _ present _ taken
  | joined _ present _ taken | droppedTask _ present taken | droppedHandle _ present taken
  | beginPoll present taken | loop present _ taken =>
      exact .inl (kept present taken ⟨nofun, nofun⟩ present')
  | advanced =>
      rw [AppServer.advance, List.getElem?_map, Option.map_eq_some_iff] at present'
      obtain ⟨task, present, rfl⟩ := present'
      exact .inl ⟨task, present, isCancelled⟩

/-- A machine on its way into the map, or in it, has not been shut down. -/
theorem ServiceRun.not_cancelled (run : ServiceRun representable trace last)
    (upcoming : last.Upcoming machine) {task : OrderTask}
    (present : last.machines[machine]? = some task) : task.machine.cancelled = false := by
  by_contra isCancelled
  rw [Bool.not_eq_false] at isCancelled
  obtain ⟨clock, run⟩ := run
  induction run generalizing task with
  | refl => simp at present
  | @snoc trace middle last action previous taken ih =>
      have move := ServerMove.of_step taken
      have accounted := ServiceRun.accounted ⟨clock, previous⟩
      obtain ⟨before, present', wasCancelled⟩ | ⟨index, removed⟩ :=
        move.cancelled_cases present isCancelled
      · obtain wasUpcoming | isNew := move.upcoming_cases upcoming
        · exact ih wasUpcoming present' wasCancelled
        · obtain ⟨inside, -⟩ := List.getElem?_eq_some_iff.mp present'
          omega
      · have owns : (Request.removed machine).ownsTask machine = true := by
          simp [Request.ownsTask]
        obtain wasUpcoming | isNew := move.upcoming_cases upcoming
        · exact accounted.not_upcoming removed owns nofun wasUpcoming
        · have noOwners := accounted.handleOwners_eq_zero
            (List.getElem?_eq_none (Nat.le_of_eq isNew))
          have owner : 0 < middle.requests.countP (Request.ownsHandle machine) :=
            AppServer.countP_pos removed (by simp [Request.ownsHandle])
          rw [AppServer.handleOwners] at noOwners
          omega

/-- The task of a machine is owned once, by the map or by one request, until it
is dropped, and every handle is accounted for.  An order is in the map under
the id and the name of its machine, which has not been shut down or aborted and
does not end, unless it panics. -/
theorem orders_owned_once (run : ServiceRun representable trace last) :
    (∀ machine task, last.machines[machine]? = some task →
      last.taskOwners machine = task.held.toNat ∧
        last.handleOwners machine = task.machine.handles) ∧
    (∀ first second machine, last.orders.lookup first = some machine →
      last.orders.lookup second = some machine → first = second) ∧
    (∀ id machine, last.orders.lookup id = some machine →
      (∀ (index : Nat) request, last.requests[index]? = some request →
        request.ownsTask machine = false) ∧
      ∃ task, last.machines[machine]? = some task ∧ task.machine.fsm.name = some id ∧
        task.machine.fsm.context.order.id = id ∧ task.held = true ∧
          task.abortRequested = false ∧ task.machine.cancelled = false ∧
            (task.machine.phase.Ended → task.machine.phase = .panicked)) := by
  have accounted := run.accounted
  refine ⟨?_, ?_, ?_⟩
  · intro machine task present
    rw [accounted.tasks, accounted.handles, AppServer.held, AppServer.handles, present]
    exact ⟨rfl, rfl⟩
  · intro first second machine firstFound secondFound
    obtain ⟨task, present, firstName, -⟩ := run.wellNamed.registered first machine firstFound
    obtain ⟨task', present', secondName, -⟩ := run.wellNamed.registered second machine secondFound
    rw [present] at present'
    cases present'
    rw [firstName] at secondName
    exact Option.some.inj secondName
  · intro id machine found
    obtain ⟨task, present, nameEq, idEq⟩ := run.wellNamed.registered id machine found
    have notCancelled := run.not_cancelled (.inl ⟨id, found⟩) present
    obtain ⟨initial, taskTrace, executes, -⟩ := run.taskExecutes present
    have inMap := AppServer.registered_pos found
    have isHeld : task.held = true := by
      have owners := accounted.tasks machine
      rw [AppServer.taskOwners, AppServer.held, present] at owners
      dsimp only [Option.elim] at owners
      rw [← Bool.toNat_eq_one]
      have atMostOne := Bool.toNat_le task.held
      omega
    have hasHandle : 0 < task.machine.handles := by
      have owners := accounted.handles machine
      rw [AppServer.handleOwners, AppServer.handles, present] at owners
      dsimp only [Option.elim] at owners
      omega
    have notAborted : task.abortRequested = false := by
      have heldEq := executes.sound.held_eq
      rw [isHeld] at heldEq
      simpa using heldEq.symm
    refine ⟨fun index request isRequest => ?_, task, present, nameEq, idEq, isHeld, notAborted,
      notCancelled, fun ended => ?_⟩
    · by_contra owns
      rw [Bool.not_eq_false] at owns
      exact accounted.not_registered isRequest owns id found
    · have returned := executes.machine.returned order notCancelled
      cases phaseEq : task.machine.phase with
      | panicked => rfl
      | returned result =>
          cases result with
          | ok context =>
              have noHandle := (returned.ok context phaseEq).1
              omega
          | error error => exact error.elim
      | aborted =>
          rw [executes.sound.aborted phaseEq] at notAborted
          cases notAborted
      | starting | rearming | selecting | calling | publishing =>
          rw [phaseEq] at ended
          exact ended.elim

end Running

/-! ## A run of the service -/

/-- An order as its machine has it while no handler assigns to it. -/
def sampleOrder (state : Ident) : FsmInstance OrderContext :=
  ⟨state, ⟨⟨"42", ["pen"], 5⟩⟩, some "42"⟩

/-- An order is created, validated, created once more in vain, and stopped. -/
def serviceActions : List ServerAction := [
  .createOrder ⟨"42", ["pen"], 5⟩, .insertOrder 0,
  .beginPoll 0, .loop 0 .start, .loop 0 .rearm,
  .validateOrder "42", .deliver 1, .drop 1,
  .loop 0 .recvBranch, .loop 0 (.handlerReady (sampleOrder "Created") (.transition "Validated")),
  .loop 0 .publish, .loop 0 .rearm,
  .createOrder ⟨"42", [], 0⟩, .insertOrder 2, .drop 2, .drop 2,
  .stopOrder "42", .shutdown 3, .loop 0 .cancelledBranch, .loop 0 .dropReceiver,
  .loop 0 .dropSender, .join 3, .drop 3, .drop 3]

/-- The service after some of these actions. -/
def serviceRun (count : Nat) : Option (List ServerMoment × AppServer) :=
  replay (AppServer.step fun _ => true) { clock := 0 } (serviceActions.take count)

theorem ServiceRun.of_sample {count : Nat} {trace : List ServerMoment} {last : AppServer}
    (replayed : serviceRun count = some (trace, last)) : ServiceRun (fun _ => true) trace last :=
  ⟨0, run_of_replay replayed⟩

/-- After the second request to create it, the order is in the map with the
first machine. -/
def orderedRun : List ServerMoment × AppServer :=
  (serviceRun 16).get (by decide)

theorem orders_owned_once_sample :
    ∃ task, orderedRun.2.machines[0]? = some task ∧ task.machine.fsm.name = some "42" ∧
      task.held = true ∧ task.machine.cancelled = false := by
  have replayed : serviceRun 16 = some orderedRun := (Option.some_get _).symm
  have found : orderedRun.2.orders.lookup "42" = some 0 := by decide
  obtain ⟨-, task, present, nameEq, -, isHeld, -, notCancelled, -⟩ :=
    (orders_owned_once (ServiceRun.of_sample replayed)).2.2 "42" 0 found
  exact ⟨task, present, nameEq, isHeld, notCancelled⟩

end TokioFsm
