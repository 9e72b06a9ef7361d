import TokioFsm.TaskHandle
import Mathlib.Data.List.AList

/-!
# A server of machines

The order service keeps one machine for every order.  The map from order ids to
machines is behind a lock, a request holds the lock between two await points
only, and what a request owns meanwhile (a handle, or a handle and a task) it
drops when it is answered or when its client goes away.  The machines run
beside the requests.
-/

namespace TokioFsm

open StepRuns

/-! ## The order machine -/

def orderBlock : ItemImpl where
  selfTy := namedType "OrderFsm"
  items := [
    .type "Context" (namedType "OrderContext"),
    .type "Error" (.path none false [.mk "std" .none, .mk "convert" .none, .mk "Infallible" .none]),
    asyncMethod [onAttribute "Created" "Validate"] "handle_validate" []
      (transitionType "Validated"),
    asyncMethod [onAttribute "Validated" "Charge"] "handle_charge" [] (transitionType "Charged"),
    asyncMethod [onAttribute "Charged" "Ship"] "handle_ship" [] (transitionType "Shipped"),
    asyncMethod [onAttribute "Created" "Error", onAttribute "Validated" "Error",
      onAttribute "Charged" "Error"] "handle_error" [] (transitionType "Failed")]

def orderArgs : FsmArgs :=
  { workerArgs with initial := "Created", tracing := true, serde := true }

def order : AcceptedFsm sampleCrates orderArgs orderBlock :=
  (accept sampleCrates orderArgs orderBlock).get (by decide)

structure Order where
  id : String
  items : List String
  total : UInt64
deriving DecidableEq

structure OrderContext where
  order : Order
deriving DecidableEq

/-- The events of an order carry nothing, and its handlers cannot fail. -/
abbrev OrderTask := OwnedTask OrderContext Empty Empty

def OrderTask.advance (nanos : Nat) (task : OrderTask) : OrderTask :=
  { task with machine := { task.machine with clock := task.machine.clock + nanos } }

/-- The handlers log and sleep; they leave the machine as it is. -/
def OrderBody (config : Config OrderContext Empty Empty) : LoopAction OrderContext Empty → Prop
  | .handlerPending after | .handlerReady after _ | .handlerCancelled after => after = config.fsm
  | _ => True

instance (config : Config OrderContext Empty Empty) (action : LoopAction OrderContext Empty) :
    Decidable (OrderBody config action) := by
  unfold OrderBody
  split <;> infer_instance

/-! ## Requests and responses -/

inductive StatusCode
  | ok
  | created
  | notFound
  | gone
  | conflict
deriving DecidableEq

/-- A status with the one field of its JSON body. -/
structure Response where
  status : StatusCode
  field : String
  text : String
deriving DecidableEq

inductive AppError
  | notFound
  | fsmClosed
  | alreadyExists

def AppError.intoResponse : AppError → Response
  | .notFound => ⟨.notFound, "error", "Order not found"⟩
  | .fsmClosed => ⟨.gone, "error", "Order FSM is already closed"⟩
  | .alreadyExists => ⟨.conflict, "error", "Order already exists"⟩

structure CreateOrderRequest where
  id : String
  items : List String
  total : UInt64

/-- A request in progress, by what it owns. -/
inductive Request
  /-- a handle and a task; it waits for the lock -/
  | creating (id : String) (machine : Nat)
  /-- a clone of the handle; it waits for the capacity to send -/
  | sending (machine : Nat) (event : Ident) (started : String)
  /-- a handle and a task, just removed from the map -/
  | removed (machine : Nat)
  /-- a handle and a task; it waits for the task -/
  | stopping (machine : Nat)
  /-- it is about to drop a handle, and before that perhaps a task -/
  | leaving (machine : Nat) (ownsTask : Bool) (response : Option Response)
  /-- nothing; the client has its response, or has gone away -/
  | answered (response : Option Response)

structure AppServer where
  clock : Nat
  machines : List OrderTask := []
  orders : AList fun _ : String => Nat := ∅
  requests : List Request := []

inductive ServerAction
  | createOrder (payload : CreateOrderRequest)
  | validateOrder (id : String)
  | chargeOrder (id : String)
  | shipOrder (id : String)
  | getOrderStatus (id : String)
  | stopOrder (id : String)
  /-- the lock is there for a request that creates an order -/
  | insertOrder (request : Nat)
  | deliver (request : Nat)
  | shutdown (request : Nat)
  | join (request : Nat)
  | disconnect (request : Nat)
  | drop (request : Nat)
  | beginPoll (machine : Nat)
  | loop (machine : Nat) (action : LoopAction OrderContext Empty)
  | advance (nanos : Nat)

namespace AppServer

variable (representable : Nat → Bool) (server : AppServer)

/-! ## What the endpoints do between two await points -/

def put (machine : Nat) (task : OrderTask) : AppServer :=
  { server with machines := server.machines.set machine task }

def act (machine : Nat) (action : TaskAction OrderContext Empty Empty) : Option AppServer :=
  (server.machines[machine]?).bind fun task =>
    (taskStep order.program representable task action).map (server.put machine)

/-- A new request, as far as it comes. -/
def arrive (request : Request) : AppServer :=
  { server with requests := server.requests ++ [request] }

def goOn (index : Nat) (request : Request) : AppServer :=
  { server with requests := server.requests.set index request }

/-- A machine begins to run, and a request owns it. -/
def spawn (id : String) (machine : Config OrderContext Empty Empty) : AppServer :=
  { server with
    machines := server.machines ++ [{ machine := machine }]
    requests := server.requests ++ [.creating id server.machines.length] }

def register (id : String) (machine : Nat) : AppServer :=
  { server with orders := server.orders.insert id machine }

def unregister (id : String) : AppServer :=
  { server with orders := server.orders.erase id }

def sendEvent (id : String) (event : Ident) (started : String) : Option AppServer :=
  match server.orders.lookup id with
  | none => some (server.arrive (.answered (some AppError.notFound.intoResponse)))
  | some machine =>
      (server.act representable machine (.environment .cloneHandle)).map fun server =>
        server.arrive (.sending machine event started)

def createOrder (payload : CreateOrderRequest) : Option AppServer :=
  let context : OrderContext := ⟨⟨payload.id, payload.items, payload.total⟩⟩
  (order.program.spawnNamed payload.id context server.clock).map (server.spawn payload.id)

def insertOrder (index : Nat) : Option AppServer :=
  match server.requests[index]? with
  | some (.creating id machine) =>
      match server.orders.lookup id with
      | some _ =>
          some (server.goOn index (.leaving machine true (some AppError.alreadyExists.intoResponse)))
      | none =>
          some ((server.register id machine).goOn index
            (.answered (some ⟨.created, "status", "Order created"⟩)))
  | _ => none

def validateOrder (id : String) : Option AppServer :=
  server.sendEvent representable id "Validate" "Validation started"

def chargeOrder (id : String) : Option AppServer :=
  server.sendEvent representable id "Charge" "Charging started"

def shipOrder (id : String) : Option AppServer :=
  server.sendEvent representable id "Ship" "Shipping started"

/-- The state is the one last published. -/
def getOrderStatus (id : String) : Option AppServer :=
  match server.orders.lookup id with
  | none => some (server.arrive (.answered (some AppError.notFound.intoResponse)))
  | some machine =>
      (server.machines[machine]?).map fun task =>
        server.arrive (.answered (some ⟨.ok, "state", task.machine.watch.value⟩))

def stopOrder (id : String) : Option AppServer :=
  match server.orders.lookup id with
  | none => some (server.arrive (.answered (some AppError.notFound.intoResponse)))
  | some machine =>
      some ((server.unregister id).arrive (.removed machine))

/-- `handle.send` goes on once there is room, or fails once the receiver is
gone. -/
def deliver (index : Nat) : Option AppServer :=
  match server.requests[index]? with
  | some (.sending machine event started) =>
      (server.machines[machine]?).bind fun task =>
        if task.machine.receiverDropped then
          some (server.goOn index (.leaving machine false (some AppError.fsmClosed.intoResponse)))
        else
          (server.act representable machine (.environment (.send ⟨event, none⟩))).map
            fun server => server.goOn index (.leaving machine false (some ⟨.ok, "status", started⟩))
  | _ => none

def shutdown (index : Nat) : Option AppServer :=
  match server.requests[index]? with
  | some (.removed machine) =>
      (server.act representable machine (.environment .shutdown)).map fun server =>
        server.goOn index (.stopping machine)
  | _ => none

/-- The task is polled; whatever it gives is thrown away. -/
def join (index : Nat) : Option AppServer :=
  match server.requests[index]? with
  | some (.stopping machine) =>
      (server.machines[machine]?).bind fun task =>
        (server.act representable machine .await).map fun server =>
          match taskPoll task.machine with
          | .pending => server
          | .ready _ => server.goOn index
              (.leaving machine true (some ⟨.ok, "status", "Order stopped and cleaned up"⟩))
  | _ => none

/-- The client goes away while the request waits. -/
def disconnect (index : Nat) : Option AppServer :=
  match server.requests[index]? with
  | some (.creating _ machine) | some (.stopping machine) =>
      some (server.goOn index (.leaving machine true none))
  | some (.sending machine _ _) => some (server.goOn index (.leaving machine false none))
  | _ => none

/-- The task is dropped before the handle. -/
def drop (index : Nat) : Option AppServer :=
  match server.requests[index]? with
  | some (.leaving machine true response) =>
      (server.act representable machine .drop).map fun server =>
        server.goOn index (.leaving machine false response)
  | some (.leaving machine false response) =>
      (server.act representable machine (.environment .dropHandle)).map fun server =>
        server.goOn index (.answered response)
  | _ => none

/-- A machine moves by itself. -/
def loop (machine : Nat) (action : LoopAction OrderContext Empty) : Option AppServer :=
  (server.machines[machine]?).bind fun task =>
    if OrderBody task.machine action then server.act representable machine (.loop action) else none

/-- Time passes for every machine. -/
def advance (nanos : Nat) : AppServer :=
  { server with
    clock := server.clock + nanos
    machines := server.machines.map (OrderTask.advance nanos) }

def step : ServerAction → Option AppServer
  | .createOrder payload => server.createOrder payload
  | .validateOrder id => server.validateOrder representable id
  | .chargeOrder id => server.chargeOrder representable id
  | .shipOrder id => server.shipOrder representable id
  | .getOrderStatus id => server.getOrderStatus id
  | .stopOrder id => server.stopOrder id
  | .insertOrder index => server.insertOrder index
  | .deliver index => server.deliver representable index
  | .shutdown index => server.shutdown representable index
  | .join index => server.join representable index
  | .disconnect index => server.disconnect index
  | .drop index => server.drop representable index
  | .beginPoll machine => server.act representable machine .beginPoll
  | .loop machine action => server.loop representable machine action
  | .advance nanos => some (server.advance nanos)

end AppServer

/-! ## What one step can do -/

/-- The order id in the path of a request. -/
def ServerAction.path : ServerAction → Option String
  | .validateOrder id | .chargeOrder id | .shipOrder id | .getOrderStatus id | .stopOrder id =>
      some id
  | _ => none

/-- The event that a request sends, with the text of its answer. -/
def ServerAction.sends : ServerAction → Option (Ident × String)
  | .validateOrder _ => some ("Validate", "Validation started")
  | .chargeOrder _ => some ("Charge", "Charging started")
  | .shipOrder _ => some ("Ship", "Shipping started")
  | _ => none

/-- The moves of the server, one constructor for each outcome. -/
inductive ServerMove (representable : Nat → Bool) (server : AppServer) :
    ServerAction → AppServer → Prop
  | notFound {action : ServerAction} {id : String} : action.path = some id →
      server.orders.lookup id = none →
        ServerMove representable server action
          (server.arrive (.answered (some AppError.notFound.intoResponse)))
  | spawned {payload : CreateOrderRequest} {machine : Config OrderContext Empty Empty} :
      order.program.spawnNamed payload.id ⟨⟨payload.id, payload.items, payload.total⟩⟩
        server.clock = some machine →
          ServerMove representable server (.createOrder payload) (server.spawn payload.id machine)
  | duplicate {index machine other : Nat} {id : String} :
      server.requests[index]? = some (.creating id machine) →
        server.orders.lookup id = some other →
          ServerMove representable server (.insertOrder index)
            (server.goOn index (.leaving machine true (some AppError.alreadyExists.intoResponse)))
  | inserted {index machine : Nat} {id : String} :
      server.requests[index]? = some (.creating id machine) → server.orders.lookup id = none →
        ServerMove representable server (.insertOrder index)
          ((server.register id machine).goOn index
            (.answered (some ⟨.created, "status", "Order created"⟩)))
  | cloned {action : ServerAction} {id started : String} {event : Ident} {machine : Nat}
      {task next : OrderTask} : action.path = some id → action.sends = some (event, started) →
        server.orders.lookup id = some machine → server.machines[machine]? = some task →
          taskStep order.program representable task (.environment .cloneHandle) = some next →
            ServerMove representable server action
              ((server.put machine next).arrive (.sending machine event started))
  | status {id : String} {machine : Nat} {task : OrderTask} :
      server.orders.lookup id = some machine → server.machines[machine]? = some task →
        ServerMove representable server (.getOrderStatus id)
          (server.arrive (.answered (some ⟨.ok, "state", task.machine.watch.value⟩)))
  | removed {id : String} {machine : Nat} : server.orders.lookup id = some machine →
      ServerMove representable server (.stopOrder id)
        ((server.unregister id).arrive (.removed machine))
  | gone {index machine : Nat} {event : Ident} {started : String} {task : OrderTask} :
      server.requests[index]? = some (.sending machine event started) →
        server.machines[machine]? = some task → task.machine.receiverDropped = true →
          ServerMove representable server (.deliver index)
            (server.goOn index (.leaving machine false (some AppError.fsmClosed.intoResponse)))
  | delivered {index machine : Nat} {event : Ident} {started : String} {task next : OrderTask} :
      server.requests[index]? = some (.sending machine event started) →
        server.machines[machine]? = some task → task.machine.receiverDropped = false →
          taskStep order.program representable task (.environment (.send ⟨event, none⟩)) =
            some next →
              ServerMove representable server (.deliver index)
                ((server.put machine next).goOn index
                  (.leaving machine false (some ⟨.ok, "status", started⟩)))
  | shutdown {index machine : Nat} {task next : OrderTask} :
      server.requests[index]? = some (.removed machine) →
        server.machines[machine]? = some task →
          taskStep order.program representable task (.environment .shutdown) = some next →
            ServerMove representable server (.shutdown index)
              ((server.put machine next).goOn index (.stopping machine))
  | pending {index machine : Nat} {task next : OrderTask} :
      server.requests[index]? = some (.stopping machine) →
        server.machines[machine]? = some task → taskPoll task.machine = .pending →
          taskStep order.program representable task .await = some next →
            ServerMove representable server (.join index) (server.put machine next)
  | joined {index machine : Nat} {task next : OrderTask}
      {result : Except (TaskError Empty) OrderContext} :
      server.requests[index]? = some (.stopping machine) →
        server.machines[machine]? = some task → taskPoll task.machine = .ready result →
          taskStep order.program representable task .await = some next →
            ServerMove representable server (.join index)
              ((server.put machine next).goOn index (.leaving machine true
                (some ⟨.ok, "status", "Order stopped and cleaned up"⟩)))
  | disconnected {index machine : Nat} {request : Request} {ownsTask : Bool} :
      server.requests[index]? = some request →
        (∃ id, request = .creating id machine ∧ ownsTask = true) ∨
          (request = .stopping machine ∧ ownsTask = true) ∨
          (∃ event started, request = .sending machine event started ∧ ownsTask = false) →
            ServerMove representable server (.disconnect index)
              (server.goOn index (.leaving machine ownsTask none))
  | droppedTask {index machine : Nat} {response : Option Response} {task next : OrderTask} :
      server.requests[index]? = some (.leaving machine true response) →
        server.machines[machine]? = some task →
          taskStep order.program representable task .drop = some next →
            ServerMove representable server (.drop index)
              ((server.put machine next).goOn index (.leaving machine false response))
  | droppedHandle {index machine : Nat} {response : Option Response} {task next : OrderTask} :
      server.requests[index]? = some (.leaving machine false response) →
        server.machines[machine]? = some task →
          taskStep order.program representable task (.environment .dropHandle) = some next →
            ServerMove representable server (.drop index)
              ((server.put machine next).goOn index (.answered response))
  | beginPoll {machine : Nat} {task next : OrderTask} : server.machines[machine]? = some task →
      taskStep order.program representable task .beginPoll = some next →
        ServerMove representable server (.beginPoll machine) (server.put machine next)
  | loop {machine : Nat} {action : LoopAction OrderContext Empty} {task next : OrderTask} :
      server.machines[machine]? = some task → OrderBody task.machine action →
        taskStep order.program representable task (.loop action) = some next →
          ServerMove representable server (.loop machine action) (server.put machine next)
  | advanced {nanos : Nat} :
      ServerMove representable server (.advance nanos) (server.advance nanos)

section Moves

variable {representable : Nat → Bool} {server next : AppServer}

theorem AppServer.act_eq_some {machine : Nat} {action : TaskAction OrderContext Empty Empty}
    (acted : server.act representable machine action = some next) :
    ∃ task task', server.machines[machine]? = some task ∧
      taskStep order.program representable task action = some task' ∧
        next = server.put machine task' := by
  obtain ⟨task, found, moved⟩ := Option.bind_eq_some_iff.mp acted
  obtain ⟨task', taken, rfl⟩ := Option.map_eq_some_iff.mp moved
  exact ⟨task, task', found, taken, rfl⟩

theorem ServerMove.of_sendEvent {action : ServerAction} {id started : String} {event : Ident}
    (path : action.path = some id) (sends : action.sends = some (event, started))
    (taken : server.sendEvent representable id event started = some next) :
    ServerMove representable server action next := by
  unfold AppServer.sendEvent at taken
  split at taken
  next missing =>
    cases taken
    exact .notFound path missing
  next machine found =>
    obtain ⟨server', acted, rfl⟩ := Option.map_eq_some_iff.mp taken
    obtain ⟨task, task', present, cloned, rfl⟩ := AppServer.act_eq_some acted
    exact .cloned path sends found present cloned

/-- Every step of the server is one of the moves. -/
theorem ServerMove.of_step {action : ServerAction}
    (taken : server.step representable action = some next) :
    ServerMove representable server action next := by
  cases action with
  | createOrder payload =>
      simp only [AppServer.step, AppServer.createOrder] at taken
      obtain ⟨machine, spawned, rfl⟩ := Option.map_eq_some_iff.mp taken
      exact .spawned spawned
  | validateOrder id | chargeOrder id | shipOrder id => exact .of_sendEvent rfl rfl taken
  | getOrderStatus id =>
      simp only [AppServer.step, AppServer.getOrderStatus] at taken
      split at taken
      next missing =>
        cases taken
        exact .notFound rfl missing
      next machine found =>
        obtain ⟨task, present, rfl⟩ := Option.map_eq_some_iff.mp taken
        exact .status found present
  | stopOrder id =>
      simp only [AppServer.step, AppServer.stopOrder] at taken
      split at taken
      next missing =>
        cases taken
        exact .notFound rfl missing
      next machine found =>
        cases taken
        exact .removed found
  | insertOrder index =>
      simp only [AppServer.step, AppServer.insertOrder] at taken
      split at taken
      next id machine creating =>
        split at taken
        next other found =>
          cases taken
          exact .duplicate creating found
        next missing =>
          cases taken
          exact .inserted creating missing
      next => cases taken
  | deliver index =>
      simp only [AppServer.step, AppServer.deliver] at taken
      split at taken
      next machine event started sending =>
        obtain ⟨task, present, sent⟩ := Option.bind_eq_some_iff.mp taken
        split at sent
        next dropped =>
          cases sent
          exact .gone sending present dropped
        next receiverLeft =>
          obtain ⟨server', acted, rfl⟩ := Option.map_eq_some_iff.mp sent
          obtain ⟨task', task'', present', accepted, rfl⟩ := AppServer.act_eq_some acted
          obtain rfl := Option.some.inj (present.symm.trans present')
          exact .delivered sending present (by simpa using receiverLeft) accepted
      next => cases taken
  | shutdown index =>
      simp only [AppServer.step, AppServer.shutdown] at taken
      split at taken
      next machine removed =>
        obtain ⟨server', acted, rfl⟩ := Option.map_eq_some_iff.mp taken
        obtain ⟨task, task', present, shutDown, rfl⟩ := AppServer.act_eq_some acted
        exact .shutdown removed present shutDown
      next => cases taken
  | join index =>
      simp only [AppServer.step, AppServer.join] at taken
      split at taken
      next machine stopping =>
        obtain ⟨task, present, polled⟩ := Option.bind_eq_some_iff.mp taken
        obtain ⟨server', acted, rfl⟩ := Option.map_eq_some_iff.mp polled
        obtain ⟨task', task'', present', awaited, rfl⟩ := AppServer.act_eq_some acted
        obtain rfl := Option.some.inj (present.symm.trans present')
        split
        next isPending => exact .pending stopping present isPending awaited
        next result isReady => exact .joined stopping present isReady awaited
      next => cases taken
  | disconnect index =>
      simp only [AppServer.step, AppServer.disconnect] at taken
      split at taken
      next id machine creating =>
        cases taken
        exact .disconnected creating (.inl ⟨id, rfl, rfl⟩)
      next machine stopping =>
        cases taken
        exact .disconnected stopping (.inr (.inl ⟨rfl, rfl⟩))
      next machine event started sending =>
        cases taken
        exact .disconnected sending (.inr (.inr ⟨event, started, rfl, rfl⟩))
      next => cases taken
  | drop index =>
      simp only [AppServer.step, AppServer.drop] at taken
      split at taken
      next machine response leaving =>
        obtain ⟨server', acted, rfl⟩ := Option.map_eq_some_iff.mp taken
        obtain ⟨task, task', present, dropped, rfl⟩ := AppServer.act_eq_some acted
        exact .droppedTask leaving present dropped
      next machine response leaving =>
        obtain ⟨server', acted, rfl⟩ := Option.map_eq_some_iff.mp taken
        obtain ⟨task, task', present, dropped, rfl⟩ := AppServer.act_eq_some acted
        exact .droppedHandle leaving present dropped
      next => cases taken
  | beginPoll machine =>
      obtain ⟨task, task', present, begun, rfl⟩ := AppServer.act_eq_some taken
      exact .beginPoll present begun
  | loop machine action =>
      obtain ⟨task, present, moved⟩ := Option.bind_eq_some_iff.mp taken
      split at moved
      next isBody =>
        obtain ⟨task', task'', present', moved, rfl⟩ := AppServer.act_eq_some moved
        obtain rfl := Option.some.inj (present.symm.trans present')
        exact .loop present isBody moved
      next => cases moved
  | advance nanos =>
      cases taken
      exact .advanced

end Moves

end TokioFsm
