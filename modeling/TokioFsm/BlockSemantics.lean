import TokioFsm.EventConservation
import TokioFsm.Library.WeakBisimulation
import TokioFsm.ReturnTypes

/-!
# What an annotated block means

The meaning of a block is a machine that is defined from its methods alone:
their attributes, their arguments and their return types.  It knows nothing of
the enums, arms and tables the macro builds.  In each state it waits, for as
long as the state is given, for events; an event runs the first method with an
attribute for the state and the event, and any value of that method's return
type decides where to go.
-/

namespace TokioFsm

open Fallible WeakBisimulation

variable {Context Payload Failure : Type}

/-! ## What the methods declare -/

/-- A value a method with this return type can return. -/
inductive ReturnType.Admits {Failure : Type} (output : ReturnType) :
    HandlerOutput Failure → Prop
  | transition {next : State} : output.Reads .transition [next] →
      Admits output (.transition next.name)
  | ok {kind : HandlerReturnKind} {next : State} {others : List State} :
      kind ≠ .transition → output.Reads kind (next :: others) → Admits output (.ok next.name)
  | errTransition {okState next : State} : output.Reads .resultTransition [okState, next] →
      Admits output (.errTransition next.name)
  | errFailure {okState : State} {error : Failure} : output.Reads .resultError [okState] →
      Admits output (.errFailure error)

/-- Where a returned value leads: to a state, or to the end with an error. -/
def HandlerOutput.outcome : HandlerOutput Failure → Except Failure Ident
  | .transition next | .ok next | .errTransition next => .ok next
  | .errFailure error => .error error

namespace ItemImpl

variable (crates : Crates) (block : ItemImpl)

/-- The first method with an attribute for the state and the event. -/
def methodOn (state event : Ident) : Option ImplItemFn :=
  block.methods.find? fun method => decide (⟨state, event⟩ ∈ onAttrs crates method.attrs)

/-- The method that runs when a state has been given up. -/
def methodOnTimeout : Option ImplItemFn :=
  block.methods.find? ImplItemFn.isOnTimeout

/-- The method returns to the state with a timeout, the last one written on it. -/
inductive Times (state : Ident) : Duration → Prop
  | mk {method : ImplItemFn} {attr : StateTimeoutAttr} {duration : Duration} :
      method ∈ block.methods → method.IsMarked → method.sig.output.Names state →
        (stateTimeoutAttrs crates method.attrs).getLast? = some attr →
          crates.parseDuration attr.duration = .ok duration → Times state duration

/-- How long the machine waits in the state: as some method says, or a century. -/
inductive WaitsFor (state : Ident) : Nat → Prop
  | timed {duration : Duration} : block.Times crates state duration →
      WaitsFor state duration.toNanos
  | untimed : (∀ duration, ¬ block.Times crates state duration) →
      WaitsFor state (noTimeoutSecs * 1000000000)

/-- The event is one of those declared, with a payload if its methods take one. -/
def Offers (event : EventValue Payload) : Prop :=
  ∃ method ∈ block.methods, ∃ onAttr ∈ onAttrs crates method.attrs,
    onAttr.event = event.variant ∧ (payloadType method).isSome = event.payload.isSome

end ItemImpl

/-! ## The machine -/

/-- How a task is over. -/
inductive Ending (Context Failure : Type)
  | returned (result : Except Failure Context)
  | panicked
  | aborted

/-- What the machine is doing. -/
inductive Activity
  | fresh
  | entering
  | waiting (due : Nat)
  | running (method : ImplItemFn)
  | ended

/-- The machine rests, and can be aborted. -/
def Activity.Suspended : Activity → Prop
  | .fresh | .waiting _ | .running _ => True
  | _ => False

structure BlockConfig (Context Payload : Type) where
  state : Ident
  context : Context
  activity : Activity := .fresh
  mailbox : List (EventValue Payload) := []
  closed : Bool := false
  handles : Nat := 1
  cancelled : Bool
  clock : Nat

/-- What can be seen of a machine. -/
inductive BlockLabel (Context Payload Failure : Type)
  | environment (action : EnvironmentAction Payload)
  | started
  | entered (state : Ident)
  | ignored (event : EventValue Payload)
  | called (method : ImplItemFn) (argument : Option Payload)
  | finished (output : HandlerOutput Failure) (context : Context)
  | ended (ending : Ending Context Failure)
  | closed

section Meaning

variable (crates : Crates) (args : FsmArgs) (block : ItemImpl) (representable : Nat → Bool)

/-- The steps of the machine a block describes. -/
inductive BlockStep (source : BlockConfig Context Payload) :
    Option (BlockLabel Context Payload Failure) → BlockConfig Context Payload → Prop
  | advance (nanos : Nat) :
      BlockStep source (some (.environment (.advance nanos)))
        { source with clock := source.clock + nanos }
  | send {event : EventValue Payload} : 0 < source.handles → source.closed = false →
      source.mailbox.length < args.channelSize → block.Offers crates event →
        BlockStep source (some (.environment (.send event)))
          { source with mailbox := source.mailbox ++ [event] }
  | cloneHandle : 0 < source.handles →
      BlockStep source (some (.environment .cloneHandle))
        { source with handles := source.handles + 1 }
  | dropHandle : 0 < source.handles →
      BlockStep source (some (.environment .dropHandle))
        { source with handles := source.handles - 1 }
  | shutdown : 0 < source.handles →
      BlockStep source (some (.environment .shutdown)) { source with cancelled := true }
  | cancelAncestor :
      BlockStep source (some (.environment .cancelAncestor)) { source with cancelled := true }
  | start : source.activity = .fresh →
      BlockStep source (some .started) { source with activity := .entering }
  | enter {nanos : Nat} : source.activity = .entering →
      block.WaitsFor crates source.state nanos → representable (source.clock + nanos) = true →
        BlockStep source (some (.entered source.state))
          { source with activity := .waiting (source.clock + nanos) }
  | overflow {nanos : Nat} : source.activity = .entering →
      block.WaitsFor crates source.state nanos → representable (source.clock + nanos) = false →
        BlockStep source (some (.ended .panicked)) { source with activity := .ended }
  | ignore {due : Nat} {event : EventValue Payload} {mailbox : List (EventValue Payload)} :
      source.activity = .waiting due → source.mailbox = event :: mailbox →
        block.methodOn crates source.state event.variant = none →
          BlockStep source (some (.ignored event)) { source with mailbox }
  | call {due : Nat} {event : EventValue Payload} {mailbox : List (EventValue Payload)}
      {method : ImplItemFn} : source.activity = .waiting due →
        source.mailbox = event :: mailbox →
          block.methodOn crates source.state event.variant = some method →
            BlockStep source (some (.called method event.payload))
              { source with mailbox, activity := .running method }
  | expire {due : Nat} {method : ImplItemFn} : source.activity = .waiting due →
      due ≤ source.clock → block.methodOnTimeout = some method →
        BlockStep source (some (.called method none))
          { source with activity := .running method }
  | finish {method : ImplItemFn} {output : HandlerOutput Failure} {next : Ident}
      {context : Context} : source.activity = .running method →
        method.sig.output.Admits output → output.outcome = .ok next →
          BlockStep source (some (.finished output context))
            { source with state := next, context, activity := .entering }
  | fail {method : ImplItemFn} {output : HandlerOutput Failure} {error : Failure}
      {context : Context} : source.activity = .running method →
        method.sig.output.Admits output → output.outcome = .error error →
          BlockStep source (some (.finished output context))
            { source with activity := .ended }
  | stop {due : Nat} : source.activity = .waiting due →
      source.cancelled = true ∨ source.mailbox = [] ∧ source.handles = 0 →
        BlockStep source (some (.ended (.returned (.ok source.context))))
          { source with activity := .ended }
  | interrupt {method : ImplItemFn} {context : Context} : source.activity = .running method →
      source.cancelled = true →
        BlockStep source (some (.ended (.returned (.ok context))))
          { source with activity := .ended }
  | panic {method : ImplItemFn} : source.activity = .running method →
      BlockStep source (some (.ended .panicked)) { source with activity := .ended }
  | abort : source.activity.Suspended →
      BlockStep source (some (.ended .aborted)) { source with activity := .ended }
  | close : source.activity = .ended → source.closed = false →
      BlockStep source (some .closed) { source with mailbox := [], closed := true }

/-- The machine a block describes, started whenever its channel can be made. -/
def blockSystem (Context Payload Failure : Type) :
    LabelledSystem (BlockConfig Context Payload) (BlockLabel Context Payload Failure) where
  initial source := args.channelSize ≤ usizeMax >>> 3 ∧ ∃ context cancelled clock,
    source = { state := args.initial, context, cancelled, clock }
  step := BlockStep crates args block representable

end Meaning

/-! ## The generated program, seen from outside -/

/-- What a moment of the generated program shows. -/
def Moment.label (program : GeneratedFsm) (representable : Nat → Bool)
    (moment : Moment Context Payload Failure) : Option (BlockLabel Context Payload Failure) :=
  match moment with
  | (_, .environment action) => some (.environment action)
  | (config, .loop action) =>
      match action with
      | .start => some .started
      | .rearm =>
          if representable (config.clock + program.timeoutFor config.fsm.state) then
            some (.entered config.fsm.state)
          else some (.ended .panicked)
      | .timerBranch => program.timeoutLogic.map fun call => .called call.handler.method none
      | .cancelledBranch => some (.ended (.returned (.ok config.fsm.context)))
      | .recvBranch =>
          match config.queue with
          | [] => some (.ended (.returned (.ok config.fsm.context)))
          | event :: _ =>
              match program.matchArm config.fsm.state event.variant with
              | none => some (.ignored event)
              | some arm =>
                  some (.called arm.call.handler.method
                    (if arm.call.passesPayload then event.payload else none))
      | .handlerReady after output => some (.finished output after.context)
      | .handlerCancelled after => some (.ended (.returned (.ok after.context)))
      | .handlerPanics => some (.ended .panicked)
      | .abort => some (.ended .aborted)
      | .dropReceiver => some .closed
      | .wait | .outOfBudget | .handlerPending _ | .publish | .dropSender => none

def programSystem (program : GeneratedFsm) (representable : Nat → Bool)
    (Context Payload Failure : Type) :
    LabelledSystem (Config Context Payload Failure) (BlockLabel Context Payload Failure) where
  initial config := ∃ name context tokenCancelled clock,
    program.spawnNamedWithToken name context tokenCancelled clock = some config
  step config label next := ∃ action,
    step program representable config action = some next ∧
      label = Moment.label program representable (config, action)

/-! ## The tables say what the methods declare -/

theorem ReturnType.Reads.length_eq {output : ReturnType} {kind : HandlerReturnKind}
    {states : List State} (reads : output.Reads kind states) : states.length = kind.arity := by
  cases reads with
  | transition | resultTransition | resultError => rfl

/-- A dispatch goes where the value leads. -/
theorem HandlerCall.Returns.dispatch_eq {call : HandlerCall} {output : HandlerOutput Failure}
    (returns : call.Returns output) :
    call.returnKind.dispatch output = some output.outcome := by
  cases output with
  | transition next =>
      rw [returns.1]
      rfl
  | ok next =>
      rcases returns.1 with kindEq | kindEq
      · rw [kindEq]
        rfl
      · rw [kindEq]
        rfl
  | errTransition next =>
      rw [returns.1]
      rfl
  | errFailure error =>
      have kindEq : call.returnKind = .resultError := returns
      rw [kindEq]
      rfl

/-- The values of a call are the values of the method's return type. -/
theorem HandlerCall.returns_iff {call : HandlerCall} {output : HandlerOutput Failure}
    (reads : call.handler.method.sig.output.Reads call.returnKind call.handler.returnStates) :
    call.Returns output ↔ call.handler.method.sig.output.Admits output := by
  have arity := reads.length_eq
  constructor
  · intro returns
    cases output with
    | transition next =>
        rcases returns with ⟨kindEq, found⟩
        rw [kindEq] at reads arity
        rcases List.length_eq_one_iff.mp arity with ⟨state, statesEq⟩
        rw [statesEq] at reads
        obtain rfl : state.name = next := by simpa [Handler.targets, statesEq] using found
        exact .transition reads
    | ok next =>
        rcases returns with ⟨kinds, found⟩
        cases statesEq : call.handler.returnStates with
        | nil => simp [Handler.targets, statesEq] at found
        | cons state others =>
            rw [statesEq] at reads
            obtain rfl : state.name = next := by simpa [Handler.targets, statesEq] using found
            refine .ok ?_ reads
            rcases kinds with kindEq | kindEq
            · simp [kindEq]
            · simp [kindEq]
    | errTransition next =>
        rcases returns with ⟨kindEq, found⟩
        rw [kindEq] at reads arity
        rcases List.length_eq_two.mp arity with ⟨okState, state, statesEq⟩
        rw [statesEq] at reads
        obtain rfl : state.name = next := by simpa [Handler.targets, statesEq] using found
        exact .errTransition reads
    | errFailure error =>
        have kindEq : call.returnKind = .resultError := returns
        rw [kindEq] at reads arity
        rcases List.length_eq_one_iff.mp arity with ⟨okState, statesEq⟩
        rw [statesEq] at reads
        exact .errFailure reads
  · intro admits
    cases admits with
    | transition reads' =>
        rcases reads.unique reads' with ⟨kindEq, statesEq⟩
        exact ⟨kindEq, by rw [Handler.targets, statesEq]; rfl⟩
    | @ok kind next others notTransition reads' =>
        rcases reads.unique reads' with ⟨kindEq, statesEq⟩
        refine ⟨?_, by rw [Handler.targets, statesEq]; rfl⟩
        rw [kindEq]
        cases kind with
        | transition => exact absurd rfl notTransition
        | resultTransition => exact .inl rfl
        | resultError => exact .inr rfl
    | errTransition reads' =>
        rcases reads.unique reads' with ⟨kindEq, statesEq⟩
        exact ⟨kindEq, by rw [Handler.targets, statesEq]; rfl⟩
    | errFailure reads' => exact (reads.unique reads').1

namespace AcceptedFsm

variable {crates : Crates} {args : FsmArgs} {block : ItemImpl}
  (machine : AcceptedFsm crates args block)

theorem returns_iff {state : Ident} {call : HandlerCall} {output : HandlerOutput Failure}
    (callFrom : machine.program.CallFrom state call) :
    call.Returns output ↔ call.handler.method.sig.output.Admits output := by
  rcases machine.callFrom_spec callFrom with ⟨handlerMem, kindEq, -⟩
  rcases machine.parsedBlock.mem_handlers_iff.mp handlerMem with ⟨method, -, parsed⟩
  have reads := Handler.reads_of_parse parsed kindEq
  rw [← (Handler.parse_parsedFrom parsed).method_eq] at reads
  exact HandlerCall.returns_iff reads

/-- The arm that matches calls the first method declared. -/
theorem matchArm_method (state event : Ident) :
    (machine.program.matchArm state event).map (fun arm => arm.call.handler.method) =
      block.methodOn crates state event := by
  have found : (machine.fsm.handlers.find? fun handler =>
      decide (handler.Handles state event)).map Handler.method =
        block.methodOn crates state event := by
    apply mapM_find? machine.parsedBlock.handlers_parsed
    intro method handler parsed
    have parsedFrom := Handler.parse_parsedFrom parsed
    exact ⟨parsedFrom.method_eq, decide_eq_decide.mpr (parsedFrom.handles_iff state event).symm⟩
  rw [← found]
  cases matched : machine.program.matchArm state event with
  | none =>
      have missing : (machine.fsm.handlers.find? fun handler =>
          decide (handler.Handles state event)) = none := by
        simpa using machine.matchArm_eq_none_iff.mp matched
      rw [missing]
      rfl
  | some arm =>
      rw [(machine.matchArm_eq_some matched).1]
      rfl

/-- The timer calls the method marked for it. -/
theorem timeoutLogic_method :
    machine.program.timeoutLogic.map (fun call => call.handler.method) =
      block.methodOnTimeout := by
  have found : (machine.fsm.handlers.find? Handler.isTimeoutHandler).map Handler.method =
      block.methodOnTimeout := by
    apply mapM_find? machine.parsedBlock.handlers_parsed
    intro method handler parsed
    have parsedFrom := Handler.parse_parsedFrom parsed
    exact ⟨parsedFrom.method_eq, parsedFrom.isTimeoutHandler_eq⟩
  rw [← found]
  have built := machine.buildTimeoutHandler_eq
  unfold buildTimeoutHandler at built
  split at built
  next missing =>
    rw [← Except.ok.inj built, missing]
    rfl
  next handler isFirst =>
    split at built
    next => cases built
    next =>
      rw [← Except.ok.inj built, isFirst]
      rfl

theorem times_iff {state : Ident} {duration : Duration} :
    block.Times crates state duration ↔ ∃ handler ∈ machine.fsm.handlers,
      handler.timeout = some duration ∧ state ∈ handler.targets := by
  constructor
  · rintro ⟨methodMem, isMarked, names, isLast, durationEq⟩
    rcases machine.parsedBlock.exists_handler methodMem with ⟨handler, handlerMem, parsed⟩
    have timeout := (Handler.parse_parsedFrom parsed).timeout_eq
    simp only [isLast, parseTimeout, durationEq] at timeout
    exact ⟨handler, handlerMem, (Except.ok.inj timeout).symm,
      (Handler.mem_targets_iff parsed).mpr ⟨isMarked, names⟩⟩
  · rintro ⟨handler, handlerMem, timeoutEq, targetMem⟩
    rcases machine.parsedBlock.mem_handlers_iff.mp handlerMem with ⟨method, methodMem, parsed⟩
    rcases (Handler.mem_targets_iff parsed).mp targetMem with ⟨isMarked, names⟩
    have timeout := (Handler.parse_parsedFrom parsed).timeout_eq
    rw [timeoutEq] at timeout
    cases isLast : (stateTimeoutAttrs crates method.attrs).getLast? with
    | none =>
        rw [isLast] at timeout
        cases timeout
    | some attr =>
        rw [isLast, parseTimeout] at timeout
        split at timeout
        next parsedDuration durationEq =>
          cases timeout
          exact ⟨methodMem, isMarked, names, isLast, durationEq⟩
        next => cases timeout

/-- The timer is set for as long as the methods say. -/
theorem waitsFor_iff {state : Ident} {nanos : Nat} :
    block.WaitsFor crates state nanos ↔ nanos = machine.program.timeoutFor state := by
  rw [← machine.timeoutOf_iff]
  constructor
  · intro waits
    cases waits with
    | timed times =>
        rcases machine.times_iff.mp times with ⟨handler, handlerMem, timeoutEq, targetMem⟩
        exact .declared handlerMem timeoutEq targetMem
    | untimed noTimes =>
        refine .undeclared ?_
        rintro ⟨handler, handlerMem, hasTimeout, targetMem⟩
        rcases Option.isSome_iff_exists.mp hasTimeout with ⟨duration, timeoutEq⟩
        exact noTimes duration
          (machine.times_iff.mpr ⟨handler, handlerMem, timeoutEq, targetMem⟩)
  · intro timeout
    cases timeout with
    | declared handlerMem timeoutEq targetMem =>
        exact .timed (machine.times_iff.mpr ⟨_, handlerMem, timeoutEq, targetMem⟩)
    | undeclared untimed =>
        refine .untimed fun duration times => untimed ?_
        rcases machine.times_iff.mp times with ⟨handler, handlerMem, timeoutEq, targetMem⟩
        exact ⟨handler, handlerMem, by rw [timeoutEq]; rfl, targetMem⟩

/-- The values of the event enum are the events on offer. -/
theorem offers_iff {event : EventValue Payload} :
    block.Offers crates event ↔ machine.program.Accepts event := by
  constructor
  · rintro ⟨method, methodMem, onAttr, declared, nameEq, payloadEq⟩
    rcases machine.parsedBlock.exists_handler methodMem with ⟨handler, handlerMem, parsed⟩
    have eventEq := Handler.event_eq parsed declared
    rcases machine.parsedBlock.exists_variant handlerMem eventEq with
      ⟨variant, variantMem, sameName⟩
    have sameType := machine.parsedBlock.payloadType_eq handlerMem eventEq variantMem sameName
    rw [(Handler.parse_parsedFrom parsed).method_eq] at sameType
    refine ⟨variant, ?_, sameName.trans nameEq, ?_⟩
    · rw [machine.eventEnum_eq]
      exact variantMem
    · rw [sameType, payloadEq]
  · rintro ⟨variant, variantMem, nameEq, payloadEq⟩
    rw [machine.eventEnum_eq] at variantMem
    rcases machine.parsedBlock.event_declared_iff.mp ⟨variant, variantMem, nameEq⟩ with
      ⟨method, methodMem, onAttr, declared, eventName⟩
    rcases machine.parsedBlock.exists_handler methodMem with ⟨handler, handlerMem, parsed⟩
    have eventEq := Handler.event_eq parsed declared
    have sameType := machine.parsedBlock.payloadType_eq handlerMem eventEq variantMem
      (nameEq.trans eventName.symm)
    rw [(Handler.parse_parsedFrom parsed).method_eq] at sameType
    exact ⟨method, methodMem, onAttr, declared, eventName, by rw [← sameType, payloadEq]⟩

end AcceptedFsm

end TokioFsm
