import TokioFsm.StructureParsing

/-!
# Code generation

The generated items are kept as data: the two enums, the arms of the `match`
on state and event, what runs when the timer fires, the arms of the `match`
that re-arms the timer, and the methods that are copied through.  A block is
accepted when parsing, validation and generation all succeed.
-/

namespace TokioFsm

open Fallible

/-- How long the timer is set for in a state without a timeout. -/
def noTimeoutSecs : Nat :=
  3153600000

/-- A call of a handler method, raced against cancellation, together with the
dispatch on its result. -/
structure HandlerCall where
  handler : Handler
  returnKind : HandlerReturnKind
  passesPayload : Bool
  eventName : Option String
deriving DecidableEq

/-- An arm `(State::state, Event::event(payload)?) => { call }`. -/
structure EventArm where
  state : Ident
  event : Ident
  bindsPayload : Bool
  call : HandlerCall
deriving DecidableEq

/-- An arm that sets the timer to `now + Duration::new(secs, nanos)`. -/
structure TimeoutArm where
  state : Ident
  secs : Nat
  nanos : Nat
deriving DecidableEq

structure GeneratedFsm where
  stateEnum : List Ident
  eventEnum : List Event
  initialState : Ident
  channelSize : Nat
  eventArms : List EventArm
  timeoutLogic : Option HandlerCall
  timeoutArms : List TimeoutArm
  items : List ImplItem

/-- The arms of one event handler, one for every source state. -/
def handlerArms (handler : Handler) (event : Event) (returnKind : HandlerReturnKind) :
    List EventArm :=
  handler.sourceStates.map fun source => {
    state := source
    event := event.name
    bindsPayload := handler.hasPayload
    call := {
      handler
      returnKind
      passesPayload := handler.hasPayload
      eventName := some event.name } }

def missingReturnKind (handler : Handler) (trigger : String) : Error :=
  ⟨.ident handler.method.sig.ident,
    s!"Internal macro error: missing parsed return kind for {trigger} handler"⟩

def buildEventArms (fsm : FsmStructure) : Except Error (List EventArm) :=
  fsm.handlers.foldlM (fun arms handler =>
    match handler.event with
    | none => .ok arms
    | some event =>
        match handler.returnKind with
        | none => .error (missingReturnKind handler "event")
        | some returnKind => .ok (arms ++ handlerArms handler event returnKind)) []

def buildTimeoutHandler (fsm : FsmStructure) : Except Error (Option HandlerCall) :=
  match fsm.handlers.find? Handler.isTimeoutHandler with
  | none => .ok none
  | some handler =>
      match handler.returnKind with
      | none => .error (missingReturnKind handler "timeout")
      | some returnKind =>
          .ok (some { handler, returnKind, passesPayload := false, eventName := none })

def Handler.timeoutArms (handler : Handler) : List TimeoutArm :=
  match handler.timeout with
  | none => []
  | some duration => handler.targets.map fun target => ⟨target, duration.secs, duration.nanos⟩

/-- Only the first arm for a state is generated. -/
def buildTimeoutArms (fsm : FsmStructure) : List TimeoutArm :=
  fsm.handlers.foldl (fun arms handler =>
    FirstSeen.recordAll TimeoutArm.state arms handler.timeoutArms) []

/-- Methods lose the attributes of the macro, associated types are dropped. -/
def cleanItem : ImplItem → Option ImplItem
  | .fn method =>
      some (.fn { method with
        attrs := method.attrs.filter fun attr =>
          !attr.isIdent "on" && !attr.isIdent "state_timeout" && !attr.isIdent "on_timeout" })
  | .type _ _ => none
  | .other tokens => some (.other tokens)

def generate (fsm : FsmStructure) (block : ItemImpl) : Except Error GeneratedFsm := do
  let eventArms ← buildEventArms fsm
  let timeoutLogic ← buildTimeoutHandler fsm
  .ok {
    stateEnum := fsm.stateNames
    eventEnum := fsm.events
    initialState := fsm.initialState
    channelSize := fsm.channelSize
    eventArms
    timeoutLogic
    timeoutArms := buildTimeoutArms fsm
    items := block.items.filterMap cleanItem }

def generateFsm (crates : Crates) (args : FsmArgs) (block : ItemImpl) :
    Except Error GeneratedFsm := do
  let fsm ← FsmStructure.parse crates args block
  generate fsm block

namespace GeneratedFsm

/-- The `match` on state and event: the first arm that fits. -/
def matchArm (program : GeneratedFsm) (state event : Ident) : Option EventArm :=
  program.eventArms.find? fun arm => decide (arm.state = state ∧ arm.event = event)

/-- The duration, in nanoseconds, for which a state sets the timer. -/
def timeoutFor (program : GeneratedFsm) (state : Ident) : Nat :=
  match FirstSeen.lookup TimeoutArm.state program.timeoutArms state with
  | some arm => arm.secs * 1000000000 + arm.nanos
  | none => noTimeoutSecs * 1000000000

end GeneratedFsm

/-! ## Generation succeeds -/

/-- The call that a handler's arms make. -/
def Handler.eventCall (handler : Handler) (event : Event) (returnKind : HandlerReturnKind) :
    HandlerCall :=
  ⟨handler, returnKind, handler.hasPayload, some event.name⟩

/-- The arms generated for a handler. -/
def Handler.eventArms (handler : Handler) : List EventArm :=
  match handler.event, handler.returnKind with
  | some event, some returnKind => handlerArms handler event returnKind
  | _, _ => []

theorem buildEventArms_eq_ok {fsm : FsmStructure}
    (wellFormed : ∀ handler ∈ fsm.handlers, handler.WellFormed) :
    buildEventArms fsm = .ok (fsm.handlers.flatMap Handler.eventArms) := by
  unfold buildEventArms
  rw [foldlM_eq_ok fun arms handler => arms ++ handler.eventArms]
  · rw [← List.flatMap_eq_foldl]
  · intro arms handler handlerMem
    cases eventEq : handler.event with
    | none => simp [Handler.eventArms, eventEq]
    | some event =>
        obtain ⟨kind, kindEq, -⟩ := (wellFormed handler handlerMem).returnKind_of_trigger
          (Or.inl (by simp [eventEq]))
        simp [Handler.eventArms, eventEq, kindEq]

/-- The call made when the timer fires. -/
def Handler.timeoutCall (handler : Handler) (returnKind : HandlerReturnKind) : HandlerCall :=
  ⟨handler, returnKind, false, none⟩

theorem buildTimeoutHandler_eq_ok {fsm : FsmStructure}
    (wellFormed : ∀ handler ∈ fsm.handlers, handler.WellFormed) :
    ∃ timeoutLogic, buildTimeoutHandler fsm = .ok timeoutLogic := by
  unfold buildTimeoutHandler
  cases found : fsm.handlers.find? Handler.isTimeoutHandler with
  | none => exact ⟨none, rfl⟩
  | some handler =>
      obtain ⟨kind, kindEq, -⟩ :=
        (wellFormed handler (List.mem_of_find?_eq_some found)).returnKind_of_trigger
          (Or.inr (List.find?_some found))
      exact ⟨some (handler.timeoutCall kind), by simp [kindEq]; rfl⟩

theorem generate_eq_ok {fsm : FsmStructure}
    (wellFormed : ∀ handler ∈ fsm.handlers, handler.WellFormed) (block : ItemImpl) :
    ∃ program, generate fsm block = .ok program := by
  obtain ⟨timeoutLogic, built⟩ := buildTimeoutHandler_eq_ok wellFormed
  exact ⟨_, bind_eq_ok_iff.mpr ⟨_, buildEventArms_eq_ok wellFormed,
    bind_eq_ok_iff.mpr ⟨_, built, rfl⟩⟩⟩

/-- The table is built from the arms of the handlers in order. -/
theorem buildTimeoutArms_eq (fsm : FsmStructure) :
    buildTimeoutArms fsm =
      FirstSeen.recordAll TimeoutArm.state [] (fsm.handlers.flatMap Handler.timeoutArms) := by
  unfold buildTimeoutArms FirstSeen.recordAll
  rw [List.foldl_flatMap]

/-! ## Accepted blocks -/

/-- A block the macro accepts, with what parsing and generation made of it. -/
structure AcceptedFsm (crates : Crates) (args : FsmArgs) (block : ItemImpl) where
  fsm : FsmStructure
  program : GeneratedFsm
  parsed : FsmStructure.parse crates args block = .ok fsm
  generated : generate fsm block = .ok program

/-- Run the macro, keeping the intermediate structure. -/
def accept (crates : Crates) (args : FsmArgs) (block : ItemImpl) :
    Option (AcceptedFsm crates args block) :=
  match parsed : FsmStructure.parse crates args block with
  | .error _ => none
  | .ok fsm =>
      match generated : generate fsm block with
      | .error _ => none
      | .ok program => some ⟨fsm, program, parsed, generated⟩

section Accepted

variable {crates : Crates} {args : FsmArgs} {block : ItemImpl}

/-- Generation never fails after parsing has succeeded. -/
theorem exists_acceptedFsm {fsm : FsmStructure}
    (parsed : FsmStructure.parse crates args block = .ok fsm) :
    ∃ accepted : AcceptedFsm crates args block, accepted.fsm = fsm := by
  have parsedBlock := (FsmStructure.parse_spec parsed).1
  obtain ⟨program, generated⟩ :=
    generate_eq_ok (fun _ handlerMem => parsedBlock.wellFormed handlerMem) block
  exact ⟨⟨fsm, program, parsed, generated⟩, rfl⟩

/-- What the macro returns for a block belongs to an accepted machine. -/
theorem exists_acceptedFsm_of_generateFsm {program : GeneratedFsm}
    (done : generateFsm crates args block = .ok program) :
    ∃ accepted : AcceptedFsm crates args block, accepted.program = program := by
  obtain ⟨fsm, parsed, generated⟩ := bind_eq_ok_iff.mp done
  exact ⟨⟨fsm, program, parsed, generated⟩, rfl⟩

namespace AcceptedFsm

variable (machine : AcceptedFsm crates args block)

theorem parsedBlock : ParsedBlock crates args block machine.fsm :=
  (FsmStructure.parse_spec machine.parsed).1

theorem closed : machine.fsm.Closed :=
  machine.parsedBlock.closed

theorem timeoutsValid : machine.fsm.TimeoutsValid :=
  ((FsmStructure.validate_eq_ok_iff machine.closed crates).mp
    (FsmStructure.parse_spec machine.parsed).2).1

theorem reachable {state : Ident} (stateMem : state ∈ machine.fsm.stateNames) :
    machine.fsm.Reachable state :=
  ((FsmStructure.validate_eq_ok_iff machine.closed crates).mp
    (FsmStructure.parse_spec machine.parsed).2).2 state stateMem

/-- The graph that validation built. -/
theorem exists_graphOf :
    ∃ graph initialNode nodes, machine.fsm.validatedGraph = .ok (graph, initialNode, nodes) ∧
      machine.fsm.GraphOf graph initialNode nodes := by
  obtain ⟨succeeds, graphOf⟩ := FsmStructure.validatedGraph_spec machine.closed
  obtain ⟨⟨graph, initialNode, nodes⟩, validated⟩ := succeeds machine.timeoutsValid
  exact ⟨graph, initialNode, nodes, validated, (graphOf graph initialNode nodes validated).2⟩

theorem wellFormed {handler : Handler} (handlerMem : handler ∈ machine.fsm.handlers) :
    handler.WellFormed :=
  machine.parsedBlock.wellFormed handlerMem

theorem parsedFrom {handler : Handler} (handlerMem : handler ∈ machine.fsm.handlers) :
    ParsedFrom crates handler.method handler := by
  rcases machine.parsedBlock.mem_handlers_iff.mp handlerMem with ⟨method, -, parsed⟩
  have parsedFrom := Handler.parse_parsedFrom parsed
  rw [parsedFrom.method_eq]
  exact parsedFrom

theorem program_spec :
    machine.program.stateEnum = machine.fsm.stateNames ∧
      machine.program.eventEnum = machine.fsm.events ∧
      machine.program.initialState = machine.fsm.initialState ∧
      machine.program.channelSize = machine.fsm.channelSize ∧
      machine.program.eventArms = machine.fsm.handlers.flatMap Handler.eventArms ∧
      buildTimeoutHandler machine.fsm = .ok machine.program.timeoutLogic ∧
      machine.program.timeoutArms = buildTimeoutArms machine.fsm := by
  obtain ⟨eventArms, armsBuilt, rest⟩ := bind_eq_ok_iff.mp machine.generated
  obtain ⟨timeoutLogic, timeoutBuilt, done⟩ := bind_eq_ok_iff.mp rest
  rw [buildEventArms_eq_ok fun _ => machine.wellFormed] at armsBuilt
  rw [← Except.ok.inj done, ← Except.ok.inj armsBuilt]
  exact ⟨rfl, rfl, rfl, rfl, rfl, timeoutBuilt, rfl⟩

theorem stateEnum_eq : machine.program.stateEnum = machine.fsm.stateNames :=
  machine.program_spec.1

theorem eventEnum_eq : machine.program.eventEnum = machine.fsm.events :=
  machine.program_spec.2.1

theorem initialState_eq : machine.program.initialState = machine.fsm.initialState :=
  machine.program_spec.2.2.1

theorem eventArms_eq :
    machine.program.eventArms = machine.fsm.handlers.flatMap Handler.eventArms :=
  machine.program_spec.2.2.2.2.1

theorem buildTimeoutHandler_eq :
    buildTimeoutHandler machine.fsm = .ok machine.program.timeoutLogic :=
  machine.program_spec.2.2.2.2.2.1

theorem timeoutArms_eq :
    machine.program.timeoutArms = FirstSeen.recordAll TimeoutArm.state []
      (machine.fsm.handlers.flatMap Handler.timeoutArms) :=
  machine.program_spec.2.2.2.2.2.2.trans (buildTimeoutArms_eq machine.fsm)

theorem program_channelSize : machine.program.channelSize = machine.fsm.channelSize :=
  machine.program_spec.2.2.2.1

theorem channelSize_eq : machine.program.channelSize = args.channelSize :=
  machine.program_channelSize.trans machine.parsedBlock.channelSize_eq

theorem channelSize_pos : 0 < machine.program.channelSize := by
  rw [machine.channelSize_eq]
  exact args.channelSize_pos

theorem find?_eventArms {handler : Handler} (wellFormed : handler.WellFormed)
    (state event : Ident) :
    (handler.eventArms.find? fun arm => decide (arm.state = state ∧ arm.event = event)).isSome ↔
      handler.Handles state event := by
  unfold Handler.eventArms Handler.Handles
  cases eventEq : handler.event with
  | none => simp
  | some declared =>
      obtain ⟨kind, kindEq, -⟩ := wellFormed.returnKind_of_trigger (Or.inl (by simp [eventEq]))
      simp [kindEq, handlerArms, List.find?_isSome]

theorem mem_eventArms {handler : Handler} {arm : EventArm}
    (armMem : arm ∈ handler.eventArms) :
    ∃ event, handler.event = some event ∧ arm.event = event.name ∧
      arm.state ∈ handler.sourceStates ∧ arm.bindsPayload = handler.hasPayload ∧
      handler.returnKind = some arm.call.returnKind ∧
      arm.call = handler.eventCall event arm.call.returnKind := by
  unfold Handler.eventArms at armMem
  split at armMem
  next event kind eventEq kindEq =>
    obtain ⟨source, sourceMem, rfl⟩ := List.mem_map.mp armMem
    exact ⟨event, eventEq, rfl, sourceMem, rfl, kindEq, rfl⟩
  next => simp at armMem

/-- The generated `match` picks the first declared handler that handles the
event in the state, and its arm calls that handler with the payload. -/
theorem matchArm_eq_some {state event : Ident} {arm : EventArm}
    (matched : machine.program.matchArm state event = some arm) :
    (machine.fsm.handlers.find? fun handler => decide (handler.Handles state event)) =
        some arm.call.handler ∧
      arm.state = state ∧ arm.event = event ∧
      arm.call.handler.returnKind = some arm.call.returnKind ∧
      arm.bindsPayload = arm.call.handler.hasPayload ∧
      arm.call.passesPayload = arm.call.handler.hasPayload := by
  have armFits := List.find?_some matched
  simp only [decide_eq_true_eq] at armFits
  unfold GeneratedFsm.matchArm at matched
  rw [machine.eventArms_eq, List.find?_flatMap] at matched
  obtain ⟨before, handler, after, split, found, earlier⟩ :=
    List.findSome?_eq_some_iff.mp matched
  have memOf : ∀ other ∈ before ++ [handler], other ∈ machine.fsm.handlers := by
    intro other otherMem
    rw [split]
    simp only [List.mem_append, List.mem_cons, List.not_mem_nil, or_false] at otherMem ⊢
    tauto
  have handles := (find?_eventArms (machine.wellFormed (memOf handler (by simp))) state event).mp
    (by rw [found]; rfl)
  obtain ⟨declared, -, -, -, bindsEq, kindEq, callEq⟩ :=
    mem_eventArms (List.mem_of_find?_eq_some found)
  have handlerEq : arm.call.handler = handler := by rw [callEq]; rfl
  have passesEq : arm.call.passesPayload = handler.hasPayload := by rw [callEq]; rfl
  rw [handlerEq]
  refine ⟨?_, armFits.1, armFits.2, kindEq, bindsEq, passesEq⟩
  rw [split, List.find?_append, List.find?_cons_of_pos (by simpa using handles)]
  have noneEarlier : before.find? (fun handler => decide (handler.Handles state event)) = none := by
    rw [List.find?_eq_none]
    intro other otherMem
    have missed := earlier other otherMem
    have handlesIff := find?_eventArms (machine.wellFormed (memOf other (by simp [otherMem])))
      state event
    rw [missed] at handlesIff
    simpa using handlesIff
  rw [noneEarlier, Option.none_or]

/-- An event is dropped exactly when no handler handles it in the state. -/
theorem matchArm_eq_none_iff {state event : Ident} :
    machine.program.matchArm state event = none ↔
      ∀ handler ∈ machine.fsm.handlers, ¬ handler.Handles state event := by
  unfold GeneratedFsm.matchArm
  rw [machine.eventArms_eq, List.find?_flatMap, List.findSome?_eq_none_iff]
  refine forall₂_congr fun handler handlerMem => ?_
  rw [← find?_eventArms (machine.wellFormed handlerMem), Option.not_isSome_iff_eq_none]

/-- What runs when the timer fires is a call of the timeout handler. -/
theorem timeoutLogic_eq_some {call : HandlerCall}
    (logic : machine.program.timeoutLogic = some call) :
    call.handler ∈ machine.fsm.handlers ∧ call.handler.isTimeoutHandler = true ∧
      call.handler.returnKind = some call.returnKind ∧ call.passesPayload = false := by
  have built := machine.buildTimeoutHandler_eq
  rw [logic] at built
  unfold buildTimeoutHandler at built
  split at built
  next => cases built
  next handler found =>
    split at built
    next => cases built
    next returnKind kindEq =>
      obtain rfl := Option.some.inj (Except.ok.inj built)
      exact ⟨List.mem_of_find?_eq_some found, List.find?_some found, kindEq, rfl⟩

theorem timeoutLogic_of_handler {handler : Handler}
    (handlerMem : handler ∈ machine.fsm.handlers)
    (isTimeout : handler.isTimeoutHandler = true) :
    ∃ call, machine.program.timeoutLogic = some call := by
  have built := machine.buildTimeoutHandler_eq
  unfold buildTimeoutHandler at built
  split at built
  next missing =>
    exact (List.find?_eq_none.mp missing handler handlerMem isTimeout).elim
  next other found =>
    split at built
    next => cases built
    next => exact ⟨_, (Except.ok.inj built).symm⟩

/-- There is at most one timeout handler. -/
theorem timeoutHandler_unique {first second : Handler}
    (firstMem : first ∈ machine.fsm.handlers) (secondMem : second ∈ machine.fsm.handlers)
    (firstTimeout : first.isTimeoutHandler = true)
    (secondTimeout : second.isTimeoutHandler = true) : first = second := by
  have single := machine.timeoutsValid.single
  rw [List.countP_eq_length_filter] at single
  have inFilter : ∀ handler ∈ machine.fsm.handlers, handler.isTimeoutHandler = true →
      handler ∈ machine.fsm.handlers.filter Handler.isTimeoutHandler :=
    fun handler handlerMem isTimeout => List.mem_filter.mpr ⟨handlerMem, isTimeout⟩
  have firstIn := inFilter first firstMem firstTimeout
  have secondIn := inFilter second secondMem secondTimeout
  generalize machine.fsm.handlers.filter Handler.isTimeoutHandler = timeoutHandlers at *
  match timeoutHandlers with
  | [] => simp at firstIn
  | [only] => rw [List.mem_singleton.mp firstIn, List.mem_singleton.mp secondIn]
  | _ :: _ :: _ => simp at single

theorem mem_handlerTimeoutArms {handler : Handler} {arm : TimeoutArm} :
    arm ∈ handler.timeoutArms ↔ ∃ duration, handler.timeout = some duration ∧
      arm.state ∈ handler.targets ∧ arm.secs = duration.secs ∧ arm.nanos = duration.nanos := by
  obtain ⟨state, secs, nanos⟩ := arm
  unfold Handler.timeoutArms
  cases handler.timeout with
  | none => simp
  | some duration =>
      simp only [List.mem_map, TimeoutArm.mk.injEq, Option.some.injEq, exists_eq_left']
      constructor
      · rintro ⟨target, targetMem, rfl, rfl, rfl⟩
        exact ⟨targetMem, rfl, rfl⟩
      · rintro ⟨targetMem, rfl, rfl⟩
        exact ⟨state, targetMem, rfl, rfl, rfl⟩

/-- The arm generated for a state is the first one any handler declares. -/
theorem lookup_timeoutArms (state : Ident) :
    FirstSeen.lookup TimeoutArm.state machine.program.timeoutArms state =
      FirstSeen.lookup TimeoutArm.state
        (machine.fsm.handlers.flatMap Handler.timeoutArms) state := by
  rw [machine.timeoutArms_eq, FirstSeen.lookup_recordAll]
  rfl

/-- A state returned by a handler with a timeout sets the timer to exactly
that timeout, whichever handler the generated arm was taken from. -/
theorem timeoutFor_eq {handler : Handler} {duration : Duration} {state : Ident}
    (handlerMem : handler ∈ machine.fsm.handlers)
    (timeout : handler.timeout = some duration) (stateMem : state ∈ handler.targets) :
    machine.program.timeoutFor state = duration.toNanos := by
  have armDeclared : (⟨state, duration.secs, duration.nanos⟩ : TimeoutArm) ∈
      machine.fsm.handlers.flatMap Handler.timeoutArms :=
    List.mem_flatMap.mpr ⟨handler, handlerMem,
      mem_handlerTimeoutArms.mpr ⟨duration, timeout, stateMem, rfl, rfl⟩⟩
  obtain ⟨arm, found⟩ := FirstSeen.exists_lookup TimeoutArm.state
    (List.mem_map.mpr ⟨_, armDeclared, rfl⟩)
  obtain ⟨armMem, armState⟩ := FirstSeen.lookup_eq_some found
  obtain ⟨other, otherMem, armMem⟩ := List.mem_flatMap.mp armMem
  obtain ⟨otherDuration, otherTimeout, otherTarget, secsEq, nanosEq⟩ :=
    mem_handlerTimeoutArms.mp armMem
  have otherTarget : state ∈ other.targets := by
    rwa [show arm.state = state from armState] at otherTarget
  have durationEq : otherDuration = duration :=
    FsmStructure.agree_timeoutDeclarations_iff.mp machine.timeoutsValid.agree
      other otherMem handler handlerMem _ _ otherTimeout timeout state otherTarget stateMem
  subst otherDuration
  simp only [GeneratedFsm.timeoutFor, machine.lookup_timeoutArms, found, secsEq, nanosEq,
    Duration.toNanos]

/-- A state without a timeout sets the timer a century ahead. -/
theorem timeoutFor_eq_noTimeout {state : Ident} (untimed : ¬ machine.fsm.Timed state) :
    machine.program.timeoutFor state = noTimeoutSecs * 1000000000 := by
  have missing : FirstSeen.lookup TimeoutArm.state
      (machine.fsm.handlers.flatMap Handler.timeoutArms) state = none := by
    rw [FirstSeen.lookup_eq_none_iff]
    intro stateMem
    obtain ⟨arm, armMem, rfl⟩ := List.mem_map.mp stateMem
    obtain ⟨handler, handlerMem, armMem⟩ := List.mem_flatMap.mp armMem
    obtain ⟨duration, timeout, targetMem, -⟩ := mem_handlerTimeoutArms.mp armMem
    exact untimed ⟨handler, handlerMem, by simp [timeout], targetMem⟩
  simp only [GeneratedFsm.timeoutFor, machine.lookup_timeoutArms, missing]

end AcceptedFsm

end Accepted

end TokioFsm
