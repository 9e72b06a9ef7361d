import TokioFsm.Acceptance

/-!
# The generated program is closed

The state enum, the event enum and the arms are generated from facts that
parsing stores separately: the lists of names seen so far, whether a handler
takes a payload, and the payload type of the first handler of an event.  They
agree: the enums list what the block declares, once each, every arm names
variants of the enums and binds a payload as its variant declares, and the
arms are the `#[on(..)]` attributes of the block, one by one.
-/

namespace TokioFsm

open Fallible

/-! ## The states a return type names -/

/-- The type is `Transition<State>`: a path whose last segment has one type
argument, which is a path ending in the state. -/
inductive SynType.TransitionTo : SynType → Ident → Prop
  | mk {qself innerQself : Option String} {leadingColon innerColon : Bool}
      {segments innerSegments : List PathSegment} {turbofish comma : Bool}
      {args : List GenericArgument} {state : Ident} {arguments : PathArguments} :
      segments.getLast? = some (.mk "Transition" (.angleBracketed turbofish args comma)) →
        typeArgs args = [.path innerQself innerColon innerSegments] →
          innerSegments.getLast? = some (.mk state arguments) →
            TransitionTo (.path qself leadingColon segments) state

/-- The return type is `Transition<State>`, or a `Result` with two type
arguments of which one is. -/
inductive ReturnType.Names : ReturnType → Ident → Prop
  | transition {ty : SynType} {state : Ident} :
      ty.TransitionTo state → Names (.type ty) state
  | result {qself : Option String} {leadingColon : Bool} {segments : List PathSegment}
      {turbofish comma : Bool} {args : List GenericArgument} {okType errType : SynType}
      {state : Ident} :
      segments.getLast? = some (.mk "Result" (.angleBracketed turbofish args comma)) →
        typeArgs args = [okType, errType] →
          okType.TransitionTo state ∨ errType.TransitionTo state →
            Names (.type (.path qself leadingColon segments)) state

theorem extractTransitionState_eq_ok_iff {ty : SynType} {state : State} :
    extractTransitionState ty = .ok state ↔ ty.TransitionTo state.name := by
  constructor
  · intro extracted
    unfold extractTransitionState at extracted
    dsimp only at extracted
    split at extracted
    next => cases extracted
    next qself leadingColon segments =>
      split at extracted
      next => cases extracted
      next segment last =>
        split at extracted
        next => cases extracted
        next isTransition =>
          split at extracted
          next turbofish args comma arguments =>
            split at extracted
            next innerQself innerColon innerSegments typed =>
              split at extracted
              next stateSegment innerLast =>
                obtain rfl := Except.ok.inj extracted
                rcases segment with ⟨name, segmentArguments⟩
                rcases stateSegment with ⟨stateName, stateArguments⟩
                obtain rfl : name = "Transition" := not_not.mp isTransition
                obtain rfl : segmentArguments = .angleBracketed turbofish args comma := arguments
                exact .mk last typed innerLast
              next => cases extracted
            next => cases extracted
          next => cases extracted
  · rintro ⟨last, typed, innerLast⟩
    simp [extractTransitionState, last, PathSegment.ident, PathSegment.arguments, typed, innerLast]

theorem mem_parseResultReturn {qself : Option String} {leadingColon : Bool}
    {segments : List PathSegment} {segment : PathSegment} {ty : SynType}
    {returnKind : Option HandlerReturnKind} {returnStates : List State}
    (last : segments.getLast? = some segment)
    (isResult : segment.ident = "Result")
    (parsed : parseResultReturn segment ty = .ok (returnKind, returnStates)) (state : State) :
    state ∈ returnStates ↔
      (ReturnType.type (.path qself leadingColon segments)).Names state.name := by
  rcases segment with ⟨name, arguments⟩
  obtain rfl : name = "Result" := isResult
  unfold parseResultReturn at parsed
  split at parsed
  next turbofish args comma argumentsEq =>
    obtain rfl : arguments = .angleBracketed turbofish args comma := argumentsEq
    split at parsed
    next okType errType typed =>
      -- the two type arguments are determined by the return type
      have names : (ReturnType.type (.path qself leadingColon segments)).Names state.name ↔
          okType.TransitionTo state.name ∨ errType.TransitionTo state.name := by
        constructor
        · intro named
          cases named with
          | transition transitionTo =>
              rcases transitionTo with ⟨isTransition⟩
              simp [last] at isTransition
          | result last' typed' either =>
              rw [last] at last'
              cases last'
              rw [typed] at typed'
              cases typed'
              exact either
        · exact .result last typed
      rw [names, ← extractTransitionState_eq_ok_iff, ← extractTransitionState_eq_ok_iff]
      split at parsed
      next => cases parsed
      next okState okEq =>
        split at parsed
        next errState errEq =>
          cases parsed
          simp [okEq, errEq, eq_comm]
        next failure errEq =>
          cases parsed
          simp [okEq, errEq, eq_comm]
    next => cases parsed
  next => cases parsed

/-- The states of a parsed return type are those it names. -/
theorem mem_parseHandlerReturn {output : ReturnType} {returnKind : Option HandlerReturnKind}
    {returnStates : List State}
    (parsed : parseHandlerReturn output = .ok (returnKind, returnStates)) (state : State) :
    state ∈ returnStates ↔ output.Names state.name := by
  unfold parseHandlerReturn at parsed
  split at parsed
  next ty =>
    unfold parseReturnKind at parsed
    split at parsed
    next => cases parsed
    next qself leadingColon segments =>
      split at parsed
      next => cases parsed
      next segment last =>
        split at parsed
        next isTransition =>
          obtain ⟨found, extracted, parsed⟩ := bind_eq_ok_iff.mp parsed
          cases parsed
          rw [List.mem_singleton]
          constructor
          · rintro rfl
            exact .transition (extractTransitionState_eq_ok_iff.mp extracted)
          · intro named
            cases named with
            | transition transitionTo =>
                have again := extractTransitionState_eq_ok_iff.mpr transitionTo
                rw [extracted] at again
                exact (Except.ok.inj again).symm
            | result isResult =>
                rw [last] at isResult
                obtain rfl := Option.some.inj isResult
                simp [PathSegment.ident] at isTransition
        next =>
          split at parsed
          next isResult => exact mem_parseResultReturn last isResult parsed state
          next => cases parsed
  next => cases parsed

/-! ## What a method declares -/

/-- The method carries `#[on(..)]` or `#[on_timeout]`. -/
def ImplItemFn.IsMarked (method : ImplItemFn) : Prop :=
  ∃ attr ∈ method.attrs, attr.isIdent "on" = true ∨ attr.isIdent "on_timeout" = true

/-- Every `#[on(..)]` attribute of the block, with its method. -/
def ItemImpl.onAttributes (block : ItemImpl) : List (ImplItemFn × Attribute) :=
  block.methods.flatMap fun method =>
    (method.attrs.filter fun attr => attr.isIdent "on").map fun attr => (method, attr)

section Declared

variable {crates : Crates} {method : ImplItemFn} {handler : Handler}

/-- An attribute that does not parse is an error. -/
theorem scanAttrs_onAttr_parsed {scan : AttrScan} (scanned : scanAttrs crates method = .ok scan) :
    ∀ attr ∈ method.attrs, attr.isIdent "on" = true →
      ∃ onAttr, crates.onAttrFromMeta attr = .ok onAttr := by
  refine foldlM_invariant (fun consumed _ => ∀ attr ∈ consumed, attr.isIdent "on" = true →
    ∃ onAttr, crates.onAttrFromMeta attr = .ok onAttr) scanned (by simp) ?_
  intro consumed attr before after earlier step
  refine List.forall_mem_append.mpr ⟨earlier, List.forall_mem_singleton.mpr ?_⟩
  intro isOn
  rw [scanAttr, if_pos isOn] at step
  obtain ⟨onAttr, parsed, -⟩ := bind_eq_ok_iff.mp step
  exact ⟨onAttr, parsed⟩

/-- The declarations are those of the `#[on(..)]` attributes, one by one. -/
theorem onAttrs_forall₂ {attrs : List Attribute}
    (parsed : ∀ attr ∈ attrs, attr.isIdent "on" = true →
      ∃ onAttr, crates.onAttrFromMeta attr = .ok onAttr) :
    List.Forall₂ (fun onAttr attr => crates.onAttrFromMeta attr = .ok onAttr)
      (onAttrs crates attrs) (attrs.filter fun attr => attr.isIdent "on") := by
  induction attrs with
  | nil => exact .nil
  | cons attr attrs ih =>
      have rest := ih fun other otherMem => parsed other (List.mem_cons_of_mem attr otherMem)
      rw [← List.singleton_append, onAttrs_append, List.singleton_append]
      cases isOn : attr.isIdent "on" with
      | true =>
          obtain ⟨onAttr, onAttrEq⟩ := parsed attr List.mem_cons_self isOn
          rw [onAttrs_singleton isOn onAttrEq, List.filter_cons, if_pos isOn]
          exact .cons onAttrEq rest
      | false =>
          rw [onAttrs_singleton_of_not isOn, List.filter_cons, if_neg (by simp [isOn])]
          exact rest

theorem Handler.onAttrs_forall₂ (parsed : Handler.parse crates method = .ok handler) :
    List.Forall₂ (fun onAttr attr => crates.onAttrFromMeta attr = .ok onAttr)
      (onAttrs crates method.attrs) (method.attrs.filter fun attr => attr.isIdent "on") := by
  obtain ⟨-, scan, -, -, -, scanned, -⟩ := Handler.parse_eq_ok_iff.mp parsed
  exact TokioFsm.onAttrs_forall₂ (scanAttrs_onAttr_parsed scanned)

theorem Handler.event_isSome_iff (parsed : Handler.parse crates method = .ok handler) :
    handler.event.isSome ↔ ∃ attr ∈ method.attrs, attr.isIdent "on" = true := by
  have pairs := (Handler.onAttrs_forall₂ parsed).length_eq
  obtain ⟨-, scan, -, -, -, scanned, -, -, -, rfl⟩ := Handler.parse_eq_ok_iff.mp parsed
  have scanOf := scanAttrs_scanOf scanned
  have sources := scanOf.sourceStates_eq_nil_iff
  rw [scanOf.sourceStates_eq, List.map_eq_nil_iff] at sources
  have declared : scan.event.isSome ↔ 0 < (onAttrs crates method.attrs).length := by
    rw [List.length_pos_iff, Ne, sources, Option.isSome_iff_ne_none]
  rw [declared, pairs, List.length_pos_iff_exists_mem]
  simp only [List.mem_filter]

theorem Handler.trigger_iff (parsed : Handler.parse crates method = .ok handler) :
    handler.event.isSome ∨ handler.isTimeoutHandler = true ↔ method.IsMarked := by
  rw [Handler.event_isSome_iff parsed, (Handler.parse_parsedFrom parsed).isTimeoutHandler_eq,
    List.any_eq_true, ImplItemFn.IsMarked]
  simp only [and_or_left, exists_or]

/-- A handler goes to the states its return type names. -/
theorem Handler.mem_targets_iff (parsed : Handler.parse crates method = .ok handler)
    {state : Ident} :
    state ∈ handler.targets ↔ method.IsMarked ∧ method.sig.output.Names state := by
  rw [← Handler.trigger_iff parsed]
  have wellFormed := (Handler.parse_parsedFrom parsed).wellFormed
  obtain ⟨-, scan, timeout, returnKind, returnStates, -, -, returnParsed, -, rfl⟩ :=
    Handler.parse_eq_ok_iff.mp parsed
  by_cases trigger : scan.event.isSome ∨ scan.isTimeoutHandler = true
  · rw [AttrScan.parseReturn, if_pos (by simpa using trigger)] at returnParsed
    have named := mem_parseHandlerReturn returnParsed ⟨state⟩
    simp only [trigger, true_and, ← named, Handler.targets, List.mem_map]
    constructor
    · rintro ⟨⟨name⟩, stateMem, rfl⟩
      exact stateMem
    · intro stateMem
      exact ⟨⟨state⟩, stateMem, rfl⟩
  · rw [AttrScan.parseReturn, if_neg (by simpa using trigger)] at returnParsed
    cases returnParsed
    simp [Handler.targets, trigger]

theorem Handler.mem_sourceStates_iff (parsed : Handler.parse crates method = .ok handler)
    {state : Ident} :
    state ∈ handler.sourceStates ↔
      ∃ onAttr ∈ onAttrs crates method.attrs, onAttr.state = state := by
  obtain ⟨-, scan, -, -, -, scanned, -, -, -, rfl⟩ := Handler.parse_eq_ok_iff.mp parsed
  simp only [(scanAttrs_scanOf scanned).sourceStates_eq, List.mem_map]

theorem Handler.event_eq (parsed : Handler.parse crates method = .ok handler) {onAttr : OnAttr}
    (declared : onAttr ∈ onAttrs crates method.attrs) :
    handler.event = some ⟨onAttr.event, payloadType method⟩ := by
  obtain ⟨-, scan, -, -, -, scanned, -, -, -, rfl⟩ := Handler.parse_eq_ok_iff.mp parsed
  exact (scanAttrs_scanOf scanned).event_eq onAttr declared

/-- The arms of a handler are its `#[on(..)]` attributes, one by one. -/
theorem Handler.eventArms_forall₂ (parsed : Handler.parse crates method = .ok handler) :
    List.Forall₂ (fun arm pair => arm.call.handler.method = pair.1 ∧
        crates.onAttrFromMeta pair.2 = .ok ⟨arm.state, arm.event⟩)
      handler.eventArms
      ((method.attrs.filter fun attr => attr.isIdent "on").map fun attr => (method, attr)) := by
  have pairs := Handler.onAttrs_forall₂ parsed
  have parsedFrom := Handler.parse_parsedFrom parsed
  rw [List.forall₂_map_right_iff]
  unfold Handler.eventArms
  split
  next event kind eventEq kindEq =>
    have sources : handler.sourceStates = (onAttrs crates method.attrs).map OnAttr.state := by
      obtain ⟨-, scan, -, -, -, scanned, -, -, -, rfl⟩ := Handler.parse_eq_ok_iff.mp parsed
      exact (scanAttrs_scanOf scanned).sourceStates_eq
    have arms : handlerArms handler event kind =
        (onAttrs crates method.attrs).map fun onAttr => {
          state := onAttr.state
          event := onAttr.event
          bindsPayload := handler.hasPayload
          call := handler.eventCall ⟨onAttr.event, payloadType method⟩ kind } := by
      rw [handlerArms, sources, List.map_map]
      apply List.map_congr_left
      intro onAttr declared
      have declaredEvent := Handler.event_eq parsed declared
      rw [eventEq] at declaredEvent
      rw [Option.some.inj declaredEvent]
      rfl
    rw [arms, List.forall₂_map_left_iff]
    exact pairs.imp fun onAttr attr onAttrEq => ⟨parsedFrom.method_eq, onAttrEq⟩
  next noArms =>
    have noEvent : handler.event = none := by
      cases eventEq : handler.event with
      | none => rfl
      | some event =>
          obtain ⟨kind, kindEq, -⟩ := parsedFrom.wellFormed.returnKind_of_trigger
            (Or.inl (by rw [eventEq]; rfl))
          exact (noArms event kind eventEq kindEq).elim
    have noOn : method.attrs.filter (fun attr => attr.isIdent "on") = [] := by
      rw [List.filter_eq_nil_iff]
      intro attr attrMem isOn
      have isEvent := (Handler.event_isSome_iff parsed).mpr ⟨attr, attrMem, isOn⟩
      rw [noEvent] at isEvent
      cases isEvent
    rw [noOn]
    exact .nil

end Declared

/-! ## The enums and the arms -/

/-- The enums list what the block declares, and the arms fit them. -/
structure GeneratedFsm.ClosedOver (crates : Crates) (args : FsmArgs) (block : ItemImpl)
    (program : GeneratedFsm) : Prop where
  stateEnum_nodup : program.stateEnum.Nodup
  mem_stateEnum_iff : ∀ state, state ∈ program.stateEnum ↔
    state = args.initial ∨
      (∃ method ∈ block.methods, ∃ onAttr ∈ onAttrs crates method.attrs,
        onAttr.state = state) ∨
        ∃ method ∈ block.methods, method.IsMarked ∧ method.sig.output.Names state
  eventEnum_nodup : (program.eventEnum.map Event.name).Nodup
  mem_eventEnum_iff : ∀ event, (∃ variant ∈ program.eventEnum, variant.name = event) ↔
    ∃ method ∈ block.methods, ∃ onAttr ∈ onAttrs crates method.attrs, onAttr.event = event
  /-- an arm names variants, and binds what its own handler takes -/
  eventArm_fits : ∀ arm ∈ program.eventArms, arm.state ∈ program.stateEnum ∧
    (∃ variant ∈ program.eventEnum, variant.name = arm.event) ∧
      ∀ variant ∈ program.eventEnum, variant.name = arm.event →
        (arm.bindsPayload = true ↔ ∃ ty, variant.payloadType = some ty) ∧
          arm.call.passesPayload = arm.bindsPayload ∧
            ∀ ty, variant.payloadType = some ty ↔
              arm.call.handler.method.sig.inputs[1]? = some (.typed ty)
  timeoutArm_fits : ∀ arm ∈ program.timeoutArms, arm.state ∈ program.stateEnum
  event_handled : ∀ variant ∈ program.eventEnum, ∃ arm ∈ program.eventArms,
    arm.event = variant.name
  /-- one arm for every `#[on(..)]` attribute of every method, in their order -/
  arms_correspond : List.Forall₂ (fun arm pair => arm.call.handler.method = pair.1 ∧
      crates.onAttrFromMeta pair.2 = .ok ⟨arm.state, arm.event⟩)
    program.eventArms block.onAttributes

theorem payloadType_eq_some_iff {method : ImplItemFn} {ty : SynType} :
    payloadType method = some ty ↔ method.sig.inputs[1]? = some (.typed ty) := by
  unfold payloadType
  split
  next found => simp [found]
  next missing =>
    constructor
    · intro impossible
      cases impossible
    · exact fun found => (missing ty found).elim

section Closure

variable {crates : Crates} {args : FsmArgs} {block : ItemImpl}

theorem ParsedBlock.mem_stateNames_iff {fsm : FsmStructure}
    (parsed : ParsedBlock crates args block fsm) {state : Ident} :
    state ∈ fsm.stateNames ↔ state = args.initial ∨
      (∃ method ∈ block.methods, ∃ onAttr ∈ onAttrs crates method.attrs,
        onAttr.state = state) ∨
        ∃ method ∈ block.methods, method.IsMarked ∧ method.sig.output.Names state := by
  rw [parsed.stateNames_eq, mem_statesOf]
  apply or_congr_right
  constructor
  · rintro ⟨handler, handlerMem, targetMem | sourceMem⟩
    · rcases parsed.mem_handlers_iff.mp handlerMem with ⟨method, methodMem, methodParsed⟩
      exact Or.inr ⟨method, methodMem, (Handler.mem_targets_iff methodParsed).mp targetMem⟩
    · rcases parsed.mem_handlers_iff.mp handlerMem with ⟨method, methodMem, methodParsed⟩
      exact Or.inl ⟨method, methodMem, (Handler.mem_sourceStates_iff methodParsed).mp sourceMem⟩
  · rintro (⟨method, methodMem, declared⟩ | ⟨method, methodMem, named⟩)
    · rcases parsed.exists_handler methodMem with ⟨handler, handlerMem, methodParsed⟩
      exact ⟨handler, handlerMem, Or.inr ((Handler.mem_sourceStates_iff methodParsed).mpr declared)⟩
    · rcases parsed.exists_handler methodMem with ⟨handler, handlerMem, methodParsed⟩
      exact ⟨handler, handlerMem, Or.inl ((Handler.mem_targets_iff methodParsed).mpr named)⟩

/-- A variant of the event enum is the event of some handler. -/
theorem ParsedBlock.mem_events {fsm : FsmStructure} (parsed : ParsedBlock crates args block fsm)
    {event : Event} (eventMem : event ∈ fsm.events) :
    ∃ handler ∈ fsm.handlers, handler.event = some event := by
  rw [parsed.events_eq] at eventMem
  rcases FirstSeen.mem_of_mem_recordAll eventMem with impossible | declared
  · exact absurd impossible List.not_mem_nil
  · exact List.mem_filterMap.mp declared

theorem ParsedBlock.exists_variant {fsm : FsmStructure}
    (parsed : ParsedBlock crates args block fsm) {handler : Handler} {event : Event}
    (handlerMem : handler ∈ fsm.handlers) (eventEq : handler.event = some event) :
    ∃ variant ∈ fsm.events, variant.name = event.name := by
  have declared : event ∈ declaredEvents fsm.handlers :=
    List.mem_filterMap.mpr ⟨handler, handlerMem, eventEq⟩
  have recorded := (FirstSeen.mem_keys_recordAll Event.name [] (declaredEvents fsm.handlers)
    event.name).mpr (Or.inr (List.mem_map_of_mem declared))
  rw [parsed.events_eq]
  exact List.mem_map.mp recorded

/-- The variant of an event carries the payload type of every handler of the
event, not only of the first. -/
theorem ParsedBlock.payloadType_eq {fsm : FsmStructure}
    (parsed : ParsedBlock crates args block fsm) {handler : Handler} {event variant : Event}
    (handlerMem : handler ∈ fsm.handlers) (eventEq : handler.event = some event)
    (variantMem : variant ∈ fsm.events) (sameName : variant.name = event.name) :
    variant.payloadType = payloadType handler.method := by
  rcases parsed.mem_events variantMem with ⟨first, firstMem, firstEq⟩
  rw [← (parsed.wellFormed handlerMem).payloadType_eq event eventEq]
  exact parsed.payloads_agree variant (List.mem_filterMap.mpr ⟨first, firstMem, firstEq⟩)
    event (List.mem_filterMap.mpr ⟨handler, handlerMem, eventEq⟩) sameName

theorem ParsedBlock.event_declared_iff {fsm : FsmStructure}
    (parsed : ParsedBlock crates args block fsm) {name : Ident} :
    (∃ variant ∈ fsm.events, variant.name = name) ↔
      ∃ method ∈ block.methods, ∃ onAttr ∈ onAttrs crates method.attrs, onAttr.event = name := by
  constructor
  · rintro ⟨variant, variantMem, rfl⟩
    rcases parsed.mem_events variantMem with ⟨handler, handlerMem, eventEq⟩
    rcases parsed.mem_handlers_iff.mp handlerMem with ⟨method, methodMem, methodParsed⟩
    -- an event handler has a source state, and with it an attribute
    have sources : handler.sourceStates ≠ [] := by
      rw [Ne, (parsed.wellFormed handlerMem).sourceStates_eq_nil_iff, eventEq]
      exact Option.some_ne_none variant
    rcases List.exists_mem_of_ne_nil _ sources with ⟨source, sourceMem⟩
    rcases (Handler.mem_sourceStates_iff methodParsed).mp sourceMem with ⟨onAttr, declared, -⟩
    refine ⟨method, methodMem, onAttr, declared, ?_⟩
    have declaredEvent := Handler.event_eq methodParsed declared
    rw [eventEq] at declaredEvent
    rw [Option.some.inj declaredEvent]
  · rintro ⟨method, methodMem, onAttr, declared, rfl⟩
    rcases parsed.exists_handler methodMem with ⟨handler, handlerMem, methodParsed⟩
    exact parsed.exists_variant handlerMem (Handler.event_eq methodParsed declared)

variable (machine : AcceptedFsm crates args block)

theorem AcceptedFsm.eventArm_fits {arm : EventArm} (armMem : arm ∈ machine.program.eventArms) :
    arm.state ∈ machine.program.stateEnum ∧
      (∃ variant ∈ machine.program.eventEnum, variant.name = arm.event) ∧
        ∀ variant ∈ machine.program.eventEnum, variant.name = arm.event →
          (arm.bindsPayload = true ↔ ∃ ty, variant.payloadType = some ty) ∧
            arm.call.passesPayload = arm.bindsPayload ∧
              ∀ ty, variant.payloadType = some ty ↔
                arm.call.handler.method.sig.inputs[1]? = some (.typed ty) := by
  rw [machine.eventArms_eq] at armMem
  rcases List.mem_flatMap.mp armMem with ⟨handler, handlerMem, armMem⟩
  rcases AcceptedFsm.mem_eventArms armMem with
    ⟨event, eventEq, armEvent, sourceMem, bindsEq, -, callEq⟩
  have handlerEq : arm.call.handler = handler := by rw [callEq]; rfl
  have passesEq : arm.call.passesPayload = handler.hasPayload := by rw [callEq]; rfl
  rw [machine.stateEnum_eq, machine.eventEnum_eq, armEvent, handlerEq]
  refine ⟨machine.closed.sourceStates_mem handler handlerMem _ sourceMem,
    machine.parsedBlock.exists_variant handlerMem eventEq, ?_⟩
  intro variant variantMem sameName
  have sameType := machine.parsedBlock.payloadType_eq handlerMem eventEq variantMem sameName
  have wellFormed := machine.wellFormed handlerMem
  refine ⟨?_, passesEq.trans bindsEq.symm, ?_⟩
  · rw [bindsEq, wellFormed.hasPayload_eq, eventEq, sameType,
      ← wellFormed.payloadType_eq event eventEq, ← Option.isSome_iff_exists]
    rfl
  · intro ty
    rw [sameType, payloadType_eq_some_iff]

theorem AcceptedFsm.timeoutArm_fits {arm : TimeoutArm}
    (armMem : arm ∈ machine.program.timeoutArms) : arm.state ∈ machine.program.stateEnum := by
  rw [machine.timeoutArms_eq] at armMem
  rcases FirstSeen.mem_of_mem_recordAll armMem with impossible | armMem
  · exact absurd impossible List.not_mem_nil
  · rcases List.mem_flatMap.mp armMem with ⟨handler, handlerMem, armMem⟩
    rcases AcceptedFsm.mem_handlerTimeoutArms.mp armMem with ⟨duration, -, targetMem, -⟩
    rw [machine.stateEnum_eq]
    exact machine.closed.targets_mem handler handlerMem _ targetMem

theorem AcceptedFsm.event_handled {variant : Event}
    (variantMem : variant ∈ machine.program.eventEnum) :
    ∃ arm ∈ machine.program.eventArms, arm.event = variant.name := by
  rw [machine.eventEnum_eq] at variantMem
  rcases machine.parsedBlock.mem_events variantMem with ⟨handler, handlerMem, eventEq⟩
  have wellFormed := machine.wellFormed handlerMem
  have sources : handler.sourceStates ≠ [] := by
    rw [Ne, wellFormed.sourceStates_eq_nil_iff, eventEq]
    exact Option.some_ne_none variant
  rcases List.exists_mem_of_ne_nil _ sources with ⟨source, sourceMem⟩
  rcases wellFormed.returnKind_of_trigger (Or.inl (by rw [eventEq]; rfl)) with ⟨kind, kindEq, -⟩
  rw [machine.eventArms_eq]
  refine ⟨⟨source, variant.name, handler.hasPayload, handler.eventCall variant kind⟩, ?_, rfl⟩
  apply List.mem_flatMap.mpr
  refine ⟨handler, handlerMem, ?_⟩
  simp only [Handler.eventArms, eventEq, kindEq, handlerArms]
  exact List.mem_map.mpr ⟨source, sourceMem, rfl⟩

theorem AcceptedFsm.arms_correspond :
    List.Forall₂ (fun arm pair => arm.call.handler.method = pair.1 ∧
        crates.onAttrFromMeta pair.2 = .ok ⟨arm.state, arm.event⟩)
      machine.program.eventArms block.onAttributes := by
  rw [machine.eventArms_eq]
  have pairs := mapM_eq_ok_iff.mp machine.parsedBlock.handlers_parsed
  exact List.rel_flatMap pairs.flip fun handler method parsed => Handler.eventArms_forall₂ parsed

end Closure

theorem generated_program_closed {crates : Crates} {args : FsmArgs} {block : ItemImpl}
    {program : GeneratedFsm} (done : generateFsm crates args block = .ok program) :
    program.ClosedOver crates args block := by
  rcases exists_acceptedFsm_of_generateFsm done with ⟨machine, rfl⟩
  have parsed := machine.parsedBlock
  constructor
  · rw [machine.stateEnum_eq]
    exact machine.closed.nodup
  · intro state
    rw [machine.stateEnum_eq]
    exact parsed.mem_stateNames_iff
  · rw [machine.eventEnum_eq, parsed.events_eq]
    exact FirstSeen.nodup_keys_recordAll Event.name [] _ List.nodup_nil
  · intro event
    rw [machine.eventEnum_eq]
    exact parsed.event_declared_iff
  · exact fun arm => machine.eventArm_fits
  · exact fun arm => machine.timeoutArm_fits
  · exact fun variant => machine.event_handled
  · exact machine.arms_correspond

/-- Starting the worker takes its job. -/
theorem generated_program_closed_worker :
    worker.program.stateEnum.Nodup ∧
      ∀ arm ∈ worker.program.eventArms, arm.event = "Start" → arm.bindsPayload = true := by
  have done : generateFsm sampleCrates workerArgs workerBlock = .ok worker.program := rfl
  have closed := generated_program_closed done
  refine ⟨closed.stateEnum_nodup, ?_⟩
  intro arm armMem isStart
  have variantMem : (⟨"Start", some (namedType "Job")⟩ : Event) ∈ worker.program.eventEnum := by
    decide
  have fits := (closed.eventArm_fits arm armMem).2.2 _ variantMem isStart.symm
  exact fits.1.mpr ⟨_, rfl⟩

end TokioFsm
