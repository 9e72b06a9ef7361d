import TokioFsm.InternalErrors
import TokioFsm.ReturnTypes

/-!
# What the macro complains about

Each error of the macro says that something is wrong with the block.  A
complaint is an error together with what it says: the attributes, methods,
types or states it names are in the block and are as the message has them.
The macro reports complaints only, and it rejects a block exactly when there is
something to complain about.
-/

namespace TokioFsm

open Fallible GraphSearch

/-! ## Return types -/

/-- The type is a path whose last segment has the name. -/
def SynType.EndsIn (ty : SynType) (name : Ident) : Prop :=
  ∃ qself leadingColon segments arguments, ty = .path qself leadingColon segments ∧
    segments.getLast? = some (.mk name arguments)

/-- What is wrong with a return type. -/
inductive ReturnType.Complaint : ReturnType → Error → Prop
  | missing : Complaint .default (handlerReturnError (.output .default))
  | other {ty : SynType} : ¬ ty.EndsIn "Transition" → ¬ ty.EndsIn "Result" →
      Complaint (.type ty) (handlerReturnError (.type ty))
  | transition {ty : SynType} : ty.EndsIn "Transition" → (∀ state, ¬ ty.TransitionTo state) →
      Complaint (.type ty) ⟨.type ty, "Expected Transition<NextState>"⟩
  | arguments {qself : Option String} {leadingColon : Bool} {segments : List PathSegment}
      {arguments : PathArguments} : segments.getLast? = some (.mk "Result" arguments) →
        (∀ turbofish args comma okType errType,
          arguments = .angleBracketed turbofish args comma →
            typeArgs args ≠ [okType, errType]) →
              Complaint (.type (.path qself leadingColon segments))
                (resultReturnError (.path qself leadingColon segments))
  | okType {qself : Option String} {leadingColon : Bool} {segments : List PathSegment}
      {turbofish comma : Bool} {args : List GenericArgument} {okType errType : SynType} :
      segments.getLast? = some (.mk "Result" (.angleBracketed turbofish args comma)) →
        typeArgs args = [okType, errType] → (∀ state, ¬ okType.TransitionTo state) →
          Complaint (.type (.path qself leadingColon segments)) (resultReturnError okType)

theorem extractTransitionState_complaint {ty : SynType} {error : Error}
    (failed : extractTransitionState ty = .error error) :
    (∀ state, ¬ ty.TransitionTo state) ∧
      error = ⟨.type ty, "Expected Transition<NextState>"⟩ := by
  refine ⟨extractTransitionState_eq_error_iff.mp ⟨error, failed⟩, ?_⟩
  unfold extractTransitionState at failed
  dsimp only at failed
  split at failed
  next => exact (Except.error.inj failed).symm
  next =>
    split at failed
    next => exact (Except.error.inj failed).symm
    next =>
      split at failed
      next => exact (Except.error.inj failed).symm
      next =>
        split at failed
        next =>
          split at failed
          next =>
            split at failed
            next => cases failed
            next => exact (Except.error.inj failed).symm
          next => exact (Except.error.inj failed).symm
        next => exact (Except.error.inj failed).symm

theorem parseResultReturn_complaint {qself : Option String} {leadingColon : Bool}
    {segments : List PathSegment} {segment : PathSegment} (last : segments.getLast? = some segment)
    (isResult : segment.ident = "Result") :
    FailsWithin (ReturnType.type (.path qself leadingColon segments)).Complaint
      (parseResultReturn segment (.path qself leadingColon segments)) := by
  rcases segment with ⟨name, arguments⟩
  obtain rfl : name = "Result" := isResult
  unfold parseResultReturn
  split
  next turbofish args comma argumentsEq =>
    obtain rfl : arguments = .angleBracketed turbofish args comma := argumentsEq
    split
    next okType errType typed =>
      split
      next failure failed =>
        exact failsWithin_error.mpr
          (.okType last typed (extractTransitionState_complaint failed).1)
      next =>
        split
        next => exact failsWithin_ok _
        next => exact failsWithin_ok _
    next notTwo =>
      refine failsWithin_error.mpr (.arguments last ?_)
      intro turbofish' args' comma' okType errType same
      obtain ⟨-, rfl, -⟩ := PathArguments.angleBracketed.inj same
      exact notTwo okType errType
  next notAngled =>
    refine failsWithin_error.mpr (.arguments last ?_)
    exact fun turbofish args comma _ _ same => absurd same (notAngled turbofish args comma)

theorem parseHandlerReturn_complaint (output : ReturnType) :
    FailsWithin output.Complaint (parseHandlerReturn output) := by
  unfold parseHandlerReturn
  split
  next ty =>
    unfold parseReturnKind
    split
    next tokens =>
      refine failsWithin_error.mpr (.other ?_ ?_)
      · rintro ⟨_, _, _, _, impossible, -⟩
        cases impossible
      · rintro ⟨_, _, _, _, impossible, -⟩
        cases impossible
    next qself leadingColon segments =>
      split
      next noLast =>
        refine failsWithin_error.mpr (.other ?_ ?_)
        · rintro ⟨_, _, _, _, same, last⟩
          cases same
          rw [noLast] at last
          cases last
        · rintro ⟨_, _, _, _, same, last⟩
          cases same
          rw [noLast] at last
          cases last
      next segment last =>
        rcases segment with ⟨name, arguments⟩
        split
        next isTransition =>
          obtain rfl : name = "Transition" := isTransition
          apply FailsWithin.bind
          · intro error failed
            obtain ⟨noTransition, rfl⟩ := extractTransitionState_complaint failed
            exact .transition ⟨_, _, _, _, rfl, last⟩ noTransition
          · exact fun state _ => failsWithin_ok _
        next notTransition =>
          split
          next isResult => exact parseResultReturn_complaint last isResult
          next notResult =>
            refine failsWithin_error.mpr (.other ?_ ?_)
            · rintro ⟨_, _, _, _, same, last'⟩
              cases same
              rw [last] at last'
              cases last'
              exact notTransition rfl
            · rintro ⟨_, _, _, _, same, last'⟩
              cases same
              rw [last] at last'
              cases last'
              exact notResult rfl
  next => exact failsWithin_error.mpr .missing

/-- What is wrong with a method. -/
inductive ImplItemFn.Complaint (crates : Crates) (method : ImplItemFn) : Error → Prop
  | notAsync : method.sig.asyncness = false →
      Complaint crates method
        ⟨.ident method.sig.ident, "FSM handlers must be declared as async fn"⟩
  /-- the parser of the attribute's arguments has refused them -/
  | onAttr {attr : Attribute} {error : Error} : attr ∈ method.attrs →
      attr.isIdent "on" = true → crates.onAttrFromMeta attr = .error error →
        Complaint crates method error
  | stateTimeoutAttr {attr : Attribute} {error : Error} : attr ∈ method.attrs →
      attr.isIdent "state_timeout" = true → crates.stateTimeoutAttrFromMeta attr = .error error →
        Complaint crates method error
  | duplicateSource {before after : List Attribute} {attr : Attribute} {onAttr earlier : OnAttr} :
      method.attrs = before ++ attr :: after → attr.isIdent "on" = true →
        crates.onAttrFromMeta attr = .ok onAttr → earlier ∈ onAttrs crates before →
          earlier.state = onAttr.state →
            Complaint crates method ⟨.attribute attr,
              s!"Duplicate #[on] source state '{onAttr.state}' on handler '{method.sig.ident}'"⟩
  | differentEvents {first second : OnAttr} : first ∈ onAttrs crates method.attrs →
      second ∈ onAttrs crates method.attrs → first.event ≠ second.event →
        Complaint crates method ⟨.ident second.event,
          s!"Handler method '{method.sig.ident}' handles multiple different events: '{first.event}' and '{second.event}'"⟩
  | duration {attr : StateTimeoutAttr} {reason : String} :
      attr ∈ stateTimeoutAttrs crates method.attrs →
        crates.parseDuration attr.duration = .error reason →
          (stateTimeoutAttrs crates method.attrs).getLast? = some attr →
            Complaint crates method ⟨.literal attr.duration,
              s!"Invalid duration '{attr.duration}': {reason}"⟩
  | returnType {error : Error} : method.IsMarked → method.sig.output.Complaint error →
      Complaint crates method error
  | bothMarks {onAttr timeoutAttr : Attribute} : onAttr ∈ method.attrs →
      onAttr.isIdent "on" = true → timeoutAttr ∈ method.attrs →
        timeoutAttr.isIdent "on_timeout" = true →
          Complaint crates method ⟨.ident method.sig.ident,
            "Handler cannot use both #[on(...)] and #[on_timeout]; split into separate methods"⟩

section Methods

variable {crates : Crates} {method : ImplItemFn} {attrs : List Attribute} {scan : AttrScan}

/-- What a scan of the first attributes has collected. -/
theorem scanOf_prefix (scanned : attrs.foldlM (scanAttr crates method) {} = .ok scan) :
    ScanOf crates method attrs scan :=
  foldlM_invariant (ScanOf crates method) scanned
    ⟨rfl, List.nodup_nil, by simp [onAttrs], fun _ => rfl, rfl, rfl⟩
    fun _ _ _ _ previous step => previous.scanAttr step

theorem mem_onAttrs {attr : Attribute} {onAttr : OnAttr} (attrMem : attr ∈ attrs)
    (isOn : attr.isIdent "on" = true) (parsed : crates.onAttrFromMeta attr = .ok onAttr) :
    onAttr ∈ onAttrs crates attrs :=
  List.mem_filterMap.mpr ⟨attr, attrMem, by simp [isOn, parsed, Except.toOption]⟩

theorem scanAttrs_complaint :
    FailsWithin (method.Complaint crates) (scanAttrs crates method) := by
  apply FailsWithin.foldlM_prefix
  intro before attr after scan split scanned
  have scanOf := scanOf_prefix scanned
  have attrMem : attr ∈ method.attrs := by simp [split]
  unfold scanAttr
  split
  next isOn =>
    apply FailsWithin.bind
    · exact fun error failed => .onAttr attrMem isOn failed
    · intro onAttr parsed
      split
      next repeated =>
        rw [scanOf.sourceStates_eq] at repeated
        obtain ⟨earlier, earlierMem, sameState⟩ := List.mem_map.mp repeated
        exact failsWithin_error.mpr (.duplicateSource split isOn parsed earlierMem sameState)
      next =>
        split
        next existing found =>
          split
          next differs =>
            have declared : onAttrs crates before ≠ [] := fun none => by
              simp [scanOf.event_none none] at found
            obtain ⟨first, firstMem⟩ := List.exists_mem_of_ne_nil _ declared
            have firstEvent := scanOf.event_eq first firstMem
            rw [found] at firstEvent
            obtain rfl := Option.some.inj firstEvent
            have earlier : first ∈ onAttrs crates method.attrs := by
              rw [split, onAttrs_append]
              exact List.mem_append_left _ firstMem
            exact failsWithin_error.mpr
              (.differentEvents earlier (mem_onAttrs attrMem isOn parsed) differs)
          next => exact failsWithin_ok _
        next => exact failsWithin_ok _
  next =>
    split
    next => exact failsWithin_ok _
    next =>
      split
      next isStateTimeout =>
        apply FailsWithin.bind
        · exact fun error failed => .stateTimeoutAttr attrMem isStateTimeout failed
        · exact fun _ _ => failsWithin_ok _
      next => exact failsWithin_ok _

/-- A scan has found something to handle on marked methods only. -/
theorem isMarked_of_scan (scanned : scanAttrs crates method = .ok scan) :
    (scan.event.isSome → ∃ attr ∈ method.attrs, attr.isIdent "on" = true) ∧
      (scan.isTimeoutHandler = true → ∃ attr ∈ method.attrs, attr.isIdent "on_timeout" = true) := by
  have scanOf := scanAttrs_scanOf scanned
  constructor
  · intro isEvent
    have declared : onAttrs crates method.attrs ≠ [] := fun none => by
      simp [scanOf.event_none none] at isEvent
    obtain ⟨onAttr, onAttrMem⟩ := List.exists_mem_of_ne_nil _ declared
    obtain ⟨attr, attrMem, found⟩ := List.mem_filterMap.mp onAttrMem
    refine ⟨attr, attrMem, ?_⟩
    by_contra notOn
    simp [notOn] at found
  · intro isTimeout
    rw [scanOf.isTimeoutHandler_eq] at isTimeout
    simpa using isTimeout

theorem Handler.parse_complaint :
    FailsWithin (method.Complaint crates) (Handler.parse crates method) := by
  unfold Handler.parse
  split
  next notAsync => exact failsWithin_error.mpr (.notAsync notAsync)
  next =>
    apply scanAttrs_complaint.bind
    intro scan scanned
    have scanOf := scanAttrs_scanOf scanned
    obtain ⟨onOf, onTimeoutOf⟩ := isMarked_of_scan scanned
    have timeout : FailsWithin (method.Complaint crates)
        (parseTimeout crates scan.stateTimeoutAttr) := by
      rw [scanOf.stateTimeoutAttr_eq]
      unfold parseTimeout
      split
      next attr isLast =>
        split
        next => exact failsWithin_ok _
        next reason failed =>
          exact failsWithin_error.mpr
            (.duration (List.mem_of_getLast? isLast) failed isLast)
      next => exact failsWithin_ok _
    apply timeout.bind
    intro duration _
    have returned : FailsWithin (method.Complaint crates) (scan.parseReturn method.sig.output) := by
      unfold AttrScan.parseReturn
      split
      next trigger =>
        have isMarked : method.IsMarked := by
          obtain isEvent | isTimeout := Bool.or_eq_true_iff.mp trigger
          · obtain ⟨attr, attrMem, isOn⟩ := onOf isEvent
            exact ⟨attr, attrMem, .inl isOn⟩
          · obtain ⟨attr, attrMem, isOnTimeout⟩ := onTimeoutOf isTimeout
            exact ⟨attr, attrMem, .inr isOnTimeout⟩
        exact fun error failed =>
          .returnType isMarked (parseHandlerReturn_complaint _ error failed)
      next => exact failsWithin_ok _
    apply returned.bind
    rintro ⟨returnKind, returnStates⟩ _
    dsimp only
    split
    next both =>
      obtain ⟨isEvent, isTimeout⟩ := Bool.and_eq_true_iff.mp both
      obtain ⟨onAttr, onMem, isOn⟩ := onOf isEvent
      obtain ⟨timeoutAttr, timeoutMem, isOnTimeout⟩ := onTimeoutOf isTimeout
      exact failsWithin_error.mpr (.bothMarks onMem isOn timeoutMem isOnTimeout)
    next => exact failsWithin_ok _

end Methods

/-! ## The block -/

/-- What is wrong with a block. -/
inductive Complaint (crates : Crates) (args : FsmArgs) (block : ItemImpl) : Error → Prop
  | typeName {qself : Option String} {leadingColon : Bool} :
      block.selfTy = .path qself leadingColon [] →
        Complaint crates args block ⟨.type block.selfTy, "Expected FSM type name"⟩
  | typePath {tokens : String} : block.selfTy = .other tokens →
      Complaint crates args block ⟨.type block.selfTy, "Expected type path for FSM"⟩
  | context : (∀ ty, ImplItem.type "Context" ty ∉ block.items) →
      Complaint crates args block ⟨.implBlock, "Missing associated type: type Context = ..."⟩
  | error : (∀ ty, ImplItem.type "Error" ty ∉ block.items) →
      Complaint crates args block ⟨.implBlock, "Missing associated type: type Error = ..."⟩
  | method {method : ImplItemFn} {error : Error} : method ∈ block.methods →
      method.Complaint crates error → Complaint crates args block error
  | payloads {first second : Handler} {firstEvent secondEvent : Event} :
      block.Declares crates first → block.Declares crates second →
        first.event = some firstEvent → second.event = some secondEvent →
          firstEvent.name = secondEvent.name →
            firstEvent.payloadType ≠ secondEvent.payloadType →
              Complaint crates args block (payloadMismatch crates firstEvent secondEvent)
  | multipleTimeouts {method : ImplItemFn} : method ∈ block.methods →
      method.isOnTimeout = true → 1 < block.methods.countP ImplItemFn.isOnTimeout →
        Complaint crates args block
          ⟨.ident method.sig.ident, "Multiple #[on_timeout] handlers are not allowed"⟩
  | unhandledTimeout {handler : Handler} : block.Declares crates handler →
      handler.timeout.isSome → block.methods.any ImplItemFn.isOnTimeout = false →
        Complaint crates args block
          ⟨.ident handler.method.sig.ident, "#[state_timeout] requires an #[on_timeout] handler"⟩
  | durations {first second : Handler} {firstDuration secondDuration : Duration}
      {state : Ident} : block.Declares crates first → block.Declares crates second →
        first.timeout = some firstDuration → second.timeout = some secondDuration →
          state ∈ first.targets → state ∈ second.targets → firstDuration ≠ secondDuration →
            Complaint crates args block
              (timeoutConflict ⟨state, firstDuration, first.method.sig.ident⟩
                ⟨state, secondDuration, second.method.sig.ident⟩)
  | unreachable {state : Ident} : Named crates args block state →
      ¬ Relation.ReflTransGen (Leads crates block) args.initial state →
        Complaint crates args block ⟨.ident state,
          s!"State '{state}' is unreachable from initial state '{args.initial}'"⟩

section Block

variable {crates : Crates} {args : FsmArgs} {block : ItemImpl} {fsm : FsmStructure}

theorem fsmTypeName_complaint :
    FailsWithin (Complaint crates args block) (fsmTypeName block.selfTy) := by
  unfold fsmTypeName
  split
  next qself leadingColon segments selfTy =>
    split
    next => exact failsWithin_ok _
    next noLast =>
      rw [List.getLast?_eq_none_iff] at noLast
      subst noLast
      exact failsWithin_error.mpr (.typeName selfTy)
  next tokens selfTy => exact failsWithin_error.mpr (.typePath selfTy)

/-- A block without an associated type of the name has none to give. -/
theorem requireType_complaint {name : Ident} {missing : String}
    (complaint : (∀ ty, ImplItem.type name ty ∉ block.items) →
      Complaint crates args block ⟨.implBlock, missing⟩) :
    FailsWithin (Complaint crates args block)
      (requireType (block.associatedType name) missing) := by
  unfold requireType
  split
  next => exact failsWithin_ok _
  next notFound =>
    refine failsWithin_error.mpr (complaint fun ty declared => ?_)
    obtain ⟨found, foundEq⟩ := ItemImpl.associatedType_isSome ⟨ty, declared⟩
    rw [notFound] at foundEq
    cases foundEq

/-- The loop over the methods complains about a method, or about the payloads
of two of them. -/
theorem collect_complaint :
    FailsWithin (Complaint crates args block)
      (block.methods.foldlM (fun parsed method =>
        Handler.parse crates method >>= collectHandler crates parsed)
        { stateNames := [args.initial] }) := by
  apply FailsWithin.foldlM_prefix
  intro before method after parsed split collected
  have methodMem : method ∈ block.methods := by simp [split]
  obtain ⟨handlers, converted, -, rfl⟩ := collect_eq_ok_iff.mp collected
  apply FailsWithin.bind
  · exact fun error failed => .method methodMem (Handler.parse_complaint error failed)
  · intro handler handlerParsed
    unfold collectHandler
    apply FailsWithin.bind
    · unfold collectEvent
      split
      next event eventEq =>
        intro error failed
        obtain ⟨existing, existingMem, sameName, differs, rfl⟩ :=
          FirstSeen.check_conflicting error failed
        obtain none | declared := FirstSeen.mem_of_mem_recordAll existingMem
        · exact absurd none List.not_mem_nil
        · obtain ⟨earlier, earlierMem, earlierEvent⟩ := List.mem_filterMap.mp declared
          obtain ⟨earlierMethod, inBefore, earlierParsed⟩ :=
            (mem_mapM_iff converted).mp earlierMem
          have earlierDeclared : earlierMethod ∈ block.methods := by simp [split, inBefore]
          exact .payloads ⟨earlierMethod, earlierDeclared, earlierParsed⟩
            ⟨method, methodMem, handlerParsed⟩ earlierEvent eventEq sameName differs
      next => exact failsWithin_ok _
    · exact fun _ _ => failsWithin_ok _

theorem ParsedBlock.any_isOnTimeout (parsed : ParsedBlock crates args block fsm) :
    block.methods.any ImplItemFn.isOnTimeout = fsm.handlers.any Handler.isTimeoutHandler := by
  have counted := countP_isTimeoutHandler parsed.handlers_parsed
  rw [Bool.eq_iff_iff, List.any_eq_true, List.any_eq_true, ← List.countP_pos_iff,
    ← List.countP_pos_iff, counted]

theorem ParsedBlock.validateTimeoutContract_complaint
    (parsed : ParsedBlock crates args block fsm) :
    FailsWithin (Complaint crates args block) fsm.validateTimeoutContract := by
  unfold FsmStructure.validateTimeoutContract
  split
  next => exact failsWithin_ok _
  next => exact failsWithin_ok _
  next first second rest several =>
    have secondMem : second ∈ fsm.handlers.filter fun handler => handler.isTimeoutHandler := by
      simp [several]
    obtain ⟨handlerMem, isTimeout⟩ := List.mem_filter.mp secondMem
    obtain ⟨method, methodMem, methodParsed⟩ := parsed.mem_handlers_iff.mp handlerMem
    have parsedFrom := Handler.parse_parsedFrom methodParsed
    refine failsWithin_error.mpr ?_
    rw [parsedFrom.method_eq]
    apply Complaint.multipleTimeouts methodMem
    · exact parsedFrom.isTimeoutHandler_eq.symm.trans isTimeout
    · rw [← countP_isTimeoutHandler parsed.handlers_parsed, List.countP_eq_length_filter, several]
      simp

theorem ParsedBlock.identifyStatesWithTimeout_complaint
    (parsed : ParsedBlock crates args block fsm) :
    FailsWithin (Complaint crates args block)
      (fsm.identifyStatesWithTimeout (fsm.handlers.any Handler.isTimeoutHandler)) := by
  apply FailsWithin.foldlM
  intro statesWithTimeout handler handlerMem
  split
  next timed =>
    split
    next => exact failsWithin_ok _
    next unhandled =>
      refine failsWithin_error.mpr
        (.unhandledTimeout (parsed.mem_handlers_iff_declares.mp handlerMem) timed ?_)
      rw [parsed.any_isOnTimeout]
      exact Bool.eq_false_iff.mpr unhandled
  next => exact failsWithin_ok _

theorem ParsedBlock.validateStateTimeoutConsistency_complaint
    (parsed : ParsedBlock crates args block fsm) :
    FailsWithin (Complaint crates args block) fsm.validateStateTimeoutConsistency := by
  unfold FsmStructure.validateStateTimeoutConsistency
  rw [← foldlM_flatMap]
  intro error failed
  obtain ⟨⟨state, firstDuration, firstName⟩, firstMem, ⟨otherState, secondDuration, secondName⟩,
    secondMem, sameState, differs, rfl⟩ := FirstSeen.foldlM_check_conflicting error failed
  obtain rfl : state = otherState := sameState
  obtain ⟨first, firstHandler, firstTimeout, firstTarget, rfl⟩ :=
    FsmStructure.mem_timeoutDeclarations.mp firstMem
  obtain ⟨second, secondHandler, secondTimeout, secondTarget, rfl⟩ :=
    FsmStructure.mem_timeoutDeclarations.mp secondMem
  exact .durations (parsed.mem_handlers_iff_declares.mp firstHandler)
    (parsed.mem_handlers_iff_declares.mp secondHandler) firstTimeout secondTimeout
    firstTarget secondTarget differs

theorem ParsedBlock.checkReachability_complaint (parsed : ParsedBlock crates args block fsm)
    {graph : DiGraph Ident} {initialNode : Nat} {nodes : NodeMap}
    (graphOf : fsm.GraphOf graph initialNode nodes) :
    FailsWithin (Complaint crates args block)
      (fsm.checkReachability crates graph initialNode nodes) := by
  have initialLt : initialNode < graph.nodes.length := by
    rw [graphOf.initialNode_eq, graphOf.nodes_eq]
    exact List.idxOf_lt_length_of_mem parsed.closed.initialState_mem
  unfold FsmStructure.checkReachability
  dsimp only
  split
  next name node missing =>
    have missed : node ∉ crates.dfs graph initialNode := by
      simpa using List.find?_some missing
    obtain ⟨nameMem, nodeEq⟩ := (graphOf.mem_nodes _).mp (List.mem_of_find?_eq_some missing)
    dsimp only at nameMem nodeEq
    rw [nodeEq, crates.mem_dfs_iff graph initialNode _ initialLt, graphOf.reaches_iff parsed.closed,
      FsmStructure.Reachable, parsed.edge_eq_leads, parsed.initialState_eq] at missed
    rw [parsed.initialState_eq]
    exact failsWithin_error.mpr
      (.unreachable (parsed.mem_stateNames_iff_named.mp nameMem) missed)
  next => exact failsWithin_ok _

theorem ParsedBlock.validate_complaint (parsed : ParsedBlock crates args block fsm) :
    FailsWithin (Complaint crates args block) (fsm.validate crates) := by
  have closed := parsed.closed
  have graph : FailsWithin (Complaint crates args block) fsm.validatedGraph := by
    unfold FsmStructure.validatedGraph
    apply parsed.validateTimeoutContract_complaint.bind
    intro hasTimeoutHandler contract
    obtain ⟨-, rfl⟩ := FsmStructure.validateTimeoutContract_eq_ok_iff.mp contract
    apply parsed.identifyStatesWithTimeout_complaint.bind
    intro statesWithTimeout identified
    apply parsed.validateStateTimeoutConsistency_complaint.bind
    intro timeoutByState _
    -- from here on nothing is missing from the map of nodes
    dsimp only
    rw [closed.lookupNode_initialState, ok_bind, closed.buildReachabilityGraph_eq_ok
      fun state => FsmStructure.mem_identifyStatesWithTimeout identified, ok_bind]
    exact failsWithin_ok _
  apply graph.bind
  rintro ⟨graph, initialNode, nodes⟩ built
  obtain ⟨-, graphOf⟩ := (FsmStructure.validatedGraph_spec closed).2 _ _ _ built
  exact parsed.checkReachability_complaint graphOf

theorem FsmStructure.parse_complaint :
    FailsWithin (Complaint crates args block) (FsmStructure.parse crates args block) := by
  unfold FsmStructure.parse
  apply fsmTypeName_complaint.bind
  intro fsmName _
  apply (requireType_complaint .context).bind
  intro contextType _
  apply (requireType_complaint .error).bind
  intro errorType _
  apply collect_complaint.bind
  intro parsed collected
  apply (parsedBlock_of_collected collected fsmName contextType errorType).validate_complaint.bind
  exact fun _ _ => failsWithin_ok _

end Block

end TokioFsm
