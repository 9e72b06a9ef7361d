import TokioFsm.Acceptance

/-!
# Internal errors

Six branches of the macro report that one of its passes has not done what a
later pass relies on: a name that has no node in the graph, or a handler
without a return kind.  No input takes any of them.  The loop over the methods
lists every name that is looked up among the states, and what handles
something has had its return type parsed.
-/

namespace TokioFsm

open Fallible

/-- The messages of the branches that should never be taken. -/
def internalErrors : List String := [
  "Initial state not found",
  "Target state not found",
  "Source state not found",
  "Internal error: timeout source state not found",
  "Internal macro error: missing parsed return kind for event handler",
  "Internal macro error: missing parsed return kind for timeout handler"]

/-- The error does not come from one of these branches. -/
def Error.Ordinary (error : Error) : Prop :=
  error.message ∉ internalErrors

example (handler : Handler) : (missingReturnKind handler "timeout").message ∈ internalErrors :=
  List.mem_of_getElem? (i := 5) rfl

/-! ## Telling messages apart -/

/-- The first three characters of a message. -/
def heading (message : String) : List Char :=
  message.toList.take 3

def internalHeadings : List (List Char) := [
  ['I', 'n', 'i'],
  ['T', 'a', 'r'],
  ['S', 'o', 'u'],
  ['I', 'n', 't']]

theorem heading_internal : ∀ message ∈ internalErrors, heading message ∈ internalHeadings := by
  decide

theorem heading_append {first : String} (rest : String) (long : 3 ≤ first.toList.length) :
    heading (first ++ rest) = heading first := by
  simp [heading, List.take_append_of_le_length long]

/-- A message that starts unlike the internal ones is ordinary. -/
theorem ordinary_of_heading {spanned : Spanned} {message : String}
    (different : heading message ∉ internalHeadings) : Error.Ordinary ⟨spanned, message⟩ :=
  fun internal => different (heading_internal message internal)

theorem ordinary_append {spanned : Spanned} {first rest : String}
    (long : 3 ≤ first.toList.length) (different : heading first ∉ internalHeadings) :
    Error.Ordinary ⟨spanned, first ++ rest⟩ := by
  apply ordinary_of_heading
  rw [heading_append rest long]
  exact different

theorem failsWithin_message {Output : Type} {spanned : Spanned} {message : String}
    (different : heading message ∉ internalHeadings) :
    FailsWithin Error.Ordinary (.error ⟨spanned, message⟩ : Except Error Output) :=
  failsWithin_error.mpr (ordinary_of_heading different)

/-! ## The errors of parsing a method -/

theorem extractTransitionState_ordinary (ty : SynType) :
    FailsWithin Error.Ordinary (extractTransitionState ty) := by
  have unexpected : FailsWithin Error.Ordinary
      (.error ⟨.type ty, "Expected Transition<NextState>"⟩ : Except Error State) :=
    failsWithin_message (by decide)
  unfold extractTransitionState
  dsimp only
  split
  next => exact unexpected
  next segments =>
    split
    next => exact unexpected
    next segment _ =>
      split
      next => exact unexpected
      next =>
        split
        next args _ =>
          split
          next innerSegments _ =>
            split
            next stateSegment _ => exact failsWithin_ok _
            next => exact unexpected
          next => exact unexpected
        next => exact unexpected

theorem parseResultReturn_ordinary (segment : PathSegment) (ty : SynType) :
    FailsWithin Error.Ordinary (parseResultReturn segment ty) := by
  have malformed (ty : SynType) : FailsWithin Error.Ordinary
      (.error (resultReturnError ty) : Except Error (Option HandlerReturnKind × List State)) :=
    failsWithin_message (by decide)
  unfold parseResultReturn
  split
  next args _ =>
    split
    next okType errType _ =>
      split
      next => exact malformed okType
      next okState _ =>
        split
        next => exact failsWithin_ok _
        next => exact failsWithin_ok _
    next => exact malformed ty
  next => exact malformed ty

theorem parseHandlerReturn_ordinary (output : ReturnType) :
    FailsWithin Error.Ordinary (parseHandlerReturn output) := by
  have malformed (spanned : Spanned) : FailsWithin Error.Ordinary
      (.error (handlerReturnError spanned) :
        Except Error (Option HandlerReturnKind × List State)) :=
    failsWithin_message (by decide)
  unfold parseHandlerReturn
  split
  next ty =>
    unfold parseReturnKind
    split
    next => exact malformed _
    next segments =>
      split
      next => exact malformed _
      next segment _ =>
        split
        next =>
          apply (extractTransitionState_ordinary _).bind
          intro state _
          exact failsWithin_ok _
        next =>
          split
          next => exact parseResultReturn_ordinary segment _
          next => exact malformed _
  next => exact malformed _

theorem parseTimeout_ordinary (crates : Crates) (attr : Option StateTimeoutAttr) :
    FailsWithin Error.Ordinary (parseTimeout crates attr) := by
  unfold parseTimeout
  split
  next attr =>
    split
    next => exact failsWithin_ok _
    next reason _ =>
      simp only [failsWithin_error, String.append_assoc]
      exact ordinary_append (by decide) (by decide)
  next => exact failsWithin_ok _

section Parsing

variable {crates : Crates}
  (onAttrErrors : ∀ attr, FailsWithin Error.Ordinary (crates.onAttrFromMeta attr))
  (stateTimeoutAttrErrors :
    ∀ attr, FailsWithin Error.Ordinary (crates.stateTimeoutAttrFromMeta attr))

include onAttrErrors stateTimeoutAttrErrors

theorem scanAttr_ordinary (method : ImplItemFn) (scan : AttrScan) (attr : Attribute) :
    FailsWithin Error.Ordinary (scanAttr crates method scan attr) := by
  unfold scanAttr
  split
  next =>
    apply (onAttrErrors attr).bind
    intro onAttr _
    split
    next =>
      simp only [failsWithin_error, String.append_assoc]
      exact ordinary_append (by decide) (by decide)
    next =>
      split
      next existing _ =>
        split
        next =>
          simp only [failsWithin_error, String.append_assoc]
          exact ordinary_append (by decide) (by decide)
        next => exact failsWithin_ok _
      next => exact failsWithin_ok _
  next =>
    split
    next => exact failsWithin_ok _
    next =>
      split
      next =>
        apply (stateTimeoutAttrErrors attr).bind
        intro stateTimeoutAttr _
        exact failsWithin_ok _
      next => exact failsWithin_ok _

theorem Handler.parse_ordinary (method : ImplItemFn) :
    FailsWithin Error.Ordinary (Handler.parse crates method) := by
  unfold Handler.parse
  split
  next => exact failsWithin_message (by decide)
  next =>
    have scanned : FailsWithin Error.Ordinary (scanAttrs crates method) :=
      FailsWithin.foldlM fun scan attr _ =>
        scanAttr_ordinary onAttrErrors stateTimeoutAttrErrors method scan attr
    apply scanned.bind
    intro scan _
    apply (parseTimeout_ordinary crates scan.stateTimeoutAttr).bind
    intro timeout _
    have returned : FailsWithin Error.Ordinary (scan.parseReturn method.sig.output) := by
      unfold AttrScan.parseReturn
      split
      next => exact parseHandlerReturn_ordinary method.sig.output
      next => exact failsWithin_ok _
    apply returned.bind
    rintro ⟨returnKind, returnStates⟩ _
    dsimp only
    split
    next => exact failsWithin_message (by decide)
    next => exact failsWithin_ok _

end Parsing

theorem collectHandler_ordinary (crates : Crates) (parsed : ParseState) (handler : Handler) :
    FailsWithin Error.Ordinary (collectHandler crates parsed handler) := by
  unfold collectHandler
  have collected : FailsWithin Error.Ordinary
      (collectEvent crates parsed.events handler.event) := by
    unfold collectEvent
    split
    next event _ =>
      apply FirstSeen.check_failsWithin
      intro existing event
      unfold payloadMismatch
      simp only [String.append_assoc]
      exact ordinary_append (by decide) (by decide)
    next => exact failsWithin_ok _
  apply collected.bind
  intro events _
  exact failsWithin_ok _

/-! ## The errors of validation -/

namespace FsmStructure

theorem validateTimeoutContract_ordinary (fsm : FsmStructure) :
    FailsWithin Error.Ordinary fsm.validateTimeoutContract := by
  unfold validateTimeoutContract
  split
  next => exact failsWithin_ok _
  next => exact failsWithin_ok _
  next => exact failsWithin_message (by decide)

theorem identifyStatesWithTimeout_ordinary (fsm : FsmStructure) (hasTimeoutHandler : Bool) :
    FailsWithin Error.Ordinary (fsm.identifyStatesWithTimeout hasTimeoutHandler) := by
  apply FailsWithin.foldlM
  intro statesWithTimeout handler _
  split
  next =>
    split
    next => exact failsWithin_ok _
    next => exact failsWithin_message (by decide)
  next => exact failsWithin_ok _

theorem validateStateTimeoutConsistency_ordinary (fsm : FsmStructure) :
    FailsWithin Error.Ordinary fsm.validateStateTimeoutConsistency := by
  apply FailsWithin.foldlM
  intro timeoutByState handler _
  apply FailsWithin.foldlM
  intro timeoutByState declaration _
  apply FirstSeen.check_failsWithin
  intro existing conflicting
  unfold timeoutConflict
  simp only [String.append_assoc]
  exact ordinary_append (by decide) (by decide)

theorem checkReachability_ordinary (fsm : FsmStructure) (crates : Crates)
    (graph : GraphSearch.DiGraph Ident) (initialNode : Nat) (nodes : NodeMap) :
    FailsWithin Error.Ordinary (fsm.checkReachability crates graph initialNode nodes) := by
  unfold checkReachability
  dsimp only
  split
  next =>
    simp only [failsWithin_error, String.append_assoc]
    exact ordinary_append (by decide) (by decide)
  next => exact failsWithin_ok _

/-- In a closed structure only the checks can fail, never a lookup. -/
theorem validate_ordinary {fsm : FsmStructure} (closed : fsm.Closed) (crates : Crates) :
    FailsWithin Error.Ordinary (fsm.validate crates) := by
  have graph : FailsWithin Error.Ordinary fsm.validatedGraph := by
    unfold validatedGraph
    apply fsm.validateTimeoutContract_ordinary.bind
    intro hasTimeoutHandler _
    apply (fsm.identifyStatesWithTimeout_ordinary hasTimeoutHandler).bind
    intro statesWithTimeout identified
    apply fsm.validateStateTimeoutConsistency_ordinary.bind
    intro timeoutByState _
    dsimp only
    rw [closed.lookupNode_initialState, ok_bind, closed.buildReachabilityGraph_eq_ok
      fun state => mem_identifyStatesWithTimeout identified, ok_bind]
    exact failsWithin_ok _
  apply graph.bind
  rintro ⟨graph, initialNode, nodes⟩ _
  exact fsm.checkReachability_ordinary crates graph initialNode nodes

/-- Every name that validation looks up has a node, and every handler that is
rendered has a return kind. -/
structure LookupsSucceed (fsm : FsmStructure) : Prop where
  initialState_found : ∃ node, fsm.addStateNodes.2.get fsm.initialState = some node
  targets_found : ∀ handler ∈ fsm.handlers, ∀ target ∈ handler.targets,
    ∃ node, fsm.addStateNodes.2.get target = some node
  sourceStates_found : ∀ handler ∈ fsm.handlers, ∀ source ∈ handler.sourceStates,
    ∃ node, fsm.addStateNodes.2.get source = some node
  timeoutSources_found : ∀ hasTimeoutHandler statesWithTimeout,
    fsm.identifyStatesWithTimeout hasTimeoutHandler = .ok statesWithTimeout →
      ∀ source ∈ statesWithTimeout, ∃ node, fsm.addStateNodes.2.get source = some node
  returnKind_found : ∀ handler ∈ fsm.handlers,
    handler.event.isSome ∨ handler.isTimeoutHandler = true →
      ∃ returnKind, handler.returnKind = some returnKind

theorem Closed.lookupsSucceed {fsm : FsmStructure} (closed : fsm.Closed)
    (wellFormed : ∀ handler ∈ fsm.handlers, handler.WellFormed) : fsm.LookupsSucceed where
  initialState_found := ⟨_, closed.get_eq closed.initialState_mem⟩
  targets_found handler handlerMem target targetMem :=
    ⟨_, closed.get_eq (closed.targets_mem handler handlerMem target targetMem)⟩
  sourceStates_found handler handlerMem source sourceMem :=
    ⟨_, closed.get_eq (closed.sourceStates_mem handler handlerMem source sourceMem)⟩
  timeoutSources_found hasTimeoutHandler statesWithTimeout identified source sourceMem :=
    ⟨_, closed.get_eq
      (((mem_identifyStatesWithTimeout identified).mp sourceMem).mem_stateNames closed)⟩
  returnKind_found handler handlerMem trigger := by
    obtain ⟨returnKind, found, -⟩ := (wellFormed handler handlerMem).returnKind_of_trigger trigger
    exact ⟨returnKind, found⟩

end FsmStructure

/-! ## The errors of the macro -/

theorem fsmTypeName_ordinary (selfTy : SynType) :
    FailsWithin Error.Ordinary (fsmTypeName selfTy) := by
  unfold fsmTypeName
  split
  next =>
    split
    next => exact failsWithin_ok _
    next => exact failsWithin_message (by decide)
  next => exact failsWithin_message (by decide)

theorem requireType_ordinary (found : Option SynType) {missing : String}
    (different : heading missing ∉ internalHeadings) :
    FailsWithin Error.Ordinary (requireType found missing) := by
  unfold requireType
  split
  next => exact failsWithin_ok _
  next => exact failsWithin_message different

section Collected

variable {crates : Crates} {args : FsmArgs} {block : ItemImpl} {parsed : ParseState}

/-- Whatever the loop over the methods returns makes a structure that contains
every name its handlers mention, whether or not validation accepts it. -/
theorem parsedBlock_of_collected
    (collected : block.methods.foldlM (fun parsed method =>
      Handler.parse crates method >>= collectHandler crates parsed)
      { stateNames := [args.initial] } = .ok parsed)
    (fsmName : Ident) (contextType errorType : SynType) :
    ParsedBlock crates args block
      (assembleStructure args fsmName contextType errorType parsed) := by
  obtain ⟨handlers, converted, agree, rfl⟩ := collect_eq_ok_iff.mp collected
  exact parsedBlock_structureOf converted agree

theorem FsmStructure.parse_ordinary
    (onAttrErrors : ∀ attr, FailsWithin Error.Ordinary (crates.onAttrFromMeta attr))
    (stateTimeoutAttrErrors :
      ∀ attr, FailsWithin Error.Ordinary (crates.stateTimeoutAttrFromMeta attr)) :
    FailsWithin Error.Ordinary (FsmStructure.parse crates args block) := by
  unfold FsmStructure.parse
  apply (fsmTypeName_ordinary block.selfTy).bind
  intro fsmName _
  apply (requireType_ordinary _ (by decide)).bind
  intro contextType _
  apply (requireType_ordinary _ (by decide)).bind
  intro errorType _
  have loop : FailsWithin Error.Ordinary (block.methods.foldlM (fun parsed method =>
      Handler.parse crates method >>= collectHandler crates parsed)
      { stateNames := [args.initial] }) := by
    apply FailsWithin.foldlM
    intro parsed method _
    apply (Handler.parse_ordinary onAttrErrors stateTimeoutAttrErrors method).bind
    intro handler _
    exact collectHandler_ordinary crates parsed handler
  apply loop.bind
  intro parsed collected
  have closed := (parsedBlock_of_collected collected fsmName contextType errorType).closed
  apply (validate_ordinary closed crates).bind
  rintro ⟨⟩ _
  exact failsWithin_ok _

end Collected

/-- The macro never reports an internal error, as long as the attribute parsers
of other crates do not use its very words; and whatever the loop over the
methods collects, the lookups made in it succeed. -/
theorem internal_errors_unreachable (crates : Crates) (args : FsmArgs) (block : ItemImpl)
    (onAttrErrors : ∀ attr error,
      crates.onAttrFromMeta attr = .error error → error.message ∉ internalErrors)
    (stateTimeoutAttrErrors : ∀ attr error,
      crates.stateTimeoutAttrFromMeta attr = .error error → error.message ∉ internalErrors) :
    (∀ error, generateFsm crates args block = .error error →
      error.message ∉ internalErrors) ∧
    ∀ parsed fsmName contextType errorType,
      block.methods.foldlM (fun parsed method =>
        Handler.parse crates method >>= collectHandler crates parsed)
        { stateNames := [args.initial] } = .ok parsed →
          (assembleStructure args fsmName contextType errorType parsed).LookupsSucceed := by
  constructor
  · have generated : FailsWithin Error.Ordinary (generateFsm crates args block) := by
      apply (FsmStructure.parse_ordinary onAttrErrors stateTimeoutAttrErrors).bind
      intro fsm parsed
      obtain ⟨machine, rfl⟩ := exists_acceptedFsm parsed
      rw [machine.generated]
      exact failsWithin_ok machine.program
    exact generated
  · intro parsed fsmName contextType errorType collected
    have parsedBlock := parsedBlock_of_collected collected fsmName contextType errorType
    exact parsedBlock.closed.lookupsSucceed fun handler => parsedBlock.wellFormed

/-- An initial state that leads nowhere. -/
def pausedArgs : FsmArgs :=
  { workerArgs with initial := "Paused" }

theorem internal_errors_unreachable_worker :
    ∃ error, generateFsm sampleCrates pausedArgs workerBlock = .error error ∧
      error.message ∉ internalErrors := by
  have missingField : "Missing field" ∉ internalErrors := by decide
  have rejected : ∃ error, generateFsm sampleCrates pausedArgs workerBlock = .error error :=
    ⟨_, rfl⟩
  obtain ⟨error, failed⟩ := rejected
  refine ⟨error, failed, (internal_errors_unreachable sampleCrates pausedArgs workerBlock
    ?_ ?_).1 error failed⟩
  · intro attr error failed
    dsimp only [sampleCrates] at failed
    split at failed
    · cases failed
    · cases failed
      exact missingField
  · intro attr error failed
    dsimp only [sampleCrates] at failed
    split at failed
    · cases failed
    · cases failed
      exact missingField

end TokioFsm
