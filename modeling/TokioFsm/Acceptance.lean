import TokioFsm.CodeGeneration

/-!
# Which blocks are accepted

The passes of the macro compare each declaration with those seen before it.
`Acceptable` states what they establish together without an order of
declaration, and the main theorem says that parsing followed by generation
succeeds exactly on acceptable blocks.
-/

namespace TokioFsm

open Fallible GraphSearch

/-- Some method of the block parses to the handler. -/
def ItemImpl.Declares (crates : Crates) (block : ItemImpl) (handler : Handler) : Prop :=
  ∃ method ∈ block.methods, Handler.parse crates method = .ok handler

def ImplItemFn.isOnTimeout (method : ImplItemFn) : Bool :=
  method.attrs.any fun attr => attr.isIdent "on_timeout"

/-- One state leads to another through an event handler, or through the
timeout handler out of a state that some method returns to with a timeout. -/
inductive Leads (crates : Crates) (block : ItemImpl) : Ident → Ident → Prop
  | event {handler : Handler} {source target : Ident} :
      block.Declares crates handler → handler.event.isSome →
        source ∈ handler.sourceStates → target ∈ handler.targets →
          Leads crates block source target
  | timeout {timed onTimeout : Handler} {source target : Ident} :
      block.Declares crates timed → timed.timeout.isSome → source ∈ timed.targets →
        block.Declares crates onTimeout → onTimeout.isTimeoutHandler = true →
          target ∈ onTimeout.targets → Leads crates block source target

/-- The state is the initial state, or a method names it as a source or in its
return type. -/
inductive Named (crates : Crates) (args : FsmArgs) (block : ItemImpl) : Ident → Prop
  | initial : Named crates args block args.initial
  | source {handler : Handler} {state : Ident} :
      block.Declares crates handler → state ∈ handler.sourceStates →
        Named crates args block state
  | target {handler : Handler} {state : Ident} :
      block.Declares crates handler → state ∈ handler.targets →
        Named crates args block state

/-- What the macro demands of a block whose methods all parse. -/
structure Acceptable (crates : Crates) (args : FsmArgs) (block : ItemImpl) : Prop where
  payloads : ∀ first second, block.Declares crates first → block.Declares crates second →
    ∀ firstEvent secondEvent, first.event = some firstEvent →
      second.event = some secondEvent → firstEvent.name = secondEvent.name →
        firstEvent.payloadType = secondEvent.payloadType
  single : block.methods.countP ImplItemFn.isOnTimeout ≤ 1
  handled : (∃ timed, block.Declares crates timed ∧ timed.timeout.isSome) →
    ∃ onTimeout, block.Declares crates onTimeout ∧ onTimeout.isTimeoutHandler = true
  durations : ∀ first second, block.Declares crates first → block.Declares crates second →
    ∀ firstDuration secondDuration, first.timeout = some firstDuration →
      second.timeout = some secondDuration →
        ∀ state, state ∈ first.targets → state ∈ second.targets →
          firstDuration = secondDuration
  connected : ∀ state, Named crates args block state →
    Relation.ReflTransGen (Leads crates block) args.initial state

section Comparison

variable {crates : Crates} {args : FsmArgs} {block : ItemImpl} {fsm : FsmStructure}

theorem ParsedBlock.mem_handlers_iff_declares (parsed : ParsedBlock crates args block fsm)
    {handler : Handler} : handler ∈ fsm.handlers ↔ block.Declares crates handler :=
  parsed.mem_handlers_iff

theorem AcceptedFsm.mem_handlers_iff (machine : AcceptedFsm crates args block)
    {handler : Handler} : handler ∈ machine.fsm.handlers ↔ block.Declares crates handler :=
  machine.parsedBlock.mem_handlers_iff_declares

/-- Counting timeout handlers is counting marked methods. -/
theorem countP_isTimeoutHandler {methods : List ImplItemFn} {handlers : List Handler}
    (converted : methods.mapM (Handler.parse crates) = .ok handlers) :
    handlers.countP Handler.isTimeoutHandler = methods.countP ImplItemFn.isOnTimeout := by
  have pairs := mapM_eq_ok_iff.mp converted
  induction pairs with
  | nil => rfl
  | cons headParsed rest ih =>
      rw [List.countP_cons, List.countP_cons, ih (mapM_eq_ok_iff.mpr rest),
        (Handler.parse_parsedFrom headParsed).isTimeoutHandler_eq]
      rfl

theorem agree_declaredEvents_iff {handlers : List Handler}
    (declares : ∀ handler, handler ∈ handlers ↔ block.Declares crates handler) :
    FirstSeen.Agree Event.name Event.payloadType (declaredEvents handlers) ↔
      ∀ first second, block.Declares crates first → block.Declares crates second →
        ∀ firstEvent secondEvent, first.event = some firstEvent →
          second.event = some secondEvent → firstEvent.name = secondEvent.name →
            firstEvent.payloadType = secondEvent.payloadType := by
  simp only [FirstSeen.Agree, declaredEvents, List.mem_filterMap, declares]
  constructor
  · intro agree first second firstDeclared secondDeclared firstEvent secondEvent
      firstEq secondEq sameName
    exact agree firstEvent ⟨first, firstDeclared, firstEq⟩
      secondEvent ⟨second, secondDeclared, secondEq⟩ sameName
  · rintro payloads firstEvent ⟨first, firstDeclared, firstEq⟩
      secondEvent ⟨second, secondDeclared, secondEq⟩ sameName
    exact payloads first second firstDeclared secondDeclared firstEvent secondEvent
      firstEq secondEq sameName

theorem ParsedBlock.durations_iff (parsed : ParsedBlock crates args block fsm) :
    FirstSeen.Agree TimeoutDeclaration.state TimeoutDeclaration.duration
        fsm.timeoutDeclarations ↔
      ∀ first second, block.Declares crates first → block.Declares crates second →
        ∀ firstDuration secondDuration, first.timeout = some firstDuration →
          second.timeout = some secondDuration →
            ∀ state, state ∈ first.targets → state ∈ second.targets →
              firstDuration = secondDuration := by
  simp only [FsmStructure.agree_timeoutDeclarations_iff, parsed.mem_handlers_iff_declares]
  constructor
  · exact fun durations first second firstDeclared secondDeclared =>
      durations first firstDeclared second secondDeclared
  · exact fun durations first firstDeclared second secondDeclared =>
      durations first second firstDeclared secondDeclared

theorem ParsedBlock.edge_iff_leads (parsed : ParsedBlock crates args block fsm)
    {source target : Ident} : fsm.Edge source target ↔ Leads crates block source target := by
  constructor
  · intro edge
    cases edge with
    | event handlerMem isEvent sourceMem targetMem =>
        refine .event (parsed.mem_handlers_iff_declares.mp handlerMem) ?_ sourceMem targetMem
        rw [Option.isSome_iff_ne_none]
        intro noEvent
        have noSources := (parsed.wellFormed handlerMem).sourceStates_eq_nil_iff.mpr noEvent
        rw [noSources] at sourceMem
        exact List.not_mem_nil sourceMem
    | timeout handlerMem isTimeout timed targetMem =>
        rcases timed with ⟨timedHandler, timedMem, hasTimeout, sourceMem⟩
        exact .timeout (parsed.mem_handlers_iff_declares.mp timedMem) hasTimeout sourceMem
          (parsed.mem_handlers_iff_declares.mp handlerMem) isTimeout targetMem
  · intro leads
    cases leads with
    | event declared isEvent sourceMem targetMem =>
        have handlerMem := parsed.mem_handlers_iff_declares.mpr declared
        exact .event handlerMem ((parsed.wellFormed handlerMem).exclusive isEvent)
          sourceMem targetMem
    | timeout timedDeclared hasTimeout sourceMem declared isTimeout targetMem =>
        exact .timeout (parsed.mem_handlers_iff_declares.mpr declared) isTimeout
          ⟨_, parsed.mem_handlers_iff_declares.mpr timedDeclared, hasTimeout, sourceMem⟩ targetMem

theorem ParsedBlock.edge_eq_leads (parsed : ParsedBlock crates args block fsm) :
    fsm.Edge = Leads crates block := by
  funext source target
  exact propext parsed.edge_iff_leads

theorem ParsedBlock.mem_stateNames_iff_named (parsed : ParsedBlock crates args block fsm)
    {state : Ident} : state ∈ fsm.stateNames ↔ Named crates args block state := by
  rw [parsed.stateNames_eq, mem_statesOf]
  constructor
  · rintro (rfl | ⟨handler, handlerMem, targetMem | sourceMem⟩)
    · exact .initial
    · exact .target (parsed.mem_handlers_iff_declares.mp handlerMem) targetMem
    · exact .source (parsed.mem_handlers_iff_declares.mp handlerMem) sourceMem
  · intro named
    cases named with
    | initial => exact Or.inl rfl
    | source declared sourceMem =>
        exact Or.inr ⟨_, parsed.mem_handlers_iff_declares.mpr declared, Or.inr sourceMem⟩
    | target declared targetMem =>
        exact Or.inr ⟨_, parsed.mem_handlers_iff_declares.mpr declared, Or.inl targetMem⟩

theorem ParsedBlock.connected_iff (parsed : ParsedBlock crates args block fsm) :
    (∀ state ∈ fsm.stateNames, fsm.Reachable state) ↔
      ∀ state, Named crates args block state →
        Relation.ReflTransGen (Leads crates block) args.initial state := by
  simp only [FsmStructure.Reachable, parsed.edge_eq_leads, parsed.initialState_eq,
    parsed.mem_stateNames_iff_named]

/-- Validation of the structure assembled from a block, by the block alone. -/
theorem ParsedBlock.validate_eq_ok_iff (parsed : ParsedBlock crates args block fsm) :
    fsm.validate crates = .ok () ↔ Acceptable crates args block := by
  have payloads := (agree_declaredEvents_iff fun _ => parsed.mem_handlers_iff_declares).mp
    parsed.payloads_agree
  rw [FsmStructure.validate_eq_ok_iff parsed.closed crates, parsed.connected_iff]
  constructor
  · rintro ⟨⟨single, handled, agree⟩, connected⟩
    refine ⟨payloads, ?_, ?_, parsed.durations_iff.mp agree, connected⟩
    · rwa [← countP_isTimeoutHandler parsed.handlers_parsed]
    · simpa only [parsed.mem_handlers_iff_declares] using handled
  · rintro ⟨-, single, handled, durations, connected⟩
    refine ⟨⟨?_, ?_, parsed.durations_iff.mpr durations⟩, connected⟩
    · rwa [countP_isTimeoutHandler parsed.handlers_parsed]
    · simpa only [parsed.mem_handlers_iff_declares] using handled

theorem ItemImpl.associatedType_isSome {name : Ident}
    (declared : ∃ ty, ImplItem.type name ty ∈ block.items) :
    ∃ ty, block.associatedType name = some ty := by
  rcases declared with ⟨ty, itemMem⟩
  unfold associatedType
  revert itemMem
  induction block.items using List.reverseRecOn with
  | nil =>
      intro itemMem
      exact absurd itemMem List.not_mem_nil
  | append_singleton items item ih =>
      intro itemMem
      rw [List.foldl_append, List.foldl_cons, List.foldl_nil]
      rcases List.mem_append.mp itemMem with earlier | last
      · rcases ih earlier with ⟨found, foundEq⟩
        rw [foundEq]
        split
        · split
          · exact ⟨_, rfl⟩
          · exact ⟨_, rfl⟩
        · exact ⟨_, rfl⟩
      · rw [← List.mem_singleton.mp last]
        exact ⟨ty, by simp⟩

end Comparison

/-- A block on a path type, with both associated types, whose methods all
parse is accepted exactly when it is acceptable. -/
theorem generateFsm_succeeds_iff {crates : Crates} {args : FsmArgs} {block : ItemImpl}
    {qself : Option String} {leadingColon : Bool} {segments : List PathSegment}
    (selfTy : block.selfTy = .path qself leadingColon segments) (segmentsNonempty : segments ≠ [])
    (context : ∃ ty, ImplItem.type "Context" ty ∈ block.items)
    (error : ∃ ty, ImplItem.type "Error" ty ∈ block.items)
    (parse : ∀ method ∈ block.methods, ∃ handler, Handler.parse crates method = .ok handler) :
    (∃ program, generateFsm crates args block = .ok program) ↔
      Acceptable crates args block := by
  have named : fsmTypeName block.selfTy = .ok (segments.getLast segmentsNonempty).ident := by
    rw [selfTy, fsmTypeName, List.getLast?_eq_getLast_of_ne_nil segmentsNonempty]
  rcases ItemImpl.associatedType_isSome context with ⟨contextType, contextEq⟩
  rcases ItemImpl.associatedType_isSome error with ⟨errorType, errorEq⟩
  rcases exists_mapM_eq_ok parse with ⟨handlers, converted⟩
  constructor
  · rintro ⟨program, done⟩
    rcases bind_eq_ok_iff.mp done with ⟨fsm, parsed, -⟩
    have parsedBlock := (FsmStructure.parse_spec parsed).1
    exact parsedBlock.validate_eq_ok_iff.mp (FsmStructure.parse_spec parsed).2
  · intro acceptable
    have agree : FirstSeen.Agree Event.name Event.payloadType (declaredEvents handlers) :=
      (agree_declaredEvents_iff fun _ => mem_mapM_iff converted).mpr acceptable.payloads
    have parsedBlock : ParsedBlock crates args block
        (structureOf args (segments.getLast segmentsNonempty).ident contextType errorType
          handlers) :=
      parsedBlock_structureOf converted agree
    have valid := parsedBlock.validate_eq_ok_iff.mpr acceptable
    have parsed := (FsmStructure.parse_eq_ok_iff named contextEq errorEq).mpr
      ⟨handlers, converted, agree, rfl, valid⟩
    rcases exists_acceptedFsm parsed with ⟨accepted, -⟩
    exact ⟨accepted.program, bind_eq_ok_iff.mpr ⟨_, accepted.parsed, accepted.generated⟩⟩

/-! ## A worker machine -/

/-- Concrete stand-ins for the code of other crates: attributes list their
arguments in a fixed order, and three durations are known. -/
def sampleCrates : Crates where
  onAttrFromMeta attr :=
    match attr.args with
    | [("state", .ident state), ("event", .ident event)] => .ok ⟨state, event⟩
    | _ => .error ⟨.attribute attr, "Missing field"⟩
  stateTimeoutAttrFromMeta attr :=
    match attr.args with
    | [("duration", .literal duration)] => .ok ⟨duration⟩
    | _ => .error ⟨.attribute attr, "Missing field"⟩
  parseDuration text :=
    if text = "10s" then .ok { secs := 10 }
    else if text = "30s" then .ok { secs := 30 }
    else if text = "18446744073709551615s" then .ok { secs := 18446744073709551615 }
    else .error "expected number at 0"
  renderType ty :=
    match ty with
    | .other tokens => tokens
    | .path _ _ segments => ((segments.getLast?).map PathSegment.ident).getD ""
  dfs := DiGraph.search
  mem_dfs_iff graph _ _ _ := graph.mem_search_iff

def namedType (name : Ident) : SynType :=
  .path none false [.mk name .none]

/-- `Transition<State>` -/
def transitionType (state : Ident) : SynType :=
  .path none false [.mk "Transition" (.angleBracketed false [.type (namedType state)] false)]

/-- `Result<Transition<State>, Error>` -/
def resultType (okState error : Ident) : SynType :=
  .path none false [.mk "Result"
    (.angleBracketed false [.type (transitionType okState), .type (namedType error)] false)]

def onAttribute (state event : Ident) : Attribute :=
  ⟨["on"], [("state", .ident state), ("event", .ident event)]⟩

def stateTimeoutAttribute (duration : String) : Attribute :=
  ⟨["state_timeout"], [("duration", .literal duration)]⟩

def onTimeoutAttribute : Attribute :=
  ⟨["on_timeout"], []⟩

def asyncMethod (attrs : List Attribute) (name : Ident) (arguments : List SynType)
    (output : SynType) : ImplItem :=
  .fn {
    attrs
    sig := {
      asyncness := true
      ident := name
      inputs := .receiver :: arguments.map .typed
      output := .type output } }

def workerTypes : List ImplItem :=
  [.type "Context" (namedType "WorkerContext"), .type "Error" (namedType "WorkerError")]

/-- Starting takes a job and must be done within thirty seconds. -/
def workerBlock : ItemImpl where
  selfTy := namedType "WorkerFsm"
  items := workerTypes ++ [
    asyncMethod [onAttribute "Idle" "Start", stateTimeoutAttribute "30s"] "handle_start"
      [namedType "Job"] (transitionType "Working"),
    asyncMethod [onAttribute "Working" "Done"] "handle_done" []
      (resultType "Idle" "WorkerError"),
    asyncMethod [onTimeoutAttribute] "handle_timeout" [] (transitionType "Idle")]

def workerArgs : FsmArgs where
  initial := "Idle"

theorem acceptable_worker : Acceptable sampleCrates workerArgs workerBlock := by
  have parses : ∀ method ∈ workerBlock.methods,
      (Handler.parse sampleCrates method).toBool = true := by decide
  have selfTy : workerBlock.selfTy = .path none false [.mk "WorkerFsm" .none] := rfl
  refine (generateFsm_succeeds_iff selfTy (List.cons_ne_nil _ _)
    ⟨namedType "WorkerContext", ?_⟩ ⟨namedType "WorkerError", ?_⟩ ?_).mp ⟨_, rfl⟩
  · simp [workerBlock, workerTypes]
  · simp [workerBlock, workerTypes]
  · intro method methodMem
    have parsed := parses method methodMem
    cases result : Handler.parse sampleCrates method with
    | error failure => simp [result, Except.toBool] at parsed
    | ok handler => exact ⟨handler, rfl⟩

/-- The worker machine as the macro makes it. -/
def worker : AcceptedFsm sampleCrates workerArgs workerBlock :=
  (accept sampleCrates workerArgs workerBlock).get (by decide)

example : worker.program.timeoutFor "Working" = 30000000000 := by decide

end TokioFsm
