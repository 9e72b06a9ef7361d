import TokioFsm.GraphValidation

/-!
# Parsing the whole block

The methods of the block are parsed in order.  The states are the initial
state and every name a handler mentions, each listed where it is first seen;
the events likewise, with the payload type of the first handler that mentions
them, which later handlers must repeat.  The structure is then validated.
-/

namespace TokioFsm

open Fallible

/-- What the loop over the methods has collected. -/
structure ParseState where
  handlers : List Handler := []
  events : List Event := []
  stateNames : List Ident

def payloadMismatch (crates : Crates) (existing event : Event) : Error :=
  let expected := (existing.payloadType.map crates.renderType).getD "None"
  let actual := (event.payloadType.map crates.renderType).getD "None"
  ⟨.ident event.name,
    s!"Event '{event.name}' has inconsistent payload types across handlers: expected '{expected}', found '{actual}'"⟩

def collectEvent (crates : Crates) (events : List Event) :
    Option Event → Except Error (List Event)
  | some event =>
      FirstSeen.check Event.name Event.payloadType (payloadMismatch crates) events event
  | none => .ok events

def collectHandler (crates : Crates) (parsed : ParseState) (handler : Handler) :
    Except Error ParseState := do
  let stateNames := FirstSeen.recordAll id parsed.stateNames handler.targets
  let stateNames := FirstSeen.recordAll id stateNames handler.sourceStates
  let events ← collectEvent crates parsed.events handler.event
  .ok { handlers := parsed.handlers ++ [handler], events, stateNames }

def fsmTypeName (selfTy : SynType) : Except Error Ident :=
  match selfTy with
  | .path _ _ segments =>
      match segments.getLast? with
      | some segment => .ok segment.ident
      | none => .error ⟨.type selfTy, "Expected FSM type name"⟩
  | .other _ => .error ⟨.type selfTy, "Expected type path for FSM"⟩

/-- The last associated type of a name; a block may repeat one. -/
def ItemImpl.associatedType (block : ItemImpl) (name : Ident) : Option SynType :=
  block.items.foldl (fun found item =>
    match item with
    | .type ident ty => if ident = name then some ty else found
    | _ => found) none

def requireType (found : Option SynType) (missing : String) : Except Error SynType :=
  match found with
  | some ty => .ok ty
  | none => .error ⟨.implBlock, missing⟩

def assembleStructure (args : FsmArgs) (fsmName : Ident) (contextType errorType : SynType)
    (parsed : ParseState) : FsmStructure where
  fsmName := fsmName
  initialState := args.initial
  channelSize := args.channelSize
  contextType := contextType
  errorType := errorType
  states := parsed.stateNames.map State.mk
  events := parsed.events
  handlers := parsed.handlers
  tracing := args.tracing
  serde := args.serde

def FsmStructure.parse (crates : Crates) (args : FsmArgs) (block : ItemImpl) :
    Except Error FsmStructure := do
  let fsmName ← fsmTypeName block.selfTy
  let contextType ← requireType (block.associatedType "Context")
    "Missing associated type: type Context = ..."
  let errorType ← requireType (block.associatedType "Error")
    "Missing associated type: type Error = ..."
  let parsed ← block.methods.foldlM (fun parsed method =>
    Handler.parse crates method >>= collectHandler crates parsed)
    { stateNames := [args.initial] }
  let fsm := assembleStructure args fsmName contextType errorType parsed
  fsm.validate crates
  .ok fsm

/-! ## The outcome of the loop, by the handlers alone -/

/-- The state names a handler mentions, in the order they are collected. -/
def Handler.mentioned (handler : Handler) : List Ident :=
  handler.targets ++ handler.sourceStates

/-- The events of some handlers, with repetitions. -/
def declaredEvents (handlers : List Handler) : List Event :=
  handlers.filterMap Handler.event

def statesOf (initial : Ident) (handlers : List Handler) : List Ident :=
  FirstSeen.recordAll id [initial] (handlers.flatMap Handler.mentioned)

def eventsOf (handlers : List Handler) : List Event :=
  FirstSeen.recordAll Event.name [] (declaredEvents handlers)

theorem foldlM_collectHandler (crates : Crates) (handlers : List Handler)
    (parsed : ParseState) :
    handlers.foldlM (collectHandler crates) parsed =
      ((declaredEvents handlers).foldlM
        (FirstSeen.check Event.name Event.payloadType (payloadMismatch crates))
          parsed.events >>= fun events =>
        .ok {
          handlers := parsed.handlers ++ handlers
          events
          stateNames :=
            FirstSeen.recordAll id parsed.stateNames (handlers.flatMap Handler.mentioned) }) := by
  induction handlers generalizing parsed with
  | nil => simp [declaredEvents]
  | cons handler handlers ih =>
      rw [List.foldlM_cons, collectHandler, List.flatMap_cons, FirstSeen.recordAll_append,
        Handler.mentioned, FirstSeen.recordAll_append, bind_assoc]
      simp only [ok_bind, ih]
      cases eventEq : handler.event with
      | none => simp [collectEvent, declaredEvents, eventEq]
      | some event => simp [collectEvent, declaredEvents, eventEq]

/-- The loop over the methods succeeds exactly when every method parses and
handlers of one event agree on its payload type. -/
theorem collect_eq_ok_iff {crates : Crates} {initial : Ident} {methods : List ImplItemFn}
    {parsed : ParseState} :
    methods.foldlM (fun parsed method =>
        Handler.parse crates method >>= collectHandler crates parsed)
        { stateNames := [initial] } = .ok parsed ↔
      ∃ handlers, methods.mapM (Handler.parse crates) = .ok handlers ∧
        FirstSeen.Agree Event.name Event.payloadType (declaredEvents handlers) ∧
        parsed = {
          handlers
          events := eventsOf handlers
          stateNames := statesOf initial handlers } := by
  rw [foldlM_convert_eq_ok_iff]
  refine exists_congr fun handlers => and_congr_right fun _ => ?_
  have nothing : FirstSeen.Agree Event.name Event.payloadType [] := by simp [FirstSeen.Agree]
  rw [foldlM_collectHandler, bind_eq_ok_iff]
  simp only [FirstSeen.foldlM_check_eq_ok_iff nothing, List.nil_append]
  constructor
  · rintro ⟨events, ⟨rfl, agree⟩, built⟩
    exact ⟨agree, (Except.ok.inj built).symm⟩
  · rintro ⟨agree, rfl⟩
    exact ⟨_, ⟨rfl, agree⟩, rfl⟩

/-- What parsing a block makes of it. -/
structure ParsedBlock (crates : Crates) (args : FsmArgs) (block : ItemImpl)
    (fsm : FsmStructure) : Prop where
  handlers_parsed : block.methods.mapM (Handler.parse crates) = .ok fsm.handlers
  initialState_eq : fsm.initialState = args.initial
  channelSize_eq : fsm.channelSize = args.channelSize
  stateNames_eq : fsm.stateNames = statesOf args.initial fsm.handlers
  events_eq : fsm.events = eventsOf fsm.handlers
  payloads_agree : FirstSeen.Agree Event.name Event.payloadType (declaredEvents fsm.handlers)

section Parsed

variable {crates : Crates} {args : FsmArgs} {block : ItemImpl} {fsm : FsmStructure}

theorem mem_statesOf {initial name : Ident} {handlers : List Handler} :
    name ∈ statesOf initial handlers ↔
      name = initial ∨ ∃ handler ∈ handlers,
        name ∈ handler.targets ∨ name ∈ handler.sourceStates := by
  have recorded := FirstSeen.mem_keys_recordAll id [initial]
    (handlers.flatMap Handler.mentioned) name
  simpa [statesOf, Handler.mentioned] using recorded

theorem ParsedBlock.closed (parsed : ParsedBlock crates args block fsm) : fsm.Closed where
  nodup := by
    rw [parsed.stateNames_eq]
    have distinct := FirstSeen.nodup_keys_recordAll id [args.initial]
      (fsm.handlers.flatMap Handler.mentioned) (by simp)
    simpa [statesOf] using distinct
  initialState_mem := by
    rw [parsed.stateNames_eq, parsed.initialState_eq]
    exact mem_statesOf.mpr (Or.inl rfl)
  targets_mem handler handlerMem target targetMem := by
    rw [parsed.stateNames_eq]
    exact mem_statesOf.mpr (Or.inr ⟨handler, handlerMem, Or.inl targetMem⟩)
  sourceStates_mem handler handlerMem source sourceMem := by
    rw [parsed.stateNames_eq]
    exact mem_statesOf.mpr (Or.inr ⟨handler, handlerMem, Or.inr sourceMem⟩)

/-- The handlers of the structure are what the methods of the block parse to. -/
theorem ParsedBlock.mem_handlers_iff (parsed : ParsedBlock crates args block fsm)
    {handler : Handler} :
    handler ∈ fsm.handlers ↔
      ∃ method ∈ block.methods, Handler.parse crates method = .ok handler :=
  mem_mapM_iff parsed.handlers_parsed

theorem ParsedBlock.exists_handler (parsed : ParsedBlock crates args block fsm)
    {method : ImplItemFn} (methodMem : method ∈ block.methods) :
    ∃ handler ∈ fsm.handlers, Handler.parse crates method = .ok handler :=
  converts_of_mapM parsed.handlers_parsed methodMem

theorem ParsedBlock.wellFormed (parsed : ParsedBlock crates args block fsm)
    {handler : Handler} (handlerMem : handler ∈ fsm.handlers) : handler.WellFormed := by
  obtain ⟨method, -, parsed⟩ := parsed.mem_handlers_iff.mp handlerMem
  exact (Handler.parse_parsedFrom parsed).wellFormed

/-- The structure assembled from some handlers, before validation. -/
def structureOf (args : FsmArgs) (fsmName : Ident) (contextType errorType : SynType)
    (handlers : List Handler) : FsmStructure :=
  assembleStructure args fsmName contextType errorType {
    handlers
    events := eventsOf handlers
    stateNames := statesOf args.initial handlers }

theorem parsedBlock_structureOf {fsmName : Ident} {contextType errorType : SynType}
    {handlers : List Handler}
    (converted : block.methods.mapM (Handler.parse crates) = .ok handlers)
    (agree : FirstSeen.Agree Event.name Event.payloadType (declaredEvents handlers)) :
    ParsedBlock crates args block
      (structureOf args fsmName contextType errorType handlers) where
  handlers_parsed := converted
  initialState_eq := rfl
  channelSize_eq := rfl
  stateNames_eq := by
    simp [structureOf, assembleStructure, FsmStructure.stateNames, Function.comp_def]
  events_eq := rfl
  payloads_agree := agree

/-- A block on a path type with both associated types is accepted exactly when
all methods parse, payload types agree, and validation accepts the structure
assembled from the handlers. -/
theorem FsmStructure.parse_eq_ok_iff {fsmName : Ident} {contextType errorType : SynType}
    (named : fsmTypeName block.selfTy = .ok fsmName)
    (context : block.associatedType "Context" = some contextType)
    (error : block.associatedType "Error" = some errorType) :
    FsmStructure.parse crates args block = .ok fsm ↔
      ∃ handlers, block.methods.mapM (Handler.parse crates) = .ok handlers ∧
        FirstSeen.Agree Event.name Event.payloadType (declaredEvents handlers) ∧
        fsm = structureOf args fsmName contextType errorType handlers ∧
        fsm.validate crates = .ok () := by
  unfold FsmStructure.parse
  rw [named, context, error, ok_bind, requireType, requireType, ok_bind, ok_bind, bind_eq_ok_iff]
  constructor
  · rintro ⟨parsed, collected, done⟩
    obtain ⟨handlers, converted, agree, rfl⟩ := collect_eq_ok_iff.mp collected
    obtain ⟨⟨⟩, valid, built⟩ := bind_eq_ok_iff.mp done
    obtain rfl := Except.ok.inj built
    exact ⟨handlers, converted, agree, rfl, valid⟩
  · rintro ⟨handlers, converted, agree, rfl, valid⟩
    exact ⟨_, collect_eq_ok_iff.mpr ⟨handlers, converted, agree, rfl⟩,
      bind_eq_ok_iff.mpr ⟨(), valid, rfl⟩⟩

/-- What a block that is accepted consists of. -/
theorem FsmStructure.parse_cases (accepted : FsmStructure.parse crates args block = .ok fsm) :
    ∃ fsmName contextType errorType handlers, fsmTypeName block.selfTy = .ok fsmName ∧
      block.associatedType "Context" = some contextType ∧
      block.associatedType "Error" = some errorType ∧
      block.methods.mapM (Handler.parse crates) = .ok handlers ∧
      FirstSeen.Agree Event.name Event.payloadType (declaredEvents handlers) ∧
      fsm = structureOf args fsmName contextType errorType handlers ∧
      fsm.validate crates = .ok () := by
  obtain ⟨fsmName, named, rest⟩ := bind_eq_ok_iff.mp accepted
  obtain ⟨contextType, context, rest⟩ := bind_eq_ok_iff.mp rest
  obtain ⟨errorType, error, -⟩ := bind_eq_ok_iff.mp rest
  have isSome {found : Option SynType} {missing : String} {ty : SynType}
      (required : requireType found missing = .ok ty) : found = some ty := by
    unfold requireType at required
    split at required
    · rw [Except.ok.inj required]
    · cases required
  obtain ⟨handlers, parts⟩ :=
    (FsmStructure.parse_eq_ok_iff named (isSome context) (isSome error)).mp accepted
  exact ⟨fsmName, contextType, errorType, handlers, named, isSome context, isSome error, parts⟩

/-- What an accepted block is like. -/
theorem FsmStructure.parse_spec (accepted : FsmStructure.parse crates args block = .ok fsm) :
    ParsedBlock crates args block fsm ∧ fsm.validate crates = .ok () := by
  obtain ⟨fsmName, contextType, errorType, handlers, -, -, -, converted, agree, rfl, valid⟩ :=
    FsmStructure.parse_cases accepted
  exact ⟨parsedBlock_structureOf converted agree, valid⟩

end Parsed

end TokioFsm
