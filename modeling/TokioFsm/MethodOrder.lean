import TokioFsm.Acceptance

/-!
# The order of the methods

The macro walks through the methods again and again and keeps what it sees
first: the first payload type of an event, the first duration of a state, the
first timeout handler.  Wherever it does so, some check has made sure that
there is nothing to choose, so blocks that list the same methods in different
orders are accepted together, with the same states, events, edges, timeout
handler and durations.
-/

namespace TokioFsm

open Fallible GraphSearch

def ImplItem.isMethod : ImplItem → Bool
  | .fn _ => true
  | _ => false

/-- The blocks are on one type and have the same methods in some order; their
other items stand in the same order, anywhere between the methods. -/
structure ItemImpl.Reordered (block reordered : ItemImpl) : Prop where
  selfTy_eq : reordered.selfTy = block.selfTy
  others_eq : reordered.items.filter (fun item => !item.isMethod) =
    block.items.filter fun item => !item.isMethod
  methods_perm : block.methods.Perm reordered.methods

theorem ItemImpl.associatedType_others (block : ItemImpl) (name : Ident) :
    block.associatedType name =
      { block with items := block.items.filter fun item => !item.isMethod }.associatedType
        name := by
  unfold ItemImpl.associatedType
  rw [List.foldl_filter]
  congr 1
  funext found item
  cases item with
  | fn method => rfl
  | type ident ty => rfl
  | other tokens => rfl

namespace ItemImpl.Reordered

variable {block reordered : ItemImpl}

theorem symm (same : block.Reordered reordered) : reordered.Reordered block where
  selfTy_eq := same.selfTy_eq.symm
  others_eq := same.others_eq.symm
  methods_perm := same.methods_perm.symm

theorem associatedType_eq (same : block.Reordered reordered) (name : Ident) :
    reordered.associatedType name = block.associatedType name := by
  rw [associatedType_others reordered, associatedType_others block, same.others_eq]
  rfl

end ItemImpl.Reordered

/-! ## Handlers in another order -/

theorem statesOf_perm {handlers others : List Handler} (permuted : handlers.Perm others)
    (initial : Ident) : (statesOf initial handlers).Perm (statesOf initial others) := by
  apply FirstSeen.recordAll_perm (permuted.flatMap_right Handler.mentioned)
  · simp
  · intro first _ second _ same
    exact same

/-- Events of one name are the same event, whichever is seen first. -/
theorem eventsOf_perm {handlers others : List Handler} (permuted : handlers.Perm others)
    (agree : FirstSeen.Agree Event.name Event.payloadType (declaredEvents handlers)) :
    (eventsOf handlers).Perm (eventsOf others) := by
  apply FirstSeen.recordAll_perm (permuted.filterMap Handler.event)
  · simp
  · intro first firstMem second secondMem sameName
    have samePayload := agree first firstMem second secondMem sameName
    cases first
    cases second
    simp_all

section Permuted

variable {fsm other : FsmStructure} (permuted : fsm.handlers.Perm other.handlers)

include permuted

namespace FsmStructure

theorem timed_perm {state : Ident} : fsm.Timed state ↔ other.Timed state := by
  unfold Timed
  simp only [permuted.mem_iff]

theorem Edge.of_perm {source target : Ident} (edge : fsm.Edge source target) :
    other.Edge source target := by
  cases edge with
  | event handlerMem isEvent sourceMem targetMem =>
      exact .event (permuted.mem_iff.mp handlerMem) isEvent sourceMem targetMem
  | timeout handlerMem isTimeout timed targetMem =>
      exact .timeout (permuted.mem_iff.mp handlerMem) isTimeout ((timed_perm permuted).mp timed)
        targetMem

theorem edge_perm {source target : Ident} :
    fsm.Edge source target ↔ other.Edge source target :=
  ⟨Edge.of_perm permuted, Edge.of_perm permuted.symm⟩

theorem Reachable.of_perm (sameInitial : other.initialState = fsm.initialState) {state : Ident}
    (reachable : fsm.Reachable state) : other.Reachable state := by
  unfold Reachable at *
  rw [sameInitial]
  exact reachable.lift id fun source target edge => edge.of_perm permuted

theorem TimeoutsValid.of_perm (valid : fsm.TimeoutsValid) : other.TimeoutsValid where
  single := by
    rw [← permuted.countP_eq]
    exact valid.single
  handled := by
    simp only [← permuted.mem_iff]
    exact valid.handled
  agree := by
    apply valid.agree.subset
    exact (permuted.symm.flatMap_right Handler.timeoutDeclarations).subset

end FsmStructure

/-- There is only one timeout handler to find. -/
theorem find?_isTimeoutHandler_perm (valid : fsm.TimeoutsValid) :
    fsm.handlers.find? Handler.isTimeoutHandler =
      other.handlers.find? Handler.isTimeoutHandler :=
  FirstSeen.find?_perm permuted valid.single

end Permuted

/-! ## The table of durations -/

namespace AcceptedFsm

variable {crates : Crates} {args : FsmArgs} {block reordered : ItemImpl}
  (machine : AcceptedFsm crates args block) (other : AcceptedFsm crates args reordered)
  (permuted : machine.fsm.handlers.Perm other.fsm.handlers)

/-- Arms for one state are the same arm, since their durations have been
compared. -/
theorem agree_timeoutArms :
    FirstSeen.Agree TimeoutArm.state id (machine.fsm.handlers.flatMap Handler.timeoutArms) := by
  intro first firstMem second secondMem sameState
  obtain ⟨firstHandler, firstHandlerMem, firstMem⟩ := List.mem_flatMap.mp firstMem
  obtain ⟨firstDuration, firstTimeout, firstTarget, firstSecs, firstNanos⟩ :=
    mem_handlerTimeoutArms.mp firstMem
  obtain ⟨secondHandler, secondHandlerMem, secondMem⟩ := List.mem_flatMap.mp secondMem
  obtain ⟨secondDuration, secondTimeout, secondTarget, secondSecs, secondNanos⟩ :=
    mem_handlerTimeoutArms.mp secondMem
  have sameState : first.state = second.state := sameState
  rw [← sameState] at secondTarget
  have durationEq : firstDuration = secondDuration :=
    FsmStructure.agree_timeoutDeclarations_iff.mp machine.timeoutsValid.agree
      firstHandler firstHandlerMem secondHandler secondHandlerMem _ _ firstTimeout secondTimeout
      first.state firstTarget secondTarget
  subst secondDuration
  cases first
  cases second
  simp_all

theorem nodup_timeoutArms : (machine.program.timeoutArms.map TimeoutArm.state).Nodup := by
  rw [machine.timeoutArms_eq]
  apply FirstSeen.nodup_keys_recordAll
  simp

include permuted

theorem timeoutArms_perm : machine.program.timeoutArms.Perm other.program.timeoutArms := by
  rw [machine.timeoutArms_eq, other.timeoutArms_eq]
  apply FirstSeen.recordAll_perm (permuted.flatMap_right Handler.timeoutArms)
  · simp
  · exact machine.agree_timeoutArms

theorem timeoutFor_perm (state : Ident) :
    machine.program.timeoutFor state = other.program.timeoutFor state := by
  unfold GeneratedFsm.timeoutFor
  rw [FirstSeen.lookup_perm (machine.timeoutArms_perm other permuted) machine.nodup_timeoutArms]

theorem timeoutLogic_perm : machine.program.timeoutLogic = other.program.timeoutLogic := by
  have built := machine.buildTimeoutHandler_eq
  unfold buildTimeoutHandler at built
  rw [find?_isTimeoutHandler_perm permuted machine.timeoutsValid] at built
  exact Except.ok.inj (built.symm.trans other.buildTimeoutHandler_eq)

end AcceptedFsm

/-! ## Order is irrelevant -/

/-- Two structures and their programs declare the same states, events, edges
and durations, in whatever order, and have the same timeout handler. -/
structure SameUpToOrder (fsm other : FsmStructure) (program otherProgram : GeneratedFsm) :
    Prop where
  initialState_eq : fsm.initialState = other.initialState
  states_perm : fsm.states.Perm other.states
  /-- an event is its name together with its payload type -/
  events_perm : fsm.events.Perm other.events
  timeoutHandler_eq : fsm.handlers.find? Handler.isTimeoutHandler =
    other.handlers.find? Handler.isTimeoutHandler
  edges_iff : ∃ built otherBuilt, fsm.validatedGraph = .ok built ∧
    other.validatedGraph = .ok otherBuilt ∧
      ∀ source target, built.1.Joins source target ↔ otherBuilt.1.Joins source target
  timeoutArms_perm : program.timeoutArms.Perm otherProgram.timeoutArms
  timeoutFor_eq : ∀ state, program.timeoutFor state = otherProgram.timeoutFor state
  timeoutLogic_eq : program.timeoutLogic = otherProgram.timeoutLogic

section Reordering

variable {crates : Crates} {args : FsmArgs} {block reordered : ItemImpl}

namespace ParsedBlock

variable {fsm other : FsmStructure} (parsed : ParsedBlock crates args block fsm)
  (parsedOther : ParsedBlock crates args reordered other)
  (permuted : fsm.handlers.Perm other.handlers)

include parsed parsedOther permuted

theorem stateNames_perm : fsm.stateNames.Perm other.stateNames := by
  rw [parsed.stateNames_eq, parsedOther.stateNames_eq]
  exact statesOf_perm permuted args.initial

theorem validate_perm (valid : fsm.validate crates = .ok ()) :
    other.validate crates = .ok () := by
  obtain ⟨timeoutsValid, reachable⟩ :=
    (FsmStructure.validate_eq_ok_iff parsed.closed crates).mp valid
  have sameInitial : other.initialState = fsm.initialState := by
    rw [parsed.initialState_eq, parsedOther.initialState_eq]
  apply (FsmStructure.validate_eq_ok_iff parsedOther.closed crates).mpr
  constructor
  · exact timeoutsValid.of_perm permuted
  · intro state stateMem
    rw [← (parsed.stateNames_perm parsedOther permuted).mem_iff] at stateMem
    exact (reachable state stateMem).of_perm permuted sameInitial

end ParsedBlock

theorem AcceptedFsm.sameUpToOrder (machine : AcceptedFsm crates args block)
    (other : AcceptedFsm crates args reordered)
    (permuted : machine.fsm.handlers.Perm other.fsm.handlers) :
    SameUpToOrder machine.fsm other.fsm machine.program other.program where
  initialState_eq := by
    rw [machine.parsedBlock.initialState_eq, other.parsedBlock.initialState_eq]
  states_perm := by
    have named (fsm : FsmStructure) : fsm.states = fsm.stateNames.map State.mk := by
      simp [FsmStructure.stateNames, Function.comp_def]
    rw [named machine.fsm, named other.fsm]
    exact (machine.parsedBlock.stateNames_perm other.parsedBlock permuted).map State.mk
  events_perm := by
    rw [machine.parsedBlock.events_eq, other.parsedBlock.events_eq]
    exact eventsOf_perm permuted machine.parsedBlock.payloads_agree
  timeoutHandler_eq := find?_isTimeoutHandler_perm permuted machine.timeoutsValid
  edges_iff := by
    obtain ⟨graph, initialNode, nodes, validated, graphOf⟩ := machine.exists_graphOf
    obtain ⟨otherGraph, otherInitialNode, otherNodes, otherValidated, otherGraphOf⟩ :=
      other.exists_graphOf
    refine ⟨_, _, validated, otherValidated, fun source target => ?_⟩
    rw [graphOf.joins_iff machine.closed, otherGraphOf.joins_iff other.closed]
    exact FsmStructure.edge_perm permuted
  timeoutArms_perm := machine.timeoutArms_perm other permuted
  timeoutFor_eq := machine.timeoutFor_perm other permuted
  timeoutLogic_eq := machine.timeoutLogic_perm other permuted

/-- A reordered block is parsed to the same handlers in another order. -/
theorem FsmStructure.parse_reordered (same : block.Reordered reordered) {fsm : FsmStructure}
    (accepted : FsmStructure.parse crates args block = .ok fsm) :
    ∃ other, FsmStructure.parse crates args reordered = .ok other ∧
      fsm.handlers.Perm other.handlers := by
  obtain ⟨fsmName, contextType, errorType, handlers, named, context, error, converted, agree,
    rfl, valid⟩ := FsmStructure.parse_cases accepted
  obtain ⟨others, othersConverted, permuted⟩ := mapM_perm same.methods_perm converted
  have othersAgree : FirstSeen.Agree Event.name Event.payloadType (declaredEvents others) :=
    agree.subset (permuted.symm.filterMap Handler.event).subset
  have parsed : ParsedBlock crates args block
      (structureOf args fsmName contextType errorType handlers) :=
    parsedBlock_structureOf converted agree
  have othersParsed : ParsedBlock crates args reordered
      (structureOf args fsmName contextType errorType others) :=
    parsedBlock_structureOf othersConverted othersAgree
  have othersNamed : fsmTypeName reordered.selfTy = .ok fsmName := by
    rw [same.selfTy_eq]
    exact named
  refine ⟨_, (FsmStructure.parse_eq_ok_iff othersNamed
    ((same.associatedType_eq "Context").trans context)
    ((same.associatedType_eq "Error").trans error)).mpr
      ⟨others, othersConverted, othersAgree, rfl, ?_⟩, permuted⟩
  exact parsed.validate_perm othersParsed permuted valid

end Reordering

/-- The order of the methods decides neither whether a block is accepted, nor
what states, events, edges and durations it declares. -/
theorem method_order_irrelevant (crates : Crates) (args : FsmArgs)
    {block reordered : ItemImpl} (same : block.Reordered reordered) :
    ((∃ fsm, FsmStructure.parse crates args block = .ok fsm) ↔
      ∃ other, FsmStructure.parse crates args reordered = .ok other) ∧
    ∀ fsm other, FsmStructure.parse crates args block = .ok fsm →
      FsmStructure.parse crates args reordered = .ok other →
        ∃ program otherProgram, generate fsm block = .ok program ∧
          generate other reordered = .ok otherProgram ∧
            SameUpToOrder fsm other program otherProgram := by
  constructor
  · constructor
    · rintro ⟨fsm, accepted⟩
      obtain ⟨other, otherAccepted, -⟩ := FsmStructure.parse_reordered same accepted
      exact ⟨other, otherAccepted⟩
    · rintro ⟨other, otherAccepted⟩
      obtain ⟨fsm, accepted, -⟩ := FsmStructure.parse_reordered same.symm otherAccepted
      exact ⟨fsm, accepted⟩
  · intro fsm other accepted otherAccepted
    obtain ⟨parsed, parsedOther, permuted⟩ := FsmStructure.parse_reordered same accepted
    obtain rfl : parsed = other := Except.ok.inj (parsedOther.symm.trans otherAccepted)
    obtain ⟨machine, rfl⟩ := exists_acceptedFsm accepted
    obtain ⟨other, rfl⟩ := exists_acceptedFsm otherAccepted
    exact ⟨machine.program, other.program, machine.generated, other.generated,
      machine.sameUpToOrder other permuted⟩

/-- The worker with its handlers from last to first, around the associated
types. -/
def reversedWorkerBlock : ItemImpl where
  selfTy := workerBlock.selfTy
  items := (workerBlock.items.drop 4).reverse ++ workerTypes ++
    ((workerBlock.items.drop 2).take 2).reverse

theorem method_order_irrelevant_worker :
    ∃ other otherProgram,
      FsmStructure.parse sampleCrates workerArgs reversedWorkerBlock = .ok other ∧
        generate other reversedWorkerBlock = .ok otherProgram ∧
          SameUpToOrder worker.fsm other worker.program otherProgram := by
  have same : workerBlock.Reordered reversedWorkerBlock := ⟨rfl, rfl, by decide⟩
  obtain ⟨accepted, agree⟩ :=
    method_order_irrelevant sampleCrates workerArgs same
  obtain ⟨other, otherAccepted⟩ := accepted.mp ⟨worker.fsm, worker.parsed⟩
  obtain ⟨program, otherProgram, generated, otherGenerated, upToOrder⟩ :=
    agree worker.fsm other worker.parsed otherAccepted
  obtain rfl : program = worker.program :=
    Except.ok.inj (generated.symm.trans worker.generated)
  exact ⟨other, otherProgram, otherAccepted, otherGenerated, upToOrder⟩

end TokioFsm
