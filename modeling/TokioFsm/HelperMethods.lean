import TokioFsm.Acceptance
import TokioFsm.Executions

/-!
# Methods without an attribute of the macro

Every method of the block becomes a handler record, also one that handles
nothing, and the record goes through all later passes.  Each pass skips it, so
that a helper method leaves the generated machine as it was wherever it stands
and is copied as it is.  It must be an `async fn` all the same: parsing
demands that of every method before it has looked at the attributes.
-/

namespace TokioFsm

open Fallible

/-- The method carries none of the macro's attributes. -/
def ImplItemFn.IsHelper (method : ImplItemFn) : Prop :=
  ∀ attr ∈ method.attrs, attr.isIdent "on" = false ∧ attr.isIdent "on_timeout" = false ∧
    attr.isIdent "state_timeout" = false

instance (method : ImplItemFn) : Decidable method.IsHelper := by
  unfold ImplItemFn.IsHelper
  infer_instance

/-- The record of a method that handles nothing. -/
def helperHandler (method : ImplItemFn) : Handler where
  method := method
  event := none
  isTimeoutHandler := false
  returnStates := []
  returnKind := none
  sourceStates := []
  hasPayload := false
  timeout := none

theorem scanAttr_helper {crates : Crates} {method : ImplItemFn} (helper : method.IsHelper)
    (scan : AttrScan) {attr : Attribute} (attrMem : attr ∈ method.attrs) :
    scanAttr crates method scan attr = .ok scan := by
  rcases helper attr attrMem with ⟨notOn, notTimeout, notStateTimeout⟩
  simp [scanAttr, notOn, notTimeout, notStateTimeout]

/-- A helper is parsed to its record, whatever its parameters and return
type. -/
theorem Handler.parse_helper {crates : Crates} {method : ImplItemFn} (helper : method.IsHelper)
    (isAsync : method.sig.asyncness = true) :
    Handler.parse crates method = .ok (helperHandler method) := by
  apply Handler.parse_eq_ok_iff.mpr
  refine ⟨isAsync, {}, none, none, [], ?_, rfl, rfl, rfl, rfl⟩
  apply foldlM_neutral
  exact fun scan attr attrMem => scanAttr_helper helper scan attrMem

/-- Cleaning an item keeps a helper as it is. -/
theorem cleanItem_helper {method : ImplItemFn} (helper : method.IsHelper) :
    cleanItem (.fn method) = some (.fn method) := by
  have kept : method.attrs.filter (fun attr => !attr.isIdent "on" &&
      !attr.isIdent "state_timeout" && !attr.isIdent "on_timeout") = method.attrs := by
    rw [List.filter_eq_self]
    intro attr attrMem
    rcases helper attr attrMem with ⟨notOn, notTimeout, notStateTimeout⟩
    simp [notOn, notTimeout, notStateTimeout]
  simp only [cleanItem, kept]

/-! ## Every pass skips the record -/

section Passes

variable (fsm : FsmStructure) (before after : List Handler) (method : ImplItemFn)

/-- The structure with other handlers. -/
def FsmStructure.withHandlers (handlers : List Handler) : FsmStructure :=
  { fsm with handlers }

theorem validateTimeoutContract_helper :
    (fsm.withHandlers (before ++ helperHandler method :: after)).validateTimeoutContract =
      (fsm.withHandlers (before ++ after)).validateTimeoutContract := by
  have skipped : (before ++ helperHandler method :: after).filter Handler.isTimeoutHandler =
      (before ++ after).filter Handler.isTimeoutHandler := by
    rw [List.filter_append, List.filter_append, List.filter_cons]
    rfl
  simp only [FsmStructure.validateTimeoutContract, FsmStructure.withHandlers]
  rw [skipped]

theorem identifyStatesWithTimeout_helper (hasTimeoutHandler : Bool) :
    (fsm.withHandlers (before ++ helperHandler method :: after)).identifyStatesWithTimeout
        hasTimeoutHandler =
      (fsm.withHandlers (before ++ after)).identifyStatesWithTimeout hasTimeoutHandler := by
  apply foldlM_insert_neutral
  intro statesWithTimeout
  rfl

theorem validateStateTimeoutConsistency_helper :
    (fsm.withHandlers
        (before ++ helperHandler method :: after)).validateStateTimeoutConsistency =
      (fsm.withHandlers (before ++ after)).validateStateTimeoutConsistency := by
  apply foldlM_insert_neutral
  intro timeoutByState
  rfl

theorem buildReachabilityGraph_helper (nodes : NodeMap) (statesWithTimeout : List Ident)
    (graph : GraphSearch.DiGraph Ident) :
    (fsm.withHandlers (before ++ helperHandler method :: after)).buildReachabilityGraph nodes
        statesWithTimeout graph =
      (fsm.withHandlers (before ++ after)).buildReachabilityGraph nodes statesWithTimeout
        graph := by
  apply foldlM_insert_neutral
  intro graph
  rfl

theorem validate_helper (crates : Crates) :
    (fsm.withHandlers (before ++ helperHandler method :: after)).validate crates =
      (fsm.withHandlers (before ++ after)).validate crates := by
  unfold FsmStructure.validate FsmStructure.validatedGraph
  rw [validateTimeoutContract_helper]
  simp only [identifyStatesWithTimeout_helper, validateStateTimeoutConsistency_helper,
    buildReachabilityGraph_helper]
  rfl

theorem buildEventArms_helper :
    buildEventArms (fsm.withHandlers (before ++ helperHandler method :: after)) =
      buildEventArms (fsm.withHandlers (before ++ after)) := by
  apply foldlM_insert_neutral
  intro arms
  rfl

theorem buildTimeoutHandler_helper :
    buildTimeoutHandler (fsm.withHandlers (before ++ helperHandler method :: after)) =
      buildTimeoutHandler (fsm.withHandlers (before ++ after)) := by
  have skipped : (before ++ helperHandler method :: after).find? Handler.isTimeoutHandler =
      (before ++ after).find? Handler.isTimeoutHandler := by
    rw [List.find?_append, List.find?_append, List.find?_cons]
    rfl
  simp only [buildTimeoutHandler, FsmStructure.withHandlers]
  rw [skipped]

theorem buildTimeoutArms_helper :
    buildTimeoutArms (fsm.withHandlers (before ++ helperHandler method :: after)) =
      buildTimeoutArms (fsm.withHandlers (before ++ after)) := by
  rw [buildTimeoutArms_eq, buildTimeoutArms_eq, FsmStructure.withHandlers,
    FsmStructure.withHandlers, List.flatMap_append, List.flatMap_append, List.flatMap_cons]
  rfl

theorem declaredEvents_helper :
    declaredEvents (before ++ helperHandler method :: after) =
      declaredEvents (before ++ after) := by
  simp [declaredEvents, List.filterMap_append, helperHandler]

theorem mentioned_helper :
    (before ++ helperHandler method :: after).flatMap Handler.mentioned =
      (before ++ after).flatMap Handler.mentioned := by
  simp [helperHandler, Handler.mentioned, Handler.targets]

theorem structureOf_helper (args : FsmArgs) (fsmName : Ident)
    (contextType errorType : SynType) :
    structureOf args fsmName contextType errorType (before ++ helperHandler method :: after) =
      (structureOf args fsmName contextType errorType (before ++ after)).withHandlers
        (before ++ helperHandler method :: after) := by
  simp only [structureOf, assembleStructure, eventsOf, statesOf, declaredEvents_helper,
    mentioned_helper, FsmStructure.withHandlers]

end Passes

/-! ## Inserting a helper into a block -/

section Inserting

variable {crates : Crates} {args : FsmArgs} {block : ItemImpl} {before after : List ImplItem}
  {method : ImplItemFn}

/-- The block with a method put between two of its items. -/
def ItemImpl.insertMethod (block : ItemImpl) (before : List ImplItem) (method : ImplItemFn)
    (after : List ImplItem) : ItemImpl :=
  { block with items := before ++ .fn method :: after }

theorem ItemImpl.methods_insertMethod :
    (block.insertMethod before method after).methods =
      { block with items := before }.methods ++
        method :: { block with items := after }.methods := by
  simp [ItemImpl.methods, ItemImpl.insertMethod, List.filterMap_append]

theorem ItemImpl.associatedType_insertMethod (items : block.items = before ++ after)
    (name : Ident) :
    (block.insertMethod before method after).associatedType name = block.associatedType name := by
  unfold ItemImpl.associatedType ItemImpl.insertMethod
  rw [items, List.foldl_append, List.foldl_append, List.foldl_cons]

/-- The extended block parses to the structure of the block with the record of
the helper among the handlers. -/
theorem FsmStructure.parse_insertMethod (items : block.items = before ++ after)
    (helper : method.IsHelper) (isAsync : method.sig.asyncness = true) {fsm : FsmStructure}
    (accepted : FsmStructure.parse crates args block = .ok fsm) :
    ∃ first second, fsm = fsm.withHandlers (first ++ second) ∧
      FsmStructure.parse crates args (block.insertMethod before method after) =
        .ok (fsm.withHandlers (first ++ helperHandler method :: second)) := by
  rcases FsmStructure.parse_cases accepted with
    ⟨fsmName, contextType, errorType, handlers, named, context, error, converted, agree, rfl, valid⟩
  have methods : block.methods =
      { block with items := before }.methods ++ { block with items := after }.methods := by
    rw [ItemImpl.methods, items, List.filterMap_append]
    rfl
  rw [methods, List.mapM_append] at converted
  rcases bind_eq_ok_iff.mp converted with ⟨first, firstConverted, converted⟩
  rcases bind_eq_ok_iff.mp converted with ⟨second, secondConverted, converted⟩
  obtain rfl := Except.ok.inj converted
  refine ⟨first, second, rfl, ?_⟩
  have extended : (block.insertMethod before method after).methods.mapM (Handler.parse crates) =
      .ok (first ++ helperHandler method :: second) := by
    rw [ItemImpl.methods_insertMethod, List.mapM_append, firstConverted, List.mapM_cons,
      Handler.parse_helper helper isAsync, secondConverted]
    rfl
  have extendedNamed : fsmTypeName (block.insertMethod before method after).selfTy =
      .ok fsmName := named
  apply (FsmStructure.parse_eq_ok_iff extendedNamed
    ((ItemImpl.associatedType_insertMethod items "Context").trans context)
    ((ItemImpl.associatedType_insertMethod items "Error").trans error)).mpr
  refine ⟨first ++ helperHandler method :: second, extended, ?_,
    (structureOf_helper first second method args fsmName contextType errorType).symm, ?_⟩
  · rw [declaredEvents_helper]
    exact agree
  · rw [validate_helper]
    exact valid

theorem generate_insertMethod {fsm : FsmStructure} {first second : List Handler}
    (split : fsm = fsm.withHandlers (first ++ second)) {program : GeneratedFsm}
    (generated : generate fsm block = .ok program) (method : ImplItemFn)
    (extended : ItemImpl) :
    generate (fsm.withHandlers (first ++ helperHandler method :: second)) extended =
      .ok { program with items := extended.items.filterMap cleanItem } := by
  rw [split] at generated
  rcases bind_eq_ok_iff.mp generated with ⟨eventArms, armsBuilt, rest⟩
  rcases bind_eq_ok_iff.mp rest with ⟨timeoutLogic, timeoutBuilt, done⟩
  obtain rfl := Except.ok.inj done
  unfold generate
  rw [buildEventArms_helper, armsBuilt, ok_bind, buildTimeoutHandler_helper, timeoutBuilt,
    ok_bind, buildTimeoutArms_helper]
  rfl

end Inserting

/-! ## Helpers are inert -/

/-- Two programs generate the same machine: the same enums, arms and timer, and
so the same executions. -/
structure SameMachine (program extended : GeneratedFsm) : Prop where
  stateEnum_eq : extended.stateEnum = program.stateEnum
  eventEnum_eq : extended.eventEnum = program.eventEnum
  initialState_eq : extended.initialState = program.initialState
  channelSize_eq : extended.channelSize = program.channelSize
  eventArms_eq : extended.eventArms = program.eventArms
  timeoutLogic_eq : extended.timeoutLogic = program.timeoutLogic
  timeoutArms_eq : extended.timeoutArms = program.timeoutArms
  executes_iff : ∀ (Context Payload Failure : Type) (representable : Nat → Bool)
    (initial last : Config Context Payload Failure)
    (trace : List (Moment Context Payload Failure)),
      Executes extended representable initial trace last ↔
        Executes program representable initial trace last

/-- The copied items play no part in the machine. -/
theorem sameMachine_items (program : GeneratedFsm) (items : List ImplItem) :
    SameMachine program { program with items } where
  stateEnum_eq := rfl
  eventEnum_eq := rfl
  initialState_eq := rfl
  channelSize_eq := rfl
  eventArms_eq := rfl
  timeoutLogic_eq := rfl
  timeoutArms_eq := rfl
  executes_iff Context Payload Failure representable initial last trace := by
    have sameStep : (step { program with items } representable :
        Config Context Payload Failure → Action Context Payload Failure →
          Option (Config Context Payload Failure)) = step program representable := by
      rfl
    constructor
    · rintro ⟨spawned, run⟩
      exact ⟨spawned, sameStep ▸ run⟩
    · rintro ⟨spawned, run⟩
      exact ⟨spawned, sameStep ▸ run⟩

/-- The block extended by the method is accepted, generates the same machine,
and copies the method to where it stands. -/
def HelperInert (crates : Crates) (args : FsmArgs) (block : ItemImpl)
    (before : List ImplItem) (method : ImplItemFn) (after : List ImplItem)
    (program : GeneratedFsm) : Prop :=
  ∃ extended, generateFsm crates args (block.insertMethod before method after) = .ok extended ∧
    SameMachine program extended ∧
      program.items = before.filterMap cleanItem ++ after.filterMap cleanItem ∧
        extended.items =
          before.filterMap cleanItem ++ .fn method :: after.filterMap cleanItem

/-- An async helper is inert wherever it stands; a helper that is not async is
rejected. -/
theorem helper_inert_iff {crates : Crates} {args : FsmArgs} {block : ItemImpl}
    {before after : List ImplItem} {method : ImplItemFn} {program : GeneratedFsm}
    (items : block.items = before ++ after)
    (done : generateFsm crates args block = .ok program) (helper : method.IsHelper) :
    HelperInert crates args block before method after program ↔
      method.sig.asyncness = true := by
  constructor
  · rintro ⟨extended, extendedDone, -⟩
    rcases bind_eq_ok_iff.mp extendedDone with ⟨fsm, parsed, -⟩
    have methodMem : method ∈ (block.insertMethod before method after).methods := by
      rw [ItemImpl.methods_insertMethod]
      simp
    rcases (FsmStructure.parse_spec parsed).1.exists_handler methodMem with
      ⟨handler, -, methodParsed⟩
    exact (Handler.parse_eq_ok_iff.mp methodParsed).1
  · intro isAsync
    rcases bind_eq_ok_iff.mp done with ⟨fsm, parsed, generated⟩
    rcases FsmStructure.parse_insertMethod items helper isAsync parsed with
      ⟨first, second, split, extendedParsed⟩
    have extendedGenerated := generate_insertMethod split generated method
      (block.insertMethod before method after)
    refine ⟨_, bind_eq_ok_iff.mpr ⟨_, extendedParsed, extendedGenerated⟩,
      sameMachine_items program _, ?_, ?_⟩
    · rcases bind_eq_ok_iff.mp generated with ⟨eventArms, -, rest⟩
      rcases bind_eq_ok_iff.mp rest with ⟨timeoutLogic, -, finished⟩
      rw [← Except.ok.inj finished, ← List.filterMap_append, ← items]
    · rw [ItemImpl.insertMethod, List.filterMap_append,
        List.filterMap_cons_some (cleanItem_helper helper)]

/-- `fn job_count(&self) -> usize`, async or not. -/
def jobCount (asyncness : Bool) : ImplItemFn where
  attrs := []
  sig := {
    asyncness
    ident := "job_count"
    inputs := [.receiver]
    output := .type (namedType "usize") }

theorem helper_inert_worker :
    HelperInert sampleCrates workerArgs workerBlock (workerBlock.items.take 3) (jobCount true)
      (workerBlock.items.drop 3) worker.program := by
  have done : generateFsm sampleCrates workerArgs workerBlock = .ok worker.program := rfl
  have items : workerBlock.items = workerBlock.items.take 3 ++ workerBlock.items.drop 3 :=
    (List.take_append_drop 3 _).symm
  exact (helper_inert_iff items done (by decide)).mpr rfl

/-- The worker with a helper that is not async is rejected as if the helper
handled something. -/
theorem sync_helper_rejected :
    generateFsm sampleCrates workerArgs workerBlock = .ok worker.program ∧
      (jobCount false).IsHelper ∧
      (jobCount false).sig.ident ∉ workerBlock.methods.map (fun method => method.sig.ident) ∧
      generateFsm sampleCrates workerArgs
          (workerBlock.insertMethod workerBlock.items (jobCount false) []) =
        .error ⟨.ident "job_count", "FSM handlers must be declared as async fn"⟩ ∧
      ¬ HelperInert sampleCrates workerArgs workerBlock workerBlock.items (jobCount false) []
        worker.program := by
  have rejected : generateFsm sampleCrates workerArgs
      (workerBlock.insertMethod workerBlock.items (jobCount false) []) =
        .error ⟨.ident "job_count", "FSM handlers must be declared as async fn"⟩ := rfl
  refine ⟨rfl, by decide, by decide, rejected, ?_⟩
  rintro ⟨extended, accepted, -⟩
  rw [rejected] at accepted
  cases accepted

end TokioFsm
