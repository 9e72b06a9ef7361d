import TokioFsm.HandlerParsing
import TokioFsm.Library.FirstSeen

/-!
# Validation of the state graph

Validation checks the timeout contract, collects the states that have a
timeout, compares timeout durations, builds a graph on the discovered states,
and searches it from the initial state.  The second half of the file describes
the graph and the outcome of every check by the handlers alone.
-/

namespace TokioFsm

open Fallible GraphSearch

structure FsmStructure where
  fsmName : Ident
  initialState : Ident
  channelSize : Nat
  contextType : SynType
  errorType : SynType
  states : List State
  events : List Event
  handlers : List Handler
  tracing : Bool
  serde : Bool

/-- The map from state names to graph nodes, with its entries in some order. -/
abbrev NodeMap := List (Ident × Nat)

/-- Insertion replaces an earlier entry for the same name. -/
def NodeMap.insert (nodes : NodeMap) (name : Ident) (node : Nat) : NodeMap :=
  (name, node) :: nodes.filter fun entry => decide (entry.1 ≠ name)

def NodeMap.get (nodes : NodeMap) (name : Ident) : Option Nat :=
  (FirstSeen.lookup Prod.fst nodes name).map Prod.snd

/-- A timeout declared for a state, with the handler that declares it. -/
structure TimeoutDeclaration where
  state : Ident
  duration : Duration
  handler : Ident

def Handler.timeoutDeclarations (handler : Handler) : List TimeoutDeclaration :=
  match handler.timeout with
  | none => []
  | some duration =>
      handler.targets.map fun target => ⟨target, duration, handler.method.sig.ident⟩

def timeoutConflict (existing conflicting : TimeoutDeclaration) : Error :=
  ⟨.ident conflicting.handler,
    s!"State '{conflicting.state}' has conflicting timeout durations declared by '{existing.handler}' and '{conflicting.handler}'"⟩

def lookupNode (nodes : NodeMap) (missing : String) (name : Ident) : Except Error Nat :=
  match nodes.get name with
  | some node => .ok node
  | none => .error ⟨.ident name, missing⟩

/-- Edges from each of the sources to one target. -/
def addEdgesInto (nodes : NodeMap) (missing : String) (targetNode : Nat)
    (sources : List Ident) (graph : DiGraph Ident) : Except Error (DiGraph Ident) :=
  sources.foldlM (fun graph source => do
    let sourceNode ← lookupNode nodes missing source
    .ok (graph.addEdge sourceNode targetNode)) graph

/-- The edges that end in one state of a handler's return type. -/
def addTargetEdges (nodes : NodeMap) (statesWithTimeout : List Ident)
    (handler : Handler) (graph : DiGraph Ident) (target : Ident) :
    Except Error (DiGraph Ident) := do
  let targetNode ← lookupNode nodes "Target state not found" target
  if handler.isTimeoutHandler then
    addEdgesInto nodes "Internal error: timeout source state not found" targetNode
      statesWithTimeout graph
  else
    addEdgesInto nodes "Source state not found" targetNode handler.sourceStates graph

namespace FsmStructure

def stateNames (fsm : FsmStructure) : List Ident :=
  fsm.states.map State.name

def validateTimeoutContract (fsm : FsmStructure) : Except Error Bool :=
  match fsm.handlers.filter fun handler => handler.isTimeoutHandler with
  | [] => .ok false
  | [_] => .ok true
  | _ :: second :: _ =>
      .error ⟨.ident second.method.sig.ident,
        "Multiple #[on_timeout] handlers are not allowed"⟩

def identifyStatesWithTimeout (fsm : FsmStructure) (hasTimeoutHandler : Bool) :
    Except Error (List Ident) :=
  fsm.handlers.foldlM (fun statesWithTimeout handler =>
    if handler.timeout.isSome then
      if hasTimeoutHandler then
        .ok (FirstSeen.recordAll id statesWithTimeout handler.targets)
      else
        .error ⟨.ident handler.method.sig.ident,
          "#[state_timeout] requires an #[on_timeout] handler"⟩
    else .ok statesWithTimeout) []

def validateStateTimeoutConsistency (fsm : FsmStructure) :
    Except Error (List TimeoutDeclaration) :=
  fsm.handlers.foldlM (fun timeoutByState handler =>
    handler.timeoutDeclarations.foldlM
      (FirstSeen.check TimeoutDeclaration.state TimeoutDeclaration.duration timeoutConflict)
      timeoutByState) []

/-- One node for every state, and the map from names to nodes. -/
def addStateNodes (fsm : FsmStructure) : DiGraph Ident × NodeMap :=
  fsm.states.foldl (fun (graph, nodes) state =>
    let (graph, node) := graph.addNode state.name
    (graph, nodes.insert state.name node)) ({}, [])

def buildReachabilityGraph (fsm : FsmStructure) (nodes : NodeMap)
    (statesWithTimeout : List Ident) (graph : DiGraph Ident) :
    Except Error (DiGraph Ident) :=
  fsm.handlers.foldlM (fun graph handler =>
    handler.targets.foldlM (addTargetEdges nodes statesWithTimeout handler) graph) graph

def checkReachability (fsm : FsmStructure) (crates : Crates) (graph : DiGraph Ident)
    (initialNode : Nat) (nodes : NodeMap) : Except Error Unit :=
  let reachable := crates.dfs graph initialNode
  match nodes.find? fun entry => decide (entry.2 ∉ reachable) with
  | some (name, _) =>
      .error ⟨.ident name,
        s!"State '{name}' is unreachable from initial state '{fsm.initialState}'"⟩
  | none => .ok ()

/-- The part of validation up to and including the construction of the graph. -/
def validatedGraph (fsm : FsmStructure) : Except Error (DiGraph Ident × Nat × NodeMap) := do
  let hasTimeoutHandler ← fsm.validateTimeoutContract
  let statesWithTimeout ← fsm.identifyStatesWithTimeout hasTimeoutHandler
  let _ ← fsm.validateStateTimeoutConsistency
  let (graph, nodes) := fsm.addStateNodes
  let initialNode ← lookupNode nodes "Initial state not found" fsm.initialState
  let graph ← fsm.buildReachabilityGraph nodes statesWithTimeout graph
  .ok (graph, initialNode, nodes)

def validate (fsm : FsmStructure) (crates : Crates) : Except Error Unit := do
  let (graph, initialNode, nodes) ← fsm.validatedGraph
  fsm.checkReachability crates graph initialNode nodes

/-! ## The checks, by the handlers alone -/

/-- The state is returned by a handler that carries a timeout. -/
def Timed (fsm : FsmStructure) (state : Ident) : Prop :=
  ∃ handler ∈ fsm.handlers, handler.timeout.isSome ∧ state ∈ handler.targets

/-- The transitions declared by the handlers: an event handler leads from each
of its source states, the timeout handler from every state with a timeout. -/
inductive Edge (fsm : FsmStructure) : Ident → Ident → Prop
  | event {handler : Handler} {source target : Ident} :
      handler ∈ fsm.handlers → handler.isTimeoutHandler = false →
        source ∈ handler.sourceStates → target ∈ handler.targets →
          Edge fsm source target
  | timeout {handler : Handler} {source target : Ident} :
      handler ∈ fsm.handlers → handler.isTimeoutHandler = true →
        fsm.Timed source → target ∈ handler.targets →
          Edge fsm source target

/-- Reachability from the initial state along declared transitions. -/
def Reachable (fsm : FsmStructure) (state : Ident) : Prop :=
  Relation.ReflTransGen fsm.Edge fsm.initialState state

/-- Every name a handler mentions is the name of exactly one state. -/
structure Closed (fsm : FsmStructure) : Prop where
  nodup : fsm.stateNames.Nodup
  initialState_mem : fsm.initialState ∈ fsm.stateNames
  targets_mem : ∀ handler ∈ fsm.handlers, ∀ target ∈ handler.targets,
    target ∈ fsm.stateNames
  sourceStates_mem : ∀ handler ∈ fsm.handlers, ∀ source ∈ handler.sourceStates,
    source ∈ fsm.stateNames

/-- All timeout declarations, in the order in which validation meets them. -/
def timeoutDeclarations (fsm : FsmStructure) : List TimeoutDeclaration :=
  fsm.handlers.flatMap Handler.timeoutDeclarations

theorem mem_timeoutDeclarations {fsm : FsmStructure} {declaration : TimeoutDeclaration} :
    declaration ∈ fsm.timeoutDeclarations ↔
      ∃ handler ∈ fsm.handlers, handler.timeout = some declaration.duration ∧
        declaration.state ∈ handler.targets ∧
          declaration.handler = handler.method.sig.ident := by
  simp only [timeoutDeclarations, List.mem_flatMap]
  refine exists_congr fun handler => and_congr_right fun _ => ?_
  obtain ⟨state, duration, name⟩ := declaration
  unfold Handler.timeoutDeclarations
  cases handler.timeout with
  | none => simp
  | some timeout =>
      simp only [List.mem_map, TimeoutDeclaration.mk.injEq, Option.some.injEq]
      constructor
      · rintro ⟨target, targetMem, rfl, rfl, rfl⟩
        exact ⟨rfl, targetMem, rfl⟩
      · rintro ⟨rfl, targetMem, rfl⟩
        exact ⟨state, targetMem, rfl, rfl, rfl⟩

/-- The comparison of durations, handler by handler. -/
theorem agree_timeoutDeclarations_iff {fsm : FsmStructure} :
    FirstSeen.Agree TimeoutDeclaration.state TimeoutDeclaration.duration
        fsm.timeoutDeclarations ↔
      ∀ first ∈ fsm.handlers, ∀ second ∈ fsm.handlers,
        ∀ firstDuration secondDuration, first.timeout = some firstDuration →
          second.timeout = some secondDuration →
            ∀ state, state ∈ first.targets → state ∈ second.targets →
              firstDuration = secondDuration := by
  simp only [FirstSeen.Agree, mem_timeoutDeclarations]
  constructor
  · intro agree first firstMem second secondMem firstDuration secondDuration
      firstTimeout secondTimeout state firstTarget secondTarget
    exact agree ⟨state, firstDuration, first.method.sig.ident⟩
      ⟨first, firstMem, firstTimeout, firstTarget, rfl⟩
      ⟨state, secondDuration, second.method.sig.ident⟩
      ⟨second, secondMem, secondTimeout, secondTarget, rfl⟩ rfl
  · rintro durations firstDeclaration ⟨first, firstMem, firstTimeout, firstTarget, -⟩
      secondDeclaration ⟨second, secondMem, secondTimeout, secondTarget, -⟩ sameState
    rw [← sameState] at secondTarget
    exact durations first firstMem second secondMem _ _ firstTimeout secondTimeout
      _ firstTarget secondTarget

theorem validateTimeoutContract_eq_ok_iff {fsm : FsmStructure} {hasTimeoutHandler : Bool} :
    fsm.validateTimeoutContract = .ok hasTimeoutHandler ↔
      fsm.handlers.countP Handler.isTimeoutHandler ≤ 1 ∧
        hasTimeoutHandler = fsm.handlers.any Handler.isTimeoutHandler := by
  have anyIff : fsm.handlers.any Handler.isTimeoutHandler =
      !(fsm.handlers.filter fun handler => handler.isTimeoutHandler).isEmpty := by
    rw [Bool.eq_iff_iff]
    simp
  unfold validateTimeoutContract
  rw [List.countP_eq_length_filter, anyIff]
  cases fsm.handlers.filter fun handler => handler.isTimeoutHandler with
  | nil => simp [eq_comm]
  | cons first rest =>
      cases rest with
      | nil => simp [eq_comm]
      | cons second rest => simp

theorem identifyStatesWithTimeout_eq_ok_iff {fsm : FsmStructure}
    {hasTimeoutHandler : Bool} :
    (∃ statesWithTimeout,
      fsm.identifyStatesWithTimeout hasTimeoutHandler = .ok statesWithTimeout) ↔
      ((∃ handler ∈ fsm.handlers, handler.timeout.isSome) → hasTimeoutHandler = true) := by
  constructor
  · rintro ⟨statesWithTimeout, done⟩ ⟨handler, handlerMem, timed⟩
    have required := foldlM_invariant (fun consumed _ =>
        ∀ handler ∈ consumed, handler.timeout.isSome → hasTimeoutHandler = true) done
      (by simp) (fun consumed handler before after previous step => ?_)
    · exact required handler handlerMem timed
    · refine List.forall_mem_append.mpr ⟨previous, List.forall_mem_singleton.mpr ?_⟩
      intro timed
      rw [if_pos timed] at step
      split at step
      · assumption
      · cases step
  · intro required
    refine ⟨_, foldlM_eq_ok (fun statesWithTimeout handler =>
      if handler.timeout.isSome then
        FirstSeen.recordAll id statesWithTimeout handler.targets
      else statesWithTimeout) fun before handler handlerMem => ?_⟩
    split
    next timed => rw [if_pos (required ⟨handler, handlerMem, timed⟩)]
    next => rfl

theorem mem_identifyStatesWithTimeout {fsm : FsmStructure} {hasTimeoutHandler : Bool}
    {statesWithTimeout : List Ident} {state : Ident}
    (done : fsm.identifyStatesWithTimeout hasTimeoutHandler = .ok statesWithTimeout) :
    state ∈ statesWithTimeout ↔ fsm.Timed state := by
  unfold Timed
  refine foldlM_invariant (fun consumed statesWithTimeout =>
      state ∈ statesWithTimeout ↔
        ∃ handler ∈ consumed, handler.timeout.isSome ∧ state ∈ handler.targets) done
    (by simp) fun consumed handler before after previous step => ?_
  simp only [List.mem_append, List.mem_singleton, or_and_right, exists_or, exists_eq_left,
    ← previous]
  split at step
  next timed =>
    split at step
    next =>
      obtain rfl := Except.ok.inj step
      have recorded := FirstSeen.mem_keys_recordAll id before handler.targets state
      simpa [timed] using recorded
    next => cases step
  next untimed =>
    obtain rfl := Except.ok.inj step
    simp [untimed]

/-- The pairwise comparison succeeds exactly when the durations declared for a
state are all the same. -/
theorem validateStateTimeoutConsistency_eq_ok_iff {fsm : FsmStructure} :
    (∃ timeoutByState, fsm.validateStateTimeoutConsistency = .ok timeoutByState) ↔
      FirstSeen.Agree TimeoutDeclaration.state TimeoutDeclaration.duration
        fsm.timeoutDeclarations := by
  have flattened : fsm.validateStateTimeoutConsistency =
      fsm.timeoutDeclarations.foldlM
        (FirstSeen.check TimeoutDeclaration.state TimeoutDeclaration.duration
          timeoutConflict) [] := by
    unfold validateStateTimeoutConsistency timeoutDeclarations
    rw [foldlM_flatMap]
  rw [flattened]
  have nothing : FirstSeen.Agree TimeoutDeclaration.state TimeoutDeclaration.duration [] :=
    by simp [FirstSeen.Agree]
  constructor
  · rintro ⟨timeoutByState, done⟩
    exact ((FirstSeen.foldlM_check_eq_ok_iff nothing).mp done).2
  · exact fun agree =>
      ⟨_, (FirstSeen.foldlM_check_eq_ok_iff nothing).mpr ⟨rfl, agree⟩⟩

/-! ## The graph -/

theorem foldlM_addEdges {Source : Type} {step : DiGraph Ident → Source → Except Error (DiGraph Ident)}
    {sources : List Source} (edges : Source → List (Nat × Nat))
    (steps : ∀ graph : DiGraph Ident, ∀ source ∈ sources,
      step graph source = .ok { graph with edges := graph.edges ++ edges source })
    (graph : DiGraph Ident) :
    sources.foldlM step graph =
      .ok { graph with edges := graph.edges ++ sources.flatMap edges } := by
  induction sources generalizing graph with
  | nil => simp
  | cons source sources ih =>
      rw [List.foldlM_cons, steps graph source (by simp), ok_bind,
        ih fun graph other otherMem => steps graph other (by simp [otherMem])]
      simp

theorem addEdgesInto_eq_ok {nodes : NodeMap} {index : Ident → Nat} {sources : List Ident}
    (found : ∀ source ∈ sources, nodes.get source = some (index source))
    (missing : String) (targetNode : Nat) (graph : DiGraph Ident) :
    addEdgesInto nodes missing targetNode sources graph =
      .ok { graph with
        edges := graph.edges ++ sources.map fun source => (index source, targetNode) } := by
  unfold addEdgesInto
  rw [foldlM_addEdges (fun source => [(index source, targetNode)]), List.map_eq_flatMap]
  intro graph source sourceMem
  simp [lookupNode, found source sourceMem, DiGraph.addEdge]

/-- The states from which a handler may be invoked. -/
def edgeSources (statesWithTimeout : List Ident) (handler : Handler) : List Ident :=
  if handler.isTimeoutHandler then statesWithTimeout else handler.sourceStates

/-- The edges a handler contributes, as pairs of names. -/
def handlerEdges (statesWithTimeout : List Ident) (handler : Handler) :
    List (Ident × Ident) :=
  handler.targets.flatMap fun target =>
    (edgeSources statesWithTimeout handler).map fun source => (source, target)

theorem buildReachabilityGraph_eq_ok {fsm : FsmStructure} {nodes : NodeMap}
    {index : Ident → Nat} {statesWithTimeout : List Ident} (graph : DiGraph Ident)
    (targets : ∀ handler ∈ fsm.handlers, ∀ target ∈ handler.targets,
      nodes.get target = some (index target))
    (sources : ∀ handler ∈ fsm.handlers, ∀ source ∈ edgeSources statesWithTimeout handler,
      nodes.get source = some (index source)) :
    fsm.buildReachabilityGraph nodes statesWithTimeout graph =
      .ok { graph with
        edges := graph.edges ++
          (fsm.handlers.flatMap (handlerEdges statesWithTimeout)).map
            (Prod.map index index) } := by
  unfold buildReachabilityGraph
  rw [foldlM_addEdges fun handler =>
    (handlerEdges statesWithTimeout handler).map (Prod.map index index), List.map_flatMap]
  intro graph handler handlerMem
  rw [foldlM_addEdges fun target =>
    (edgeSources statesWithTimeout handler).map fun source => (index source, index target)]
  · simp only [handlerEdges, List.map_flatMap, List.map_map]
    rfl
  · intro graph target targetMem
    have sourcesFound := sources handler handlerMem
    simp only [addTargetEdges, lookupNode, targets handler handlerMem target targetMem, ok_bind]
    unfold edgeSources at sourcesFound ⊢
    split at sourcesFound <;> rename_i isTimeout <;>
      simp only [isTimeout, if_true, Bool.false_eq_true, if_false] <;>
      exact addEdgesInto_eq_ok sourcesFound _ _ _

/-- The node of a state is its position among the states. -/
theorem addStateNodes_spec {fsm : FsmStructure} (distinct : fsm.stateNames.Nodup) :
    fsm.addStateNodes.1 = { nodes := fsm.stateNames } ∧
      ∀ entry, entry ∈ fsm.addStateNodes.2 ↔
        entry.1 ∈ fsm.stateNames ∧ entry.2 = fsm.stateNames.idxOf entry.1 := by
  unfold addStateNodes stateNames at *
  revert distinct
  induction fsm.states using List.reverseRecOn with
  | nil => simp
  | append_singleton states state ih =>
      intro distinct
      rw [List.map_append, List.map_singleton] at distinct ⊢
      have fresh : state.name ∉ states.map State.name := fun stateMem =>
        (List.disjoint_of_nodup_append distinct) stateMem (by simp)
      obtain ⟨graphEq, entriesIff⟩ := ih distinct.of_append_left
      rw [List.foldl_append, List.foldl_cons, List.foldl_nil]
      generalize states.foldl _ _ = built at graphEq entriesIff
      obtain ⟨graph, nodes⟩ := built
      dsimp only at graphEq entriesIff
      subst graph
      refine ⟨rfl, fun entry => ?_⟩
      have inserted : entry ∈ nodes.insert state.name states.length ↔
          entry = (state.name, states.length) ∨ entry ∈ nodes ∧ entry.1 ≠ state.name := by
        simp [NodeMap.insert]
      simp only [DiGraph.addNode, List.length_map]
      rw [inserted, entriesIff, List.mem_append, List.mem_singleton]
      by_cases isState : entry.1 = state.name
      · rw [isState, List.idxOf_append_of_notMem fresh]
        simp [fresh, Prod.ext_iff, isState]
      · have notEntry : entry ≠ (state.name, states.length) := fun equal =>
          isState (by rw [equal])
        by_cases entryMem : entry.1 ∈ states.map State.name
        · rw [List.idxOf_append_of_mem entryMem]
          simp [isState, notEntry, entryMem]
        · simp [isState, notEntry, entryMem]

/-- A map with one entry for every name finds the entry. -/
theorem get_eq_idxOf {nodes : NodeMap} {names : List Ident}
    (entriesIff : ∀ entry, entry ∈ nodes ↔ entry.1 ∈ names ∧ entry.2 = names.idxOf entry.1)
    {name : Ident} (nameMem : name ∈ names) : nodes.get name = some (names.idxOf name) := by
  have keyMem : name ∈ nodes.map Prod.fst :=
    List.mem_map.mpr ⟨(name, names.idxOf name), (entriesIff _).mpr ⟨nameMem, rfl⟩, rfl⟩
  obtain ⟨entry, found⟩ := FirstSeen.exists_lookup Prod.fst keyMem
  obtain ⟨entryMem, rfl⟩ := FirstSeen.lookup_eq_some found
  rw [NodeMap.get, found, Option.map_some, ((entriesIff entry).mp entryMem).2]

theorem mem_handlerEdges {fsm : FsmStructure} {statesWithTimeout : List Ident}
    (timedIff : ∀ state, state ∈ statesWithTimeout ↔ fsm.Timed state)
    {source target : Ident} :
    (source, target) ∈ fsm.handlers.flatMap (handlerEdges statesWithTimeout) ↔
      fsm.Edge source target := by
  simp only [List.mem_flatMap, handlerEdges, List.mem_map, Prod.mk.injEq]
  constructor
  · rintro ⟨handler, handlerMem, target', targetMem, source', sourceMem, rfl, rfl⟩
    unfold edgeSources at sourceMem
    split at sourceMem
    next isTimeout =>
      exact .timeout handlerMem isTimeout ((timedIff _).mp sourceMem) targetMem
    next isEvent =>
      exact .event handlerMem (Bool.eq_false_iff.mpr isEvent) sourceMem targetMem
  · rintro (⟨handlerMem, isEvent, sourceMem, targetMem⟩ |
      ⟨handlerMem, isTimeout, timed, targetMem⟩)
    · exact ⟨_, handlerMem, target, targetMem, source, by simpa [edgeSources, isEvent], rfl, rfl⟩
    · exact ⟨_, handlerMem, target, targetMem, source,
        by simpa [edgeSources, isTimeout] using (timedIff _).mpr timed, rfl, rfl⟩

theorem Timed.mem_stateNames {fsm : FsmStructure} (closed : fsm.Closed) {state : Ident}
    (timed : fsm.Timed state) : state ∈ fsm.stateNames := by
  obtain ⟨handler, handlerMem, -, targetMem⟩ := timed
  exact closed.targets_mem handler handlerMem state targetMem

theorem Edge.mem_stateNames {fsm : FsmStructure} (closed : fsm.Closed)
    {source target : Ident} (edge : fsm.Edge source target) :
    source ∈ fsm.stateNames ∧ target ∈ fsm.stateNames := by
  cases edge with
  | event handlerMem _ sourceMem targetMem =>
      exact ⟨closed.sourceStates_mem _ handlerMem _ sourceMem,
        closed.targets_mem _ handlerMem _ targetMem⟩
  | timeout handlerMem _ timed targetMem =>
      exact ⟨timed.mem_stateNames closed, closed.targets_mem _ handlerMem _ targetMem⟩

/-- The timeout checks of validation, by the handlers alone. -/
structure TimeoutsValid (fsm : FsmStructure) : Prop where
  single : fsm.handlers.countP Handler.isTimeoutHandler ≤ 1
  handled : (∃ handler ∈ fsm.handlers, handler.timeout.isSome) →
    ∃ handler ∈ fsm.handlers, handler.isTimeoutHandler = true
  agree : FirstSeen.Agree TimeoutDeclaration.state TimeoutDeclaration.duration
    fsm.timeoutDeclarations

/-- The graph has the states as nodes and the declared transitions as edges. -/
structure GraphOf (fsm : FsmStructure) (graph : DiGraph Ident) (initialNode : Nat)
    (nodes : NodeMap) : Prop where
  nodes_eq : graph.nodes = fsm.stateNames
  initialNode_eq : initialNode = fsm.stateNames.idxOf fsm.initialState
  mem_nodes : ∀ entry, entry ∈ nodes ↔
    entry.1 ∈ fsm.stateNames ∧ entry.2 = fsm.stateNames.idxOf entry.1
  edge_iff : ∀ first second, graph.Edge first second ↔
    ∃ source target, fsm.Edge source target ∧
      fsm.stateNames.idxOf source = first ∧ fsm.stateNames.idxOf target = second

theorem Closed.get_eq {fsm : FsmStructure} (closed : fsm.Closed) {name : Ident}
    (nameMem : name ∈ fsm.stateNames) :
    fsm.addStateNodes.2.get name = some (fsm.stateNames.idxOf name) :=
  get_eq_idxOf (addStateNodes_spec closed.nodup).2 nameMem

theorem Closed.lookupNode_initialState {fsm : FsmStructure} (closed : fsm.Closed) :
    lookupNode fsm.addStateNodes.2 "Initial state not found" fsm.initialState =
      .ok (fsm.stateNames.idxOf fsm.initialState) := by
  rw [lookupNode, closed.get_eq closed.initialState_mem]

/-- Every name that is looked up while the edges are added has a node. -/
theorem Closed.buildReachabilityGraph_eq_ok {fsm : FsmStructure} (closed : fsm.Closed)
    {statesWithTimeout : List Ident}
    (timedIff : ∀ state, state ∈ statesWithTimeout ↔ fsm.Timed state) :
    fsm.buildReachabilityGraph fsm.addStateNodes.2 statesWithTimeout fsm.addStateNodes.1 =
      .ok { fsm.addStateNodes.1 with
        edges := fsm.addStateNodes.1.edges ++
          (fsm.handlers.flatMap (handlerEdges statesWithTimeout)).map
            (Prod.map fsm.stateNames.idxOf fsm.stateNames.idxOf) } := by
  apply FsmStructure.buildReachabilityGraph_eq_ok
  · intro handler handlerMem target targetMem
    exact closed.get_eq (closed.targets_mem handler handlerMem target targetMem)
  · intro handler handlerMem source sourceMem
    apply closed.get_eq
    unfold edgeSources at sourceMem
    split at sourceMem
    · exact ((timedIff source).mp sourceMem).mem_stateNames closed
    · exact closed.sourceStates_mem handler handlerMem source sourceMem

/-- Building the graph fails only through the timeout checks: every name that
is looked up has a node. -/
theorem validatedGraph_spec {fsm : FsmStructure} (closed : fsm.Closed) :
    (fsm.TimeoutsValid → ∃ built, fsm.validatedGraph = .ok built) ∧
      ∀ graph initialNode nodes, fsm.validatedGraph = .ok (graph, initialNode, nodes) →
        fsm.TimeoutsValid ∧ fsm.GraphOf graph initialNode nodes := by
  obtain ⟨graphEq, entriesIff⟩ := addStateNodes_spec closed.nodup
  have initialFound := closed.lookupNode_initialState
  have graphBuilt (statesWithTimeout : List Ident)
      (timedIff : ∀ state, state ∈ statesWithTimeout ↔ fsm.Timed state) :=
    closed.buildReachabilityGraph_eq_ok timedIff
  constructor
  · rintro ⟨single, handled, agree⟩
    have contract := validateTimeoutContract_eq_ok_iff.mpr ⟨single, rfl⟩
    obtain ⟨statesWithTimeout, identified⟩ := identifyStatesWithTimeout_eq_ok_iff.mpr
      fun timed => List.any_eq_true.mpr (handled timed)
    obtain ⟨timeoutByState, consistent⟩ :=
      validateStateTimeoutConsistency_eq_ok_iff.mpr agree
    have timedIff (state : Ident) : state ∈ statesWithTimeout ↔ fsm.Timed state :=
      mem_identifyStatesWithTimeout identified
    exact ⟨_, bind_eq_ok_iff.mpr ⟨_, contract, bind_eq_ok_iff.mpr ⟨_, identified,
      bind_eq_ok_iff.mpr ⟨_, consistent, bind_eq_ok_iff.mpr ⟨_, initialFound,
        bind_eq_ok_iff.mpr ⟨_, graphBuilt _ timedIff, rfl⟩⟩⟩⟩⟩⟩
  · intro graph initialNode nodes done
    obtain ⟨hasTimeoutHandler, contract, done⟩ := bind_eq_ok_iff.mp done
    obtain ⟨statesWithTimeout, identified, done⟩ := bind_eq_ok_iff.mp done
    obtain ⟨timeoutByState, consistent, built⟩ := bind_eq_ok_iff.mp done
    have timedIff (state : Ident) : state ∈ statesWithTimeout ↔ fsm.Timed state :=
      mem_identifyStatesWithTimeout identified
    dsimp only at built
    rw [initialFound, ok_bind, graphBuilt _ timedIff, ok_bind] at built
    obtain ⟨single, rfl⟩ := validateTimeoutContract_eq_ok_iff.mp contract
    refine ⟨⟨single, fun timed => ?_, ?_⟩, ?_⟩
    · exact List.any_eq_true.mp (identifyStatesWithTimeout_eq_ok_iff.mp ⟨_, identified⟩ timed)
    · exact validateStateTimeoutConsistency_eq_ok_iff.mp ⟨_, consistent⟩
    · simp only [Except.ok.injEq, Prod.mk.injEq] at built
      obtain ⟨rfl, rfl, rfl⟩ := built
      refine ⟨by rw [graphEq], rfl, entriesIff, fun first second => ?_⟩
      simp only [DiGraph.Edge, graphEq, List.nil_append, List.mem_map]
      constructor
      · rintro ⟨⟨source, target⟩, named, indices⟩
        obtain ⟨rfl, rfl⟩ := Prod.mk.inj indices
        exact ⟨source, target, (mem_handlerEdges timedIff).mp named, rfl, rfl⟩
      · rintro ⟨source, target, edge, rfl, rfl⟩
        exact ⟨(source, target), (mem_handlerEdges timedIff).mpr edge, rfl⟩

/-- Paths in the graph are paths of declared transitions. -/
theorem GraphOf.reaches_iff {fsm : FsmStructure} (closed : fsm.Closed)
    {graph : DiGraph Ident} {initialNode : Nat} {nodes : NodeMap}
    (graphOf : fsm.GraphOf graph initialNode nodes) {state : Ident} :
    graph.Reaches initialNode (fsm.stateNames.idxOf state) ↔ fsm.Reachable state := by
  rw [graphOf.initialNode_eq]
  constructor
  · intro reaches
    have named : ∀ node, graph.Reaches (fsm.stateNames.idxOf fsm.initialState) node →
        ∃ name ∈ fsm.stateNames, fsm.stateNames.idxOf name = node ∧ fsm.Reachable name := by
      intro node reaches
      induction reaches with
      | refl => exact ⟨_, closed.initialState_mem, rfl, .refl⟩
      | tail _ edge ih =>
          obtain ⟨name, nameMem, indexEq, reachable⟩ := ih
          obtain ⟨source, target, edge, sourceEq, targetEq⟩ := (graphOf.edge_iff _ _).mp edge
          obtain ⟨sourceMem, targetMem⟩ := edge.mem_stateNames closed
          obtain rfl : source = name :=
            (List.idxOf_inj sourceMem).mp (sourceEq.trans indexEq.symm)
          exact ⟨target, targetMem, targetEq, reachable.tail edge⟩
    obtain ⟨name, nameMem, indexEq, reachable⟩ := named _ reaches
    rwa [(List.idxOf_inj nameMem).mp indexEq] at reachable
  · exact fun reachable => reachable.lift fsm.stateNames.idxOf fun source target edge =>
      (graphOf.edge_iff _ _).mpr ⟨source, target, edge, rfl, rfl⟩

/-- The graph joins two names exactly when a transition is declared. -/
theorem GraphOf.joins_iff {fsm : FsmStructure} (closed : fsm.Closed)
    {graph : DiGraph Ident} {initialNode : Nat} {nodes : NodeMap}
    (graphOf : fsm.GraphOf graph initialNode nodes) {source target : Ident} :
    graph.Joins source target ↔ fsm.Edge source target := by
  have nodeAt {name : Ident} (nameMem : name ∈ fsm.stateNames) :
      graph.nodes[fsm.stateNames.idxOf name]? = some name := by
    rw [graphOf.nodes_eq]
    exact List.getElem?_idxOf nameMem
  constructor
  · rintro ⟨first, second, joined, sourceAt, targetAt⟩
    obtain ⟨source', target', edge, rfl, rfl⟩ := (graphOf.edge_iff first second).mp joined
    obtain ⟨source'Mem, target'Mem⟩ := edge.mem_stateNames closed
    rw [nodeAt source'Mem] at sourceAt
    rw [nodeAt target'Mem] at targetAt
    rwa [Option.some.inj sourceAt, Option.some.inj targetAt] at edge
  · intro edge
    obtain ⟨sourceMem, targetMem⟩ := edge.mem_stateNames closed
    exact ⟨_, _, (graphOf.edge_iff _ _).mpr ⟨source, target, edge, rfl, rfl⟩,
      nodeAt sourceMem, nodeAt targetMem⟩

theorem GraphOf.checkReachability_eq_ok_iff {fsm : FsmStructure} (closed : fsm.Closed)
    {crates : Crates} {graph : DiGraph Ident} {initialNode : Nat} {nodes : NodeMap}
    (graphOf : fsm.GraphOf graph initialNode nodes) :
    fsm.checkReachability crates graph initialNode nodes = .ok () ↔
      ∀ state ∈ fsm.stateNames, fsm.Reachable state := by
  have initialLt : initialNode < graph.nodes.length := by
    rw [graphOf.initialNode_eq, graphOf.nodes_eq]
    exact List.idxOf_lt_length_of_mem closed.initialState_mem
  have found : fsm.checkReachability crates graph initialNode nodes = .ok () ↔
      ∀ entry ∈ nodes, entry.2 ∈ crates.dfs graph initialNode := by
    dsimp only [checkReachability]
    split
    next name node unreachable =>
      have missed := List.find?_some unreachable
      have entryMem := List.mem_of_find?_eq_some unreachable
      constructor
      · intro failed
        cases failed
      · intro all
        simp [all _ entryMem] at missed
    next none => simpa using none
  rw [found]
  simp only [crates.mem_dfs_iff graph initialNode _ initialLt]
  constructor
  · intro all state stateMem
    exact (graphOf.reaches_iff closed).mp
      (all (state, _) ((graphOf.mem_nodes _).mpr ⟨stateMem, rfl⟩))
  · rintro all ⟨name, node⟩ entryMem
    obtain ⟨nameMem, nodeEq⟩ := (graphOf.mem_nodes _).mp entryMem
    rw [nodeEq]
    exact (graphOf.reaches_iff closed).mpr (all name nameMem)

/-- Validation accepts exactly the structures whose timeouts are in order and
all of whose states can be reached. -/
theorem validate_eq_ok_iff {fsm : FsmStructure} (closed : fsm.Closed) (crates : Crates) :
    fsm.validate crates = .ok () ↔
      fsm.TimeoutsValid ∧ ∀ state ∈ fsm.stateNames, fsm.Reachable state := by
  obtain ⟨succeeds, graphOf⟩ := validatedGraph_spec closed
  unfold validate
  rw [bind_eq_ok_iff]
  constructor
  · rintro ⟨⟨graph, initialNode, nodes⟩, built, checked⟩
    obtain ⟨valid, graphOf⟩ := graphOf _ _ _ built
    exact ⟨valid, (graphOf.checkReachability_eq_ok_iff closed).mp checked⟩
  · rintro ⟨valid, reachable⟩
    obtain ⟨⟨graph, initialNode, nodes⟩, built⟩ := succeeds valid
    obtain ⟨-, graphOf⟩ := graphOf _ _ _ built
    exact ⟨_, built, (graphOf.checkReachability_eq_ok_iff closed).mpr reachable⟩

end FsmStructure

end TokioFsm
