import TokioFsm.StateTimer

/-!
# Runs follow the validated graph

Every transition of a run is an edge of the graph that validation searched.
For event handlers this is read off the generated arms.  The timeout handler
is tied to the validator's set of states with a timeout through the timer: in
any other state the sleep is set a century ahead, so it fires there only if
the machine rests in that state for a century.
-/

namespace TokioFsm

open Fallible GraphSearch

variable {Context Payload Failure : Type}

/-- No stay in a state without a timeout outlasts the loop's century. -/
def ShortStays (fsm : FsmStructure) (trace : List (Moment Context Payload Failure)) : Prop :=
  ∀ before config action after, trace = before ++ (config, action) :: after →
    config.phase = .selecting → ¬ fsm.Timed config.fsm.state →
      ∀ reading, LastEntered before config.fsm.state reading →
        config.clock < reading + noTimeoutSecs * 1000000000

theorem ShortStays.of_append {fsm : FsmStructure}
    {first second : List (Moment Context Payload Failure)}
    (short : ShortStays fsm (first ++ second)) : ShortStays fsm first := by
  intro before config action after cut
  apply short before config action (after ++ second)
  rw [cut, List.append_assoc, List.cons_append]

section Accepted

variable {crates : Crates} {args : FsmArgs} {block : ItemImpl}
  (machine : AcceptedFsm crates args block) {representable : Nat → Bool}
  {initial last : Config Context Payload Failure}
  {trace : List (Moment Context Payload Failure)}

/-- An arm of the generated match belongs to a handler of that event in that
state. -/
theorem AcceptedFsm.handles_of_matchArm {state event : Ident} {arm : EventArm}
    (matched : machine.program.matchArm state event = some arm) :
    arm.call.handler ∈ machine.fsm.handlers ∧ arm.call.handler.Handles state event := by
  have found := (machine.matchArm_eq_some matched).1
  have handles := List.find?_some found
  rw [decide_eq_true_eq] at handles
  exact ⟨List.mem_of_find?_eq_some found, handles⟩

theorem AcceptedFsm.isEvent_of_matchArm {state event : Ident} {arm : EventArm}
    (matched : machine.program.matchArm state event = some arm) :
    arm.call.handler.isTimeoutHandler = false := by
  rcases machine.handles_of_matchArm matched with ⟨handlerMem, handles⟩
  apply (machine.wellFormed handlerMem).exclusive
  exact handles.event_isSome

/-- When the timer fires, the state has a timeout. -/
theorem Executes.timed_of_timer
    (executes : Executes machine.program representable initial trace last)
    (isSelecting : last.phase = .selecting) (isDue : last.deadline ≤ last.clock)
    (short : ShortStays machine.fsm (trace ++ [(last, .loop .timerBranch)])) :
    machine.fsm.Timed last.fsm.state := by
  have armed := executes.armed (by rw [isSelecting]; trivial)
  rw [Config.loopState_of_selecting isSelecting] at armed
  rcases armed with ⟨reading, entered, -, deadlineEq⟩
  by_contra untimed
  have stay := short trace last _ [] rfl isSelecting untimed reading entered
  rw [machine.timeoutFor_eq_noTimeout untimed] at deadlineEq
  omega

/-- A timeout handler in flight was called in a state with a timeout. -/
theorem Executes.calling_timed
    (executes : Executes machine.program representable initial trace last)
    (short : ShortStays machine.fsm trace) (call : HandlerCall) (argument : Option Payload)
    (entry : FsmInstance Context) (isCalling : last.phase = .calling call argument entry)
    (isTimeout : call.handler.isTimeoutHandler = true) :
    machine.fsm.Timed entry.state := by
  induction executes using Executes.rec_moves with
  | spawned _ begin =>
      rw [begin.phase_eq] at isCalling
      cases isCalling
  | environment trace middle action last _ _ move timed =>
      rw [move.phase_eq] at isCalling
      exact timed short.of_append isCalling
  | loop trace middle action last executes _ move timed =>
      rcases move.calling_cases isCalling with before |
        ⟨rfl, isSelecting, isDue, logic, -, rfl⟩ | ⟨-, -, event, queue, arm, -, found, rfl, -, -⟩
      · exact timed short.of_append before
      · exact executes.timed_of_timer machine isSelecting isDue short
      · rw [machine.isEvent_of_matchArm found] at isTimeout
        cases isTimeout

/-- Every transition is declared by the handler that returned it. -/
theorem Executes.transition_edge
    (executes : Executes machine.program representable initial trace last)
    (short : ShortStays machine.fsm trace) {moment : Moment Context Payload Failure}
    (momentMem : moment ∈ trace) {source target : Ident}
    (transition : moment.transition = some (source, target)) :
    machine.fsm.Edge source target := by
  rcases Moment.transition_eq_some transition with
    ⟨config, after, output, call, argument, entry, rfl, isCalling, dispatched, rfl⟩
  rcases List.append_of_mem momentMem with ⟨before, rest, cut⟩
  rcases executes.moment cut with ⟨toConfig, next, taken, -⟩
  have callFrom := ((toConfig.sound machine).calling call argument entry isCalling).2
  have handlerMem := (machine.callFrom_spec callFrom).1
  have targetMem : target ∈ call.handler.targets := by
    cases LoopMove.of_loopStep taken with
    | handlerReady isCalling' typed returns dispatched' =>
        rw [isCalling] at isCalling'
        cases isCalling'
        rcases returns.dispatch with ⟨result, resultEq, inTargets⟩
        apply inTargets
        rw [dispatched] at resultEq
        exact (Option.some.inj resultEq).symm
  cases callFrom with
  | event matched =>
      exact .event handlerMem (machine.isEvent_of_matchArm matched)
        (machine.handles_of_matchArm matched).2.1 targetMem
  | timer logic =>
      have isTimeout := (machine.timeoutLogic_eq_some logic).2.1
      rw [cut] at short
      exact .timeout handlerMem isTimeout
        (toConfig.calling_timed machine short.of_append call argument entry isCalling isTimeout)
        targetMem

/-- The graph that validation built, with the set it computed on the way. -/
theorem AcceptedFsm.exists_validatedGraph :
    ∃ hasTimeoutHandler statesWithTimeout graph initialNode nodes,
      machine.fsm.validateTimeoutContract = .ok hasTimeoutHandler ∧
        machine.fsm.identifyStatesWithTimeout hasTimeoutHandler = .ok statesWithTimeout ∧
          machine.fsm.validatedGraph = .ok (graph, initialNode, nodes) ∧
            machine.fsm.GraphOf graph initialNode nodes := by
  have valid := machine.timeoutsValid
  rcases machine.exists_graphOf with ⟨graph, initialNode, nodes, built, graphOf⟩
  have contract := FsmStructure.validateTimeoutContract_eq_ok_iff.mpr ⟨valid.single, rfl⟩
  rcases FsmStructure.identifyStatesWithTimeout_eq_ok_iff.mpr
    fun timed => List.any_eq_true.mpr (valid.handled timed) with ⟨statesWithTimeout, identified⟩
  exact ⟨_, statesWithTimeout, graph, initialNode, nodes, contract, identified, built, graphOf⟩

/-- Transitions are edges of the validated graph, event handlers are invoked
for their own events in their own source states, the timeout handler only in
states with a timeout, and the state can always be reached in the graph. -/
theorem execution_refines_graph
    (executes : Executes machine.program representable initial trace last)
    (short : ShortStays machine.fsm trace) :
    ∃ hasTimeoutHandler statesWithTimeout graph initialNode nodes,
      machine.fsm.validateTimeoutContract = .ok hasTimeoutHandler ∧
      machine.fsm.identifyStatesWithTimeout hasTimeoutHandler = .ok statesWithTimeout ∧
      machine.fsm.validatedGraph = .ok (graph, initialNode, nodes) ∧
      (∀ moment ∈ trace, ∀ source target, moment.transition = some (source, target) →
        ∃ sourceNode targetNode, nodes.get source = some sourceNode ∧
          nodes.get target = some targetNode ∧ graph.Edge sourceNode targetNode) ∧
      (∀ config, (config, .loop .recvBranch) ∈ trace → ∀ call argument,
        Moment.invoked machine.program (config, .loop .recvBranch) = some (call, argument) →
          ∃ event, config.queue.head? = some event ∧ call.handler ∈ machine.fsm.handlers ∧
            ⟨config.fsm.state, event.variant⟩ ∈ onAttrs crates call.handler.method.attrs) ∧
      (∀ config, (config, .loop .timerBranch) ∈ trace → ∀ call argument,
        Moment.invoked machine.program (config, .loop .timerBranch) = some (call, argument) →
          call.handler ∈ machine.fsm.handlers ∧ call.handler.isTimeoutHandler = true ∧
            config.fsm.state ∈ statesWithTimeout) ∧
      ∀ config, config = last ∨ (∃ action, (config, action) ∈ trace) →
        config.fsm.state ∈ machine.program.stateEnum ∧
          ∃ node, nodes.get config.fsm.state = some node ∧
            graph.Reaches initialNode node := by
  rcases machine.exists_validatedGraph with
    ⟨hasTimeoutHandler, statesWithTimeout, graph, initialNode, nodes, contract, identified,
      built, graphOf⟩
  refine ⟨hasTimeoutHandler, statesWithTimeout, graph, initialNode, nodes, contract,
    identified, built, ?_, ?_, ?_, ?_⟩
  · intro moment momentMem source target transition
    have edge := executes.transition_edge machine short momentMem transition
    rcases edge.mem_stateNames machine.closed with ⟨sourceMem, targetMem⟩
    exact ⟨_, _, FsmStructure.get_eq_idxOf graphOf.mem_nodes sourceMem,
      FsmStructure.get_eq_idxOf graphOf.mem_nodes targetMem,
      (graphOf.edge_iff _ _).mpr ⟨source, target, edge, rfl, rfl⟩⟩
  · intro config _ call argument invoked
    rcases Option.bind_eq_some_iff.mp invoked with ⟨event, headEq, armEq⟩
    rcases Option.map_eq_some_iff.mp armEq with ⟨arm, matched, callEq⟩
    cases callEq
    rcases machine.handles_of_matchArm matched with ⟨handlerMem, handles⟩
    exact ⟨event, headEq, handlerMem,
      ((machine.parsedFrom handlerMem).handles_iff _ _).mpr handles⟩
  · intro config momentMem call argument invoked
    rcases Option.map_eq_some_iff.mp invoked with ⟨call', logic, callEq⟩
    cases callEq
    rcases machine.timeoutLogic_eq_some logic with ⟨handlerMem, isTimeout, -, -⟩
    refine ⟨handlerMem, isTimeout, (FsmStructure.mem_identifyStatesWithTimeout identified).mpr ?_⟩
    rcases List.append_of_mem momentMem with ⟨before, rest, cut⟩
    rcases executes.moment cut with ⟨toConfig, next, taken, -⟩
    have fired : config.phase = .selecting ∧ config.deadline ≤ config.clock := by
      cases LoopMove.of_loopStep taken with
      | expiredUnhandled isSelecting isDue => exact ⟨isSelecting, isDue⟩
      | expired isSelecting isDue => exact ⟨isSelecting, isDue⟩
    rw [cut, List.append_cons] at short
    exact toConfig.timed_of_timer machine fired.1 fired.2 short.of_append
  · intro config visited
    have toConfig : ∃ before, Executes machine.program representable initial before config := by
      rcases visited with rfl | ⟨action, momentMem⟩
      · exact ⟨trace, executes⟩
      · rcases List.append_of_mem momentMem with ⟨before, rest, cut⟩
        exact ⟨before, (executes.moment cut).1⟩
    rcases toConfig with ⟨before, toConfig⟩
    have stateMem := (toConfig.sound machine).state_mem
    refine ⟨stateMem, _, FsmStructure.get_eq_idxOf graphOf.mem_nodes ?_,
      (graphOf.reaches_iff machine.closed).mpr (machine.reachable ?_)⟩
    · rwa [← machine.stateEnum_eq]
    · rwa [← machine.stateEnum_eq]

end Accepted

/-- The worker goes back and forth between its states. -/
theorem execution_refines_graph_worker :
    ∃ graph initialNode nodes, worker.fsm.validatedGraph = .ok (graph, initialNode, nodes) ∧
      ∃ workingNode idleNode, nodes.get "Working" = some workingNode ∧
        nodes.get "Idle" = some idleNode ∧ graph.Edge workingNode idleNode := by
  have clocks : ∀ moment ∈ workerRun.1,
      moment.1.clock < noTimeoutSecs * 1000000000 := by decide
  have short : ShortStays worker.fsm workerRun.1 := by
    intro before config action after cut _ _ reading _
    have early : config.clock < noTimeoutSecs * 1000000000 :=
      clocks (config, action) (by rw [cut]; simp)
    exact Nat.lt_of_lt_of_le early (Nat.le_add_left _ _)
  rcases execution_refines_graph worker workerRun_executes short with
    ⟨_, _, graph, initialNode, nodes, _, _, built, edges, _⟩
  exact ⟨graph, initialNode, nodes, built,
    edges (workerRun.1.get ⟨9, by decide⟩) (List.get_mem _ _) "Working" "Idle" (by decide)⟩

end TokioFsm
