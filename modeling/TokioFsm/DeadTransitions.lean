import TokioFsm.EntryTimes

/-!
# Dead transitions

The graph has an edge for every declared transition, but of several arms for an
event in a state only the first can match.  The main theorem says exactly when
every declared transition is taken in some run, and so every state entered.
When no deadline is out of range it is enough that no two methods declare the
same event in the same state and that the machine can be spawned at all: the
rest follows from the search of the graph.
-/

namespace TokioFsm

open StepRuns

section Taking

variable (program : GeneratedFsm) (Context Payload Failure : Type)
  (representable : Nat → Bool)

/-- Some run receives the event in the state, invokes for it this handler and no
other, and moves to the target. -/
def TakesOnEvent (handler : Handler) (state event target : Ident) : Prop :=
  ∃ (initial sent last : Config Context Payload Failure)
    (before rest : List (Moment Context Payload Failure)),
      Executes program representable initial (before ++ (sent, .loop .recvBranch) :: rest)
          last ∧
        sent.phase = .selecting ∧ sent.fsm.state = state ∧
          sent.queue.head?.map EventValue.variant = some event ∧
            OneTransition program ((sent, .loop .recvBranch) :: rest) handler state target ∧
              last.phase = .rearming ∧ last.fsm.state = target

/-- In some run the timer fires in the state and its handler moves to the
target. -/
def TakesOnTimeout (handler : Handler) (state target : Ident) : Prop :=
  ∃ (initial waiting last : Config Context Payload Failure)
    (before rest : List (Moment Context Payload Failure)),
      Executes program representable initial
          (before ++ (waiting, .loop .timerBranch) :: rest) last ∧
        waiting.phase = .selecting ∧ waiting.fsm.state = state ∧
          OneTransition program ((waiting, .loop .timerBranch) :: rest) handler state target ∧
            last.phase = .rearming ∧ last.fsm.state = target

/-- Some run makes this its current state. -/
def BecomesCurrent (state : Ident) : Prop :=
  ∃ (initial last : Config Context Payload Failure)
    (trace : List (Moment Context Payload Failure)),
      Executes program representable initial trace last ∧ last.phase = .rearming ∧
        last.fsm.state = state

variable {program Context Payload Failure representable}

theorem TakesOnEvent.becomesCurrent {handler : Handler} {state event target : Ident}
    (takes : TakesOnEvent program Context Payload Failure representable handler state event
      target) : BecomesCurrent program Context Payload Failure representable target := by
  rcases takes with
    ⟨initial, sent, last, before, rest, executes, -, -, -, -, isRearming, stateEq⟩
  exact ⟨initial, last, _, executes, isRearming, stateEq⟩

theorem TakesOnTimeout.becomesCurrent {handler : Handler} {state target : Ident}
    (takes : TakesOnTimeout program Context Payload Failure representable handler state
      target) : BecomesCurrent program Context Payload Failure representable target := by
  rcases takes with ⟨initial, waiting, last, before, rest, executes, -, -, -, isRearming, stateEq⟩
  exact ⟨initial, last, _, executes, isRearming, stateEq⟩

end Taking

/-- No two methods declare the same event in the same state. -/
def ItemImpl.Unambiguous (crates : Crates) (block : ItemImpl) : Prop :=
  ∀ first second, block.Declares crates first → block.Declares crates second →
    ∀ onAttr ∈ onAttrs crates first.method.attrs,
      onAttr ∈ onAttrs crates second.method.attrs → first = second

/-- A transition is declared out of the state. -/
inductive FsmStructure.Leaves (fsm : FsmStructure) (crates : Crates) (block : ItemImpl) :
    Ident → Prop
  | event {handler : Handler} {state event : Ident} : block.Declares crates handler →
      ⟨state, event⟩ ∈ onAttrs crates handler.method.attrs → fsm.Leaves crates block state
  | timeout {state : Ident} : fsm.Timed state → fsm.Leaves crates block state

section Accepted

variable {crates : Crates} {args : FsmArgs} {block : ItemImpl}
  (machine : AcceptedFsm crates args block)

/-- Every declared transition is taken in some run, and every state entered. -/
structure NoDeadTransition (Context Payload Failure : Type) (representable : Nat → Bool) :
    Prop where
  event : ∀ handler, block.Declares crates handler → ∀ state event,
    ⟨state, event⟩ ∈ onAttrs crates handler.method.attrs → ∀ target ∈ handler.targets,
      TakesOnEvent machine.program Context Payload Failure representable handler state event
        target
  timeout : ∀ handler, block.Declares crates handler → handler.isTimeoutHandler = true →
    ∀ state, machine.fsm.Timed state → ∀ target ∈ handler.targets,
      TakesOnTimeout machine.program Context Payload Failure representable handler state target
  current : ∀ state ∈ machine.program.stateEnum,
    BecomesCurrent machine.program Context Payload Failure representable state

variable {Context Payload Failure : Type} {representable : Nat → Bool}

theorem AcceptedFsm.handles_of_onAttr {handler : Handler} {state event : Ident}
    (declared : block.Declares crates handler)
    (attrMem : ⟨state, event⟩ ∈ onAttrs crates handler.method.attrs) :
    handler ∈ machine.fsm.handlers ∧ handler.Handles state event := by
  have handlerMem := machine.mem_handlers_iff.mpr declared
  exact ⟨handlerMem, ((machine.parsedFrom handlerMem).handles_iff _ _).mp attrMem⟩

variable {machine}

/-! ## What the runs need -/

/-- The handler that a run invokes for its event is the first one declared. -/
theorem TakesOnEvent.find_eq {handler : Handler} {state event target : Ident}
    (takes : TakesOnEvent machine.program Context Payload Failure representable handler state
      event target)
    (handlerMem : handler ∈ machine.fsm.handlers) (handles : handler.Handles state event) :
    machine.fsm.handlers.find? (fun handler => decide (handler.Handles state event)) =
      some handler := by
  have isFound : (machine.fsm.handlers.find?
      fun handler => decide (handler.Handles state event)).isSome := by
    rw [List.find?_isSome]
    exact ⟨handler, handlerMem, decide_eq_true handles⟩
  rcases Option.isSome_iff_exists.mp isFound with ⟨first, found⟩
  rcases machine.exists_arm found with ⟨arm, matched, armHandler⟩
  rcases takes with ⟨initial, sent, last, before, rest, -, -, sentState, queued, one, -, -⟩
  rcases one.invoked with ⟨call, argument, callHandler, invoked⟩
  have called : call = arm.call := by
    rcases Option.map_eq_some_iff.mp queued with ⟨value, headEq, variantEq⟩
    have invokedHead : Moment.invoked machine.program (sent, .loop .recvBranch) =
        some (arm.call, if arm.call.passesPayload then value.payload else none) := by
      simp [Moment.invoked, headEq, sentState, variantEq, matched]
    rw [List.filterMap_cons_some invokedHead] at invoked
    exact (Prod.mk.inj (List.cons.inj invoked).1).1.symm
  rw [found, ← armHandler, ← called, callHandler]

/-- A transition taken on an event begins in a state entered in range. -/
theorem TakesOnEvent.entersInRange {handler : Handler} {state event target : Ident}
    (takes : TakesOnEvent machine.program Context Payload Failure representable handler state
      event target) : machine.fsm.EntersInRange representable state := by
  rcases takes with ⟨initial, sent, last, before, rest, executes, isSelecting, sentState, -⟩
  rw [← sentState]
  exact (executes.moment rfl).1.entersInRange machine isSelecting

theorem TakesOnTimeout.entersInRange {handler : Handler} {state target : Ident}
    (takes : TakesOnTimeout machine.program Context Payload Failure representable handler state
      target) : machine.fsm.EntersInRange representable state := by
  rcases takes with ⟨initial, waiting, last, before, rest, executes, isSelecting, stateEq, -⟩
  rw [← stateEq]
  exact (executes.moment rfl).1.entersInRange machine isSelecting

theorem BecomesCurrent.channelSize_le {state : Ident}
    (becomes : BecomesCurrent machine.program Context Payload Failure representable state) :
    args.channelSize ≤ usizeMax >>> 3 := by
  rcases becomes with ⟨initial, last, trace, executes, -⟩
  rw [← machine.channelSize_eq]
  exact executes.spawned_initial.channelSize_le

namespace NoDeadTransition

variable (live : NoDeadTransition machine Context Payload Failure representable)
include live

theorem channelSize_le : args.channelSize ≤ usizeMax >>> 3 := by
  have initialMem : machine.fsm.initialState ∈ machine.program.stateEnum := by
    rw [machine.stateEnum_eq]
    exact machine.closed.initialState_mem
  exact (live.current _ initialMem).channelSize_le

/-- Two methods for the same event in the same state cannot both be invoked. -/
theorem unambiguous : block.Unambiguous crates := by
  have isFirst {handler : Handler} {onAttr : OnAttr} (declared : block.Declares crates handler)
      (attrMem : onAttr ∈ onAttrs crates handler.method.attrs) :
      machine.fsm.handlers.find?
        (fun handler => decide (handler.Handles onAttr.state onAttr.event)) = some handler := by
    rcases machine.handles_of_onAttr declared attrMem with ⟨handlerMem, handles⟩
    rcases (machine.wellFormed handlerMem).exists_target (.inl handles.event_isSome) with
      ⟨target, targetMem⟩
    exact (live.event handler declared _ _ attrMem target targetMem).find_eq handlerMem handles
  intro first second firstDeclared secondDeclared onAttr firstMem secondMem
  have firstFound := isFirst firstDeclared firstMem
  rw [isFirst secondDeclared secondMem] at firstFound
  exact (Option.some.inj firstFound).symm

theorem entersInRange {state : Ident} (leaves : machine.fsm.Leaves crates block state) :
    machine.fsm.EntersInRange representable state := by
  cases leaves with
  | @event handler _ event declared attrMem =>
      rcases machine.handles_of_onAttr declared attrMem with ⟨handlerMem, handles⟩
      rcases (machine.wellFormed handlerMem).exists_target (.inl handles.event_isSome) with
        ⟨target, targetMem⟩
      exact (live.event handler declared _ _ attrMem target targetMem).entersInRange
  | timeout timed =>
      rcases timed with ⟨timedHandler, timedMem, hasTimeout, stateMem⟩
      rcases machine.timeoutsValid.handled ⟨timedHandler, timedMem, hasTimeout⟩ with
        ⟨handler, handlerMem, isTimeout⟩
      rcases (machine.wellFormed handlerMem).exists_target (.inr isTimeout) with
        ⟨target, targetMem⟩
      exact (live.timeout handler (machine.mem_handlers_iff.mp handlerMem) isTimeout state
        ⟨timedHandler, timedMem, hasTimeout, stateMem⟩ target targetMem).entersInRange

end NoDeadTransition

/-! ## The runs -/

theorem AcceptedFsm.handles_of_source {handler : Handler} {source : Ident}
    (handlerMem : handler ∈ machine.fsm.handlers) (sourceMem : source ∈ handler.sourceStates) :
    ∃ event, handler.Handles source event := by
  cases eventEq : handler.event with
  | none =>
      have noSources := (machine.wellFormed handlerMem).sourceStates_eq_nil_iff.mpr eventEq
      rw [noSources] at sourceMem
      exact absurd sourceMem List.not_mem_nil
  | some event => exact ⟨event.name, sourceMem, by rw [eventEq]; rfl⟩

/-- Where no two methods compete, a declared handler is the first. -/
theorem AcceptedFsm.find_eq (unambiguous : block.Unambiguous crates) {handler : Handler}
    {state event : Ident} (handlerMem : handler ∈ machine.fsm.handlers)
    (handles : handler.Handles state event) :
    machine.fsm.handlers.find? (fun handler => decide (handler.Handles state event)) =
      some handler := by
  have isFound : (machine.fsm.handlers.find?
      fun handler => decide (handler.Handles state event)).isSome := by
    rw [List.find?_isSome]
    exact ⟨handler, handlerMem, decide_eq_true handles⟩
  rcases Option.isSome_iff_exists.mp isFound with ⟨first, found⟩
  have firstMem := List.mem_of_find?_eq_some found
  have firstHandles := List.find?_some found
  rw [decide_eq_true_eq] at firstHandles
  have same := unambiguous first handler (machine.mem_handlers_iff.mp firstMem)
    (machine.mem_handlers_iff.mp handlerMem) ⟨state, event⟩
    (((machine.parsedFrom firstMem).handles_iff _ _).mpr firstHandles)
    (((machine.parsedFrom handlerMem).handles_iff _ _).mpr handles)
  rw [found, same]

section Reaching

variable [Inhabited Context] [Inhabited Payload]

theorem TakesOnEvent.of_entersInRange (capacity : args.channelSize ≤ usizeMax >>> 3)
    {handler : Handler} {state event target : Ident}
    (found : machine.fsm.handlers.find? (fun handler => decide (handler.Handles state event)) =
      some handler)
    (inRange : machine.fsm.EntersInRange representable state)
    (targetMem : target ∈ handler.targets) :
    TakesOnEvent machine.program Context Payload Failure representable handler state event
      target := by
  rw [← machine.channelSize_eq] at capacity
  rcases inRange.exists_executes Context Payload Failure machine capacity with
    ⟨initial, trace, waiting, clock, executes, isSelecting, -, quiet⟩
  rcases executes.exists_event machine isSelecting quiet found targetMem with
    ⟨before, sent, rest, final, executes, sentSelecting, sentState, queued, one, isRearming,
      finalQuiet⟩
  exact ⟨initial, sent, final, before, rest, executes, sentSelecting, sentState, queued, one,
    isRearming, finalQuiet.state_eq⟩

theorem TakesOnTimeout.of_entersInRange (capacity : args.channelSize ≤ usizeMax >>> 3)
    {handler : Handler} {state target : Ident} (handlerMem : handler ∈ machine.fsm.handlers)
    (isTimeout : handler.isTimeoutHandler = true)
    (inRange : machine.fsm.EntersInRange representable state)
    (targetMem : target ∈ handler.targets) :
    TakesOnTimeout machine.program Context Payload Failure representable handler state
      target := by
  rw [← machine.channelSize_eq] at capacity
  rcases inRange.exists_executes Context Payload Failure machine capacity with
    ⟨initial, trace, waiting, clock, executes, isSelecting, isDue, quiet⟩
  rcases executes.exists_timeout machine isSelecting quiet isDue handlerMem isTimeout
      targetMem with
    ⟨rest, final, executes, one, isRearming, finalQuiet⟩
  exact ⟨initial, waiting, final, trace, rest, executes, isSelecting, quiet.state_eq, one,
    isRearming, finalQuiet.state_eq⟩

/-- Every state is the initial state or the target of a transition that is not
dead, because validation searched the graph. -/
theorem BecomesCurrent.of_mem (capacity : args.channelSize ≤ usizeMax >>> 3)
    (unambiguous : block.Unambiguous crates)
    (inRange : ∀ state, machine.fsm.Leaves crates block state →
      machine.fsm.EntersInRange representable state)
    {state : Ident} (stateMem : state ∈ machine.program.stateEnum) :
    BecomesCurrent machine.program Context Payload Failure representable state := by
  rw [machine.stateEnum_eq] at stateMem
  cases machine.reachable stateMem with
  | refl =>
      rw [← machine.channelSize_eq] at capacity
      have start := @exists_start Context Payload Failure machine.program representable default 0
        machine.channelSize_pos capacity
      rcases start with ⟨initial, trace, last, executes, isRearming, quiet⟩
      rw [machine.initialState_eq] at quiet
      exact ⟨initial, last, trace, executes, isRearming, quiet.state_eq⟩
  | @tail source _ _ edge =>
      cases edge with
      | event handlerMem _ sourceMem targetMem =>
          rcases machine.handles_of_source handlerMem sourceMem with ⟨event, handles⟩
          have leaves : machine.fsm.Leaves crates block source :=
            .event (machine.mem_handlers_iff.mp handlerMem)
              (((machine.parsedFrom handlerMem).handles_iff _ _).mpr handles)
          have found := machine.find_eq unambiguous handlerMem handles
          exact TakesOnEvent.becomesCurrent
            (.of_entersInRange capacity found (inRange source leaves) targetMem)
      | timeout handlerMem isTimeout timed targetMem =>
          exact TakesOnTimeout.becomesCurrent
            (.of_entersInRange capacity handlerMem isTimeout (inRange source (.timeout timed))
              targetMem)

/-- Under these conditions nothing is dead. -/
theorem NoDeadTransition.of_conditions (capacity : args.channelSize ≤ usizeMax >>> 3)
    (unambiguous : block.Unambiguous crates)
    (inRange : ∀ state, machine.fsm.Leaves crates block state →
      machine.fsm.EntersInRange representable state) :
    NoDeadTransition machine Context Payload Failure representable where
  event handler declared state event attrMem target targetMem := by
    rcases machine.handles_of_onAttr declared attrMem with ⟨handlerMem, handles⟩
    exact .of_entersInRange capacity (machine.find_eq unambiguous handlerMem handles)
      (inRange state (.event declared attrMem)) targetMem
  timeout handler declared isTimeout state timed target targetMem :=
    .of_entersInRange capacity (machine.mem_handlers_iff.mpr declared) isTimeout
      (inRange state (.timeout timed)) targetMem
  current state stateMem := .of_mem capacity unambiguous inRange stateMem

/-- With every deadline in range, each state of the graph is entered. -/
theorem AcceptedFsm.entersAt_of_reachable (unambiguous : block.Unambiguous crates)
    {state : Ident} (reachable : machine.fsm.Reachable state) :
    ∃ clock, machine.fsm.EntersAt (fun _ => true) state clock := by
  induction reachable with
  | refl => exact ⟨0, .initial 0⟩
  | @tail source _ _ edge ih =>
      rcases ih with ⟨clock, enters⟩
      have timeout : machine.fsm.TimeoutOf source (machine.program.timeoutFor source) :=
        machine.timeoutOf_iff.mpr rfl
      cases edge with
      | event handlerMem _ sourceMem targetMem =>
          rcases machine.handles_of_source handlerMem sourceMem with ⟨event, handles⟩
          exact ⟨clock, .event enters timeout rfl (Nat.le_refl _)
            (machine.find_eq unambiguous handlerMem handles) targetMem⟩
      | timeout handlerMem isTimeout timed targetMem =>
          exact ⟨_, .timeout enters timeout rfl (Nat.le_refl _) handlerMem isTimeout targetMem⟩

/-- States that are left are among those that validation has found reachable. -/
theorem AcceptedFsm.reachable_of_leaves {state : Ident}
    (leaves : machine.fsm.Leaves crates block state) : machine.fsm.Reachable state := by
  apply machine.reachable
  cases leaves with
  | event declared attrMem =>
      rcases machine.handles_of_onAttr declared attrMem with ⟨handlerMem, handles⟩
      exact machine.closed.sourceStates_mem _ handlerMem _ handles.1
  | timeout timed =>
      rcases timed with ⟨handler, handlerMem, -, targetMem⟩
      exact machine.closed.targets_mem _ handlerMem _ targetMem

end Reaching

variable (machine) in
/-- Exactly when no declared transition is dead: the machine can be spawned, no
two methods declare the same event in the same state, and the states that are
left are entered early enough to set the timer, which goes without saying where
no deadline is out of range. -/
theorem no_dead_transition_iff [Inhabited Context] [Inhabited Payload] :
    (∀ representable, NoDeadTransition machine Context Payload Failure representable ↔
      args.channelSize ≤ usizeMax >>> 3 ∧ block.Unambiguous crates ∧
        ∀ state, machine.fsm.Leaves crates block state →
          machine.fsm.EntersInRange representable state) ∧
      (NoDeadTransition machine Context Payload Failure (fun _ => true) ↔
        args.channelSize ≤ usizeMax >>> 3 ∧ block.Unambiguous crates) := by
  refine ⟨fun representable => ⟨fun live => ?_, ?_⟩, fun live => ?_, ?_⟩
  · exact ⟨live.channelSize_le, live.unambiguous, fun _ => live.entersInRange⟩
  · rintro ⟨capacity, unambiguous, inRange⟩
    exact .of_conditions capacity unambiguous inRange
  · exact ⟨live.channelSize_le, live.unambiguous⟩
  · rintro ⟨capacity, unambiguous⟩
    refine .of_conditions capacity unambiguous fun state leaves => ?_
    rcases machine.entersAt_of_reachable unambiguous (machine.reachable_of_leaves leaves) with
      ⟨clock, enters⟩
    exact ⟨clock, _, enters, machine.timeoutOf_iff.mpr rfl, rfl⟩

end Accepted

/-- The methods of the worker do not compete. -/
theorem no_dead_transition_worker :
    NoDeadTransition worker Nat Nat String (fun _ => true) := by
  refine (no_dead_transition_iff worker).2.mpr ⟨by decide, ?_⟩
  have distinct : ∀ first ∈ worker.fsm.handlers, ∀ second ∈ worker.fsm.handlers,
      ∀ onAttr ∈ onAttrs sampleCrates first.method.attrs,
        onAttr ∈ onAttrs sampleCrates second.method.attrs → first = second := by decide
  intro first second firstDeclared secondDeclared
  exact distinct first (worker.mem_handlers_iff.mpr firstDeclared) second
    (worker.mem_handlers_iff.mpr secondDeclared)

/-! ## Two methods for one event -/

/-- Only the second method leads to the other state. -/
def rivalBlock : ItemImpl where
  selfTy := namedType "WorkerFsm"
  items := workerTypes ++ [
    asyncMethod [onAttribute "Idle" "Start"] "handle_start" [] (transitionType "Idle"),
    asyncMethod [onAttribute "Idle" "Start"] "handle_work" [] (transitionType "Working")]

def rival : AcceptedFsm sampleCrates workerArgs rivalBlock :=
  (accept sampleCrates workerArgs rivalBlock).get (by decide)

theorem rival_entersAt {state : Ident} {clock : Nat}
    (enters : rival.fsm.EntersAt (fun _ => true) state clock) : state = "Idle" := by
  induction enters with
  | initial => decide
  | @event source event target _ _ _ handler _ _ _ _ found targetMem ih =>
      subst ih
      have isStart : event = "Start" := by
        have onlyStart : ∀ handler ∈ rival.fsm.handlers,
            handler.event.map Event.name = some "Start" := by decide
        have handles := List.find?_some found
        rw [decide_eq_true_eq] at handles
        have declared := handles.2
        rw [onlyStart handler (List.mem_of_find?_eq_some found)] at declared
        exact (Option.some.inj declared).symm
      subst isStart
      have first : ∀ handler, rival.fsm.handlers.find?
          (fun handler => decide (handler.Handles "Idle" "Start")) = some handler →
            handler.targets = ["Idle"] := by
        intro handler found
        rw [← Option.some.inj found]
        decide
      rw [first handler found] at targetMem
      exact List.mem_singleton.mp targetMem
  | timeout _ _ _ _ handlerMem isTimeout =>
      have noTimeout : ∀ handler ∈ rival.fsm.handlers, handler.isTimeoutHandler = false := by
        decide
      rw [noTimeout _ handlerMem] at isTimeout
      cases isTimeout

/-- The block is accepted although no run enters its second state. -/
theorem rival_transition_dead :
    ¬ NoDeadTransition rival Nat Nat String (fun _ => true) ∧
      "Working" ∈ rival.program.stateEnum ∧
        ¬ BecomesCurrent rival.program Nat Nat String (fun _ => true) "Working" := by
  have declared : "Working" ∈ rival.program.stateEnum := by decide
  have never : ¬ BecomesCurrent rival.program Nat Nat String (fun _ => true) "Working" := by
    rintro ⟨initial, last, trace, executes, isRearming, stateEq⟩
    have enters := executes.entersAt_of_rearming rival isRearming
    rw [stateEq] at enters
    exact absurd (rival_entersAt enters) (by decide)
  exact ⟨fun live => never (live.current _ declared), declared, never⟩

end TokioFsm
