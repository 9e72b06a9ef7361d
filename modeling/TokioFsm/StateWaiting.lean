import TokioFsm.TransitionAtomicity

/-!
# Waiting for a state

Any number of callers may wait for states while the machine runs.  Each clones
the receiver of a handle and alternates between borrowing the published state
and awaiting the next version.  A parked caller has never missed its state, a
successful one has seen it, and one that fails does so because the machine
ended in another state.
-/

namespace TokioFsm

open StepRuns WatchChannel

variable {Context Payload Failure : Type}

/-- A machine with the calls that wait on its handles. -/
structure Observed (Context Payload Failure : Type) where
  machine : Config Context Payload Failure
  waiters : List (Waiter Ident) := []

inductive ObservedAction (Context Payload Failure : Type)
  | machine (action : Action Context Payload Failure)
  | call (target : Ident)
  /-- the next step of a caller's future -/
  | advance (index : Nat)
  /-- a caller drops its future -/
  | giveUp (index : Nat)

/-- `wait_for_state` clones the receiver of its handle, which has seen only the
initial version: `current_state` borrows without marking. -/
def waitForState (target : Ident) : Waiter Ident :=
  ⟨target, .borrowing 0⟩

section Steps

variable (program : GeneratedFsm) (representable : Nat → Bool)

/-- A waiting call borrows a handle, so the last handle outlives it. -/
def observedStep (observed : Observed Context Payload Failure) :
    ObservedAction Context Payload Failure → Option (Observed Context Payload Failure)
  | .machine action =>
      match step program representable observed.machine action with
      | none => none
      | some machine =>
          if machine.handles = 0 ∧ ∃ waiter ∈ observed.waiters, waiter.Active then none
          else some { observed with machine }
  | .call target =>
      if 0 < observed.machine.handles then
        some { observed with waiters := observed.waiters ++ [waitForState target] }
      else none
  | .advance index =>
      match observed.waiters[index]? with
      | none => none
      | some waiter =>
          match waiter.advance observed.machine.watch with
          | none => none
          | some next => some { observed with waiters := observed.waiters.set index next }
  | .giveUp index =>
      match observed.waiters[index]? with
      | none => none
      | some waiter =>
          some { observed with
            waiters := observed.waiters.set index { waiter with point := .dropped } }

end Steps

/-- A run of a machine that has just been spawned, with callers. -/
structure ExecutesObserved (program : GeneratedFsm) (representable : Nat → Bool)
    (initial : Config Context Payload Failure)
    (trace : List (Observed Context Payload Failure × ObservedAction Context Payload Failure))
    (last : Observed Context Payload Failure) : Prop where
  spawned : ∃ name context tokenCancelled clock,
    program.spawnNamedWithToken name context tokenCancelled clock = some initial
  run : Run (observedStep program representable) { machine := initial } trace last

/-- The part the machine has in a moment. -/
def machineMoment :
    Observed Context Payload Failure × ObservedAction Context Payload Failure →
      Option (Moment Context Payload Failure)
  | (observed, .machine action) => some (observed.machine, action)
  | _ => none

/-- The moves of machine and callers. -/
inductive ObservedMove (program : GeneratedFsm) (representable : Nat → Bool)
    (observed : Observed Context Payload Failure) :
    ObservedAction Context Payload Failure → Observed Context Payload Failure → Prop
  | machine {action : Action Context Payload Failure}
      {machine : Config Context Payload Failure} :
      step program representable observed.machine action = some machine →
        (machine.handles = 0 → ∀ waiter ∈ observed.waiters, ¬ waiter.Active) →
          ObservedMove program representable observed (.machine action)
            { observed with machine }
  | call {target : Ident} : 0 < observed.machine.handles →
      ObservedMove program representable observed (.call target)
        { observed with waiters := observed.waiters ++ [waitForState target] }
  | advance {index : Nat} {waiter next : Waiter Ident} :
      observed.waiters[index]? = some waiter →
        waiter.advance observed.machine.watch = some next →
          ObservedMove program representable observed (.advance index)
            { observed with waiters := observed.waiters.set index next }
  | giveUp {index : Nat} {waiter : Waiter Ident} :
      observed.waiters[index]? = some waiter →
        ObservedMove program representable observed (.giveUp index)
          { observed with
            waiters := observed.waiters.set index { waiter with point := .dropped } }

section Observing

variable {program : GeneratedFsm} {representable : Nat → Bool}
  {initial : Config Context Payload Failure} {observed next last : Observed Context Payload Failure}
  {trace after : List
    (Observed Context Payload Failure × ObservedAction Context Payload Failure)}

theorem ObservedMove.of_observedStep {action : ObservedAction Context Payload Failure}
    (taken : observedStep program representable observed action = some next) :
    ObservedMove program representable observed action next := by
  unfold observedStep at taken
  split at taken
  next action =>
    split at taken
    next => cases taken
    next machine stepped =>
      split at taken
      next => cases taken
      next allowed =>
        cases taken
        refine .machine stepped fun noHandle waiter waiterMem active => ?_
        exact allowed ⟨noHandle, waiter, waiterMem, active⟩
  next target =>
    split at taken
    next hasHandle =>
      cases taken
      exact .call hasHandle
    next => cases taken
  next index =>
    split at taken
    next => cases taken
    next waiter found =>
      split at taken
      next => cases taken
      next advanced stepped =>
        cases taken
        exact .advance found stepped
  next index =>
    split at taken
    next => cases taken
    next waiter found =>
      cases taken
      exact .giveUp found

/-- Forgetting the callers leaves an execution of the machine. -/
theorem ExecutesObserved.machine
    (executes : ExecutesObserved program representable initial trace last) :
    Executes program representable initial (trace.filterMap machineMoment) last.machine := by
  rcases executes with ⟨spawned, run⟩
  induction run with
  | refl => exact ⟨spawned, .refl⟩
  | @snoc trace middle last action _ taken ih =>
      rw [filterMap_snoc]
      cases ObservedMove.of_observedStep taken with
      | machine stepped => exact ih.snoc stepped
      | call | advance | giveUp =>
          change Executes program representable initial (trace.filterMap machineMoment ++ []) _
          rwa [List.append_nil]

/-- The value, version and sender of the watch channel move only forward. -/
theorem LoopMove.later {config next : Config Context Payload Failure}
    {action : LoopAction Context Failure}
    (move : LoopMove program representable config action next)
    (sound : Sound program config) : Channel.Later config.watch next.watch := by
  cases move with
  | publish isPublishing =>
      exact Channel.later_send (sound.channels_open (by rw [isPublishing]; exact id)).2 _ _
  | dropSender => exact Channel.later_close
  | @handlerReady _ _ _ _ _ result =>
      cases result with
      | ok target => exact .refl _
      | error error => exact .refl _
  | _ => exact .refl _

theorem watch_later {config next : Config Context Payload Failure}
    {action : Action Context Payload Failure}
    (taken : step program representable config action = some next)
    (sound : Sound program config) : Channel.Later config.watch next.watch := by
  cases action with
  | environment action =>
      rw [(EnvironmentMove.of_environmentStep taken).watch_eq]
      exact .refl _
  | loop action => exact (LoopMove.of_loopStep taken).later sound

/-- Replacing one entry brings in at most that entry. -/
theorem forall_mem_set {holds : Waiter Ident → Prop} {waiters : List (Waiter Ident)}
    {index : Nat} {replacement : Waiter Ident} (all : ∀ waiter ∈ waiters, holds waiter)
    (also : holds replacement) : ∀ waiter ∈ waiters.set index replacement, holds waiter := by
  intro waiter waiterMem
  rcases List.mem_or_eq_of_mem_set waiterMem with earlier | rfl
  · exact all waiter earlier
  · exact also

/-- Every caller keeps to what it knows of the channel. -/
theorem ExecutesObserved.tracks
    (executes : ExecutesObserved program representable initial trace last)
    (sound : ∀ {trace config}, Executes program representable initial trace config →
      Sound program config) :
    ∀ waiter ∈ last.waiters, Waiter.Tracks last.machine.watch waiter := by
  rcases executes with ⟨spawned, run⟩
  induction run with
  | refl => exact fun _ waiterMem => absurd waiterMem List.not_mem_nil
  | @snoc trace middle last action previous taken tracks =>
      have toMiddle : ExecutesObserved program representable initial trace middle :=
        ⟨spawned, previous⟩
      cases ObservedMove.of_observedStep taken with
      | machine stepped =>
          have later := watch_later stepped (sound toMiddle.machine)
          exact fun waiter waiterMem => (tracks waiter waiterMem).later later
      | call hasHandle =>
          intro waiter waiterMem
          rcases List.mem_append.mp waiterMem with earlier | latest
          · exact tracks waiter earlier
          · rw [List.mem_singleton.mp latest]
            exact Waiter.tracks_borrowing _ (Nat.zero_le _)
      | advance found stepped =>
          exact forall_mem_set tracks ((tracks _ (List.mem_of_getElem? found)).advance stepped)
      | giveUp found => exact forall_mem_set tracks trivial

/-- A caller of `wait_for_state` keeps its place, its target, and has only
borrowed states published since its call. -/
theorem saw_of_run {start : Observed Context Payload Failure} {index : Nat} {target : Ident}
    (run : Run (observedStep program representable) start after last)
    (called : start.waiters[index]? = some (waitForState target)) :
    ∃ waiter, last.waiters[index]? = some waiter ∧ waiter.target = target ∧
      waiter.Saw fun state => ∃ moment ∈ after, moment.1.machine.currentState = state := by
  induction run with
  | refl => exact ⟨_, called, rfl, trivial⟩
  | @snoc after middle last action _ taken ih =>
      rcases ih with ⟨waiter, found, targetEq, saw⟩
      have sawNow : waiter.Saw fun state => ∃ moment ∈ after ++ [(middle, action)],
          moment.1.machine.currentState = state :=
        saw.mono fun state ⟨moment, momentMem, stateEq⟩ =>
          ⟨moment, List.mem_append_left _ momentMem, stateEq⟩
      have current : ∃ moment ∈ after ++ [(middle, action)],
          moment.1.machine.currentState = middle.machine.watch.value :=
        ⟨(middle, action), by simp, rfl⟩
      cases ObservedMove.of_observedStep taken with
      | machine => exact ⟨waiter, found, targetEq, sawNow⟩
      | call =>
          refine ⟨waiter, ?_, targetEq, sawNow⟩
          rw [List.getElem?_append_left (List.getElem?_eq_some_iff.mp found).1]
          exact found
      | @advance other moving next foundOther stepped =>
          by_cases same : other = index
          · subst other
            rw [found] at foundOther
            cases foundOther
            refine ⟨next, ?_, (Waiter.advance_cases stepped).1.trans targetEq,
              sawNow.advance current stepped⟩
            exact List.getElem?_set_self (List.getElem?_eq_some_iff.mp found).1
          · refine ⟨waiter, ?_, targetEq, sawNow⟩
            rw [List.getElem?_set_ne same]
            exact found
      | @giveUp other dropped foundOther =>
          by_cases same : other = index
          · subst other
            rw [found] at foundOther
            cases foundOther
            refine ⟨{ waiter with point := .dropped }, ?_, targetEq, trivial⟩
            exact List.getElem?_set_self (List.getElem?_eq_some_iff.mp found).1
          · refine ⟨waiter, ?_, targetEq, sawNow⟩
            rw [List.getElem?_set_ne same]
            exact found

/-- Once the sender is gone, a caller that wants the last state published gets
it in a few steps of its own. -/
theorem exists_run_returned {index bound : Nat} {waiter : Waiter Ident}
    (found : observed.waiters[index]? = some waiter) (active : waiter.Active)
    (tracks : Waiter.Tracks observed.machine.watch waiter)
    (closed : observed.machine.watch.closed = true)
    (wanted : waiter.target = observed.machine.currentState)
    (enough : waiter.remaining observed.machine.watch ≤ bound) :
    ∃ after final, Run (observedStep program representable) observed after final ∧
      after.length ≤ bound ∧ (∀ moment ∈ after, moment.2 = .advance index) ∧
        final.machine = observed.machine ∧
          final.waiters[index]? = some ⟨waiter.target, .returned true⟩ := by
  induction bound generalizing observed waiter with
  | zero =>
      rcases Waiter.exists_advance_of_closed closed active with ⟨next, stepped⟩
      have decreases := Waiter.remaining_advance stepped
      omega
  | succ bound ih =>
      rcases Waiter.exists_advance_of_closed closed active with ⟨next, stepped⟩
      have decreases := Waiter.remaining_advance stepped
      rcases Waiter.advance_cases stepped with ⟨targetEq, outcome⟩
      have nextTracks := tracks.advance stepped
      have nextEnough : next.remaining observed.machine.watch ≤ bound := by omega
      have taken : observedStep program representable observed (.advance index) =
          some { observed with waiters := observed.waiters.set index next } := by
        simp only [observedStep, found, stepped]
      have foundNext : (observed.waiters.set index next)[index]? = some next :=
        List.getElem?_set_self (List.getElem?_eq_some_iff.mp found).1
      rcases outcome with nextActive | ⟨success, isReturned⟩
      · rcases @ih ⟨observed.machine, observed.waiters.set index next⟩ next foundNext nextActive
          nextTracks closed (targetEq.trans wanted) nextEnough with
          ⟨after, final, run, lengthLe, onlyAdvance, sameMachine, result⟩
        refine ⟨(observed, .advance index) :: after, final, (Run.single taken).append run, ?_,
          ?_, sameMachine, ?_⟩
        · rw [List.length_cons]
          omega
        · intro moment momentMem
          rcases List.mem_cons.mp momentMem with rfl | later
          · rfl
          · exact onlyAdvance moment later
        · rw [result, targetEq]
      · refine ⟨_, _, Run.single taken, by simp, by simp, rfl, ?_⟩
        have succeeded : success = true := by
          by_contra failed
          rw [Waiter.Tracks, isReturned] at nextTracks
          exact (nextTracks (by simpa using failed)).2 (wanted.symm.trans targetEq.symm)
        rw [foundNext, ← targetEq, ← succeeded, ← isReturned]

end Observing

section Accepted

variable {crates : Crates} {args : FsmArgs} {block : ItemImpl}
  (machine : AcceptedFsm crates args block) {representable : Nat → Bool}
  {initial : Config Context Payload Failure} {last : Observed Context Payload Failure}
  {trace : List (Observed Context Payload Failure × ObservedAction Context Payload Failure)}

/-- No caller of `wait_for_state` is parked while its state is published.  When
the run ends with the return of a caller, its state was published between the
call and the return; one that fails does so because the machine ended in another
state, and waiting for the state in which the machine ended succeeds. -/
theorem wait_for_state_sound
    (executes : ExecutesObserved machine.program representable initial trace last) :
    (∀ waiter ∈ last.waiters, ∀ seen, waiter.point = .awaiting seen →
      last.machine.watch.version = seen → last.machine.currentState ≠ waiter.target) ∧
    (∀ before called target after, trace = before ++ (called, .call target) :: after →
      last.waiters[called.waiters.length]? = some ⟨target, .returned true⟩ →
        ∃ moment ∈ after, moment.1.machine.currentState = target) ∧
    (∀ waiter ∈ last.waiters, waiter.point = .returned false →
      last.machine.phase.Ended ∧ last.machine.currentState ≠ waiter.target ∧
        last.machine.currentState =
          ((trace.filterMap machineMoment).filterMap Moment.published).getLast?.getD
            machine.program.initialState) ∧
    (last.machine.watch.closed = true → ∀ index waiter,
      last.waiters[index]? = some waiter → waiter.Active →
        waiter.target = last.machine.currentState →
          ∃ after final,
            Run (observedStep machine.program representable) last after final ∧
              after.length ≤ 5 ∧ (∀ moment ∈ after, moment.2 = .advance index) ∧
                final.waiters[index]? = some ⟨waiter.target, .returned true⟩) := by
  have tracks := executes.tracks fun executes => executes.sound machine
  have sound := executes.machine.sound machine
  refine ⟨?_, ?_, ?_, ?_⟩
  · intro waiter waiterMem seen isAwaiting current
    have known := tracks waiter waiterMem
    rw [Waiter.Tracks, isAwaiting] at known
    exact known.2 current
  · intro before called target after cut isReturned
    rcases executes.run.moment cut with ⟨-, next, taken, fromNext⟩
    have called' : next.waiters[called.waiters.length]? = some (waitForState target) := by
      cases ObservedMove.of_observedStep taken with
      | call => exact List.getElem?_concat_length
    rcases saw_of_run fromNext called' with ⟨waiter, found, -, saw⟩
    rw [isReturned] at found
    cases found
    exact saw
  · intro waiter waiterMem failed
    have known := tracks waiter waiterMem
    rw [Waiter.Tracks, failed] at known
    rcases known rfl with ⟨closed, differs⟩
    refine ⟨?_, differs, executes.machine.published.value⟩
    by_contra notEnded
    rw [(sound.channels_open notEnded).2] at closed
    cases closed
  · intro closed index waiter found active wanted
    rcases exists_run_returned found active (tracks waiter (List.mem_of_getElem? found)) closed
      wanted (Waiter.remaining_le _ _) with ⟨after, final, run, lengthLe, onlyAdvance, -, result⟩
    exact ⟨after, final, run, lengthLe, onlyAdvance, result⟩

end Accepted

/-- A caller waits for the worker to work, and is woken when it does. -/
def waitingActions : List (ObservedAction Nat Nat String) := [
  .call "Working", .machine (.loop .start), .advance 0, .machine (.loop .rearm), .advance 0,
  .machine (.environment (.send ⟨"Start", some 7⟩)), .machine (.loop .recvBranch),
  .machine (.loop (.handlerReady ⟨"Idle", 1, none⟩ (.transition "Working"))),
  .machine (.loop .publish), .advance 0, .advance 0, .advance 0]

def waitingRun : List (Observed Nat Nat String × ObservedAction Nat Nat String) ×
    Observed Nat Nat String :=
  (replay (observedStep worker.program fun _ => true) { machine := workerInitial }
    waitingActions).get (by decide)

theorem wait_for_state_sound_worker :
    ∃ moment ∈ waitingRun.1.tail, moment.1.machine.currentState = "Working" := by
  have replayed : replay (observedStep worker.program fun _ => true)
      { machine := workerInitial } waitingActions = some waitingRun := (Option.some_get _).symm
  have executes : ExecutesObserved worker.program (fun _ => true) workerInitial waitingRun.1
      waitingRun.2 := ⟨⟨none, 0, false, 0, rfl⟩, run_of_replay replayed⟩
  exact (wait_for_state_sound worker executes).2.1 [] { machine := workerInitial } "Working" _
    rfl rfl

end TokioFsm
