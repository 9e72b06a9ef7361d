import TokioFsm.StateWaiting

/-!
# A client and its machine

The usual client owns the only handle of its machine.  It sends an event, waits
for a state, unwraps what it is answered, and goes on to the next event.  The
machine takes its steps in between.
-/

namespace TokioFsm

open StepRuns WatchChannel

variable {Context Payload Failure : Type}

/-- What the client sends, and the state it then waits for. -/
structure Turn (Payload : Type) where
  event : EventValue Payload
  target : Ident

inductive ClientPoint
  /-- about to send the next event -/
  | ready
  /-- the event has been sent -/
  | sent
  /-- awaits `wait_for_state` -/
  | waiting (index : Nat)
  /-- a call returned an error, which the client unwraps -/
  | failed
deriving DecidableEq

structure Session (Context Payload Failure : Type) where
  observed : Observed Context Payload Failure
  finished : List (Turn Payload) := []
  ahead : List (Turn Payload)
  point : ClientPoint := .ready

inductive SessionAction (Context Failure : Type)
  | loop (action : LoopAction Context Failure)
  | elapse (nanos : Nat)
  | client

/-- The next use of the handle; a send fails once the receiver is gone. -/
def Session.request (session : Session Context Payload Failure) :
    Option (ObservedAction Context Payload Failure) :=
  match session.point, session.ahead with
  | .ready, turn :: _ =>
      if session.observed.machine.receiverDropped then none
      else some (.machine (.environment (.send turn.event)))
  | .sent, turn :: _ => some (.call turn.target)
  | .waiting index, _ :: _ => some (.advance index)
  | _, _ => none

/-- The client after a use of its handle. -/
def Session.resume (session : Session Context Payload Failure)
    (observed : Observed Context Payload Failure) : Session Context Payload Failure :=
  match session.point with
  | .ready => { session with observed, point := .sent }
  | .sent => { session with observed, point := .waiting session.observed.waiters.length }
  | .waiting index =>
      match observed.waiters[index]?.map Waiter.point with
      | some (.returned true) =>
          { observed
            finished := session.finished ++ session.ahead.take 1
            ahead := session.ahead.drop 1 }
      | some (.returned false) => { session with observed, point := .failed }
      | _ => { session with observed }
  | .failed => { session with observed }

/-- What an action does to the machine and the calls that wait on it. -/
def SessionAction.observed (session : Session Context Payload Failure) :
    SessionAction Context Failure → Option (ObservedAction Context Payload Failure)
  | .loop action => some (.machine (.loop action))
  | .elapse nanos => some (.machine (.environment (.advance nanos)))
  | .client => session.request

section Steps

variable (program : GeneratedFsm) (representable : Nat → Bool)

def sessionStep (session : Session Context Payload Failure) :
    SessionAction Context Failure → Option (Session Context Payload Failure)
  | .loop action =>
      match observedStep program representable session.observed (.machine (.loop action)) with
      | none => none
      | some observed => some { session with observed }
  | .elapse nanos =>
      match observedStep program representable session.observed
          (.machine (.environment (.advance nanos))) with
      | none => none
      | some observed => some { session with observed }
  | .client =>
      match session.request with
      | none =>
          if session.point = .ready ∧ session.ahead ≠ [] then some { session with point := .failed }
          else none
      | some request =>
          match observedStep program representable session.observed request with
          | none => none
          | some observed => some (session.resume observed)

end Steps

/-- A client begins its turns on a machine that has just been spawned. -/
structure ExecutesSession (program : GeneratedFsm) (representable : Nat → Bool)
    (initial : Config Context Payload Failure) (turns : List (Turn Payload))
    (trace : List (Session Context Payload Failure × SessionAction Context Failure))
    (last : Session Context Payload Failure) : Prop where
  spawned : ∃ name context tokenCancelled clock,
    program.spawnNamedWithToken name context tokenCancelled clock = some initial
  run : Run (sessionStep program representable)
    { observed := { machine := initial }, ahead := turns } trace last

/-- The part that machine and calls have in a moment. -/
def sessionMoment :
    Session Context Payload Failure × SessionAction Context Failure →
      Option (Observed Context Payload Failure × ObservedAction Context Payload Failure)
  | (session, action) => (action.observed session).map fun observed => (session.observed, observed)

/-- The moments of the machine. -/
def machineMoments
    (trace : List (Session Context Payload Failure × SessionAction Context Failure)) :
    List (Moment Context Payload Failure) :=
  (trace.filterMap sessionMoment).filterMap machineMoment

/-- The moves of client and machine. -/
inductive SessionMove (program : GeneratedFsm) (representable : Nat → Bool)
    (session : Session Context Payload Failure) :
    SessionAction Context Failure → Session Context Payload Failure → Prop
  | loop {action : LoopAction Context Failure} {machine : Config Context Payload Failure} :
      LoopMove program representable session.observed.machine action machine →
        SessionMove program representable session (.loop action)
          { session with observed := { session.observed with machine } }
  | elapse {nanos : Nat} {machine : Config Context Payload Failure} :
      EnvironmentMove program session.observed.machine [] machine →
        machine.handles = session.observed.machine.handles →
          SessionMove program representable session (.elapse nanos)
            { session with observed := { session.observed with machine } }
  | refused : session.point = .ready → session.observed.machine.receiverDropped = true →
      SessionMove program representable session .client { session with point := .failed }
  | send {turn : Turn Payload} {turns : List (Turn Payload)}
      {machine : Config Context Payload Failure} :
      session.point = .ready → session.ahead = turn :: turns →
        EnvironmentMove program session.observed.machine [turn.event] machine →
          machine.handles = session.observed.machine.handles →
            SessionMove program representable session .client
              { session with observed := { session.observed with machine }, point := .sent }
  | call {turn : Turn Payload} {turns : List (Turn Payload)} :
      session.point = .sent → session.ahead = turn :: turns →
        SessionMove program representable session .client
          { session with
            observed := { session.observed with
              waiters := session.observed.waiters ++ [waitForState turn.target] }
            point := .waiting session.observed.waiters.length }
  | advance {turn : Turn Payload} {turns : List (Turn Payload)} {index : Nat}
      {waiter next : Waiter Ident} :
      session.point = .waiting index → session.ahead = turn :: turns →
        session.observed.waiters[index]? = some waiter →
          waiter.advance session.observed.machine.watch = some next → next.Active →
            SessionMove program representable session .client
              { session with observed := { session.observed with
                  waiters := session.observed.waiters.set index next } }
  | answered {turn : Turn Payload} {turns : List (Turn Payload)} {index : Nat}
      {waiter next : Waiter Ident} :
      session.point = .waiting index → session.ahead = turn :: turns →
        session.observed.waiters[index]? = some waiter →
          waiter.advance session.observed.machine.watch = some next →
            next.point = .returned true →
              SessionMove program representable session .client
                { observed := { session.observed with
                    waiters := session.observed.waiters.set index next }
                  finished := session.finished ++ [turn]
                  ahead := turns }
  | denied {turn : Turn Payload} {turns : List (Turn Payload)} {index : Nat}
      {waiter next : Waiter Ident} :
      session.point = .waiting index → session.ahead = turn :: turns →
        session.observed.waiters[index]? = some waiter →
          waiter.advance session.observed.machine.watch = some next →
            next.point = .returned false →
              SessionMove program representable session .client
                { session with
                  observed := { session.observed with
                    waiters := session.observed.waiters.set index next }
                  point := .failed }

section Sessions

variable {program : GeneratedFsm} {representable : Nat → Bool}
  {initial : Config Context Payload Failure} {turns : List (Turn Payload)}
  {session next last : Session Context Payload Failure}
  {trace : List (Session Context Payload Failure × SessionAction Context Failure)}

theorem handles_of_send {config machine : Config Context Payload Failure}
    {event : EventValue Payload}
    (taken : environmentStep program config (.send event) = some machine) :
    machine.handles = config.handles := by
  simp only [environmentStep] at taken
  split at taken
  next =>
    cases taken
    rfl
  next => cases taken

/-- The wait goes on, or the client makes what it can of the answer. -/
theorem SessionMove.of_advance {turn : Turn Payload} {index : Nat} {waiter moved : Waiter Ident}
    (isWaiting : session.point = .waiting index) (aheadEq : session.ahead = turn :: turns)
    (found : session.observed.waiters[index]? = some waiter)
    (stepped : waiter.advance session.observed.machine.watch = some moved) :
    SessionMove program representable session .client (session.resume
      { session.observed with waiters := session.observed.waiters.set index moved }) := by
  obtain ⟨observed, finished, ahead, point⟩ := session
  obtain rfl : point = .waiting index := isWaiting
  obtain rfl : ahead = turn :: turns := aheadEq
  have foundNext : (observed.waiters.set index moved)[index]? = some moved :=
    List.getElem?_set_self (List.getElem?_eq_some_iff.mp found).1
  simp only [Session.resume, foundNext, Option.map_some]
  obtain ⟨-, active | ⟨success, isReturned⟩⟩ := Waiter.advance_cases stepped
  · have notReturned (success : Bool) : moved.point ≠ .returned success := by
      intro isReturned
      rw [Waiter.Active, isReturned] at active
      exact active.elim
    split
    next isReturned => exact absurd (Option.some.inj isReturned) (notReturned true)
    next isReturned => exact absurd (Option.some.inj isReturned) (notReturned false)
    next => exact .advance rfl rfl found stepped active
  · rw [isReturned]
    cases success with
    | true => exact .answered rfl rfl found stepped isReturned
    | false => exact .denied rfl rfl found stepped isReturned

theorem SessionMove.of_observedStep {request : ObservedAction Context Payload Failure}
    {observed : Observed Context Payload Failure} (requested : session.request = some request)
    (taken : observedStep program representable session.observed request = some observed) :
    SessionMove program representable session .client (session.resume observed) := by
  unfold Session.request at requested
  split at requested
  next turn turns isReady aheadEq =>
    split at requested
    next => cases requested
    next =>
      cases requested
      cases ObservedMove.of_observedStep taken with
      | @machine _ machine stepped =>
          have sends : environmentStep program session.observed.machine (.send turn.event) =
              some machine := stepped
          rw [Session.resume, isReady]
          exact .send isReady aheadEq (.of_environmentStep sends) (handles_of_send sends)
  next turn turns isSent aheadEq =>
    cases requested
    cases ObservedMove.of_observedStep taken with
    | call hasHandle =>
        rw [Session.resume, isSent]
        exact .call isSent aheadEq
  next index turn turns isWaiting aheadEq =>
    cases requested
    cases ObservedMove.of_observedStep taken with
    | advance found stepped => exact .of_advance isWaiting aheadEq found stepped
  next => cases requested

theorem SessionMove.of_sessionStep {action : SessionAction Context Failure}
    (taken : sessionStep program representable session action = some next) :
    SessionMove program representable session action next := by
  unfold sessionStep at taken
  split at taken
  next action =>
    split at taken
    next => cases taken
    next observed stepped =>
      cases taken
      cases ObservedMove.of_observedStep stepped with
      | machine moved => exact .loop (.of_loopStep moved)
  next nanos =>
    split at taken
    next => cases taken
    next observed stepped =>
      cases taken
      cases ObservedMove.of_observedStep stepped with
      | machine moved =>
          cases moved
          have passes : environmentStep program session.observed.machine (.advance nanos) =
              some { session.observed.machine with
                clock := session.observed.machine.clock + nanos } := rfl
          exact .elapse (.of_environmentStep passes) rfl
  next =>
    split at taken
    next refused =>
      split at taken
      next stands =>
        cases taken
        obtain ⟨isReady, hasAhead⟩ := stands
        refine .refused isReady ?_
        by_contra isOpen
        obtain ⟨turn, turns, aheadEq⟩ := List.exists_cons_of_ne_nil hasAhead
        simp [Session.request, isReady, aheadEq, isOpen] at refused
      next => cases taken
    next request requested =>
      split at taken
      next => cases taken
      next observed stepped =>
        cases taken
        exact .of_observedStep requested stepped

theorem Session.observed_resume (session : Session Context Payload Failure)
    (observed : Observed Context Payload Failure) :
    (session.resume observed).observed = observed := by
  unfold Session.resume
  split
  · rfl
  · rfl
  · split <;> rfl
  · rfl

theorem observed_of_sessionStep {action : SessionAction Context Failure}
    (taken : sessionStep program representable session action = some next) :
    action.observed session = none ∧ next.observed = session.observed ∨
      ∃ request, action.observed session = some request ∧
        observedStep program representable session.observed request = some next.observed := by
  unfold sessionStep at taken
  split at taken
  · split at taken
    · cases taken
    next stepped =>
      cases taken
      exact .inr ⟨_, rfl, stepped⟩
  · split at taken
    · cases taken
    next stepped =>
      cases taken
      exact .inr ⟨_, rfl, stepped⟩
  · split at taken
    next refused =>
      split at taken
      · cases taken
        exact .inl ⟨refused, rfl⟩
      · cases taken
    next request requested =>
      split at taken
      · cases taken
      next stepped =>
        cases taken
        rw [Session.observed_resume]
        exact .inr ⟨request, requested, stepped⟩

/-- Forgetting the client leaves an execution with callers. -/
theorem ExecutesSession.observed
    (executes : ExecutesSession program representable initial turns trace last) :
    ExecutesObserved program representable initial (trace.filterMap sessionMoment)
      last.observed := by
  obtain ⟨spawned, run⟩ := executes
  refine ⟨spawned, ?_⟩
  induction run with
  | refl => exact .refl
  | @snoc trace middle last action _ taken ih =>
      rw [filterMap_snoc]
      obtain ⟨none, sameObserved⟩ | ⟨request, requested, stepped⟩ := observed_of_sessionStep taken
      · rw [sessionMoment, none, sameObserved]
        simpa using ih
      · rw [sessionMoment, requested]
        exact ih.snoc stepped

theorem machineMoments_append
    (first second : List (Session Context Payload Failure × SessionAction Context Failure)) :
    machineMoments (first ++ second) = machineMoments first ++ machineMoments second := by
  rw [machineMoments, List.filterMap_append, List.filterMap_append]
  rfl

theorem Session.request_cases {request : ObservedAction Context Payload Failure}
    (requested : session.request = some request) :
    (∃ event, request = .machine (.environment (.send event))) ∨
      (∃ target, request = .call target) ∨ ∃ index, request = .advance index := by
  unfold Session.request at requested
  split at requested
  next turn _ _ _ =>
    split at requested
    next => cases requested
    next => exact .inl ⟨turn.event, (Option.some.inj requested).symm⟩
  next turn _ _ _ => exact .inr (.inl ⟨turn.target, (Option.some.inj requested).symm⟩)
  next index _ _ _ _ => exact .inr (.inr ⟨index, (Option.some.inj requested).symm⟩)
  next => cases requested

/-- What the client does publishes nothing. -/
theorem published_client :
    (machineMoments [(session, (SessionAction.client : SessionAction Context Failure))]).filterMap
      Moment.published = [] := by
  cases requested : session.request with
  | none => simp [machineMoments, sessionMoment, SessionAction.observed, requested]
  | some request =>
      obtain ⟨_, rfl⟩ | ⟨_, rfl⟩ | ⟨_, rfl⟩ := Session.request_cases requested
      all_goals
        simp [machineMoments, sessionMoment, SessionAction.observed, requested, machineMoment,
          Moment.published]

end Sessions

end TokioFsm
