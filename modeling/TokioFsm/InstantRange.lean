import TokioFsm.EntryTimes

/-!
# Numbers the runtime cannot hold

The macro accepts every positive capacity and every duration, but a channel
cannot be created with more than an eighth of the largest `usize`, and adding a
duration to the clock panics when the sum is out of range.  The main theorem
says exactly for which accepted machines neither happens within a century of
uptime.  What `Sleep::reset` computes with a deadline is not looked at.
-/

namespace TokioFsm

variable {Context Payload Failure : Type}

/-- A hundred years of 365.25 days, in nanoseconds. -/
def centuryNanos : Nat :=
  36525 * 86400 * 1000000000

/-- `Instant` counts seconds in a signed 64-bit integer. -/
def instantRepresentable (nanos : Nat) : Bool :=
  decide (nanos < 2 ^ 63 * 1000000000)

/-- Every spawn function can create its channel, and the timeout of the state can
be added to the clock whenever the timer is armed, as long as the clock shows at
most a century. -/
structure NeverOverflows (program : GeneratedFsm) (Context Payload Failure : Type) : Prop where
  spawnNamedWithToken : ∀ name context tokenCancelled clock,
    (program.spawnNamedWithToken name context tokenCancelled clock :
      Option (Config Context Payload Failure)).isSome
  spawn : ∀ context clock,
    (program.spawn context clock : Option (Config Context Payload Failure)).isSome
  spawnNamed : ∀ name context clock,
    (program.spawnNamed name context clock : Option (Config Context Payload Failure)).isSome
  spawnWithToken : ∀ context tokenCancelled clock,
    (program.spawnWithToken context tokenCancelled clock :
      Option (Config Context Payload Failure)).isSome
  rearms : ∀ (initial last : Config Context Payload Failure)
    (trace : List (Moment Context Payload Failure)),
      Executes program instantRepresentable initial trace last → last.phase = .rearming →
        last.clock ≤ centuryNanos →
          instantRepresentable (last.clock + program.timeoutFor last.fsm.state) = true

/-- The capacity fits into a semaphore, and the timeout of every state that can
be entered at the end of the century can be added to the clock then. -/
structure FsmStructure.NumbersFit (fsm : FsmStructure) : Prop where
  channelSize_le : fsm.channelSize ≤ usizeMax >>> 3
  timeouts_fit : ∀ state nanos, fsm.EntersAt instantRepresentable state centuryNanos →
    fsm.TimeoutOf state nanos → centuryNanos + nanos < 2 ^ 63 * 1000000000

section Spawning

variable {program : GeneratedFsm}

/-- All spawn functions create the same channels. -/
theorem GeneratedFsm.spawns (positive : 0 < program.channelSize)
    (fits : program.channelSize ≤ usizeMax >>> 3) (name : Option String) (context : Context)
    (tokenCancelled : Bool) (clock : Nat) :
    (program.spawnNamedWithToken name context tokenCancelled clock :
      Option (Config Context Payload Failure)).isSome := by
  rw [spawnNamedWithToken, if_pos ⟨positive, fits⟩]
  rfl

theorem NeverOverflows.channelSize_le [Inhabited Context]
    (neverOverflows : NeverOverflows program Context Payload Failure) :
    program.channelSize ≤ usizeMax >>> 3 := by
  rcases Option.isSome_iff_exists.mp (neverOverflows.spawn default 0) with ⟨initial, spawned⟩
  exact (Spawned.of_spawn spawned).channelSize_le

end Spawning

section Accepted

variable {crates : Crates} {args : FsmArgs} {block : ItemImpl}
  (machine : AcceptedFsm crates args block)

/-- Within a century neither the spawning nor the arming of the timer overflows,
exactly when the capacity of the channel and the timeouts of the states that can
be entered within it are in range. -/
theorem never_panics_iff [Inhabited Context] [Inhabited Payload] :
    NeverOverflows machine.program Context Payload Failure ↔ machine.fsm.NumbersFit := by
  constructor
  · intro neverOverflows
    have capacity := neverOverflows.channelSize_le
    constructor
    · rw [← machine.program_channelSize]
      exact capacity
    · intro state nanos enters timeout
      rcases enters.exists_executes Context Payload Failure machine capacity with
        ⟨initial, trace, last, executes, isRearming, quiet⟩
      have inCentury : last.clock ≤ centuryNanos := Nat.le_of_eq quiet.clock_eq
      have fits := neverOverflows.rearms initial last trace executes isRearming inCentury
      rw [quiet.clock_eq, quiet.state_eq, ← machine.timeoutOf_iff.mp timeout] at fits
      exact of_decide_eq_true fits
  · rintro ⟨capacity, timeoutsFit⟩
    rw [← machine.program_channelSize] at capacity
    have spawns := @GeneratedFsm.spawns Context Payload Failure machine.program
      machine.channelSize_pos capacity
    refine ⟨spawns, fun context => spawns none context false,
      fun name context => spawns (some name) context false, spawns none, ?_⟩
    intro initial last trace executes isRearming inCentury
    have enters := (executes.entersAt_of_rearming machine isRearming).mono inCentury
    have fits := timeoutsFit _ _ enters (machine.timeoutOf_iff.mpr rfl)
    rw [instantRepresentable, decide_eq_true_eq]
    omega

end Accepted

/-- Thirty seconds can be added to any reading of the clock. -/
theorem never_panics_worker : NeverOverflows worker.program Nat Nat String := by
  refine (never_panics_iff worker).mpr ⟨by decide, ?_⟩
  intro state nanos _ timeout
  rw [worker.timeoutOf_iff.mp timeout]
  have bounded : worker.program.timeoutFor state ≤ noTimeoutSecs * 1000000000 := by
    unfold GeneratedFsm.timeoutFor
    split
    next arm found =>
      have allBounded : ∀ arm ∈ worker.program.timeoutArms,
          arm.secs * 1000000000 + arm.nanos ≤ noTimeoutSecs * 1000000000 := by decide
      exact allBounded arm (FirstSeen.lookup_eq_some found).1
    next => exact Nat.le_refl _
  calc
    centuryNanos + worker.program.timeoutFor state ≤
        centuryNanos + noTimeoutSecs * 1000000000 := Nat.add_le_add_left bounded _
    _ < 2 ^ 63 * 1000000000 := by decide

/-! ## Two machines that panic -/

/-- The worker with an arbitrary text for its only timeout. -/
def patientBlock (duration : String) : ItemImpl where
  selfTy := namedType "WorkerFsm"
  items := workerTypes ++ [
    asyncMethod [onAttribute "Idle" "Start", stateTimeoutAttribute duration] "handle_start"
      [namedType "Job"] (transitionType "Working"),
    asyncMethod [onTimeoutAttribute] "handle_timeout" [] (transitionType "Idle")]

/-- The largest number of seconds that a duration can hold. -/
def patient :
    AcceptedFsm sampleCrates workerArgs (patientBlock "18446744073709551615s") :=
  (accept sampleCrates workerArgs (patientBlock "18446744073709551615s")).get (by decide)

/-- One more slot than a channel can have. -/
def roomyArgs : FsmArgs where
  initial := "Idle"
  channelSize := 2 ^ 61

def roomy : AcceptedFsm sampleCrates roomyArgs workerBlock :=
  (accept sampleCrates roomyArgs workerBlock).get (by decide)

def patientActions : List (Action Nat Nat String) := [
  .loop .start, .loop .rearm,
  .environment (.send ⟨"Start", some 7⟩), .loop .recvBranch,
  .loop (.handlerReady ⟨"Idle", 1, none⟩ (.transition "Working")), .loop .publish]

def patientRun : List (Moment Nat Nat String) × Config Nat Nat String :=
  (StepRuns.replay (step patient.program instantRepresentable) workerInitial
    patientActions).get (by decide)

theorem patientRun_executes :
    Executes patient.program instantRepresentable workerInitial patientRun.1 patientRun.2 := by
  have replayed : StepRuns.replay (step patient.program instantRepresentable) workerInitial
      patientActions = some patientRun := (Option.some_get _).symm
  exact .of_replay ⟨none, 0, false, 0, rfl⟩ replayed

/-- Both machines are accepted.  One panics when it enters a state, in the first
nanosecond of its life; the other cannot be spawned. -/
theorem accepted_machines_panic :
    ¬ NeverOverflows patient.program Nat Nat String ∧
      ¬ NeverOverflows roomy.program Nat Nat String := by
  constructor
  · intro neverOverflows
    have fits := neverOverflows.rearms _ _ _ patientRun_executes rfl (by decide)
    revert fits
    decide
  · intro neverOverflows
    have spawns := neverOverflows.spawn 0 0
    revert spawns
    decide

end TokioFsm
