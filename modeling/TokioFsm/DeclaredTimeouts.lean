import TokioFsm.InstantRange

/-!
# Declared timeouts

A timeout written on a handler is meant for the states the handler returns.
Parsing keeps only the last one written on a method, and the generated code
panics where the deadline is out of range.  So the timeouts are honoured exactly
when those on one method say the same, and each can be added to the clock
whenever its state can be entered.
-/

namespace TokioFsm

open Fallible

/-- The method is marked with `#[on(..)]` or `#[on_timeout]`. -/
def ImplItemFn.IsHandler (crates : Crates) (method : ImplItemFn) : Prop :=
  onAttrs crates method.attrs ≠ [] ∨ method.isOnTimeout = true

/-- The timeouts written on one handler are valid and the same. -/
def ItemImpl.RepeatsTimeouts (crates : Crates) (block : ItemImpl) : Prop :=
  ∀ handler, block.Declares crates handler → handler.method.IsHandler crates →
    ∃ duration, ∀ attr ∈ stateTimeoutAttrs crates handler.method.attrs,
      crates.parseDuration attr.duration = .ok duration

/-- A timeout is written on a handler that returns the state. -/
def DeclaresTimeout (crates : Crates) (block : ItemImpl) (attr : StateTimeoutAttr)
    (state : Ident) : Prop :=
  ∃ handler, block.Declares crates handler ∧ handler.method.IsHandler crates ∧
    attr ∈ stateTimeoutAttrs crates handler.method.attrs ∧ state ∈ handler.targets

/-- Whenever the state is entered, with the clock at most at `latest`, the timer
is set for the duration, and as long as the loop stays in it the timer is due
the duration after the entry. -/
structure Arms (program : GeneratedFsm) (representable : Nat → Bool) (latest : Nat)
    (Context Payload Failure : Type) (state : Ident) (duration : Duration) : Prop where
  rearming : ∀ (initial last : Config Context Payload Failure)
    (trace : List (Moment Context Payload Failure)),
      Executes program representable initial trace last → last.phase = .rearming →
        last.clock ≤ latest → last.fsm.state = state →
          resetTimeoutForCurrentState program representable last =
            { last with deadline := last.clock + duration.toNanos, phase := .selecting }
  selecting : ∀ (initial last : Config Context Payload Failure)
    (trace : List (Moment Context Payload Failure)),
      Executes program representable initial trace last → last.phase.Selects →
        last.loopState = state →
          ∃ reading, LastEntered trace state reading ∧
            last.deadline = reading + duration.toNanos

section Accepted

variable {crates : Crates} {args : FsmArgs} {block : ItemImpl}
  (machine : AcceptedFsm crates args block)

/-- Every timeout written on a handler is valid, does not contradict another,
and is the one for which the generated code sets the timer. -/
structure HonoursTimeouts (representable : Nat → Bool) (latest : Nat)
    (Context Payload Failure : Type) : Prop where
  valid : ∀ attr state, DeclaresTimeout crates block attr state →
    ∃ duration, crates.parseDuration attr.duration = .ok duration
  agree : ∀ first second state, DeclaresTimeout crates block first state →
    DeclaresTimeout crates block second state →
      crates.parseDuration first.duration = crates.parseDuration second.duration
  arms : ∀ attr state duration, DeclaresTimeout crates block attr state →
    crates.parseDuration attr.duration = .ok duration →
      Arms machine.program representable latest Context Payload Failure state duration

/-- If the machine can be spawned, a declared timeout can be added to the clock
whenever its state can be entered. -/
def AcceptedFsm.TimeoutsFit (representable : Nat → Bool) (latest : Nat) : Prop :=
  machine.fsm.channelSize ≤ usizeMax >>> 3 →
    ∀ attr state duration, DeclaresTimeout crates block attr state →
      crates.parseDuration attr.duration = .ok duration →
        ∀ clock, clock ≤ latest → machine.fsm.EntersAt representable state clock →
          representable (clock + duration.toNanos) = true

/-- The last timeout written on a method is the one that counts. -/
theorem ParsedFrom.timeout_of_getLast {method : ImplItemFn} {handler : Handler}
    {attr : StateTimeoutAttr} (parsed : ParsedFrom crates method handler)
    (isLast : (stateTimeoutAttrs crates method.attrs).getLast? = some attr) :
    ∃ duration, crates.parseDuration attr.duration = .ok duration ∧
      handler.timeout = some duration := by
  have timeout := parsed.timeout_eq
  rw [isLast, parseTimeout] at timeout
  split at timeout
  next duration durationEq => exact ⟨duration, durationEq, (Except.ok.inj timeout).symm⟩
  next => cases timeout

/-- What is marked as a handler handles something. -/
theorem ParsedFrom.trigger {method : ImplItemFn} {handler : Handler}
    (parsed : ParsedFrom crates method handler) (isHandler : method.IsHandler crates) :
    handler.event.isSome ∨ handler.isTimeoutHandler = true := by
  rcases isHandler with isOn | isOnTimeout
  · rcases List.exists_mem_of_ne_nil _ isOn with ⟨onAttr, attrMem⟩
    exact .inl ((parsed.handles_iff _ _).mp attrMem).event_isSome
  · exact .inr (parsed.isTimeoutHandler_eq.trans isOnTimeout)

/-- Where the timeouts on each method are the same, the one that counts is the
one that is written. -/
theorem AcceptedFsm.timeoutFor_of_declares (repeats : block.RepeatsTimeouts crates)
    {attr : StateTimeoutAttr} {state : Ident}
    (declares : DeclaresTimeout crates block attr state) :
    ∃ duration, crates.parseDuration attr.duration = .ok duration ∧
      machine.program.timeoutFor state = duration.toNanos := by
  rcases declares with ⟨handler, declared, isHandler, attrMem, stateMem⟩
  have handlerMem := machine.mem_handlers_iff.mpr declared
  rcases repeats handler declared isHandler with ⟨duration, same⟩
  have isLast := List.getLast?_eq_getLast_of_ne_nil (List.ne_nil_of_mem attrMem)
  rcases (machine.parsedFrom handlerMem).timeout_of_getLast isLast with
    ⟨counted, countedEq, timeoutEq⟩
  have lastSame := same _ (List.getLast_mem (List.ne_nil_of_mem attrMem))
  rw [countedEq] at lastSame
  rw [Except.ok.inj lastSame] at timeoutEq
  exact ⟨duration, same attr attrMem, machine.timeoutFor_eq handlerMem timeoutEq stateMem⟩

theorem Arms.of_timeoutFor {program : GeneratedFsm} {representable : Nat → Bool} {latest : Nat}
    {Context Payload Failure : Type} {state : Ident} {duration : Duration}
    (timeoutEq : program.timeoutFor state = duration.toNanos)
    (fits : ∀ (initial last : Config Context Payload Failure)
      (trace : List (Moment Context Payload Failure)),
        Executes program representable initial trace last → last.phase = .rearming →
          last.clock ≤ latest → last.fsm.state = state →
            representable (last.clock + duration.toNanos) = true) :
    Arms program representable latest Context Payload Failure state duration where
  rearming initial last trace executes isRearming inTime stateEq := by
    have fitsHere := fits initial last trace executes isRearming inTime stateEq
    rw [resetTimeoutForCurrentState, stateEq, timeoutEq]
    exact if_pos fitsHere
  selecting initial last trace executes selects stateEq := by
    rcases executes.armed selects with ⟨reading, entered, -, deadlineEq⟩
    rw [stateEq] at entered deadlineEq
    rw [timeoutEq] at deadlineEq
    exact ⟨reading, entered, deadlineEq⟩

/-- A timer that is set has a deadline in range. -/
theorem Arms.representable_of_executes {program : GeneratedFsm} {representable : Nat → Bool}
    {latest : Nat} {Context Payload Failure : Type} {state : Ident} {duration : Duration}
    (arms : Arms program representable latest Context Payload Failure state duration)
    {initial last : Config Context Payload Failure}
    {trace : List (Moment Context Payload Failure)}
    (executes : Executes program representable initial trace last)
    (isRearming : last.phase = .rearming) (inTime : last.clock ≤ latest)
    (stateEq : last.fsm.state = state) :
    representable (last.clock + duration.toNanos) = true := by
  have armed := arms.rearming initial last trace executes isRearming inTime stateEq
  unfold resetTimeoutForCurrentState at armed
  dsimp only at armed
  split at armed
  next fits =>
    have deadlineEq := congrArg Config.deadline armed
    dsimp only at deadlineEq
    rw [← deadlineEq]
    exact fits
  next =>
    have phaseEq := congrArg Config.phase armed
    cases phaseEq

theorem HonoursTimeouts.repeatsTimeouts {representable : Nat → Bool} {latest : Nat}
    {Context Payload Failure : Type}
    (honours : HonoursTimeouts machine representable latest Context Payload Failure) :
    block.RepeatsTimeouts crates := by
  intro handler declared isHandler
  have handlerMem := machine.mem_handlers_iff.mpr declared
  have trigger := (machine.parsedFrom handlerMem).trigger isHandler
  rcases (machine.wellFormed handlerMem).exists_target trigger with ⟨target, targetMem⟩
  have declares {attr : StateTimeoutAttr}
      (attrMem : attr ∈ stateTimeoutAttrs crates handler.method.attrs) :
      DeclaresTimeout crates block attr target :=
    ⟨handler, declared, isHandler, attrMem, targetMem⟩
  cases attrsEq : stateTimeoutAttrs crates handler.method.attrs with
  | nil => exact ⟨{ secs := 0 }, fun _ attrMem => absurd attrMem List.not_mem_nil⟩
  | cons first rest =>
      have firstMem : first ∈ stateTimeoutAttrs crates handler.method.attrs := by
        rw [attrsEq]
        exact List.mem_cons_self
      rcases honours.valid first target (declares firstMem) with ⟨duration, durationEq⟩
      refine ⟨duration, fun attr attrMem => ?_⟩
      rw [← attrsEq] at attrMem
      rw [honours.agree attr first target (declares attrMem) (declares firstMem), durationEq]

/-- The declared timeouts are honoured exactly when no method contradicts
itself and no deadline is out of range. -/
theorem honours_timeouts_iff {Context Payload Failure : Type} [Inhabited Context]
    [Inhabited Payload] {representable : Nat → Bool} {latest : Nat} :
    HonoursTimeouts machine representable latest Context Payload Failure ↔
      block.RepeatsTimeouts crates ∧ machine.TimeoutsFit representable latest := by
  constructor
  · intro honours
    refine ⟨honours.repeatsTimeouts machine, ?_⟩
    intro capacity attr state duration declares durationEq clock inTime enters
    rw [← machine.program_channelSize] at capacity
    rcases enters.exists_executes Context Payload Failure machine capacity with
      ⟨initial, trace, last, executes, isRearming, quiet⟩
    have arms := honours.arms attr state duration declares durationEq
    rw [← quiet.clock_eq] at inTime ⊢
    exact arms.representable_of_executes executes isRearming inTime quiet.state_eq
  · rintro ⟨repeats, timeoutsFit⟩
    constructor
    · intro attr state declares
      rcases machine.timeoutFor_of_declares repeats declares with ⟨duration, durationEq, -⟩
      exact ⟨duration, durationEq⟩
    · intro first second state firstDeclares secondDeclares
      rcases machine.timeoutFor_of_declares repeats firstDeclares with
        ⟨firstDuration, firstEq, firstTimeout⟩
      rcases machine.timeoutFor_of_declares repeats secondDeclares with
        ⟨secondDuration, secondEq, secondTimeout⟩
      have same := Duration.toNanos_injective (firstTimeout.symm.trans secondTimeout)
      rw [firstEq, secondEq, same]
    · intro attr state duration declares durationEq
      rcases machine.timeoutFor_of_declares repeats declares with
        ⟨counted, countedEq, timeoutEq⟩
      rw [durationEq] at countedEq
      rw [← Except.ok.inj countedEq] at timeoutEq
      refine .of_timeoutFor timeoutEq ?_
      intro initial last trace executes isRearming inTime stateEq
      have capacity := executes.spawned_initial.channelSize_le
      rw [machine.program_channelSize] at capacity
      have enters := executes.entersAt_of_rearming machine isRearming
      rw [stateEq] at enters
      exact timeoutsFit capacity attr state duration declares durationEq _ inTime enters

end Accepted

/-- No method of the worker has two timeouts, and thirty seconds can be added to
any reading of the clock within a century. -/
theorem honours_timeouts_worker :
    HonoursTimeouts worker instantRepresentable centuryNanos Nat Nat String := by
  have single : ∀ handler ∈ worker.fsm.handlers,
      ∀ attr ∈ stateTimeoutAttrs sampleCrates handler.method.attrs, attr.duration = "30s" := by
    decide
  apply (honours_timeouts_iff worker).mpr
  constructor
  · intro handler declared _
    refine ⟨{ secs := 30 }, fun attr attrMem => ?_⟩
    rw [single handler (worker.mem_handlers_iff.mpr declared) attr attrMem]
    rfl
  · rintro - attr state duration ⟨handler, declared, -, attrMem, -⟩ durationEq clock inTime -
    rw [single handler (worker.mem_handlers_iff.mpr declared) attr attrMem] at durationEq
    obtain rfl : { secs := 30 } = duration := Except.ok.inj durationEq
    apply decide_eq_true
    calc
      clock + Duration.toNanos { secs := 30 } ≤
          centuryNanos + Duration.toNanos { secs := 30 } := Nat.add_le_add_right inTime _
      _ < 2 ^ 63 * 1000000000 := by decide

/-! ## A timeout that is dropped -/

/-- The first handler is given thirty seconds and then ten. -/
def hastyBlock : ItemImpl where
  selfTy := namedType "WorkerFsm"
  items := workerTypes ++ [
    asyncMethod
      [onAttribute "Idle" "Start", stateTimeoutAttribute "30s", stateTimeoutAttribute "10s"]
      "handle_start" [namedType "Job"] (transitionType "Working"),
    asyncMethod [onTimeoutAttribute] "handle_timeout" [] (transitionType "Idle")]

def hasty : AcceptedFsm sampleCrates workerArgs hastyBlock :=
  (accept sampleCrates workerArgs hastyBlock).get (by decide)

/-- The block is accepted, and the thirty seconds are lost. -/
theorem hasty_timeout_dropped :
    ¬ HonoursTimeouts hasty instantRepresentable centuryNanos Nat Nat String ∧
      hasty.program.timeoutFor "Working" = 10000000000 := by
  refine ⟨fun honours => ?_, by decide⟩
  have declares : ∀ duration ∈ ["30s", "10s"],
      DeclaresTimeout sampleCrates hastyBlock ⟨duration⟩ "Working" := by
    intro duration durationMem
    have declared : ∃ handler ∈ hasty.fsm.handlers,
        onAttrs sampleCrates handler.method.attrs ≠ [] ∧
          stateTimeoutAttrs sampleCrates handler.method.attrs = [⟨"30s"⟩, ⟨"10s"⟩] ∧
            "Working" ∈ handler.targets := by decide
    rcases declared with ⟨handler, handlerMem, isOn, attrsEq, targetMem⟩
    refine ⟨handler, hasty.mem_handlers_iff.mp handlerMem, .inl isOn, ?_,
      targetMem⟩
    rw [attrsEq]
    exact List.mem_map.mpr ⟨duration, durationMem, rfl⟩
  have agree := honours.agree _ _ _ (declares "30s" (by decide)) (declares "10s" (by decide))
  revert agree
  decide

/-- A single timeout that is out of range is accepted too, and never set. -/
example : ¬ HonoursTimeouts patient instantRepresentable centuryNanos Nat Nat String := by
  intro honours
  have declared : ∃ handler ∈ patient.fsm.handlers,
      onAttrs sampleCrates handler.method.attrs ≠ [] ∧
        stateTimeoutAttrs sampleCrates handler.method.attrs = [⟨"18446744073709551615s"⟩] ∧
          "Working" ∈ handler.targets := by decide
  rcases declared with ⟨handler, handlerMem, isOn, attrsEq, targetMem⟩
  have declares : DeclaresTimeout sampleCrates (patientBlock "18446744073709551615s")
      ⟨"18446744073709551615s"⟩ "Working" :=
    ⟨handler, patient.mem_handlers_iff.mp handlerMem, .inl isOn, by rw [attrsEq]; simp, targetMem⟩
  have arms := honours.arms _ _ { secs := 18446744073709551615 } declares rfl
  have fits := arms.representable_of_executes patientRun_executes rfl (by decide) rfl
  revert fits
  decide

end TokioFsm
