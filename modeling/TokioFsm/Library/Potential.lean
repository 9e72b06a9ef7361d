import TokioFsm.Library.Counting
import TokioFsm.Library.StepRuns

/-!
# Potentials

A potential puts a number on every state.  A step that counts lowers it, unless
the step pays in, and then it may rise by as much as a fixed rate.  The counted
steps of a run are therefore bounded by the potential at its start and by what
was paid in on the way.  Where a step that lowers the potential is possible in
every state but the finished ones, a finished state is within reach.
-/

namespace StepRuns

variable {State Action : Type*}

structure Potential (step : State → Action → Option State) where
  /-- where the account is kept -/
  domain : State → Prop
  value : State → Nat
  counts : State × Action → Bool
  paysIn : State × Action → Bool
  rate : Nat
  domain_step : ∀ {state next : State} {action : Action}, domain state →
    step state action = some next → domain next
  balance : ∀ {state next : State} {action : Action}, domain state →
    step state action = some next →
      (counts (state, action)).toNat + value next ≤
        value state + rate * (paysIn (state, action)).toNat

variable {step : State → Action → Option State} {start last : State}
  {trace : List (State × Action)}

/-- The steps counted in a run are paid for by the potential at its start and
by the steps that pay in. -/
theorem Potential.countP_le (potential : Potential step) (initially : potential.domain start)
    (run : Run step start trace last) :
    potential.domain last ∧
      trace.countP potential.counts + potential.value last ≤
        potential.value start + potential.rate * trace.countP potential.paysIn := by
  induction run with
  | refl => exact ⟨initially, by simp⟩
  | @snoc trace middle last action _ taken ih =>
      obtain ⟨inDomain, bound⟩ := ih
      have balance := potential.balance inDomain taken
      refine ⟨potential.domain_step inDomain taken, ?_⟩
      rw [Counting.countP_snoc, Counting.countP_snoc, Nat.mul_add]
      omega

/-- If every state but the finished ones has a step that lowers the value,
some run finishes, in no more steps than the value it loses. -/
theorem exists_run_of_progress (domain finished : State → Prop)
    (allowed : State × Action → Prop) (value : State → Nat)
    (progress : ∀ state, domain state → finished state ∨
      ∃ action next, allowed (state, action) ∧ step state action = some next ∧
        domain next ∧ value next < value state)
    (initially : domain start) :
    ∃ trace last, Run step start trace last ∧ finished last ∧
      trace.length + value last ≤ value start ∧ ∀ moment ∈ trace, allowed moment := by
  generalize measure : value start = bound
  induction bound using Nat.strongRecOn generalizing start with
  | ind bound ih =>
      obtain done | ⟨action, next, isAllowed, taken, inDomain, lower⟩ := progress start initially
      · exact ⟨[], start, .refl, done, by simp [measure], by simp⟩
      · rw [measure] at lower
        obtain ⟨trace, last, run, done, short, allAllowed⟩ := ih _ lower inDomain rfl
        refine ⟨(start, action) :: trace, last, (Run.single taken).append run, done, ?_, ?_⟩
        · rw [List.length_cons]
          omega
        · exact List.forall_mem_cons.mpr ⟨isAllowed, allAllowed⟩

end StepRuns
