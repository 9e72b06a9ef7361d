import Mathlib.Computability.EpsilonNFA

/-!
# Reading with an automaton

The states that an automaton with silent steps can be in after a word, one step
at a time: silent steps lead from such states to such states, and reading one
more letter leads to those for the longer word.  There are no others.  Without
silent steps, and with one way to go for each letter, there is only one.
-/

namespace AutomatonReading

variable {Letter State : Type*} {automaton : εNFA Letter State} {word : List Letter}
  {state target : State} {letter : Letter}

theorem mem_eval_start (starts : state ∈ automaton.start) : state ∈ automaton.eval [] := by
  rw [εNFA.eval_nil]
  exact εNFA.εClosure.base state starts

theorem mem_eval_silent (before : state ∈ automaton.eval word)
    (silent : target ∈ automaton.step state none) : target ∈ automaton.eval word := by
  induction word using List.reverseRecOn with
  | nil =>
      rw [εNFA.eval_nil] at before ⊢
      exact εNFA.εClosure.step state target silent before
  | append_singleton word letter =>
      rw [εNFA.eval_append_singleton, εNFA.mem_stepSet_iff] at before ⊢
      obtain ⟨source, sourceMem, closure⟩ := before
      exact ⟨source, sourceMem, εNFA.εClosure.step state target silent closure⟩

theorem mem_eval_read (before : state ∈ automaton.eval word)
    (reads : target ∈ automaton.step state (some letter)) :
    target ∈ automaton.eval (word ++ [letter]) := by
  rw [εNFA.eval_append_singleton, εNFA.mem_stepSet_iff]
  exact ⟨state, before, εNFA.εClosure.base target reads⟩

/-- Induction along the states that the automaton can be in. -/
theorem eval_induction {motive : List Letter → State → Prop}
    (start : ∀ state ∈ automaton.start, motive [] state)
    (silent : ∀ word state target, motive word state → target ∈ automaton.step state none →
      motive word target)
    (read : ∀ word letter state target, motive word state →
      target ∈ automaton.step state (some letter) → motive (word ++ [letter]) target)
    (stateMem : state ∈ automaton.eval word) : motive word state := by
  induction word using List.reverseRecOn generalizing state with
  | nil =>
      rw [εNFA.eval_nil] at stateMem
      induction stateMem with
      | base state starts => exact start state starts
      | step state target step _ ih => exact silent [] state target ih step
  | append_singleton word letter ih =>
      rw [εNFA.eval_append_singleton, εNFA.mem_stepSet_iff] at stateMem
      obtain ⟨source, sourceMem, closure⟩ := stateMem
      induction closure with
      | base state reads => exact read word letter source state (ih sourceMem) reads
      | step state target step _ reached => exact silent _ state target reached step

/-- An automaton that has no choice is in one state. -/
theorem eval_unique (starts : ∀ first ∈ automaton.start, ∀ second ∈ automaton.start,
      first = second)
    (noSilent : ∀ state, automaton.step state none = ∅)
    (oneWay : ∀ state letter, ∀ first ∈ automaton.step state (some letter),
      ∀ second ∈ automaton.step state (some letter), first = second)
    {first second : State} (firstMem : first ∈ automaton.eval word)
    (secondMem : second ∈ automaton.eval word) : first = second := by
  have closed (states : Set State) : automaton.εClosure states = states := by
    apply Set.Subset.antisymm
    · intro state closure
      induction closure with
      | base state stateMem => exact stateMem
      | step source target step _ _ =>
          rw [noSilent source] at step
          exact absurd step (Set.notMem_empty target)
    · exact automaton.subset_εClosure states
  induction word using List.reverseRecOn generalizing first second with
  | nil =>
      rw [εNFA.eval_nil, closed] at firstMem secondMem
      exact starts first firstMem second secondMem
  | append_singleton word letter ih =>
      rw [εNFA.eval_append_singleton, εNFA.mem_stepSet_iff] at firstMem secondMem
      obtain ⟨firstSource, firstSourceMem, firstStep⟩ := firstMem
      obtain ⟨secondSource, secondSourceMem, secondStep⟩ := secondMem
      rw [closed] at firstStep secondStep
      obtain rfl := ih firstSourceMem secondSourceMem
      exact oneWay firstSource letter first firstStep second secondStep

end AutomatonReading
