import Mathlib.Data.Set.Basic
import TokioFsm.Library.StepRuns

/-!
# Weak bisimulation

A labelled system moves from state to state, and each of its steps either shows
a label or is silent.  Two systems are weakly bisimilar when related states can
follow each other's steps label for label, with any number of silent steps on
the way.  They then have the same traces.
-/

namespace WeakBisimulation

/-- States, where they begin, and the steps with the label each one shows. -/
structure LabelledSystem (State Label : Type*) where
  initial : State → Prop
  step : State → Option Label → State → Prop

variable {State Other Label : Type*}

namespace LabelledSystem

variable (system : LabelledSystem State Label)

/-- Some steps, and the labels they show. -/
inductive Steps (start : State) : List Label → State → Prop
  | refl : Steps start [] start
  | snoc {labels : List Label} {middle last : State} {label : Option Label} :
      Steps start labels middle → system.step middle label last →
        Steps start (labels ++ label.toList) last

/-- Where the system can get. -/
def Reachable (state : State) : Prop :=
  ∃ start labels, system.initial start ∧ system.Steps start labels state

/-- The label sequences the system can show. -/
def traces : Set (List Label) :=
  { labels | ∃ start last, system.initial start ∧ system.Steps start labels last }

variable {system} {start middle last : State} {first second : List Label}
  {label : Option Label}

theorem Steps.single (step : system.step start label last) :
    system.Steps start label.toList last := by
  have steps := Steps.refl.snoc step
  rwa [List.nil_append] at steps

theorem Steps.silent (step : system.step start none last) : system.Steps start [] last :=
  .single step

theorem Steps.trans (toMiddle : system.Steps start first middle)
    (toLast : system.Steps middle second last) : system.Steps start (first ++ second) last := by
  induction toLast with
  | refl => rwa [List.append_nil]
  | snoc _ step ih =>
      rw [← List.append_assoc]
      exact ih.snoc step

theorem Reachable.of_initial (isInitial : system.initial start) : system.Reachable start :=
  ⟨start, [], isInitial, .refl⟩

theorem Reachable.steps (reachable : system.Reachable middle)
    (steps : system.Steps middle second last) : system.Reachable last := by
  obtain ⟨start, labels, isInitial, toMiddle⟩ := reachable
  exact ⟨start, _, isInitial, toMiddle.trans steps⟩

end LabelledSystem

open LabelledSystem

/-- Related states of the second system follow every step of the first.  Only
states that the systems can reach are asked about. -/
structure Simulation (first : LabelledSystem State Label) (second : LabelledSystem Other Label)
    (related : State → Other → Prop) : Prop where
  initial : ∀ state, first.initial state →
    ∃ other, second.initial other ∧ related state other
  step : ∀ state other label next, first.Reachable state →
    second.Reachable other → related state other → first.step state label next →
      ∃ follow, second.Steps other label.toList follow ∧ related next follow

/-- Each of two systems simulates the other, by one relation. -/
structure Bisimulation (first : LabelledSystem State Label)
    (second : LabelledSystem Other Label) (related : State → Other → Prop) : Prop where
  forward : Simulation first second related
  backward : Simulation second first fun other state => related state other

section Following

variable {first : LabelledSystem State Label} {second : LabelledSystem Other Label}
  {related : State → Other → Prop}

/-- What the first system does, step after step, the second one does. -/
theorem Simulation.steps (simulation : Simulation first second related) {state next : State}
    {other : Other} {labels : List Label} (reachable : first.Reachable state)
    (otherReachable : second.Reachable other) (isRelated : related state other)
    (steps : first.Steps state labels next) :
    ∃ follow, second.Steps other labels follow ∧ related next follow := by
  induction steps with
  | refl => exact ⟨other, .refl, isRelated⟩
  | @snoc labels middle next label steps step ih =>
      obtain ⟨midway, toMidway, midwayRelated⟩ := ih
      obtain ⟨follow, toFollow, followRelated⟩ :=
        simulation.step middle midway label next (reachable.steps steps)
          (otherReachable.steps toMidway) midwayRelated step
      exact ⟨follow, toMidway.trans toFollow, followRelated⟩

theorem Simulation.traces_subset (simulation : Simulation first second related) :
    first.traces ⊆ second.traces := by
  rintro labels ⟨start, last, isInitial, steps⟩
  obtain ⟨other, otherInitial, isRelated⟩ := simulation.initial start isInitial
  obtain ⟨follow, toFollow, -⟩ :=
    simulation.steps (.of_initial isInitial) (.of_initial otherInitial) isRelated steps
  exact ⟨other, follow, otherInitial, toFollow⟩

/-- Bisimilar systems show the same. -/
theorem Bisimulation.traces_eq (bisimulation : Bisimulation first second related) :
    first.traces = second.traces :=
  bisimulation.forward.traces_subset.antisymm bisimulation.backward.traces_subset

end Following

end WeakBisimulation
