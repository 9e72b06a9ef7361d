import Mathlib.Data.List.Basic
import Mathlib.Logic.Relation

/-!
# Finite runs of a partial step function

A transition system is given by a partial step function: the action resolves
every choice, and `none` says that the action is not possible in that state.
A run is recorded as the list of its moments, each moment being a state
together with the action taken in it, so that what a run did can be read off
its trace without instrumenting the state.
-/

namespace StepRuns

variable {State Action : Type*}

/-- A finite run from `start`, with its moments in order. -/
inductive Run (step : State → Action → Option State) (start : State) :
    List (State × Action) → State → Prop
  | refl : Run step start [] start
  | snoc {trace : List (State × Action)} {middle last : State} {action : Action} :
      Run step start trace middle → step middle action = some last →
        Run step start (trace ++ [(middle, action)]) last

namespace Run

variable {step : State → Action → Option State} {start middle last : State}
  {trace before after : List (State × Action)}

theorem single {action : Action} (taken : step start action = some last) :
    Run step start [(start, action)] last :=
  Run.refl.snoc taken

theorem append (first : Run step start before middle)
    (second : Run step middle after last) :
    Run step start (before ++ after) last := by
  induction second with
  | refl => simpa using first
  | snoc _ taken ih =>
      rw [← List.append_assoc]
      exact ih.snoc taken

/-- The last moment of a run is a step out of the state it records. -/
theorem last_step {action : Action}
    (run : Run step start (trace ++ [(middle, action)]) last) :
    Run step start trace middle ∧ step middle action = some last := by
  generalize whole : trace ++ [(middle, action)] = moments at run
  cases run with
  | refl => simp at whole
  | snoc previous taken =>
      obtain ⟨rfl, momentEq⟩ := List.append_inj' whole rfl
      obtain ⟨rfl, rfl⟩ : middle = _ ∧ action = _ := by simpa using momentEq
      exact ⟨previous, taken⟩

/-- A run whose trace is cut in two passes through a state at the cut. -/
theorem split (run : Run step start trace last)
    (cut : trace = before ++ after) :
    ∃ middle, Run step start before middle ∧ Run step middle after last := by
  induction run generalizing after with
  | refl =>
      obtain ⟨rfl, rfl⟩ := List.append_eq_nil_iff.mp cut.symm
      exact ⟨start, .refl, .refl⟩
  | @snoc trace middle last action previous taken ih =>
      rcases List.eq_nil_or_concat' after with rfl | ⟨after, moment, rfl⟩
      · rw [List.append_nil] at cut
        subst before
        exact ⟨last, previous.snoc taken, .refl⟩
      · rw [← List.append_assoc] at cut
        obtain ⟨earlier, momentEq⟩ := List.append_inj' cut rfl
        obtain rfl : (middle, action) = moment := by simpa using momentEq
        obtain ⟨cutState, toCut, fromCut⟩ := ih earlier
        exact ⟨cutState, toCut, fromCut.snoc taken⟩

/-- The state recorded in a moment is the state the run was in, and the run
went on with the recorded action. -/
theorem moment {action : Action} (run : Run step start trace last)
    (cut : trace = before ++ (middle, action) :: after) :
    Run step start before middle ∧
      ∃ next, step middle action = some next ∧ Run step next after last := by
  obtain ⟨next, toNext, fromNext⟩ :=
    run.split (cut.trans (List.append_cons before (middle, action) after))
  obtain ⟨toMiddle, taken⟩ := toNext.last_step
  exact ⟨toMiddle, next, taken, fromNext⟩

theorem eq_of_nil (run : Run step start [] last) : start = last := by
  generalize none : ([] : List (State × Action)) = trace at run
  cases run with
  | refl => rfl
  | snoc => simp at none

end Run

/-- Reading off a run one moment longer. -/
theorem filterMap_snoc {Moment Reading : Type*} (read : Moment → Option Reading)
    (trace : List Moment) (moment : Moment) :
    (trace ++ [moment]).filterMap read = trace.filterMap read ++ (read moment).toList := by
  rw [List.filterMap_append]
  cases found : read moment with
  | none => simp [found]
  | some reading => simp [found]

/-- Take some actions in order, recording the moments. -/
def replay (step : State → Action → Option State) (start : State) :
    List Action → Option (List (State × Action) × State)
  | [] => some ([], start)
  | action :: actions =>
      match step start action with
      | none => none
      | some next =>
          match replay step next actions with
          | none => none
          | some (trace, last) => some ((start, action) :: trace, last)

/-- What is replayed is a run. -/
theorem run_of_replay {step : State → Action → Option State} {start last : State}
    {actions : List Action} {trace : List (State × Action)}
    (replayed : replay step start actions = some (trace, last)) :
    Run step start trace last := by
  induction actions generalizing start trace with
  | nil =>
      cases replayed
      exact .refl
  | cons action actions ih =>
      unfold replay at replayed
      split at replayed
      next => cases replayed
      next next taken =>
        split at replayed
        next => cases replayed
        next rest lastState restReplayed =>
          cases replayed
          exact (Run.single taken).append (ih restReplayed)

end StepRuns
