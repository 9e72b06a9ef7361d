import Mathlib.Data.List.Forall2
import Mathlib.Data.List.Induction
import Mathlib.Data.List.Perm.Basic

/-!
# Loops that may fail

Rules for reading off what a successful computation in `Except` did: a
successful sequence is a sequence of successes, and a loop whose body first
converts an element and then folds it in is a conversion of the whole list
followed by a fold.  The last rules bound what an unsuccessful one fails with.
-/

namespace Fallible

universe u

variable {Failure : Type*} {Input Output Result : Type u}

@[simp]
theorem pure_eq_ok (value : Output) :
    (pure value : Except Failure Output) = .ok value :=
  rfl

theorem bind_eq_ok_iff {first : Except Failure Input}
    {continuation : Input → Except Failure Output} {result : Output} :
    first >>= continuation = .ok result ↔
      ∃ value, first = .ok value ∧ continuation value = .ok result := by
  cases first with
  | error failure => simp [bind, Except.bind]
  | ok value => simp [bind, Except.bind]

@[simp]
theorem ok_bind (value : Input) (continuation : Input → Except Failure Output) :
    (Except.ok value >>= continuation) = continuation value :=
  rfl

@[simp]
theorem bind_ok (first : Except Failure Input) : (first >>= Except.ok) = first := by
  cases first <;> rfl

/-- A property of the inputs consumed so far and the value built from them
that every step preserves holds of the whole loop. -/
theorem foldlM_invariant (holds : List Input → Result → Prop)
    {step : Result → Input → Except Failure Result} {inputs : List Input}
    {start result : Result} (done : inputs.foldlM step start = .ok result)
    (initially : holds [] start)
    (preserved : ∀ consumed input before after,
      holds consumed before → step before input = .ok after →
        holds (consumed ++ [input]) after) :
    holds inputs result := by
  induction inputs using List.reverseRecOn generalizing result with
  | nil =>
      obtain rfl := Except.ok.inj done
      exact initially
  | append_singleton inputs input ih =>
      rw [List.foldlM_append] at done
      obtain ⟨before, previous, stepped⟩ := bind_eq_ok_iff.mp done
      have stepped : step before input = .ok result := by simpa using stepped
      exact preserved inputs input before result (ih previous) stepped

/-- A nested loop is a loop over the flattened list. -/
theorem foldlM_flatMap {expand : Input → List Output}
    {step : Result → Output → Except Failure Result} {inputs : List Input}
    (start : Result) :
    (inputs.flatMap expand).foldlM step start =
      inputs.foldlM (fun before input => (expand input).foldlM step before) start := by
  induction inputs generalizing start with
  | nil => rfl
  | cons input inputs ih =>
      rw [List.flatMap_cons, List.foldlM_append, List.foldlM_cons]
      exact bind_congr ih

/-- A loop with a total body succeeds with the plain fold. -/
theorem foldlM_eq_ok (total : Result → Input → Result)
    {step : Result → Input → Except Failure Result} {inputs : List Input} {start : Result}
    (steps : ∀ before, ∀ input ∈ inputs, step before input = .ok (total before input)) :
    inputs.foldlM step start = .ok (inputs.foldl total start) := by
  induction inputs generalizing start with
  | nil => rfl
  | cons input inputs ih =>
      rw [List.foldlM_cons, steps start input (by simp), ok_bind, List.foldl_cons]
      exact ih fun before later laterMem => steps before later (by simp [laterMem])

/-- An element on which the body does nothing may stand anywhere. -/
theorem foldlM_insert_neutral {step : Result → Input → Except Failure Result}
    {input : Input} (neutral : ∀ value, step value input = .ok value)
    (before after : List Input) (start : Result) :
    (before ++ input :: after).foldlM step start = (before ++ after).foldlM step start := by
  rw [List.foldlM_append, List.foldlM_append]
  apply bind_congr
  intro value
  rw [List.foldlM_cons, neutral, ok_bind]

theorem foldlM_neutral {step : Result → Input → Except Failure Result} {inputs : List Input}
    {start : Result} (neutral : ∀ value, ∀ input ∈ inputs, step value input = .ok value) :
    inputs.foldlM step start = .ok start := by
  rw [foldlM_eq_ok (fun value _ => value) neutral]
  simp

theorem mapM_eq_ok_iff {convert : Input → Except Failure Output}
    {inputs : List Input} {outputs : List Output} :
    inputs.mapM convert = .ok outputs ↔
      List.Forall₂ (fun input output => convert input = .ok output) inputs outputs := by
  induction inputs generalizing outputs with
  | nil =>
      rw [List.mapM_nil, List.forall₂_nil_left_iff]
      constructor
      · exact fun done => (Except.ok.inj done).symm
      · rintro rfl
        rfl
  | cons input inputs ih =>
      rw [List.mapM_cons, List.forall₂_cons_left_iff, bind_eq_ok_iff]
      constructor
      · rintro ⟨output, converted, done⟩
        obtain ⟨rest, restDone, done⟩ := bind_eq_ok_iff.mp done
        exact ⟨output, rest, converted, ih.mp restDone, (Except.ok.inj done).symm⟩
      · rintro ⟨output, rest, converted, restDone, rfl⟩
        exact ⟨output, converted, bind_eq_ok_iff.mpr ⟨rest, ih.mpr restDone, rfl⟩⟩

/-- The results of a successful conversion are those of its elements. -/
theorem mem_mapM_iff {convert : Input → Except Failure Output} {inputs : List Input}
    {outputs : List Output} (done : inputs.mapM convert = .ok outputs) {output : Output} :
    output ∈ outputs ↔ ∃ input ∈ inputs, convert input = .ok output := by
  have pairs := mapM_eq_ok_iff.mp done
  induction pairs with
  | nil => simp
  | cons headConverted rest ih =>
      have inRest := ih (mapM_eq_ok_iff.mpr rest)
      rw [List.mem_cons, List.exists_mem_cons_iff, headConverted, Except.ok.injEq]
      exact or_congr eq_comm inRest

/-- In a successful conversion every element converts. -/
theorem converts_of_mapM {convert : Input → Except Failure Output} {inputs : List Input}
    {outputs : List Output} (done : inputs.mapM convert = .ok outputs) {input : Input}
    (inputMem : input ∈ inputs) : ∃ output ∈ outputs, convert input = .ok output := by
  have pairs := mapM_eq_ok_iff.mp done
  induction pairs with
  | nil => exact absurd inputMem List.not_mem_nil
  | @cons first output inputs outputs converted rest ih =>
      rcases List.mem_cons.mp inputMem with rfl | inputMem
      · exact ⟨output, List.mem_cons_self, converted⟩
      · rcases ih (mapM_eq_ok_iff.mpr rest) inputMem with ⟨found, foundMem, foundEq⟩
        exact ⟨found, List.mem_cons_of_mem output foundMem, foundEq⟩

/-- Searching the results is searching the inputs, where a result gives back
its input and a test on results is a test on inputs. -/
theorem mapM_find? {convert : Input → Except Failure Output} {inputs : List Input}
    {outputs : List Output} (converted : inputs.mapM convert = .ok outputs)
    {holds : Output → Bool} {test : Input → Bool} {giveBack : Output → Input}
    (agree : ∀ input output, convert input = .ok output →
      giveBack output = input ∧ holds output = test input) :
    (outputs.find? holds).map giveBack = inputs.find? test := by
  have pairs := mapM_eq_ok_iff.mp converted
  clear converted
  induction pairs with
  | nil => rfl
  | @cons input output inputs outputs parsed _ ih =>
      obtain ⟨givenBack, sameTest⟩ := agree input output parsed
      rw [List.find?_cons, List.find?_cons, ← sameTest]
      cases holds output with
      | true => rw [← givenBack]; rfl
      | false => exact ih

/-- Converting in another order gives the results in that order. -/
theorem mapM_perm {convert : Input → Except Failure Output} {first second : List Input}
    {outputs : List Output} (permuted : first.Perm second)
    (done : first.mapM convert = .ok outputs) :
    ∃ others, second.mapM convert = .ok others ∧ outputs.Perm others := by
  obtain ⟨others, pairs, reordered⟩ :=
    List.perm_comp_forall₂ permuted.symm (mapM_eq_ok_iff.mp done)
  exact ⟨others, mapM_eq_ok_iff.mpr pairs, reordered.symm⟩

theorem exists_mapM_eq_ok {convert : Input → Except Failure Output} {inputs : List Input}
    (converts : ∀ input ∈ inputs, ∃ output, convert input = .ok output) :
    ∃ outputs, inputs.mapM convert = .ok outputs := by
  induction inputs with
  | nil => exact ⟨[], rfl⟩
  | cons input inputs ih =>
      obtain ⟨output, converted⟩ := converts input (by simp)
      obtain ⟨outputs, rest⟩ := ih fun later laterMem => converts later (by simp [laterMem])
      exact ⟨output :: outputs, by simp [converted, rest]⟩

/-- A loop that converts each element before folding it in succeeds exactly
when all conversions and then the fold do. -/
theorem foldlM_convert_eq_ok_iff {convert : Input → Except Failure Output}
    {step : Result → Output → Except Failure Result} {inputs : List Input}
    {start result : Result} :
    inputs.foldlM (fun before input => convert input >>= step before) start = .ok result ↔
      ∃ outputs, inputs.mapM convert = .ok outputs ∧
        outputs.foldlM step start = .ok result := by
  induction inputs generalizing start with
  | nil =>
      constructor
      · exact fun done => ⟨[], rfl, done⟩
      · rintro ⟨outputs, converted, done⟩
        obtain rfl := Except.ok.inj converted
        exact done
  | cons input inputs ih =>
      rw [List.foldlM_cons, List.mapM_cons, bind_eq_ok_iff]
      constructor
      · rintro ⟨after, stepped, done⟩
        obtain ⟨output, converted, stepped⟩ := bind_eq_ok_iff.mp stepped
        obtain ⟨rest, restConverted, done⟩ := ih.mp done
        refine ⟨output :: rest, ?_, ?_⟩
        · simp [converted, restConverted]
        · rw [List.foldlM_cons, stepped]
          exact done
      · rintro ⟨outputs, converted, done⟩
        obtain ⟨output, headConverted, converted⟩ := bind_eq_ok_iff.mp converted
        obtain ⟨rest, restConverted, converted⟩ := bind_eq_ok_iff.mp converted
        obtain rfl := Except.ok.inj converted
        rw [List.foldlM_cons] at done
        obtain ⟨after, stepped, done⟩ := bind_eq_ok_iff.mp done
        exact ⟨after, bind_eq_ok_iff.mpr ⟨output, headConverted, stepped⟩,
          ih.mpr ⟨rest, restConverted, done⟩⟩

/-! ## What a computation may fail with -/

/-- Every failure of the computation is one of the given failures. -/
def FailsWithin (failures : Failure → Prop) (computation : Except Failure Output) : Prop :=
  ∀ failure, computation = .error failure → failures failure

section Failures

variable {failures : Failure → Prop}

@[simp]
theorem failsWithin_ok (value : Output) :
    FailsWithin failures (.ok value : Except Failure Output) :=
  nofun

@[simp]
theorem failsWithin_error {failure : Failure} :
    FailsWithin failures (.error failure : Except Failure Output) ↔ failures failure := by
  simp [FailsWithin]

/-- The rest of a sequence runs on what its first part returns. -/
theorem FailsWithin.bind {first : Except Failure Input}
    {continuation : Input → Except Failure Output} (firstFails : FailsWithin failures first)
    (restFails : ∀ value, first = .ok value → FailsWithin failures (continuation value)) :
    FailsWithin failures (first >>= continuation) := by
  cases first with
  | error failure => exact failsWithin_error.mpr (failsWithin_error.mp firstFails)
  | ok value => exact restFails value rfl

/-- A loop fails at some input, after a prefix on which it has succeeded. -/
theorem FailsWithin.foldlM_prefix {step : Result → Input → Except Failure Result}
    {inputs : List Input} {start : Result}
    (stepFails : ∀ before input after value, inputs = before ++ input :: after →
      before.foldlM step start = .ok value → FailsWithin failures (step value input)) :
    FailsWithin failures (inputs.foldlM step start) := by
  induction inputs using List.reverseRecOn with
  | nil => exact failsWithin_ok start
  | append_singleton inputs input ih =>
      rw [List.foldlM_append]
      apply FailsWithin.bind
      · apply ih
        intro before earlier after value split done
        exact stepFails before earlier (after ++ [input]) value (by simp [split]) done
      · intro value done
        simpa using stepFails inputs input [] value rfl done

theorem FailsWithin.foldlM {step : Result → Input → Except Failure Result}
    {inputs : List Input} {start : Result}
    (steps : ∀ before, ∀ input ∈ inputs, FailsWithin failures (step before input)) :
    FailsWithin failures (inputs.foldlM step start) := by
  induction inputs generalizing start with
  | nil => exact failsWithin_ok start
  | cons input inputs ih =>
      rw [List.foldlM_cons]
      apply (steps start input List.mem_cons_self).bind
      intro after _
      exact ih fun before later laterMem => steps before later (List.mem_cons_of_mem _ laterMem)

end Failures

end Fallible
