import Mathlib.Data.List.Basic
import Mathlib.Data.List.Nodup
import Mathlib.Data.List.Perm.Basic
import TokioFsm.Library.Fallible

/-!
# First-seen tables

A recurring way of collecting declarations: walk through them in order, keep
the first one seen for every key, and either ignore later ones with the same
key or insist that they carry the same value.  The results below describe the
table by the declarations alone, so that the order of the walk disappears:
the keys are those of the declarations, each key occurs once, and the
insisting walk succeeds exactly when equal keys carry equal values.
-/

namespace FirstSeen

variable {Entry Key Value Conflict : Type*}

section Tables

variable [DecidableEq Key] (key : Entry → Key)

/-- The first entry with the given key. -/
def lookup (seen : List Entry) (wanted : Key) : Option Entry :=
  seen.find? fun entry => decide (key entry = wanted)

/-- Append an entry unless its key has been seen. -/
def record (seen : List Entry) (entry : Entry) : List Entry :=
  if seen.any fun existing => decide (key existing = key entry) then seen
  else seen ++ [entry]

/-- Record a whole sequence of entries, in order. -/
def recordAll (seen entries : List Entry) : List Entry :=
  entries.foldl (record key) seen

/-- Append an entry unless its key has been seen, in which case the earlier
entry must carry the same value. -/
def check [DecidableEq Value] (value : Entry → Value)
    (conflict : Entry → Entry → Conflict) (seen : List Entry) (entry : Entry) :
    Except Conflict (List Entry) :=
  match lookup key seen (key entry) with
  | some existing =>
      if value existing = value entry then .ok seen
      else .error (conflict existing entry)
  | none => .ok (seen ++ [entry])

end Tables

section Recording

variable [DecidableEq Key] {key : Entry → Key} {seen entries : List Entry}
  {entry existing : Entry} {wanted : Key}

theorem lookup_eq_some (found : lookup key seen wanted = some entry) :
    entry ∈ seen ∧ key entry = wanted :=
  ⟨List.mem_of_find?_eq_some found, by simpa using List.find?_some found⟩

theorem lookup_eq_none_iff :
    lookup key seen wanted = none ↔ wanted ∉ seen.map key := by
  simp [lookup]

theorem lookup_append (first second : List Entry) :
    lookup key (first ++ second) wanted =
      (lookup key first wanted).or (lookup key second wanted) :=
  List.find?_append

theorem exists_lookup (key : Entry → Key) (seenKey : wanted ∈ seen.map key) :
    ∃ entry, lookup key seen wanted = some entry := by
  rw [← Option.isSome_iff_exists, Option.isSome_iff_ne_none]
  exact fun missing => lookup_eq_none_iff.mp missing seenKey

theorem record_of_mem (seenKey : key entry ∈ seen.map key) :
    record key seen entry = seen := by
  obtain ⟨existing, existingMem, keyEq⟩ := List.mem_map.mp seenKey
  exact if_pos (List.any_eq_true.mpr ⟨existing, existingMem, by simpa using keyEq⟩)

theorem record_of_not_mem (fresh : key entry ∉ seen.map key) :
    record key seen entry = seen ++ [entry] := by
  refine if_neg fun found => fresh ?_
  obtain ⟨existing, existingMem, keyEq⟩ := List.any_eq_true.mp found
  exact List.mem_map.mpr ⟨existing, existingMem, by simpa using keyEq⟩

theorem mem_keys_record :
    wanted ∈ (record key seen entry).map key ↔
      wanted ∈ seen.map key ∨ wanted = key entry := by
  by_cases seenKey : key entry ∈ seen.map key
  · rw [record_of_mem seenKey]
    constructor
    · exact Or.inl
    · rintro (earlier | rfl)
      · exact earlier
      · exact seenKey
  · rw [record_of_not_mem seenKey]
    simp

theorem nodup_keys_record (distinct : (seen.map key).Nodup) :
    ((record key seen entry).map key).Nodup := by
  by_cases seenKey : key entry ∈ seen.map key
  · rwa [record_of_mem seenKey]
  · rw [record_of_not_mem seenKey, List.map_append, List.map_singleton]
    exact List.concat_eq_append ▸ distinct.concat seenKey

theorem lookup_record :
    lookup key (record key seen entry) wanted =
      (lookup key seen wanted).or (lookup key [entry] wanted) := by
  by_cases seenKey : key entry ∈ seen.map key
  · rw [record_of_mem seenKey]
    by_cases atEntry : key entry = wanted
    · subst wanted
      obtain ⟨existing, found⟩ := exists_lookup key seenKey
      rw [found, Option.some_or]
    · simp [lookup, atEntry]
  · rw [record_of_not_mem seenKey, lookup_append]

@[simp]
theorem recordAll_nil : recordAll key seen [] = seen :=
  rfl

@[simp]
theorem recordAll_cons :
    recordAll key seen (entry :: entries) =
      recordAll key (record key seen entry) entries :=
  rfl

theorem recordAll_append (more : List Entry) :
    recordAll key seen (entries ++ more) =
      recordAll key (recordAll key seen entries) more :=
  List.foldl_append

/-- The keys of a table are those it started from and those recorded. -/
theorem mem_keys_recordAll (key : Entry → Key) (seen entries : List Entry) (wanted : Key) :
    wanted ∈ (recordAll key seen entries).map key ↔
      wanted ∈ seen.map key ∨ wanted ∈ entries.map key := by
  induction entries generalizing seen with
  | nil => simp
  | cons entry entries ih =>
      rw [recordAll_cons, ih, mem_keys_record, List.map_cons, List.mem_cons, or_assoc]

theorem mem_of_mem_recordAll (entryMem : entry ∈ recordAll key seen entries) :
    entry ∈ seen ∨ entry ∈ entries := by
  induction entries generalizing seen with
  | nil => exact Or.inl entryMem
  | cons first entries ih =>
      rcases ih entryMem with recorded | later
      · unfold record at recorded
        split at recorded
        · exact Or.inl recorded
        · rcases List.mem_append.mp recorded with earlier | latest
          · exact Or.inl earlier
          · exact Or.inr (by rw [List.mem_singleton.mp latest]; simp)
      · exact Or.inr (List.mem_cons_of_mem first later)

/-- No key occurs twice in a table. -/
theorem nodup_keys_recordAll (key : Entry → Key) (seen entries : List Entry)
    (distinct : (seen.map key).Nodup) :
    ((recordAll key seen entries).map key).Nodup := by
  induction entries generalizing seen with
  | nil => exact distinct
  | cons entry entries ih => exact ih _ (nodup_keys_record distinct)

/-- Looking a key up in a table finds the first entry recorded for it. -/
theorem lookup_recordAll :
    lookup key (recordAll key seen entries) wanted =
      (lookup key seen wanted).or (lookup key entries wanted) := by
  induction entries generalizing seen with
  | nil => simp [lookup]
  | cons entry entries ih =>
      rw [recordAll_cons, ih, lookup_record, Option.or_assoc, ← lookup_append,
        List.singleton_append]

end Recording

section Agreement

variable {key : Entry → Key} {value : Entry → Value} {seen entries : List Entry}
  {entry existing : Entry}

/-- Entries with equal keys carry equal values. -/
def Agree (key : Entry → Key) (value : Entry → Value) (entries : List Entry) : Prop :=
  ∀ first ∈ entries, ∀ second ∈ entries,
    key first = key second → value first = value second

theorem Agree.subset (agree : Agree key value entries) (subset : seen ⊆ entries) :
    Agree key value seen :=
  fun first firstMem second secondMem =>
    agree first (subset firstMem) second (subset secondMem)

/-- An entry that repeats an earlier key and its value changes nothing about
whether equal keys carry equal values. -/
theorem agree_insert_repeated (existingMem : existing ∈ seen)
    (keyEq : key existing = key entry) (valueEq : value existing = value entry) :
    Agree key value (seen ++ entry :: entries) ↔ Agree key value (seen ++ entries) := by
  have represented : ∀ other ∈ seen ++ entry :: entries,
      ∃ known ∈ seen ++ entries, key known = key other ∧ value known = value other := by
    intro other otherMem
    rcases List.mem_append.mp otherMem with earlier | later
    · exact ⟨other, List.mem_append_left _ earlier, rfl, rfl⟩
    · rcases List.mem_cons.mp later with rfl | later
      · exact ⟨existing, List.mem_append_left _ existingMem, keyEq, valueEq⟩
      · exact ⟨other, List.mem_append_right _ later, rfl, rfl⟩
  constructor
  · exact fun agree => agree.subset (by simp)
  · intro agree first firstMem second secondMem sameKey
    obtain ⟨first', first'Mem, firstKey, firstValue⟩ := represented first firstMem
    obtain ⟨second', second'Mem, secondKey, secondValue⟩ := represented second secondMem
    rw [← firstValue, ← secondValue]
    exact agree first' first'Mem second' second'Mem
      (firstKey.trans (sameKey.trans secondKey.symm))

theorem agree_insert_fresh (agree : Agree key value seen)
    (fresh : key entry ∉ seen.map key) :
    Agree key value (seen ++ [entry]) := by
  intro first firstMem second secondMem sameKey
  have notSeen : ∀ other ∈ seen, key other ≠ key entry := fun other otherMem keyEq =>
    fresh (List.mem_map.mpr ⟨other, otherMem, keyEq⟩)
  rcases List.mem_append.mp firstMem with firstMem | firstMem <;>
    rcases List.mem_append.mp secondMem with secondMem | secondMem
  · exact agree first firstMem second secondMem sameKey
  · rw [List.mem_singleton.mp secondMem] at sameKey
    exact (notSeen first firstMem sameKey).elim
  · rw [List.mem_singleton.mp firstMem] at sameKey
    exact (notSeen second secondMem sameKey.symm).elim
  · rw [List.mem_singleton.mp firstMem, List.mem_singleton.mp secondMem]

end Agreement

section Checking

variable [DecidableEq Key] {key : Entry → Key} {value : Entry → Value}
  {conflict : Entry → Entry → Conflict} {seen entries result : List Entry}
  {entry existing : Entry} {wanted : Key}

/-- Where equal keys carry equal values, the entry found for a key speaks for
all entries with that key. -/
theorem Agree.lookup (agree : Agree key value seen)
    (found : FirstSeen.lookup key seen wanted = some existing)
    (entryMem : entry ∈ seen) (keyEq : key entry = wanted) :
    value existing = value entry := by
  obtain ⟨existingMem, existingKey⟩ := lookup_eq_some found
  exact agree existing existingMem entry entryMem (existingKey.trans keyEq.symm)

/-- Insisting fails only where two entries are in conflict. -/
theorem check_failsWithin [DecidableEq Value] {failures : Conflict → Prop}
    (conflicts : ∀ existing entry, failures (conflict existing entry)) :
    Fallible.FailsWithin failures (check key value conflict seen entry) := by
  unfold check
  split
  next existing _ =>
    split
    · exact Fallible.failsWithin_ok seen
    · exact Fallible.failsWithin_error.mpr (conflicts existing entry)
  next => exact Fallible.failsWithin_ok (seen ++ [entry])

/-- Insisting on an entry fails over one that was seen before, has the same key
and another value. -/
theorem check_conflicting [DecidableEq Value] :
    Fallible.FailsWithin (fun failure => ∃ existing ∈ seen, key existing = key entry ∧
      value existing ≠ value entry ∧ failure = conflict existing entry)
      (check key value conflict seen entry) := by
  unfold check
  split
  next existing found =>
    obtain ⟨existingMem, sameKey⟩ := lookup_eq_some found
    split
    next => exact Fallible.failsWithin_ok seen
    next differs =>
      exact Fallible.failsWithin_error.mpr ⟨existing, existingMem, sameKey, differs, rfl⟩
  next => exact Fallible.failsWithin_ok (seen ++ [entry])

/-- The insisting walk succeeds exactly when equal keys carry equal values,
and then it builds the same table as the walk that ignores repetitions. -/
theorem foldlM_check_eq_ok_iff [DecidableEq Value] (agree : Agree key value seen) :
    entries.foldlM (check key value conflict) seen = .ok result ↔
      result = recordAll key seen entries ∧ Agree key value (seen ++ entries) := by
  induction entries generalizing seen with
  | nil =>
      rw [List.append_nil, recordAll_nil]
      constructor
      · intro done
        cases done
        exact ⟨rfl, agree⟩
      · rintro ⟨rfl, -⟩
        rfl
  | cons entry entries ih =>
      rw [List.foldlM_cons, recordAll_cons]
      cases found : FirstSeen.lookup key seen (key entry) with
      | some existing =>
          obtain ⟨existingMem, keyEq⟩ := lookup_eq_some found
          have seenKey : key entry ∈ seen.map key :=
            List.mem_map.mpr ⟨existing, existingMem, keyEq⟩
          rw [record_of_mem seenKey]
          by_cases valueEq : value existing = value entry
          · rw [agree_insert_repeated existingMem keyEq valueEq, ← ih agree]
            simp [check, found, valueEq, bind, Except.bind]
          · have conflicting : ¬ Agree key value (seen ++ entry :: entries) :=
              fun agrees => valueEq (agrees existing (List.mem_append_left _ existingMem)
                entry (by simp) keyEq)
            simp [check, found, valueEq, conflicting, bind, Except.bind]
      | none =>
          have fresh : key entry ∉ seen.map key := lookup_eq_none_iff.mp found
          have regroup : seen ++ entry :: entries = seen ++ [entry] ++ entries := by simp
          rw [record_of_not_mem fresh, regroup, ← ih (agree_insert_fresh agree fresh)]
          simp [check, found, bind, Except.bind]

/-- The insisting walk fails over two of the entries. -/
theorem foldlM_check_conflicting [DecidableEq Value] :
    Fallible.FailsWithin (fun failure => ∃ existing ∈ entries, ∃ entry ∈ entries,
      key existing = key entry ∧ value existing ≠ value entry ∧
        failure = conflict existing entry)
      (entries.foldlM (check key value conflict) []) := by
  apply Fallible.FailsWithin.foldlM_prefix
  intro before entry after seen split done failure failed
  obtain ⟨existing, existingMem, sameKey, differs, rfl⟩ := check_conflicting failure failed
  obtain ⟨rfl, -⟩ := (foldlM_check_eq_ok_iff (by simp [Agree])).mp done
  obtain none | earlier := mem_of_mem_recordAll existingMem
  · exact absurd none List.not_mem_nil
  · exact ⟨existing, by simp [split, earlier], entry, by simp [split], sameKey, differs, rfl⟩

end Checking

/-! ## Order of declaration -/

section Order

variable {key : Entry → Key} {first second seen entries : List Entry} {entry : Entry}
  {wanted : Key}

/-- An element that is the only one of its kind is found in any order. -/
theorem find?_perm {isWanted : Entry → Bool} (permuted : first.Perm second)
    (atMostOne : first.countP isWanted ≤ 1) : first.find? isWanted = second.find? isWanted := by
  have filtered := permuted.filter isWanted
  rw [List.countP_eq_length_filter] at atMostOne
  rw [← List.head?_filter, ← List.head?_filter]
  generalize first.filter isWanted = firstWanted at filtered atMostOne
  match firstWanted with
  | [] => rw [filtered.nil_eq]
  | [only] => rw [List.perm_singleton.mp filtered.symm]
  | _ :: _ :: _ => simp at atMostOne

variable [DecidableEq Key]

/-- A table in which no key occurs twice is read the same in any order. -/
theorem lookup_perm (permuted : first.Perm second) (distinct : (first.map key).Nodup) :
    lookup key first wanted = lookup key second wanted := by
  apply find?_perm permuted
  have counted := List.nodup_iff_count_le_one.mp distinct wanted
  rw [List.count_eq_countP, List.countP_map] at counted
  simpa only [Function.comp_def, beq_eq_decide] using counted

/-- Where entries with equal keys are equal, everything declared is recorded. -/
theorem mem_recordAll_iff (agree : Agree key id (seen ++ entries)) :
    entry ∈ recordAll key seen entries ↔ entry ∈ seen ++ entries := by
  rw [List.mem_append]
  constructor
  · exact mem_of_mem_recordAll
  · intro declared
    have keyMem : key entry ∈ (recordAll key seen entries).map key := by
      apply (mem_keys_recordAll key seen entries (key entry)).mpr
      exact declared.imp List.mem_map_of_mem List.mem_map_of_mem
    obtain ⟨recorded, recordedMem, sameKey⟩ := List.mem_map.mp keyMem
    have recordedDeclared := mem_of_mem_recordAll recordedMem
    have same := agree recorded (List.mem_append.mpr recordedDeclared)
      entry (List.mem_append.mpr declared) sameKey
    obtain rfl : recorded = entry := same
    exact recordedMem

/-- The order of agreeing declarations only changes the order of the table. -/
theorem recordAll_perm (permuted : first.Perm second) (distinct : (seen.map key).Nodup)
    (agree : Agree key id (seen ++ first)) :
    (recordAll key seen first).Perm (recordAll key seen second) := by
  have agreeSecond : Agree key id (seen ++ second) :=
    agree.subset (permuted.symm.append_left seen).subset
  have nodup (entries : List Entry) : (recordAll key seen entries).Nodup :=
    List.Nodup.of_map key (nodup_keys_recordAll key seen entries distinct)
  apply (List.perm_ext_iff_of_nodup (nodup first) (nodup second)).mpr
  intro entry
  rw [mem_recordAll_iff agree, mem_recordAll_iff agreeSecond]
  exact (permuted.append_left seen).mem_iff

end Order

end FirstSeen
