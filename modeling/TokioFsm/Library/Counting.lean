import Mathlib.Data.List.AList

/-!
# Counting entries

How the number of entries with a property changes as a list grows, as one of
its places is overwritten, and as a table with distinct keys gains or loses an
entry.  Where at most one entry has the property, there is no other.
-/

namespace Counting

variable {Item Key Value : Type*}

theorem countP_snoc (counts : Item → Bool) (items : List Item) (item : Item) :
    (items ++ [item]).countP counts = items.countP counts + (counts item).toNat := by
  rw [List.countP_append, List.countP_singleton]
  cases counts item <;> rfl

theorem countP_cons (counts : Item → Bool) (items : List Item) (item : Item) :
    (item :: items).countP counts = items.countP counts + (counts item).toNat := by
  rw [List.countP_cons]
  cases counts item <;> rfl

/-- Overwriting a place gives up the old item for the new one. -/
theorem countP_set (counts : Item → Bool) {items : List Item} {index : Nat} {old : Item}
    (found : items[index]? = some old) (new : Item) :
    (items.set index new).countP counts + (counts old).toNat =
      items.countP counts + (counts new).toNat := by
  induction items generalizing index with
  | nil => simp at found
  | cons item items ih =>
      cases index with
      | zero =>
          obtain rfl : item = old := by simpa using found
          rw [List.set_cons_zero, countP_cons, countP_cons]
          omega
      | succ index =>
          have later := ih (by simpa using found)
          rw [List.set_cons_succ, countP_cons, countP_cons]
          omega

/-- An item that is counted at most once is the only one. -/
theorem eq_of_countP_le_one {counts : Item → Bool} {items : List Item}
    (atMostOne : items.countP counts ≤ 1) {first second : Item} (firstMem : first ∈ items)
    (secondMem : second ∈ items) (firstCounts : counts first = true)
    (secondCounts : counts second = true) : first = second := by
  rw [List.countP_eq_length_filter] at atMostOne
  have firstFiltered := List.mem_filter.mpr ⟨firstMem, firstCounts⟩
  have secondFiltered := List.mem_filter.mpr ⟨secondMem, secondCounts⟩
  generalize items.filter counts = filtered at atMostOne firstFiltered secondFiltered
  match filtered with
  | [] => exact absurd firstFiltered List.not_mem_nil
  | [only] =>
      rw [List.mem_singleton.mp firstFiltered, List.mem_singleton.mp secondFiltered]
  | _ :: _ :: _ => simp at atMostOne

section Tables

variable [DecidableEq Key] {table : AList fun _ : Key => Value} {key : Key} {value : Value}

theorem countP_insert (counts : (Σ _ : Key, Value) → Bool) (absent : table.lookup key = none)
    (value : Value) :
    (table.insert key value).entries.countP counts =
      table.entries.countP counts + (counts ⟨key, value⟩).toNat := by
  rw [AList.entries_insert_of_notMem (AList.lookup_eq_none.mp absent), countP_cons]

theorem countP_erase (counts : (Σ _ : Key, Value) → Bool) (found : table.lookup key = some value) :
    (table.erase key).entries.countP counts + (counts ⟨key, value⟩).toNat =
      table.entries.countP counts := by
  have entryMem := AList.mem_lookup_iff.mp found
  obtain ⟨other, before, after, -, split, erased⟩ :=
    List.exists_of_kerase (List.mem_keys_of_mem entryMem)
  have otherMem : (⟨key, other⟩ : Σ _ : Key, Value) ∈ table.entries := by
    rw [split]
    simp
  have same := AList.mem_lookup_iff.mpr otherMem
  rw [found, Option.mem_some_iff] at same
  subst same
  have erasedEntries : (table.erase key).entries = before ++ after := erased
  rw [erasedEntries, split, List.countP_append, List.countP_append, countP_cons]
  dsimp only
  omega

end Tables

end Counting
