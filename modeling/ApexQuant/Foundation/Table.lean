import Mathlib.Data.List.Nodup

namespace ApexQuant
namespace Foundation

/-!
# Tables with a primary key

A table is a list of rows no two of which have the same key.  The key is a
function of the row and part of the table's type, so every operation that
returns a table has shown that it keeps the keys apart.
-/

/-- Rows with pairwise different keys. -/
structure Table {Row Key : Type} (key : Row -> Key) where
  rows : List Row
  unique : (rows.map key).Nodup

namespace Table

variable {Row Key : Type} {key : Row -> Key}

def empty : Table key where
  rows := []
  unique := List.nodup_nil

def single (row : Row) : Table key where
  rows := [row]
  unique := List.nodup_singleton _

instance : Membership Row (Table key) where
  mem := fun table row => row ∈ table.rows

/-- The row with a key, if there is one. -/
def find [DecidableEq Key] (table : Table key) (wanted : Key) : Option Row :=
  table.rows.find? fun row => decide (key row = wanted)

/-- The table with one more row, unless its key is taken. -/
def insert [DecidableEq Key] (table : Table key) (row : Row) : Option (Table key) :=
  if fresh : key row ∉ table.rows.map key then
    some
      { rows := table.rows ++ [row]
        unique := by
          rw [List.map_append, List.map_singleton, List.nodup_append]
          refine ⟨table.unique, List.nodup_singleton _, ?_⟩
          intro old known new added same
          rw [List.mem_singleton] at added
          exact fresh (added ▸ same ▸ known) }
  else none

/-- Every row changed in place by a function that leaves its key alone. -/
def update (table : Table key) (change : Row -> Row) (keeps : forall row, key (change row) = key row) : Table key where
  rows := table.rows.map change
  unique := by
    have same : key ∘ change = key := funext keeps
    rw [List.map_map, same]
    exact table.unique

/-- The table with another row at a position, unless two rows would have one key. -/
def replace [DecidableEq Key] (table : Table key) (index : Nat) (row : Row) : Option (Table key) :=
  if distinct : ((table.rows.set index row).map key).Nodup then
    some { rows := table.rows.set index row, unique := distinct }
  else none

/-- The rows that a condition keeps. -/
def filter (table : Table key) (keep : Row -> Bool) : Table key where
  rows := table.rows.filter keep
  unique := table.unique.sublist (List.filter_sublist.map key)

theorem ext_rows {left right : Table key} (same : left.rows = right.rows) : left = right := by
  cases left
  cases right
  cases same
  rfl

theorem eq_of_key_eq {table : Table key} {left right : Row} (member : left ∈ table) (member' : right ∈ table)
    (same : key left = key right) : left = right :=
  List.inj_on_of_nodup_map table.unique member member' same

theorem mem_of_find [DecidableEq Key] {table : Table key} {wanted : Key} {row : Row}
    (found : table.find wanted = some row) : row ∈ table ∧ key row = wanted :=
  ⟨List.mem_of_find?_eq_some found, by simpa using List.find?_some found⟩

theorem find_of_mem [DecidableEq Key] {table : Table key} {row : Row} (member : row ∈ table) :
    table.find (key row) = some row := by
  cases found : table.find (key row) with
  | none => exact absurd (decide_eq_true rfl) (List.find?_eq_none.mp found row member)
  | some other =>
      rcases mem_of_find found with ⟨stored, same⟩
      rw [eq_of_key_eq stored member same]

theorem mem_insert [DecidableEq Key] {table after : Table key} {row : Row} (inserted : table.insert row = some after)
    {other : Row} : other ∈ after <-> other ∈ table ∨ other = row := by
  unfold insert at inserted
  split at inserted
  · rw [← Option.some.inj inserted]
    exact List.mem_append.trans (or_congr_right List.mem_singleton)
  · exact absurd inserted (by simp)

theorem rows_of_insert [DecidableEq Key] {table after : Table key} {row : Row}
    (inserted : table.insert row = some after) : after.rows = table.rows ++ [row] := by
  unfold insert at inserted
  split at inserted
  · rw [← Option.some.inj inserted]
  · exact absurd inserted (by simp)

theorem ne_of_insert [DecidableEq Key] {table after : Table key} {row : Row} (inserted : table.insert row = some after) :
    after ≠ table := by
  intro same
  have rows := rows_of_insert inserted
  rw [same] at rows
  exact absurd (List.self_eq_append_right.mp rows) (List.cons_ne_nil _ _)

theorem rows_of_replace [DecidableEq Key] {table after : Table key} {index : Nat} {row : Row}
    (replaced : table.replace index row = some after) : after.rows = table.rows.set index row := by
  unfold replace at replaced
  split at replaced
  · rw [← Option.some.inj replaced]
  · exact absurd replaced (by simp)

theorem key_not_mem_of_insert [DecidableEq Key] {table after : Table key} {row : Row}
    (inserted : table.insert row = some after) {other : Row} (member : other ∈ table) : key other ≠ key row := by
  unfold insert at inserted
  split at inserted
  · rename_i fresh
    intro same
    exact fresh (same ▸ List.mem_map_of_mem member)
  · exact absurd inserted (by simp)

theorem mem_update {table : Table key} {change : Row -> Row} (keeps : forall row, key (change row) = key row)
    {row : Row} : row ∈ table.update change keeps <-> Exists fun old => old ∈ table ∧ change old = row :=
  List.mem_map

theorem keys_update {table : Table key} {change : Row -> Row} (keeps : forall row, key (change row) = key row) :
    (table.update change keeps).rows.map key = table.rows.map key := by
  have same : key ∘ change = key := funext keeps
  exact List.map_map.trans (congrArg (List.map · table.rows) same)

/-- An update in place does not move a row to another key. -/
theorem find_update [DecidableEq Key] {table : Table key} {change : Row -> Row}
    (keeps : forall row, key (change row) = key row) (wanted : Key) :
    (table.update change keeps).find wanted = (table.find wanted).map change := by
  have same : ((fun row => decide (key row = wanted)) ∘ change) = fun row => decide (key row = wanted) := by
    funext row
    rw [Function.comp_apply, keeps row]
  rw [find, find, update, List.find?_map, same]

theorem find_insert [DecidableEq Key] {table after : Table key} {row : Row} (inserted : table.insert row = some after)
    (wanted : Key) : after.find wanted = (table.find wanted).or (if key row = wanted then some row else none) := by
  rw [find, rows_of_insert inserted, List.find?_append, List.find?_singleton, find]
  by_cases same : key row = wanted
  · rw [if_pos same, decide_eq_true same, if_pos rfl]
  · rw [if_neg same, decide_eq_false same, if_neg Bool.false_ne_true]

theorem find_eq_none_iff [DecidableEq Key] {table : Table key} {wanted : Key} :
    table.find wanted = none <-> wanted ∉ table.rows.map key := by
  rw [find, List.find?_eq_none]
  constructor
  · intro absent listed
    rcases List.mem_map.mp listed with ⟨row, member, same⟩
    exact absent row member (decide_eq_true same)
  · intro absent row member same
    exact absent (of_decide_eq_true same ▸ List.mem_map_of_mem member)

theorem find_eq_none_of_insert [DecidableEq Key] {table after : Table key} {row : Row}
    (inserted : table.insert row = some after) : table.find (key row) = none := by
  unfold insert at inserted
  split at inserted
  · rename_i fresh
    exact find_eq_none_iff.mpr fresh
  · exact absurd inserted (by simp)

/-- A row can be inserted when its key is not found. -/
theorem exists_insert [DecidableEq Key] {table : Table key} {row : Row} (absent : table.find (key row) = none) :
    Exists fun after => table.insert row = some after := by
  unfold insert
  rw [dif_pos (find_eq_none_iff.mp absent)]
  exact ⟨_, rfl⟩

theorem mem_filter {table : Table key} {keep : Row -> Bool} {row : Row} :
    row ∈ table.filter keep <-> row ∈ table ∧ keep row = true :=
  List.mem_filter

end Table
end Foundation
end ApexQuant
