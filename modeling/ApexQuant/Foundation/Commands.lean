import ApexQuant.Foundation.Table

namespace ApexQuant
namespace Foundation

/-!
# Statements on one table of many

A statement writes rows of one table or deletes some.  A row is written only when the
checks on it pass: the constraints of its table, and the triggers that run before it
is written and see the rows that the statement has written before.  When a row is
refused the statement is, and nothing of it stays.
-/

/-- A row that a statement adds, or puts in the place of one that is there. -/
inductive RowWrite (Row : Type) where
  | insert (row : Row)
  | update (index : Nat) (row : Row)

/-- The row as it is to be stored. -/
def RowWrite.row {Row : Type} : RowWrite Row -> Row
  | .insert row => row
  | .update _ row => row

/-- What a statement does to its table.  `INSERT`, `UPDATE` and an `INSERT` that
updates on conflict are lists of writes. -/
inductive Command (Row : Type) where
  | write (writes : List (RowWrite Row))
  | delete (doomed : Row -> Bool)

/-- The rows that a write leaves in the table. -/
def RowWrite.rowsAfter {Row : Type} (rows : List Row) : RowWrite Row -> List Row
  | .insert row => rows ++ [row]
  | .update index row => rows.set index row

/-- The rows that a statement leaves in its table when it is accepted. -/
def Command.rowsAfter {Row : Type} (rows : List Row) : Command Row -> List Row
  | .write writes => writes.foldl RowWrite.rowsAfter rows
  | .delete doomed => rows.filter fun row => !doomed row

/-- A table of a store, with the checks on a row before it is written.  The row that
it replaces is given to them when there is one. -/
structure GuardedTable (Store : Type) {Row Key : Type} (key : Row -> Key) where
  read : Store -> Table key
  put : Table key -> Store -> Store
  accepts : Store -> Option Row -> Row -> Bool
  read_put : forall table store, read (put table store) = table
  put_read : forall store, put (read store) store = store
  put_put : forall table table' store, put table (put table' store) = put table store

namespace GuardedTable

variable {Store Row Key : Type} {key : Row -> Key} [DecidableEq Key] (guarded : GuardedTable Store key)

def insertRow (store : Store) (row : Row) : Option Store :=
  if guarded.accepts store none row then ((guarded.read store).insert row).map fun table => guarded.put table store
  else none

def updateRow (store : Store) (index : Nat) (row : Row) : Option Store :=
  match (guarded.read store).rows[index]? with
  | none => none
  | some old =>
      if guarded.accepts store (some old) row then
        ((guarded.read store).replace index row).map fun table => guarded.put table store
      else none

def writeRow (store : Store) : RowWrite Row -> Option Store
  | .insert row => guarded.insertRow store row
  | .update index row => guarded.updateRow store index row

/-- A statement on the table. -/
def run (store : Store) : Command Row -> Option Store
  | .write writes => writes.foldlM guarded.writeRow store
  | .delete doomed => some (guarded.put ((guarded.read store).filter fun row => !doomed row) store)

variable {guarded}

/-- A write that is accepted has passed the checks and changed its table alone. -/
theorem writeRow_cases {store after : Store} {write : RowWrite Row} (written : guarded.writeRow store write = some after) :
    Exists fun table => after = guarded.put table store ∧ table.rows = write.rowsAfter (guarded.read store).rows ∧
      Exists fun old => guarded.accepts store old write.row = true ∧
        match write with
        | .insert _ => old = none
        | .update index _ => (guarded.read store).rows[index]? = old := by
  cases write with
  | insert row =>
      change guarded.insertRow store row = some after at written
      unfold insertRow at written
      split at written
      · rename_i accepted
        rcases Option.map_eq_some_iff.mp written with ⟨table, inserted, rfl⟩
        exact ⟨table, rfl, Table.rows_of_insert inserted, none, accepted, rfl⟩
      · exact absurd written nofun
  | update index row =>
      change guarded.updateRow store index row = some after at written
      unfold updateRow at written
      split at written
      · exact absurd written nofun
      · rename_i old found
        split at written
        · rename_i accepted
          rcases Option.map_eq_some_iff.mp written with ⟨table, replaced, rfl⟩
          exact ⟨table, rfl, Table.rows_of_replace replaced, some old, accepted, found⟩
        · exact absurd written nofun

theorem mem_rowsAfter {rows : List Row} {write : RowWrite Row} {row : Row} (member : row ∈ write.rowsAfter rows) :
    row ∈ rows ∨ row = write.row := by
  cases write with
  | insert added =>
      rcases List.mem_append.mp member with known | new
      · exact Or.inl known
      · exact Or.inr (List.mem_singleton.mp new)
  | update index added => exact List.mem_or_eq_of_mem_set member

/-- What every accepted write keeps is kept by an accepted statement. -/
theorem write_invariant (Inv : Store -> Prop) {writes : List (RowWrite Row)}
    (keeps : forall store write after, write ∈ writes -> Inv store -> guarded.writeRow store write = some after ->
      Inv after)
    {store after : Store} (initially : Inv store) (ran : guarded.run store (.write writes) = some after) : Inv after := by
  change writes.foldlM guarded.writeRow store = some after at ran
  induction writes generalizing store with
  | nil => exact Option.some.inj ran ▸ initially
  | cons write writes inductionHypothesis =>
      rw [List.foldlM_cons] at ran
      rcases Option.bind_eq_some_iff.mp ran with ⟨middle, first, rest⟩
      have kept := keeps store write middle List.mem_cons_self initially first
      exact inductionHypothesis (fun state other next member => keeps state other next (List.mem_cons_of_mem _ member))
        kept rest

/-- An accepted statement changes its table alone, and leaves the rows that it says. -/
theorem run_frame {store after : Store} {command : Command Row} (ran : guarded.run store command = some after) :
    Exists fun table => after = guarded.put table store ∧ table.rows = command.rowsAfter (guarded.read store).rows := by
  cases command with
  | write writes =>
      change writes.foldlM guarded.writeRow store = some after at ran
      change Exists fun table => after = guarded.put table store ∧
        table.rows = writes.foldl RowWrite.rowsAfter (guarded.read store).rows
      induction writes generalizing store with
      | nil => exact ⟨guarded.read store, (Option.some.inj ran).symm.trans (guarded.put_read store).symm, rfl⟩
      | cons write writes inductionHypothesis =>
          rw [List.foldlM_cons] at ran
          rcases Option.bind_eq_some_iff.mp ran with ⟨middle, first, rest⟩
          rcases writeRow_cases first with ⟨table, rfl, rows, -⟩
          rcases inductionHypothesis rest with ⟨last, framed, left⟩
          refine ⟨last, framed.trans (guarded.put_put last table store), ?_⟩
          rw [left, guarded.read_put, rows, List.foldl_cons]
  | delete doomed =>
      change some _ = some after at ran
      exact ⟨_, (Option.some.inj ran).symm, rfl⟩

/-- The rows of a table after a statement were there, or are written by it. -/
theorem mem_of_writes {rows : List Row} {writes : List (RowWrite Row)} {row : Row}
    (member : row ∈ (Command.write writes).rowsAfter rows) :
    row ∈ rows ∨ Exists fun write => write ∈ writes ∧ write.row = row := by
  change row ∈ writes.foldl RowWrite.rowsAfter rows at member
  induction writes generalizing rows with
  | nil => exact Or.inl member
  | cons write writes inductionHypothesis =>
      rcases inductionHypothesis member with earlier | ⟨later, listed, same⟩
      · rcases mem_rowsAfter earlier with known | added
        · exact Or.inl known
        · exact Or.inr ⟨write, List.mem_cons_self, added.symm⟩
      · exact Or.inr ⟨later, List.mem_cons_of_mem _ listed, same⟩

end GuardedTable
end Foundation
end ApexQuant
