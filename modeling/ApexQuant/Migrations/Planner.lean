import ApexQuant.Foundation.Text
import ApexQuant.Foundation.Table

namespace ApexQuant
namespace Migrations

open Foundation

/-!
# Migration files, the registry and the plan

The models of `models.py` and `build_plan`.
-/

inductive MigrationEngine where
  | postgres
  | clickhouse
  deriving DecidableEq, Repr

def MigrationEngine.value : MigrationEngine -> Text
  | .postgres => "postgres".toList
  | .clickhouse => "clickhouse".toList

structure MigrationFile where
  engine : MigrationEngine
  domain : Text
  filename : Text
  path : Text
  version : Text
  migrationId : Text
  checksumSha256 : Text
  deriving DecidableEq

/-- A row of `schema_migrations.applied_migrations`. -/
structure AppliedMigration where
  migrationId : Text
  engine : MigrationEngine
  domain : Text
  version : Text
  filename : Text
  checksumSha256 : Text
  deriving DecidableEq

/-- `PRIMARY KEY (migration_id)`. -/
abbrev AppliedTable := Table AppliedMigration.migrationId

/-- The row that records a file. -/
def MigrationFile.applied (file : MigrationFile) : AppliedMigration where
  migrationId := file.migrationId
  engine := file.engine
  domain := file.domain
  version := file.version
  filename := file.filename
  checksumSha256 := file.checksumSha256

/-- A file whose recorded checksum is another. -/
structure Drift where
  migrationId : Text
  expectedChecksum : Text
  recordedChecksum : Text
  deriving DecidableEq

structure MigrationPlan where
  engine : MigrationEngine
  ok : Bool
  pending : List MigrationFile
  applied : List AppliedMigration
  drift : List Drift

/-- The drift of one file. -/
def driftOf (applied : AppliedTable) (file : MigrationFile) : Option Drift :=
  match applied.find file.migrationId with
  | none => none
  | some existing =>
      if existing.checksumSha256 ≠ file.checksumSha256 then
        some
          { migrationId := file.migrationId
            expectedChecksum := file.checksumSha256
            recordedChecksum := existing.checksumSha256 }
      else none

/-- `build_plan`. -/
def buildPlan (engine : MigrationEngine) (files : List MigrationFile) (applied : AppliedTable) : MigrationPlan :=
  let drift := files.filterMap (driftOf applied)
  { engine := engine
    ok := drift.isEmpty
    pending := files.filter fun file => (applied.find file.migrationId).isNone
    applied := applied.rows
    drift := drift }

/-- `INSERT ... ON CONFLICT (migration_id) DO NOTHING`. -/
def recordFile (applied : AppliedTable) (file : MigrationFile) : AppliedTable :=
  (applied.insert file.applied).getD applied

/-- Files recorded one after the other. -/
def recordAll (applied : AppliedTable) (files : List MigrationFile) : AppliedTable :=
  files.foldl recordFile applied

theorem recordAll_concat (applied : AppliedTable) (files : List MigrationFile) (file : MigrationFile) :
    recordAll applied (files ++ [file]) = recordFile (recordAll applied files) file :=
  List.foldl_concat ..

/-- The row of a file is stored only under a key that is free. -/
theorem recordFile_rows (applied : AppliedTable) (file : MigrationFile) :
    (recordFile applied file).rows =
      if file.migrationId ∈ applied.rows.map AppliedMigration.migrationId then applied.rows
      else applied.rows ++ [file.applied] := by
  unfold recordFile
  cases inserted : applied.insert file.applied with
  | none =>
      unfold Table.insert at inserted
      split at inserted
      · cases inserted
      · rename_i taken
        exact (if_pos (not_not.mp taken)).symm
  | some after =>
      have fresh : file.migrationId ∉ applied.rows.map AppliedMigration.migrationId :=
        Table.find_eq_none_iff.mp (Table.find_eq_none_of_insert inserted)
      rw [if_neg fresh]
      exact Table.rows_of_insert inserted

/-- New files with distinct identifiers are recorded one after the other. -/
theorem rows_recordAll (applied : AppliedTable) (files : List MigrationFile)
    (fresh : (applied.rows.map AppliedMigration.migrationId ++ files.map MigrationFile.migrationId).Nodup) :
    (recordAll applied files).rows = applied.rows ++ files.map MigrationFile.applied := by
  induction files generalizing applied with
  | nil => exact (List.append_nil _).symm
  | cons file files inductionHypothesis =>
      have new : file.migrationId ∉ applied.rows.map AppliedMigration.migrationId :=
        fun known => (List.nodup_append.mp fresh).2.2 _ known _ List.mem_cons_self rfl
      have rows := recordFile_rows applied file
      rw [if_neg new] at rows
      change (recordAll (recordFile applied file) files).rows = _
      rw [inductionHypothesis (recordFile applied file), rows, List.append_assoc]
      · rfl
      · rw [rows, List.map_append, List.append_assoc]
        exact fresh

/-- Recording files adds no more rows than there are files, and as many exactly when
their identifiers are new and distinct. -/
theorem length_recordAll (applied : AppliedTable) (files : List MigrationFile) :
    (recordAll applied files).rows.length ≤ applied.rows.length + files.length ∧
      ((recordAll applied files).rows.length = applied.rows.length + files.length <->
        (applied.rows.map AppliedMigration.migrationId ++ files.map MigrationFile.migrationId).Nodup) := by
  induction files generalizing applied with
  | nil =>
      rw [List.map_nil, List.append_nil]
      exact ⟨le_refl _, fun _ => applied.unique, fun _ => rfl⟩
  | cons file files inductionHypothesis =>
      rcases inductionHypothesis (recordFile applied file) with ⟨bound, grows⟩
      change (recordAll (recordFile applied file) files).rows.length ≤ _ ∧
        ((recordAll (recordFile applied file) files).rows.length = _ <-> _)
      rw [recordFile_rows] at bound grows
      rw [List.length_cons, List.map_cons]
      by_cases known : file.migrationId ∈ applied.rows.map AppliedMigration.migrationId
      · rw [if_pos known] at bound
        refine ⟨by omega, ?_, ?_⟩
        · intro grown
          omega
        · intro distinct
          exact absurd rfl ((List.nodup_append.mp distinct).2.2 _ known _ List.mem_cons_self)
      · rw [if_neg known, List.length_append, List.length_singleton] at bound grows
        rw [List.map_append, List.map_singleton, List.append_assoc, List.singleton_append] at grows
        rw [show applied.rows.length + (files.length + 1) = applied.rows.length + 1 + files.length by omega]
        exact ⟨bound, grows⟩

end Migrations
end ApexQuant
