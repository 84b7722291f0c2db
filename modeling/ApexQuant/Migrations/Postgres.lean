import ApexQuant.Migrations.Planner
import ApexQuant.Foundation.Session

namespace ApexQuant
namespace Migrations

open Foundation

/-!
# The Postgres migrator

`PostgresMigrator.apply` over one session in autocommit mode.  A script is what the
server makes of the text of a file: statements that begin and end transactions and
statements that work on the data.  They work on the data only and leave the tables
of the migrator alone.  A transaction that a script begins and does not end stays
open for the statements of the migrator itself.
-/

variable {E Data : Type}

inductive RunStatus where
  | running
  | success
  | failed
  deriving DecidableEq, Repr

/-- What the migrator raises. -/
inductive ServerError (E : Type) where
  | script (error : E)
  | checkViolation
  | uniqueViolation
  deriving DecidableEq

inductive ApplyError (E : Type) where
  | drift (items : List Drift)
  | unreadable (file : MigrationFile)
  | server (error : SessionError (ServerError E))
  deriving DecidableEq

/-- A row of `schema_migrations.migration_runs`. -/
structure MigrationRun (E : Type) where
  runId : Nat
  status : RunStatus
  plannedCount : Nat
  appliedCount : Nat := 0
  failedCount : Nat := 0
  error : Option (ApplyError E) := none
  completed : Bool := false

abbrev RunTable (E : Type) := Table (MigrationRun.runId : MigrationRun E -> Nat)

/-- What the server stores. -/
structure MigrationStore (E Data : Type) where
  data : Data
  applied : AppliedTable
  runs : RunTable E

/-- The statements of a migration file. -/
abbrev Script (E Data : Type) := List (ScriptStatement (ServerError E) Data)

/-- A statement on the data as one on the whole store. -/
def onData : ScriptStatement (ServerError E) Data -> ScriptStatement (ServerError E) (MigrationStore E Data)
  | .begin => .begin
  | .commit => .commit
  | .rollback => .rollback
  | .work effect => .work fun store => (effect store.data).map fun data => { store with data := data }

/-- `MigrationRunReport`. -/
structure MigrationRunReport where
  mode : Text
  ok : Bool
  planned : Nat
  applied : Nat
  skipped : Nat
  failed : Nat
  deriving DecidableEq

/-! ## Statements of the migrator -/

/-- `[0-9a-f]{64}`. -/
def isChecksum (text : Text) : Bool :=
  decide (text.length = 64) && text.all fun c => c.isDigit || (decide ('a' ≤ c) && decide (c ≤ 'f'))

/-- The CHECK constraints of `applied_migrations`. -/
def recordable (file : MigrationFile) : Bool :=
  Text.notBlank file.domain && Text.notBlank file.version && Text.notBlank file.filename &&
    isChecksum file.checksumSha256

/-- The INSERT of the run row. -/
def insertRun (runId plannedCount : Nat) (store : MigrationStore E Data) :
    Except (ServerError E) (MigrationStore E Data) :=
  match store.runs.insert { runId := runId, status := .running, plannedCount := plannedCount } with
  | some runs => .ok { store with runs := runs }
  | none => .error .uniqueViolation

/-- The INSERT that records a file. -/
def recordApplied (file : MigrationFile) (store : MigrationStore E Data) :
    Except (ServerError E) (MigrationStore E Data) :=
  if recordable file then .ok { store with applied := recordFile store.applied file }
  else .error .checkViolation

/-- An UPDATE of the run row. -/
def updateRun (runId : Nat) (change : MigrationRun E -> MigrationRun E)
    (keeps : forall run, (change run).runId = run.runId) (store : MigrationStore E Data) :
    Except (ServerError E) (MigrationStore E Data) :=
  .ok
    { store with
      runs := store.runs.update (fun run => if run.runId = runId then change run else run) fun run => by
        split
        · exact keeps run
        · rfl }

def markSuccess (runId appliedCount : Nat) :
    MigrationStore E Data -> Except (ServerError E) (MigrationStore E Data) :=
  updateRun runId (fun run => { run with status := .success, appliedCount := appliedCount, completed := true })
    fun _ => rfl

def markFailed (runId appliedCount : Nat) (error : ApplyError E) :
    MigrationStore E Data -> Except (ServerError E) (MigrationStore E Data) :=
  updateRun runId
    (fun run =>
      { run with
        status := .failed
        appliedCount := appliedCount
        failedCount := 1
        error := some error
        completed := true })
    fun _ => rfl

/-- `release_lock`. -/
def releaseLock (store : MigrationStore E Data) : Except (ServerError E) (MigrationStore E Data) :=
  .ok store

/-! ## `apply` -/

variable (consistent : Data -> Bool) (scripts : MigrationFile -> Option (Script E Data))

/-- Where the loop over the files stands when it ends. -/
structure LoopEnd (E Data : Type) where
  error : Option (ApplyError E)
  appliedCount : Nat
  session : Session (MigrationStore E Data)

/-- The loop over the pending files. -/
def applyFiles : List MigrationFile -> Nat -> Session (MigrationStore E Data) -> LoopEnd E Data
  | [], appliedCount, session => { error := none, appliedCount := appliedCount, session := session }
  | file :: rest, appliedCount, session =>
      match scripts file with
      | none => { error := some (.unreadable file), appliedCount := appliedCount, session := session }
      | some script =>
          match session.runScript (fun store => consistent store.data) (script.map onData) with
          | (.error error, session) =>
              { error := some (.server error), appliedCount := appliedCount, session := session }
          | (.ok _, session) =>
              match session.command (recordApplied file) with
              | (.error error, session) =>
                  { error := some (.server error), appliedCount := appliedCount, session := session }
              | (.ok _, session) => applyFiles rest (appliedCount + 1) session

/-- The handler of `apply`, and the rollback with which the connection closes after
an exception. -/
def handleFailure (runId appliedCount : Nat) (error : ApplyError E) (session : Session (MigrationStore E Data)) :
    Except (ApplyError E) MigrationRunReport × MigrationStore E Data :=
  match session.command (markFailed runId appliedCount error) with
  | (.error error, session) => (.error (.server error), session.rollback.visible)
  | (.ok _, session) =>
      match session.command releaseLock with
      | (.error error, session) => (.error (.server error), session.rollback.visible)
      | (.ok _, session) => (.error error, session.rollback.visible)

/-- The commit with which the connection closes after a return. -/
def closeConnection (report : MigrationRunReport) (session : Session (MigrationStore E Data)) :
    Except (ApplyError E) MigrationRunReport × MigrationStore E Data :=
  match session.commit fun store => consistent store.data with
  | (.error error, session) => (.error (.server error), session.visible)
  | (.ok _, session) => (.ok report, session.visible)

/-- The part of `apply` that holds a connection, for the pending files of a plan. -/
def applyPending (runId : Nat) (pending : List MigrationFile) (store : MigrationStore E Data) :
    Except (ApplyError E) MigrationRunReport × MigrationStore E Data :=
  match (Session.idle store).command (insertRun runId pending.length) with
  | (.error error, session) => (.error (.server error), session.rollback.visible)
  | (.ok _, session) =>
      let loop := applyFiles consistent scripts pending 0 session
      match loop.error with
      | some error => handleFailure runId loop.appliedCount error loop.session
      | none =>
          match loop.session.command (markSuccess runId loop.appliedCount) with
          | (.error error, session) => handleFailure runId loop.appliedCount (.server error) session
          | (.ok _, session) =>
              match session.command releaseLock with
              | (.error error, session) => handleFailure runId loop.appliedCount (.server error) session
              | (.ok _, session) =>
                  closeConnection consistent
                    { mode := "apply".toList
                      ok := true
                      planned := pending.length
                      applied := loop.appliedCount
                      skipped := 0
                      failed := 0 }
                    session

/-- `PostgresMigrator.apply` for the files that were discovered.  The plan was made
on what the registry held at that time. -/
def apply (runId : Nat) (dryRun : Bool) (files : List MigrationFile) (planned : AppliedTable)
    (store : MigrationStore E Data) : Except (ApplyError E) MigrationRunReport × MigrationStore E Data :=
  let plan := buildPlan .postgres files planned
  if !plan.ok then (.error (.drift plan.drift), store)
  else if dryRun then
    (.ok
      { mode := "dry-run".toList
        ok := true
        planned := plan.pending.length
        applied := 0
        skipped := plan.pending.length
        failed := 0 }, store)
  else applyPending consistent scripts runId plan.pending store

/-- Under a fresh identifier the run row is inserted. -/
theorem exists_insertRun {runId : Nat} {store : MigrationStore E Data} (fresh : store.runs.find runId = none)
    (plannedCount : Nat) :
    Exists fun runs =>
      store.runs.insert { runId := runId, status := .running, plannedCount := plannedCount } = some runs ∧
        insertRun runId plannedCount store = .ok { store with runs := runs } := by
  let row : MigrationRun E := { runId := runId, status := .running, plannedCount := plannedCount }
  have insertable : Exists fun runs => store.runs.insert row = some runs := Table.exists_insert fresh
  rcases insertable with ⟨runs, inserted⟩
  refine ⟨runs, inserted, ?_⟩
  unfold insertRun
  rw [inserted]

/-- Without drift a run that is not dry works on the pending files. -/
theorem apply_eq_applyPending {files : List MigrationFile} {planned : AppliedTable}
    (clean : (buildPlan .postgres files planned).ok = true) (runId : Nat) (store : MigrationStore E Data) :
    apply consistent scripts runId false files planned store =
      applyPending consistent scripts runId (buildPlan .postgres files planned).pending store := by
  unfold apply
  dsimp only
  rw [clean]
  rfl

end Migrations
end ApexQuant
