import ApexQuant.Migrations.Postgres

namespace ApexQuant
namespace Migrations

open Foundation

/-!
# The bookkeeping of migration runs

What becomes of the run row when `apply` exits.  The abstract model is the survey of
a plan: the scripts run one after the other over the data and a list of the files
recorded so far, without a registry, a run row or a handler.  The migrator's session
is the image of the survey's, so the fate of the run row can be read off where the
survey ends.
-/

variable {E Data : Type}

/-! ## The survey of a plan -/

/-- The data, and the files whose records it holds. -/
structure Progress (Data : Type) where
  data : Data
  recorded : List MigrationFile

def onProgress : ScriptStatement (ServerError E) Data -> ScriptStatement (ServerError E) (Progress Data)
  | .begin => .begin
  | .commit => .commit
  | .rollback => .rollback
  | .work effect => .work fun progress => (effect progress.data).map fun data => { progress with data := data }

variable (E) in
def noteFile (file : MigrationFile) (progress : Progress Data) : Except (ServerError E) (Progress Data) :=
  if recordable file then .ok { progress with recorded := progress.recorded ++ [file] }
  else .error .checkViolation

/-- Where a survey ends: the files that it completed, whether one failed, and the
session it leaves. -/
structure Survey (Data : Type) where
  completed : List MigrationFile
  failed : Bool
  session : Session (Progress Data)

variable (consistent : Data -> Bool) (scripts : MigrationFile -> Option (Script E Data))

def survey : List MigrationFile -> Session (Progress Data) -> Survey Data
  | [], session => { completed := [], failed := false, session := session }
  | file :: rest, session =>
      match scripts file with
      | none => { completed := [], failed := true, session := session }
      | some script =>
          match session.runScript (fun progress => consistent progress.data) (script.map onProgress) with
          | (.error _, session) => { completed := [], failed := true, session := session }
          | (.ok _, session) =>
              match session.command (noteFile E file) with
              | (.error _, session) => { completed := [], failed := true, session := session }
              | (.ok _, session) =>
                  let later := survey rest session
                  { later with completed := file :: later.completed }

/-- The store that a stage of a survey stands for. -/
def Progress.store (applied : AppliedTable) (runs : RunTable E) (progress : Progress Data) : MigrationStore E Data where
  data := progress.data
  applied := recordAll applied progress.recorded
  runs := runs

variable {consistent scripts} {applied : AppliedTable} {runs : RunTable E}

theorem onData_mirrors (statement : ScriptStatement (ServerError E) Data) :
    Session.MirrorsStatement (Progress.store applied runs) (onData statement) (onProgress statement) := by
  cases statement with
  | begin => exact .begin
  | commit => exact .commit
  | rollback => exact .rollback
  | work effect =>
      refine .work fun progress => ?_
      change (effect progress.data).map _ = ((effect progress.data).map _).map _
      cases effect progress.data <;> rfl

theorem recordApplied_mirrors (applied : AppliedTable) (runs : RunTable E) (file : MigrationFile) :
    Session.Mirrors (Progress.store applied runs : Progress Data -> MigrationStore E Data) (recordApplied file)
      (noteFile E file) := by
  intro progress
  unfold recordApplied noteFile
  split
  · rw [Progress.store, ← recordAll_concat]
    rfl
  · rfl

variable (consistent scripts applied runs) in
/-- The loop of the migrator ends where the survey does. -/
theorem applyFiles_survey (pending : List MigrationFile) (count : Nat) (session : Session (Progress Data)) :
    let loop := applyFiles consistent scripts pending count (session.map (Progress.store applied runs))
    let ended := survey consistent scripts pending session
    loop.error.isSome = ended.failed ∧ loop.appliedCount = count + ended.completed.length ∧
      loop.session = ended.session.map (Progress.store applied runs) := by
  induction pending generalizing count session with
  | nil => exact ⟨rfl, rfl, rfl⟩
  | cons file rest inductionHypothesis =>
      unfold applyFiles survey
      cases scripts file with
      | none => exact ⟨rfl, rfl, rfl⟩
      | some script =>
          have mirrored : List.Forall₂ (Session.MirrorsStatement (Progress.store applied runs)) (script.map onData)
              (script.map onProgress) := by
            rw [List.forall₂_map_left_iff, List.forall₂_map_right_iff]
            exact List.forall₂_same.mpr fun statement _ => onData_mirrors statement
          have ran : (session.map (Progress.store applied runs)).runScript (fun store => consistent store.data)
                (script.map onData) =
              Session.mapAnswer (Progress.store applied runs)
                (session.runScript (fun progress => consistent progress.data) (script.map onProgress)) :=
            Session.runScript_map _ mirrored session
          dsimp only
          rw [ran]
          cases session.runScript (fun progress => consistent progress.data) (script.map onProgress) with
          | mk answer next =>
              cases answer with
              | error error => exact ⟨rfl, rfl, rfl⟩
              | ok _ =>
                  have recorded := Session.command_map (recordApplied_mirrors applied runs file) next
                  dsimp only [Session.mapAnswer]
                  rw [recorded]
                  cases next.command (noteFile E file) with
                  | mk answer next =>
                      cases answer with
                      | error error => exact ⟨rfl, rfl, rfl⟩
                      | ok _ =>
                          rcases inductionHypothesis (count + 1) next with ⟨failed, counted, ends⟩
                          refine ⟨failed, counted.trans ?_, ends⟩
                          change _ = count + (_ :: _).length
                          rw [List.length_cons]
                          omega

theorem onProgress_keeps (bound : Nat) (statement : ScriptStatement (ServerError E) Data) :
    Session.Keeps (fun progress => progress.recorded.length ≤ bound) (onProgress statement) := by
  cases statement with
  | begin => exact trivial
  | commit => exact trivial
  | rollback => exact trivial
  | work effect =>
      intro progress after bounded worked
      change (effect progress.data).map _ = _ at worked
      cases ran : effect progress.data with
      | error error => rw [ran] at worked; exact absurd worked nofun
      | ok data =>
          rw [ran] at worked
          exact Except.ok.inj worked ▸ bounded

theorem noteFile_grows {bound : Nat} {file : MigrationFile} {progress after : Progress Data}
    (bounded : progress.recorded.length ≤ bound)
    (noted : noteFile E file progress = .ok after) :
    after.recorded.length ≤ bound + 1 := by
  unfold noteFile at noted
  split at noted
  · rw [← Except.ok.inj noted, List.length_append, List.length_singleton]
    exact Nat.add_le_add_right bounded 1
  · exact absurd noted nofun

variable (consistent scripts) in
/-- No store of a survey holds more records than files have been completed. -/
theorem recorded_le_completed (pending : List MigrationFile) {count : Nat} {session : Session (Progress Data)}
    (bounded : session.Holds fun progress => progress.recorded.length ≤ count) :
    (survey consistent scripts pending session).session.Holds fun progress =>
      progress.recorded.length ≤ count + (survey consistent scripts pending session).completed.length := by
  induction pending generalizing count session with
  | nil => exact bounded
  | cons file rest inductionHypothesis =>
      unfold survey
      cases scripts file with
      | none => exact bounded
      | some script =>
          have scripted : (session.runScript (fun progress => consistent progress.data)
              (script.map onProgress)).2.Holds fun progress => progress.recorded.length ≤ count := by
            apply bounded.runScript
            intro statement member
            rcases List.mem_map.mp member with ⟨source, -, rfl⟩
            exact onProgress_keeps count source
          dsimp only
          cases ran : session.runScript (fun progress => consistent progress.data) (script.map onProgress) with
          | mk answer next =>
              rw [ran] at scripted
              cases answer with
              | error error => exact scripted
              | ok _ =>
                  dsimp only
                  cases wrote : next.command (noteFile E file) with
                  | mk answer last =>
                      cases answer with
                      | error error => exact scripted.command_error wrote
                      | ok _ =>
                          have noted := scripted.command_ok (fun _ kept => Nat.le_succ_of_le kept)
                            (fun _ _ kept grown => noteFile_grows kept grown) wrote
                          have later := inductionHypothesis noted
                          dsimp only at later ⊢
                          rwa [List.length_cons, Nat.add_comm _ 1, ← Nat.add_assoc]

/-! ## The run row -/

/-- The run row of an exited `apply`: after an exception it is FAILED with the number
of files that the run has recorded, and otherwise it is not RUNNING. -/
def Booked (runId : Nat) (before : MigrationStore E Data)
    (exited : Except (ApplyError E) MigrationRunReport × MigrationStore E Data) : Prop :=
  Exists fun run => exited.2.runs.find runId = some run ∧
    match exited.1 with
    | .error _ =>
        run.status = .failed ∧ exited.2.applied.rows.length = before.applied.rows.length + run.appliedCount
    | .ok _ => run.status ≠ .running

/-- Where a survey may end.  If a file failed, no transaction of a script is open,
every completed file has kept its record and none was recorded before; if none
failed, a transaction that is still open can commit. -/
def Survey.Settles (consistent : Data -> Bool) (applied : AppliedTable) (ended : Survey Data) : Prop :=
  match ended.session.transaction with
  | .idle =>
      ended.failed = true ->
        ended.session.visible.recorded.length = ended.completed.length ∧
          (applied.rows.map AppliedMigration.migrationId ++
            ended.session.visible.recorded.map MigrationFile.migrationId).Nodup
  | .implicit _ | .explicit _ => ended.failed = false ∧ consistent ended.session.visible.data = true
  | .aborted _ => False

theorem find_updateRun {runId : Nat} {change : MigrationRun E -> MigrationRun E}
    {keeps : forall run, (change run).runId = run.runId} {store after : MigrationStore E Data} {run : MigrationRun E}
    (updated : updateRun runId change keeps store = .ok after) (opened : store.runs.find runId = some run) :
    after.runs.find runId = some (change run) ∧ after.applied = store.applied := by
  rcases Except.ok.inj updated with rfl
  rcases Table.mem_of_find opened with ⟨-, own⟩
  refine ⟨?_, rfl⟩
  rw [Table.find_update, opened, Option.map_some, if_pos own]

/-- The booking of an exit is that of the row found under the run's identifier. -/
theorem booked_iff_of_find (before : MigrationStore E Data) {after : MigrationStore E Data} {runId : Nat} {run : MigrationRun E}
    (found : after.runs.find runId = some run) (answer : Except (ApplyError E) MigrationRunReport) :
    Booked runId before (answer, after) <->
      match answer with
      | .error _ => run.status = .failed ∧ after.applied.rows.length = before.applied.rows.length + run.appliedCount
      | .ok _ => run.status ≠ .running := by
  constructor
  · rintro ⟨stored, same, booked⟩
    rw [Option.some.inj (found.symm.trans same)]
    exact booked
  · intro booked
    exact ⟨run, found, booked⟩

/-- A transaction that is undone takes the run row back to RUNNING. -/
theorem not_booked_of_running {before : MigrationStore E Data} {runId : Nat} {run : MigrationRun E}
    (opened : runs.find runId = some run) (running : run.status = .running) (saved : Progress Data)
    (failure : ApplyError E) :
    ¬ Booked runId before
      ((.error failure : Except (ApplyError E) MigrationRunReport), (saved.store applied runs : MigrationStore E Data)) := by
  intro booked
  rcases (booked_iff_of_find before opened (.error failure)).mp booked with ⟨failed, -⟩
  exact absurd (running.symm.trans failed) nofun

/-- The handler books the failure exactly outside a transaction, when it has counted
the files whose records are there. -/
theorem handleFailure_booked_iff {before : MigrationStore E Data} {runId count : Nat} (error : ApplyError E)
    {run : MigrationRun E} (opened : runs.find runId = some run) (running : run.status = .running)
    (session : Session (Progress Data)) :
    Booked runId before (handleFailure runId count error (session.map (Progress.store applied runs))) <->
      match session.transaction with
      | .idle => (recordAll applied session.visible.recorded).rows.length = before.applied.rows.length + count
      | _ => False := by
  rcases session with ⟨visible, transaction⟩
  cases transaction with
  | implicit saved => exact iff_of_false (not_booked_of_running opened running saved error) id
  | explicit saved => exact iff_of_false (not_booked_of_running opened running saved error) id
  | aborted saved => exact iff_of_false (not_booked_of_running opened running saved _) id
  | idle =>
      have marked : markFailed runId count error (visible.store applied runs : MigrationStore E Data) = .ok _ := rfl
      rcases find_updateRun marked opened with ⟨found, sameApplied⟩
      refine (booked_iff_of_find before found (.error error)).trans ?_
      rw [sameApplied]
      exact and_iff_right rfl

theorem closeConnection_open {saved : MigrationStore E Data} {session : Session (MigrationStore E Data)}
    (transaction : session.transaction = .implicit saved ∨ session.transaction = .explicit saved)
    (report : MigrationRunReport) :
    closeConnection consistent report session =
      if consistent session.visible.data then (.ok report, session.visible)
      else (.error (.server .inconsistent), saved) := by
  have committed : session.commit (fun store => consistent store.data) =
      if consistent session.visible.data then (.ok (), Session.idle session.visible)
      else ((.error .inconsistent : Except (SessionError (ServerError E)) Unit), Session.idle saved) := by
    unfold Session.commit
    obtain opened | opened := transaction <;> rw [opened]
  unfold closeConnection
  rw [committed]
  cases consistent session.visible.data <;> rfl

/-- What `apply` does after a loop without a failure. -/
theorem success_booked_iff {before : MigrationStore E Data} {runId count : Nat} {run : MigrationRun E}
    (opened : runs.find runId = some run) (running : run.status = .running) (session : Session (Progress Data))
    (report : MigrationRunReport) :
    Booked runId before
        (match (session.map (Progress.store applied runs)).command (markSuccess runId count) with
        | (.error error, session) => handleFailure runId count (.server error) session
        | (.ok _, session) =>
            match session.command releaseLock with
            | (.error error, session) => handleFailure runId count (.server error) session
            | (.ok _, session) => closeConnection consistent report session) <->
      match session.transaction with
      | .idle => True
      | .implicit _ | .explicit _ => consistent session.visible.data = true
      | .aborted _ => False := by
  rcases session with ⟨visible, transaction⟩
  have marked : markSuccess runId count (visible.store applied runs : MigrationStore E Data) = .ok _ := rfl
  rcases find_updateRun marked opened with ⟨found, -⟩
  have succeeded := (booked_iff_of_find before found (.ok report)).mpr nofun
  -- the commit at the end either keeps the row's SUCCESS or undoes it
  have closed : forall (after : MigrationStore E Data) (saved : Progress Data), after.data = visible.data ->
      Booked runId before ((.ok report : Except (ApplyError E) MigrationRunReport), after) ->
      (Booked runId before (if consistent after.data then (.ok report, after)
        else (.error (.server .inconsistent), saved.store applied runs)) <-> consistent visible.data = true) := by
    intro after saved same kept
    rw [same]
    cases consistent visible.data with
    | true => exact iff_of_true kept rfl
    | false => exact iff_of_false (not_booked_of_running opened running saved _) nofun
  cases transaction with
  | idle => exact iff_of_true succeeded trivial
  | aborted saved => exact iff_of_false (not_booked_of_running opened running saved _) id
  | implicit saved =>
      refine (Iff.of_eq (congrArg (Booked runId before) (closeConnection_open (.inl rfl) report))).trans ?_
      exact closed _ saved rfl succeeded
  | explicit saved =>
      refine (Iff.of_eq (congrArg (Booked runId before) (closeConnection_open (.inr rfl) report))).trans ?_
      exact closed _ saved rfl succeeded

/-- The survey that a run over pending files makes of a store. -/
def surveyOf (consistent : Data -> Bool) (scripts : MigrationFile -> Option (Script E Data))
    (pending : List MigrationFile) (store : MigrationStore E Data) : Survey Data :=
  survey consistent scripts pending (Session.idle { data := store.data, recorded := [] })

theorem applyPending_booked_iff {runId : Nat} (pending : List MigrationFile) {store : MigrationStore E Data}
    (fresh : store.runs.find runId = none) :
    Booked runId store (applyPending consistent scripts runId pending store) <->
      (surveyOf consistent scripts pending store).Settles consistent store.applied := by
  rcases exists_insertRun fresh pending.length with ⟨runs, inserted, rowed⟩
  have opened : runs.find runId =
      some { runId := runId, status := .running, plannedCount := pending.length } := by
    rw [Table.find_insert inserted, fresh, if_pos rfl]
    rfl
  let start : Session (Progress Data) := Session.idle { data := store.data, recorded := [] }
  have started : (Session.idle store).command (insertRun runId pending.length) =
      (.ok (), start.map (Progress.store store.applied runs)) := by
    unfold Session.command Session.idle
    dsimp only
    rw [rowed]
    rfl
  have unrecorded : start.Holds fun progress => progress.recorded.length ≤ 0 := ⟨le_refl 0, trivial⟩
  rcases applyFiles_survey consistent scripts store.applied runs pending 0 start with ⟨failed, counted, ends⟩
  rcases recorded_le_completed consistent scripts pending unrecorded with ⟨bounded, -⟩
  change _ = (surveyOf consistent scripts pending store).failed at failed
  change _ = _ + (surveyOf consistent scripts pending store).completed.length at counted
  change _ = (surveyOf consistent scripts pending store).session.map _ at ends
  change (surveyOf consistent scripts pending store).session.visible.recorded.length ≤
    _ + (surveyOf consistent scripts pending store).completed.length at bounded
  rw [Nat.zero_add] at counted bounded
  unfold applyPending Survey.Settles
  rw [started]
  dsimp only
  rw [counted, ends]
  generalize surveyOf consistent scripts pending store = ended at *
  cases error : (applyFiles consistent scripts pending 0 (start.map (Progress.store store.applied runs))).error with
  | none =>
      rw [error] at failed
      dsimp only
      refine (success_booked_iff opened rfl ended.session _).trans ?_
      rw [← failed]
      cases ended.session.transaction with
      | idle => exact iff_of_true trivial nofun
      | implicit saved => exact (and_iff_right rfl).symm
      | explicit saved => exact (and_iff_right rfl).symm
      | aborted saved => exact Iff.rfl
  | some failure =>
      rw [error] at failed
      dsimp only
      refine (handleFailure_booked_iff failure opened rfl ended.session).trans ?_
      rw [← failed]
      cases ended.session.transaction with
      | idle =>
          rcases length_recordAll store.applied ended.session.visible.recorded with ⟨most, exactly⟩
          constructor
          · intro grown _
            have same : ended.session.visible.recorded.length = ended.completed.length := by omega
            exact ⟨same, exactly.mp (grown.trans (congrArg _ same.symm))⟩
          · intro settled
            rcases settled rfl with ⟨same, distinct⟩
            exact (exactly.mpr distinct).trans (congrArg _ same)
      | implicit saved => exact iff_of_false id nofun
      | explicit saved => exact iff_of_false id nofun
      | aborted saved => exact Iff.rfl

/-- `apply` inserts a run row: there is no drift, it is not a dry run and the fresh
identifier is not taken. -/
def InsertsRun (runId : Nat) (dryRun : Bool) (files : List MigrationFile) (planned : AppliedTable)
    (store : MigrationStore E Data) : Prop :=
  (buildPlan .postgres files planned).ok = true ∧ dryRun = false ∧ store.runs.find runId = none

/-- A run that inserts its row leaves it booked exactly when its survey settles. -/
theorem run_bookkeeping (runId : Nat) (dryRun : Bool) (files : List MigrationFile) (planned : AppliedTable)
    (store : MigrationStore E Data) :
    (InsertsRun runId dryRun files planned store ->
        Booked runId store (apply consistent scripts runId dryRun files planned store)) <->
      (InsertsRun runId dryRun files planned store ->
        (surveyOf consistent scripts (buildPlan .postgres files planned).pending store).Settles consistent
          store.applied) := by
  refine imp_congr_right fun inserts => ?_
  rcases inserts with ⟨clean, rfl, fresh⟩
  rw [apply_eq_applyPending consistent scripts clean]
  exact applyPending_booked_iff _ fresh

/-- The file of the run below. -/
def begunFile : MigrationFile where
  engine := .postgres
  domain := "catalog".toList
  filename := "0001_assets.sql".toList
  path := "migrations/catalog/0001_assets.sql".toList
  version := "0001".toList
  migrationId := "postgres/catalog/0001_assets.sql".toList
  checksumSha256 := List.replicate 64 '0'

/-- A script that begins a transaction and then fails. -/
def begunScript (_file : MigrationFile) : Option (Script Unit Unit) :=
  some [.begin, .work fun _ => .error (.script ()), .commit]

/-- The run row of a script that fails after its own `BEGIN` stays RUNNING. -/
theorem run_stays_running :
    ¬ forall (runId : Nat) (dryRun : Bool) (files : List MigrationFile) (planned : AppliedTable)
      (store : MigrationStore Unit Unit), InsertsRun runId dryRun files planned store ->
        Booked runId store (apply (fun _ => true) begunScript runId dryRun files planned store) := by
  intro books
  obtain ⟨run, stored, failed, -⟩ := books 1 false [begunFile] Table.empty
    { data := (), applied := Table.empty, runs := Table.empty } ⟨by decide, rfl, rfl⟩
  have running : run.status = .running := (Option.some.inj stored).symm ▸ rfl
  exact absurd (running.symm.trans failed) nofun

end Migrations
end ApexQuant
