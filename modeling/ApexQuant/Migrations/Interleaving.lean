import ApexQuant.Migrations.Discovery
import ApexQuant.Migrations.Postgres

namespace ApexQuant
namespace Migrations

open Foundation

/-!
# Concurrent runs of the migrators

Runs of `apply` against one database, step by step.  A run takes its plan before it
asks for the lock.  The two migrators differ in what they send of a file at once and
in how they record it.  A Postgres script is sent as a whole and ends the
transactions that it begins.
-/

/-! ## What is sent of a file -/

/-- The line boundaries of `str.splitlines`. -/
def isLineBreak (c : Char) : Bool :=
  (10 ≤ c.toNat && c.toNat ≤ 13) || (28 ≤ c.toNat && c.toNat ≤ 30) || c.toNat == 0x85 || c.toNat == 0x2028 ||
    c.toNat == 0x2029

/-- `str.splitlines` behind the part of a line that has been read, last character
first. -/
def splitLinesFrom (line : Text) : Text -> List Text
  | [] => if line.isEmpty then [] else [line.reverse]
  | '\r' :: '\n' :: rest => line.reverse :: splitLinesFrom [] rest
  | c :: rest => if isLineBreak c then line.reverse :: splitLinesFrom [] rest else splitLinesFrom (c :: line) rest

/-- `"\n".join(current).strip().rstrip(";").strip()`. -/
def statementOf (current : List Text) : Text :=
  Text.strip ((Text.strip (List.intercalate ['\n'] current)).rdropWhile fun c => c == ';')

/-- A statement unless it is empty. -/
def closeStatement (statements : List Text) (current : List Text) : List Text :=
  if (statementOf current).isEmpty then statements else statements ++ [statementOf current]

/-- One line in the loop of `split_sql`. -/
def splitStep (progress : List Text × List Text) (rawLine : Text) : List Text × List Text :=
  let stripped := Text.strip rawLine
  if "--".toList.isPrefixOf stripped then progress
  else
    let current := progress.2 ++ [rawLine]
    if stripped.getLast? = some ';' then (closeStatement progress.1 current, []) else (progress.1, current)

/-- `split_sql`. -/
def splitSql (sql : Text) : List Text :=
  let (statements, current) := (splitLinesFrom [] sql).foldl splitStep ([], [])
  closeStatement statements current

example : splitSql "\n-- comment\nCREATE DATABASE test;\n\nCREATE TABLE test.t\n  (x UInt32);;\nSELECT 1".toList =
    ["CREATE DATABASE test".toList, "CREATE TABLE test.t\n  (x UInt32)".toList, "SELECT 1".toList] := by
  decide

/-- The statements that a migrator sends one after the other. -/
def statementsOf : MigrationEngine -> Text -> List Text
  | .postgres, sql => [sql]
  | .clickhouse, sql => splitSql sql

/-! ## How a file is recorded -/

/-- A row of a ReplacingMergeTree: the one inserted last counts. -/
def putFile (applied : AppliedTable) (file : MigrationFile) : AppliedTable :=
  match applied.find file.migrationId with
  | none => recordFile applied file
  | some _ =>
      applied.update (fun row => if row.migrationId = file.migrationId then file.applied else row) fun row => by
        split
        · rename_i same
          exact same.symm
        · rfl

/-- The record of a file, unless a constraint refuses it. -/
def recordMigration (engine : MigrationEngine) (applied : AppliedTable) (file : MigrationFile) :
    Option AppliedTable :=
  match engine with
  | .postgres => if recordable file then some (recordFile applied file) else none
  | .clickhouse => some (putFile applied file)

/-- The identifiers that are recorded. -/
def recordedIds (applied : AppliedTable) : List Text :=
  applied.rows.map AppliedMigration.migrationId

theorem mem_recordedIds_recordFile {applied : AppliedTable} {file : MigrationFile} {migrationId : Text} :
    migrationId ∈ recordedIds (recordFile applied file) <->
      migrationId ∈ recordedIds applied ∨ migrationId = file.migrationId := by
  unfold recordedIds
  rw [recordFile_rows]
  split
  · rename_i known
    refine (or_iff_left_of_imp ?_).symm
    rintro rfl
    exact known
  · rw [List.map_append, List.mem_append, List.map_singleton, List.mem_singleton]
    rfl

theorem mem_recordedIds_recordMigration {engine : MigrationEngine} {applied after : AppliedTable}
    {file : MigrationFile} (recorded : recordMigration engine applied file = some after) {migrationId : Text} :
    migrationId ∈ recordedIds after <-> migrationId ∈ recordedIds applied ∨ migrationId = file.migrationId := by
  cases engine with
  | postgres =>
      unfold recordMigration at recorded
      dsimp only at recorded
      split at recorded
      · rw [← Option.some.inj recorded]
        exact mem_recordedIds_recordFile
      · exact absurd recorded nofun
  | clickhouse =>
      rw [← Option.some.inj recorded]
      unfold putFile
      split
      · exact mem_recordedIds_recordFile
      · rename_i row found
        rcases Table.mem_of_find found with ⟨stored, same⟩
        unfold recordedIds
        rw [Table.keys_update]
        refine (or_iff_left_of_imp ?_).symm
        rintro rfl
        exact same ▸ List.mem_map_of_mem stored

/-! ## Runs side by side -/

/-- Where a run of `apply` is. -/
inductive Phase where
  | waiting
  | planned (pending : List MigrationFile)
  | holding (pending : List MigrationFile)
  | executing (file : MigrationFile) (done : Nat) (queue : List Text) (rest : List MigrationFile)
  | finished

/-- A step of a run; what the run finds outside the database is part of it. -/
inductive RunAction where
  | plan (disk : Disk Bytes) (domain : Option Text) (dryRun : Bool)
  | acquire
  | load (text : Option Text)
  | execute
  | record
  | release
  | fail

/-- The database, the lock, the runs, and the statements that have been executed: the
number of a statement in its file, under the identifier of the file. -/
structure Runs (Runner : Type) where
  registry : AppliedTable
  lock : Option Runner
  phase : Runner -> Phase
  executed : List (Text × Nat)

variable {Runner : Type} [DecidableEq Runner]

namespace Runs

/-- Before the first step. -/
def start (registry : AppliedTable) : Runs Runner where
  registry := registry
  lock := none
  phase := fun _ => .waiting
  executed := []

def enter (runs : Runs Runner) (runner : Runner) (phase : Phase) : Runs Runner :=
  { runs with phase := Function.update runs.phase runner phase }

/-- A run that ends gives the lock back. -/
def leave (runs : Runs Runner) (runner : Runner) : Runs Runner :=
  { runs.enter runner .finished with lock := none }

end Runs

variable (platform : Platform) (root : Path) (engine : MigrationEngine)

/-- The plan of a run, and whether it goes on with it. -/
def planPhase (disk : Disk Bytes) (domain : Option Text) (dryRun : Bool) (registry : AppliedTable) : Phase :=
  match discoverMigrations platform root engine domain disk with
  | .error _ => .finished
  | .ok files =>
      let plan := buildPlan engine files registry
      if !plan.ok || dryRun then .finished else .planned plan.pending

/-- One step of one run.  A step that is not due changes nothing, and the lock is
given to one run at a time. -/
def Runs.step (runs : Runs Runner) (move : Runner × RunAction) : Runs Runner :=
  match runs.phase move.1, move.2 with
  | .waiting, .plan disk domain dryRun =>
      runs.enter move.1 (planPhase platform root engine disk domain dryRun runs.registry)
  | .planned pending, .acquire =>
      match runs.lock with
      | none => { runs.enter move.1 (.holding pending) with lock := some move.1 }
      | some _ => runs
  | .holding (file :: rest), .load (some text) =>
      runs.enter move.1 (.executing file 0 (statementsOf engine text) rest)
  | .holding _, .load none => runs.leave move.1
  | .executing file done (_ :: queue) rest, .execute =>
      { runs.enter move.1 (.executing file (done + 1) queue rest) with
        executed := runs.executed ++ [(file.migrationId, done)] }
  | .executing file _ [] rest, .record =>
      match recordMigration engine runs.registry file with
      | some registry => { runs.enter move.1 (.holding rest) with registry := registry }
      | none => runs
  | .holding [], .release => runs.leave move.1
  | .holding _, .fail => runs.leave move.1
  | .executing _ _ _ _, .fail => runs.leave move.1
  | _, _ => runs

/-- When a run gets the lock, none of its pending files has been recorded since its
plan, and no run fails between the first statement of a file and its record. -/
def Unrepeated (runs : Runs Runner) (move : Runner × RunAction) : Prop :=
  match runs.phase move.1, move.2 with
  | .planned pending, .acquire => forall file, file ∈ pending -> file.migrationId ∉ recordedIds runs.registry
  | .executing _ done _ _, .fail => done = 0
  | _, _ => True

/-! ## Every statement once -/

/-- The files that a run has still to execute. -/
def Phase.ahead : Phase -> List MigrationFile
  | .planned pending => pending
  | .holding pending => pending
  | .executing file _ _ rest => file :: rest
  | _ => []

/-- A run that has the lock. -/
def Phase.Holds : Phase -> Prop
  | .holding _ => True
  | .executing _ _ _ _ => True
  | _ => False

/-- A statement that a run has executed of its current file. -/
def Phase.Sent (migrationId : Text) (index : Nat) : Phase -> Prop
  | .executing file done _ _ => file.migrationId = migrationId ∧ index < done
  | _ => False

/-- No statement has been executed twice, and each of an unrecorded file has been
executed by the run that has the lock. -/
structure Runs.Once (runs : Runs Runner) : Prop where
  once : runs.executed.Nodup
  exclusive : forall runner, (runs.phase runner).Holds -> runs.lock = some runner
  distinct : forall runner, ((runs.phase runner).ahead.map MigrationFile.migrationId).Nodup
  unrecorded : forall runner, (runs.phase runner).Holds -> forall file, file ∈ (runs.phase runner).ahead ->
    file.migrationId ∉ recordedIds runs.registry
  accounted : forall migrationId index, (migrationId, index) ∈ runs.executed ->
    migrationId ∈ recordedIds runs.registry ∨ Exists fun runner => (runs.phase runner).Sent migrationId index

namespace Runs

variable {platform root engine} {runs : Runs Runner}

omit [DecidableEq Runner] in
theorem Once.alone_of_holds (once : runs.Once) {runner : Runner} (holds : (runs.phase runner).Holds) (other : Runner)
    (different : other ≠ runner) : ¬ (runs.phase other).Holds := by
  intro also
  exact different (Option.some.inj ((once.exclusive other also).symm.trans (once.exclusive runner holds)))

theorem holds_of_sent {phase : Phase} {migrationId : Text} {index : Nat} (sent : phase.Sent migrationId index) :
    phase.Holds := by
  cases phase with
  | executing file done queue rest => exact trivial
  | waiting => exact sent.elim
  | planned pending => exact sent.elim
  | holding pending => exact sent.elim
  | finished => exact sent.elim

/-- A step of a run that no other run can have the lock beside. -/
theorem Once.move (once : runs.Once) {after : Runs Runner} {runner : Runner} {phase : Phase}
    (alone : forall other, other ≠ runner -> ¬ (runs.phase other).Holds)
    (phases : after.phase = Function.update runs.phase runner phase) (nodup : after.executed.Nodup)
    (locked : phase.Holds -> after.lock = some runner)
    (distinct : (phase.ahead.map MigrationFile.migrationId).Nodup)
    (unrecorded : phase.Holds -> forall file, file ∈ phase.ahead -> file.migrationId ∉ recordedIds after.registry)
    (accounted : forall migrationId index, (migrationId, index) ∈ after.executed ->
      migrationId ∈ recordedIds after.registry ∨ phase.Sent migrationId index) :
    after.Once := by
  have own : after.phase runner = phase := by rw [phases, Function.update_self]
  have others : forall other, other ≠ runner -> after.phase other = runs.phase other := by
    intro other different
    rw [phases, Function.update_of_ne different]
  refine ⟨nodup, ?_, ?_, ?_, ?_⟩
  · intro other holds
    by_cases same : other = runner
    · rw [same, own] at holds
      rw [same, locked holds]
    · rw [others other same] at holds
      exact absurd holds (alone other same)
  · intro other
    by_cases same : other = runner
    · rwa [same, own]
    · rw [others other same]
      exact once.distinct other
  · intro other holds
    by_cases same : other = runner
    · rw [same, own] at holds ⊢
      exact unrecorded holds
    · rw [others other same] at holds
      exact absurd holds (alone other same)
  · intro migrationId index listed
    refine (accounted migrationId index listed).imp_right fun sent => ⟨runner, ?_⟩
    rwa [own]

/-- A statement of the run that has the lock alone, or of a recorded file. -/
theorem Once.accounted_alone (once : runs.Once) {runner : Runner}
    (alone : forall other, other ≠ runner -> ¬ (runs.phase other).Holds) {migrationId : Text} {index : Nat}
    (listed : (migrationId, index) ∈ runs.executed) :
    migrationId ∈ recordedIds runs.registry ∨ (runs.phase runner).Sent migrationId index := by
  refine (once.accounted migrationId index listed).imp_right ?_
  rintro ⟨other, sent⟩
  by_cases same : other = runner
  · exact same ▸ sent
  · exact absurd (holds_of_sent sent) (alone other same)

/-- A run gives the lock back without a statement of an unrecorded file. -/
theorem Once.leave (once : runs.Once) {runner : Runner} (holds : (runs.phase runner).Holds)
    (sentNothing : forall migrationId index, ¬ (runs.phase runner).Sent migrationId index) :
    (runs.leave runner).Once := by
  have alone := once.alone_of_holds holds
  refine once.move alone rfl once.once False.elim List.nodup_nil False.elim ?_
  intro migrationId index listed
  exact .inl ((once.accounted_alone alone listed).resolve_right (sentNothing migrationId index))

/-- The files of a plan have distinct identifiers. -/
theorem planPhase_planned (disk : Disk Bytes) (domain : Option Text) (dryRun : Bool) (registry : AppliedTable) :
    planPhase platform root engine disk domain dryRun registry = .finished ∨
      Exists fun pending => planPhase platform root engine disk domain dryRun registry = .planned pending ∧
        (pending.map MigrationFile.migrationId).Nodup := by
  unfold planPhase
  cases discovered : discoverMigrations platform root engine domain disk with
  | error error => exact .inl rfl
  | ok files =>
      dsimp only
      split
      · exact .inl rfl
      · exact .inr ⟨_, rfl, (discovered_ids_nodup discovered).sublist (List.filter_sublist.map _)⟩

/-- A run that has no lock plans. -/
theorem Once.plan (once : runs.Once) {runner : Runner} {phase : Phase} (waiting : runs.phase runner = .waiting)
    (planned : phase = .finished ∨ Exists fun pending => phase = .planned pending ∧
      (pending.map MigrationFile.migrationId).Nodup) :
    (runs.enter runner phase).Once := by
  have idle : ¬ phase.Holds := by
    rcases planned with rfl | ⟨pending, rfl, -⟩
    · exact id
    · exact id
  have distinct : (phase.ahead.map MigrationFile.migrationId).Nodup := by
    rcases planned with rfl | ⟨pending, rfl, nodup⟩
    · exact List.nodup_nil
    · exact nodup
  have own : (runs.enter runner phase).phase runner = phase := Function.update_self ..
  have others : forall other, other ≠ runner -> (runs.enter runner phase).phase other = runs.phase other :=
    fun other different => Function.update_of_ne different ..
  refine ⟨once.once, ?_, ?_, ?_, ?_⟩
  · intro other holds
    by_cases same : other = runner
    · rw [same, own] at holds
      exact absurd holds idle
    · rw [others other same] at holds
      exact once.exclusive other holds
  · intro other
    by_cases same : other = runner
    · rwa [same, own]
    · rw [others other same]
      exact once.distinct other
  · intro other holds
    by_cases same : other = runner
    · rw [same, own] at holds
      exact absurd holds idle
    · rw [others other same] at holds ⊢
      exact once.unrecorded other holds
  · intro migrationId index listed
    refine (once.accounted migrationId index listed).imp_right ?_
    rintro ⟨other, sent⟩
    refine ⟨other, ?_⟩
    rw [others other]
    · exact sent
    · rintro rfl
      rw [waiting] at sent
      exact sent.elim

/-- The run that has the lock executes a statement that has not been executed. -/
theorem Once.execute (once : runs.Once) {runner : Runner} {file : MigrationFile} {done : Nat} {statement : Text}
    {queue : List Text} {rest : List MigrationFile}
    (executing : runs.phase runner = .executing file done (statement :: queue) rest) :
    Once { runs.enter runner (.executing file (done + 1) queue rest) with
      executed := runs.executed ++ [(file.migrationId, done)] } := by
  have holds : (runs.phase runner).Holds := by rw [executing]; exact trivial
  have alone := once.alone_of_holds holds
  have ahead : (runs.phase runner).ahead = file :: rest := by rw [executing]; rfl
  have unrecorded := once.unrecorded runner holds
  have distinct := once.distinct runner
  rw [ahead] at unrecorded distinct
  have accounted : forall migrationId index, (migrationId, index) ∈ runs.executed ->
      migrationId ∈ recordedIds runs.registry ∨ (file.migrationId = migrationId ∧ index < done) := by
    intro migrationId index listed
    have known := once.accounted_alone alone listed
    rwa [executing] at known
  refine once.move alone rfl ?_ (fun _ => once.exclusive runner holds) distinct (fun _ => unrecorded) ?_
  · refine List.nodup_append.mpr ⟨once.once, List.nodup_singleton _, ?_⟩
    intro earlier listed new added same
    rw [List.mem_singleton] at added
    rw [same, added] at listed
    rcases accounted file.migrationId done listed with known | ⟨-, below⟩
    · exact unrecorded file List.mem_cons_self known
    · exact absurd below (lt_irrefl done)
  · intro migrationId index listed
    rcases List.mem_append.mp listed with earlier | new
    · exact (accounted migrationId index earlier).imp_right fun sent => ⟨sent.1, Nat.lt_succ_of_lt sent.2⟩
    · rcases Prod.mk.inj (List.mem_singleton.mp new) with ⟨rfl, rfl⟩
      exact .inr ⟨rfl, Nat.lt_succ_self _⟩

/-- The run that has the lock records its file. -/
theorem Once.record (once : runs.Once) {runner : Runner} {file : MigrationFile} {done : Nat}
    {rest : List MigrationFile} {registry : AppliedTable}
    (executing : runs.phase runner = .executing file done [] rest)
    (recorded : recordMigration engine runs.registry file = some registry) :
    Once { runs.enter runner (.holding rest) with registry := registry } := by
  have holds : (runs.phase runner).Holds := by rw [executing]; exact trivial
  have alone := once.alone_of_holds holds
  have ahead : (runs.phase runner).ahead = file :: rest := by rw [executing]; rfl
  have unrecorded := once.unrecorded runner holds
  have distinct := once.distinct runner
  rw [ahead] at unrecorded distinct
  rcases List.nodup_cons.mp distinct with ⟨new, distinctRest⟩
  refine once.move alone rfl once.once (fun _ => once.exclusive runner holds) distinctRest (fun _ => ?_) ?_
  · intro other listed known
    rcases (mem_recordedIds_recordMigration recorded).mp known with earlier | same
    · exact unrecorded other (List.mem_cons_of_mem _ listed) earlier
    · exact new (same ▸ List.mem_map_of_mem listed)
  · intro migrationId index listed
    have known := once.accounted_alone alone listed
    rw [executing] at known
    refine .inl ((mem_recordedIds_recordMigration recorded).mpr ?_)
    exact known.imp_right fun sent => sent.1.symm

theorem Once.step (once : runs.Once) {move : Runner × RunAction} (unrepeated : Unrepeated runs move) :
    (runs.step platform root engine move).Once := by
  rcases move with ⟨runner, action⟩
  unfold Runs.step
  unfold Unrepeated at unrepeated
  dsimp only at unrepeated ⊢
  cases reached : runs.phase runner with
  | waiting =>
      cases action with
      | plan disk domain dryRun => exact once.plan reached (planPhase_planned disk domain dryRun runs.registry)
      | _ => exact once
  | planned pending =>
      cases action with
      | acquire =>
          rw [reached] at unrepeated
          dsimp only at unrepeated ⊢
          cases free : runs.lock with
          | some owner => exact once
          | none =>
              have alone : forall other, other ≠ runner -> ¬ (runs.phase other).Holds := by
                intro other _ holds
                exact absurd ((once.exclusive other holds).symm.trans free) nofun
              have distinct := once.distinct runner
              rw [reached] at distinct
              refine once.move alone rfl once.once (fun _ => rfl) distinct (fun _ => unrepeated) ?_
              intro migrationId index listed
              have known := once.accounted_alone alone listed
              rw [reached] at known
              exact .inl (known.resolve_right id)
      | _ => exact once
  | holding pending =>
      have holds : (runs.phase runner).Holds := by rw [reached]; exact trivial
      have left : (runs.leave runner).Once := once.leave holds (by rw [reached]; exact fun _ _ => id)
      cases action with
      | fail => cases pending <;> exact left
      | load text =>
          cases text with
          | none => cases pending <;> exact left
          | some text =>
              cases pending with
              | nil => exact once
              | cons file rest =>
                  have alone := once.alone_of_holds holds
                  have distinct := once.distinct runner
                  have unrecorded := once.unrecorded runner holds
                  rw [reached] at distinct unrecorded
                  refine once.move alone rfl once.once (fun _ => once.exclusive runner holds) distinct
                    (fun _ => unrecorded) ?_
                  intro migrationId index listed
                  have known := once.accounted_alone alone listed
                  rw [reached] at known
                  exact .inl (known.resolve_right id)
      | release =>
          cases pending with
          | nil => exact left
          | cons file rest => exact once
      | _ => cases pending <;> exact once
  | executing file done queue rest =>
      have holds : (runs.phase runner).Holds := by rw [reached]; exact trivial
      cases action with
      | fail =>
          rw [reached] at unrepeated
          obtain rfl : done = 0 := unrepeated
          have nothing : forall migrationId index, ¬ (runs.phase runner).Sent migrationId index := by
            rw [reached]
            exact fun _ index sent => absurd sent.2 (Nat.not_lt_zero index)
          cases queue <;> exact once.leave holds nothing
      | execute =>
          cases queue with
          | nil => exact once
          | cons statement queue => exact once.execute reached
      | record =>
          cases queue with
          | cons statement queue => exact once
          | nil =>
              dsimp only
              cases recorded : recordMigration engine runs.registry file with
              | none => exact once
              | some registry => exact once.record reached recorded
      | _ => cases queue <;> exact once
  | finished => exact once

omit [DecidableEq Runner] in
theorem once_start (registry : AppliedTable) : (start registry : Runs Runner).Once where
  once := List.nodup_nil
  exclusive := fun _ => False.elim
  distinct := fun _ => List.nodup_nil
  unrecorded := fun _ => False.elim
  accounted := nofun

end Runs

/-- When the plans are still current under the lock and no run stops between a
statement and its record, no statement of a file is executed twice. -/
theorem migrations_run_once (registry : AppliedTable) (moves : List (Runner × RunAction))
    (guarded : Run.Guarded (Runs.step platform root engine) Unrepeated (Runs.start registry) moves) :
    (moves.foldl (Runs.step platform root engine) (Runs.start registry)).executed.Nodup := by
  have kept := guarded.invariant (fun _ _ once unrepeated => Runs.Once.step once unrepeated) (Runs.once_start registry)
  exact kept.once

/-- A disk with one migration. -/
def oneMigration (engine : MigrationEngine) : Disk Bytes :=
  (createMigration plainPlatform postgresRoot engine "auth".toList "users".toList emptyDisk).2

def planMove (engine : MigrationEngine) (runner : Bool) : Bool × RunAction :=
  (runner, .plan (oneMigration engine) none false)

/-- A run from the lock on. -/
def lockedMoves (runner : Bool) : List (Bool × RunAction) :=
  [(runner, .acquire), (runner, .load (some "SELECT 1;".toList)), (runner, .execute), (runner, .record),
    (runner, .release)]

/-- Where two runs lead. -/
def afterMoves (engine : MigrationEngine) (moves : List (Bool × RunAction)) : Runs Bool :=
  moves.foldl (Runs.step plainPlatform postgresRoot engine) (Runs.start Table.empty)

/-- A second run that plans after the first has released the lock. -/
def inTurn (engine : MigrationEngine) : List (Bool × RunAction) :=
  planMove engine true :: lockedMoves true ++ planMove engine false :: lockedMoves false

/-- A second run that plans before the first has the lock. -/
def stalePlan (engine : MigrationEngine) : List (Bool × RunAction) :=
  planMove engine true :: planMove engine false :: lockedMoves true ++ lockedMoves false

theorem migrations_run_once_in_turn : (afterMoves .postgres (inTurn .postgres)).executed.Nodup := by
  refine migrations_run_once plainPlatform postgresRoot .postgres Table.empty (inTurn .postgres) ?_
  refine ⟨trivial, ?_, trivial, trivial, trivial, trivial, trivial, ?_, trivial, trivial, trivial, trivial, trivial⟩
  · exact fun file _ => List.not_mem_nil
  · exact fun file listed => absurd (show file ∈ ([] : List MigrationFile) from listed) List.not_mem_nil

/-- A run that has planned before another run got the lock executes its files again. -/
theorem stale_plan_runs_twice :
    (¬ forall moves, (afterMoves .postgres moves).executed.Nodup) ∧
      ¬ forall moves, (afterMoves .clickhouse moves).executed.Nodup := by
  constructor
  · intro once
    exact absurd (once (stalePlan .postgres)) (by decide)
  · intro once
    exact absurd (once (stalePlan .clickhouse)) (by decide)

end Migrations
end ApexQuant
