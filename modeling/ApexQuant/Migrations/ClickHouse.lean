import ApexQuant.Foundation.Resumption
import ApexQuant.Migrations.Interleaving
import ApexQuant.Migrations.Ledger

namespace ApexQuant
namespace Migrations

open Foundation
open Foundation.Faults
open Foundation.WriteOrder
open Foundation.Resumption

/-!
# Migrations of ClickHouse

`ClickHouseMigrator` has no transactions.  It sends the statements of a file one after
the other and records the file after the last one.  A run that is stopped leaves the
file that it was at half executed and unrecorded, and the next run begins it again.

Runs take turns here; each call to the server or to the lock has its own fate.  A
statement that the server refuses has no effect.
-/

variable {E Schema : Type}

inductive ClickHouseError (E : Type) where
  | discovery (error : DiscoveryError)
  | drift (items : List Drift)
  | unreadable (file : MigrationFile)
  | client (error : E)

/-- A row of `migration_runs`. -/
structure ClickHouseRun where
  runId : Nat
  status : RunStatus
  plannedCount : Nat
  appliedCount : Nat
  failedCount : Nat
  deriving DecidableEq

/-- The server, and the `applied_count` of the run at work.  `executed` lists the
statements that have taken effect, each with the identifier of its file. -/
structure ClickHouse (Schema : Type) where
  schema : Schema
  applied : AppliedTable
  runs : List ClickHouseRun
  executed : List (Text × Text)
  appliedCount : Nat

inductive ClickHouseStep where
  | command (migrationId statement : Text)
  | record (file : MigrationFile)
  | count

abbrev ClickHouseProgram (E Schema A : Type) := Program (ClickHouseError E) (ClickHouse Schema) A

section Program

variable (command : Text -> Schema -> Except E Schema) (read : MigrationFile -> Option Text)

def ClickHouse.perform : ClickHouseStep -> ClickHouse Schema -> Except (ClickHouseError E) (ClickHouse Schema)
  | .command migrationId statement, world =>
      match command statement world.schema with
      | .ok schema => .ok { world with schema := schema, executed := world.executed ++ [(migrationId, statement)] }
      | .error error => .error (.client error)
  | .record file, world => .ok { world with applied := putFile world.applied file }
  | .count, world => .ok { world with appliedCount := world.appliedCount + 1 }

/-- The three statements create what is not there yet. -/
def ensureRegistry : ClickHouseProgram E Schema PUnit :=
  forM (List.replicate 3 ()) fun _ => ask fun _ => PUnit.unit

/-- One pass of the loop over the pending files. -/
def applyClickHouseFile (file : MigrationFile) : ClickHouseProgram E Schema PUnit :=
  match read file with
  | none => throw (.unreadable file)
  | some sql => do
      forM (splitSql sql) fun statement => write (ClickHouse.perform command) (.command file.migrationId statement)
      write (ClickHouse.perform command) (.record file)
      change fun world => { world with appliedCount := world.appliedCount + 1 }

def insertClickHouseRun (runId plannedCount failedCount : Nat) (status : RunStatus) : ClickHouseProgram E Schema Unit :=
  tell fun world =>
    { world with
      runs := world.runs ++
        [{ runId := runId
           status := status
           plannedCount := plannedCount
           appliedCount := world.appliedCount
           failedCount := failedCount }] }

/-- The `try` block of `apply`, and its handler. -/
def applyClickHousePending (runId : Nat) (pending : List MigrationFile) : ClickHouseProgram E Schema MigrationRunReport :=
  handle
    (do
      ensureRegistry
      forM pending (applyClickHouseFile command read)
      insertClickHouseRun runId pending.length 0 .success
      pure
        { mode := "apply".toList
          ok := true
          planned := pending.length
          applied := pending.length
          skipped := 0
          failed := 0 })
    fun error => do
      insertClickHouseRun runId pending.length 1 .failed
      throw error

/-- `ClickHouseMigrator.apply`, for the files that `discover_migrations` returned. -/
def applyClickHouse (runId : Nat) (dryRun : Bool) (discovered : Except DiscoveryError (List MigrationFile)) :
    ClickHouseProgram E Schema MigrationRunReport :=
  match discovered with
  | .error error => throw (.discovery error)
  | .ok files => do
      ask fun _ => ()
      ensureRegistry
      let applied ← ask ClickHouse.applied
      let plan := buildPlan .clickhouse files applied
      if !plan.ok then throw (.drift plan.drift)
      else if dryRun then
        pure
          { mode := "dry-run".toList
            ok := true
            planned := plan.pending.length
            applied := 0
            skipped := plan.pending.length
            failed := 0 }
      else do
        -- the lock, then the client
        ask fun _ => ()
        ask fun _ => ()
        change fun world => { world with appliedCount := 0 }
        let report ← handle (applyClickHousePending command read runId plan.pending) fun error => do
          ask fun _ => ()
          throw error
        ask fun _ => ()
        pure report

end Program

/-! ## What one file leaves -/

section File

variable {command : Text -> Schema -> Except E Schema} {read : MigrationFile -> Option Text}

/-- The statements of a file. -/
def textsOf (read : MigrationFile -> Option Text) (file : MigrationFile) : List Text :=
  (read file).elim [] splitSql

/-- What the statements of a file are logged as. -/
def loggedOf (read : MigrationFile -> Option Text) (file : MigrationFile) : List (Text × Text) :=
  (textsOf read file).map fun statement => (file.migrationId, statement)

def stepsOf (read : MigrationFile -> Option Text) (file : MigrationFile) : List ClickHouseStep :=
  (textsOf read file).map (ClickHouseStep.command file.migrationId) ++ [.record file, .count]

theorem applyClickHouseFile_follows (file : MigrationFile) :
    Follows (ClickHouse.perform command) (stepsOf read file) (applyClickHouseFile command read file) := by
  rw [applyClickHouseFile]
  cases text : read file with
  | none => exact Follows.throw _
  | some sql =>
      have commands : Follows (ClickHouse.perform command) ((splitSql sql).map (ClickHouseStep.command file.migrationId))
          (forM (splitSql sql) fun statement => write (ClickHouse.perform command) (.command file.migrationId statement)) := by
        rw [← List.flatMap_singleton' ((splitSql sql).map _), List.flatMap_map]
        exact Follows.forM fun statement _ => Follows.write _
      have last : Follows (ClickHouse.perform command) ([.record file] ++ [.count]) (do
          write (ClickHouse.perform command) (.record file)
          change fun world => { world with appliedCount := world.appliedCount + 1 }) :=
        Follows.bind (Follows.write _) fun _ => Follows.change fun _ => rfl
      have steps : stepsOf read file =
          (splitSql sql).map (ClickHouseStep.command file.migrationId) ++ ([.record file] ++ [.count]) := by
        rw [stepsOf, textsOf, text]
        rfl
      rw [steps]
      exact commands.bind fun _ => last

theorem performed_commands {migrationId : Text} {statements : List Text} {world after : ClickHouse Schema}
    (ran : performed (ClickHouse.perform command) (statements.map (ClickHouseStep.command migrationId)) world = some after) :
    Exists fun schema => performed command statements world.schema = some schema ∧
      after =
        { world with
          schema := schema
          executed := world.executed ++ statements.map fun statement => (migrationId, statement) } := by
  induction statements generalizing world with
  | nil =>
      obtain rfl : world = after := Option.some.inj ran
      exact ⟨world.schema, rfl, by simp⟩
  | cons statement rest ih =>
      rcases performed_cons.mp ran with ⟨next, wrote, ran⟩
      rw [ClickHouse.perform] at wrote
      cases answered : command statement world.schema with
      | error error =>
          rw [answered] at wrote
          cases wrote
      | ok schema =>
          rw [answered] at wrote
          cases wrote
          rcases ih ran with ⟨reached, performed, rfl⟩
          refine ⟨reached, performed_cons.mpr ⟨schema, answered, performed⟩, ?_⟩
          simp

/-- Where a history of runs stands: some files are recorded, in their order, and the
first of the others may have been begun. -/
structure Standing (command : Text -> Schema -> Except E Schema) (read : MigrationFile -> Option Text) (start : Schema)
    (recorded rest : List MigrationFile) (world : ClickHouse Schema) : Prop where
  rows : world.applied.rows = recorded.map MigrationFile.applied
  executed : Exists fun completed => Exists fun attempts => Completed (recorded.map (loggedOf read)) completed ∧
    Attempted (rest.head?.elim [] (loggedOf read)) attempts ∧ world.executed = completed ++ attempts
  schema : (forall file, file ∈ recorded ++ rest -> Settles command (textsOf read file)) ->
    Exists fun done => done <+: rest.head?.elim [] (textsOf read) ∧
      performed command (recorded.flatMap (textsOf read) ++ done) start = some world.schema

/-- The history stands somewhere in the list of all files. -/
def Stands (command : Text -> Schema -> Except E Schema) (read : MigrationFile -> Option Text) (start : Schema)
    (files : List MigrationFile) (world : ClickHouse Schema) : Prop :=
  Exists fun recorded => Exists fun rest => files = recorded ++ rest ∧
    Standing command read start recorded rest world

variable {start : Schema} {recorded rest : List MigrationFile} {world after : ClickHouse Schema} {file : MigrationFile}

/-- Nothing else of the server counts. -/
theorem Standing.of_same (standing : Standing command read start recorded rest world)
    (applied : after.applied = world.applied) (executed : after.executed = world.executed)
    (schema : after.schema = world.schema) : Standing command read start recorded rest after where
  rows := applied ▸ standing.rows
  executed := executed ▸ standing.executed
  schema := schema ▸ standing.schema

/-- An attempt that is stopped before the file is recorded. -/
theorem Standing.attempt (standing : Standing command read start recorded (file :: rest) world) {part : List Text}
    (begun : part <+: textsOf read file)
    (ran : performed (ClickHouse.perform command) (part.map (ClickHouseStep.command file.migrationId)) world = some after) :
    Standing command read start recorded (file :: rest) after := by
  rcases performed_commands ran with ⟨schema, performed, rfl⟩
  rcases standing.executed with ⟨completed, attempts, whole, tried, log⟩
  refine { rows := standing.rows, executed := ⟨completed, _, whole, tried.again (begun.map _), ?_⟩, schema := ?_ }
  · rw [← List.append_assoc, ← log]
  · intro settles
    rcases standing.schema settles with ⟨done, before, reached⟩
    rw [performed_append] at reached
    rcases Option.bind_eq_some_iff.mp reached with ⟨clean, first, stopped⟩
    have settling : Settles command (textsOf read file) :=
      settles file (List.mem_append_right _ List.mem_cons_self)
    rcases settling.resume before stopped begun performed with ⟨longer, part', led, -⟩
    refine ⟨longer, part', ?_⟩
    rw [performed_append, first]
    exact led

/-- An attempt that comes through, once the file is recorded. -/
theorem Standing.complete (standing : Standing command read start recorded (file :: rest) world)
    (fresh : file.migrationId ∉ recorded.map MigrationFile.migrationId)
    (ran : performed (ClickHouse.perform command) ((textsOf read file).map (ClickHouseStep.command file.migrationId))
      world = some after) (applied : AppliedTable) (same : applied = putFile after.applied file) (count : Nat) :
    Standing command read start (recorded ++ [file]) rest { after with applied := applied, appliedCount := count } := by
  rcases performed_commands ran with ⟨schema, performed, rfl⟩
  rcases standing.executed with ⟨completed, attempts, whole, tried, log⟩
  have absent : world.applied.find file.migrationId = none := by
    rw [Table.find_eq_none_iff, standing.rows, List.map_map]
    exact fresh
  refine { rows := ?_, executed := ⟨completed ++ (attempts ++ loggedOf read file), [], ?_, Attempted.none, ?_⟩, schema := ?_ }
  · change applied.rows = _
    rw [same, putFile]
    dsimp only
    rw [absent, recordFile_rows, if_neg (Table.find_eq_none_iff.mp absent), standing.rows, List.map_append]
    rfl
  · rw [List.map_append]
    exact whole.next tried
  · rw [List.append_nil, log]
    simp [loggedOf]
  · intro settles
    rw [List.append_assoc] at settles
    rcases standing.schema settles with ⟨done, before, reached⟩
    rw [performed_append] at reached
    rcases Option.bind_eq_some_iff.mp reached with ⟨clean, first, stopped⟩
    have settling : Settles command (textsOf read file) :=
      settles file (List.mem_append_right _ List.mem_cons_self)
    rcases settling.resume before stopped (List.prefix_refl _) performed with ⟨longer, -, led, through⟩
    obtain rfl := through rfl
    refine ⟨[], List.nil_prefix, ?_⟩
    rw [List.append_nil, List.flatMap_append, performed_append, first]
    simpa using led

theorem Standing.stands (standing : Standing command read start recorded rest world) :
    Stands command read start (recorded ++ rest) world :=
  ⟨recorded, rest, rfl, standing⟩

/-- Whatever becomes of an attempt at the next file, the history stands somewhere. -/
theorem Standing.step (standing : Standing command read start recorded (file :: rest) world)
    (fresh : file.migrationId ∉ recorded.map MigrationFile.migrationId) {done : List ClickHouseStep}
    (part : done <+: stepsOf read file) (ran : performed (ClickHouse.perform command) done world = some after) :
    (Standing command read start recorded (file :: rest) after ∨ Standing command read start (recorded ++ [file]) rest after) ∧
      (done = stepsOf read file -> Standing command read start (recorded ++ [file]) rest after) := by
  rcases prefix_append_cons part with early | ⟨more, counted, rfl⟩
  · rcases List.prefix_map_iff.mp early with ⟨texts, begun, rfl⟩
    refine ⟨Or.inl (standing.attempt begun ran), ?_⟩
    intro whole
    have lengths := congrArg List.length whole
    have short := begun.length_le
    simp only [stepsOf, List.length_map, List.length_append, List.length_cons] at lengths
    omega
  · rw [performed_append] at ran
    rcases Option.bind_eq_some_iff.mp ran with ⟨middle, commands, ran⟩
    have completes := standing.complete fresh commands (putFile middle.applied file) rfl
    have recorded' : Standing command read start (recorded ++ [file]) rest after := by
      rcases List.prefix_cons_iff.mp counted with rfl | ⟨none, rfl, nothing⟩
      · cases ran
        exact completes middle.appliedCount
      · obtain rfl := List.prefix_nil.mp nothing
        cases ran
        exact completes (middle.appliedCount + 1)
    exact ⟨Or.inr recorded', fun _ => recorded'⟩

/-! ## What a run leaves -/

variable (command read start) in
theorem applyClickHouseFile_stands (recorded rest : List MigrationFile) (file : MigrationFile)
    (fresh : file.migrationId ∉ recorded.map MigrationFile.migrationId) :
    Triple (fun outside => Standing command read start recorded (file :: rest) outside.world)
      (applyClickHouseFile command read file)
      (fun _ outside => Standing command read start (recorded ++ [file]) rest outside.world)
      (fun _ outside => Stands command read start (recorded ++ file :: rest) outside.world) := by
  intro outside standing
  rcases applyClickHouseFile_follows file outside with ⟨done, part, reached, whole⟩
  have stepped := standing.step fresh part reached
  rw [finalWorld] at stepped
  cases ran : applyClickHouseFile command read file outside with
  | ok answer after =>
      rw [ran] at stepped
      exact stepped.2 (whole answer after ran)
  | error error after =>
      rw [ran] at stepped
      rcases stepped.1 with before | behind
      · exact before.stands
      · have stands := behind.stands
        rw [List.append_assoc] at stands
        exact stands

variable (command read start) in
theorem applyClickHouseFiles_stand (recorded rest : List MigrationFile)
    (distinct : ((recorded ++ rest).map MigrationFile.migrationId).Nodup) :
    Triple (fun outside => Standing command read start recorded rest outside.world)
      (forM rest (applyClickHouseFile command read))
      (fun _ outside => Standing command read start (recorded ++ rest) [] outside.world)
      (fun _ outside => Stands command read start (recorded ++ rest) outside.world) := by
  induction rest generalizing recorded with
  | nil =>
      rw [List.append_nil]
      exact Triple.pure fun _ standing => standing
  | cons file rest ih =>
      rw [List.forM_cons]
      have fresh : file.migrationId ∉ recorded.map MigrationFile.migrationId := by
        rw [List.map_append, List.map_cons] at distinct
        exact fun member => (List.nodup_append.mp distinct).2.2 _ member _ List.mem_cons_self rfl
      have moved : recorded ++ file :: rest = recorded ++ [file] ++ rest := by simp
      rw [moved] at distinct
      refine Triple.bind (applyClickHouseFile_stands command read start recorded rest file fresh) fun _ => ?_
      rw [moved]
      exact ih (recorded ++ [file]) distinct

theorem ensureRegistry_maintains {Inv : ClickHouse Schema -> Prop} :
    Maintains Inv (ensureRegistry : ClickHouseProgram E Schema PUnit) :=
  Maintains.forM fun _ _ => Maintains.ask _

variable (command read start) in
theorem applyClickHousePending_stands (recorded rest : List MigrationFile)
    (distinct : ((recorded ++ rest).map MigrationFile.migrationId).Nodup) (runId : Nat) :
    Triple (fun outside => Standing command read start recorded rest outside.world)
      (applyClickHousePending command read runId rest)
      (fun _ outside => Standing command read start (recorded ++ rest) [] outside.world)
      (fun _ outside => Stands command read start (recorded ++ rest) outside.world) := by
  have inserts : forall (Inv : ClickHouse Schema -> Prop), (forall world runs, Inv world -> Inv { world with runs := runs }) ->
      forall failed status, Maintains Inv (insertClickHouseRun (E := E) runId rest.length failed status) :=
    fun Inv ignores failed status => Maintains.tell fun world holds => ignores world _ holds
  apply Triple.handle
  · refine Triple.bind (Triple.weaken ensureRegistry_maintains (fun _ standing => standing) (fun _ _ standing => standing)
      fun _ _ standing => standing.stands) fun _ => ?_
    refine Triple.bind (applyClickHouseFiles_stand command read start recorded rest distinct) fun _ => ?_
    refine Triple.bind (Triple.weaken (inserts _ (fun _ _ standing => standing.of_same rfl rfl rfl) 0 .success)
      (fun _ standing => standing) (fun _ _ standing => standing) fun _ _ standing => ?_) fun _ => ?_
    · have stands := standing.stands
      rw [List.append_nil] at stands
      exact stands
    · exact Triple.pure fun _ standing => standing
  · intro error
    refine Triple.bind (inserts (Stands command read start (recorded ++ rest)) ?_ 1 .failed) fun _ => ?_
    · rintro world runs ⟨before, behind, split, standing⟩
      exact ⟨before, behind, split, standing.of_same rfl rfl rfl⟩
    · exact Triple.throw fun _ stands => stands

/-- Over the files that are recorded in their order, the plan is the others. -/
theorem buildPlan_of_recorded {applied : AppliedTable}
    (distinct : ((recorded ++ rest).map MigrationFile.migrationId).Nodup)
    (rows : applied.rows = recorded.map MigrationFile.applied) :
    (buildPlan .clickhouse (recorded ++ rest) applied).ok = true ∧
      (buildPlan .clickhouse (recorded ++ rest) applied).pending = rest := by
  have known : forall file, file ∈ recorded -> applied.find file.migrationId = some file.applied := by
    intro file member
    have listed : file.applied ∈ applied := by
      change file.applied ∈ applied.rows
      rw [rows]
      exact List.mem_map_of_mem member
    exact Table.find_of_mem listed
  have unknown : forall file, file ∈ rest -> applied.find file.migrationId = none := by
    intro file member
    rw [Table.find_eq_none_iff, rows, List.map_map]
    intro listed
    rw [List.map_append] at distinct
    exact (List.nodup_append.mp distinct).2.2 _ listed _ (List.mem_map_of_mem member) rfl
  constructor
  · rw [buildPlan, List.isEmpty_iff, List.filterMap_eq_nil_iff]
    intro file member
    rcases List.mem_append.mp member with before | behind
    · simp [driftOf, known file before, MigrationFile.applied]
    · simp [driftOf, unknown file behind]
  · rw [buildPlan, List.filter_append, List.filter_eq_nil_iff.mpr, List.filter_eq_self.mpr, List.nil_append]
    · intro file member
      rw [unknown file member, Option.isNone_none]
    · intro file member
      simp [known file member]

variable (command read start) in
theorem applyClickHouse_stands (recorded rest : List MigrationFile)
    (distinct : ((recorded ++ rest).map MigrationFile.migrationId).Nodup) (runId : Nat) (dryRun : Bool) :
    Triple (fun outside => Standing command read start recorded rest outside.world)
      (applyClickHouse command read runId dryRun (.ok (recorded ++ rest)))
      (fun _ outside => Stands command read start (recorded ++ rest) outside.world ∧
        (dryRun = false -> Standing command read start (recorded ++ rest) [] outside.world))
      (fun _ outside => Stands command read start (recorded ++ rest) outside.world) := by
  have asks : forall {A : Type} (answer : ClickHouse Schema -> A) {recorded rest : List MigrationFile},
      Triple (fun outside => Standing command read start recorded rest outside.world)
        (ask answer : ClickHouseProgram E Schema A)
        (fun _ outside => Standing command read start recorded rest outside.world)
        (fun _ outside => Stands command read start (recorded ++ rest) outside.world) :=
    fun answer => Triple.weaken (Maintains.ask answer) (fun _ standing => standing) (fun _ _ standing => standing)
      fun _ _ standing => standing.stands
  rw [applyClickHouse]
  refine Triple.bind (asks _) fun _ => ?_
  refine Triple.bind (Triple.weaken ensureRegistry_maintains (fun _ standing => standing) (fun _ _ standing => standing)
    fun _ _ standing => standing.stands) fun _ => ?_
  have reads : Triple (fun outside => Standing command read start recorded rest outside.world)
      (ask ClickHouse.applied : ClickHouseProgram E Schema AppliedTable)
      (fun applied outside => Standing command read start recorded rest outside.world ∧
        applied.rows = recorded.map MigrationFile.applied)
      (fun _ outside => Stands command read start (recorded ++ rest) outside.world) := by
    apply Triple.call
    · intro outside applied world standing _ ran
      cases ran
      exact ⟨standing, standing.rows⟩
    · intro outside error world _ _ ran
      cases ran
    · exact fun outside _ standing _ => standing.stands
    · exact fun outside _ standing _ => standing.stands
  refine Triple.bind reads fun applied => ?_
  rintro outside ⟨standing, rows⟩
  rcases buildPlan_of_recorded distinct rows with ⟨clean, pending⟩
  simp only [clean, pending, Bool.not_true, Bool.false_eq_true, if_false]
  cases dryRun with
  | true => exact ⟨standing.stands, nofun⟩
  | false =>
      refine (?_ : Triple (fun outside => Standing command read start recorded rest outside.world) _ _ _) outside standing
      refine Triple.bind (asks _) fun _ => ?_
      refine Triple.bind (asks _) fun _ => ?_
      have reset : Triple (fun outside => Standing command read start recorded rest outside.world)
          (change fun world => { world with appliedCount := 0 } : ClickHouseProgram E Schema Unit)
          (fun _ outside => Standing command read start recorded rest outside.world)
          (fun _ outside => Stands command read start (recorded ++ rest) outside.world) :=
        Triple.change fun _ standing => standing.of_same rfl rfl rfl
      refine Triple.bind reset fun _ => ?_
      have whole : forall {A : Type} (answer : ClickHouse Schema -> A), Maintains
          (Stands command read start (recorded ++ rest)) (ask answer : ClickHouseProgram E Schema A) :=
        fun answer => Maintains.ask answer
      refine Triple.bind (Triple.handle (applyClickHousePending_stands command read start recorded rest distinct runId)
        fun error => Triple.bind (whole _) fun _ => Triple.throw fun _ stands => stands) fun report => ?_
      have moved := @asks Unit (fun _ => ()) (recorded ++ rest) []
      rw [List.append_nil] at moved
      refine Triple.bind moved fun _ => Triple.pure fun _ standing => ?_
      have stands := standing.stands
      rw [List.append_nil] at stands
      exact ⟨stands, fun _ => standing⟩

end File

/-! ## Histories -/

/-- A run of `apply`, with what becomes of its calls. -/
structure ClickHouseCall (E : Type) where
  runId : Nat
  dryRun : Bool
  fates : List (Fate (ClickHouseError E))

/-- The server before the first migration. -/
def ClickHouse.start (schema : Schema) : ClickHouse Schema where
  schema := schema
  applied := Table.empty
  runs := []
  executed := []
  appliedCount := 0

section Histories

variable (command : Text -> Schema -> Except E Schema) (read : MigrationFile -> Option Text)
variable (files : List MigrationFile)

def clickHouseStep (world : ClickHouse Schema) (call : ClickHouseCall E) : ClickHouse Schema :=
  finalWorld (applyClickHouse command read call.runId call.dryRun (.ok files)) { world := world, fates := call.fates }

theorem stands_after (distinct : (files.map MigrationFile.migrationId).Nodup) (start : Schema)
    (calls : List (ClickHouseCall E)) :
    Stands command read start files (calls.foldl (clickHouseStep command read files) (ClickHouse.start start)) := by
  apply Run.invariant
  · rintro world call ⟨recorded, rest, rfl, standing⟩
    exact Triple.finalWorld (applyClickHouse_stands command read start recorded rest distinct call.runId call.dryRun)
      (fun _ _ stands => stands.1) (fun _ _ stands => stands) standing
  · refine ⟨[], files, rfl, ?_⟩
    refine { rows := rfl, executed := ⟨[], [], Completed.none, Attempted.none, rfl⟩, schema := ?_ }
    exact fun _ => ⟨[], List.nil_prefix, rfl⟩

variable {files} {platform : Platform} {root : Path} {domain : Option Text} {disk : Disk Bytes}

/-- Over every history of runs on the same files, wherever they are stopped, the files
are recorded in their order, and the statements that have taken effect are those of the
recorded files, whole and in their order, each file after attempts that were stopped,
and at the end attempts at the first file that is not recorded. -/
theorem clickhouse_executes_in_order
    (discovered : discoverMigrations platform root .clickhouse domain disk = .ok files) (start : Schema)
    (calls : List (ClickHouseCall E)) :
    let world := calls.foldl (clickHouseStep command read files) (ClickHouse.start start)
    Exists fun recorded => Exists fun rest => files = recorded ++ rest ∧
      world.applied.rows = recorded.map MigrationFile.applied ∧
      Exists fun completed => Exists fun attempts => world.executed = completed ++ attempts ∧
        Completed (recorded.map (loggedOf read)) completed ∧ Attempted (rest.head?.elim [] (loggedOf read)) attempts := by
  intro world
  rcases stands_after command read files (discovered_ids_nodup discovered) start calls with
    ⟨recorded, rest, split, standing⟩
  rcases standing.executed with ⟨completed, attempts, whole, tried, log⟩
  exact ⟨recorded, rest, split, standing.rows, completed, attempts, log, whole, tried⟩

/-- Where every file settles, a history that ends with a run that returns leaves every file
recorded and the schema that the statements of the files lead to when each is executed
once, however many runs were stopped before and wherever. -/
theorem interrupted_runs_resume
    (discovered : discoverMigrations platform root .clickhouse domain disk = .ok files)
    (settles : forall file, file ∈ files -> Settles command (textsOf read file)) (start : Schema)
    (calls : List (ClickHouseCall E)) (last : ClickHouseCall E) (applies : last.dryRun = false)
    (returned : Exists fun report => Exists fun after =>
      applyClickHouse command read last.runId last.dryRun (.ok files)
        { world := calls.foldl (clickHouseStep command read files) (ClickHouse.start start)
          fates := last.fates } = .ok report after) :
    let world := (calls ++ [last]).foldl (clickHouseStep command read files) (ClickHouse.start start)
    world.applied.rows = files.map MigrationFile.applied ∧
      performed command (files.flatMap (textsOf read)) start = some world.schema := by
  intro world
  have distinct := discovered_ids_nodup discovered
  rcases returned with ⟨report, after, returned⟩
  rcases stands_after command read files distinct start calls with ⟨recorded, rest, split, standing⟩
  have ended : world = after.world := by
    change (calls ++ [last]).foldl _ _ = _
    rw [List.foldl_append, List.foldl_cons, List.foldl_nil, clickHouseStep, finalWorld, returned]
  have whole : Standing command read start files [] after.world := by
    subst split
    have stood := applyClickHouse_stands command read start recorded rest distinct last.runId last.dryRun
      { world := calls.foldl (clickHouseStep command read (recorded ++ rest)) (ClickHouse.start start)
        fates := last.fates } standing
    rw [returned] at stood
    exact stood.2 applies
  rw [ended]
  refine ⟨whole.rows, ?_⟩
  rw [← List.append_nil files] at settles
  rcases whole.schema settles with ⟨done, nothing, reached⟩
  obtain rfl := List.prefix_nil.mp nothing
  rw [List.append_nil] at reached
  exact reached

end Histories

/-! ## A file of two tables -/

/-- A server that knows `CREATE TABLE IF NOT EXISTS` only. -/
def createIfAbsent (statement : Text) (tables : List Text) : Except Unit (List Text) :=
  .ok (if statement ∈ tables then tables else tables ++ [statement])

theorem settles_createIfAbsent (body : List Text) : Settles createIfAbsent body := by
  have establishes : forall statement tables after, createIfAbsent statement tables = .ok after -> statement ∈ after := by
    intro statement tables after ran
    cases ran
    split <;> simp_all
  have lasts : forall statement other tables after, createIfAbsent other tables = .ok after ->
      statement ∈ tables -> statement ∈ after := by
    intro statement other tables after ran known
    cases ran
    split <;> simp_all
  refine settles_of_lasting establishes ?_ lasts
  intro statement tables known
  rw [createIfAbsent, if_pos known]

def tablesMigration : MigrationFile where
  engine := .clickhouse
  domain := "auth".toList
  filename := "0001_users.sql".toList
  path := Path.str (postgresRoot ++ [authDomain, usersFilename])
  version := "0001".toList
  migrationId := "clickhouse/auth/0001_users.sql".toList
  checksumSha256 := List.replicate 64 '0'

def twoTables : MigrationFile -> Option Text :=
  fun _ => some "CREATE TABLE a;\nCREATE TABLE b;\n".toList

/-- The connection is lost at the second statement. -/
def lostRun : ClickHouseCall Unit where
  runId := 1
  dryRun := false
  fates := List.replicate 11 .served ++ [.fails (.client ()) false]

def secondRun : ClickHouseCall Unit where
  runId := 2
  dryRun := false
  fates := []

theorem exists_of_returns {Error State A : Type} {ended : EStateM.Result Error State A}
    (returns : (match ended with
      | .ok _ _ => true
      | .error _ _ => false) = true) : Exists fun answer => Exists fun after => ended = .ok answer after := by
  cases ended with
  | ok answer after => exact ⟨answer, after, rfl⟩
  | error error after => cases returns

theorem discovered_tables :
    discoverMigrations ledgerServer.platform postgresRoot .clickhouse none (usersTree []) = .ok [tablesMigration] := by
  decide +kernel

theorem one_file_is_executed_in_order :
    let world := ([lostRun] ++ [secondRun]).foldl (clickHouseStep createIfAbsent twoTables [tablesMigration])
      (ClickHouse.start [])
    world.executed.length = 3 ∧ Exists fun recorded : List MigrationFile => world.applied.rows = recorded.map MigrationFile.applied ∧
      Exists fun completed => Exists fun attempts => world.executed = completed ++ attempts ∧
        Completed (recorded.map (loggedOf twoTables)) completed := by
  rcases clickhouse_executes_in_order createIfAbsent twoTables discovered_tables [] ([lostRun] ++ [secondRun]) with
    ⟨recorded, rest, -, rows, completed, attempts, log, whole, -⟩
  exact ⟨by decide +kernel, recorded, rows, completed, attempts, log, whole⟩

/-- The first statement takes effect twice, and the schema is that of one run. -/
theorem interrupted_runs_resume_two_tables :
    let world := ([lostRun] ++ [secondRun]).foldl (clickHouseStep createIfAbsent twoTables [tablesMigration])
      (ClickHouse.start [])
    world.executed.length = 3 ∧ world.applied.rows = [tablesMigration].map MigrationFile.applied ∧
      performed createIfAbsent ([tablesMigration].flatMap (textsOf twoTables)) [] = some world.schema := by
  have returned : Exists fun report => Exists fun after =>
      applyClickHouse createIfAbsent twoTables secondRun.runId secondRun.dryRun (.ok [tablesMigration])
        { world := [lostRun].foldl (clickHouseStep createIfAbsent twoTables [tablesMigration]) (ClickHouse.start [])
          fates := secondRun.fates } = .ok report after :=
    exists_of_returns (by decide +kernel)
  have resumed := interrupted_runs_resume createIfAbsent twoTables discovered_tables
    (fun file _ => settles_createIfAbsent (textsOf twoTables file)) [] [lostRun] secondRun rfl returned
  exact ⟨by decide +kernel, resumed.1, resumed.2⟩

end Migrations
end ApexQuant
