import ApexQuant.Foundation.AppendOnly
import ApexQuant.Foundation.Database
import ApexQuant.Migrations.History

namespace ApexQuant
namespace Migrations

open Foundation

/-!
# The ledger of the migrations

`baseline` records the pending migrations without running them.  A history is any sequence
of baselines, of applies and of changes to the directory, which may change, move or remove
files that were recorded.  The table only grows, so what `verify` reports goes back to the
one operation that recorded a migration and to the file that it found.
-/

variable {E Data : Type}

/-! ## `baseline` -/

/-- The `INSERT` for one file, a transaction of its own. -/
def recordBaselined (file : MigrationFile) : Database.Program (ServerError E) (MigrationStore E Data) PUnit :=
  Database.statement fun store =>
    match recordApplied file store with
    | .ok after => (.ok ⟨⟩, after)
    | .error error => (.error error, store)

/-- The part of `baseline` that holds a connection: `ensure_registry`, `acquire_lock`, the
loop and `release_lock`. -/
def baselineFiles (pending : List MigrationFile) : Database.Program (ServerError E) (MigrationStore E Data) PUnit := do
  Database.query fun _ => ⟨⟩
  Database.query fun _ => ⟨⟩
  forM pending recordBaselined
  Database.query fun _ => ⟨⟩

inductive BaselineError (E : Type) where
  | notConfirmed
  | discovery (error : DiscoveryError)
  | failed (failure : Database.Failure (ServerError E))
  deriving DecidableEq

variable (server : Server E Data) (root : Path)

/-- `PostgresMigrator.baseline` -/
def Server.baseline (domain : Option Text) (confirm : Bool) (link : Database.Link) (world : World E Data) :
    Except (BaselineError E) MigrationRunReport × World E Data :=
  if !confirm then (.error .notConfirmed, world)
  else
    match discoverMigrations server.platform root .postgres domain world.disk with
    | .error error => (.error (.discovery error), world)
    | .ok files =>
        let pending := (buildPlan .postgres files world.store.applied).pending
        match baselineFiles pending { store := world.store, link := link } with
        | .error failure after => (.error (.failed failure), { world with store := after.store })
        | .ok _ after =>
            (.ok
              { mode := "baseline".toList
                ok := true
                planned := pending.length
                applied := pending.length
                skipped := 0
                failed := 0 }, { world with store := after.store })

/-- What happens between two looks at the ledger. -/
inductive LedgerOperation where
  | replaceFiles (disk : Disk Bytes)
  | apply (runId : Nat) (domain : Option Text) (dryRun : Bool)
  | baseline (domain : Option Text) (confirm : Bool) (link : Database.Link)

def Server.ledgerStep (world : World E Data) : LedgerOperation -> World E Data
  | .replaceFiles disk => { world with disk := disk }
  | .apply runId domain dryRun => (server.apply root runId domain dryRun world).2
  | .baseline domain confirm link => (server.baseline root domain confirm link world).2

/-- The operation finds the file on the disk and records it, and no other did before. -/
def Server.Records (world : World E Data) (operation : LedgerOperation) (file : MigrationFile) : Prop :=
  (Exists fun domain => Exists fun files =>
    discoverMigrations server.platform root .postgres domain world.disk = .ok files ∧ file ∈ files) ∧
    world.store.applied.find file.migrationId = none ∧
    (server.ledgerStep root world operation).store.applied.find file.migrationId = some file.applied

/-! ## What `baseline` does -/

/-- The store with some files recorded. -/
def MigrationStore.recorded (store : MigrationStore E Data) (files : List MigrationFile) : MigrationStore E Data :=
  { store with applied := recordAll store.applied files }

theorem recorded_concat (store : MigrationStore E Data) (done : List MigrationFile) (file : MigrationFile) :
    recordApplied (E := E) file (store.recorded done) =
      if recordable file then .ok (store.recorded (done ++ [file])) else .error .checkViolation := by
  unfold recordApplied MigrationStore.recorded
  rw [recordAll_concat]

theorem recordBaselined_triple (store : MigrationStore E Data) (done : List MigrationFile) (file : MigrationFile) :
    Database.Triple (fun current => current = store.recorded done) (recordBaselined (E := E) file)
      (fun _ current => current = store.recorded (done ++ [file]))
      (fun current => current = store.recorded done ∨ current = store.recorded (done ++ [file])) := by
  refine Database.Triple.statement ?_ (fun _ => Or.inl) ?_
  · rintro _ rfl answer answered
    rw [recorded_concat] at answered ⊢
    split at answered
    · rename_i after ran
      split at ran
      · cases ran
        rfl
      · cases ran
    · cases answered
  · rintro _ rfl
    rw [recorded_concat]
    split
    · rename_i after ran
      split at ran
      · cases ran
        exact Or.inr rfl
      · cases ran
    · exact Or.inl rfl

/-- The loop records the files from the first on, all of them when it ends. -/
theorem baselineLoop_triple (store : MigrationStore E Data) (pending done : List MigrationFile) :
    Database.Triple (fun current => current = store.recorded done) (forM pending (recordBaselined (E := E)))
      (fun _ current => current = store.recorded (done ++ pending))
      (fun current => Exists fun completed => completed <+: pending ∧ current = store.recorded (done ++ completed)) := by
  induction pending generalizing done with
  | nil =>
      refine Database.Triple.pure fun current holds => ?_
      rw [List.append_nil]
      exact holds
  | cons file pending ih =>
      rw [List.forM_cons]
      have one : Database.Triple (fun current => current = store.recorded done) (recordBaselined (E := E) file)
          (fun _ current => current = store.recorded (done ++ [file]))
          (fun current => Exists fun completed => completed <+: file :: pending ∧
            current = store.recorded (done ++ completed)) := by
        refine (recordBaselined_triple store done file).weaken (fun _ holds => holds) (fun _ _ holds => holds) ?_
        rintro current (none | first)
        · exact ⟨[], List.nil_prefix, by simpa using none⟩
        · exact ⟨[file], by simp, first⟩
      refine one.bind fun _ => ?_
      refine (ih (done ++ [file])).weaken (fun _ holds => holds) (fun _ current holds => by simpa using holds) ?_
      rintro current ⟨completed, part, recorded⟩
      exact ⟨file :: completed, List.cons_prefix_cons.mpr ⟨rfl, part⟩, by simpa using recorded⟩

theorem baselineFiles_triple (store : MigrationStore E Data) (pending : List MigrationFile) :
    Database.Triple (fun current => current = store) (baselineFiles (E := E) pending)
      (fun _ current => current = store.recorded pending)
      (fun current => Exists fun completed => completed <+: pending ∧ current = store.recorded completed) := by
  have nothing (current : MigrationStore E Data) (holds : current = store) :
      Exists fun completed => completed <+: pending ∧ current = store.recorded completed :=
    ⟨[], List.nil_prefix, holds⟩
  unfold baselineFiles
  refine Database.Triple.query_bind nothing fun _ => ?_
  refine Database.Triple.query_bind (fun current holds => nothing current holds.1) fun _ => ?_
  refine Database.Triple.bind ((baselineLoop_triple store pending []).weaken (fun _ holds => holds.1.1)
    (fun _ _ holds => holds) fun _ holds => holds) fun _ => ?_
  exact Database.Triple.query (fun _ holds => holds) fun current holds => ⟨pending, List.prefix_refl _, holds⟩

variable {server root} {world : World E Data}

/-- A baseline records the pending files of its plan from the first on, all of them when it
returns, and touches neither the data nor the runs. -/
theorem Server.baseline_records (server : Server E Data) (root : Path) (domain : Option Text) (confirm : Bool)
    (link : Database.Link) (world : World E Data) :
    ((server.baseline root domain confirm link world).2 = world ∧
        forall report, (server.baseline root domain confirm link world).1 ≠ .ok report) ∨
      Exists fun files => Exists fun completed => confirm = true ∧
        discoverMigrations server.platform root .postgres domain world.disk = .ok files ∧
        completed <+: unrecorded world.store.applied files ∧
        (server.baseline root domain confirm link world).2 =
          { world with store := world.store.recorded completed } ∧
        forall report, (server.baseline root domain confirm link world).1 = .ok report ->
          completed = unrecorded world.store.applied files := by
  let withStore (store : MigrationStore E Data) : World E Data := { world with store := store }
  unfold Server.baseline
  cases confirm with
  | false => exact Or.inl ⟨rfl, nofun⟩
  | true =>
      cases discovered : discoverMigrations server.platform root .postgres domain world.disk with
      | error error => exact Or.inl ⟨rfl, nofun⟩
      | ok files =>
          right
          have ended := baselineFiles_triple world.store (unrecorded world.store.applied files)
            { store := world.store, link := link } rfl
          change Exists fun files' => _
          dsimp only [Bool.not_true, Bool.false_eq_true, if_false]
          unfold unrecorded at ended
          unfold buildPlan
          dsimp only
          cases ran : baselineFiles (files.filter fun file => (world.store.applied.find file.migrationId).isNone)
              { store := world.store, link := link } with
          | error failure after =>
              rw [ran] at ended
              rcases ended with ⟨completed, part, recorded⟩
              exact ⟨files, completed, rfl, rfl, part, congrArg withStore recorded, nofun⟩
          | ok answer after =>
              rw [ran] at ended
              exact ⟨files, _, rfl, rfl, List.prefix_refl _, congrArg withStore ended, fun _ _ => rfl⟩

/-! ## The table only grows -/

/-- An operation adds at the end of the table files that it found and that were not there. -/
theorem ledgerStep_rows (operation : LedgerOperation) :
    (server.ledgerStep root world operation).store.applied.rows = world.store.applied.rows ∨
      Exists fun domain => Exists fun files => Exists fun completed =>
        discoverMigrations server.platform root .postgres domain world.disk = .ok files ∧
          completed <+: unrecorded world.store.applied files ∧
          (server.ledgerStep root world operation).store.applied.rows =
            world.store.applied.rows ++ completed.map MigrationFile.applied := by
  cases operation with
  | replaceFiles disk => exact Or.inl rfl
  | apply runId domain dryRun =>
      rcases (server.apply_records root runId domain dryRun world).2 with
        ⟨same, -⟩ | ⟨files, completed, discovered, -, part, recorded, -⟩
      · exact Or.inl (congrArg Table.rows same)
      · exact Or.inr ⟨domain, files, completed, discovered, part,
          (congrArg Table.rows recorded).trans (rows_of_recorded discovered part)⟩
  | baseline domain confirm link =>
      rcases server.baseline_records root domain confirm link world with
        ⟨same, -⟩ | ⟨files, completed, -, discovered, part, recorded, -⟩
      · exact Or.inl (congrArg (fun after => after.store.applied.rows) same)
      · exact Or.inr ⟨domain, files, completed, discovered, part,
          (congrArg (fun after => after.store.applied.rows) recorded).trans (rows_of_recorded discovered part)⟩

theorem find_ledgerStep {operation : LedgerOperation} {migrationId : Text} {row : AppliedMigration}
    (found : world.store.applied.find migrationId = some row) :
    (server.ledgerStep root world operation).store.applied.find migrationId = some row := by
  refine Table.find_of_prefix ?_ found
  rcases ledgerStep_rows operation with same | ⟨_, _, completed, -, -, rows⟩
  · rw [same]
  · rw [rows]
    exact List.prefix_append _ _

/-- A row stays as it is for ever. -/
theorem find_ledgerRun {migrationId : Text} {row : AppliedMigration}
    (found : world.store.applied.find migrationId = some row) (operations : List LedgerOperation) :
    (operations.foldl (server.ledgerStep root) world).store.applied.find migrationId = some row :=
  AppendOnly.keeps_run (fun world : World E Data => world.store.applied.find migrationId = some row)
    (fun _ _ => find_ledgerStep) found operations

/-- Some operation of the history recorded the file. -/
def Server.RecordedIn (server : Server E Data) (root : Path) (first : World E Data) (operations : List LedgerOperation)
    (file : MigrationFile) : Prop :=
  Exists fun before => Exists fun operation => Exists fun after => operations = before ++ operation :: after ∧
    server.Records root (before.foldl (server.ledgerStep root) first) operation file

/-- The row of a migration shows the file that was recorded. -/
theorem find_of_recordedIn {operations : List LedgerOperation} {file : MigrationFile}
    (recorded : server.RecordedIn root world operations file) :
    (operations.foldl (server.ledgerStep root) world).store.applied.find file.migrationId = some file.applied := by
  rcases recorded with ⟨before, operation, after, rfl, -, -, found⟩
  rw [List.foldl_append, List.foldl_cons]
  exact find_ledgerRun found after

/-- A migration with a row was recorded by one of the operations. -/
theorem exists_recordedIn {operations : List LedgerOperation} {migrationId : Text} {row : AppliedMigration}
    (absent : world.store.applied.find migrationId = none)
    (found : (operations.foldl (server.ledgerStep root) world).store.applied.find migrationId = some row) :
    Exists fun file => server.RecordedIn root world operations file ∧ file.migrationId = migrationId ∧
      file.applied = row := by
  have listed : ((operations.foldl (server.ledgerStep root) world).store.applied.find migrationId).isSome = true := by
    rw [found]
    rfl
  have unlisted : ¬(world.store.applied.find migrationId).isSome = true := by
    rw [absent]
    exact Bool.false_ne_true
  rcases AppendOnly.exists_origin (fun world : World E Data => (world.store.applied.find migrationId).isSome = true)
      unlisted listed with ⟨before, operation, after, rfl, missing, present⟩
  rw [Bool.not_eq_true, Option.isSome_eq_false_iff, Option.isNone_iff_eq_none] at missing
  rcases Option.isSome_iff_exists.mp present with ⟨written, found'⟩
  have same : written = row := by
    have later : (after.foldl (server.ledgerStep root) _).store.applied.find migrationId = some written :=
      find_ledgerRun found' after
    rw [List.foldl_append, List.foldl_cons] at found
    rw [found] at later
    exact (Option.some.inj later).symm
  subst same
  rcases @ledgerStep_rows E Data server root _ operation with
    unchanged | ⟨domain, files, completed, discovered, part, rows⟩
  · have old : (before.foldl (server.ledgerStep root) world).store.applied.find migrationId = some written := by
      refine Table.find_of_prefix ?_ found'
      rw [unchanged]
    rw [missing] at old
    cases old
  · rcases List.mem_map.mp (Table.mem_of_find_append rows missing found') with ⟨file, member, rfl⟩
    have named : file.migrationId = migrationId := (Table.mem_of_find found').2
    subst named
    have listed : file ∈ files := (mem_unrecorded.mp (part.subset member)).1
    exact ⟨file, ⟨before, operation, after, rfl, ⟨domain, files, discovered, listed⟩, missing, found'⟩, rfl, rfl⟩

/-! ## What `verify` reports -/

/-- The recorded files of a history are those whose rows the table has. -/
theorem exists_recordedIn_iff {operations : List LedgerOperation} {migrationId : Text}
    (absent : world.store.applied.find migrationId = none) (Holds : Text -> Prop) :
    (Exists fun recorded => server.RecordedIn root world operations recorded ∧ recorded.migrationId = migrationId ∧
        Holds recorded.checksumSha256) <->
      Exists fun row => (operations.foldl (server.ledgerStep root) world).store.applied.find migrationId = some row ∧
        Holds row.checksumSha256 := by
  constructor
  · rintro ⟨recorded, recordedIn, rfl, holds⟩
    exact ⟨recorded.applied, find_of_recordedIn recordedIn, holds⟩
  · rintro ⟨row, found, holds⟩
    rcases exists_recordedIn absent found with ⟨recorded, recordedIn, named, rfl⟩
    exact ⟨recorded, recordedIn, named, holds⟩

theorem driftOf_isSome_iff {applied : AppliedTable} {file : MigrationFile} :
    (driftOf applied file).isSome = true <->
      Exists fun row => applied.find file.migrationId = some row ∧ row.checksumSha256 ≠ file.checksumSha256 := by
  unfold driftOf
  cases applied.find file.migrationId with
  | none => simp
  | some row => by_cases same : row.checksumSha256 = file.checksumSha256 <;> simp [same]

/-- Over every history of applies, baselines and changes to the directory, `verify` accepts
the directory when each of its files was recorded with the checksum that it has now.  It
counts a failure when one was recorded with another, whatever became of the file since, and
plans something when one was never recorded. -/
theorem verify_history (server : Server E Data) (root : Path) (disk : Disk Bytes) (data : Data)
    (operations : List LedgerOperation) (domain : Option Text) (report : MigrationRunReport)
    (returned : server.verify root domain (operations.foldl (server.ledgerStep root) (start disk data)) = .ok report) :
    Exists fun files =>
      discoverMigrations server.platform root .postgres domain
          (operations.foldl (server.ledgerStep root) (start disk data)).disk = .ok files ∧
        (report.ok = true <-> forall file, file ∈ files -> Exists fun recorded =>
          server.RecordedIn root (start disk data) operations recorded ∧ recorded.migrationId = file.migrationId ∧
            recorded.checksumSha256 = file.checksumSha256) ∧
        (0 < report.failed <-> Exists fun file => file ∈ files ∧ Exists fun recorded =>
          server.RecordedIn root (start disk data) operations recorded ∧ recorded.migrationId = file.migrationId ∧
            recorded.checksumSha256 ≠ file.checksumSha256) ∧
        (0 < report.planned <-> Exists fun file => file ∈ files ∧ forall recorded,
          server.RecordedIn root (start disk data) operations recorded -> recorded.migrationId ≠ file.migrationId) := by
  have recorded_iff (file : MigrationFile) (Holds : Text -> Prop) :=
    @exists_recordedIn_iff E Data server root (start disk data) operations file.migrationId rfl Holds
  generalize operations.foldl (server.ledgerStep root) (start disk data) = reached at returned recorded_iff
  unfold Server.verify at returned
  cases discovered : discoverMigrations server.platform root .postgres domain reached.disk with
  | error error =>
      rw [discovered] at returned
      cases returned
  | ok files =>
      rw [discovered] at returned
      cases returned
      -- A file is clean when its row has its checksum, and drifts when the row has another.
      have clean : (buildPlan .postgres files reached.store.applied).ok = true <->
          forall file, file ∈ files -> driftOf reached.store.applied file = none := by
        simp [buildPlan]
      have nothing : (buildPlan .postgres files reached.store.applied).pending.isEmpty = true <->
          forall file, file ∈ files -> (reached.store.applied.find file.migrationId).isSome = true := by
        simp [buildPlan, Option.isSome_iff_ne_none]
      refine ⟨files, rfl, ?_, ?_, ?_⟩
      · rw [Bool.and_eq_true, clean, nothing, ← forall₂_and]
        refine forall₂_congr fun file member => ?_
        rw [recorded_iff file fun checksum => checksum = file.checksumSha256]
        unfold driftOf
        cases reached.store.applied.find file.migrationId with
        | none => simp
        | some row => by_cases same : row.checksumSha256 = file.checksumSha256 <;> simp [same]
      · have counted : 0 < (buildPlan .postgres files reached.store.applied).drift.length <->
            Exists fun file => file ∈ files ∧ (driftOf reached.store.applied file).isSome = true := by
          simp [buildPlan, List.length_pos_iff, Option.isSome_iff_ne_none]
        rw [counted]
        refine exists_congr fun file => and_congr_right fun member => ?_
        rw [recorded_iff file fun checksum => checksum ≠ file.checksumSha256, driftOf_isSome_iff]
      · have counted : 0 < (buildPlan .postgres files reached.store.applied).pending.length <->
            Exists fun file => file ∈ files ∧ reached.store.applied.find file.migrationId = none := by
          simp [buildPlan, List.length_pos_iff]
        rw [counted]
        refine exists_congr fun file => and_congr_right fun member => ?_
        have known := recorded_iff file fun _ => True
        constructor
        · intro missing recorded recordedIn named
          rcases known.mp ⟨recorded, recordedIn, named, trivial⟩ with ⟨row, found, -⟩
          rw [missing] at found
          cases found
        · intro never
          cases found : reached.store.applied.find file.migrationId with
          | none => rfl
          | some row =>
              rcases known.mpr ⟨row, found, trivial⟩ with ⟨recorded, recordedIn, named, -⟩
              exact absurd named (never recorded recordedIn)

/-- A baseline that returned leaves the data and the runs alone, and whatever happens later,
none of the files that it found is pending again: no apply ever runs it. -/
theorem baselined_never_pending (server : Server E Data) (root : Path) (domain : Option Text) (link : Database.Link)
    (world after : World E Data) (report : MigrationRunReport) (files : List MigrationFile)
    (discovered : discoverMigrations server.platform root .postgres domain world.disk = .ok files)
    (returned : server.baseline root domain true link world = (.ok report, after)) :
    after.store.data = world.store.data ∧ after.store.runs = world.store.runs ∧
      forall (operations : List LedgerOperation) (file : MigrationFile), file ∈ files -> forall domain' files',
        discoverMigrations server.platform root .postgres domain'
            (operations.foldl (server.ledgerStep root) after).disk = .ok files' ->
          forall file', file' ∈ files' -> file'.migrationId = file.migrationId ->
            file' ∉ (buildPlan .postgres files' (operations.foldl (server.ledgerStep root) after).store.applied).pending := by
  rcases server.baseline_records root domain true link world with
    ⟨-, refused⟩ | ⟨files', completed, -, discovered', -, recorded, finished⟩
  · rw [returned] at refused
    exact absurd rfl (refused report)
  · rw [discovered] at discovered'
    cases discovered'
    rw [returned] at recorded finished
    dsimp only at recorded
    rcases finished report rfl with rfl
    subst recorded
    refine ⟨rfl, rfl, ?_⟩
    intro operations file member domain' files' discovered' file' member' same pending
    have known : (world.store.recorded (unrecorded world.store.applied files)).applied.find file.migrationId ≠ none := by
      rw [Ne, Table.find_eq_none_iff, not_not]
      change file.migrationId ∈ (recordAll world.store.applied (unrecorded world.store.applied files)).rows.map _
      rw [rows_of_recorded discovered (List.prefix_refl _), List.map_append, List.mem_append]
      by_cases old : file.migrationId ∈ world.store.applied.rows.map AppliedMigration.migrationId
      · exact Or.inl old
      · exact Or.inr (List.mem_map.mpr
          ⟨file.applied, List.mem_map_of_mem (mem_unrecorded.mpr ⟨member, old⟩), rfl⟩)
    rcases Option.ne_none_iff_exists'.mp known with ⟨row, found⟩
    have later : (operations.foldl (server.ledgerStep root) _).store.applied.find file.migrationId = some row :=
      @find_ledgerRun E Data server root
        { world with store := world.store.recorded (unrecorded world.store.applied files) } _ _ found operations
    rw [← same] at later
    have missing := (List.mem_filter.mp pending).2
    rw [later] at missing
    cases missing

/-! ## A file that changes after its baseline -/

/-- A server whose checksums tell an empty file from others. -/
def ledgerServer : Server Unit Unit where
  platform := { plainPlatform with sha256 := fun content => List.replicate 64 (if content.isEmpty then '0' else '1') }
  consistent := idleServer.consistent
  compile := idleServer.compile

def authDomain : Name where
  text := "auth".toList
  plain := by decide

def usersFilename : Name where
  text := "0001_users.sql".toList
  plain := by decide

/-- A directory with one migration. -/
def usersTree (content : Bytes) : Disk Bytes where
  rows :=
    emptyDisk.rows ++
      [{ path := postgresRoot ++ [authDomain], node := .directory },
        { path := postgresRoot ++ [authDomain, usersFilename], node := .file content }]
  unique := by
    change (emptyDisk.rows.map Entry.path ++
      [postgresRoot ++ [authDomain], postgresRoot ++ [authDomain, usersFilename]]).Nodup
    decide

/-- The file is recorded as it is and then changed. -/
def changedAfterBaseline : List LedgerOperation :=
  [.replaceFiles (usersTree []), .baseline none true .steady, .replaceFiles (usersTree [65])]

theorem verify_of_changed :
    Exists fun files =>
      discoverMigrations ledgerServer.platform postgresRoot .postgres none
          (changedAfterBaseline.foldl (ledgerServer.ledgerStep postgresRoot) (start emptyDisk ())).disk = .ok files ∧
        (false = true <-> forall file, file ∈ files -> Exists fun recorded =>
          ledgerServer.RecordedIn postgresRoot (start emptyDisk ()) changedAfterBaseline recorded ∧
            recorded.migrationId = file.migrationId ∧ recorded.checksumSha256 = file.checksumSha256) ∧
        (0 < 1 <-> Exists fun file => file ∈ files ∧ Exists fun recorded =>
          ledgerServer.RecordedIn postgresRoot (start emptyDisk ()) changedAfterBaseline recorded ∧
            recorded.migrationId = file.migrationId ∧ recorded.checksumSha256 ≠ file.checksumSha256) ∧
        (0 < 0 <-> Exists fun file => file ∈ files ∧ forall recorded,
          ledgerServer.RecordedIn postgresRoot (start emptyDisk ()) changedAfterBaseline recorded ->
            recorded.migrationId ≠ file.migrationId) :=
  verify_history ledgerServer postgresRoot emptyDisk () changedAfterBaseline none
    { mode := "verify".toList, ok := false, planned := 0, applied := 0, skipped := 0, failed := 1 } (by decide +kernel)

/-- The file as it is found with some contents. -/
def usersMigration (checksum : Char) : MigrationFile where
  engine := .postgres
  domain := "auth".toList
  filename := "0001_users.sql".toList
  path := "/migrations/postgres/auth/0001_users.sql".toList
  version := "0001".toList
  migrationId := "postgres/auth/0001_users.sql".toList
  checksumSha256 := List.replicate 64 checksum

theorem users_never_pending :
    (ledgerServer.baseline postgresRoot none true .steady (start (usersTree []) ())).2.store.runs =
        (start (usersTree []) ()).store.runs ∧
      forall (operations : List LedgerOperation) (file : MigrationFile), file ∈ [usersMigration '0'] ->
        forall domain' files',
          discoverMigrations ledgerServer.platform postgresRoot .postgres domain'
              (operations.foldl (ledgerServer.ledgerStep postgresRoot)
                (ledgerServer.baseline postgresRoot none true .steady (start (usersTree []) ())).2).disk = .ok files' ->
            forall file', file' ∈ files' -> file'.migrationId = file.migrationId ->
              file' ∉ (buildPlan .postgres files' (operations.foldl (ledgerServer.ledgerStep postgresRoot)
                (ledgerServer.baseline postgresRoot none true .steady (start (usersTree []) ())).2).store.applied).pending := by
  have found : discoverMigrations ledgerServer.platform postgresRoot .postgres none (usersTree []) =
      .ok [usersMigration '0'] := by decide +kernel
  have reported : (ledgerServer.baseline postgresRoot none true .steady (start (usersTree []) ())).1 =
      .ok { mode := "baseline".toList, ok := true, planned := 1, applied := 1, skipped := 0, failed := 0 } := by
    decide +kernel
  generalize ran : ledgerServer.baseline postgresRoot none true .steady (start (usersTree []) ()) = answer at *
  rcases answer with ⟨report, after⟩
  cases reported
  exact (baselined_never_pending ledgerServer postgresRoot none .steady _ _ _ _ found ran).2

end Migrations
end ApexQuant
