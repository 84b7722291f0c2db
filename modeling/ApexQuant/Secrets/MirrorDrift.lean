import ApexQuant.Secrets.Cli
import ApexQuant.Secrets.Ledger

namespace ApexQuant
namespace Secrets

open Foundation
open Foundation.Database

/-!
# The mirror of the versions

Every write of the command line adds its version to the database as the active one.
The store revokes the versions before it; the database keeps them as they were.  So
after any sequence of writes the database has the numbers of the store, and all of
them are active.
-/

/-- The database has the versions of the store, and just the current one of every
secret is active. -/
def Mirrored (packages : Packages) (masterSecret : Bytes) (system : SecretsSystem) : Prop :=
  Exists fun payload => Store.load packages masterSecret system.file = .ok payload ∧
    forall name entry, payload.get name = some entry ->
      (forall version, (system.database.versions.get (name, version)).isSome = true <->
        version ∈ entry.versions.map SecretVersion.version) ∧
      forall version, system.database.versions.get (name, version) = some .active <-> version = entry.currentVersion

/-- The system has a ledger in its file, and in its database every number that has
been written under the names, all of them active. -/
structure Tallied (packages : Packages) (masterSecret : Bytes) (names : List Text) (system : SecretsSystem) : Prop where
  stored : Exists fun ledger => Exists fun payload => Store.load packages masterSecret system.file = .ok payload ∧
    Reflects ledger payload ∧ forall name, (ledger name).length = names.count name
  mirrored : forall name version, system.database.versions.get (name, version) =
    if 1 ≤ version ∧ version ≤ names.count name then some .active else none

/-! ## What a tally says -/

section Tally

variable {packages : Packages} {masterSecret : Bytes} {names : List Text} {system : SecretsSystem}

/-- A tally is a mirror as long as no name occurs twice. -/
theorem Tallied.mirrored_iff (tallied : Tallied packages masterSecret names system) :
    Mirrored packages masterSecret system <-> names.Nodup := by
  rcases tallied.stored with ⟨ledger, payload, loads, reflects, lengths⟩
  rw [List.nodup_iff_count_le_one]
  constructor
  · rintro ⟨loaded, loads', mirrored⟩ name
    rw [loads] at loads'
    cases loads'
    by_contra often
    have active : forall version, 1 ≤ version -> version ≤ 2 ->
        system.database.versions.get (name, version) = some .active := by
      intro version positive small
      rw [tallied.mirrored, if_pos ⟨positive, by omega⟩]
    cases found : payload.get name with
    | none =>
        have empty := lengths name
        rw [reflects.absent name found, List.length_nil] at empty
        omega
    | some entry =>
        have first := (mirrored name entry found).2 1
        have second := (mirrored name entry found).2 2
        have one := first.mp (active 1 (by omega) (by omega))
        have two := second.mp (active 2 (by omega) (by omega))
        omega
  · intro single
    refine ⟨payload, loads, ?_⟩
    intro name entry found
    rcases reflects.entries name entry found with ⟨records, written⟩
    have once : names.count name = 1 := by
      have positive := List.length_pos_iff.mpr written
      have small := single name
      rw [lengths] at positive
      omega
    have count : entry.versions.length = 1 := by
      rw [records.length, lengths, once]
    constructor
    · intro version
      rw [tallied.mirrored, once, records.numbered, count]
      split
      · rename_i bounded
        simp only [Option.isSome_some, List.range'_one, List.mem_singleton, true_iff]
        omega
      · rename_i outside
        simp only [Option.isSome_none, Bool.false_eq_true, List.range'_one, List.mem_singleton, false_iff]
        omega
    · intro version
      rw [tallied.mirrored, once, records.current, lengths, once]
      split
      · rename_i bounded
        simp only [true_iff]
        omega
      · rename_i outside
        simp only [reduceCtorEq, false_iff]
        omega

end Tally

/-! ## What a command leaves that succeeds -/

namespace Cli

section Steps

variable {packages : Packages} {masterSecret : Bytes} {arguments : Arguments} {surroundings : Surroundings}
  {before after : SecretsSystem}

theorem loadStore_ok {payload : SecretStorePayload}
    (returned : loadStore packages masterSecret arguments surroundings before = .ok payload after) :
    after = before ∧ Store.load packages masterSecret before.file = .ok payload := by
  unfold loadStore at returned
  split at returned
  · exact absurd returned nofun
  · split at returned
    · rename_i loaded
      cases returned
      exact ⟨rfl, loaded⟩
    · exact absurd returned nofun
    · exact absurd returned nofun
    · exact absurd returned nofun

theorem loadStore_of_load {payload : SecretStorePayload} (keyed : surroundings.keyError = none)
    (loads : Store.load packages masterSecret before.file = .ok payload) :
    loadStore packages masterSecret arguments surroundings before = .ok payload before := by
  simp only [loadStore, keyed, loads]

theorem stripped_ok {text complaint value : Text} (returned : stripped text complaint before = .ok value after) :
    after = before := by
  unfold stripped at returned
  split at returned
  · exact absurd returned nofun
  · cases returned
    rfl

theorem readValue_ok {source : ValueSource} {value : Text}
    (returned : readValue source surroundings before = .ok value after) : after = before := by
  unfold readValue at returned
  cases piped : source.valueStdin with
  | true =>
      rw [piped, if_pos rfl] at returned
      cases read : surroundings.stdin with
      | error message =>
          rw [read] at returned
          exact absurd returned nofun
      | ok text =>
          rw [read] at returned
          exact stripped_ok returned
  | false =>
      rw [piped, if_neg Bool.false_ne_true] at returned
      cases named : source.valueFile with
      | none =>
          rw [named] at returned
          exact absurd returned nofun
      | some path =>
          rw [named] at returned
          by_cases empty : path = []
          · rw [empty] at returned
            exact absurd returned nofun
          · dsimp only at returned
            rw [if_neg empty] at returned
            cases read : surroundings.valueFile with
            | missing =>
                rw [read] at returned
                exact absurd returned nofun
            | unreadable =>
                rw [read] at returned
                exact absurd returned nofun
            | undecodable message =>
                rw [read] at returned
                exact absurd returned nofun
            | content text =>
                rw [read] at returned
                exact stripped_ok returned

theorem orExit_ok {A : Type} {opening : String} {answer : Except SecretStoreError A} {value : A}
    (returned : orExit opening answer before = .ok value after) : after = before ∧ answer = .ok value := by
  cases answer with
  | error error => exact absurd returned nofun
  | ok held =>
      cases returned
      exact ⟨rfl, rfl⟩

theorem saveStore_ok {draws : Draws} {payload : SecretStorePayload} {answer : Unit}
    (returned : saveStore packages masterSecret surroundings draws payload before = .ok answer after) :
    after = { before with file := some (Store.save packages draws.sealDraws masterSecret payload) } := by
  unfold saveStore at returned
  split at returned
  · cases returned
    rfl
  · exact absurd returned nofun

/-- What a triple says about a program on a connection of its own. -/
theorem onDatabase_ok {A : Type} {program : Program PersistenceError SecretsDatabase A} {link : Link}
    {failed : Failure PersistenceError -> Exit} {post : A -> SecretsDatabase -> Prop} {answer : A}
    (triple : Triple (fun database => database = before.database) program post fun _ => True)
    (returned : onDatabase link program failed before = .ok answer after) :
    after.file = before.file ∧ post answer after.database := by
  have ended := triple { store := before.database, link := link } rfl
  unfold onDatabase at returned
  cases ran : program { store := before.database, link := link } with
  | error failure connection =>
      rw [ran] at returned
      exact absurd returned nofun
  | ok value connection =>
      rw [ran] at returned ended
      cases returned
      exact ⟨rfl, ended⟩

theorem insertAudit_versions (event : AuditEvent) (database : SecretsDatabase) :
    (insertAudit event database).2.versions = database.versions := by
  unfold insertAudit
  split
  · rfl
  · split <;> rfl

theorem upsertMetadata_versions (name : Text) (row : MetadataRow) (database : SecretsDatabase) :
    (upsertMetadata name row database).2.versions = database.versions := by
  unfold upsertMetadata
  split
  · rfl
  · split
    · rfl
    · split <;> rfl

theorem upsertVersion_ok {name : Text} {version : Nat} {database : SecretsDatabase} {answer : Unit}
    (accepted : (upsertVersion name version database).1 = .ok answer) :
    (upsertVersion name version database).2.versions = database.versions.set (name, version) .active := by
  unfold upsertVersion at accepted ⊢
  split at accepted
  · exact absurd accepted nofun
  · split at accepted
    · exact absurd accepted nofun
    · rename_i fits positive
      rw [if_neg fits, if_neg positive]

theorem committed_triple {A : Type} {program : Program PersistenceError SecretsDatabase A}
    {pre : SecretsDatabase -> Prop} {post : A -> SecretsDatabase -> Prop}
    (triple : Triple pre program post fun _ => True) : Triple pre (committed program) post fun _ => True := by
  have body : forall start, pre start -> Triple (fun store => store = start) program
      (fun answer after => post answer after) fun _ => True :=
    fun start holds => triple.weaken (fun store same => same ▸ holds) (fun _ _ held => held) fun _ held => held
  exact Triple.transaction body (fun _ _ _ _ holds => ⟨holds, trivial, trivial⟩) fun _ _ _ _ => trivial

theorem persistAuditEvent_triple (event : AuditEvent) (versions : Dictionary (Text × Nat) SecretVersionStatus) :
    Triple (fun database => database.versions = versions) (persistAuditEvent event)
      (fun _ database => database.versions = versions) fun _ => True := by
  apply committed_triple
  apply Triple.statement
  · intro database held _ _
    rw [insertAudit_versions, held]
  · exact fun _ _ => trivial
  · exact fun _ _ => trivial

theorem persistWrite_triple (name : Text) (classification : SecretClassification) (description : Text) (version : Nat)
    (versions : Dictionary (Text × Nat) SecretVersionStatus) :
    Triple (fun database => database.versions = versions) (persistWrite name classification description version)
      (fun _ database => database.versions = versions.set (name, version) .active) fun _ => True := by
  have metadata : Triple (fun database => database.versions = versions)
      (persistSecretMetadata name classification description version)
      (fun _ database => database.versions = versions) fun _ => True := by
    apply committed_triple
    apply Triple.statement
    · intro database held _ _
      rw [upsertMetadata_versions, held]
    · exact fun _ _ => trivial
    · exact fun _ _ => trivial
  apply Triple.bind metadata
  intro _
  apply committed_triple
  apply Triple.query_bind
  · exact fun _ _ => trivial
  · intro row
    cases row with
    | none => exact Triple.throw fun _ _ => trivial
    | some row =>
        apply Triple.statement
        · rintro database ⟨held, -⟩ answer accepted
          rw [upsertVersion_ok accepted, held]
        · exact fun _ _ => trivial
        · exact fun _ _ => trivial

theorem auditOrExit_ok {event : AuditEvent} {answer : Unit}
    (returned : auditOrExit arguments surroundings event before = .ok answer after) :
    after.file = before.file ∧ after.database.versions = before.database.versions := by
  rcases Run.ok_of_bind_run returned with ⟨middle, between, first, second⟩
  have kept : between.file = before.file ∧ between.database.versions = before.database.versions := by
    unfold auditToDatabase at first
    split at first
    · have triple := (persistAuditEvent_triple event before.database.versions).weaken
        (fun database (same : database = before.database) => same ▸ rfl) (fun _ _ held => held) fun _ held => held
      exact onDatabase_ok triple first
    · cases first
      exact ⟨rfl, rfl⟩
  unfold auditToFile at second
  split at second
  · unfold appendAudit at second
    split at second
    · cases second
      exact kept
    · exact absurd second nofun
  · split at second
    · cases second
      exact kept
    · exact absurd second nofun

theorem mirrorWrite_ok {name description : Text} {classification : SecretClassification} {version : Nat} {answer : Unit}
    (mirrors : arguments.usesDatabase = true)
    (returned : mirrorWrite arguments surroundings name classification description version before = .ok answer after) :
    after.file = before.file ∧
      after.database.versions = before.database.versions.set (name, version) .active := by
  unfold mirrorWrite at returned
  rw [if_pos mirrors] at returned
  have triple := (persistWrite_triple name classification description version before.database.versions).weaken
    (fun database (same : database = before.database) => same ▸ rfl) (fun _ _ held => held) fun _ held => held
  exact onDatabase_ok triple returned

end Steps
/-- What a write leaves that exits with zero: one version more in the file, and in
the database. -/
structure Wrote (packages : Packages) (masterSecret : Bytes) (name : Text) (before after : SecretsSystem) : Prop where
  written : Exists fun payload => Exists fun moment => Exists fun value => Exists fun version => Exists fun payload' =>
    Exists fun sealed =>
      Store.load packages masterSecret before.file = .ok payload ∧
        Store.Wrote moment name value payload version payload' ∧
          after.file = some (Store.save packages sealed masterSecret payload') ∧
            after.database.versions = before.database.versions.set (name, version) .active

section Commands

variable {packages : Packages} {masterSecret : Bytes} {arguments : Arguments} {surroundings : Surroundings}
  {draws : Draws} {before after : SecretsSystem} {reply : Reply}

theorem cmdSetSecret_ok {name description : Text} {classification : SecretClassification} {source : ValueSource}
    (mirrors : arguments.usesDatabase = true) (success : reply.exitCode = 0)
    (returned : cmdSetSecret packages masterSecret arguments surroundings draws name classification description source
      before = .ok reply after) : Wrote packages masterSecret name before after := by
  rcases Run.ok_of_bind_run returned with ⟨payload, atLoad, loaded, reading⟩
  rcases loadStore_ok loaded with ⟨rfl, loads⟩
  rcases Run.ok_of_bind_run reading with ⟨value, atRead, read, auditing⟩
  have same := readValue_ok read
  subst same
  rcases Run.ok_of_bind_run auditing with ⟨_, audited, audit, deciding⟩
  rcases auditOrExit_ok audit with ⟨sameFile, sameVersions⟩
  generalize evaluateAccess arguments.subjectPlane classification
    (if (payload.get name).isSome = true then SecretAction.rotate else SecretAction.write) none = evaluation at deciding
  split at deciding
  · cases deciding
    exact absurd success nofun
  · rcases Run.ok_of_bind_run deciding with ⟨⟨⟨created, version⟩, payload'⟩, atWrite, wrote, saving⟩
    rcases orExit_ok wrote with ⟨rfl, stored⟩
    rcases Run.ok_of_bind_run saving with ⟨_, saved, save, mirroring⟩
    have there := saveStore_ok save
    subst there
    rcases Run.ok_of_bind_run mirroring with ⟨_, mirrored, mirror, replying⟩
    rcases mirrorWrite_ok mirrors mirror with ⟨file, versions⟩
    cases replying
    exact ⟨payload, draws.moment, value, version, payload', draws.sealDraws, loads, Store.wrote_of_setSecret stored,
      file, by rw [versions, ← sameVersions]⟩

theorem cmdRotateSecret_ok {name : Text} {source : ValueSource} (mirrors : arguments.usesDatabase = true)
    (success : reply.exitCode = 0)
    (returned : cmdRotateSecret packages masterSecret arguments surroundings draws name source before =
      .ok reply after) : Wrote packages masterSecret name before after := by
  rcases Run.ok_of_bind_run returned with ⟨payload, atLoad, loaded, reading⟩
  rcases loadStore_ok loaded with ⟨rfl, loads⟩
  rcases Run.ok_of_bind_run reading with ⟨value, atRead, read, describing⟩
  have same := readValue_ok read
  subst same
  rcases Run.ok_of_bind_run describing with ⟨metadata, atDescription, described, auditing⟩
  rcases orExit_ok described with ⟨rfl, -⟩
  rcases Run.ok_of_bind_run auditing with ⟨_, audited, audit, deciding⟩
  rcases auditOrExit_ok audit with ⟨sameFile, sameVersions⟩
  split at deciding
  · cases deciding
    exact absurd success nofun
  · rcases Run.ok_of_bind_run deciding with ⟨⟨version, payload'⟩, atWrite, wrote, saving⟩
    rcases orExit_ok wrote with ⟨rfl, stored⟩
    rcases Run.ok_of_bind_run saving with ⟨_, saved, save, mirroring⟩
    have there := saveStore_ok save
    subst there
    rcases Run.ok_of_bind_run mirroring with ⟨_, mirrored, mirror, replying⟩
    rcases mirrorWrite_ok mirrors mirror with ⟨file, versions⟩
    cases replying
    exact ⟨payload, draws.moment, value, version, payload', draws.sealDraws, loads, Store.wrote_of_rotateSecret stored,
      file, by rw [versions, ← sameVersions]⟩

end Commands

/-- The name that a command writes to. -/
def Command.written : Command -> Option Text
  | .setSecret name _ _ _ => some name
  | .rotateSecret name _ => some name
  | .getSecret _ _ => none
  | .listSecrets => none

/-- A write with the database configured. -/
def Issue.Mirrors (issue : Issue) : Prop :=
  issue.command.written.isSome = true ∧ issue.arguments.usesDatabase = true

section Sessions

variable {packages : Packages} {masterSecret : Bytes}

theorem process_ok {issue : Issue} {draws : Draws} {before : SecretsSystem} (mirrors : issue.Mirrors)
    (success : (issue.process packages masterSecret draws before).1.exitCode = 0) :
    Exists fun name => issue.command.written = some name ∧
      Wrote packages masterSecret name before (issue.process packages masterSecret draws before).2 := by
  unfold Issue.process main at success ⊢
  cases ran : handler packages masterSecret issue.arguments issue.surroundings draws issue.command before with
  | error exit after =>
      rw [ran] at success
      cases exit <;> exact absurd success nofun
  | ok reply after =>
      rw [ran] at success
      dsimp only at success ⊢
      cases asked : issue.command with
      | setSecret name classification description source =>
          rw [asked] at ran
          exact ⟨name, rfl, cmdSetSecret_ok mirrors.2 success ran⟩
      | rotateSecret name source =>
          rw [asked] at ran
          exact ⟨name, rfl, cmdRotateSecret_ok mirrors.2 success ran⟩
      | getSecret name reveal =>
          have written := mirrors.1
          rw [asked] at written
          exact absurd written nofun
      | listSecrets =>
          have written := mirrors.1
          rw [asked] at written
          exact absurd written nofun

end Sessions
end Cli

/-! ## The tally of a session -/

section Runs

variable {packages : Packages} {masterSecret : Bytes}

/-- A write that succeeds counts its name once more. -/
theorem Tallied.wrote {names : List Text} {before after : SecretsSystem} {name : Text} (lawful : packages.Lawful)
    (tallied : Tallied packages masterSecret names before) (wrote : Cli.Wrote packages masterSecret name before after) :
    Tallied packages masterSecret (name :: names) after := by
  rcases tallied.stored with ⟨ledger, payload, loads, reflects, lengths⟩
  rcases wrote.written with ⟨loaded, moment, value, version, payload', sealed, loads', stored, file, versions⟩
  rw [loads] at loads'
  cases loads'
  rcases stored.stored with ⟨classification, description, entry, rfl, sameVersions, sameCurrent, numbered⟩
  have records : entry.Records (ledger name ++ [value]) :=
    ((reflects.records_getD name classification description).write moment value).of_eq sameVersions sameCurrent
  have next : version = names.count name + 1 := by
    rw [← numbered, records.current, List.length_append, List.length_singleton, lengths]
  refine ⟨⟨ledger.write name value, payload.set name entry, ?_, reflects.write stored.valid records, ?_⟩, ?_⟩
  · rw [file, Store.load_save lawful]
  · intro other
    rw [Ledger.write, List.count_cons]
    by_cases same : other = name
    · rw [if_pos same, same, List.length_append, List.length_singleton, lengths, beq_self_eq_true, if_pos rfl]
    · rw [if_neg same, lengths, if_neg fun equal => same (eq_of_beq equal).symm, Nat.add_zero]
  · intro other number
    rw [versions, Dictionary.get_set, tallied.mirrored, List.count_cons]
    by_cases same : name = other
    · subst same
      rw [beq_self_eq_true, if_pos rfl, next]
      by_cases latest : number = names.count name + 1
      · rw [latest, if_pos rfl, if_pos ⟨Nat.le_add_left 1 _, Nat.le_refl _⟩]
      · rw [if_neg fun equal => latest (congrArg Prod.snd equal).symm]
        apply if_congr _ rfl rfl
        omega
    · rw [if_neg fun equal => same (congrArg Prod.fst equal), if_neg fun equal => same (eq_of_beq equal), Nat.add_zero]

/-- The names that the commands of a session write to. -/
def writtenNames (issues : List (Cli.Issue × Draws)) : List Text :=
  issues.filterMap fun issued => issued.1.command.written

theorem Tallied.session (lawful : packages.Lawful) {issues : List (Cli.Issue × Draws)} {names : List Text}
    {system : SecretsSystem} (tallied : Tallied packages masterSecret names system)
    (mirrors : forall issued, issued ∈ issues -> issued.1.Mirrors)
    (success : forall outcome, outcome ∈ (Cli.session packages masterSecret issues system).1 -> outcome.exitCode = 0) :
    Tallied packages masterSecret ((writtenNames issues).reverse ++ names)
      (Cli.session packages masterSecret issues system).2 := by
  induction issues generalizing names system with
  | nil => exact tallied
  | cons issued later inductionHypothesis =>
      rcases issued with ⟨issue, draws⟩
      rcases Cli.process_ok (mirrors _ List.mem_cons_self) (success _ List.mem_cons_self) with ⟨name, written, wrote⟩
      have rest := inductionHypothesis (tallied.wrote lawful wrote)
        (fun other member => mirrors other (List.mem_cons_of_mem _ member))
        fun outcome member => success outcome (List.mem_cons_of_mem _ member)
      rw [writtenNames, List.filterMap_cons, written, List.reverse_cons, List.append_assoc, List.singleton_append]
      exact rest

end Runs

/-- A store without secrets, and a database without versions. -/
structure Unwritten (packages : Packages) (masterSecret : Bytes) (system : SecretsSystem) : Prop where
  store : Store.load packages masterSecret system.file = .ok Table.empty
  database : system.database.versions = Table.empty

theorem Unwritten.tallied {packages : Packages} {masterSecret : Bytes} {system : SecretsSystem}
    (unwritten : Unwritten packages masterSecret system) : Tallied packages masterSecret [] system where
  stored := ⟨Ledger.empty, Table.empty, unwritten.store, Reflects.empty, fun _ => rfl⟩
  mirrored := by
    intro name version
    rw [unwritten.database, List.count_nil, if_neg (by omega)]
    rfl

/-- After any sequence of writes that all succeed, the database mirrors the store if
and only if no secret has been written twice. -/
theorem mirrored_iff_written_once (packages : Packages) (lawful : packages.Lawful) (masterSecret : Bytes)
    (issues : List (Cli.Issue × Draws)) (system : SecretsSystem)
    (unwritten : Unwritten packages masterSecret system) (mirrors : forall issued, issued ∈ issues -> issued.1.Mirrors)
    (success : forall outcome, outcome ∈ (Cli.session packages masterSecret issues system).1 -> outcome.exitCode = 0) :
    Mirrored packages masterSecret (Cli.session packages masterSecret issues system).2 <->
      (writtenNames issues).Nodup := by
  have tallied := Tallied.session lawful unwritten.tallied mirrors success
  rw [tallied.mirrored_iff, List.append_nil, List.nodup_reverse]

/-! ## One secret, set and rotated -/

namespace Scenario

/-- A command of an operator, with the database configured. -/
def operatorIssue (command : Cli.Command) : Cli.Issue where
  command := command
  arguments :=
    { storePath := "local.apexsecrets".toList, auditsToFile := false, usesDatabase := true,
      subjectService := "operator".toList, subjectPlane := .control }
  surroundings :=
    { keyError := none, stdin := .ok "alpha".toList, valueFile := .missing, saveWorks := true, auditLink := .steady,
      auditFileFailure := none, mirrorLink := .steady }

def commandDraws : Draws where
  requestId := 1
  occurredAt := moment
  moment := moment
  sealDraws := draws

def stdinSource : ValueSource where
  valueStdin := true
  valueFile := none

def setMain : Cli.Issue :=
  operatorIssue (.setSecret "db/main".toList .database [] stdinSource)

def rotateMain : Cli.Issue :=
  operatorIssue (.rotateSecret "db/main".toList stdinSource)

/-- The payload after the first write of the secret. -/
def onceWritten : SecretStorePayload :=
  Dictionary.set Table.empty "db/main".toList (Store.setEntry moment "alpha".toList .database [] none)

noncomputable def unwrittenSystem : SecretsSystem where
  file := some (Store.save packages draws [] Table.empty)
  auditFile := []
  database := { metadata := Table.empty, versions := Table.empty, audit := [] }

theorem unwrittenSystem_unwritten : Unwritten packages [] unwrittenSystem :=
  ⟨Store.load_save packages_lawful draws [] Table.empty, rfl⟩

/-- The system after that write. -/
noncomputable def onceWrittenSystem : SecretsSystem where
  file := some (Store.save packages draws [] onceWritten)
  auditFile := []
  database :=
    { metadata := Dictionary.set Table.empty "db/main".toList
        { classification := .database, description := [], currentVersion := 1 }
      versions := Dictionary.set Table.empty ("db/main".toList, 1) .active
      audit := [Cli.buildAuditEvent setMain.arguments commandDraws "db/main".toList .write
        (evaluateAccess .control .database .write none)] }

theorem setMain_process :
    setMain.process packages [] commandDraws unwrittenSystem =
      ({ printed := some (.written true "db/main".toList .database 1), exitCode := 0 }, onceWrittenSystem) := by
  have loaded : Cli.loadStore packages [] setMain.arguments setMain.surroundings unwrittenSystem =
      .ok Table.empty unwrittenSystem := Cli.loadStore_of_load rfl unwrittenSystem_unwritten.store
  simp only [Cli.Issue.process, Cli.main]
  rw [show Cli.handler packages [] setMain.arguments setMain.surroundings commandDraws setMain.command =
    Cli.cmdSetSecret packages [] setMain.arguments setMain.surroundings commandDraws "db/main".toList .database []
      stdinSource from rfl, Cli.cmdSetSecret, Run.bind_run_of_ok loaded]
  rfl

theorem rotateMain_succeeds : (rotateMain.process packages [] commandDraws onceWrittenSystem).1.exitCode = 0 := by
  have loaded : Cli.loadStore packages [] rotateMain.arguments rotateMain.surroundings onceWrittenSystem =
      .ok onceWritten onceWrittenSystem :=
    Cli.loadStore_of_load rfl (Store.load_save packages_lawful draws [] onceWritten)
  simp only [Cli.Issue.process, Cli.main]
  rw [show Cli.handler packages [] rotateMain.arguments rotateMain.surroundings commandDraws rotateMain.command =
    Cli.cmdRotateSecret packages [] rotateMain.arguments rotateMain.surroundings commandDraws "db/main".toList
      stdinSource from rfl, Cli.cmdRotateSecret, Run.bind_run_of_ok loaded]
  rfl

/-- The two commands, one after the other. -/
def setThenRotate : List (Cli.Issue × Draws) :=
  [(setMain, commandDraws), (rotateMain, commandDraws)]

theorem setThenRotate_mirrors : forall issued, issued ∈ setThenRotate -> issued.1.Mirrors := by
  intro issued member
  rcases List.mem_cons.mp member with rfl | later
  · exact ⟨rfl, rfl⟩
  · cases List.mem_singleton.mp later
    exact ⟨rfl, rfl⟩

theorem setThenRotate_succeeds :
    forall outcome, outcome ∈ (Cli.session packages [] setThenRotate unwrittenSystem).1 -> outcome.exitCode = 0 := by
  intro outcome member
  unfold setThenRotate at member
  simp only [Cli.session, setMain_process] at member
  rcases List.mem_cons.mp member with rfl | later
  · rfl
  · cases List.mem_singleton.mp later
    exact rotateMain_succeeds

end Scenario

/-- One write mirrors. -/
theorem first_write_is_mirrored :
    Mirrored Scenario.packages []
      (Cli.session Scenario.packages [] [(Scenario.setMain, Scenario.commandDraws)] Scenario.unwrittenSystem).2 := by
  refine (mirrored_iff_written_once Scenario.packages Scenario.packages_lawful []
    [(Scenario.setMain, Scenario.commandDraws)] Scenario.unwrittenSystem Scenario.unwrittenSystem_unwritten ?_ ?_).mpr
      (List.nodup_singleton _)
  · intro issued member
    cases List.mem_singleton.mp member
    exact ⟨rfl, rfl⟩
  · intro outcome member
    cases List.mem_singleton.mp member
    rw [Scenario.setMain_process]

/-- A secret is set and rotated, both with exit code zero, and the database does not
mirror the store: it has both versions as active. -/
theorem rotation_leaves_two_active :
    let ended := Cli.session Scenario.packages [] Scenario.setThenRotate Scenario.unwrittenSystem
    (forall outcome, outcome ∈ ended.1 -> outcome.exitCode = 0) ∧
      ended.2.database.versions.get ("db/main".toList, 1) = some .active ∧
        ended.2.database.versions.get ("db/main".toList, 2) = some .active ∧
          ¬ Mirrored Scenario.packages [] ended.2 := by
  have tallied := Tallied.session Scenario.packages_lawful Scenario.unwrittenSystem_unwritten.tallied
    Scenario.setThenRotate_mirrors Scenario.setThenRotate_succeeds
  refine ⟨Scenario.setThenRotate_succeeds, ?_, ?_, ?_⟩
  · exact tallied.mirrored _ 1
  · exact tallied.mirrored _ 2
  · rw [tallied.mirrored_iff]
    decide

end Secrets
end ApexQuant
