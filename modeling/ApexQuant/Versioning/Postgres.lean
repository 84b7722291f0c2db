import ApexQuant.Foundation.Database
import ApexQuant.Versioning.History
import ApexQuant.Versioning.Stores

namespace ApexQuant
namespace Versioning

open Foundation

/-!
# Service versions in PostgreSQL

`PostgresRepository` over the tables of `0001_service_versioning.sql`.  A method is one
statement, `set_dependencies` one transaction; a statement whose row breaks a
constraint is refused, and the connection can be lost at any statement.

As long as no statement is refused or lost, the service over these tables answers as
the service over the repository in memory does.
-/

/-! ## The tables -/

/-- A row of `service_version_dependencies`. -/
structure DependencyRow where
  versionId : Text
  dependsOnServiceName : Text
  minVersion : Text

/-- `UNIQUE (version_id, depends_on_service_name)`. -/
def DependencyRow.key (row : DependencyRow) : Text × Text :=
  (row.versionId, row.dependsOnServiceName)

/-- What `get_dependencies` makes of a row. -/
def DependencyRow.record (row : DependencyRow) : DependencyRecord where
  serviceName := row.dependsOnServiceName
  minVersion := row.minVersion

/-- `UNIQUE (service_name, version)`. -/
def VersionRecord.key (record : VersionRecord) : Text × Text :=
  (record.serviceName, record.version)

structure PostgresRepository where
  services : Table ServiceRecord.serviceName
  versions : Table VersionRecord.key
  dependencies : Table DependencyRow.key
  events : List EventRecord
  /-- How many identifiers `gen_random_uuid` has made for versions and events; they are
  taken to be those that `uuid4` draws in memory. -/
  drawn : Nat

namespace PostgresRepository

def empty : PostgresRepository where
  services := Table.empty
  versions := Table.empty
  dependencies := Table.empty
  events := []
  drawn := 0

/-- The dependencies of a version, in the order of their rows. -/
def dependenciesOf (repository : PostgresRepository) (versionId : Text) : List DependencyRecord :=
  (repository.dependencies.rows.filter fun row => decide (row.versionId = versionId)).map DependencyRow.record

/-- A foreign key to `service_versions`. -/
def hasVersion (repository : PostgresRepository) (versionId : Text) : Bool :=
  repository.versions.rows.any fun record => decide (record.versionId = versionId)

/-- A foreign key to `services`. -/
def hasService (repository : PostgresRepository) (serviceName : Text) : Bool :=
  (repository.services.find serviceName).isSome

end PostgresRepository

/-- What the tables leave to the server. -/
structure PostgresServer where
  interpreter : Interpreter
  /-- How a JSON document is kept in a column of type JSONB, if it can be. -/
  jsonb : Text -> Option Text
  /-- The entry of an index has room for the text of a version. -/
  indexed : Text -> Bool
  /-- The order of texts in its collation. -/
  collates : Text -> Text -> Bool

/-- The largest value of type INTEGER. -/
def INTEGER_MAX : Nat := 2147483647

/-- The row that `upsert_service` proposes. -/
def ServiceRecord.proposed (now : Int) (serviceName plane description : Text) : ServiceRecord where
  serviceName := serviceName
  plane := plane
  description := description
  createdAt := now
  updatedAt := now

/-- What `upsert_service` makes of a row that is there. -/
def ServiceRecord.describe (now : Int) (plane description : Text) (record : ServiceRecord) : ServiceRecord :=
  { record with plane := plane, description := description, updatedAt := now }

/-- The checks of `services`, on what can be sent. -/
def ServiceRecord.accepted (record : ServiceRecord) : Bool :=
  isServiceName record.serviceName && Text.notBlank record.plane && Text.sendable record.plane &&
    Text.sendable record.description

/-- The row that `insert_version` makes. -/
def VersionRecord.inserted (versionId : Text) (now : Int) (serviceName version : Text) (semver : SemVer)
    (status : LifecycleStatus) (gitSha imageTag : Option Text) (apiVersion : Text)
    (minCompatibleVersion checksumSha256 : Option Text) (metadata : Text) : VersionRecord where
  versionId := versionId
  serviceName := serviceName
  version := version
  semver := semver
  gitSha := gitSha
  imageTag := imageTag
  apiVersion := apiVersion
  minCompatibleVersion := minCompatibleVersion
  status := status
  checksumSha256 := checksumSha256
  metadata := metadata
  createdAt := now
  releasedAt := none
  deprecatedAt := none
  retiredAt := none
  updatedAt := now

/-- The texts of a version that are sent. -/
def VersionRecord.texts (record : VersionRecord) : List Text :=
  [record.serviceName, record.version, record.apiVersion] ++ record.semver.prerelease.toList ++
    record.semver.build.toList ++ record.gitSha.toList ++ record.imageTag.toList ++
    record.minCompatibleVersion.toList ++ record.checksumSha256.toList

/-- The checks of `service_versions`, on what can be sent. -/
def VersionRecord.accepted (server : PostgresServer) (record : VersionRecord) : Bool :=
  record.texts.all Text.sendable && server.indexed record.version &&
    decide (record.semver.major ≤ INTEGER_MAX ∧ record.semver.minor ≤ INTEGER_MAX ∧
      record.semver.patch ≤ INTEGER_MAX) &&
    record.gitSha.all (fun sha => decide (7 ≤ sha.length ∧ sha.length ≤ 40) && sha.all isHexDigit) &&
    record.checksumSha256.all (fun checksum => decide (checksum.length = 64) && checksum.all isHexDigit) &&
    Text.notBlank record.apiVersion

/-- The check of `service_version_dependencies`, on what can be sent. -/
def DependencyRow.accepted (row : DependencyRow) : Bool :=
  Text.sendable row.dependsOnServiceName && Text.sendable row.minVersion && Text.notBlank row.minVersion

/-- The checks of `service_version_events`, on what can be sent; the type of an event
is never blank. -/
def EventRecord.accepted (event : EventRecord) : Bool :=
  Text.notBlank event.actor && Text.sendable event.actor && Text.sendable event.reason &&
    event.details.all fun detail => Text.sendable detail.2

/-! ## `PostgresRepository` -/

/-- What the service over the tables raises: an error of its own, or the exception of a
statement that the server refuses. -/
inductive PostgresFailure where
  | service (failure : Failure)
  | refused
  deriving DecidableEq

abbrev Postgres (A : Type) := Database.Program PostgresFailure PostgresRepository A

namespace PostgresRepository

variable {A : Type} (server : PostgresServer)

/-- A statement that is refused changes nothing. -/
def refuse (repository : PostgresRepository) : Except PostgresFailure A × PostgresRepository :=
  (.error .refused, repository)

def raises (failure : Failure) : Postgres A :=
  throw (.raised (.service failure))

/-- `upsert_service`. -/
def upsertService (now : Int) (serviceName plane description : Text) : Postgres ServiceRecord :=
  Database.statement fun repository =>
    if (ServiceRecord.proposed now serviceName plane description).accepted then
      match repository.services.find serviceName with
      | some existing =>
          (.ok (existing.describe now plane description),
            { repository with
              services := repository.services.update
                (fun row => if row.serviceName = serviceName then row.describe now plane description else row)
                fun row => by split <;> rfl })
      | none =>
          match repository.services.insert (ServiceRecord.proposed now serviceName plane description) with
          | some services =>
              (.ok (ServiceRecord.proposed now serviceName plane description), { repository with services := services })
          | none => refuse repository
    else refuse repository

/-- `get_service`. -/
def getService (serviceName : Text) : Postgres (Option ServiceRecord) :=
  Database.statement fun repository =>
    if Text.sendable serviceName then (.ok (repository.services.find serviceName), repository) else refuse repository

/-- `get_version`. -/
def getVersion (serviceName version : Text) : Postgres (Option VersionRecord) :=
  Database.statement fun repository =>
    if Text.sendable serviceName && Text.sendable version then
      (.ok (repository.versions.find (serviceName, version)), repository)
    else refuse repository

/-- `get_dependencies`. -/
def getDependencies (versionId : Text) : Postgres (List DependencyRecord) :=
  Database.statement fun repository =>
    (.ok ((repository.dependenciesOf versionId).mergeSort fun first second =>
        server.collates first.serviceName second.serviceName), repository)

/-- `insert_version`. -/
def insertVersion (now : Int) (serviceName version : Text) (semver : SemVer) (status : LifecycleStatus)
    (gitSha imageTag : Option Text) (apiVersion : Text) (minCompatibleVersion checksumSha256 : Option Text)
    (metadata : Text) : Postgres VersionRecord :=
  Database.statement fun repository =>
    match server.jsonb metadata with
    | none => refuse repository
    | some document =>
        let record := VersionRecord.inserted (server.interpreter.uuid repository.drawn) now serviceName version semver
          status gitSha imageTag apiVersion minCompatibleVersion checksumSha256 document
        if record.accepted server && repository.hasService serviceName then
          match repository.versions.insert record with
          | some versions => (.ok record, { repository with versions := versions, drawn := repository.drawn + 1 })
          | none => refuse repository
        else refuse repository

/-- The DELETE of `set_dependencies`. -/
def deleteDependencies (versionId : Text) : Postgres Unit :=
  Database.statement fun repository =>
    (.ok (), { repository with
      dependencies := repository.dependencies.filter fun row => decide (row.versionId ≠ versionId) })

/-- One INSERT of `set_dependencies`. -/
def insertDependency (row : DependencyRow) : Postgres Unit :=
  Database.statement fun repository =>
    if row.accepted && repository.hasVersion row.versionId && repository.hasService row.dependsOnServiceName then
      match repository.dependencies.insert row with
      | some dependencies => (.ok (), { repository with dependencies := dependencies })
      | none => refuse repository
    else refuse repository

/-- The loop of `set_dependencies`. -/
def insertDependencies (versionId : Text) : List DependencyRecord -> Postgres Unit
  | [] => pure ()
  | dependency :: dependencies => do
      insertDependency
        { versionId := versionId, dependsOnServiceName := dependency.serviceName, minVersion := dependency.minVersion }
      insertDependencies versionId dependencies

/-- `set_dependencies`. -/
def setDependencies (versionId : Text) (dependencies : List DependencyRecord) : Postgres Unit :=
  Database.transaction (fun before _ => before) do
    deleteDependencies versionId
    insertDependencies versionId dependencies

/-- The UPDATE of a version, with what it returns. -/
def changeVersion (parameters : List Text) (serviceName version : Text) (change : VersionRecord -> VersionRecord)
    (keeps : forall record, (change record).key = record.key) : Postgres (Option VersionRecord) :=
  Database.statement fun repository =>
    if (serviceName :: version :: parameters).all Text.sendable then
      match repository.versions.find (serviceName, version) with
      | none => (.ok none, repository)
      | some record =>
          if (change record).accepted server then
            (.ok (some (change record)),
              { repository with
                versions := repository.versions.update
                  (fun row => if row.key = (serviceName, version) then change row else row) fun row => by
                    split
                    · exact keeps row
                    · rfl })
          else refuse repository
    else refuse repository

/-- What is found after the UPDATE of a version. -/
theorem find_changed {table : Table VersionRecord.key} {wanted : Text × Text} {record : VersionRecord}
    {change : VersionRecord -> VersionRecord} (found : table.find wanted = some record)
    (keeps : (change record).key = record.key)
    (keepsRow : forall row : VersionRecord, (if row.key = wanted then change row else row).key = row.key)
    (key : Text × Text) :
    (table.update (fun row => if row.key = wanted then change row else row) keepsRow).find key =
      if (change record).key = key then some (change record) else table.find key := by
  have own := (Table.mem_of_find found).2
  rw [Table.find_update, keeps, own]
  by_cases same : wanted = key
  · rw [← same, found, Option.map_some, if_pos own, if_pos rfl]
  · rw [if_neg same]
    cases other : table.find key with
    | none => rfl
    | some row => rw [Option.map_some, (Table.mem_of_find other).2, if_neg (Ne.symm same)]

/-- What the updates make of the row that comes back. -/
def returned (version : Text) : Option VersionRecord -> Postgres VersionRecord
  | none => raises (.notFound ("version not found: ".toList ++ version))
  | some record => pure record

/-- `update_version_release`. -/
def updateVersionRelease (now : Int) (serviceName version gitSha imageTag checksumSha256 : Text) :
    Postgres VersionRecord := do
  let row ← changeVersion server [gitSha, imageTag, checksumSha256] serviceName version
    (VersionRecord.release now gitSha imageTag checksumSha256) fun _ => rfl
  returned version row

/-- `update_version_status`. -/
def updateVersionStatus (now : Int) (serviceName version : Text) (status : LifecycleStatus) :
    Postgres VersionRecord := do
  let row ← changeVersion server [] serviceName version (VersionRecord.moveTo now status) fun _ => rfl
  returned version row

/-- `insert_event`. -/
def insertEvent (now : Int) (versionId : Text) (eventType : EventType) (actor reason : Text)
    (details : List (Text × Text)) : Postgres Unit :=
  Database.statement fun repository =>
    let event : EventRecord :=
      { eventId := server.interpreter.uuid repository.drawn
        versionId := versionId
        eventType := eventType
        actor := actor
        reason := reason
        details := details
        occurredAt := now }
    if event.accepted && repository.hasVersion versionId then
      (.ok (), { repository with events := repository.events ++ [event], drawn := repository.drawn + 1 })
    else refuse repository

end PostgresRepository

/-- `PostgresRepository` as the service uses it. -/
def VersionStore.postgres (server : PostgresServer) :
    VersionStore (EStateM (Database.Failure PostgresFailure) (Database.Connection PostgresRepository)) where
  raises := PostgresRepository.raises
  upsertService := PostgresRepository.upsertService
  getService := PostgresRepository.getService
  getVersion := PostgresRepository.getVersion
  getDependencies := PostgresRepository.getDependencies server
  insertVersion := PostgresRepository.insertVersion server
  setDependencies := PostgresRepository.setDependencies
  updateVersionRelease := PostgresRepository.updateVersionRelease server
  updateVersionStatus := PostgresRepository.updateVersionStatus server
  insertEvent := PostgresRepository.insertEvent server

end Versioning
end ApexQuant
