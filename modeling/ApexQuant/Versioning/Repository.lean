import ApexQuant.Foundation.Dictionary
import ApexQuant.Foundation.Runs
import ApexQuant.Versioning.Lifecycle

namespace ApexQuant
namespace Versioning

open Foundation

/-!
# Service versions in memory

`InMemoryRepository`, with the models that go in and come out.  Its tables are
dictionaries; a version is kept under its service and the text that it was created
with, and what belongs to it under the identifier that was drawn for it.  Times are
arguments, and the identifiers are the draws of `uuid4` in their order.
-/

/-! ## `models.py` -/

/-- `[a-z0-9]`. -/
def isNameLetter (c : Char) : Bool :=
  ('a' ≤ c && c ≤ 'z') || ('0' ≤ c && c ≤ '9')

/-- `^[a-z0-9]([a-z0-9-]{0,62}[a-z0-9])?$`. -/
def isServiceName (text : Text) : Bool :=
  text.all (fun c => isNameLetter c || c == '-') && decide (text.length ≤ 64) && text.head?.any isNameLetter &&
    text.getLast?.any isNameLetter

def LifecycleStatus.value : LifecycleStatus -> Text
  | .draft => "DRAFT".toList
  | .released => "RELEASED".toList
  | .deprecated => "DEPRECATED".toList
  | .retired => "RETIRED".toList

structure ServiceCreate where
  serviceName : Text
  plane : Text
  description : Text
  named : isServiceName serviceName = true
  plane_nonempty : plane ≠ []

structure DependencySpec where
  serviceName : Text
  minVersion : Text
  named : isServiceName serviceName = true
  long : 5 ≤ minVersion.length
  deriving DecidableEq

/-- The dictionary of metadata is represented by its JSON text. -/
structure VersionCreate where
  version : Text
  gitSha : Option Text
  imageTag : Option Text
  apiVersion : Text
  minCompatibleVersion : Option Text
  dependencies : List DependencySpec
  metadata : Text
  long : 5 ≤ version.length
  commit : forall sha, gitSha = some sha -> (7 ≤ sha.length ∧ sha.length ≤ 40) ∧ sha.all isHexDigit = true

structure ServiceVersion where
  versionId : Text
  serviceName : Text
  version : Text
  status : LifecycleStatus
  gitSha : Option Text
  imageTag : Option Text
  apiVersion : Text
  minCompatibleVersion : Option Text
  checksumSha256 : Option Text
  metadata : Text
  createdAt : Int
  releasedAt : Option Int
  deprecatedAt : Option Int
  retiredAt : Option Int
  dependencies : List DependencySpec

/-! ## `errors.py` -/

/-- What the service raises: its own errors with their messages, and the exceptions
that it lets through. -/
inductive Failure where
  | versioning (message : Text)
  | notFound (message : Text)
  | conflict (message : Text)
  | invalidTransition (message : Text)
  | uncaught (error : SemVerError)
  | validation
  deriving DecidableEq

/-! ## Records -/

structure ServiceRecord where
  serviceName : Text
  plane : Text
  description : Text
  createdAt : Int
  updatedAt : Int

structure VersionRecord where
  versionId : Text
  serviceName : Text
  version : Text
  semver : SemVer
  gitSha : Option Text
  imageTag : Option Text
  apiVersion : Text
  minCompatibleVersion : Option Text
  status : LifecycleStatus
  checksumSha256 : Option Text
  metadata : Text
  createdAt : Int
  releasedAt : Option Int
  deprecatedAt : Option Int
  retiredAt : Option Int
  updatedAt : Int

/-- The assignments of `update_version_release`. -/
def VersionRecord.release (now : Int) (gitSha imageTag checksumSha256 : Text) (record : VersionRecord) : VersionRecord :=
  { record with
    status := .released
    gitSha := some gitSha
    imageTag := some imageTag
    checksumSha256 := some checksumSha256
    releasedAt := some now
    updatedAt := now }

/-- The assignments of `update_version_status`. -/
def VersionRecord.moveTo (now : Int) (status : LifecycleStatus) (record : VersionRecord) : VersionRecord :=
  { record with
    status := status
    updatedAt := now
    deprecatedAt := if status = .deprecated then some now else record.deprecatedAt
    retiredAt := if status = .retired then some now else record.retiredAt }

structure DependencyRecord where
  serviceName : Text
  minVersion : Text
  deriving DecidableEq

inductive EventType where
  | versionCreated
  | versionReleased
  | versionDeprecated
  | versionRetired
  deriving DecidableEq, Repr

structure EventRecord where
  eventId : Text
  versionId : Text
  eventType : EventType
  actor : Text
  reason : Text
  details : List (Text × Text)
  occurredAt : Int

/-- What the interpreter brings along: the digits of its Unicode tables, `str.upper`,
and the identifiers of `uuid4`, which never repeat. -/
structure Interpreter where
  digits : Text.DecimalDigits
  upper : Text -> Text
  uuid : Nat -> Text
  uuid_injective : Function.Injective uuid

structure InMemoryRepository where
  services : Dictionary Text ServiceRecord
  versions : Dictionary Text VersionRecord
  dependencies : Dictionary Text (List DependencyRecord)
  events : List EventRecord
  /-- How many identifiers have been drawn. -/
  drawn : Nat

abbrev Repository (A : Type) := EStateM Failure InMemoryRepository A

/-- `f"{service_name}:{version}"`. -/
def versionKey (serviceName version : Text) : Text :=
  serviceName ++ ':' :: version

namespace InMemoryRepository

def empty : InMemoryRepository where
  services := Table.empty
  versions := Table.empty
  dependencies := Table.empty
  events := []
  drawn := 0

/-- `upsert_service`. -/
def upsertService (now : Int) (serviceName plane description : Text) : Repository ServiceRecord := fun repository =>
  let record : ServiceRecord :=
    match repository.services.get serviceName with
    | none =>
        { serviceName := serviceName, plane := plane, description := description, createdAt := now, updatedAt := now }
    | some existing => { existing with plane := plane, description := description, updatedAt := now }
  .ok record { repository with services := repository.services.set serviceName record }

/-- `get_service`. -/
def getService (repository : InMemoryRepository) (serviceName : Text) : Option ServiceRecord :=
  repository.services.get serviceName

/-- `get_version`. -/
def getVersion (repository : InMemoryRepository) (serviceName version : Text) : Option VersionRecord :=
  repository.versions.get (versionKey serviceName version)

/-- `get_dependencies`. -/
def getDependencies (repository : InMemoryRepository) (versionId : Text) : List DependencyRecord :=
  (repository.dependencies.get versionId).getD []

/-- `insert_version`. -/
def insertVersion (interpreter : Interpreter) (now : Int) (serviceName version : Text) (semver : SemVer)
    (status : LifecycleStatus) (gitSha imageTag : Option Text) (apiVersion : Text)
    (minCompatibleVersion checksumSha256 : Option Text) (metadata : Text) : Repository VersionRecord :=
  fun repository =>
    if (repository.versions.get (versionKey serviceName version)).isSome then
      .error (.conflict ("version already exists: ".toList ++ version)) repository
    else
      let record : VersionRecord :=
        { versionId := interpreter.uuid repository.drawn
          serviceName := serviceName
          version := version
          semver := semver
          gitSha := gitSha
          imageTag := imageTag
          apiVersion := apiVersion
          minCompatibleVersion := minCompatibleVersion
          status := status
          checksumSha256 := checksumSha256
          metadata := metadata
          createdAt := now
          releasedAt := none
          deprecatedAt := none
          retiredAt := none
          updatedAt := now }
      .ok record
        { repository with
          versions := repository.versions.set (versionKey serviceName version) record
          dependencies := repository.dependencies.set record.versionId []
          drawn := repository.drawn + 1 }

/-- `set_dependencies`. -/
def setDependencies (versionId : Text) (dependencies : List DependencyRecord) : Repository Unit := fun repository =>
  .ok () { repository with dependencies := repository.dependencies.set versionId dependencies }

/-- The update of a version that is there. -/
def updateVersion (serviceName version : Text) (change : VersionRecord -> VersionRecord) : Repository VersionRecord :=
  fun repository =>
    match repository.versions.get (versionKey serviceName version) with
    | none => .error (.notFound ("version not found: ".toList ++ version)) repository
    | some record =>
        .ok (change record)
          { repository with versions := repository.versions.set (versionKey serviceName version) (change record) }

/-- `update_version_release`. -/
def updateVersionRelease (now : Int) (serviceName version gitSha imageTag checksumSha256 : Text) :
    Repository VersionRecord :=
  updateVersion serviceName version (VersionRecord.release now gitSha imageTag checksumSha256)

/-- `update_version_status`. -/
def updateVersionStatus (now : Int) (serviceName version : Text) (status : LifecycleStatus) :
    Repository VersionRecord :=
  updateVersion serviceName version (VersionRecord.moveTo now status)

/-- `insert_event`. -/
def insertEvent (interpreter : Interpreter) (now : Int) (versionId : Text) (eventType : EventType)
    (actor reason : Text) (details : List (Text × Text)) : Repository Unit := fun repository =>
  let event : EventRecord :=
    { eventId := interpreter.uuid repository.drawn
      versionId := versionId
      eventType := eventType
      actor := actor
      reason := reason
      details := details
      occurredAt := now }
  .ok () { repository with events := repository.events ++ [event], drawn := repository.drawn + 1 }

end InMemoryRepository
end Versioning
end ApexQuant
