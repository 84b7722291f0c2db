import ApexQuant.Versioning.Repository

namespace ApexQuant
namespace Versioning

open Foundation

/-!
# The versioning service

`VersioningService` over the repository in memory.  An operation checks, writes and
then reads back what it has written.  The dependencies of a version were checked when
it was created, so what is written can be read.

An operation reads the clock twice: for the version, and for its event.
-/

/-- The moments that an operation reads off the clock. -/
structure Moments where
  updatedAt : Int
  occurredAt : Int

/-- A stored dependency as the model of a version takes it up. -/
def readDependency (record : DependencyRecord) : Option DependencySpec :=
  if valid : isServiceName record.serviceName = true ∧ 5 ≤ record.minVersion.length then
    some
      { serviceName := record.serviceName
        minVersion := record.minVersion
        named := valid.1
        long := valid.2 }
  else none

namespace VersioningService

open InMemoryRepository

variable (interpreter : Interpreter)

/-- `register_service`. -/
def registerService (now : Int) (payload : ServiceCreate) : Repository ServiceRecord :=
  upsertService now payload.serviceName (interpreter.upper payload.plane) payload.description

/-- `parse_version` where a `SemVerError` is raised again with another message. -/
def parseVersion (describe : Text -> Text) (value : Text) : Repository SemVer :=
  match SemVer.parse interpreter.digits value with
  | .ok version => pure version
  | .error (.invalid value) => throw (.versioning (describe ("invalid semantic version: ".toList ++ value)))
  | .error .tooManyDigits => throw (.uncaught .tooManyDigits)

/-- `get_version`. -/
def getVersion (serviceName version : Text) : Repository ServiceVersion := do
  let repository ← get
  match repository.getVersion serviceName version with
  | none => throw (.notFound ("version not found: ".toList ++ version))
  | some record =>
      match (repository.getDependencies record.versionId).mapM readDependency with
      | none => throw .validation
      | some dependencies =>
          pure
            { versionId := record.versionId
              serviceName := record.serviceName
              version := record.version
              status := record.status
              gitSha := record.gitSha
              imageTag := record.imageTag
              apiVersion := record.apiVersion
              minCompatibleVersion := record.minCompatibleVersion
              checksumSha256 := record.checksumSha256
              metadata := record.metadata
              createdAt := record.createdAt
              releasedAt := record.releasedAt
              deprecatedAt := record.deprecatedAt
              retiredAt := record.retiredAt
              dependencies := dependencies }

/-- The loop of `create_version` over the dependencies. -/
def dependencyRecords (serviceName : Text) (seen : List Text) : List DependencySpec -> Repository (List DependencyRecord)
  | [] => pure []
  | dependency :: dependencies =>
      if dependency.serviceName = serviceName then throw (.versioning "a service cannot depend on itself".toList)
      else if seen.any fun other => decide (other = dependency.serviceName) then
        throw (.versioning ("duplicate dependency: ".toList ++ dependency.serviceName))
      else do
        let repository ← get
        match repository.getService dependency.serviceName with
        | none => throw (.notFound ("dependency service not found: ".toList ++ dependency.serviceName))
        | some _ => do
            let _ ← parseVersion interpreter
              (fun message => "invalid dependency min_version for ".toList ++ dependency.serviceName ++ ": ".toList ++
                message) dependency.minVersion
            let records ← dependencyRecords serviceName (dependency.serviceName :: seen) dependencies
            pure ({ serviceName := dependency.serviceName, minVersion := dependency.minVersion } :: records)

/-- The check of `min_compatible_version`. -/
def checkMinimum : Option Text -> Repository Unit
  | none => pure ()
  | some minimum => do
      let _ ← parseVersion interpreter (fun message => "invalid min_compatible_version: ".toList ++ message) minimum

/-- The checks of `create_version`. -/
def checkCreation (serviceName : Text) (payload : VersionCreate) : Repository (SemVer × List DependencyRecord) := do
  let repository ← get
  match repository.getService serviceName with
  | none => throw (.notFound ("service not found: ".toList ++ serviceName))
  | some _ => do
      let semver ← parseVersion interpreter (fun message => message) payload.version
      checkMinimum interpreter payload.minCompatibleVersion
      match repository.getVersion serviceName payload.version with
      | some _ => throw (.conflict ("version already exists: ".toList ++ payload.version))
      | none => do
          let records ← dependencyRecords interpreter serviceName [] payload.dependencies
          pure (semver, records)

/-- `create_version`. -/
def createVersion (moments : Moments) (serviceName : Text) (payload : VersionCreate) : Repository ServiceVersion := do
  let (semver, records) ← checkCreation interpreter serviceName payload
  let record ← insertVersion interpreter moments.updatedAt serviceName payload.version semver .draft payload.gitSha
    payload.imageTag payload.apiVersion payload.minCompatibleVersion none payload.metadata
  setDependencies record.versionId records
  insertEvent interpreter moments.occurredAt record.versionId .versionCreated "system".toList
    "version draft created".toList [("version".toList, payload.version)]
  getVersion serviceName payload.version

/-- `release_version`. -/
def releaseVersion (moments : Moments) (serviceName version gitSha imageTag checksumSha256 actor reason : Text) :
    Repository ServiceVersion := do
  let current ← getVersion serviceName version
  if current.status ≠ .draft then
    throw (.invalidTransition ("cannot release version in status ".toList ++ current.status.value))
  else
    match SemVer.parse interpreter.digits version with
    | .error error => throw (.uncaught error)
    | .ok semver =>
        if semver.isStable = false then throw (.versioning "only stable versions may be released".toList)
        else do
          let record ← InMemoryRepository.updateVersionRelease moments.updatedAt serviceName version gitSha imageTag
            checksumSha256
          insertEvent interpreter moments.occurredAt record.versionId .versionReleased actor reason
            [("git_sha".toList, gitSha), ("image_tag".toList, imageTag), ("checksum_sha256".toList, checksumSha256)]
          getVersion serviceName version

/-- `deprecate_version`. -/
def deprecateVersion (moments : Moments) (serviceName version actor reason : Text) : Repository ServiceVersion := do
  let current ← getVersion serviceName version
  if current.status ≠ .released then
    throw (.invalidTransition ("cannot deprecate version in status ".toList ++ current.status.value))
  else do
    let record ← InMemoryRepository.updateVersionStatus moments.updatedAt serviceName version .deprecated
    insertEvent interpreter moments.occurredAt record.versionId .versionDeprecated actor reason []
    getVersion serviceName version

/-- `retire_version`. -/
def retireVersion (moments : Moments) (serviceName version actor reason : Text) : Repository ServiceVersion := do
  let current ← getVersion serviceName version
  if current.status ≠ .deprecated then
    throw (.invalidTransition ("cannot retire version in status ".toList ++ current.status.value))
  else do
    let record ← InMemoryRepository.updateVersionStatus moments.updatedAt serviceName version .retired
    insertEvent interpreter moments.occurredAt record.versionId .versionRetired actor reason []
    getVersion serviceName version

end VersioningService

/-! ## Calls -/

/-- A call of the service. -/
inductive VersioningCall where
  | registerService (now : Int) (payload : ServiceCreate)
  | createVersion (moments : Moments) (serviceName : Text) (payload : VersionCreate)
  | releaseVersion (moments : Moments) (serviceName version gitSha imageTag checksumSha256 actor reason : Text)
  | deprecateVersion (moments : Moments) (serviceName version actor reason : Text)
  | retireVersion (moments : Moments) (serviceName version actor reason : Text)

namespace VersioningCall

/-- The call, without what it returns. -/
def run (interpreter : Interpreter) : VersioningCall -> Repository Unit
  | .registerService now payload => do
      let _ ← VersioningService.registerService interpreter now payload
  | .createVersion moments serviceName payload => do
      let _ ← VersioningService.createVersion interpreter moments serviceName payload
  | .releaseVersion moments serviceName version gitSha imageTag checksumSha256 actor reason => do
      let _ ← VersioningService.releaseVersion interpreter moments serviceName version gitSha imageTag checksumSha256
        actor reason
  | .deprecateVersion moments serviceName version actor reason => do
      let _ ← VersioningService.deprecateVersion interpreter moments serviceName version actor reason
  | .retireVersion moments serviceName version actor reason => do
      let _ ← VersioningService.retireVersion interpreter moments serviceName version actor reason

/-- The version that a call is about, and the event that stands for the call. -/
def effect : VersioningCall -> Option ((Text × Text) × EventType)
  | .registerService _ _ => none
  | .createVersion _ serviceName payload => some ((serviceName, payload.version), .versionCreated)
  | .releaseVersion _ serviceName version _ _ _ _ _ => some ((serviceName, version), .versionReleased)
  | .deprecateVersion _ serviceName version _ _ => some ((serviceName, version), .versionDeprecated)
  | .retireVersion _ serviceName version _ _ => some ((serviceName, version), .versionRetired)

end VersioningCall

/-- A repository and the calls on it that have returned, in their order. -/
structure VersioningHistory where
  repository : InMemoryRepository
  returned : List VersioningCall

/-- A service that has just been started. -/
def VersioningHistory.start : VersioningHistory where
  repository := InMemoryRepository.empty
  returned := []

/-- One more call, whether it returns or raises. -/
def VersioningHistory.step (interpreter : Interpreter) (history : VersioningHistory) (call : VersioningCall) :
    VersioningHistory :=
  match call.run interpreter history.repository with
  | .ok () repository => { repository := repository, returned := history.returned ++ [call] }
  | .error _ repository => { history with repository := repository }

end Versioning
end ApexQuant
