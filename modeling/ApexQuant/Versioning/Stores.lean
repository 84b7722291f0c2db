import ApexQuant.Foundation.SideBySide
import ApexQuant.Versioning.Operations

namespace ApexQuant
namespace Versioning

open Foundation

/-!
# The versioning service over any repository

`VersioningService` takes its repository as an argument.  `VersionStore` is what it
asks of one, and the operations are written over a `VersionStore`.  Over the
repository in memory they are those of `Service`.

Two repositories whose methods correspond make two services that correspond.
-/

/-- What `VersioningService` asks of its repository. -/
structure VersionStore (M : Type -> Type) where
  raises : {A : Type} -> Failure -> M A
  upsertService : Int -> Text -> Text -> Text -> M ServiceRecord
  getService : Text -> M (Option ServiceRecord)
  getVersion : Text -> Text -> M (Option VersionRecord)
  getDependencies : Text -> M (List DependencyRecord)
  insertVersion : Int -> Text -> Text -> SemVer -> LifecycleStatus -> Option Text -> Option Text -> Text -> Option Text ->
    Option Text -> Text -> M VersionRecord
  setDependencies : Text -> List DependencyRecord -> M Unit
  updateVersionRelease : Int -> Text -> Text -> Text -> Text -> Text -> M VersionRecord
  updateVersionStatus : Int -> Text -> Text -> LifecycleStatus -> M VersionRecord
  insertEvent : Int -> Text -> EventType -> Text -> Text -> List (Text × Text) -> M Unit

/-- A call of the service, or a read. -/
inductive VersioningRequest where
  | call (call : VersioningCall)
  | getVersion (serviceName version : Text)

inductive VersioningReply where
  | service (record : ServiceRecord)
  | version (version : ServiceVersion)

/-- The model of a version, made of its record and its dependencies. -/
def VersionRecord.withDependencies (record : VersionRecord) (dependencies : List DependencySpec) : ServiceVersion where
  versionId := record.versionId
  serviceName := record.serviceName
  version := record.version
  status := record.status
  gitSha := record.gitSha
  imageTag := record.imageTag
  apiVersion := record.apiVersion
  minCompatibleVersion := record.minCompatibleVersion
  checksumSha256 := record.checksumSha256
  metadata := record.metadata
  createdAt := record.createdAt
  releasedAt := record.releasedAt
  deprecatedAt := record.deprecatedAt
  retiredAt := record.retiredAt
  dependencies := dependencies

namespace VersionStore

section Operations

variable {M : Type -> Type} [Monad M] (store : VersionStore M) (interpreter : Interpreter)

/-- `parse_version` where a `SemVerError` is raised again with another message. -/
def parseVersion (describe : Text -> Text) (value : Text) : M SemVer :=
  match SemVer.parse interpreter.digits value with
  | .ok version => pure version
  | .error (.invalid value) => store.raises (.versioning (describe ("invalid semantic version: ".toList ++ value)))
  | .error .tooManyDigits => store.raises (.uncaught .tooManyDigits)

/-- `get_version` of the service. -/
def readVersion (serviceName version : Text) : M ServiceVersion := do
  let found ← store.getVersion serviceName version
  match found with
  | none => store.raises (.notFound ("version not found: ".toList ++ version))
  | some record => do
      let dependencies ← store.getDependencies record.versionId
      match dependencies.mapM readDependency with
      | none => store.raises .validation
      | some dependencies => pure (record.withDependencies dependencies)

/-- The loop of `create_version` over the dependencies. -/
def dependencyRecords (serviceName : Text) (seen : List Text) : List DependencySpec -> M (List DependencyRecord)
  | [] => pure []
  | dependency :: dependencies =>
      if dependency.serviceName = serviceName then
        store.raises (.versioning "a service cannot depend on itself".toList)
      else if seen.any fun other => decide (other = dependency.serviceName) then
        store.raises (.versioning ("duplicate dependency: ".toList ++ dependency.serviceName))
      else do
        let service ← store.getService dependency.serviceName
        match service with
        | none =>
            store.raises (.notFound ("dependency service not found: ".toList ++ dependency.serviceName))
        | some _ => do
            let _ ← store.parseVersion interpreter
              (fun message => "invalid dependency min_version for ".toList ++ dependency.serviceName ++ ": ".toList ++
                message) dependency.minVersion
            let records ← dependencyRecords serviceName (dependency.serviceName :: seen) dependencies
            pure ({ serviceName := dependency.serviceName, minVersion := dependency.minVersion } :: records)

/-- The check of `min_compatible_version`. -/
def checkMinimum : Option Text -> M Unit
  | none => pure ()
  | some minimum => do
      let _ ← store.parseVersion interpreter (fun message => "invalid min_compatible_version: ".toList ++ message)
        minimum

/-- `create_version`. -/
def createVersion (moments : Moments) (serviceName : Text) (payload : VersionCreate) : M ServiceVersion := do
  let service ← store.getService serviceName
  match service with
  | none => store.raises (.notFound ("service not found: ".toList ++ serviceName))
  | some _ => do
      let semver ← store.parseVersion interpreter (fun message => message) payload.version
      store.checkMinimum interpreter payload.minCompatibleVersion
      let existing ← store.getVersion serviceName payload.version
      match existing with
      | some _ => store.raises (.conflict ("version already exists: ".toList ++ payload.version))
      | none => do
          let records ← store.dependencyRecords interpreter serviceName [] payload.dependencies
          let record ← store.insertVersion moments.updatedAt serviceName payload.version semver .draft payload.gitSha
            payload.imageTag payload.apiVersion payload.minCompatibleVersion none payload.metadata
          store.setDependencies record.versionId records
          store.insertEvent moments.occurredAt record.versionId .versionCreated "system".toList
            "version draft created".toList [("version".toList, payload.version)]
          store.readVersion serviceName payload.version

/-- `release_version`. -/
def releaseVersion (moments : Moments) (serviceName version gitSha imageTag checksumSha256 actor reason : Text) :
    M ServiceVersion := do
  let current ← store.readVersion serviceName version
  if current.status ≠ .draft then
    store.raises (.invalidTransition ("cannot release version in status ".toList ++ current.status.value))
  else
    match SemVer.parse interpreter.digits version with
    | .error error => store.raises (.uncaught error)
    | .ok semver =>
        if semver.isStable = false then store.raises (.versioning "only stable versions may be released".toList)
        else do
          let record ← store.updateVersionRelease moments.updatedAt serviceName version gitSha imageTag checksumSha256
          store.insertEvent moments.occurredAt record.versionId .versionReleased actor reason
            [("git_sha".toList, gitSha), ("image_tag".toList, imageTag), ("checksum_sha256".toList, checksumSha256)]
          store.readVersion serviceName version

/-- `deprecate_version`. -/
def deprecateVersion (moments : Moments) (serviceName version actor reason : Text) : M ServiceVersion := do
  let current ← store.readVersion serviceName version
  if current.status ≠ .released then
    store.raises (.invalidTransition ("cannot deprecate version in status ".toList ++ current.status.value))
  else do
    let record ← store.updateVersionStatus moments.updatedAt serviceName version .deprecated
    store.insertEvent moments.occurredAt record.versionId .versionDeprecated actor reason []
    store.readVersion serviceName version

/-- `retire_version`. -/
def retireVersion (moments : Moments) (serviceName version actor reason : Text) : M ServiceVersion := do
  let current ← store.readVersion serviceName version
  if current.status ≠ .deprecated then
    store.raises (.invalidTransition ("cannot retire version in status ".toList ++ current.status.value))
  else do
    let record ← store.updateVersionStatus moments.updatedAt serviceName version .retired
    store.insertEvent moments.occurredAt record.versionId .versionRetired actor reason []
    store.readVersion serviceName version

/-- What the service answers. -/
def answer : VersioningRequest -> M VersioningReply
  | .call (.registerService now payload) => do
      let record ← store.upsertService now payload.serviceName (interpreter.upper payload.plane) payload.description
      pure (.service record)
  | .call (.createVersion moments serviceName payload) => do
      let version ← store.createVersion interpreter moments serviceName payload
      pure (.version version)
  | .call (.releaseVersion moments serviceName version gitSha imageTag checksumSha256 actor reason) => do
      let version ← store.releaseVersion interpreter moments serviceName version gitSha imageTag checksumSha256 actor
        reason
      pure (.version version)
  | .call (.deprecateVersion moments serviceName version actor reason) => do
      let version ← store.deprecateVersion moments serviceName version actor reason
      pure (.version version)
  | .call (.retireVersion moments serviceName version actor reason) => do
      let version ← store.retireVersion moments serviceName version actor reason
      pure (.version version)
  | .getVersion serviceName version => do
      let version ← store.readVersion serviceName version
      pure (.version version)

end Operations

/-! ## The repository in memory -/

/-- `InMemoryRepository`. -/
def inMemory (interpreter : Interpreter) : VersionStore (EStateM Failure InMemoryRepository) where
  raises := fun failure => throw failure
  upsertService := InMemoryRepository.upsertService
  getService := fun serviceName => do
    let repository ← get
    pure (repository.getService serviceName)
  getVersion := fun serviceName version => do
    let repository ← get
    pure (repository.getVersion serviceName version)
  getDependencies := fun versionId => do
    let repository ← get
    pure (repository.getDependencies versionId)
  insertVersion := InMemoryRepository.insertVersion interpreter
  setDependencies := InMemoryRepository.setDependencies
  updateVersionRelease := InMemoryRepository.updateVersionRelease
  updateVersionStatus := InMemoryRepository.updateVersionStatus
  insertEvent := InMemoryRepository.insertEvent interpreter

end VersionStore

/-- What the service answers over the repository in memory. -/
def VersioningRequest.inMemory (interpreter : Interpreter) : VersioningRequest -> Repository VersioningReply
  | .call (.registerService now payload) => do
      let record ← VersioningService.registerService interpreter now payload
      pure (.service record)
  | .call (.createVersion moments serviceName payload) => do
      let version ← VersioningService.createVersion interpreter moments serviceName payload
      pure (.version version)
  | .call (.releaseVersion moments serviceName version gitSha imageTag checksumSha256 actor reason) => do
      let version ← VersioningService.releaseVersion interpreter moments serviceName version gitSha imageTag
        checksumSha256 actor reason
      pure (.version version)
  | .call (.deprecateVersion moments serviceName version actor reason) => do
      let version ← VersioningService.deprecateVersion interpreter moments serviceName version actor reason
      pure (.version version)
  | .call (.retireVersion moments serviceName version actor reason) => do
      let version ← VersioningService.retireVersion interpreter moments serviceName version actor reason
      pure (.version version)
  | .getVersion serviceName version => do
      let version ← VersioningService.getVersion serviceName version
      pure (.version version)

/-! ## Over memory the service is the one modelled there -/

namespace VersionStore

variable (interpreter : Interpreter)

theorem inMemory_parseVersion (describe : Text -> Text) (value : Text) :
    (inMemory interpreter).parseVersion interpreter describe value =
      VersioningService.parseVersion interpreter describe value := by
  unfold parseVersion VersioningService.parseVersion
  cases SemVer.parse interpreter.digits value with
  | ok version => rfl
  | error error =>
      cases error with
      | invalid value => rfl
      | tooManyDigits => rfl

theorem inMemory_readVersion (serviceName version : Text) :
    (inMemory interpreter).readVersion serviceName version = VersioningService.getVersion serviceName version := by
  funext repository
  change (match repository.getVersion serviceName version with
    | none => (inMemory interpreter).raises (.notFound ("version not found: ".toList ++ version))
    | some record => do
        let dependencies ← (inMemory interpreter).getDependencies record.versionId
        match dependencies.mapM readDependency with
        | none => (inMemory interpreter).raises .validation
        | some dependencies => pure (record.withDependencies dependencies)) repository =
    (match repository.getVersion serviceName version with
      | none => throw (.notFound ("version not found: ".toList ++ version))
      | some record =>
          match (repository.getDependencies record.versionId).mapM readDependency with
          | none => throw .validation
          | some dependencies => pure (record.withDependencies dependencies) : Repository ServiceVersion) repository
  cases repository.getVersion serviceName version with
  | none => rfl
  | some record => rfl

theorem inMemory_dependencyRecords (serviceName : Text) (seen : List Text) (dependencies : List DependencySpec) :
    (inMemory interpreter).dependencyRecords interpreter serviceName seen dependencies =
      VersioningService.dependencyRecords interpreter serviceName seen dependencies := by
  induction dependencies generalizing seen with
  | nil => rfl
  | cons dependency dependencies ih =>
      rw [dependencyRecords, VersioningService.dependencyRecords, inMemory_parseVersion, ih]
      rfl

theorem inMemory_checkMinimum (minimum : Option Text) :
    (inMemory interpreter).checkMinimum interpreter minimum = VersioningService.checkMinimum interpreter minimum := by
  cases minimum with
  | none => rfl
  | some minimum =>
      rw [checkMinimum, VersioningService.checkMinimum, inMemory_parseVersion]

/-- Behind a program that only reads, what is done next is compared on the same
repository. -/
theorem bind_congr_of_readOnly {A B : Type} {first : Repository A} {rest rest' : A -> Repository B}
    (reads : ReadOnly first) {repository : InMemoryRepository}
    (same : forall answer, rest answer repository = rest' answer repository) :
    (first >>= rest) repository = (first >>= rest') repository := by
  change EStateM.bind first rest repository = EStateM.bind first rest' repository
  rw [EStateM.bind, EStateM.bind]
  rcases reads repository with ⟨answer, ran⟩ | ⟨failure, ran⟩
  · rw [ran]
    exact same answer
  · rw [ran]

theorem get_bind_run {B : Type} (rest : InMemoryRepository -> Repository B) (repository : InMemoryRepository) :
    (get >>= rest) repository = rest repository repository := rfl

theorem getService_bind_run {B : Type} (serviceName : Text) (rest : Option ServiceRecord -> Repository B)
    (repository : InMemoryRepository) :
    ((inMemory interpreter).getService serviceName >>= rest) repository =
      rest (repository.getService serviceName) repository := rfl

theorem getVersion_bind_run {B : Type} (serviceName version : Text) (rest : Option VersionRecord -> Repository B)
    (repository : InMemoryRepository) :
    ((inMemory interpreter).getVersion serviceName version >>= rest) repository =
      rest (repository.getVersion serviceName version) repository := rfl

theorem inMemory_createVersion (moments : Moments) (serviceName : Text) (payload : VersionCreate) :
    (inMemory interpreter).createVersion interpreter moments serviceName payload =
      VersioningService.createVersion interpreter moments serviceName payload := by
  funext repository
  simp only [createVersion, VersioningService.createVersion, VersioningService.checkCreation, inMemory_parseVersion,
    inMemory_checkMinimum, inMemory_dependencyRecords, inMemory_readVersion, bind_assoc]
  rw [get_bind_run, getService_bind_run]
  cases repository.getService serviceName with
  | none => rfl
  | some service =>
      simp only [bind_assoc]
      apply bind_congr_of_readOnly (VersioningService.parseVersion_readOnly _ _ _)
      intro semver
      apply bind_congr_of_readOnly (VersioningService.checkMinimum_readOnly _ _)
      intro _
      rw [getVersion_bind_run]
      cases repository.getVersion serviceName payload.version with
      | some existing => rfl
      | none =>
          simp only [bind_assoc, pure_bind]
          rfl

theorem inMemory_answer (request : VersioningRequest) :
    (inMemory interpreter).answer interpreter request = request.inMemory interpreter := by
  cases request with
  | getVersion serviceName version =>
      rw [answer, VersioningRequest.inMemory, inMemory_readVersion]
  | call call =>
      cases call with
      | registerService now payload => rfl
      | createVersion moments serviceName payload =>
          rw [answer, VersioningRequest.inMemory, inMemory_createVersion]
      | releaseVersion moments serviceName version gitSha imageTag checksumSha256 actor reason =>
          rw [answer, VersioningRequest.inMemory, releaseVersion, inMemory_readVersion]
          rfl
      | deprecateVersion moments serviceName version actor reason =>
          rw [answer, VersioningRequest.inMemory, deprecateVersion, inMemory_readVersion]
          rfl
      | retireVersion moments serviceName version actor reason =>
          rw [answer, VersioningRequest.inMemory, retireVersion, inMemory_readVersion]
          rfl

end VersionStore

/-! ## Services over corresponding repositories -/

/-- Lists of the same members, read member by member, are read alike. -/
theorem perm_mapM {A B : Type} (read : A -> Option B) {left right : List A} (same : left.Perm right) :
    Option.Rel List.Perm (left.mapM read) (right.mapM read) := by
  induction same with
  | nil => exact Option.Rel.some (List.Perm.refl _)
  | @cons a left right _ ih =>
      rw [List.mapM_cons, List.mapM_cons]
      cases read a with
      | none => exact Option.Rel.none
      | some b =>
          generalize left.mapM read = leftRead at ih ⊢
          generalize right.mapM read = rightRead at ih ⊢
          cases ih with
          | none => exact Option.Rel.none
          | some same => exact Option.Rel.some (same.cons b)
  | swap a b rest =>
      rw [List.mapM_cons, List.mapM_cons, List.mapM_cons, List.mapM_cons]
      cases read a with
      | none =>
          cases read b with
          | none => exact Option.Rel.none
          | some _ => exact Option.Rel.none
      | some a' =>
          cases read b with
          | none => exact Option.Rel.none
          | some b' =>
              cases rest.mapM read with
              | none => exact Option.Rel.none
              | some rest' => exact Option.Rel.some (List.Perm.swap a' b' rest')
  | @trans left middle right _ _ ih ih' =>
      generalize left.mapM read = leftRead at ih ⊢
      generalize middle.mapM read = middleRead at ih ih'
      generalize right.mapM read = rightRead at ih' ⊢
      cases ih with
      | none => exact ih'
      | some same =>
          cases ih' with
          | some same' => exact Option.Rel.some (same.trans same')

/-- The record with another document for its metadata. -/
def VersionRecord.withMetadata (metadata : Text) (record : VersionRecord) : VersionRecord :=
  { record with metadata := metadata }

section Correspondence

variable (stored : Text -> Text -> Prop)

/-- A version and how it is kept elsewhere: the same but for its metadata. -/
def VersionRecord.StoredAs (record kept : VersionRecord) : Prop :=
  Exists fun metadata => stored record.metadata metadata ∧ kept = record.withMetadata metadata

/-- Two answers about a version that differ in the order of the dependencies at most,
and in how the metadata is kept. -/
def ServiceVersion.SameAs (left right : ServiceVersion) : Prop :=
  Exists fun metadata => Exists fun dependencies => stored left.metadata metadata ∧
    left.dependencies.Perm dependencies ∧ right = { left with metadata := metadata, dependencies := dependencies }

/-- Two answers that say the same. -/
inductive VersioningReply.SameAs : VersioningReply -> VersioningReply -> Prop where
  | service (record : ServiceRecord) : SameAs (.service record) (.service record)
  | version {left right : ServiceVersion} (same : left.SameAs stored right) : SameAs (.version left) (.version right)

namespace VersionStore

open SideBySide

variable {E F S T : Type}

/-- The methods of two repositories correspond.  A version is inserted with the parts
that its text was read as. -/
structure Correspond (pairing : Pairing E F S T) (interpreter : Interpreter) (left : VersionStore (EStateM E S))
    (right : VersionStore (EStateM F T)) : Prop where
  raises : forall {A B : Type} (answers : A -> B -> Prop) failure,
    Corresponds pairing answers (left.raises failure) (right.raises failure)
  upsertService : forall now serviceName plane description,
    Corresponds pairing Eq (left.upsertService now serviceName plane description)
      (right.upsertService now serviceName plane description)
  getService : forall serviceName, Corresponds pairing Eq (left.getService serviceName) (right.getService serviceName)
  getVersion : forall serviceName version,
    Corresponds pairing (Option.Rel (VersionRecord.StoredAs stored)) (left.getVersion serviceName version)
      (right.getVersion serviceName version)
  getDependencies : forall versionId,
    Corresponds pairing List.Perm (left.getDependencies versionId) (right.getDependencies versionId)
  insertVersion : forall now serviceName version semver status gitSha imageTag apiVersion minCompatibleVersion
      checksumSha256 metadata, SemVer.parse interpreter.digits version = .ok semver ->
    Corresponds pairing (VersionRecord.StoredAs stored)
      (left.insertVersion now serviceName version semver status gitSha imageTag apiVersion minCompatibleVersion
        checksumSha256 metadata)
      (right.insertVersion now serviceName version semver status gitSha imageTag apiVersion minCompatibleVersion
        checksumSha256 metadata)
  setDependencies : forall versionId dependencies,
    Corresponds pairing Eq (left.setDependencies versionId dependencies) (right.setDependencies versionId dependencies)
  updateVersionRelease : forall now serviceName version gitSha imageTag checksumSha256,
    Corresponds pairing (VersionRecord.StoredAs stored)
      (left.updateVersionRelease now serviceName version gitSha imageTag checksumSha256)
      (right.updateVersionRelease now serviceName version gitSha imageTag checksumSha256)
  updateVersionStatus : forall now serviceName version status,
    Corresponds pairing (VersionRecord.StoredAs stored) (left.updateVersionStatus now serviceName version status)
      (right.updateVersionStatus now serviceName version status)
  insertEvent : forall now versionId eventType actor reason details,
    Corresponds pairing Eq (left.insertEvent now versionId eventType actor reason details)
      (right.insertEvent now versionId eventType actor reason details)

namespace Correspond

variable {stored} {pairing : Pairing E F S T} {interpreter : Interpreter} {left : VersionStore (EStateM E S)}
  {right : VersionStore (EStateM F T)} (methods : Correspond stored pairing interpreter left right)

include methods

theorem parseVersion (describe : Text -> Text) (value : Text) :
    Corresponds pairing (fun first second => first = second ∧ SemVer.parse interpreter.digits value = .ok second)
      (left.parseVersion interpreter describe value) (right.parseVersion interpreter describe value) := by
  unfold VersionStore.parseVersion
  cases parsed : SemVer.parse interpreter.digits value with
  | ok version => exact Corresponds.pure ⟨rfl, rfl⟩
  | error error =>
      cases error with
      | invalid value => exact methods.raises _ _
      | tooManyDigits => exact methods.raises _ _

theorem readVersion (serviceName version : Text) :
    Corresponds pairing (ServiceVersion.SameAs stored) (left.readVersion serviceName version)
      (right.readVersion serviceName version) := by
  apply Corresponds.bind (methods.getVersion serviceName version)
  intro found found' same
  cases same with
  | none => exact methods.raises _ _
  | @some record record' same =>
      rcases same with ⟨metadata, kept, rfl⟩
      apply Corresponds.bind (methods.getDependencies record.versionId)
      intro dependencies dependencies' same
      have read := perm_mapM readDependency same
      generalize dependencies.mapM readDependency = first at read ⊢
      generalize dependencies'.mapM readDependency = second at read ⊢
      cases read with
      | none => exact methods.raises _ _
      | some same => exact Corresponds.pure ⟨metadata, _, kept, same, rfl⟩

theorem dependencyRecords (serviceName : Text) (seen : List Text) (dependencies : List DependencySpec) :
    Corresponds pairing Eq (left.dependencyRecords interpreter serviceName seen dependencies)
      (right.dependencyRecords interpreter serviceName seen dependencies) := by
  induction dependencies generalizing seen with
  | nil => exact Corresponds.pure rfl
  | cons dependency dependencies ih =>
      rw [VersionStore.dependencyRecords, VersionStore.dependencyRecords]
      split
      · exact methods.raises _ _
      · split
        · exact methods.raises _ _
        · apply Corresponds.bind (methods.getService dependency.serviceName)
          rintro service _ rfl
          cases service with
          | none => exact methods.raises _ _
          | some service =>
              apply Corresponds.bind (methods.parseVersion _ dependency.minVersion)
              intro _ _ _
              apply Corresponds.bind (ih (dependency.serviceName :: seen))
              rintro records _ rfl
              exact Corresponds.pure rfl

theorem checkMinimum (minimum : Option Text) :
    Corresponds pairing Eq (left.checkMinimum interpreter minimum) (right.checkMinimum interpreter minimum) := by
  cases minimum with
  | none => exact Corresponds.pure rfl
  | some minimum =>
      apply Corresponds.bind (methods.parseVersion _ minimum)
      intro _ _ _
      exact Corresponds.pure rfl

/-- What a call does once it has written a version: its event, and the answer. -/
theorem recordAndRead {record record' : VersionRecord} (same : record.StoredAs stored record') (now : Int)
    (eventType : EventType) (actor reason : Text) (details : List (Text × Text)) (serviceName version : Text) :
    Corresponds pairing (ServiceVersion.SameAs stored)
      (do
        left.insertEvent now record.versionId eventType actor reason details
        left.readVersion serviceName version)
      (do
        right.insertEvent now record'.versionId eventType actor reason details
        right.readVersion serviceName version) := by
  rcases same with ⟨metadata, _, rfl⟩
  apply Corresponds.bind (methods.insertEvent now record.versionId eventType actor reason details)
  intro _ _ _
  exact methods.readVersion serviceName version

theorem createVersion (moments : Moments) (serviceName : Text) (payload : VersionCreate) :
    Corresponds pairing (ServiceVersion.SameAs stored) (left.createVersion interpreter moments serviceName payload)
      (right.createVersion interpreter moments serviceName payload) := by
  apply Corresponds.bind (methods.getService serviceName)
  rintro service _ rfl
  cases service with
  | none => exact methods.raises _ _
  | some service =>
      apply Corresponds.bind (methods.parseVersion _ payload.version)
      rintro semver _ ⟨rfl, parsed⟩
      apply Corresponds.bind (methods.checkMinimum payload.minCompatibleVersion)
      intro _ _ _
      apply Corresponds.bind (methods.getVersion serviceName payload.version)
      intro existing existing' same
      cases same with
      | some _ => exact methods.raises _ _
      | none =>
          apply Corresponds.bind (methods.dependencyRecords serviceName [] payload.dependencies)
          rintro records _ rfl
          apply Corresponds.bind (methods.insertVersion _ _ _ _ _ _ _ _ _ _ _ parsed)
          intro record record' same
          have sameId : record.versionId = record'.versionId := by
            rcases same with ⟨metadata, _, rfl⟩
            rfl
          rw [← sameId]
          apply Corresponds.bind (methods.setDependencies record.versionId records)
          intro _ _ _
          apply Corresponds.bind (methods.insertEvent _ _ _ _ _ _)
          intro _ _ _
          exact methods.readVersion serviceName payload.version

theorem releaseVersion (moments : Moments) (serviceName version gitSha imageTag checksumSha256 actor reason : Text) :
    Corresponds pairing (ServiceVersion.SameAs stored)
      (left.releaseVersion interpreter moments serviceName version gitSha imageTag checksumSha256 actor reason)
      (right.releaseVersion interpreter moments serviceName version gitSha imageTag checksumSha256 actor reason) := by
  apply Corresponds.bind (methods.readVersion serviceName version)
  rintro current _ ⟨metadata, dependencies, _, _, rfl⟩
  dsimp only
  split
  · exact methods.raises _ _
  · cases SemVer.parse interpreter.digits version with
    | error error => exact methods.raises _ _
    | ok semver =>
        dsimp only
        split
        · exact methods.raises _ _
        · apply Corresponds.bind (methods.updateVersionRelease _ _ _ _ _ _)
          intro record record' same
          exact methods.recordAndRead same _ _ _ _ _ _ _

theorem deprecateVersion (moments : Moments) (serviceName version actor reason : Text) :
    Corresponds pairing (ServiceVersion.SameAs stored) (left.deprecateVersion moments serviceName version actor reason)
      (right.deprecateVersion moments serviceName version actor reason) := by
  apply Corresponds.bind (methods.readVersion serviceName version)
  rintro current _ ⟨metadata, dependencies, _, _, rfl⟩
  dsimp only
  split
  · exact methods.raises _ _
  · apply Corresponds.bind (methods.updateVersionStatus _ _ _ _)
    intro record record' same
    exact methods.recordAndRead same _ _ _ _ _ _ _

theorem retireVersion (moments : Moments) (serviceName version actor reason : Text) :
    Corresponds pairing (ServiceVersion.SameAs stored) (left.retireVersion moments serviceName version actor reason)
      (right.retireVersion moments serviceName version actor reason) := by
  apply Corresponds.bind (methods.readVersion serviceName version)
  rintro current _ ⟨metadata, dependencies, _, _, rfl⟩
  dsimp only
  split
  · exact methods.raises _ _
  · apply Corresponds.bind (methods.updateVersionStatus _ _ _ _)
    intro record record' same
    exact methods.recordAndRead same _ _ _ _ _ _ _

/-- Every request is answered alike. -/
theorem answer (request : VersioningRequest) :
    Corresponds pairing (VersioningReply.SameAs stored) (left.answer interpreter request)
      (right.answer interpreter request) := by
  have version : forall first second, ServiceVersion.SameAs stored first second ->
      Corresponds pairing (VersioningReply.SameAs stored)
        (pure (.version first) : EStateM E S VersioningReply) (pure (.version second) : EStateM F T VersioningReply) :=
    fun _ _ same => Corresponds.pure (VersioningReply.SameAs.version same)
  cases request with
  | getVersion serviceName version' => exact Corresponds.bind (methods.readVersion serviceName version') version
  | call call =>
      cases call with
      | registerService now payload =>
          apply Corresponds.bind (methods.upsertService _ _ _ _)
          rintro record _ rfl
          exact Corresponds.pure (VersioningReply.SameAs.service record)
      | createVersion moments serviceName payload =>
          exact Corresponds.bind (methods.createVersion moments serviceName payload) version
      | releaseVersion moments serviceName version' gitSha imageTag checksumSha256 actor reason =>
          exact Corresponds.bind
            (methods.releaseVersion moments serviceName version' gitSha imageTag checksumSha256 actor reason) version
      | deprecateVersion moments serviceName version' actor reason =>
          exact Corresponds.bind (methods.deprecateVersion moments serviceName version' actor reason) version
      | retireVersion moments serviceName version' actor reason =>
          exact Corresponds.bind (methods.retireVersion moments serviceName version' actor reason) version

end Correspond
end VersionStore
end Correspondence

end Versioning
end ApexQuant
