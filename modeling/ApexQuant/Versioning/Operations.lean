import ApexQuant.Versioning.Service

namespace ApexQuant
namespace Versioning

open Foundation

/-!
# What the operations do

An operation that raises has not written anything: all checks come first, and what is
written can be read back.  An operation that returns has created a version or moved
one to its next status, and has left an event for it.
-/

/-- The events of a version that has come to a status. -/
def LifecycleStatus.history : LifecycleStatus -> List EventType
  | .draft => [.versionCreated]
  | .released => [.versionCreated, .versionReleased]
  | .deprecated => [.versionCreated, .versionReleased, .versionDeprecated]
  | .retired => [.versionCreated, .versionReleased, .versionDeprecated, .versionRetired]

/-- What a release stores. -/
def VersionRecord.artifact (record : VersionRecord) : Option Text × Option Text × Option Text :=
  (record.gitSha, record.imageTag, record.checksumSha256)

/-- The dates that are set are those of the status. -/
structure VersionRecord.Dated (record : VersionRecord) : Prop where
  released : record.releasedAt.isSome = true <-> record.status ≠ .draft
  deprecated : record.deprecatedAt.isSome = true <-> record.status = .deprecated ∨ record.status = .retired
  retired : record.retiredAt.isSome = true <-> record.status = .retired

/-! ## Programs that only read -/

/-- The program leaves the repository alone, whether it returns or raises. -/
def ReadOnly {A : Type} (program : Repository A) : Prop :=
  forall repository, (Exists fun answer => program repository = .ok answer repository) ∨
    Exists fun failure => program repository = .error failure repository

namespace ReadOnly

variable {A B : Type}

theorem pure (answer : A) : ReadOnly (Pure.pure answer) :=
  fun _ => Or.inl ⟨answer, rfl⟩

theorem throw (failure : Failure) : ReadOnly (MonadExcept.throw failure : Repository A) :=
  fun _ => Or.inr ⟨failure, rfl⟩

theorem bind {first : Repository A} {rest : A -> Repository B} (begins : ReadOnly first)
    (continues : forall answer, ReadOnly (rest answer)) : ReadOnly (first >>= rest) := by
  intro repository
  rcases begins repository with ⟨answer, ran⟩ | ⟨failure, ran⟩
  · rcases continues answer repository with ⟨other, ended⟩ | ⟨failure, ended⟩
    · exact Or.inl ⟨other, (Run.bind_run_of_ok ran).trans ended⟩
    · exact Or.inr ⟨failure, (Run.bind_run_of_ok ran).trans ended⟩
  · refine Or.inr ⟨failure, ?_⟩
    change EStateM.bind first rest repository = _
    unfold EStateM.bind
    rw [ran]

theorem get_bind {rest : InMemoryRepository -> Repository B} (continues : forall repository, ReadOnly (rest repository)) :
    ReadOnly (MonadState.get >>= rest) :=
  fun repository => continues repository repository

end ReadOnly

namespace VersioningService

variable (interpreter : Interpreter)

theorem parseVersion_readOnly (describe : Text -> Text) (value : Text) :
    ReadOnly (parseVersion interpreter describe value) := by
  unfold parseVersion
  cases SemVer.parse interpreter.digits value with
  | ok version => exact ReadOnly.pure version
  | error error => cases error <;> exact ReadOnly.throw _

theorem getVersion_readOnly (serviceName version : Text) : ReadOnly (getVersion serviceName version) := by
  unfold getVersion
  apply ReadOnly.get_bind
  intro repository
  split
  · exact ReadOnly.throw _
  · split
    · exact ReadOnly.throw _
    · exact ReadOnly.pure _

theorem dependencyRecords_readOnly (serviceName : Text) (seen : List Text) (dependencies : List DependencySpec) :
    ReadOnly (dependencyRecords interpreter serviceName seen dependencies) := by
  induction dependencies generalizing seen with
  | nil => exact ReadOnly.pure []
  | cons dependency dependencies inductionHypothesis =>
      unfold dependencyRecords
      split
      · exact ReadOnly.throw _
      · split
        · exact ReadOnly.throw _
        · apply ReadOnly.get_bind
          intro repository
          split
          · exact ReadOnly.throw _
          · apply ReadOnly.bind (parseVersion_readOnly interpreter _ _)
            intro _
            exact ReadOnly.bind (inductionHypothesis _) fun _ => ReadOnly.pure _

theorem checkMinimum_readOnly (minimum : Option Text) : ReadOnly (checkMinimum interpreter minimum) := by
  cases minimum with
  | none => exact ReadOnly.pure ()
  | some minimum => exact ReadOnly.bind (parseVersion_readOnly interpreter _ _) fun _ => ReadOnly.pure _

theorem checkCreation_readOnly (serviceName : Text) (payload : VersionCreate) :
    ReadOnly (checkCreation interpreter serviceName payload) := by
  unfold checkCreation
  apply ReadOnly.get_bind
  intro repository
  split
  · exact ReadOnly.throw _
  · apply ReadOnly.bind (parseVersion_readOnly interpreter _ _)
    intro semver
    apply ReadOnly.bind (checkMinimum_readOnly interpreter _)
    intro _
    split
    · exact ReadOnly.throw _
    · exact ReadOnly.bind (dependencyRecords_readOnly interpreter _ _ _) fun _ => ReadOnly.pure _

/-! ## What the checks establish -/

variable {interpreter}

theorem ok_of_parseVersion {describe : Text -> Text} {value : Text} {version : SemVer}
    {repository after : InMemoryRepository}
    (returned : parseVersion interpreter describe value repository = .ok version after) :
    SemVer.parse interpreter.digits value = .ok version := by
  unfold parseVersion at returned
  cases parsed : SemVer.parse interpreter.digits value with
  | ok other =>
      rw [parsed] at returned
      exact congrArg Except.ok (EStateM.Result.ok.inj returned).1
  | error error =>
      rw [parsed] at returned
      cases error <;> exact absurd returned nofun

theorem readDependency_of_spec (dependency : DependencySpec) :
    readDependency { serviceName := dependency.serviceName, minVersion := dependency.minVersion } = some dependency :=
  dif_pos ⟨dependency.named, dependency.long⟩

/-- The dependencies that are stored can be read. -/
theorem readable_of_dependencyRecords {serviceName : Text} {seen : List Text} {dependencies : List DependencySpec}
    {records : List DependencyRecord} {repository after : InMemoryRepository}
    (returned : dependencyRecords interpreter serviceName seen dependencies repository = .ok records after) :
    records.mapM readDependency = some dependencies := by
  induction dependencies generalizing seen records repository after with
  | nil =>
      rw [← (EStateM.Result.ok.inj returned).1]
      rfl
  | cons dependency dependencies inductionHypothesis =>
      unfold dependencyRecords at returned
      split at returned
      · exact absurd returned nofun
      · split at returned
        · exact absurd returned nofun
        · rcases Run.ok_of_bind_run returned with ⟨read, between, got, returned⟩
          cases known : read.getService dependency.serviceName with
          | none =>
              rw [known] at returned
              exact absurd returned nofun
          | some service =>
              rw [known] at returned
              rcases Run.ok_of_bind_run returned with ⟨_, _, -, returned⟩
              rcases Run.ok_of_bind_run returned with ⟨others, _, checked, returned⟩
              rw [← (EStateM.Result.ok.inj returned).1, List.mapM_cons, readDependency_of_spec,
                inductionHypothesis checked]
              rfl

/-- What is known of a version that is going to be created. -/
theorem ok_of_checkCreation {serviceName : Text} {payload : VersionCreate} {semver : SemVer}
    {records : List DependencyRecord} {repository after : InMemoryRepository}
    (returned : checkCreation interpreter serviceName payload repository = .ok (semver, records) after) :
    (Exists fun service => repository.services.get serviceName = some service) ∧
      SemVer.parse interpreter.digits payload.version = .ok semver ∧
      repository.versions.get (versionKey serviceName payload.version) = none ∧
      records.mapM readDependency = some payload.dependencies := by
  unfold checkCreation at returned
  rcases Run.ok_of_bind_run returned with ⟨read, between, got, returned⟩
  cases got
  cases known : repository.getService serviceName with
  | none =>
      rw [known] at returned
      exact absurd returned nofun
  | some service =>
      rw [known] at returned
      rcases Run.ok_of_bind_run returned with ⟨version, between, parsed, returned⟩
      rcases Run.ok_of_bind_run returned with ⟨_, last, -, returned⟩
      cases existing : repository.getVersion serviceName payload.version with
      | some record =>
          rw [existing] at returned
          exact absurd returned nofun
      | none =>
          rw [existing] at returned
          rcases Run.ok_of_bind_run returned with ⟨checked, _, listed, returned⟩
          cases (EStateM.Result.ok.inj returned).1
          exact ⟨⟨service, known⟩, ok_of_parseVersion parsed, existing, readable_of_dependencyRecords listed⟩

/-- A version whose dependencies can be read is read. -/
theorem getVersion_run {serviceName version : Text} {repository : InMemoryRepository} {record : VersionRecord}
    {dependencies : List DependencySpec}
    (found : repository.versions.get (versionKey serviceName version) = some record)
    (readable : (repository.getDependencies record.versionId).mapM readDependency = some dependencies) :
    Exists fun answer => getVersion serviceName version repository = .ok answer repository := by
  have got : (get : Repository InMemoryRepository) repository = .ok repository repository := rfl
  unfold getVersion
  rw [Run.bind_run_of_ok got]
  unfold InMemoryRepository.getVersion
  rw [found]
  dsimp only
  rw [readable]
  exact ⟨_, rfl⟩

theorem found_of_getVersion {serviceName version : Text} {repository after : InMemoryRepository}
    {answer : ServiceVersion} (returned : getVersion serviceName version repository = .ok answer after) :
    Exists fun record => repository.versions.get (versionKey serviceName version) = some record ∧
      answer.status = record.status ∧
      Exists fun dependencies =>
        (repository.getDependencies record.versionId).mapM readDependency = some dependencies := by
  unfold getVersion at returned
  rcases Run.ok_of_bind_run returned with ⟨read, between, got, returned⟩
  cases got
  cases found : repository.getVersion serviceName version with
  | none =>
      rw [found] at returned
      exact absurd returned nofun
  | some record =>
      rw [found] at returned
      dsimp only at returned
      cases readable : (repository.getDependencies record.versionId).mapM readDependency with
      | none =>
          rw [readable] at returned
          exact absurd returned nofun
      | some dependencies =>
          rw [readable] at returned
          rw [← (EStateM.Result.ok.inj returned).1]
          exact ⟨record, found, rfl, dependencies, readable⟩

end VersioningService

/-! ## Dates -/

namespace VersionRecord

variable {record changed : VersionRecord}

theorem dated_of_draft (status : record.status = .draft) (released : record.releasedAt = none)
    (deprecated : record.deprecatedAt = none) (retired : record.retiredAt = none) : record.Dated := by
  constructor
  · rw [released, status]
    decide
  · rw [deprecated, status]
    decide
  · rw [retired, status]
    decide

theorem Dated.release (dated : record.Dated) (draft : record.status = .draft) (status : changed.status = .released)
    (released : changed.releasedAt.isSome = true) (deprecated : changed.deprecatedAt = record.deprecatedAt)
    (retired : changed.retiredAt = record.retiredAt) : changed.Dated := by
  constructor
  · rw [released, status]
    decide
  · rw [deprecated, dated.deprecated, status, draft]
    decide
  · rw [retired, dated.retired, status, draft]
    decide

theorem Dated.deprecate (dated : record.Dated) (current : record.status = .released)
    (status : changed.status = .deprecated) (released : changed.releasedAt = record.releasedAt)
    (deprecated : changed.deprecatedAt.isSome = true) (retired : changed.retiredAt = record.retiredAt) :
    changed.Dated := by
  constructor
  · rw [released, dated.released, status, current]
    decide
  · rw [deprecated, status]
    decide
  · rw [retired, dated.retired, status, current]
    decide

theorem Dated.retire (dated : record.Dated) (current : record.status = .deprecated) (status : changed.status = .retired)
    (released : changed.releasedAt = record.releasedAt) (deprecated : changed.deprecatedAt = record.deprecatedAt)
    (retired : changed.retiredAt.isSome = true) : changed.Dated := by
  constructor
  · rw [released, dated.released, status, current]
    decide
  · rw [deprecated, dated.deprecated, status, current]
    decide
  · rw [retired, status]
    decide

end VersionRecord

/-! ## What a call does -/

/-- A version has been written under a key, with an event. -/
structure Wrote (before after : InMemoryRepository) (key : Text) (record : VersionRecord) (eventType : EventType) :
    Prop where
  services : after.services = before.services
  versions : after.versions = before.versions.set key record
  events : Exists fun event =>
    after.events = before.events ++ [event] ∧ event.versionId = record.versionId ∧ event.eventType = eventType
  drawn : before.drawn < after.drawn

/-- The version has been created. -/
structure Creates (interpreter : Interpreter) (serviceName version : Text) (record : VersionRecord)
    (before after : InMemoryRepository) : Prop where
  known : Exists fun service => before.services.get serviceName = some service
  parsed : SemVer.parse interpreter.digits version = .ok record.semver
  fresh : before.versions.get (versionKey serviceName version) = none
  named : record.serviceName = serviceName ∧ record.version = version
  identified : record.versionId = interpreter.uuid before.drawn
  draft : record.status = .draft
  dated : record.Dated
  wrote : Wrote before after (versionKey serviceName version) record .versionCreated

/-- The version has moved to its next status. -/
structure Advances (interpreter : Interpreter) (serviceName version : Text) (eventType : EventType)
    (record changed : VersionRecord) (before after : InMemoryRepository) : Prop where
  found : before.versions.get (versionKey serviceName version) = some record
  same : changed.versionId = record.versionId ∧ changed.serviceName = record.serviceName ∧
    changed.version = record.version ∧ changed.semver = record.semver
  history : changed.status.history = record.status.history ++ [eventType]
  dated : record.Dated -> changed.Dated
  stable : record.status = .draft -> Exists fun semver =>
    SemVer.parse interpreter.digits version = .ok semver ∧ semver.isStable = true
  released : changed.status ≠ .draft
  artifact : record.status ≠ .draft -> changed.artifact = record.artifact
  wrote : Wrote before after (versionKey serviceName version) changed eventType

namespace VersioningService

variable {interpreter : Interpreter} {moments : Moments} {serviceName version : Text} {repository : InMemoryRepository}

theorem createVersion_cases (payload : VersionCreate) :
    (Exists fun failure =>
      createVersion interpreter moments serviceName payload repository = .error failure repository) ∨
    Exists fun answer => Exists fun after => Exists fun record =>
      createVersion interpreter moments serviceName payload repository = .ok answer after ∧
        Creates interpreter serviceName payload.version record repository after := by
  rcases checkCreation_readOnly interpreter serviceName payload repository with ⟨⟨semver, records⟩, checked⟩ |
    ⟨failure, refused⟩
  · right
    rcases ok_of_checkCreation checked with ⟨known, parsed, fresh, readable⟩
    let record : VersionRecord :=
      { versionId := interpreter.uuid repository.drawn
        serviceName := serviceName
        version := payload.version
        semver := semver
        gitSha := payload.gitSha
        imageTag := payload.imageTag
        apiVersion := payload.apiVersion
        minCompatibleVersion := payload.minCompatibleVersion
        status := .draft
        checksumSha256 := none
        metadata := payload.metadata
        createdAt := moments.updatedAt
        releasedAt := none
        deprecatedAt := none
        retiredAt := none
        updatedAt := moments.updatedAt }
    let event : EventRecord :=
      { eventId := interpreter.uuid (repository.drawn + 1)
        versionId := record.versionId
        eventType := .versionCreated
        actor := "system".toList
        reason := "version draft created".toList
        details := [("version".toList, payload.version)]
        occurredAt := moments.occurredAt }
    let after : InMemoryRepository :=
      { services := repository.services
        versions := repository.versions.set (versionKey serviceName payload.version) record
        dependencies := (repository.dependencies.set record.versionId []).set record.versionId records
        events := repository.events ++ [event]
        drawn := repository.drawn + 2 }
    have inserted : InMemoryRepository.insertVersion interpreter moments.updatedAt serviceName payload.version semver
        .draft payload.gitSha payload.imageTag payload.apiVersion payload.minCompatibleVersion none payload.metadata
        repository = .ok record
          { repository with
            versions := repository.versions.set (versionKey serviceName payload.version) record
            dependencies := repository.dependencies.set record.versionId []
            drawn := repository.drawn + 1 } := by
      unfold InMemoryRepository.insertVersion
      rw [fresh]
      rfl
    have ran : createVersion interpreter moments serviceName payload repository =
        getVersion serviceName payload.version after := by
      unfold createVersion
      rw [Run.bind_run_of_ok checked]
      dsimp only
      rw [Run.bind_run_of_ok inserted]
      rfl
    have found : after.versions.get (versionKey serviceName payload.version) = some record :=
      Dictionary.get_set_self _ _ _
    have listed : after.getDependencies record.versionId = records := by
      unfold InMemoryRepository.getDependencies
      rw [Dictionary.get_set_self]
      rfl
    rcases getVersion_run found (listed ▸ readable) with ⟨answer, read⟩
    refine ⟨answer, after, record, ran.trans read, known, parsed, fresh, ⟨rfl, rfl⟩, rfl, rfl, ?_, rfl, rfl,
      ⟨event, rfl, rfl, rfl⟩, Nat.lt_add_of_pos_right (by decide)⟩
    exact VersionRecord.dated_of_draft rfl rfl rfl rfl
  · left
    refine ⟨failure, ?_⟩
    unfold createVersion
    change EStateM.bind _ _ repository = _
    unfold EStateM.bind
    rw [refused]

/-- A version that has been read is updated, and read again. -/
theorem update_run {current : ServiceVersion} (read : getVersion serviceName version repository = .ok current repository)
    {change : VersionRecord -> VersionRecord} (sameId : forall record, (change record).versionId = record.versionId)
    (now : Int) (eventType : EventType) (actor reason : Text) (details : List (Text × Text)) :
    Exists fun record => Exists fun answer => Exists fun after =>
      repository.versions.get (versionKey serviceName version) = some record ∧ current.status = record.status ∧
        (do
          let record ← InMemoryRepository.updateVersion serviceName version change
          InMemoryRepository.insertEvent interpreter now record.versionId eventType actor reason details
          getVersion serviceName version : Repository ServiceVersion) repository = .ok answer after ∧
        Wrote repository after (versionKey serviceName version) (change record) eventType := by
  rcases found_of_getVersion read with ⟨record, found, status, dependencies, readable⟩
  let event : EventRecord :=
    { eventId := interpreter.uuid repository.drawn
      versionId := (change record).versionId
      eventType := eventType
      actor := actor
      reason := reason
      details := details
      occurredAt := now }
  let after : InMemoryRepository :=
    { repository with
      versions := repository.versions.set (versionKey serviceName version) (change record)
      events := repository.events ++ [event]
      drawn := repository.drawn + 1 }
  have updated : InMemoryRepository.updateVersion serviceName version change repository = .ok (change record)
      { repository with
        versions := repository.versions.set (versionKey serviceName version) (change record) } := by
    unfold InMemoryRepository.updateVersion
    rw [found]
  have foundAfter : after.versions.get (versionKey serviceName version) = some (change record) :=
    Dictionary.get_set_self _ _ _
  have listed : (after.getDependencies (change record).versionId).mapM readDependency = some dependencies := by
    rw [sameId]
    exact readable
  rcases getVersion_run foundAfter listed with ⟨answer, again⟩
  refine ⟨record, answer, after, found, status, ?_, rfl, rfl, ⟨event, rfl, rfl, rfl⟩, Nat.lt_succ_self _⟩
  rw [Run.bind_run_of_ok updated]
  exact again

/-- A call that checks the status of a version first. -/
theorem checked_cases {expected : LifecycleStatus} {refusal : ServiceVersion -> Failure} {rest : Repository ServiceVersion}
    {Done : InMemoryRepository -> Prop}
    (continues : forall current, getVersion serviceName version repository = .ok current repository ->
      current.status = expected ->
        (Exists fun failure => rest repository = .error failure repository) ∨
          Exists fun answer => Exists fun after => rest repository = .ok answer after ∧ Done after) :
    (Exists fun failure =>
      (do
        let current ← getVersion serviceName version
        if current.status ≠ expected then throw (refusal current) else rest : Repository ServiceVersion) repository =
          .error failure repository) ∨
      Exists fun answer => Exists fun after =>
        (do
          let current ← getVersion serviceName version
          if current.status ≠ expected then throw (refusal current) else rest : Repository ServiceVersion) repository =
            .ok answer after ∧ Done after := by
  rcases getVersion_readOnly serviceName version repository with ⟨current, read⟩ | ⟨failure, refused⟩
  · rw [Run.bind_run_of_ok read]
    by_cases status : current.status ≠ expected
    · rw [if_pos status]
      exact Or.inl ⟨_, rfl⟩
    · rw [if_neg status]
      exact continues current read (not_not.mp status)
  · refine Or.inl ⟨failure, ?_⟩
    change EStateM.bind _ _ repository = _
    unfold EStateM.bind
    rw [refused]

theorem releaseVersion_cases (gitSha imageTag checksumSha256 actor reason : Text) :
    (Exists fun failure =>
      releaseVersion interpreter moments serviceName version gitSha imageTag checksumSha256 actor reason repository =
        .error failure repository) ∨
      Exists fun answer => Exists fun after =>
        releaseVersion interpreter moments serviceName version gitSha imageTag checksumSha256 actor reason repository =
            .ok answer after ∧
          Exists fun record => Exists fun changed =>
            Advances interpreter serviceName version .versionReleased record changed repository after := by
  apply checked_cases
  intro current read status
  cases parsed : SemVer.parse interpreter.digits version with
  | error error => exact Or.inl ⟨.uncaught error, rfl⟩
  | ok semver =>
      dsimp only
      by_cases unstable : semver.isStable = false
      · rw [if_pos unstable]
        exact Or.inl ⟨_, rfl⟩
      · rw [if_neg unstable]
        have sameId : forall record, (VersionRecord.release moments.updatedAt gitSha imageTag checksumSha256
            record).versionId = record.versionId := fun _ => rfl
        rcases update_run read sameId moments.occurredAt .versionReleased actor reason
            [("git_sha".toList, gitSha), ("image_tag".toList, imageTag), ("checksum_sha256".toList, checksumSha256)] with
          ⟨record, answer, after, found, same, ran, wrote⟩
        have draft : record.status = .draft := same.symm.trans status
        have next : LifecycleStatus.released ≠ .draft := nofun
        refine Or.inr ⟨answer, after, ran, record, VersionRecord.release moments.updatedAt gitSha imageTag checksumSha256
          record, found, ⟨rfl, rfl, rfl, rfl⟩, ?_, ?_, ?_, next, ?_, wrote⟩
        · rw [draft]
          rfl
        · exact fun dated => dated.release draft rfl rfl rfl rfl
        · exact fun _ => ⟨semver, parsed, Bool.eq_true_of_not_eq_false unstable⟩
        · exact fun released => absurd draft released

theorem deprecateVersion_cases (actor reason : Text) :
    (Exists fun failure =>
      deprecateVersion interpreter moments serviceName version actor reason repository = .error failure repository) ∨
      Exists fun answer => Exists fun after =>
        deprecateVersion interpreter moments serviceName version actor reason repository = .ok answer after ∧
          Exists fun record => Exists fun changed =>
            Advances interpreter serviceName version .versionDeprecated record changed repository after := by
  apply checked_cases
  intro current read status
  have sameId : forall record, (VersionRecord.moveTo moments.updatedAt .deprecated record).versionId =
      record.versionId := fun _ => rfl
  rcases update_run read sameId moments.occurredAt .versionDeprecated actor reason [] with
    ⟨record, answer, after, found, same, ran, wrote⟩
  have released : record.status = .released := same.symm.trans status
  have next : LifecycleStatus.deprecated ≠ .draft := nofun
  refine Or.inr ⟨answer, after, ran, record, VersionRecord.moveTo moments.updatedAt .deprecated record, found,
    ⟨rfl, rfl, rfl, rfl⟩, ?_, ?_, ?_, next, fun _ => rfl, wrote⟩
  · rw [released]
    rfl
  · exact fun dated => dated.deprecate released rfl rfl rfl rfl
  · exact fun draft => absurd (released.symm.trans draft) nofun

theorem retireVersion_cases (actor reason : Text) :
    (Exists fun failure =>
      retireVersion interpreter moments serviceName version actor reason repository = .error failure repository) ∨
      Exists fun answer => Exists fun after =>
        retireVersion interpreter moments serviceName version actor reason repository = .ok answer after ∧
          Exists fun record => Exists fun changed =>
            Advances interpreter serviceName version .versionRetired record changed repository after := by
  apply checked_cases
  intro current read status
  have sameId : forall record, (VersionRecord.moveTo moments.updatedAt .retired record).versionId =
      record.versionId := fun _ => rfl
  rcases update_run read sameId moments.occurredAt .versionRetired actor reason [] with
    ⟨record, answer, after, found, same, ran, wrote⟩
  have deprecated : record.status = .deprecated := same.symm.trans status
  have next : LifecycleStatus.retired ≠ .draft := nofun
  refine Or.inr ⟨answer, after, ran, record, VersionRecord.moveTo moments.updatedAt .retired record, found,
    ⟨rfl, rfl, rfl, rfl⟩, ?_, ?_, ?_, next, fun _ => rfl, wrote⟩
  · rw [deprecated]
    rfl
  · exact fun dated => dated.retire deprecated rfl rfl rfl rfl
  · exact fun draft => absurd (deprecated.symm.trans draft) nofun

end VersioningService

/-- What a call that has returned has done. -/
inductive Performed (interpreter : Interpreter) (call : VersioningCall) (before after : InMemoryRepository) : Prop where
  | registered (serviceName : Text) (service : ServiceRecord) (noEffect : call.effect = none)
      (named : isServiceName serviceName = true)
      (result : after = { before with services := before.services.set serviceName service })
  | created (serviceName version : Text) (record : VersionRecord)
      (effect : call.effect = some ((serviceName, version), .versionCreated))
      (creates : Creates interpreter serviceName version record before after)
  | advanced (serviceName version : Text) (eventType : EventType) (record changed : VersionRecord)
      (effect : call.effect = some ((serviceName, version), eventType))
      (advances : Advances interpreter serviceName version eventType record changed before after)

/-- The call raises and leaves everything alone, or it returns and has done its work. -/
theorem VersioningCall.run_cases (interpreter : Interpreter) (call : VersioningCall) (repository : InMemoryRepository) :
    (Exists fun failure => call.run interpreter repository = .error failure repository) ∨
      Exists fun after => call.run interpreter repository = .ok () after ∧ Performed interpreter call repository after := by
  have raises : forall {A : Type} {program : Repository A} {failure : Failure},
      program repository = .error failure repository ->
        (do let _ ← program : Repository Unit) repository = .error failure repository := by
    intro A program failure failed
    change EStateM.bind _ _ repository = _
    unfold EStateM.bind
    rw [failed]
  cases call with
  | registerService now payload =>
      refine Or.inr ⟨_, rfl, ?_⟩
      exact Performed.registered payload.serviceName _ rfl payload.named rfl
  | createVersion moments serviceName payload =>
      rcases VersioningService.createVersion_cases payload with ⟨failure, failed⟩ |
        ⟨answer, after, record, ran, creates⟩
      · exact Or.inl ⟨failure, raises failed⟩
      · exact Or.inr ⟨after, Run.bind_run_of_ok ran, Performed.created _ _ record rfl creates⟩
  | releaseVersion moments serviceName version gitSha imageTag checksumSha256 actor reason =>
      rcases VersioningService.releaseVersion_cases gitSha imageTag checksumSha256 actor reason with
        ⟨failure, failed⟩ | ⟨answer, after, ran, record, changed, advances⟩
      · exact Or.inl ⟨failure, raises failed⟩
      · exact Or.inr ⟨after, Run.bind_run_of_ok ran, Performed.advanced _ _ _ record changed rfl advances⟩
  | deprecateVersion moments serviceName version actor reason =>
      rcases VersioningService.deprecateVersion_cases actor reason with
        ⟨failure, failed⟩ | ⟨answer, after, ran, record, changed, advances⟩
      · exact Or.inl ⟨failure, raises failed⟩
      · exact Or.inr ⟨after, Run.bind_run_of_ok ran, Performed.advanced _ _ _ record changed rfl advances⟩
  | retireVersion moments serviceName version actor reason =>
      rcases VersioningService.retireVersion_cases actor reason with
        ⟨failure, failed⟩ | ⟨answer, after, ran, record, changed, advances⟩
      · exact Or.inl ⟨failure, raises failed⟩
      · exact Or.inr ⟨after, Run.bind_run_of_ok ran, Performed.advanced _ _ _ record changed rfl advances⟩

end Versioning
end ApexQuant
