import ApexQuant.Backup.Confidentiality
import ApexQuant.Foundation.Watch

namespace ApexQuant
namespace Backup

open Foundation
open Foundation.Faults

/-!
# What the runner is given

The service with every call of the runner noted: the command, and the world when it is
given.  Without the notes it is the service.  A restore is a command that the service
gives to the runner only behind all of its gates; the commands of a backup and of a
verification are others.
-/

/-- A call of the runner. -/
structure Invocation where
  command : List Text
  world : World

/-- A program of the service with its runner watched. -/
abbrev Watching (A : Type) := Program BackupFailure (Watched World Invocation) A

namespace Watching

variable (deployment : Deployment)

/-- `runner.run`, noted when it is called. -/
def invoke {A : Type} (command : List Text) (run : Service A) : Watching A := do
  note (Invocation.mk command)
  unlogged run

/-- `create_backup` after its command has ended, up to the artifact. -/
def recordArtifact (draws : BackupDraws) (policy : BackupPolicy) (run : BackupRun) (outputPath : Text) :
    Service BackupArtifact := do
  let bytes ← inspect (World.readFile outputPath)
  let key := BackupService.storageKey policy run.runId
  let uri ← call (World.uploadFile deployment.uri outputPath key)
  let artifact : BackupArtifact :=
    { artifactId := draws.artifactId
      runId := run.runId
      policyId := policy.policyId
      targetSystem := policy.targetSystem
      targetName := policy.targetName
      storageKey := key
      uri := uri
      sizeBytes := bytes.length
      checksumSha256 := deployment.sha256 bytes
      encryptionKeyRef := policy.encryptionKeyRef
      status := .active
      createdAt := draws.createdAt
      expiresAt := policy.retentionDays.map fun days => draws.expiresFrom + days * microsecondsPerDay }
  call (World.createArtifact artifact)
  pure artifact

def storeArtifact (draws : BackupDraws) (policy : BackupPolicy) (run : BackupRun) : Watching BackupArtifact := do
  let resolvedConnection ← unlogged (inspect fun _ =>
    resolveConnectionRef deployment.environ policy.targetConnectionRef)
  let backupCommand ← unlogged (inspect fun _ =>
    buildBackupCommand policy deployment.workdir (uuidText run.runId) resolvedConnection)
  invoke backupCommand.command (BackupService.dump backupCommand policy.backupTimeoutSeconds draws.execution)
  unlogged (recordArtifact deployment draws policy run backupCommand.outputPath)

/-- `create_backup`. -/
def createBackup (draws : BackupDraws) (policyId : Id) (trigger : Text) : Watching BackupRun := do
  let found ← unlogged (ask (World.getPolicy policyId))
  match found with
  | none => throw (.raised .notFound ("backup policy not found: ".toList ++ uuidText policyId))
  | some policy =>
      if policy.enabled = false then throw (.raised .backup ("backup policy is disabled: ".toList ++ policy.name))
      else do
        let run ← unlogged (call (World.createRun
          { runId := draws.runId
            policyId := policyId
            trigger := trigger
            status := .running
            startedAt := draws.startedAt
            completedAt := none
            artifactUri := none
            artifactSizeBytes := none
            checksumSha256 := none
            error := none
            verificationStatus := none
            lastVerifiedAt := none }))
        let artifact ← handle (storeArtifact deployment draws policy run) fun failure =>
          unlogged (BackupService.failRun deployment draws run failure)
        let run := BackupService.finished draws run artifact
        unlogged (handle (BackupService.finishRun draws policy run) (BackupService.failRun deployment draws run))

/-- The part of the `try` block of `verify_backup` before it touches the run. -/
def checkArtifact (draws : VerifyDraws) (policy : BackupPolicy) (artifact : BackupArtifact) (localPath : Text) :
    Watching Unit := do
  unlogged (call (World.downloadFile artifact.storageKey localPath))
  let bytes ← unlogged (inspect (World.readFile localPath))
  if deployment.sha256 bytes ≠ artifact.checksumSha256 then
    throw (.raised .backup "backup artifact checksum mismatch; backup is corrupt".toList)
  invoke (buildVerifyCommand localPath) (inspect fun _ =>
    (runCommand (buildVerifyCommand localPath) (some policy.backupTimeoutSeconds) draws.outcome).map fun _ => ())

/-- `verify_backup`. -/
def verifyBackup (draws : VerifyDraws) (runId : Id) : Watching BackupRun := do
  let foundRun ← unlogged (ask (World.getRun runId))
  match foundRun with
  | none => throw (.raised .notFound ("backup run not found: ".toList ++ uuidText runId))
  | some run => do
      let foundArtifact ← unlogged (ask (World.getArtifactByRun runId))
      match foundArtifact with
      | none => throw (.raised .notFound ("backup artifact not found for run: ".toList ++ uuidText runId))
      | some artifact => do
          let foundPolicy ← unlogged (ask (World.getPolicy run.policyId))
          match foundPolicy with
          | none => throw (.raised .notFound ("backup policy not found: ".toList ++ uuidText run.policyId))
          | some policy => do
              let localPath := inDirectory deployment.workdir ("verify-".toList ++ uuidText runId ++ ".dump".toList)
              handle (checkArtifact deployment draws policy artifact localPath) fun failure =>
                unlogged (BackupService.failVerification deployment run failure)
              let run :=
                { run with
                  verificationStatus := some "SUCCEEDED".toList
                  lastVerifiedAt := some draws.verifiedAt }
              unlogged (handle (do
                  tell (World.updateRun run)
                  pure run)
                (BackupService.failVerification deployment run))

/-- The part of `restore_backup` that runs the command. -/
def executeRestore (draws : RestoreDraws) (command : List Text) (restore : RestoreRun) : Watching RestoreRun := do
  invoke command (inspect fun _ => (runCommand command none draws.outcome).map fun _ => ())
  let restore := { restore with status := .succeeded, completedAt := some draws.completedAt }
  unlogged (tell (World.updateRestore restore))
  pure restore

/-- The part of `restore_backup` that records the restore and carries it out. -/
def recordRestore (draws : RestoreDraws) (runId : Id) (request : RestoreRequest)
    (resolvedTargetConnection localPath : Text) : Watching RestoreRun := do
  let command := buildRestoreCommand localPath resolvedTargetConnection
  let redactedCommand ← unlogged (inspect fun _ => (redactCommand deployment.packages command).mapError .url)
  let redactedConnection ← unlogged (inspect fun _ =>
    (redactUrl deployment.packages resolvedTargetConnection).mapError .url)
  let restore ← unlogged (call (World.createRestore
    { restoreId := draws.restoreId
      backupRunId := runId
      targetConnectionRef := request.targetConnectionRef
      targetConnectionRedacted := redactedConnection
      commandRedacted := some ([' '].intercalate redactedCommand)
      status := if request.dryRun then .dryRun else .running
      dryRun := request.dryRun
      startedAt := draws.startedAt
      completedAt := none
      error := none }))
  if request.dryRun then
    let restore := { restore with completedAt := some draws.completedAt }
    unlogged (do
      tell (World.updateRestore restore)
      pure restore)
  else
    handle (executeRestore draws command restore) fun failure =>
      unlogged (BackupService.failRestore deployment draws restore failure)

/-- `restore_backup`. -/
def restoreBackup (draws : RestoreDraws) (runId : Id) (request : RestoreRequest) : Watching RestoreRun := do
  let foundRun ← unlogged (ask (World.getRun runId))
  match foundRun with
  | none => throw (.raised .notFound ("backup run not found: ".toList ++ uuidText runId))
  | some run =>
      if run.status ≠ .succeeded then throw (.raised .backup "only succeeded backup runs may be restored".toList)
      else do
        let foundArtifact ← unlogged (ask (World.getArtifactByRun runId))
        match foundArtifact with
        | none => throw (.raised .notFound ("backup artifact not found for run: ".toList ++ uuidText runId))
        | some artifact =>
            if deployment.environment = "production".toList ∧ request.allowProductionRestore = false then
              throw (.raised .restoreSafety "production restores require explicit allow_production_restore".toList)
            else if request.dryRun = false ∧ request.confirm = false then
              throw (.raised .restoreSafety "restore execution requires confirm=true; default is dry-run".toList)
            else do
              let resolvedTargetConnection ← unlogged (inspect fun _ =>
                resolveConnectionRef deployment.environ request.targetConnectionRef)
              let localPath := restorePath deployment runId
              unlogged (call (World.downloadFile artifact.storageKey localPath))
              let bytes ← unlogged (inspect (World.readFile localPath))
              if deployment.sha256 bytes ≠ artifact.checksumSha256 then
                throw (.raised .backup "backup artifact checksum mismatch; refusing restore".toList)
              else recordRestore deployment draws runId request resolvedTargetConnection localPath

/-! ## Without the notes -/

theorem invoke_bind_erases {A B : Type} {command : List Text} {run : Service A} {rest : A -> Watching B}
    {rest' : A -> Service B} (continues : forall answer, Erases (rest answer) (rest' answer)) :
    Erases (invoke command run >>= rest) (run >>= rest') :=
  Erases.bind (Erases.note_bind (Erases.unlogged run)) continues

theorem storeArtifact_erases (draws : BackupDraws) (policy : BackupPolicy) (run : BackupRun) :
    Erases (storeArtifact deployment draws policy run) (BackupService.storeArtifact deployment draws policy run) := by
  apply Erases.bind (Erases.unlogged _)
  intro resolvedConnection
  apply Erases.bind (Erases.unlogged _)
  intro backupCommand
  apply invoke_bind_erases
  intro _
  exact Erases.unlogged (recordArtifact deployment draws policy run backupCommand.outputPath)

theorem createBackup_erases (draws : BackupDraws) (policyId : Id) (trigger : Text) :
    Erases (createBackup deployment draws policyId trigger)
      (BackupService.createBackup deployment draws policyId trigger) := by
  apply Erases.bind (Erases.unlogged _)
  intro found
  cases found with
  | none => exact Erases.throw _
  | some policy =>
      apply Erases.ite (Erases.throw _)
      apply Erases.bind (Erases.unlogged _)
      intro run
      apply Erases.bind
      · exact Erases.handle (storeArtifact_erases deployment draws policy run) fun _ => Erases.unlogged _
      · exact fun _ => Erases.unlogged _

theorem checkArtifact_erases (draws : VerifyDraws) (policy : BackupPolicy) (artifact : BackupArtifact)
    (localPath : Text) :
    Erases (checkArtifact deployment draws policy artifact localPath)
      (BackupService.checkArtifact deployment draws policy artifact localPath) := by
  apply Erases.bind (Erases.unlogged _)
  intro _
  apply Erases.bind (Erases.unlogged _)
  intro bytes
  apply Erases.ite
  · exact Erases.bind (Erases.throw _) fun _ => Erases.note_bind (Erases.unlogged _)
  · exact Erases.note_bind (Erases.unlogged _)

theorem verifyBackup_erases (draws : VerifyDraws) (runId : Id) :
    Erases (verifyBackup deployment draws runId) (BackupService.verifyBackup deployment draws runId) := by
  apply Erases.bind (Erases.unlogged _)
  intro foundRun
  cases foundRun with
  | none => exact Erases.throw _
  | some run =>
      apply Erases.bind (Erases.unlogged _)
      intro foundArtifact
      cases foundArtifact with
      | none => exact Erases.throw _
      | some artifact =>
          apply Erases.bind (Erases.unlogged _)
          intro foundPolicy
          cases foundPolicy with
          | none => exact Erases.throw _
          | some policy =>
              apply Erases.bind
              · exact Erases.handle (checkArtifact_erases deployment draws policy artifact _) fun _ => Erases.unlogged _
              · exact fun _ => Erases.unlogged _

theorem executeRestore_erases (draws : RestoreDraws) (command : List Text) (restore : RestoreRun) :
    Erases (executeRestore draws command restore) (BackupService.executeRestore draws command restore) := by
  apply invoke_bind_erases
  intro _
  exact Erases.bind (Erases.unlogged _) fun _ => Erases.pure _

theorem recordRestore_erases (draws : RestoreDraws) (runId : Id) (request : RestoreRequest)
    (resolvedTargetConnection localPath : Text) :
    Erases (recordRestore deployment draws runId request resolvedTargetConnection localPath)
      (BackupService.recordRestore deployment draws runId request resolvedTargetConnection localPath) := by
  apply Erases.bind (Erases.unlogged _)
  intro redactedCommand
  apply Erases.bind (Erases.unlogged _)
  intro redactedConnection
  apply Erases.bind (Erases.unlogged _)
  intro restore
  apply Erases.ite
  · exact Erases.unlogged _
  · exact Erases.handle (executeRestore_erases draws _ restore) fun _ => Erases.unlogged _

theorem restoreBackup_erases (draws : RestoreDraws) (runId : Id) (request : RestoreRequest) :
    Erases (restoreBackup deployment draws runId request) (BackupService.restoreBackup deployment draws runId request) := by
  apply Erases.bind (Erases.unlogged _)
  intro foundRun
  cases foundRun with
  | none => exact Erases.throw _
  | some run =>
      apply Erases.ite (Erases.throw _)
      apply Erases.bind (Erases.unlogged _)
      intro foundArtifact
      cases foundArtifact with
      | none => exact Erases.throw _
      | some artifact =>
          apply Erases.ite (Erases.throw _)
          apply Erases.ite (Erases.throw _)
          apply Erases.bind (Erases.unlogged _)
          intro resolved
          apply Erases.bind (Erases.unlogged _)
          intro _
          apply Erases.bind (Erases.unlogged _)
          intro bytes
          exact Erases.ite (Erases.throw _) (recordRestore_erases deployment draws runId request resolved _)

/-! ## The gates -/

/-- What is known of a call of the runner in a call of `restore_backup`: the call has
passed every gate, and the file that the command names is what was checked. -/
structure Permitted (world : World) (runId : Id) (request : RestoreRequest) (invocation : Invocation) : Prop where
  confirmed : request.confirm = true
  notDry : request.dryRun = false
  environment : deployment.environment = "production".toList -> request.allowProductionRestore = true
  succeeded : Exists fun run => world.getRun runId = some run ∧ run.status = .succeeded
  checked : Exists fun artifact => Exists fun bytes =>
    world.getArtifactByRun runId = some artifact ∧ world.objects.get artifact.storageKey = some bytes ∧
      invocation.world.readFile (restorePath deployment runId) = .ok bytes ∧
      deployment.sha256 bytes = artifact.checksumSha256
  command : Exists fun connection =>
    resolveConnectionRef deployment.environ request.targetConnectionRef = .ok connection ∧
      invocation.command = buildRestoreCommand (restorePath deployment runId) connection

/-- The runner was called at most once since the log was as it was, and that call is one
of which something holds. -/
def LogsOnce (earlier : List Invocation) (holds : Invocation -> Prop) (watched : Watched World Invocation) : Prop :=
  watched.log = earlier ∨ Exists fun invocation => watched.log = earlier ++ [invocation] ∧ holds invocation

theorem readFile_createRestore (restore : RestoreRun) (world : World) (path : Text) :
    (world.createRestore restore).2.readFile path = world.readFile path := by
  unfold World.createRestore
  split
  · rfl
  · split <;> rfl

/-- A restore that is carried out calls the runner once. -/
theorem executeRestore_logs (draws : RestoreDraws) (command : List Text) (restore : RestoreRun)
    {outside : Outside BackupFailure World} {log : List Invocation} :
    Triple (fun before => before = outside.watched log)
      (handle (executeRestore draws command restore) fun failure =>
        unlogged (BackupService.failRestore deployment draws restore failure))
      (fun _ after => after.world.log = log ++ [{ command := command, world := outside.world }])
      (fun _ after => after.world.log = log ++ [{ command := command, world := outside.world }]) := by
  have keeps {A : Type} (program : Service A) :
      Maintains (fun watched => watched.log = log ++ [{ command := command, world := outside.world }])
        (unlogged program) :=
    Maintains.unlogged (fun entries => entries = _) program
  have noted (run : Service Unit) :
      Triple (fun before => before = outside.watched log) (invoke command run)
        (fun _ after => after.world.log = log ++ [{ command := command, world := outside.world }])
        (fun _ after => after.world.log = log ++ [{ command := command, world := outside.world }]) :=
    Triple.note_bind (Triple.unlogged (fun watched => watched.log = _) fun _ => rfl)
  apply Triple.handle (Triple.bind (noted _) _) fun _ => keeps _
  intro _
  exact Maintains.bind (keeps _) fun _ => Maintains.pure _

/-- A restore that is recorded calls the runner only when it is no rehearsal, with the
files as they are. -/
theorem recordRestore_logs {draws : RestoreDraws} {runId : Id} {request : RestoreRequest} {connection path : Text}
    {outside : Outside BackupFailure World} {log : List Invocation} {holds : Invocation -> Prop}
    (held : request.dryRun = false -> forall invocation,
      invocation.command = buildRestoreCommand path connection ->
      invocation.world.readFile path = outside.world.readFile path -> holds invocation) :
    Triple (fun before => before = outside.watched log) (recordRestore deployment draws runId request connection path)
      (fun _ after => LogsOnce log holds after.world) (fun _ after => LogsOnce log holds after.world) := by
  apply Triple.unlogged_bind (fun _ _ _ => Or.inl rfl)
  intro redactedCommand after redacted
  cases (ok_of_inspect redacted).2
  apply Triple.unlogged_bind (fun _ _ _ => Or.inl rfl)
  intro redactedConnection after redacted
  cases (ok_of_inspect redacted).2
  apply Triple.unlogged_bind (fun _ _ _ => Or.inl rfl)
  intro restore after created
  rcases ok_of_call created with ⟨-, -, rfl⟩
  split
  · exact Triple.unlogged (LogsOnce log holds) fun _ => Or.inl rfl
  · rename_i notDry
    apply Triple.weaken (executeRestore_logs deployment draws _ restore) fun _ same => same
    · intro _ after grown
      exact Or.inr ⟨_, grown, held (by simpa using notDry) _ rfl (readFile_createRestore _ _ _)⟩
    · intro _ after grown
      exact Or.inr ⟨_, grown, held (by simpa using notDry) _ rfl (readFile_createRestore _ _ _)⟩

/-- A call of `restore_backup` calls the runner behind its gates or not at all. -/
theorem restoreBackup_logs (draws : RestoreDraws) (runId : Id) (request : RestoreRequest)
    (outside : Outside BackupFailure World) (log : List Invocation) :
    Triple (fun before => before = outside.watched log) (restoreBackup deployment draws runId request)
      (fun _ after => LogsOnce log (Permitted deployment outside.world runId request) after.world)
      (fun _ after => LogsOnce log (Permitted deployment outside.world runId request) after.world) := by
  apply Triple.unlogged_bind (fun _ _ _ => Or.inl rfl)
  intro foundRun after asked
  rcases ok_of_call asked with ⟨-, runAnswer, rfl⟩
  cases foundRun with
  | none => exact Triple.throw fun _ same => same ▸ Or.inl rfl
  | some run =>
      dsimp only
      split
      · exact Triple.throw fun _ same => same ▸ Or.inl rfl
      rename_i succeeded
      apply Triple.unlogged_bind (fun _ _ _ => Or.inl rfl)
      intro foundArtifact after asked
      rcases ok_of_call asked with ⟨-, artifactAnswer, rfl⟩
      cases foundArtifact with
      | none => exact Triple.throw fun _ same => same ▸ Or.inl rfl
      | some artifact =>
          dsimp only
          split
          · exact Triple.throw fun _ same => same ▸ Or.inl rfl
          rename_i environment
          split
          · exact Triple.throw fun _ same => same ▸ Or.inl rfl
          rename_i confirmed
          apply Triple.unlogged_bind (fun _ _ _ => Or.inl rfl)
          intro connection after looked
          rcases ok_of_inspect looked with ⟨resolved, rfl⟩
          apply Triple.unlogged_bind (fun _ _ _ => Or.inl rfl)
          intro _ after downloaded
          rcases ok_of_call downloaded with ⟨-, fetched, rfl⟩
          apply Triple.unlogged_bind (fun _ _ _ => Or.inl rfl)
          intro bytes after opened
          rcases ok_of_inspect opened with ⟨read, rfl⟩
          split
          · exact Triple.throw fun _ same => same ▸ Or.inl rfl
          rename_i same
          apply recordRestore_logs
          intro notDry invocation command files
          constructor
          · by_contra unconfirmed
            exact confirmed ⟨notDry, Bool.eq_false_iff.mpr unconfirmed⟩
          · exact notDry
          · intro production
            by_contra forbidden
            exact environment ⟨production, Bool.eq_false_iff.mpr forbidden⟩
          · exact ⟨run, Except.ok.inj runAnswer, not_not.mp succeeded⟩
          · exact ⟨artifact, bytes, Except.ok.inj artifactAnswer, get_of_download fetched read, files.trans read, not_not.mp same⟩
          · exact ⟨connection, resolved, command⟩

/-! ## The other commands -/

/-- A command that restores a database. -/
def IsRestore (command : List Text) : Prop :=
  Exists fun backupFile => Exists fun connection => command = buildRestoreCommand backupFile connection

/-- The log has grown by calls of the runner that restore nothing. -/
abbrev Spares (earlier : List Invocation) : Watched World Invocation -> Prop :=
  Logs earlier fun invocation => ¬IsRestore invocation.command

theorem not_isRestore_backup {policy : BackupPolicy} {workdir runId connection : Text} {built : BackupCommand}
    (build : buildBackupCommand policy workdir runId connection = .ok built) : ¬IsRestore built.command := by
  rintro ⟨backupFile, target, same⟩
  unfold buildBackupCommand at build
  split at build
  · cases build
  · cases build
    exact absurd (congrArg List.length same) (show ¬6 = 7 by decide)

theorem not_isRestore_verify (localPath : Text) : ¬IsRestore (buildVerifyCommand localPath) := by
  rintro ⟨backupFile, target, same⟩
  exact absurd (congrArg List.length same) (show ¬3 = 7 by decide)

theorem spares_unlogged {A : Type} (earlier : List Invocation) (program : Service A) :
    Maintains (Spares earlier) (unlogged program) :=
  Maintains.unlogged (fun log => Exists fun new => log = earlier ++ new ∧ forall entry, entry ∈ new -> ¬IsRestore entry.command)
    program

theorem spares_invoke {A : Type} (earlier : List Invocation) {command : List Text} (other : ¬IsRestore command)
    (run : Service A) : Maintains (Spares earlier) (invoke command run) :=
  Maintains.bind (Maintains.note fun _ => other) fun _ => spares_unlogged earlier run

theorem createBackup_spares (draws : BackupDraws) (policyId : Id) (trigger : Text) (earlier : List Invocation) :
    Maintains (Spares earlier) (createBackup deployment draws policyId trigger) := by
  have stores (policy : BackupPolicy) (run : BackupRun) :
      Maintains (Spares earlier) (storeArtifact deployment draws policy run) := by
    apply Maintains.bind (spares_unlogged earlier _)
    intro connection
    apply Maintains.bind_told (spares_unlogged earlier _)
    · intro outside built after returned
      rcases ok_of_unlogged returned with ⟨final, inspected⟩
      exact (ok_of_inspect inspected).1
    · intro built build
      apply Maintains.bind (spares_invoke earlier (not_isRestore_backup build) _)
      exact fun _ => spares_unlogged earlier _
  apply Maintains.bind (spares_unlogged earlier _)
  intro found
  cases found with
  | none => exact Maintains.throw _
  | some policy =>
      apply Maintains.ite (Maintains.throw _)
      apply Maintains.bind (spares_unlogged earlier _)
      intro run
      apply Maintains.bind
      · exact Maintains.handle (stores policy run) fun _ => spares_unlogged earlier _
      · exact fun _ => spares_unlogged earlier _

theorem checkArtifact_spares (draws : VerifyDraws) (policy : BackupPolicy) (artifact : BackupArtifact) (localPath : Text)
    (earlier : List Invocation) : Maintains (Spares earlier) (checkArtifact deployment draws policy artifact localPath) := by
  apply Maintains.bind (spares_unlogged earlier _)
  intro _
  apply Maintains.bind (spares_unlogged earlier _)
  intro bytes
  apply Maintains.ite
  · exact Maintains.bind (Maintains.throw _) fun _ => spares_invoke earlier (not_isRestore_verify localPath) _
  · exact spares_invoke earlier (not_isRestore_verify localPath) _

theorem verifyBackup_spares (draws : VerifyDraws) (runId : Id) (earlier : List Invocation) :
    Maintains (Spares earlier) (verifyBackup deployment draws runId) := by
  apply Maintains.bind (spares_unlogged earlier _)
  intro foundRun
  cases foundRun with
  | none => exact Maintains.throw _
  | some run =>
      apply Maintains.bind (spares_unlogged earlier _)
      intro foundArtifact
      cases foundArtifact with
      | none => exact Maintains.throw _
      | some artifact =>
          apply Maintains.bind (spares_unlogged earlier _)
          intro foundPolicy
          cases foundPolicy with
          | none => exact Maintains.throw _
          | some policy =>
              apply Maintains.bind
              · exact Maintains.handle (checkArtifact_spares deployment draws policy artifact _ earlier) fun _ =>
                  spares_unlogged earlier _
              · exact fun _ => spares_unlogged earlier _

end Watching

/-! ## Histories -/

/-- Where a step of the watched service starts. -/
def BackupStep.meets (step : BackupStep) (watched : Watched World Invocation) :
    Outside BackupFailure (Watched World Invocation) :=
  (watched.world.facing step).watched watched.log

/-- The world and the log after a step, whether the call returns or raises. -/
def watchedStep (deployment : Deployment) (watched : Watched World Invocation) (step : BackupStep) :
    Watched World Invocation :=
  match step.action with
  | .createBackup draws policyId trigger =>
      finalWorld (Watching.createBackup deployment draws policyId trigger) (step.meets watched)
  | .verifyBackup draws runId => finalWorld (Watching.verifyBackup deployment draws runId) (step.meets watched)
  | .restoreBackup draws runId request =>
      finalWorld (Watching.restoreBackup deployment draws runId request) (step.meets watched)
  | .applyRetention now policyId => finalWorld (unlogged (BackupService.applyRetention now policyId)) (step.meets watched)

/-- The watched service does to the world what the service does. -/
theorem world_watchedStep (deployment : Deployment) (watched : Watched World Invocation) (step : BackupStep) :
    (watchedStep deployment watched step).world = watched.world.step deployment step := by
  rcases step with ⟨action, fates⟩
  cases action with
  | createBackup draws policyId trigger =>
      exact (Watching.createBackup_erases deployment draws policyId trigger).finalWorld _
  | verifyBackup draws runId => exact (Watching.verifyBackup_erases deployment draws runId).finalWorld _
  | restoreBackup draws runId request => exact (Watching.restoreBackup_erases deployment draws runId request).finalWorld _
  | applyRetention now policyId => exact (Erases.unlogged (BackupService.applyRetention now policyId)).finalWorld _

/-- The same over a history. -/
theorem world_watched (deployment : Deployment) (initial : Watched World Invocation) (history : List BackupStep) :
    (history.foldl (watchedStep deployment) initial).world = history.foldl (World.step deployment) initial.world := by
  induction history generalizing initial with
  | nil => rfl
  | cons step history inductionHypothesis =>
      rw [List.foldl_cons, List.foldl_cons, inductionHypothesis, world_watchedStep]

/-- What a step gives to the runner: a restore behind its gates, or nothing that
restores. -/
def BackupStep.Gated (deployment : Deployment) (watched : Watched World Invocation) (step : BackupStep) : Prop :=
  match step.action with
  | .restoreBackup _ runId request =>
      Watching.LogsOnce watched.log (Watching.Permitted deployment watched.world runId request)
        (watchedStep deployment watched step)
  | _ => Watching.Spares watched.log (watchedStep deployment watched step)

theorem gated_step (deployment : Deployment) (watched : Watched World Invocation) (step : BackupStep) :
    step.Gated deployment watched := by
  have nothing := logs_refl (fun invocation : Invocation => ¬Watching.IsRestore invocation.command) watched
  rcases step with ⟨action, fates⟩
  cases action with
  | createBackup draws policyId trigger =>
      exact (Watching.createBackup_spares deployment draws policyId trigger watched.log).finalWorld nothing
  | verifyBackup draws runId => exact (Watching.verifyBackup_spares deployment draws runId watched.log).finalWorld nothing
  | restoreBackup draws runId request =>
      exact (Watching.restoreBackup_logs deployment draws runId request _ watched.log).finalWorld (fun _ _ logs => logs)
        (fun _ _ logs => logs) rfl
  | applyRetention now policyId => exact (Watching.spares_unlogged watched.log _).finalWorld nothing

/-- In every history every step is gated: a restore runs only when it is confirmed, no
rehearsal, allowed where the environment is production, and of a file that is the checked
artifact of a succeeded run. -/
theorem restores_are_gated (deployment : Deployment) (initial : Watched World Invocation) (history : List BackupStep) :
    Run.Guarded (watchedStep deployment) (fun watched step => step.Gated deployment watched) initial history := by
  induction history generalizing initial with
  | nil => exact trivial
  | cons step history inductionHypothesis =>
      exact ⟨gated_step deployment initial step, inductionHypothesis (watchedStep deployment initial step)⟩

end Backup
end ApexQuant
