import ApexQuant.Backup.Repository
import ApexQuant.Foundation.Ranking

namespace ApexQuant
namespace Backup

open Foundation
open Foundation.Faults

/-!
# The backup service

`BackupService`.  A method that catches an exception rewrites the run object as it
stands when the exception is raised; where the object has changed before, the two
parts of the `try` block have a handler each.

What a call draws, reads off a clock or is told by a command is an argument.
-/

/-- What the service runs on. -/
structure Deployment where
  environ : Text -> Option Text
  environment : Text
  workdir : Text
  uri : Text -> Text
  sha256 : Bytes -> Text
  printable : Char -> Bool
  packages : Urls.Packages

/-- How a command ends, and the file it leaves under the name it was given. -/
structure Execution where
  outcome : Outcome
  written : Option Bytes

/-- What a call of `create_backup` draws and reads off the clocks. -/
structure BackupDraws where
  runId : Id
  artifactId : Id
  startedAt : Moment
  expiresFrom : Moment
  createdAt : Moment
  completedAt : Moment
  scheduledFrom : Moment
  failedAt : Moment
  execution : Execution

/-- What a call of `verify_backup` reads off the clock. -/
structure VerifyDraws where
  verifiedAt : Moment
  outcome : Outcome

/-- What a call of `restore_backup` draws and reads off the clock. -/
structure RestoreDraws where
  restoreId : Id
  startedAt : Moment
  completedAt : Moment
  outcome : Outcome

/-- The parameters of `restore_backup`. -/
structure RestoreRequest where
  targetConnectionRef : Text
  dryRun : Bool
  confirm : Bool
  allowProductionRestore : Bool

namespace BackupService

variable (deployment : Deployment)

/-- A failure of the `BackupError` family, raised by the service itself. -/
def complain {A : Type} (class_ : BackupErrorClass) (message : Text) : Service A :=
  throw (.raised class_ message)

/-- `runner.run` for a command that writes a file. -/
def dump (command : BackupCommand) (timeout : Nat) (execution : Execution) : Service Unit := do
  match execution.written with
  | some bytes => change (World.writeFile command.outputPath bytes)
  | none => pure ()
  inspect fun _ => (runCommand command.command (some timeout) execution.outcome).map fun _ => ()

/-- The world after a command has written its file. -/
def dumped (path : Text) (execution : Execution) (world : World) : World :=
  match execution.written with
  | some bytes => world.writeFile path bytes
  | none => world

/-- The object key of a run. -/
def storageKey (policy : BackupPolicy) (runId : Id) : Text :=
  let slash := fun c : Char => decide (c = '/')
  ((policy.storagePrefix.dropWhile slash).rdropWhile slash) ++ '/' ::
    Text.asciiLowercasing.lower policy.targetSystem.value ++ '/' :: policy.targetName ++ '/' :: uuidText runId ++
      ".dump".toList

/-- The first part of the `try` block of `create_backup`. -/
def storeArtifact (draws : BackupDraws) (policy : BackupPolicy) (run : BackupRun) : Service BackupArtifact := do
  let resolvedConnection ← inspect fun _ => resolveConnectionRef deployment.environ policy.targetConnectionRef
  let backupCommand ← inspect fun _ =>
    buildBackupCommand policy deployment.workdir (uuidText run.runId) resolvedConnection
  dump backupCommand policy.backupTimeoutSeconds draws.execution
  let bytes ← inspect (World.readFile backupCommand.outputPath)
  let key := storageKey policy run.runId
  let uri ← call (World.uploadFile deployment.uri backupCommand.outputPath key)
  let artifact : BackupArtifact :=
    { artifactId := draws.artifactId
      runId := run.runId
      policyId := policy.policyId
      targetSystem := policy.targetSystem
      targetName := policy.targetName
      storageKey := key
      uri := uri
      sizeBytes := bytes.length
      checksumSha256 := deployment.sha256 bytes
      encryptionKeyRef := policy.encryptionKeyRef
      status := .active
      createdAt := draws.createdAt
      expiresAt := policy.retentionDays.map fun days => draws.expiresFrom + days * microsecondsPerDay }
  call (World.createArtifact artifact)
  pure artifact

/-- The run of a stored artifact. -/
def finished (draws : BackupDraws) (run : BackupRun) (artifact : BackupArtifact) : BackupRun :=
  { run with
    status := .succeeded
    completedAt := some draws.completedAt
    artifactUri := some artifact.uri
    artifactSizeBytes := some artifact.sizeBytes
    checksumSha256 := some artifact.checksumSha256 }

/-- The second part of the `try` block of `create_backup`. -/
def finishRun (draws : BackupDraws) (policy : BackupPolicy) (run : BackupRun) : Service BackupRun := do
  tell (World.updateRun run)
  if policy.enabled && decide (policy.intervalMinutes ≠ 0) then
    tell (World.updatePolicyNextRun policy.policyId
      (draws.scheduledFrom + policy.intervalMinutes * microsecondsPerMinute))
  pure run

/-- The handler of `create_backup`, for the run as it stands. -/
def failRun {A : Type} (draws : BackupDraws) (run : BackupRun) (failure : BackupFailure) : Service A := do
  let message := failure.message deployment.printable
  tell (World.updateRun { run with status := .failed, completedAt := some draws.failedAt, error := some message })
  complain .backup message

/-- `create_backup`. -/
def createBackup (draws : BackupDraws) (policyId : Id) (trigger : Text) : Service BackupRun := do
  let found ← ask (World.getPolicy policyId)
  match found with
  | none => complain .notFound ("backup policy not found: ".toList ++ uuidText policyId)
  | some policy =>
      if policy.enabled = false then complain .backup ("backup policy is disabled: ".toList ++ policy.name)
      else do
        let run ← call (World.createRun
          { runId := draws.runId
            policyId := policyId
            trigger := trigger
            status := .running
            startedAt := draws.startedAt
            completedAt := none
            artifactUri := none
            artifactSizeBytes := none
            checksumSha256 := none
            error := none
            verificationStatus := none
            lastVerifiedAt := none })
        let artifact ← handle (storeArtifact deployment draws policy run) (failRun deployment draws run)
        let run := finished draws run artifact
        handle (finishRun draws policy run) (failRun deployment draws run)

/-- The part of the `try` block of `verify_backup` before it touches the run. -/
def checkArtifact (draws : VerifyDraws) (policy : BackupPolicy) (artifact : BackupArtifact) (localPath : Text) :
    Service Unit := do
  call (World.downloadFile artifact.storageKey localPath)
  let bytes ← inspect (World.readFile localPath)
  if deployment.sha256 bytes ≠ artifact.checksumSha256 then
    complain .backup "backup artifact checksum mismatch; backup is corrupt".toList
  inspect fun _ =>
    (runCommand (buildVerifyCommand localPath) (some policy.backupTimeoutSeconds) draws.outcome).map fun _ => ()

/-- The handler of `verify_backup`, for the run as it stands. -/
def failVerification {A : Type} (run : BackupRun) (failure : BackupFailure) : Service A := do
  let message := failure.message deployment.printable
  tell (World.updateRun { run with verificationStatus := some "FAILED".toList, error := some message })
  complain .backup message

/-- `verify_backup`. -/
def verifyBackup (draws : VerifyDraws) (runId : Id) : Service BackupRun := do
  let foundRun ← ask (World.getRun runId)
  match foundRun with
  | none => complain .notFound ("backup run not found: ".toList ++ uuidText runId)
  | some run => do
      let foundArtifact ← ask (World.getArtifactByRun runId)
      match foundArtifact with
      | none => complain .notFound ("backup artifact not found for run: ".toList ++ uuidText runId)
      | some artifact => do
          let foundPolicy ← ask (World.getPolicy run.policyId)
          match foundPolicy with
          | none => complain .notFound ("backup policy not found: ".toList ++ uuidText run.policyId)
          | some policy => do
              let localPath := inDirectory deployment.workdir ("verify-".toList ++ uuidText runId ++ ".dump".toList)
              handle (checkArtifact deployment draws policy artifact localPath) (failVerification deployment run)
              let run :=
                { run with
                  verificationStatus := some "SUCCEEDED".toList
                  lastVerifiedAt := some draws.verifiedAt }
              handle (do
                  tell (World.updateRun run)
                  pure run)
                (failVerification deployment run)

/-- The part of `restore_backup` that runs the command. -/
def executeRestore (draws : RestoreDraws) (command : List Text) (restore : RestoreRun) : Service RestoreRun := do
  inspect fun _ => (runCommand command none draws.outcome).map fun _ => ()
  let restore := { restore with status := .succeeded, completedAt := some draws.completedAt }
  tell (World.updateRestore restore)
  pure restore

/-- The handler of `restore_backup`. -/
def failRestore {A : Type} (draws : RestoreDraws) (restore : RestoreRun) (failure : BackupFailure) : Service A := do
  let message := failure.message deployment.printable
  tell (World.updateRestore
    { restore with status := .failed, completedAt := some draws.completedAt, error := some message })
  complain .backup message

/-- The part of `restore_backup` that records the restore and carries it out. -/
def recordRestore (draws : RestoreDraws) (runId : Id) (request : RestoreRequest)
    (resolvedTargetConnection localPath : Text) : Service RestoreRun := do
  let command := buildRestoreCommand localPath resolvedTargetConnection
  let redactedCommand ← inspect fun _ => (redactCommand deployment.packages command).mapError .url
  let redactedConnection ← inspect fun _ => (redactUrl deployment.packages resolvedTargetConnection).mapError .url
  let restore ← call (World.createRestore
    { restoreId := draws.restoreId
      backupRunId := runId
      targetConnectionRef := request.targetConnectionRef
      targetConnectionRedacted := redactedConnection
      commandRedacted := some ([' '].intercalate redactedCommand)
      status := if request.dryRun then .dryRun else .running
      dryRun := request.dryRun
      startedAt := draws.startedAt
      completedAt := none
      error := none })
  if request.dryRun then
    let restore := { restore with completedAt := some draws.completedAt }
    tell (World.updateRestore restore)
    pure restore
  else handle (executeRestore draws command restore) (failRestore deployment draws restore)

/-- `restore_backup`. -/
def restoreBackup (draws : RestoreDraws) (runId : Id) (request : RestoreRequest) : Service RestoreRun := do
  let foundRun ← ask (World.getRun runId)
  match foundRun with
  | none => complain .notFound ("backup run not found: ".toList ++ uuidText runId)
  | some run =>
      if run.status ≠ .succeeded then complain .backup "only succeeded backup runs may be restored".toList
      else do
        let foundArtifact ← ask (World.getArtifactByRun runId)
        match foundArtifact with
        | none => complain .notFound ("backup artifact not found for run: ".toList ++ uuidText runId)
        | some artifact =>
            if deployment.environment = "production".toList ∧ request.allowProductionRestore = false then
              complain .restoreSafety "production restores require explicit allow_production_restore".toList
            else if request.dryRun = false ∧ request.confirm = false then
              complain .restoreSafety "restore execution requires confirm=true; default is dry-run".toList
            else do
              let resolvedTargetConnection ← inspect fun _ =>
                resolveConnectionRef deployment.environ request.targetConnectionRef
              let localPath := inDirectory deployment.workdir ("restore-".toList ++ uuidText runId ++ ".dump".toList)
              call (World.downloadFile artifact.storageKey localPath)
              let bytes ← inspect (World.readFile localPath)
              if deployment.sha256 bytes ≠ artifact.checksumSha256 then
                complain .backup "backup artifact checksum mismatch; refusing restore".toList
              else recordRestore deployment draws runId request resolvedTargetConnection localPath

/-- The artifact is behind the number of those to keep. -/
def expiredByCount (policy : BackupPolicy) (index : Nat) : Bool :=
  policy.retentionCount.any fun count => decide (count ≤ index)

/-- The artifact's time is over. -/
def expiredByAge (policy : BackupPolicy) (now : Moment) (artifact : BackupArtifact) : Bool :=
  policy.retentionDays.isSome && artifact.expiresAt.any fun expiry => decide (expiry ≤ now)

/-- The test that `apply_retention` makes of the artifact with an index. -/
def isExpired (policy : BackupPolicy) (now : Moment) (index : Nat) (artifact : BackupArtifact) : Bool :=
  expiredByCount policy index || expiredByAge policy now artifact

/-- The active artifacts of a policy, the youngest first. -/
def activeArtifacts (policyId : Id) (world : World) : List BackupArtifact :=
  ((world.listArtifacts policyId).filter fun artifact => decide (artifact.status = .active)).insertionSort
    World.notOlder

/-- `apply_retention`. -/
def applyRetention (now : Moment) (policyId : Id) : Service (List BackupArtifact) := do
  let found ← ask (World.getPolicy policyId)
  match found with
  | none => complain .notFound ("backup policy not found: ".toList ++ uuidText policyId)
  | some policy => do
      let active ← ask (activeArtifacts policyId)
      let expired := Ranking.select (isExpired policy now) 0 active
      ForM.forM expired fun artifact => do
        tell (World.updateArtifactStatus artifact.artifactId .expired)
        if policy.deleteExpired then
          tell (World.deleteObject artifact.storageKey)
          tell (World.updateArtifactStatus artifact.artifactId .deleted)
      pure expired

end BackupService

/-! ## Histories -/

/-- A call of the service. -/
inductive BackupAction where
  | createBackup (draws : BackupDraws) (policyId : Id) (trigger : Text)
  | verifyBackup (draws : VerifyDraws) (runId : Id)
  | restoreBackup (draws : RestoreDraws) (runId : Id) (request : RestoreRequest)
  | applyRetention (now : Moment) (policyId : Id)

/-- A call of the service, and what becomes of the calls that it makes. -/
structure BackupStep where
  action : BackupAction
  fates : List (Fate BackupFailure)

/-- Where a step starts. -/
def World.facing (world : World) (step : BackupStep) : Outside BackupFailure World where
  world := world
  fates := step.fates

/-- The world after a step, whether the call returns or raises. -/
def World.step (deployment : Deployment) (world : World) (step : BackupStep) : World :=
  match step.action with
  | .createBackup draws policyId trigger =>
      finalWorld (BackupService.createBackup deployment draws policyId trigger) (world.facing step)
  | .verifyBackup draws runId => finalWorld (BackupService.verifyBackup deployment draws runId) (world.facing step)
  | .restoreBackup draws runId request =>
      finalWorld (BackupService.restoreBackup deployment draws runId request) (world.facing step)
  | .applyRetention now policyId => finalWorld (BackupService.applyRetention now policyId) (world.facing step)

/-! ## One policy -/

namespace Scenario

/-- Backups of one database, of which the last is kept. -/
def policy (deleteExpired : Bool) : BackupPolicy where
  policyId := 1
  name := "daily".toList
  targetSystem := .postgres
  targetName := "market".toList
  targetConnectionRef := "env://MARKET_URL".toList
  storagePrefix := "backups/".toList
  intervalMinutes := 1440
  backupTimeoutSeconds := 3600
  retentionCount := some 1
  retentionDays := none
  deleteExpired := deleteExpired
  encryptionKeyRef := none
  enabled := true
  nextRunAt := none
  interval_positive := by decide
  timeout_positive := by decide
  count_positive := fun _ given => by cases given; decide
  days_positive := fun _ given => absurd given nofun

def unreachable : BackupFailure :=
  .outside "storage is unreachable".toList

/-- A deployment with a database, whose dumps are empty files. -/
def database (url : Text) : Deployment where
  environ := fun name => if name = "MARKET_URL".toList then some url else none
  environment := "staging".toList
  workdir := "/var/backups".toList
  uri := fun key => "s3://backups/".toList ++ key
  sha256 := fun _ => "e3b0c44298fc1c149afbf4c8996fb92427ae41e4649b934ca495991b7852b855".toList
  printable := fun c => decide (32 ≤ c.toNat ∧ c.toNat < 127)
  packages :=
    { nfkc := fun text => text
      fold := Text.asciiLowercasing
      address := fun _ => .invalid }

/-- The policy, before its first backup. -/
def unused : World where
  policies := { rows := [policy true], unique := List.nodup_singleton _ }
  runs := Table.empty
  artifacts := Table.empty
  restores := Table.empty
  objects := Table.empty
  files := Table.empty

/-- A backup whose command ends in some way. -/
def backup (outcome : Outcome) (fates : List (Fate BackupFailure)) : BackupStep where
  action := .createBackup
    { runId := 1
      artifactId := 1
      startedAt := 0
      expiresFrom := 0
      createdAt := 0
      completedAt := 0
      scheduledFrom := 0
      failedAt := 0
      execution := { outcome := outcome, written := some [] } } 1 "manual".toList
  fates := fates

end Scenario

end Backup
end ApexQuant
