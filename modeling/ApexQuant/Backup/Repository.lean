import ApexQuant.Backup.Commands
import ApexQuant.Foundation.Dictionary
import ApexQuant.Foundation.Faults

namespace ApexQuant
namespace Backup

open Foundation
open Foundation.Faults

/-!
# What the backup service works on

The tables behind `PostgresBackupRepository`, the objects of the storage and the
files of the work directory.  A repository method is one transaction, so it is a
call that takes effect as a whole.  Why a call fails is not modelled: a call's fate
may be any failure, before or after its effect, and stands for lost connections and
refused rows alike.  What is modelled are the keys, which no row can break.

`list_artifacts` returns rows of the same moment in the order of the table.
-/

structure World where
  policies : Table BackupPolicy.policyId
  runs : Table BackupRun.runId
  artifacts : Table BackupArtifact.artifactId
  restores : Table RestoreRun.restoreId
  objects : Dictionary Text Bytes
  files : Dictionary Text Bytes

/-- A program of the service. -/
abbrev Service (A : Type) := Program BackupFailure World A

namespace World

/-! ## Rows -/

def uniqueViolation : BackupFailure :=
  .constraint "duplicate key value violates unique constraint".toList

def foreignKeyViolation : BackupFailure :=
  .constraint "insert violates foreign key constraint".toList

/-- `get_policy`. -/
def getPolicy (policyId : Id) (world : World) : Option BackupPolicy :=
  world.policies.find policyId

/-- The assignment of `update_policy_next_run`. -/
def scheduled (policyId : Id) (nextRunAt : Moment) (policy : BackupPolicy) : BackupPolicy :=
  if policy.policyId = policyId then { policy with nextRunAt := some nextRunAt } else policy

theorem policyId_scheduled (policyId : Id) (nextRunAt : Moment) (policy : BackupPolicy) :
    (scheduled policyId nextRunAt policy).policyId = policy.policyId := by
  unfold scheduled
  split <;> rfl

/-- `update_policy_next_run`. -/
def updatePolicyNextRun (policyId : Id) (nextRunAt : Moment) (world : World) : World :=
  { world with policies := world.policies.update (scheduled policyId nextRunAt) (policyId_scheduled policyId nextRunAt) }

/-- `create_run`. -/
def createRun (run : BackupRun) (world : World) : Except BackupFailure BackupRun × World :=
  if (world.policies.find run.policyId).isNone then (.error foreignKeyViolation, world)
  else
    match world.runs.insert run with
    | none => (.error uniqueViolation, world)
    | some runs => (.ok run, { world with runs := runs })

/-- The assignments of `update_run`. -/
def rewritten (run row : BackupRun) : BackupRun :=
  if row.runId = run.runId then
    { row with
      status := run.status
      completedAt := run.completedAt
      artifactUri := run.artifactUri
      artifactSizeBytes := run.artifactSizeBytes
      checksumSha256 := run.checksumSha256
      error := run.error
      verificationStatus := run.verificationStatus
      lastVerifiedAt := run.lastVerifiedAt }
  else row

theorem runId_rewritten (run row : BackupRun) : (rewritten run row).runId = row.runId := by
  unfold rewritten
  split <;> rfl

/-- `update_run`. -/
def updateRun (run : BackupRun) (world : World) : World :=
  { world with runs := world.runs.update (rewritten run) (runId_rewritten run) }

/-- `get_run`. -/
def getRun (runId : Id) (world : World) : Option BackupRun :=
  world.runs.find runId

/-- `create_artifact`. -/
def createArtifact (artifact : BackupArtifact) (world : World) : Except BackupFailure Unit × World :=
  if (world.runs.find artifact.runId).isNone || (world.policies.find artifact.policyId).isNone then
    (.error foreignKeyViolation, world)
  else
    match world.artifacts.insert artifact with
    | none => (.error uniqueViolation, world)
    | some artifacts => (.ok (), { world with artifacts := artifacts })

/-- The artifact is not older than the other. -/
def notOlder (left right : BackupArtifact) : Prop :=
  right.createdAt ≤ left.createdAt

instance notOlder.decidable : DecidableRel notOlder :=
  fun left right => inferInstanceAs (Decidable (right.createdAt ≤ left.createdAt))

/-- `list_artifacts`, the youngest first. -/
def listArtifacts (policyId : Id) (world : World) : List BackupArtifact :=
  (world.artifacts.rows.filter fun artifact => decide (artifact.policyId = policyId)).insertionSort notOlder

/-- `get_artifact_by_run`. -/
def getArtifactByRun (runId : Id) (world : World) : Option BackupArtifact :=
  world.artifacts.rows.find? fun artifact => decide (artifact.runId = runId)

/-- The assignment of `update_artifact_status`. -/
def marked (artifactId : Id) (status : ArtifactStatus) (artifact : BackupArtifact) : BackupArtifact :=
  if artifact.artifactId = artifactId then { artifact with status := status } else artifact

theorem artifactId_marked (artifactId : Id) (status : ArtifactStatus) (artifact : BackupArtifact) :
    (marked artifactId status artifact).artifactId = artifact.artifactId := by
  unfold marked
  split <;> rfl

/-- `update_artifact_status`. -/
def updateArtifactStatus (artifactId : Id) (status : ArtifactStatus) (world : World) : World :=
  { world with artifacts := world.artifacts.update (marked artifactId status) (artifactId_marked artifactId status) }

/-- `create_restore`. -/
def createRestore (restore : RestoreRun) (world : World) : Except BackupFailure RestoreRun × World :=
  if (world.runs.find restore.backupRunId).isNone then (.error foreignKeyViolation, world)
  else
    match world.restores.insert restore with
    | none => (.error uniqueViolation, world)
    | some restores => (.ok restore, { world with restores := restores })

/-- The assignments of `update_restore`. -/
def rerestored (restore row : RestoreRun) : RestoreRun :=
  if row.restoreId = restore.restoreId then
    { row with
      status := restore.status
      completedAt := restore.completedAt
      error := restore.error
      commandRedacted := restore.commandRedacted }
  else row

theorem restoreId_rerestored (restore row : RestoreRun) : (rerestored restore row).restoreId = row.restoreId := by
  unfold rerestored
  split <;> rfl

/-- `update_restore`. -/
def updateRestore (restore : RestoreRun) (world : World) : World :=
  { world with restores := world.restores.update (rerestored restore) (restoreId_rerestored restore) }

/-! ## Objects and files -/

/-- `upload_file`, which returns where the object is. -/
def uploadFile (uri : Text -> Text) (localPath key : Text) (world : World) : Except BackupFailure Text × World :=
  match world.files.get localPath with
  | none => (.error (.fileNotFound localPath), world)
  | some bytes => (.ok (uri key), { world with objects := world.objects.set key bytes })

/-- `download_file`. -/
def downloadFile (key localPath : Text) (world : World) : Except BackupFailure Unit × World :=
  match world.objects.get key with
  | none => (.error (.raised .objectStorage ("backup object does not exist: ".toList ++ key)), world)
  | some bytes => (.ok (), { world with files := world.files.set localPath bytes })

/-- `delete_object`. -/
def deleteObject (key : Text) (world : World) : World :=
  { world with objects := world.objects.filter fun item => decide (item.1 ≠ key) }

/-- A file that a command leaves behind. -/
def writeFile (path : Text) (bytes : Bytes) (world : World) : World :=
  { world with files := world.files.set path bytes }

/-- The contents of a file, opened for reading. -/
def readFile (path : Text) (world : World) : Except BackupFailure Bytes :=
  match world.files.get path with
  | none => .error (.fileNotFound path)
  | some bytes => .ok bytes

end World
end Backup
end ApexQuant
