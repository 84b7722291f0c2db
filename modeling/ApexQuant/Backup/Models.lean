import ApexQuant.Foundation.Numerals
import ApexQuant.Foundation.Table

namespace ApexQuant
namespace Backup

open Foundation

/-!
# Backup records

The records of `models.py` as the rows that `migrations/postgres/backup_recovery`
keeps of them.  A row has its identifier: the models leave it open until the
database has drawn one.
-/

/-- A value of a `UUID` column. -/
abbrev Id := Nat

/-- A moment in microseconds. -/
abbrev Moment := Int

/-- The contents of a file. -/
abbrev Bytes := List UInt8

/-- `str(uuid)`: thirty-two hexadecimal digits in five groups. -/
def uuidText (id : Id) : Text :=
  let digits := Numeral.digits 16 32 id
  digits.take 8 ++ '-' :: (digits.drop 8).take 4 ++ '-' :: (digits.drop 12).take 4 ++
    '-' :: (digits.drop 16).take 4 ++ '-' :: digits.drop 20

inductive TargetSystem where
  | postgres
  | clickhouse
  | objectStorage
  | redis
  deriving DecidableEq, Repr

def TargetSystem.value : TargetSystem -> Text
  | .postgres => "POSTGRES".toList
  | .clickhouse => "CLICKHOUSE".toList
  | .objectStorage => "OBJECT_STORAGE".toList
  | .redis => "REDIS".toList

inductive BackupRunStatus where
  | running
  | succeeded
  | failed
  deriving DecidableEq, Repr

inductive ArtifactStatus where
  | active
  | expired
  | deleted
  deriving DecidableEq, Repr

inductive RestoreStatus where
  | dryRun
  | running
  | succeeded
  | failed
  deriving DecidableEq, Repr

/-- A row of `backup_policies`, whose numbers are positive. -/
structure BackupPolicy where
  policyId : Id
  name : Text
  targetSystem : TargetSystem
  targetName : Text
  targetConnectionRef : Text
  storagePrefix : Text
  intervalMinutes : Nat
  backupTimeoutSeconds : Nat
  retentionCount : Option Nat
  retentionDays : Option Nat
  deleteExpired : Bool
  encryptionKeyRef : Option Text
  enabled : Bool
  nextRunAt : Option Moment
  interval_positive : 0 < intervalMinutes
  timeout_positive : 0 < backupTimeoutSeconds
  count_positive : forall count, retentionCount = some count -> 0 < count
  days_positive : forall days, retentionDays = some days -> 0 < days

/-- A row of `backup_runs`. -/
structure BackupRun where
  runId : Id
  policyId : Id
  trigger : Text
  status : BackupRunStatus
  startedAt : Moment
  completedAt : Option Moment
  artifactUri : Option Text
  artifactSizeBytes : Option Nat
  checksumSha256 : Option Text
  error : Option Text
  verificationStatus : Option Text
  lastVerifiedAt : Option Moment
  deriving DecidableEq

/-- A row of `backup_artifacts`. -/
structure BackupArtifact where
  artifactId : Id
  runId : Id
  policyId : Id
  targetSystem : TargetSystem
  targetName : Text
  storageKey : Text
  uri : Text
  sizeBytes : Nat
  checksumSha256 : Text
  encryptionKeyRef : Option Text
  status : ArtifactStatus
  createdAt : Moment
  expiresAt : Option Moment
  deriving DecidableEq

/-- A row of `restore_runs`. -/
structure RestoreRun where
  restoreId : Id
  backupRunId : Id
  targetConnectionRef : Text
  targetConnectionRedacted : Text
  commandRedacted : Option Text
  status : RestoreStatus
  dryRun : Bool
  startedAt : Moment
  completedAt : Option Moment
  error : Option Text
  deriving DecidableEq

def microsecondsPerMinute : Int := 60000000

def microsecondsPerDay : Int := 86400000000

end Backup
end ApexQuant
