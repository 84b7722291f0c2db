import ApexQuant.Foundation.Database
import ApexQuant.Secrets.Models

namespace ApexQuant
namespace Secrets

open Foundation
open Foundation.Database

/-!
# The database behind the secret store

The tables of `migrations/postgres/secrets_management` and the statements of
`persistence.py`.  A `secret_id` is drawn once for a name and stands for it, so the
tables here have the name in its place.  Every function commits what it has done.
-/

/-- `AuditEvent`.  A request id is drawn at random. -/
structure AuditEvent where
  occurredAt : Datetime
  requestId : Nat
  subjectServiceName : Text
  subjectPlane : SecretPlane
  secretName : Text
  action : SecretAction
  decision : PolicyEffect
  reason : Text
  deriving DecidableEq

/-- A row of `secret_metadata` without its name. -/
structure MetadataRow where
  classification : SecretClassification
  description : Text
  currentVersion : Nat
  deriving DecidableEq

/-- The tables `secret_metadata`, `secret_versions` and `secret_access_audit`. -/
structure SecretsDatabase where
  metadata : Dictionary Text MetadataRow
  versions : Dictionary (Text × Nat) SecretVersionStatus
  audit : List AuditEvent

inductive PersistenceError where
  | nulByte
  | checkViolation
  | integerOutOfRange
  | metadataMissing (name : Text)
  deriving DecidableEq

/-- A number that an `INTEGER` column takes. -/
def fitsInteger (value : Nat) : Bool :=
  decide (value ≤ 2147483647)

/-- The upsert of `persist_secret_metadata`. -/
def upsertMetadata (name : Text) (row : MetadataRow) (database : SecretsDatabase) :
    Except PersistenceError Unit × SecretsDatabase :=
  if (Text.sendable name && Text.sendable row.description) = false then (.error .nulByte, database)
  else if fitsInteger row.currentVersion = false then (.error .integerOutOfRange, database)
  else if Text.notBlank name = false then (.error .checkViolation, database)
  else (.ok (), { database with metadata := database.metadata.set name row })

/-- The upsert of `persist_secret_version`. -/
def upsertVersion (name : Text) (version : Nat) (database : SecretsDatabase) :
    Except PersistenceError Unit × SecretsDatabase :=
  if fitsInteger version = false then (.error .integerOutOfRange, database)
  else if version = 0 then (.error .checkViolation, database)
  else (.ok (), { database with versions := database.versions.set (name, version) .active })

/-- The insert of `persist_audit_event`. -/
def insertAudit (event : AuditEvent) (database : SecretsDatabase) : Except PersistenceError Unit × SecretsDatabase :=
  if [event.subjectServiceName, event.secretName, event.reason].all Text.sendable = false then (.error .nulByte, database)
  else if (Text.notBlank event.subjectServiceName && Text.notBlank event.secretName) = false then
    (.error .checkViolation, database)
  else (.ok (), { database with audit := database.audit ++ [event] })

/-- A program up to its commit. -/
def committed {A : Type} (program : Program PersistenceError SecretsDatabase A) :
    Program PersistenceError SecretsDatabase A :=
  transaction (fun before _ => before) program

/-- `persist_secret_metadata`. -/
def persistSecretMetadata (name : Text) (classification : SecretClassification) (description : Text)
    (currentVersion : Nat) : Program PersistenceError SecretsDatabase Unit :=
  committed (statement (upsertMetadata name
    { classification := classification, description := description, currentVersion := currentVersion }))

/-- `persist_secret_version`. -/
def persistSecretVersion (name : Text) (version : Nat) : Program PersistenceError SecretsDatabase Unit :=
  committed do
    let row ← query fun database : SecretsDatabase => database.metadata.get name
    match row with
    | none => throw (.raised (.metadataMissing name))
    | some _ => statement (upsertVersion name version)

/-- `persist_audit_event`, with the commit of its caller. -/
def persistAuditEvent (event : AuditEvent) : Program PersistenceError SecretsDatabase Unit :=
  committed (statement (insertAudit event))

/-- What a write of the command line persists. -/
def persistWrite (name : Text) (classification : SecretClassification) (description : Text) (version : Nat) :
    Program PersistenceError SecretsDatabase Unit := do
  persistSecretMetadata name classification description version
  persistSecretVersion name version

end Secrets
end ApexQuant
