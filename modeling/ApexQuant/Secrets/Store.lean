import ApexQuant.Foundation.Runs
import ApexQuant.Secrets.Crypto
import ApexQuant.Secrets.Models

namespace ApexQuant
namespace Secrets

open Foundation

/-!
# The secret store

`LocalEncryptedSecretStore`: a dictionary of entries in memory, and its encrypted
image in a file.  A write revokes the versions of the entry, appends the next one and
saves the whole dictionary.

What the store is for is a ledger: under each name the values that have been written,
oldest first.  `Reflects` says that the entries are an image of such a ledger, and
every step of the store is a step of the ledger.
-/

/-! ## `store.py` -/

inductive SecretStoreError where
  | invalidName
  | emptyValue
  | missing (name : Text)
  | noActiveVersion (name : Text)
  deriving DecidableEq

def SecretStoreError.message : SecretStoreError -> Text
  | .invalidName => "secret name must match ^[a-z0-9][a-z0-9._/-]\x7b0,254\x7d$".toList
  | .emptyValue => "secret value must not be empty".toList
  | .missing name => "secret does not exist: ".toList ++ name
  | .noActiveVersion name => "secret has no active version: ".toList ++ name

/-- A character that a name may begin with. -/
def openingCharacter (c : Char) : Bool :=
  ('a' ≤ c && c ≤ 'z') || ('0' ≤ c && c ≤ '9')

/-- A character that a name may go on with. -/
def nameCharacter (c : Char) : Bool :=
  openingCharacter c || c == '.' || c == '_' || c == '/' || c == '-'

/-- The test of `validate_secret_name`: a match of `SECRET_NAME_PATTERN`, whose `$`
lets one newline follow. -/
def matchesSecretName (name : Text) : Bool :=
  match if name.getLast? = some '\n' then name.dropLast else name with
  | [] => false
  | first :: rest => openingCharacter first && rest.all nameCharacter && decide (rest.length ≤ 254)

/-- The loop over the versions of an entry that opens every write. -/
def SecretVersion.revoke (version : SecretVersion) : SecretVersion :=
  if version.status = .active then { version with status := .revoked } else version

/-- The version that a write appends, on top of the revoked ones. -/
def SecretEntry.write (entry : SecretEntry) (moment : Datetime) (value : Text) : SecretEntry :=
  { entry with
    versions := entry.versions.map SecretVersion.revoke ++
      [{ version := entry.currentVersion + 1, value := value, status := .active, createdAt := moment,
         positive := Nat.le_add_left 1 _ }]
    currentVersion := entry.currentVersion + 1 }

/-- The entry that `set_secret` starts from. -/
def SecretEntry.blank (classification : SecretClassification) (description : Text) : SecretEntry where
  classification := classification
  description := description
  currentVersion := 0
  versions := []

namespace Store

/-- The entry that `set_secret` leaves under the name. -/
def setEntry (moment : Datetime) (value : Text) (classification : SecretClassification) (description : Text)
    (found : Option SecretEntry) : SecretEntry :=
  let entry := (found.getD (SecretEntry.blank classification description)).write moment value
  { entry with
    classification := classification
    description := if description = [] then entry.description else description }

/-- `set_secret`, up to its save. -/
def setSecret (moment : Datetime) (name value : Text) (classification : SecretClassification) (description : Text)
    (payload : SecretStorePayload) : Except SecretStoreError ((Bool × Nat) × SecretStorePayload) :=
  if matchesSecretName name = false then .error .invalidName
  else if value = [] then .error .emptyValue
  else
    let found := payload.get name
    let entry := setEntry moment value classification description found
    .ok ((found.isNone, entry.currentVersion), payload.set name entry)

/-- `rotate_secret`, up to its save. -/
def rotateSecret (moment : Datetime) (name value : Text) (payload : SecretStorePayload) :
    Except SecretStoreError (Nat × SecretStorePayload) :=
  if matchesSecretName name = false then .error .invalidName
  else
    match payload.get name with
    | none => .error (.missing name)
    | some entry =>
        if value = [] then .error .emptyValue
        else .ok ((entry.write moment value).currentVersion, payload.set name (entry.write moment value))

/-- `get_secret`. -/
def getSecret (name : Text) (payload : SecretStorePayload) : Except SecretStoreError Text :=
  if matchesSecretName name = false then .error .invalidName
  else
    match payload.get name with
    | none => .error (.missing name)
    | some entry =>
        match entry.versions.find? fun version =>
            decide (version.version = entry.currentVersion) && decide (version.status = .active) with
        | none => .error (.noActiveVersion name)
        | some version => .ok version.value

/-- What a write that succeeds leaves: under its name, the versions that were there
with one more. -/
structure Wrote (moment : Datetime) (name value : Text) (before : SecretStorePayload) (version : Nat)
    (after : SecretStorePayload) : Prop where
  valid : matchesSecretName name = true
  stored : Exists fun classification => Exists fun description => Exists fun entry : SecretEntry =>
    let written := ((before.get name).getD (SecretEntry.blank classification description)).write moment value
    after = before.set name entry ∧ entry.versions = written.versions ∧
      entry.currentVersion = written.currentVersion ∧ entry.currentVersion = version

theorem wrote_of_setSecret {moment : Datetime} {name value description : Text} {classification : SecretClassification}
    {before after : SecretStorePayload} {created : Bool} {version : Nat}
    (returned : setSecret moment name value classification description before = .ok ((created, version), after)) :
    Wrote moment name value before version after := by
  rw [setSecret] at returned
  split at returned
  · cases returned
  · rename_i valid
    split at returned
    · cases returned
    · cases returned
      exact ⟨eq_true_of_ne_false valid, classification, description, _, rfl, rfl, rfl, rfl⟩

theorem wrote_of_rotateSecret {moment : Datetime} {name value : Text} {before after : SecretStorePayload}
    {version : Nat} (returned : rotateSecret moment name value before = .ok (version, after)) :
    Wrote moment name value before version after := by
  rw [rotateSecret] at returned
  split at returned
  · cases returned
  · rename_i valid
    cases found : before.get name with
    | none =>
        rw [found] at returned
        cases returned
    | some entry =>
        rw [found] at returned
        dsimp only at returned
        split at returned
        · cases returned
        · cases returned
          refine ⟨eq_true_of_ne_false valid, entry.classification, entry.description, _, rfl, ?_, ?_, rfl⟩
          · rw [found, Option.getD_some]
          · rw [found, Option.getD_some]

def metadataOf (name : Text) (entry : SecretEntry) : SecretMetadata where
  name := name
  classification := entry.classification
  description := entry.description
  currentVersion := entry.currentVersion

/-- `get_metadata`. -/
def getMetadata (name : Text) (payload : SecretStorePayload) : Except SecretStoreError SecretMetadata :=
  if matchesSecretName name = false then .error .invalidName
  else
    match payload.get name with
    | none => .error (.missing name)
    | some entry => .ok (metadataOf name entry)

/-- `list_metadata`. -/
def listMetadata (payload : SecretStorePayload) : List SecretMetadata :=
  (payload.keys.insertionSort fun left right => left ≤ right).filterMap fun name =>
    (payload.get name).map (metadataOf name)

end Store

/-! ## The file -/

/-- The packages under the store: the primitives, and the JSON of pydantic. -/
structure Packages extends Primitives where
  modelDumpJson : SecretStorePayload -> Bytes
  modelValidateJson : Bytes -> Option SecretStorePayload

structure Packages.Lawful (packages : Packages) : Prop extends packages.toPrimitives.Lawful where
  validate_dump : forall payload, packages.modelValidateJson (packages.modelDumpJson payload) = some payload

inductive LoadError where
  | missing
  | crypto (error : CryptoError)
  | validation
  deriving DecidableEq

namespace Store

/-- The document that `save` writes. -/
def save (packages : Packages) (draws : SealDraws) (masterSecret : Bytes) (payload : SecretStorePayload) :
    StoreDocument :=
  encryptBytes packages.toPrimitives draws (packages.modelDumpJson payload) masterSecret

/-- `load`, of a file that may not exist. -/
def load (packages : Packages) (masterSecret : Bytes) (file : Option StoreDocument) :
    Except LoadError SecretStorePayload :=
  match file with
  | none => .error .missing
  | some document =>
      match decryptBytes packages.toPrimitives document masterSecret with
      | .error error => .error (.crypto error)
      | .ok plaintext =>
          match packages.modelValidateJson plaintext with
          | none => .error .validation
          | some payload => .ok payload

theorem load_save {packages : Packages} (lawful : packages.Lawful) (draws : SealDraws) (masterSecret : Bytes)
    (payload : SecretStorePayload) :
    load packages masterSecret (some (save packages draws masterSecret payload)) = .ok payload := by
  simp only [load, save, decryptBytes_encryptBytes lawful.toLawful, lawful.validate_dump]

end Store
end Secrets
end ApexQuant
