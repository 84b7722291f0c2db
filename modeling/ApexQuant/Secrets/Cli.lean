import ApexQuant.Secrets.Mirror
import ApexQuant.Secrets.Policy
import ApexQuant.Secrets.Store

namespace ApexQuant
namespace Secrets

open Foundation
open Foundation.Database

/-!
# The command line of the secret store

The four commands on secrets, each a process of its own: it loads the store from its
file, decides, writes an audit entry, and only then does what it was asked to.  An
error ends it as `SystemExit` with a message that `main` prints, or as an exception
that nobody catches.

What a command meets is an argument: its input, and how its sinks and its database
fare.  What it draws is another, since two runs that meet the same draw
differently.
-/

/-- The files and the database that outlive a command. -/
structure SecretsSystem where
  file : Option StoreDocument
  auditFile : List AuditEvent
  database : SecretsDatabase

/-- How a command ends early. -/
inductive Exit where
  | systemExit (message : Text)
  | crash
  deriving DecidableEq

abbrev Cli (A : Type) := EStateM Exit SecretsSystem A

/-- What stands on standard output, as the data that `json.dumps` spells. -/
inductive Printed where
  | refused (reason : Text)
  | written (created : Bool) (name : Text) (classification : SecretClassification) (version : Nat)
  | rotated (name : Text) (classification : SecretClassification) (version : Nat)
  | metadata (metadata : SecretMetadata)
  | metadataList (metadata : List SecretMetadata)
  | value (value : Text)
  | message (text : Text)
  deriving DecidableEq

structure Reply where
  printed : Printed
  exitCode : Nat
  deriving DecidableEq

/-- What a file holds that is read as text. -/
inductive FileRead where
  | missing
  | unreadable
  | undecodable (message : Text)
  | content (text : Text)

/-- The options common to the commands. -/
structure Arguments where
  storePath : Text
  auditsToFile : Bool
  usesDatabase : Bool
  subjectService : Text
  subjectPlane : SecretPlane

/-- `--value-stdin` and `--value-file`. -/
structure ValueSource where
  valueStdin : Bool
  valueFile : Option Text

/-- What a command meets. -/
structure Surroundings where
  keyError : Option Text
  stdin : Except Text Text
  valueFile : FileRead
  saveWorks : Bool
  auditLink : Link
  auditFileFailure : Option Text
  mirrorLink : Link

/-- What a command draws. -/
structure Draws where
  requestId : Nat
  occurredAt : Datetime
  moment : Datetime
  sealDraws : SealDraws

namespace Cli

/-- A program over the database, on a connection of its own. -/
def onDatabase {A : Type} (link : Link) (program : Program PersistenceError SecretsDatabase A)
    (failed : Failure PersistenceError -> Exit) : Cli A := fun system =>
  match program { store := system.database, link := link } with
  | .ok answer after => .ok answer { system with database := after.store }
  | .error failure after => .error (failed failure) { system with database := after.store }

/-- `load_store`. -/
def loadStore (packages : Packages) (masterSecret : Bytes) (arguments : Arguments) (surroundings : Surroundings) :
    Cli SecretStorePayload := fun system =>
  match surroundings.keyError with
  | some message => .error (.systemExit ("master key error: ".toList ++ message)) system
  | none =>
      match Store.load packages masterSecret system.file with
      | .ok payload => .ok payload system
      | .error .missing =>
          .error (.systemExit ("secret store error: secret store does not exist: ".toList ++ arguments.storePath)) system
      | .error (.crypto error) =>
          .error (.systemExit ("secret store decryption error: ".toList ++ error.message)) system
      | .error .validation => .error .crash system

/-- The save that ends every write. -/
def saveStore (packages : Packages) (masterSecret : Bytes) (surroundings : Surroundings) (draws : Draws)
    (payload : SecretStorePayload) : Cli Unit := fun system =>
  if surroundings.saveWorks then
    .ok () { system with file := some (Store.save packages draws.sealDraws masterSecret payload) }
  else .error .crash system

/-- The value that is left of an input, or the complaint about an empty one. -/
def stripped (text complaint : Text) : Cli Text :=
  if Text.strip text = [] then throw (.systemExit complaint) else pure (Text.strip text)

/-- `read_value`, whose `ValueError` becomes a `SystemExit`. -/
def readValue (source : ValueSource) (surroundings : Surroundings) : Cli Text :=
  if source.valueStdin then
    match surroundings.stdin with
    | .error message => throw (.systemExit message)
    | .ok text => stripped text "secret value from stdin must not be empty".toList
  else
    match source.valueFile with
    | none => throw (.systemExit "either --value-stdin or --value-file is required".toList)
    | some path =>
        if path = [] then throw (.systemExit "either --value-stdin or --value-file is required".toList)
        else
          match surroundings.valueFile with
          | .missing => throw (.systemExit ("value file does not exist: ".toList ++ path))
          | .unreadable => throw .crash
          | .undecodable message => throw (.systemExit message)
          | .content text => stripped text ("value file must not be empty: ".toList ++ path)

/-- `build_audit_event`. -/
def buildAuditEvent (arguments : Arguments) (draws : Draws) (secretName : Text) (action : SecretAction)
    (evaluation : PolicyEvaluation) : AuditEvent where
  occurredAt := draws.occurredAt
  requestId := draws.requestId
  subjectServiceName := arguments.subjectService
  subjectPlane := arguments.subjectPlane
  secretName := secretName
  action := action
  decision := if evaluation.allowed then .allow else .deny
  reason := evaluation.reason

def auditFailure (reason : Text) : Exit :=
  .systemExit ("secret audit failure: ".toList ++ reason)

/-- The first half of `AuditLogger.log`. -/
def auditToDatabase (arguments : Arguments) (surroundings : Surroundings) (event : AuditEvent) : Cli Unit :=
  if arguments.usesDatabase then
    onDatabase surroundings.auditLink (persistAuditEvent event)
      fun _ => auditFailure "failed writing secret audit event to database".toList
  else pure ()

/-- The line that `AuditLogger.log` appends to its file. -/
def appendAudit (surroundings : Surroundings) (event : AuditEvent) : Cli Unit := fun system =>
  match surroundings.auditFileFailure with
  | none => .ok () { system with auditFile := system.auditFile ++ [event] }
  | some message => .error (auditFailure message) system

/-- The second half of `AuditLogger.log`, with the test that something was written. -/
def auditToFile (arguments : Arguments) (surroundings : Surroundings) (event : AuditEvent) : Cli Unit :=
  if arguments.auditsToFile then appendAudit surroundings event
  else if arguments.usesDatabase then pure ()
  else throw (auditFailure "secret access cannot proceed because no audit sink is configured".toList)

/-- `audit_or_exit`. -/
def auditOrExit (arguments : Arguments) (surroundings : Surroundings) (event : AuditEvent) : Cli Unit := do
  auditToDatabase arguments surroundings event
  auditToFile arguments surroundings event

/-- The block of a write that mirrors it. -/
def mirrorWrite (arguments : Arguments) (surroundings : Surroundings) (name : Text)
    (classification : SecretClassification) (description : Text) (version : Nat) : Cli Unit :=
  if arguments.usesDatabase then
    onDatabase surroundings.mirrorLink (persistWrite name classification description version) fun _ => .crash
  else pure ()

/-- A `SecretStoreError` as a `SystemExit`. -/
def orExit {A : Type} (opening : String) (answer : Except SecretStoreError A) : Cli A :=
  match answer with
  | .ok value => pure value
  | .error error => throw (.systemExit (opening.toList ++ error.message))

section Commands

variable (packages : Packages) (masterSecret : Bytes) (arguments : Arguments) (surroundings : Surroundings)
  (draws : Draws)

/-- `cmd_set_secret`. -/
def cmdSetSecret (name : Text) (classification : SecretClassification) (description : Text) (source : ValueSource) :
    Cli Reply := do
  let payload ← loadStore packages masterSecret arguments surroundings
  let value ← readValue source surroundings
  let action := if (payload.get name).isSome then SecretAction.rotate else SecretAction.write
  let evaluation := evaluateAccess arguments.subjectPlane classification action none
  auditOrExit arguments surroundings (buildAuditEvent arguments draws name action evaluation)
  if evaluation.allowed = false then pure { printed := .refused evaluation.reason, exitCode := 1 }
  else
    let written ← orExit "secret store error: "
      (Store.setSecret draws.moment name value classification description payload)
    saveStore packages masterSecret surroundings draws written.2
    mirrorWrite arguments surroundings name classification description written.1.2
    pure { printed := .written written.1.1 name classification written.1.2, exitCode := 0 }

/-- `cmd_rotate_secret`. -/
def cmdRotateSecret (name : Text) (source : ValueSource) : Cli Reply := do
  let payload ← loadStore packages masterSecret arguments surroundings
  let value ← readValue source surroundings
  let metadata ← orExit "" (Store.getMetadata name payload)
  let evaluation := evaluateAccess arguments.subjectPlane metadata.classification .rotate none
  auditOrExit arguments surroundings (buildAuditEvent arguments draws name .rotate evaluation)
  if evaluation.allowed = false then pure { printed := .refused evaluation.reason, exitCode := 1 }
  else
    let written ← orExit "secret store error: " (Store.rotateSecret draws.moment name value payload)
    saveStore packages masterSecret surroundings draws written.2
    mirrorWrite arguments surroundings name metadata.classification metadata.description written.1
    pure { printed := .rotated name metadata.classification written.1, exitCode := 0 }

/-- `cmd_get_secret`. -/
def cmdGetSecret (name : Text) (reveal : Bool) : Cli Reply := do
  let payload ← loadStore packages masterSecret arguments surroundings
  let metadata ← orExit "" (Store.getMetadata name payload)
  let evaluation := evaluateAccess arguments.subjectPlane metadata.classification .read none
  auditOrExit arguments surroundings (buildAuditEvent arguments draws name .read evaluation)
  if evaluation.allowed = false then pure { printed := .refused evaluation.reason, exitCode := 1 }
  else if reveal = false then pure { printed := .metadata metadata, exitCode := 0 }
  else
    let value ← orExit "" (Store.getSecret name payload)
    pure { printed := .value value, exitCode := 0 }

/-- `cmd_list_secrets`. -/
def cmdListSecrets : Cli Reply := do
  let payload ← loadStore packages masterSecret arguments surroundings
  let evaluation := evaluateAccess arguments.subjectPlane .infrastructure .read none
  auditOrExit arguments surroundings (buildAuditEvent arguments draws "<metadata>".toList .read evaluation)
  if evaluation.allowed = false then pure { printed := .refused evaluation.reason, exitCode := 1 }
  else pure { printed := .metadataList (Store.listMetadata payload), exitCode := 0 }

end Commands

/-- The commands on secrets. -/
inductive Command where
  | setSecret (name : Text) (classification : SecretClassification) (description : Text) (source : ValueSource)
  | rotateSecret (name : Text) (source : ValueSource)
  | getSecret (name : Text) (reveal : Bool)
  | listSecrets

/-- The handler of a command. -/
def handler (packages : Packages) (masterSecret : Bytes) (arguments : Arguments) (surroundings : Surroundings)
    (draws : Draws) : Command -> Cli Reply
  | .setSecret name classification description source =>
      cmdSetSecret packages masterSecret arguments surroundings draws name classification description source
  | .rotateSecret name source => cmdRotateSecret packages masterSecret arguments surroundings draws name source
  | .getSecret name reveal => cmdGetSecret packages masterSecret arguments surroundings draws name reveal
  | .listSecrets => cmdListSecrets packages masterSecret arguments surroundings draws

/-- What a process leaves behind on its output, if anything, and its exit code. -/
structure Outcome where
  printed : Option Printed
  exitCode : Nat
  deriving DecidableEq

/-- `main`, around a handler. -/
def main (cli : Cli Reply) (system : SecretsSystem) : Outcome × SecretsSystem :=
  match cli system with
  | .ok reply after => ({ printed := some reply.printed, exitCode := reply.exitCode }, after)
  | .error (.systemExit message) after => ({ printed := some (.message message), exitCode := 1 }, after)
  | .error .crash after => ({ printed := none, exitCode := 1 }, after)

/-- A command as it is issued: its options, and what it meets. -/
structure Issue where
  command : Command
  arguments : Arguments
  surroundings : Surroundings

/-- The process of an issued command. -/
def Issue.process (packages : Packages) (masterSecret : Bytes) (issue : Issue) (draws : Draws)
    (system : SecretsSystem) : Outcome × SecretsSystem :=
  main (handler packages masterSecret issue.arguments issue.surroundings draws issue.command) system

/-- One command after the other: their outcomes, and the system at the end. -/
def session (packages : Packages) (masterSecret : Bytes) :
    List (Issue × Draws) -> SecretsSystem -> List Outcome × SecretsSystem
  | [], system => ([], system)
  | (issue, draws) :: later, system =>
      let first := issue.process packages masterSecret draws system
      let rest := session packages masterSecret later first.2
      (first.1 :: rest.1, rest.2)

end Cli
end Secrets
end ApexQuant
