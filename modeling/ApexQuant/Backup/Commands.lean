import ApexQuant.Backup.Models
import ApexQuant.Foundation.Urls

namespace ApexQuant
namespace Backup

open Foundation

/-!
# Commands and what is shown of them

`errors.py`, `secret_refs.py`, `redaction.py`, `commands.py` and `runner.py`.  The
password of a connection stands in the commands.  It leaves them on two ways: an
exception for a command that ran out of time shows the command, and `redact_command`
leaves an argument alone when `urlparse` finds no password in it.
-/

/-! ## Exceptions -/

/-- The classes of `errors.py`, `storage.py` and `runner.py`. -/
inductive BackupErrorClass where
  | backup
  | notFound
  | unsupportedTarget
  | connectionReference
  | restoreSafety
  | command
  | objectStorage
  deriving DecidableEq, Repr

/-- What the service and the calls that it makes raise. -/
inductive BackupFailure where
  /-- A `BackupError`, with its message. -/
  | raised (class_ : BackupErrorClass) (message : Text)
  /-- `subprocess.TimeoutExpired`. -/
  | timedOut (command : List Text) (timeout : Option Nat)
  /-- `FileNotFoundError`. -/
  | fileNotFound (path : Text)
  /-- A `ValueError` of `urllib.parse`. -/
  | url (error : Urls.UrlError)
  /-- A constraint of the schema. -/
  | constraint (message : Text)
  /-- Anything else that a call raises. -/
  | outside (message : Text)
  deriving DecidableEq

/-- A decimal numeral. -/
def natText (n : Nat) : Text :=
  Nat.toDigits 10 n

def intText : Int -> Text
  | .ofNat n => natText n
  | .negSucc n => '-' :: natText (n + 1)

/-- A character inside quotes, as `repr` writes it. -/
def reprChar (printable : Char -> Bool) (quote c : Char) : Text :=
  if c = '\\' ∨ c = quote then ['\\', c]
  else if c = '\t' then "\\t".toList
  else if c = '\n' then "\\n".toList
  else if c = '\r' then "\\r".toList
  else if printable c then [c]
  else if c.toNat < 256 then "\\x".toList ++ Numeral.digits 16 2 c.toNat
  else if c.toNat < 65536 then "\\u".toList ++ Numeral.digits 16 4 c.toNat
  else "\\U".toList ++ Numeral.digits 16 8 c.toNat

/-- `repr(text)`: single quotes unless the text has some and no double ones. -/
def reprText (printable : Char -> Bool) (text : Text) : Text :=
  let quote := if text.contains '\'' && !text.contains '"' then '"' else '\''
  quote :: text.flatMap (reprChar printable quote) ++ [quote]

/-- `str(texts)` for a list of texts. -/
def reprList (printable : Char -> Bool) (texts : List Text) : Text :=
  '[' :: ", ".toList.intercalate (texts.map (reprText printable)) ++ [']']

def urlErrorMessage (printable : Char -> Bool) : Urls.UrlError -> Text
  | .invalidIpv6 => "Invalid IPv6 URL".toList
  | .invalidFutureAddress => "IPvFuture address is invalid".toList
  | .notAnAddress host => reprText printable host ++ " does not appear to be an IPv4 or IPv6 address".toList
  | .bracketedIpv4 => "An IPv4 address cannot be in brackets".toList
  | .denormalized netloc =>
      "netloc '".toList ++ netloc ++ "' contains invalid characters under NFKC normalization".toList
  | .portNotNumber port => "Port could not be cast to integer value as ".toList ++ reprText printable port
  | .portOutOfRange => "Port out of range 0-65535".toList

/-- `str(exc)`. -/
def BackupFailure.message (printable : Char -> Bool) : BackupFailure -> Text
  | .raised _ message => message
  | .timedOut command timeout =>
      "Command '".toList ++ reprList printable command ++ "' timed out after ".toList ++
        (match timeout with
        | some seconds => natText seconds
        | none => "None".toList) ++ " seconds".toList
  | .fileNotFound path => "[Errno 2] No such file or directory: ".toList ++ reprText printable path
  | .url error => urlErrorMessage printable error
  | .constraint message => message
  | .outside message => message

/-! ## Connection references -/

/-- `resolve_connection_ref`. -/
def resolveConnectionRef (environ : Text -> Option Text) (reference : Text) : Except BackupFailure Text :=
  if "env://".toList.isPrefixOf reference then
    match environ (reference.drop 6) with
    | some (c :: value) => .ok (c :: value)
    | _ =>
        .error (.raised .connectionReference
          ("environment variable referenced by ".toList ++ reference ++ " is not set".toList))
  else if "vault://".toList.isPrefixOf reference then
    .error (.raised .connectionReference
      "vault:// connection references are not configured in this environment".toList)
  else if "secret://".toList.isPrefixOf reference then
    .error (.raised .connectionReference
      "secret:// connection references are not configured in this environment".toList)
  else .error (.raised .connectionReference "connection references must use env://, vault://, or secret://".toList)

/-! ## Redaction -/

/-- `redact_url`. -/
def redactUrl (packages : Urls.Packages) (value : Text) : Except Urls.UrlError Text := do
  let parsed ← Urls.urlparse packages value
  if (parsed.password.getD []).isEmpty then pure value
  else
    let username := parsed.username.getD []
    let hostname := (parsed.hostname packages).getD []
    let port ← parsed.port
    let netloc := username ++ ":***@".toList ++ hostname ++
      (if port.getD 0 = 0 then [] else ':' :: natText (port.getD 0))
    pure (Urls.urlunparse { parsed with netloc := netloc })

/-- `redact_command`. -/
def redactCommand (packages : Urls.Packages) (command : List Text) : Except Urls.UrlError (List Text) :=
  command.mapM fun argument =>
    if argument.tails.any "://".toList.isPrefixOf then redactUrl packages argument else pure argument

/-! ## Commands -/

/-- `BackupCommand`. -/
structure BackupCommand where
  command : List Text
  outputPath : Text

/-- `workdir / name`. -/
def inDirectory (workdir name : Text) : Text :=
  if name.head? = some '/' then name else workdir ++ '/' :: name

/-- `build_backup_command`. -/
def buildBackupCommand (policy : BackupPolicy) (workdir runId resolvedConnection : Text) :
    Except BackupFailure BackupCommand :=
  if policy.targetSystem ≠ .postgres then
    .error (.raised .unsupportedTarget
      ("Phase 0 backup executor supports PostgreSQL targets only; ".toList ++
        "additional targets are introduced in later reliability features".toList))
  else
    let outputPath := inDirectory workdir (policy.targetName ++ '-' :: runId ++ ".dump".toList)
    .ok
      { command :=
          ["pg_dump".toList, "--format=custom".toList, "--no-owner".toList, "--no-privileges".toList,
            "--file=".toList ++ outputPath, resolvedConnection]
        outputPath := outputPath }

/-- `build_verify_command`. -/
def buildVerifyCommand (backupFile : Text) : List Text :=
  ["pg_restore".toList, "--list".toList, backupFile]

/-- `build_restore_command`. -/
def buildRestoreCommand (backupFile resolvedTargetConnection : Text) : List Text :=
  ["pg_restore".toList, "--no-owner".toList, "--no-privileges".toList, "--clean".toList, "--if-exists".toList,
    "--dbname=".toList ++ resolvedTargetConnection, backupFile]

/-! ## The runner -/

/-- How a command ends. -/
inductive Outcome where
  | exits (returncode : Int) (stdout stderr : Text)
  | timesOut
  | raises (message : Text)
  deriving DecidableEq

/-- `CommandResult`. -/
structure CommandResult where
  returncode : Int
  stdout : Text
  stderr : Text

/-- `SubprocessRunner.run`. -/
def runCommand (command : List Text) (timeout : Option Nat) : Outcome -> Except BackupFailure CommandResult
  | .exits returncode stdout stderr =>
      if returncode ≠ 0 then
        .error (.raised .command
          ("command failed with exit code ".toList ++ intText returncode ++ ": ".toList ++ stderr))
      else .ok { returncode := returncode, stdout := stdout, stderr := stderr }
  | .timesOut => .error (.timedOut command timeout)
  | .raises message => .error (.outside message)

/-- The result depends on the command only when the command runs out of time. -/
theorem runCommand_congr {outcome : Outcome} (inTime : outcome ≠ .timesOut) (command command' : List Text)
    (timeout : Option Nat) : runCommand command timeout outcome = runCommand command' timeout outcome := by
  cases outcome with
  | exits returncode stdout stderr => rfl
  | timesOut => exact absurd rfl inTime
  | raises message => rfl

/-- The argument of a restore that carries the connection is left as it is. -/
theorem redactUrl_option (packages : Urls.Packages) (rest : Text) :
    redactUrl packages ('-' :: rest) = .ok ('-' :: rest) := by
  rcases Urls.urlparse_of_hyphen packages rest with ⟨parsed, parses, bare⟩
  unfold redactUrl
  rw [parses]
  change (if (parsed.password.getD []).isEmpty then (pure ('-' :: rest) : Except Urls.UrlError Text) else _) = _
  rw [bare]
  rfl

end Backup
end ApexQuant
