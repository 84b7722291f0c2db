import ApexQuant.Config.Canonical
import ApexQuant.Foundation.Json

namespace ApexQuant
namespace Environments

open Foundation
open Config (decimal)

/-!
# Environment manifests and their validator

`models.py`, `loader.py` and `validator.py`.  A manifest is a record whose fields have
passed; what is left of the schema is the policy over all of them.  The validator reads
the variables of the process as texts.
-/

/-! ## `models.py` -/

inductive EnvironmentName where
  | local
  | sandbox
  | paper
  | shadow
  | production
  deriving DecidableEq

def EnvironmentName.value : EnvironmentName -> Text
  | .local => "local".toList
  | .sandbox => "sandbox".toList
  | .paper => "paper".toList
  | .shadow => "shadow".toList
  | .production => "production".toList

inductive TradingMode where
  | development
  | sandbox
  | paper
  | shadow
  | production
  deriving DecidableEq

def TradingMode.value : TradingMode -> Text
  | .development => "DEVELOPMENT".toList
  | .sandbox => "SANDBOX".toList
  | .paper => "PAPER".toList
  | .shadow => "SHADOW".toList
  | .production => "PRODUCTION".toList

inductive LogLevel where
  | debug
  | info
  | warning
  | error
  | critical
  deriving DecidableEq

def LogLevel.value : LogLevel -> Text
  | .debug => "DEBUG".toList
  | .info => "INFO".toList
  | .warning => "WARNING".toList
  | .error => "ERROR".toList
  | .critical => "CRITICAL".toList

inductive PostgresSslMode where
  | disable
  | require
  | verifyCa
  | verifyFull
  deriving DecidableEq

def PostgresSslMode.value : PostgresSslMode -> Text
  | .disable => "disable".toList
  | .require => "require".toList
  | .verifyCa => "verify-ca".toList
  | .verifyFull => "verify-full".toList

inductive KafkaSecurityProtocol where
  | plaintext
  | ssl
  | saslPlaintext
  | saslSsl
  deriving DecidableEq

def KafkaSecurityProtocol.value : KafkaSecurityProtocol -> Text
  | .plaintext => "PLAINTEXT".toList
  | .ssl => "SSL".toList
  | .saslPlaintext => "SASL_PLAINTEXT".toList
  | .saslSsl => "SASL_SSL".toList

structure PostgresConfig where
  host : Text
  port : Int
  database : Text
  user : Text
  password : Text
  sslMode : PostgresSslMode

structure RedisConfig where
  host : Text
  port : Int
  databaseIndex : Int

structure KafkaConfig where
  bootstrapServers : Text
  securityProtocol : KafkaSecurityProtocol

structure ObjectStorageConfig where
  endpoint : Text
  accessKey : Text
  secretKey : Text
  secure : Bool

structure InfrastructureConfig where
  postgres : PostgresConfig
  redis : RedisConfig
  kafka : KafkaConfig
  objectStorage : ObjectStorageConfig

structure ServiceFrameworkConfig where
  enabled : Bool
  logLevel : LogLevel
  metricsEnabled : Bool

/-- The fields of a manifest. -/
structure EnvironmentManifest where
  environment : EnvironmentName
  displayName : Text
  tradingMode : TradingMode
  liveCapitalAllowed : Bool
  failClosedDefault : Bool
  riskEnforcementRequired : Bool
  aiDirectExecutionAllowed : Bool
  observabilityRequired : Bool
  networks : List (Text × Text)
  serviceFramework : ServiceFrameworkConfig
  infrastructure : InfrastructureConfig

def expectedTradingMode : EnvironmentName -> TradingMode
  | .local => .development
  | .sandbox => .sandbox
  | .paper => .paper
  | .shadow => .shadow
  | .production => .production

def criticalEnvironments : List EnvironmentName :=
  [.paper, .shadow, .production]

def requiredNetworks : List Text :=
  ["platform".toList, "data".toList, "observability".toList]

/-- `raise ValueError(message)` when the condition holds. -/
def raiseIf (condition : Bool) (message : Text) : Except Text Unit :=
  if condition then .error message else .ok ()

def enforceEnvironmentPolicy (manifest : EnvironmentManifest) : Except Text Unit := do
  raiseIf (decide (manifest.tradingMode ≠ expectedTradingMode manifest.environment))
    ("environment ".toList ++ manifest.environment.value ++ " must use trading mode ".toList ++
      (expectedTradingMode manifest.environment).value)
  raiseIf (manifest.liveCapitalAllowed && decide (manifest.environment ≠ .production))
    "live capital is only permitted in production".toList
  raiseIf manifest.aiDirectExecutionAllowed "AI direct execution is forbidden".toList
  raiseIf (!manifest.riskEnforcementRequired) "risk enforcement is required in every environment".toList
  raiseIf (!manifest.observabilityRequired) "observability is required in every environment".toList
  raiseIf (!manifest.failClosedDefault && decide (manifest.environment ∈ criticalEnvironments))
    "fail_closed_default must be true for critical environments".toList
  raiseIf (!(requiredNetworks.all fun name => (manifest.networks.map Prod.fst).contains name) ||
      !(manifest.networks.all fun network => requiredNetworks.contains network.1))
    "networks must define exactly platform, data, and observability".toList
  raiseIf (manifest.networks.any fun network => (Text.strip network.2).isEmpty) "network names must not be empty".toList
  raiseIf (decide (manifest.environment ∈ criticalEnvironments) &&
      decide (manifest.infrastructure.postgres.sslMode = .disable))
    "postgres SSL must be enabled for critical environments".toList
  raiseIf (decide (manifest.environment ∈ criticalEnvironments) &&
      decide (manifest.infrastructure.kafka.securityProtocol ∉ [.ssl, .saslSsl]))
    "Kafka must use TLS for critical environments".toList
  raiseIf (decide (manifest.environment ∈ criticalEnvironments) && !manifest.infrastructure.objectStorage.secure)
    "object storage must use secure transport for critical environments".toList

/-! ## `loader.py` -/

/-- What `model_dump(mode="json")` is made of. -/
inductive Payload where
  | bool (value : Bool)
  | integer (value : Int)
  | string (text : Text)
  | object (fields : List (Text × Payload))

mutual

/-- `json.dumps` -/
def dumps : Payload -> Text
  | .bool true => "true".toList
  | .bool false => "false".toList
  | .integer value => decimal value
  | .string text => Config.quoted Config.Python.escape text
  | .object fields => '\x7b' :: dumpsFields fields ++ ['\x7d']

def dumpsFields : List (Text × Payload) -> Text
  | [] => []
  | [(key, value)] => Config.quoted Config.Python.escape key ++ ": ".toList ++ dumps value
  | (key, value) :: next :: rest =>
      Config.quoted Config.Python.escape key ++ ": ".toList ++ dumps value ++ ", ".toList ++ dumpsFields (next :: rest)

end

/-- `model_dump(mode="json")` -/
def EnvironmentManifest.modelDump (manifest : EnvironmentManifest) : Payload :=
  .object [
    ("environment".toList, .string manifest.environment.value),
    ("display_name".toList, .string manifest.displayName),
    ("trading_mode".toList, .string manifest.tradingMode.value),
    ("live_capital_allowed".toList, .bool manifest.liveCapitalAllowed),
    ("fail_closed_default".toList, .bool manifest.failClosedDefault),
    ("risk_enforcement_required".toList, .bool manifest.riskEnforcementRequired),
    ("ai_direct_execution_allowed".toList, .bool manifest.aiDirectExecutionAllowed),
    ("observability_required".toList, .bool manifest.observabilityRequired),
    ("networks".toList, .object (manifest.networks.map fun network => (network.1, .string network.2))),
    ("services".toList, .object [
      ("service_framework".toList, .object [
        ("enabled".toList, .bool manifest.serviceFramework.enabled),
        ("log_level".toList, .string manifest.serviceFramework.logLevel.value),
        ("metrics_enabled".toList, .bool manifest.serviceFramework.metricsEnabled)])]),
    ("infrastructure".toList, .object [
      ("postgres".toList, .object [
        ("host".toList, .string manifest.infrastructure.postgres.host),
        ("port".toList, .integer manifest.infrastructure.postgres.port),
        ("database".toList, .string manifest.infrastructure.postgres.database),
        ("user".toList, .string manifest.infrastructure.postgres.user),
        ("password".toList, .string manifest.infrastructure.postgres.password),
        ("ssl_mode".toList, .string manifest.infrastructure.postgres.sslMode.value)]),
      ("redis".toList, .object [
        ("host".toList, .string manifest.infrastructure.redis.host),
        ("port".toList, .integer manifest.infrastructure.redis.port),
        ("database_index".toList, .integer manifest.infrastructure.redis.databaseIndex)]),
      ("kafka".toList, .object [
        ("bootstrap_servers".toList, .string manifest.infrastructure.kafka.bootstrapServers),
        ("security_protocol".toList, .string manifest.infrastructure.kafka.securityProtocol.value)]),
      ("object_storage".toList, .object [
        ("endpoint".toList, .string manifest.infrastructure.objectStorage.endpoint),
        ("access_key".toList, .string manifest.infrastructure.objectStorage.accessKey),
        ("secret_key".toList, .string manifest.infrastructure.objectStorage.secretKey),
        ("secure".toList, .bool manifest.infrastructure.objectStorage.secure)])])]

/-- A character that a name of a variable may begin with. -/
def openingCharacter (c : Char) : Bool :=
  (decide ('A' ≤ c) && decide (c ≤ 'Z')) || (decide ('a' ≤ c) && decide (c ≤ 'z')) || c == '_'

/-- A character that it may go on with. -/
def nameCharacter (c : Char) : Bool :=
  openingCharacter c || (decide ('0' ≤ c) && decide (c ≤ '9'))

/-- The group of `ENV_VAR_REFERENCE_PATTERN` in a match at the beginning. -/
def matchReference (text : Text) : Option Text :=
  match text with
  | '$' :: '\x7b' :: first :: rest =>
      if openingCharacter first && decide ((rest.dropWhile nameCharacter).head? = some '\x7d') then
        some (first :: rest.takeWhile nameCharacter)
      else none
  | _ => none

/-- `findall`: a match holds no dollar after its first character, so no two overlap. -/
def findReferences (text : Text) : List Text :=
  text.tails.filterMap matchReference

/-- `sorted(set(matches))` -/
def extractRequiredEnvVars (manifest : EnvironmentManifest) : List Text :=
  (findReferences (dumps manifest.modelDump)).dedup.insertionSort (· ≤ ·)

/-! ## `validator.py` -/

/-- An entry of `ValidationError.errors()`, with its location joined by dots. -/
structure SchemaError where
  location : Text
  message : Text
  deriving DecidableEq

/-- What a file holds: something that the schema or the loader refuses, or the fields of
a manifest. -/
inductive ManifestFile where
  | refused (errors : List SchemaError)
  | invalid (message : Text)
  | fields (manifest : EnvironmentManifest)

inductive LoadError where
  | validation (errors : List SchemaError)
  | value (message : Text)

/-- `load_manifest` -/
def loadManifest : ManifestFile -> Except LoadError EnvironmentManifest
  | .refused errors => .error (.validation errors)
  | .invalid message => .error (.value message)
  | .fields manifest =>
      match enforceEnvironmentPolicy manifest with
      | .error message => .error (.validation [{ location := [], message := "Value error, ".toList ++ message }])
      | .ok _ => .ok manifest

inductive Severity where
  | error
  | warning
  deriving DecidableEq

structure ConfigViolation where
  code : Text
  severity : Severity
  message : Text
  path : Option Text
  deriving DecidableEq

structure ConfigValidationReport where
  environment : Text
  manifestPath : Text
  ok : Bool
  errorsCount : Nat
  warningsCount : Nat
  requiredEnvVars : List Text
  violations : List ConfigViolation
  deriving DecidableEq

/-- A list with one violation, when there is cause for it. -/
def violationIf (cause : Bool) (code message : Text) (path : Option Text) : List ConfigViolation :=
  if cause then [{ code := code, severity := .error, message := message, path := path }] else []

/-- The report of a manifest that could not be loaded. -/
def failedReport (environment manifestPath : Text) (violations : List ConfigViolation) : ConfigValidationReport where
  environment := environment
  manifestPath := manifestPath
  ok := false
  errorsCount := violations.length
  warningsCount := 0
  requiredEnvVars := []
  violations := violations

/-- The loop over the required variables. -/
def requiredViolations (requiredEnvVars : List Text) (processEnv : Text -> Option Text) : List ConfigViolation :=
  requiredEnvVars.flatMap fun name =>
    violationIf ((processEnv name).all fun value => (Text.strip value).isEmpty) "REQUIRED_ENV_VAR_MISSING".toList
      ("required environment variable is missing: ".toList ++ name) none

/-- A variable that is set must have the text that is expected. -/
def mismatch (observed : Option Text) (expected : Text) : Bool :=
  observed.any fun value => decide (value ≠ expected)

/-- The checks under `check_process_env`. -/
def processViolations (environment : Text) (manifest : EnvironmentManifest) (processEnv : Text -> Option Text) :
    List ConfigViolation :=
  requiredViolations (extractRequiredEnvVars manifest) processEnv ++
    violationIf (mismatch (processEnv "APEX_ENVIRONMENT".toList) environment) "APEX_ENVIRONMENT_MISMATCH".toList
      ("APEX_ENVIRONMENT=".toList ++ (processEnv "APEX_ENVIRONMENT".toList).getD [] ++
        " does not match requested environment ".toList ++ environment) none ++
    violationIf (mismatch (processEnv "APEX_TRADING_MODE".toList) manifest.tradingMode.value)
      "APEX_TRADING_MODE_MISMATCH".toList
      ("APEX_TRADING_MODE=".toList ++ (processEnv "APEX_TRADING_MODE".toList).getD [] ++
        " does not match manifest trading mode ".toList ++ manifest.tradingMode.value) none

/-- `validate_environment`.  The path is that of the manifest, and the variables are those
of the process. -/
def validateEnvironment (manifestPath : Text) (file : Option ManifestFile) (environment : Text) (checkProcessEnv : Bool)
    (processEnv : Text -> Option Text) : ConfigValidationReport :=
  match file with
  | none =>
      failedReport environment manifestPath
        (violationIf true "MANIFEST_MISSING".toList ("missing manifest: ".toList ++ manifestPath) (some manifestPath))
  | some file =>
      match loadManifest file with
      | .error (.validation errors) =>
          failedReport environment manifestPath <| errors.flatMap fun error =>
            violationIf true "SCHEMA_VALIDATION_FAILED".toList error.message
              (if error.location = [] then none else some error.location)
      | .error (.value message) =>
          failedReport environment manifestPath
            (violationIf true "INVALID_MANIFEST".toList message (some manifestPath))
      | .ok manifest =>
          let violations :=
            violationIf (decide (manifest.environment.value ≠ environment)) "ENVIRONMENT_NAME_MISMATCH".toList
              ("manifest environment ".toList ++ manifest.environment.value ++ " does not match directory ".toList ++
                environment) (some "environment".toList) ++
            if checkProcessEnv then processViolations environment manifest processEnv else []
          { environment := environment
            manifestPath := manifestPath
            ok := decide ((violations.filter fun violation => decide (violation.severity = .error)).length = 0)
            errorsCount := (violations.filter fun violation => decide (violation.severity = .error)).length
            warningsCount := (violations.filter fun violation => decide (violation.severity = .warning)).length
            requiredEnvVars := extractRequiredEnvVars manifest
            violations := violations }

end Environments
end ApexQuant
