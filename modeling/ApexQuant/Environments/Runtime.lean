import ApexQuant.Environments.Validator
import ApexQuant.Foundation.Runs

namespace ApexQuant
namespace Environments

open Foundation

/-!
# The runtime environment

`RuntimeEnvironment` of `apex-config` reads four variables of the process.  The
validator compares two of them with the manifest, as they are written; so the other two
decide whether the runtime has the manifest's switches.
-/

/-! ## `apex-config` -/

namespace ApexConfig

inductive ConfigError where
  | missing (message : Text)
  | invalid (message : Text)
  deriving DecidableEq

def toAsciiLowercase (text : Text) : Text :=
  text.map Char.toLower

def toAsciiUppercase (text : Text) : Text :=
  text.map Char.toUpper

/-- `EnvironmentName::parse` -/
def parseEnvironment (value : Text) : Except ConfigError EnvironmentName :=
  let normalized := toAsciiLowercase (Text.trim value)
  if normalized = "local".toList then .ok .local
  else if normalized = "sandbox".toList then .ok .sandbox
  else if normalized = "paper".toList then .ok .paper
  else if normalized = "shadow".toList then .ok .shadow
  else if normalized = "production".toList then .ok .production
  else .error (.invalid ("unknown environment ".toList ++ normalized))

/-- `TradingMode::parse` -/
def parseTradingMode (value : Text) : Except ConfigError TradingMode :=
  let normalized := toAsciiUppercase (Text.trim value)
  if normalized = "DEVELOPMENT".toList then .ok .development
  else if normalized = "SANDBOX".toList then .ok .sandbox
  else if normalized = "PAPER".toList then .ok .paper
  else if normalized = "SHADOW".toList then .ok .shadow
  else if normalized = "PRODUCTION".toList then .ok .production
  else .error (.invalid ("unknown trading mode ".toList ++ normalized))

structure RuntimeEnvironmentInput where
  environment : Text
  tradingMode : Option Text
  liveCapitalAllowed : Option Text
  failClosedDefault : Option Text

structure RuntimeEnvironment where
  environment : EnvironmentName
  tradingMode : TradingMode
  liveCapitalAllowed : Bool
  failClosedDefault : Bool
  deriving DecidableEq

def yesWords : List Text :=
  ["true".toList, "yes".toList, "1".toList]

def noWords : List Text :=
  ["false".toList, "no".toList, "0".toList]

def parseBool (name : Text) (raw : Option Text) (default : Bool) : Except ConfigError Bool :=
  match raw with
  | none => .ok default
  | some raw =>
      let normalized := toAsciiLowercase (Text.trim raw)
      if normalized ∈ yesWords then .ok true
      else if normalized ∈ noWords then .ok false
      else .error (.invalid (name ++ " must be a boolean".toList))

/-- The mode that is given must be that of the environment, which is the default. -/
def checkedTradingMode (environment : EnvironmentName) (raw : Option Text) : Except ConfigError TradingMode :=
  match raw with
  | none => .ok (expectedTradingMode environment)
  | some raw =>
      match parseTradingMode raw with
      | .error error => .error error
      | .ok parsed =>
          if parsed ≠ expectedTradingMode environment then
            .error (.invalid ("environment ".toList ++ environment.value ++ " must use trading mode ".toList ++
              (expectedTradingMode environment).value))
          else .ok parsed

def refuseIf (condition : Bool) (message : Text) : Except ConfigError Unit :=
  if condition then .error (.invalid message) else .ok ()

/-- `RuntimeEnvironment::from_input` -/
def fromInput (input : RuntimeEnvironmentInput) : Except ConfigError RuntimeEnvironment := do
  let environment <- parseEnvironment input.environment
  let tradingMode <- checkedTradingMode environment input.tradingMode
  let liveCapitalAllowed <- parseBool "APEX_LIVE_CAPITAL_ALLOWED".toList input.liveCapitalAllowed false
  let failClosedDefault <- parseBool "APEX_FAIL_CLOSED_DEFAULT".toList input.failClosedDefault true
  refuseIf (liveCapitalAllowed && decide (environment ≠ .production)) "live capital is only permitted in production".toList
  refuseIf (!failClosedDefault && decide (environment ∈ criticalEnvironments))
    "fail_closed_default must be true for critical environments".toList
  .ok
    { environment := environment
      tradingMode := tradingMode
      liveCapitalAllowed := liveCapitalAllowed
      failClosedDefault := failClosedDefault }

/-- `RuntimeEnvironment::from_env` -/
def fromEnv (processEnv : Text -> Option Text) : Except ConfigError RuntimeEnvironment :=
  match processEnv "APEX_ENVIRONMENT".toList with
  | none => .error (.missing "APEX_ENVIRONMENT is required".toList)
  | some environment =>
      fromInput
        { environment := environment
          tradingMode := processEnv "APEX_TRADING_MODE".toList
          liveCapitalAllowed := processEnv "APEX_LIVE_CAPITAL_ALLOWED".toList
          failClosedDefault := processEnv "APEX_FAIL_CLOSED_DEFAULT".toList }

end ApexConfig

/-! ## What the validator has seen -/

/-- The runtime has what the manifest says. -/
def EnvironmentManifest.runtime (manifest : EnvironmentManifest) : ApexConfig.RuntimeEnvironment where
  environment := manifest.environment
  tradingMode := manifest.tradingMode
  liveCapitalAllowed := manifest.liveCapitalAllowed
  failClosedDefault := manifest.failClosedDefault

/-- A variable spells a switch, or is unset where that is the default. -/
def Spells (raw : Option Text) (default value : Bool) : Prop :=
  match raw with
  | none => default = value
  | some raw =>
      ApexConfig.toAsciiLowercase (Text.trim raw) ∈ if value then ApexConfig.yesWords else ApexConfig.noWords

/-- A report without errors is one of a manifest that was loaded and matches the process. -/
structure Validated (manifest : EnvironmentManifest) (environment : Text) (processEnv : Text -> Option Text) : Prop where
  policy : enforceEnvironmentPolicy manifest = .ok ()
  required : forall name, name ∈ extractRequiredEnvVars manifest ->
    ((processEnv name).all fun value => (Text.strip value).isEmpty) = false
  named : manifest.environment.value = environment
  environment : mismatch (processEnv "APEX_ENVIRONMENT".toList) environment = false
  tradingMode : mismatch (processEnv "APEX_TRADING_MODE".toList) manifest.tradingMode.value = false

theorem violationIf_quiet_iff {cause : Bool} {code message : Text} {path : Option Text} :
    (forall violation, violation ∈ violationIf cause code message path -> ¬violation.severity = .error) <->
      cause = false := by
  cases cause <;> simp [violationIf]

theorem requiredViolations_quiet_iff {requiredEnvVars : List Text} {processEnv : Text -> Option Text} :
    (forall violation, violation ∈ requiredViolations requiredEnvVars processEnv -> ¬violation.severity = .error) <->
      forall name, name ∈ requiredEnvVars ->
        ((processEnv name).all fun value => (Text.strip value).isEmpty) = false := by
  induction requiredEnvVars with
  | nil => simp [requiredViolations]
  | cons name names inductionHypothesis =>
      rw [requiredViolations] at inductionHypothesis ⊢
      rw [List.flatMap_cons, List.forall_mem_append, violationIf_quiet_iff, inductionHypothesis, List.forall_mem_cons]

theorem ok_iff_validated {manifestPath environment : Text} {manifest : EnvironmentManifest}
    {processEnv : Text -> Option Text} :
    (validateEnvironment manifestPath (some (.fields manifest)) environment true processEnv).ok = true <->
      Validated manifest environment processEnv := by
  cases policy : enforceEnvironmentPolicy manifest with
  | error message =>
      simp only [validateEnvironment, loadManifest, policy, failedReport]
      refine iff_of_false Bool.false_ne_true fun validated => ?_
      have passed := validated.policy
      rw [policy] at passed
      cases passed
  | ok passed =>
      simp only [validateEnvironment, loadManifest, policy, if_true, decide_eq_true_eq, List.length_eq_zero_iff,
        List.filter_eq_nil_iff, processViolations, List.forall_mem_append, violationIf_quiet_iff,
        requiredViolations_quiet_iff]
      constructor
      · rintro ⟨named, ⟨required, given⟩, mode⟩
        exact ⟨policy, required, by simpa using named, given, mode⟩
      · intro validated
        exact ⟨by simpa using validated.named, ⟨validated.required, validated.environment⟩, validated.tradingMode⟩

/-! ## Both sides -/

theorem raiseIf_eq_ok_iff {condition : Bool} {message : Text} : raiseIf condition message = .ok () <-> condition = false := by
  cases condition with
  | false => exact iff_of_true rfl rfl
  | true => exact iff_of_false (fun raised => by cases raised) (fun same => by cases same)

/-- What the policy says of the fields that the runtime has too. -/
structure Policed (manifest : EnvironmentManifest) : Prop where
  tradingMode : manifest.tradingMode = expectedTradingMode manifest.environment
  liveCapital : manifest.liveCapitalAllowed = true -> manifest.environment = .production
  failClosed : manifest.environment ∈ criticalEnvironments -> manifest.failClosedDefault = true

theorem policed_of_ok {manifest : EnvironmentManifest} (policy : enforceEnvironmentPolicy manifest = .ok ()) :
    Policed manifest := by
  simp only [enforceEnvironmentPolicy, Run.check_bind_eq_ok_iff, raiseIf_eq_ok_iff] at policy
  rcases policy with ⟨mode, live, _, _, _, closed, _⟩
  refine ⟨by simpa using mode, fun allowed => ?_, fun critical => ?_⟩
  · simpa [allowed] using live
  · simpa [critical] using closed

theorem parseEnvironment_value (environment : EnvironmentName) :
    ApexConfig.parseEnvironment environment.value = .ok environment := by
  cases environment <;> decide

theorem parseTradingMode_value (mode : TradingMode) : ApexConfig.parseTradingMode mode.value = .ok mode := by
  cases mode <;> decide

/-- A variable gives a switch exactly when it spells it. -/
theorem parseBool_iff {name : Text} {raw : Option Text} {default value : Bool} :
    ApexConfig.parseBool name raw default = .ok value <-> Spells raw default value := by
  cases raw with
  | none => exact ⟨fun returned => Except.ok.inj returned, fun same => congrArg Except.ok same⟩
  | some raw =>
      simp only [ApexConfig.parseBool, Spells]
      by_cases yes : ApexConfig.toAsciiLowercase (Text.trim raw) ∈ ApexConfig.yesWords
      · have apart : ApexConfig.toAsciiLowercase (Text.trim raw) ∉ ApexConfig.noWords := by
          have words : forall word, word ∈ ApexConfig.yesWords -> word ∉ ApexConfig.noWords := by decide
          exact words _ yes
        cases value <;> simp [yes, apart]
      · by_cases no : ApexConfig.toAsciiLowercase (Text.trim raw) ∈ ApexConfig.noWords
        · cases value <;> simp [yes, no]
        · cases value <;> simp [yes, no]

theorem checkedTradingMode_of_validated {manifest : EnvironmentManifest} {raw : Option Text}
    (policed : Policed manifest) (same : mismatch raw manifest.tradingMode.value = false) :
    ApexConfig.checkedTradingMode manifest.environment raw = .ok manifest.tradingMode := by
  cases raw with
  | none => exact congrArg Except.ok policed.tradingMode.symm
  | some raw =>
      have written : raw = manifest.tradingMode.value := by simpa [mismatch] using same
      simp [ApexConfig.checkedTradingMode, written, parseTradingMode_value, policed.tradingMode]

/-- With a manifest that the validator accepts, the runtime has the manifest's values
exactly when the two variables that the validator does not read spell them. -/
theorem runtime_agrees_iff {manifestPath environment : Text} {manifest : EnvironmentManifest}
    {processEnv : Text -> Option Text} (present : (processEnv "APEX_ENVIRONMENT".toList).isSome = true)
    (valid : (validateEnvironment manifestPath (some (.fields manifest)) environment true processEnv).ok = true) :
    ApexConfig.fromEnv processEnv = .ok manifest.runtime <->
      Spells (processEnv "APEX_LIVE_CAPITAL_ALLOWED".toList) false manifest.liveCapitalAllowed ∧
        Spells (processEnv "APEX_FAIL_CLOSED_DEFAULT".toList) true manifest.failClosedDefault := by
  have validated := ok_iff_validated.1 valid
  have policed := policed_of_ok validated.policy
  rcases Option.isSome_iff_exists.1 present with ⟨text, given⟩
  have written : text = manifest.environment.value := by
    have same := validated.environment
    rw [given, ← validated.named] at same
    simpa [mismatch] using same
  have mode := checkedTradingMode_of_validated policed validated.tradingMode
  have started : ApexConfig.fromEnv processEnv = ApexConfig.fromInput
      { environment := manifest.environment.value
        tradingMode := processEnv "APEX_TRADING_MODE".toList
        liveCapitalAllowed := processEnv "APEX_LIVE_CAPITAL_ALLOWED".toList
        failClosedDefault := processEnv "APEX_FAIL_CLOSED_DEFAULT".toList } := by
    rw [ApexConfig.fromEnv, given, written]
  rw [started, ApexConfig.fromInput]
  constructor
  · intro returned
    rcases Run.ok_of_bind returned with ⟨_, _, returned⟩
    rcases Run.ok_of_bind returned with ⟨_, _, returned⟩
    rcases Run.ok_of_bind returned with ⟨live, liveRead, returned⟩
    rcases Run.ok_of_bind returned with ⟨closed, closedRead, returned⟩
    rcases Run.ok_of_bind returned with ⟨_, _, returned⟩
    rcases Run.ok_of_bind returned with ⟨_, _, returned⟩
    have values := Except.ok.inj returned
    rw [ApexConfig.RuntimeEnvironment.mk.injEq] at values
    exact ⟨parseBool_iff.1 (values.2.2.1 ▸ liveRead), parseBool_iff.1 (values.2.2.2 ▸ closedRead)⟩
  · rintro ⟨live, closed⟩
    have liveQuiet : (manifest.liveCapitalAllowed && decide (manifest.environment ≠ .production)) = false := by
      cases allowed : manifest.liveCapitalAllowed with
      | false => rfl
      | true => simp [policed.liveCapital allowed]
    have closedQuiet : (!manifest.failClosedDefault && decide (manifest.environment ∈ criticalEnvironments)) = false := by
      by_cases critical : manifest.environment ∈ criticalEnvironments
      · simp [policed.failClosed critical]
      · simp [critical]
    rw [parseEnvironment_value]
    change (ApexConfig.checkedTradingMode manifest.environment _ >>= _) = _
    rw [mode]
    change (ApexConfig.parseBool _ _ _ >>= _) = _
    rw [parseBool_iff.2 live]
    change (ApexConfig.parseBool _ _ _ >>= _) = _
    rw [parseBool_iff.2 closed]
    change (ApexConfig.refuseIf _ _ >>= _) = _
    rw [liveQuiet, closedQuiet]
    rfl

/-- The manifest of the production environment, without live capital. -/
def productionManifest : EnvironmentManifest where
  environment := .production
  displayName := "Production".toList
  tradingMode := .production
  liveCapitalAllowed := false
  failClosedDefault := true
  riskEnforcementRequired := true
  aiDirectExecutionAllowed := false
  observabilityRequired := true
  networks := [("platform".toList, "p".toList), ("data".toList, "d".toList), ("observability".toList, "o".toList)]
  serviceFramework := { enabled := true, logLevel := .info, metricsEnabled := true }
  infrastructure :=
    { postgres :=
        { host := "postgres".toList
          port := 5432
          database := "apexquant".toList
          user := "$\x7bPOSTGRES_USER\x7d".toList
          password := "$\x7bPOSTGRES_PASSWORD\x7d".toList
          sslMode := .verifyFull }
      redis := { host := "redis".toList, port := 6379, databaseIndex := 0 }
      kafka := { bootstrapServers := "redpanda:9092".toList, securityProtocol := .saslSsl }
      objectStorage :=
        { endpoint := "minio:9000".toList
          accessKey := "$\x7bMINIO_ROOT_USER\x7d".toList
          secretKey := "$\x7bMINIO_ROOT_PASSWORD\x7d".toList
          secure := true } }

/-- A process that has all variables, the switch for live capital as it is given here. -/
def productionProcess (liveCapitalAllowed name : Text) : Option Text :=
  if name = "APEX_ENVIRONMENT".toList then some "production".toList
  else if name = "APEX_TRADING_MODE".toList then some "PRODUCTION".toList
  else if name = "APEX_LIVE_CAPITAL_ALLOWED".toList then some liveCapitalAllowed
  else some "true".toList

theorem validated_production {liveCapitalAllowed : Text} (visible : (Text.strip liveCapitalAllowed).isEmpty = false) :
    (validateEnvironment "environment.yaml".toList (some (.fields productionManifest)) "production".toList true
      (productionProcess liveCapitalAllowed)).ok = true := by
  refine ok_iff_validated.2 ⟨by decide, fun name _ => ?_, rfl, rfl, rfl⟩
  rw [productionProcess]
  split
  · decide
  · split
    · decide
    · split
      · exact visible
      · decide

theorem runtime_agrees_in_production :
    ApexConfig.fromEnv (productionProcess "No".toList) = .ok productionManifest.runtime <->
      Spells (some "No".toList) false false ∧ Spells (some "true".toList) true true :=
  runtime_agrees_iff rfl (validated_production (by decide))

/-- The process allows live capital, and the manifest does not. -/
theorem live_capital_unseen :
    ¬(forall (manifestPath environment : Text) (manifest : EnvironmentManifest) (processEnv : Text -> Option Text),
      (processEnv "APEX_ENVIRONMENT".toList).isSome = true ->
        (validateEnvironment manifestPath (some (.fields manifest)) environment true processEnv).ok = true ->
          ApexConfig.fromEnv processEnv = .ok manifest.runtime) := by
  intro agrees
  have same := agrees _ _ productionManifest (productionProcess "true".toList) rfl (validated_production (by decide))
  have allowed : ApexConfig.fromEnv (productionProcess "true".toList) =
      .ok { productionManifest.runtime with liveCapitalAllowed := true } := by decide
  rw [allowed] at same
  cases same

end Environments
end ApexQuant
