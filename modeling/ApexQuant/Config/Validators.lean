import ApexQuant.Config.Policy

namespace ApexQuant
namespace Config

open Foundation

/-!
# Manifests in two languages

The manifest validators of `lib.rs`, and the policy rules of `validator.py`: what
`ConfigValidator` checks besides the JSON schema.  Of a report only the errors are
kept.

The two disagree about a flag that is not a boolean.  Rust reads such a value as if the
flag were absent, and takes the default.  Python asks for the truth of any value where
a flag is dangerous, and for `True` itself where a flag protects.
-/

inductive ManifestKind where
  | service
  | environment
  deriving DecidableEq, Repr

def getStr (document : Json) (key : Text) : Option Text :=
  (document.get key).bind Json.asStr

def getBool (document : Json) (key : Text) : Option Bool :=
  (document.get key).bind Json.asBool

/-- An issue at a path, unless the condition is met. -/
def require (holds : Bool) (path message : Text) : List ValidationIssue :=
  if holds then [] else [{ path := path, message := message }]

@[simp]
theorem require_eq_nil {holds : Bool} {path message : Text} : require holds path message = [] <-> holds = true := by
  cases holds with
  | false => exact ⟨nofun, nofun⟩
  | true => exact ⟨fun _ => rfl, fun _ => rfl⟩

/-- The message about a trading mode. -/
def tradingModeMessage (environment expected : Text) : Text :=
  "environment ".toList ++ environment ++ " must use trading mode ".toList ++ expected

def failClosedMessage (environment : Text) : Text :=
  "environment ".toList ++ environment ++ " must have fail_closed_default=true".toList

namespace Rust

variable (fold : Text.Lowercasing)

/-- `validate_service_manifest`. -/
def validateServiceManifest (document : Json) : List ValidationIssue :=
  let value := document.sortKeys
  let schemaVersion := (getStr value "schema_version".toList).getD []
  let environment := (getStr value "environment".toList).getD []
  let plane := (getStr value "plane".toList).getD []
  let failClosedPolicy := (getStr value "fail_closed_policy".toList).getD []
  let liveTradingAllowed := (getBool value "live_trading_allowed".toList).getD false
  require (decide (schemaVersion = "service_manifest/v1".toList)) "$.schema_version".toList
      "schema_version must be service_manifest/v1".toList ++
    require (embeddedPolicy.environments.contains environment) "$.environment".toList
      "environment is not allowed".toList ++
    require (embeddedPolicy.planes.contains plane) "$.plane".toList "plane is not allowed".toList ++
    require (embeddedPolicy.failClosedPolicies.contains failClosedPolicy) "$.fail_closed_policy".toList
      "fail_closed_policy is not allowed".toList ++
    require (!(liveTradingAllowed && decide (environment ≠ "production".toList))) "$.live_trading_allowed".toList
      "live_trading_allowed may only be true in production".toList ++
    Rust.scanSecrets (embeddedScanner fold) document

/-- `validate_environment_manifest`. -/
def validateEnvironmentManifest (document : Json) : List ValidationIssue :=
  let value := document.sortKeys
  let schemaVersion := (getStr value "schema_version".toList).getD []
  let environment := (getStr value "environment".toList).getD []
  let tradingMode := (getStr value "trading_mode".toList).getD []
  let liveCapitalAllowed := (getBool value "live_capital_allowed".toList).getD false
  let failClosedDefault := (getBool value "fail_closed_default".toList).getD false
  let observabilityRequired := (getBool value "observability_required".toList).getD true
  require (decide (schemaVersion = "environment_manifest/v1".toList)) "$.schema_version".toList
      "schema_version must be environment_manifest/v1".toList ++
    require (embeddedPolicy.environments.contains environment) "$.environment".toList
      "environment is not allowed".toList ++
    (match List.lookup environment embeddedPolicy.tradingModeByEnvironment with
      | some expected =>
          require (decide (tradingMode = expected)) "$.trading_mode".toList (tradingModeMessage environment expected)
      | none => []) ++
    require (!(liveCapitalAllowed && decide (environment ≠ "production".toList))) "$.live_capital_allowed".toList
      "live_capital_allowed may only be true in production".toList ++
    require (!(embeddedPolicy.requireFailClosedFor.contains environment && !failClosedDefault))
      "$.fail_closed_default".toList (failClosedMessage environment) ++
    require observabilityRequired "$.observability_required".toList "observability_required must be true".toList ++
    require ((value.get "infrastructure".toList).any Json.isObject) "$.infrastructure".toList
      "infrastructure must be an object with at least one entry".toList ++
    Rust.scanSecrets (embeddedScanner fold) document

/-- The errors of the validator for a kind of manifest. -/
def validate : ManifestKind -> Json -> List ValidationIssue
  | .service => validateServiceManifest fold
  | .environment => validateEnvironmentManifest fold

end Rust

namespace Python

variable (fold : Text.Lowercasing)

/-- `bool(value)`. -/
def truth : Json -> Bool
  | .null => false
  | .bool value => value
  | .integer value => decide (value ≠ 0)
  | .float value => decide (value ≠ 0)
  | .string text => !text.isEmpty
  | .array items => !items.isEmpty
  | .object fields => !fields.isEmpty

/-- `value == text`, where no value is `None`. -/
def equals (value : Option Json) (text : Text) : Bool :=
  decide (value.bind Json.asStr = some text)

/-- `value in texts`. -/
def isOneOf (value : Option Json) (texts : List Text) : Bool :=
  texts.any (equals value)

/-- `str(texts)` for texts without quotes. -/
def listText (texts : List Text) : Text :=
  '[' :: ", ".toList.intercalate (texts.map fun text => '\'' :: text ++ ['\'']) ++ [']']

/-- A value that cannot be the key of a `dict`. -/
def unhashable : Option Json -> Bool
  | some (.array _) => true
  | some (.object _) => true
  | _ => false

/-- `_validate_service_manifest`. -/
def validateServiceManifest (document : Json) : List ValidationIssue :=
  if document.isObject then
    let schemaVersion := document.get "schema_version".toList
    let environment := document.get "environment".toList
    let plane := document.get "plane".toList
    let failClosedPolicy := document.get "fail_closed_policy".toList
    let liveTradingAllowed := truth ((document.get "live_trading_allowed".toList).getD (.bool false))
    require (equals schemaVersion "service_manifest/v1".toList) "$.schema_version".toList
        "schema_version must be service_manifest/v1".toList ++
      require (isOneOf environment embeddedPolicy.environments) "$.environment".toList
        ("environment must be one of ".toList ++ listText embeddedPolicy.environments) ++
      require (isOneOf plane embeddedPolicy.planes) "$.plane".toList
        ("plane must be one of ".toList ++ listText embeddedPolicy.planes) ++
      require (isOneOf failClosedPolicy embeddedPolicy.failClosedPolicies) "$.fail_closed_policy".toList
        ("fail_closed_policy must be one of ".toList ++ listText embeddedPolicy.failClosedPolicies) ++
      require (!(liveTradingAllowed && !equals environment "production".toList)) "$.live_trading_allowed".toList
        "live_trading_allowed may only be true in production".toList
  else []

/-- `_validate_environment_manifest`, which raises a `TypeError` for an environment that
cannot be looked up. -/
def validateEnvironmentManifest (document : Json) : Except Text (List ValidationIssue) :=
  if document.isObject then
    let schemaVersion := document.get "schema_version".toList
    let environment := document.get "environment".toList
    let tradingMode := document.get "trading_mode".toList
    let liveCapitalAllowed := truth ((document.get "live_capital_allowed".toList).getD (.bool false))
    let failClosedDefault := getBool document "fail_closed_default".toList
    let observabilityRequired := (document.get "observability_required".toList).getD (.bool true)
    let name := getStr document "environment".toList
    if unhashable environment then .error "TypeError".toList
    else
      .ok
        (require (equals schemaVersion "environment_manifest/v1".toList) "$.schema_version".toList
            "schema_version must be environment_manifest/v1".toList ++
          require (isOneOf environment embeddedPolicy.environments) "$.environment".toList
            ("environment must be one of ".toList ++ listText embeddedPolicy.environments) ++
          (match name.bind fun known => List.lookup known embeddedPolicy.tradingModeByEnvironment with
            | some expected =>
                require (equals tradingMode expected) "$.trading_mode".toList
                  (tradingModeMessage (name.getD []) expected)
            | none => []) ++
          require (!(liveCapitalAllowed && !equals environment "production".toList)) "$.live_capital_allowed".toList
            "live_capital_allowed may only be true in production".toList ++
          require (!(isOneOf environment embeddedPolicy.requireFailClosedFor &&
              !decide (failClosedDefault = some true)))
            "$.fail_closed_default".toList (failClosedMessage (name.getD [])) ++
          require (decide (observabilityRequired.asBool = some true)) "$.observability_required".toList
            "observability_required must be true".toList)
  else .ok []

/-- What `ConfigValidator.validate` adds to the findings of the JSON schema. -/
def policyRules : ManifestKind -> Json -> Except Text (List ValidationIssue)
  | .service, document => .ok (Python.scanSecrets (embeddedScanner fold) document ++ validateServiceManifest document)
  | .environment, document =>
      (validateEnvironmentManifest document).map fun issues => Python.scanSecrets (embeddedScanner fold) document ++ issues

end Python

/-! ## What a manifest has to meet -/

/-- The value of the key is one of the texts. -/
def Names (document : Json) (key : Text) (allowed : List Text) : Prop :=
  Exists fun text => text ∈ allowed ∧ getStr document key = some text

def Production (document : Json) : Prop :=
  getStr document "environment".toList = some "production".toList

/-- The flag is read as set outside production. -/
def Raised (reads : Json -> Prop) (document : Json) (key : Text) : Prop :=
  ¬ Production document ∧ Exists fun value => document.get key = some value ∧ reads value

/-- A value that is not a boolean, and has the truth of one that is set. -/
def LooksSet (value : Json) : Prop :=
  value.asBool = none ∧ Python.truth value = true

structure ServiceRules (document : Json) : Prop where
  schemaVersion : getStr document "schema_version".toList = some "service_manifest/v1".toList
  environment : Names document "environment".toList embeddedPolicy.environments
  plane : Names document "plane".toList embeddedPolicy.planes
  failClosedPolicy : Names document "fail_closed_policy".toList embeddedPolicy.failClosedPolicies

structure EnvironmentRules (document : Json) : Prop where
  schemaVersion : getStr document "schema_version".toList = some "environment_manifest/v1".toList
  environment : Names document "environment".toList embeddedPolicy.environments
  tradingMode : forall environment expected, getStr document "environment".toList = some environment ->
    List.lookup environment embeddedPolicy.tradingModeByEnvironment = some expected ->
      getStr document "trading_mode".toList = some expected
  failClosed : Names document "environment".toList embeddedPolicy.requireFailClosedFor ->
    getBool document "fail_closed_default".toList = some true

/-! ## Reading fields -/

theorem getStr_sortKeys {document : Json} (unique : document.UniqueKeys) (key : Text) :
    getStr document.sortKeys key = getStr document key := by
  rw [getStr, getStr, Json.get_sortKeys unique, Option.bind_map]
  congr 1
  funext value
  cases value <;> rfl

theorem getBool_sortKeys {document : Json} (unique : document.UniqueKeys) (key : Text) :
    getBool document.sortKeys key = getBool document key := by
  rw [getBool, getBool, Json.get_sortKeys unique, Option.bind_map]
  congr 1
  funext value
  cases value <;> rfl

theorem getD_eq_iff {read : Option Text} {wanted : Text} (nonempty : wanted ≠ []) :
    read.getD [] = wanted <-> read = some wanted := by
  cases read with
  | none => exact ⟨fun same => absurd same.symm nonempty, nofun⟩
  | some text => exact (Option.some_inj).symm

/-- `unwrap_or_default` makes no text of a list out of a missing one. -/
theorem contains_getD_iff {document : Json} {key : Text} {allowed : List Text} (nonempty : [] ∉ allowed) :
    allowed.contains ((getStr document key).getD []) = true <-> Names document key allowed := by
  rw [List.contains_iff_mem, Names]
  cases getStr document key with
  | none => exact ⟨fun member => absurd member nonempty, fun ⟨_, _, same⟩ => by cases same⟩
  | some text =>
      constructor
      · exact fun member => ⟨text, member, rfl⟩
      · rintro ⟨_, member, same⟩
        cases same
        exact member

theorem equals_iff {document : Json} {key text : Text} :
    Python.equals (document.get key) text = true <-> getStr document key = some text :=
  decide_eq_true_iff

theorem isOneOf_iff {document : Json} {key : Text} {allowed : List Text} :
    Python.isOneOf (document.get key) allowed = true <-> Names document key allowed := by
  rw [Python.isOneOf, List.any_eq_true]
  exact exists_congr fun text => and_congr_right fun _ => equals_iff

/-- What Rust reads as set Python does as well, with the values that look it. -/
theorem raised_truth_iff (document : Json) (key : Text) :
    Raised (fun value => Python.truth value = true) document key <->
      Raised (fun value => value.asBool = some true) document key ∨ Raised LooksSet document key := by
  unfold Raised
  rw [← and_or_left, ← exists_or]
  apply and_congr_right'
  apply exists_congr
  intro value
  rw [← and_or_left]
  apply and_congr_right'
  unfold LooksSet
  cases value with
  | bool value => cases value <;> simp [Python.truth, Json.asBool]
  | null | integer | float | string | array | object => simp [Json.asBool]

/-- A flag that looks set is not a boolean. -/
theorem not_raised_of_looksSet {document : Json} {key : Text} (raised : Raised LooksSet document key) :
    ¬ Raised (fun value => value.asBool = some true) document key := by
  rcases raised with ⟨-, value, found, untyped, -⟩
  rintro ⟨-, other, found', set⟩
  cases found.symm.trans found'
  cases untyped.symm.trans set

/-- A guard on a flag that only production may set. -/
theorem guard_iff {reads : Json -> Prop} {document : Json} {key : Text} {set production : Bool}
    (whenSet : set = true <-> Exists fun value => document.get key = some value ∧ reads value)
    (inProduction : production = true <-> Production document) :
    (!(set && !production)) = true <-> ¬ Raised reads document key := by
  unfold Raised
  rw [← whenSet, ← inProduction]
  cases set <;> cases production <;> decide

theorem rust_set_iff (document : Json) (key : Text) :
    (getBool document key).getD false = true <->
      Exists fun value => document.get key = some value ∧ value.asBool = some true := by
  unfold getBool
  cases document.get key with
  | none => exact ⟨nofun, fun ⟨_, absent, _⟩ => by cases absent⟩
  | some value =>
      constructor
      · intro set
        refine ⟨value, rfl, ?_⟩
        cases read : value.asBool with
        | none =>
            rw [Option.bind_some, read] at set
            cases set
        | some flag =>
            rw [Option.bind_some, read] at set
            exact congrArg some set
      · rintro ⟨_, same, set⟩
        cases same
        rw [Option.bind_some, set]
        rfl

theorem python_set_iff (document : Json) (key : Text) :
    Python.truth ((document.get key).getD (.bool false)) = true <->
      Exists fun value => document.get key = some value ∧ Python.truth value = true := by
  cases document.get key with
  | none => exact ⟨nofun, fun ⟨_, absent, _⟩ => by cases absent⟩
  | some value =>
      constructor
      · exact fun set => ⟨value, rfl, set⟩
      · rintro ⟨_, same, set⟩
        cases same
        exact set

theorem rust_production_iff (document : Json) :
    decide ((getStr document "environment".toList).getD [] = "production".toList) = true <-> Production document :=
  decide_eq_true_iff.trans (getD_eq_iff (by decide))

theorem rust_service_iff (fold : Text.Lowercasing) {document : Json} (unique : document.UniqueKeys) :
    Rust.validateServiceManifest fold document = [] <->
      ServiceRules document ∧ ¬ Raised (fun value => value.asBool = some true) document "live_trading_allowed".toList ∧
        ¬ (embeddedScanner fold).Exposed document := by
  unfold Rust.validateServiceManifest
  simp only [getStr_sortKeys unique, getBool_sortKeys unique, List.append_eq_nil_iff, require_eq_nil, ne_eq,
    decide_not, decide_eq_true_iff, Scanner.rust_scanSecrets_eq_nil_iff]
  rw [getD_eq_iff (by decide), contains_getD_iff (by decide), contains_getD_iff (by decide),
    contains_getD_iff (by decide), guard_iff (rust_set_iff document _) (rust_production_iff document)]
  constructor
  · rintro ⟨⟨⟨⟨⟨schemaVersion, environment⟩, plane⟩, failClosedPolicy⟩, lowered⟩, unexposed⟩
    exact ⟨⟨schemaVersion, environment, plane, failClosedPolicy⟩, lowered, unexposed⟩
  · rintro ⟨rules, lowered, unexposed⟩
    exact ⟨⟨⟨⟨⟨rules.schemaVersion, rules.environment⟩, rules.plane⟩, rules.failClosedPolicy⟩, lowered⟩, unexposed⟩

theorem python_production_iff (document : Json) :
    Python.equals (document.get "environment".toList) "production".toList = true <-> Production document :=
  decide_eq_true_iff

/-- A document with a field is an object. -/
theorem isObject_of_getStr {document : Json} {key text : Text} (found : getStr document key = some text) :
    document.isObject = true := by
  cases document with
  | object fields => rfl
  | null | bool | integer | float | string | array => cases found

theorem python_service_iff (fold : Text.Lowercasing) {document : Json} (object : document.isObject = true) :
    Python.policyRules fold .service document = .ok [] <->
      ServiceRules document ∧ ¬ Raised (fun value => Python.truth value = true) document "live_trading_allowed".toList ∧
        ¬ (embeddedScanner fold).Exposed document := by
  change Except.ok (Python.scanSecrets (embeddedScanner fold) document ++ Python.validateServiceManifest document) =
    .ok [] <-> _
  unfold Python.validateServiceManifest
  rw [if_pos object]
  simp only [Except.ok.injEq, List.append_eq_nil_iff, require_eq_nil, Scanner.python_scanSecrets_eq_nil_iff]
  rw [isOneOf_iff, isOneOf_iff, isOneOf_iff, guard_iff (python_set_iff document _) (python_production_iff document)]
  constructor
  · rintro ⟨unexposed, ⟨⟨⟨schemaVersion, environment⟩, plane⟩, failClosedPolicy⟩, lowered⟩
    exact ⟨⟨of_decide_eq_true schemaVersion, environment, plane, failClosedPolicy⟩, lowered, unexposed⟩
  · rintro ⟨rules, lowered, unexposed⟩
    exact ⟨unexposed, ⟨⟨⟨decide_eq_true rules.schemaVersion, rules.environment⟩, rules.plane⟩, rules.failClosedPolicy⟩,
      lowered⟩

/-! ## Environments -/

/-- The rule about trading modes, of a validator that has read the environment. -/
theorem tradingMode_iff {document : Json} {name : Text} {agrees : Text -> Bool}
    (agrees_iff : forall expected, expected ≠ [] -> (agrees expected = true <->
      getStr document "trading_mode".toList = some expected)) :
    (match (getStr document "environment".toList).bind fun known =>
        List.lookup known embeddedPolicy.tradingModeByEnvironment with
      | some expected => require (agrees expected) "$.trading_mode".toList (tradingModeMessage name expected)
      | none => []) = [] <->
    forall environment expected, getStr document "environment".toList = some environment ->
      List.lookup environment embeddedPolicy.tradingModeByEnvironment = some expected ->
        getStr document "trading_mode".toList = some expected := by
  have nonempty : forall mode, mode ∈ embeddedPolicy.tradingModeByEnvironment.map Prod.snd -> mode ≠ [] := by decide
  cases getStr document "environment".toList with
  | none =>
      refine ⟨fun _ environment expected missing => ?_, fun _ => rfl⟩
      cases missing
  | some environment =>
      rw [Option.bind_some]
      cases known : List.lookup environment embeddedPolicy.tradingModeByEnvironment with
      | none =>
          refine ⟨fun _ other expected same listed => ?_, fun _ => rfl⟩
          cases same
          cases known.symm.trans listed
      | some mode =>
          rcases List.lookup_eq_some_iff.mp known with ⟨before, after, shape, -⟩
          have listed : mode ∈ embeddedPolicy.tradingModeByEnvironment.map Prod.snd := by
            rw [shape, List.map_append, List.map_cons]
            exact List.mem_append_right _ List.mem_cons_self
          change require _ _ _ = [] <-> _
          rw [require_eq_nil, agrees_iff mode (nonempty mode listed)]
          constructor
          · rintro agreed other expected same found
            cases same
            cases known.symm.trans found
            exact agreed
          · exact fun rule => rule environment mode rfl known

/-- Rust looks the empty text up when there is no environment. -/
theorem lookup_getD (read : Option Text) :
    List.lookup (read.getD []) embeddedPolicy.tradingModeByEnvironment =
      read.bind fun known => List.lookup known embeddedPolicy.tradingModeByEnvironment := by
  cases read with
  | none => rfl
  | some text => rfl

theorem rust_observability_iff (document : Json) :
    (getBool document "observability_required".toList).getD true = true <->
      getBool document "observability_required".toList ≠ some false := by
  cases getBool document "observability_required".toList with
  | none => exact ⟨nofun, fun _ => rfl⟩
  | some flag => cases flag <;> decide

theorem python_observability_iff (document : Json) :
    ((document.get "observability_required".toList).getD (.bool true)).asBool = some true <->
      forall value, document.get "observability_required".toList = some value -> value.asBool = some true := by
  cases document.get "observability_required".toList with
  | none => exact ⟨fun _ => nofun, fun _ => rfl⟩
  | some value =>
      constructor
      · rintro set _ same
        cases same
        exact set
      · exact fun rule => rule value rfl

/-- The rule about closing when something fails. -/
theorem failClosed_iff {document : Json} {required closed : Bool}
    (whenRequired : required = true <->
      Names document "environment".toList embeddedPolicy.requireFailClosedFor)
    (whenClosed : closed = true <-> getBool document "fail_closed_default".toList = some true) :
    (!(required && !closed)) = true <->
      (Names document "environment".toList embeddedPolicy.requireFailClosedFor ->
        getBool document "fail_closed_default".toList = some true) := by
  rw [← whenRequired, ← whenClosed]
  cases required <;> cases closed <;> decide

theorem getD_false_iff (read : Option Bool) : read.getD false = true <-> read = some true := by
  cases read with
  | none => exact ⟨nofun, nofun⟩
  | some flag => exact (Option.some_inj).symm

theorem infrastructure_sortKeys {document : Json} (unique : document.UniqueKeys) :
    (document.sortKeys.get "infrastructure".toList).any Json.isObject =
      (document.get "infrastructure".toList).any Json.isObject := by
  rw [Json.get_sortKeys unique, Option.any_map]
  congr 1
  funext value
  cases value <;> rfl

theorem rust_environment_iff (fold : Text.Lowercasing) {document : Json} (unique : document.UniqueKeys) :
    Rust.validateEnvironmentManifest fold document = [] <->
      EnvironmentRules document ∧
        ¬ Raised (fun value => value.asBool = some true) document "live_capital_allowed".toList ∧
        getBool document "observability_required".toList ≠ some false ∧
        (document.get "infrastructure".toList).any Json.isObject = true ∧
        ¬ (embeddedScanner fold).Exposed document := by
  unfold Rust.validateEnvironmentManifest
  simp only [getStr_sortKeys unique, getBool_sortKeys unique, infrastructure_sortKeys unique, lookup_getD,
    List.append_eq_nil_iff, require_eq_nil, ne_eq, decide_not, decide_eq_true_iff,
    Scanner.rust_scanSecrets_eq_nil_iff]
  rw [getD_eq_iff (by decide), contains_getD_iff (by decide),
    tradingMode_iff fun expected nonempty => decide_eq_true_iff.trans (getD_eq_iff nonempty),
    guard_iff (rust_set_iff document _) (rust_production_iff document),
    failClosed_iff (contains_getD_iff (by decide)) (getD_false_iff _), rust_observability_iff]
  constructor
  · rintro ⟨⟨⟨⟨⟨⟨⟨schemaVersion, environment⟩, tradingMode⟩, lowered⟩, failClosed⟩, observed⟩, infrastructure⟩, unexposed⟩
    exact ⟨⟨schemaVersion, environment, tradingMode, failClosed⟩, lowered, observed, infrastructure, unexposed⟩
  · rintro ⟨rules, lowered, observed, infrastructure, unexposed⟩
    exact ⟨⟨⟨⟨⟨⟨⟨rules.schemaVersion, rules.environment⟩, rules.tradingMode⟩, lowered⟩, rules.failClosed⟩, observed⟩,
      infrastructure⟩, unexposed⟩

/-- An environment with a name can be looked up. -/
theorem hashable_of_names {document : Json} {allowed : List Text} (named : Names document "environment".toList allowed) :
    Python.unhashable (document.get "environment".toList) = false := by
  rcases named with ⟨text, -, read⟩
  unfold getStr at read
  cases found : document.get "environment".toList with
  | none => rfl
  | some value =>
      rw [found] at read
      cases value with
      | array | object => cases read
      | null | bool | integer | float | string => rfl

theorem python_environment_iff (fold : Text.Lowercasing) {document : Json} (object : document.isObject = true) :
    Python.policyRules fold .environment document = .ok [] <->
      EnvironmentRules document ∧
        ¬ Raised (fun value => Python.truth value = true) document "live_capital_allowed".toList ∧
        (forall value, document.get "observability_required".toList = some value -> value.asBool = some true) ∧
        ¬ (embeddedScanner fold).Exposed document := by
  change (Python.validateEnvironmentManifest document).map
    (fun issues => Python.scanSecrets (embeddedScanner fold) document ++ issues) = .ok [] <-> _
  unfold Python.validateEnvironmentManifest
  rw [if_pos object]
  dsimp only
  by_cases unhashable : Python.unhashable (document.get "environment".toList) = true
  · rw [if_pos unhashable]
    constructor
    · intro raised
      cases raised
    · intro passed
      exact absurd (unhashable.symm.trans (hashable_of_names passed.1.environment)) nofun
  · rw [if_neg unhashable]
    simp only [Except.map, Except.ok.injEq, List.append_eq_nil_iff, require_eq_nil, decide_eq_true_iff,
      Scanner.python_scanSecrets_eq_nil_iff]
    rw [isOneOf_iff, python_observability_iff, tradingMode_iff fun expected _ => equals_iff,
      guard_iff (python_set_iff document _) (python_production_iff document),
      failClosed_iff isOneOf_iff decide_eq_true_iff]
    constructor
    · rintro ⟨unexposed, ⟨⟨⟨⟨schemaVersion, environment⟩, tradingMode⟩, lowered⟩, failClosed⟩, observed⟩
      exact ⟨⟨of_decide_eq_true schemaVersion, environment, tradingMode, failClosed⟩, lowered, observed, unexposed⟩
    · rintro ⟨rules, lowered, observed, unexposed⟩
      exact ⟨unexposed, ⟨⟨⟨⟨decide_eq_true rules.schemaVersion, rules.environment⟩, rules.tradingMode⟩, lowered⟩,
        rules.failClosed⟩, observed⟩

/-! ## Rust's verdict and Python's -/

/-- The manifest keeps every other rule, and has a flag that is not a boolean and that
Rust takes for a safe one: one that looks set where only production may set it, or
anything in the place of the flag for observability. -/
def Misread (fold : Text.Lowercasing) (document : Json) : ManifestKind -> Prop
  | .service =>
      ServiceRules document ∧ ¬ (embeddedScanner fold).Exposed document ∧
        Raised LooksSet document "live_trading_allowed".toList
  | .environment =>
      EnvironmentRules document ∧ ¬ (embeddedScanner fold).Exposed document ∧
        (document.get "infrastructure".toList).any Json.isObject = true ∧
        ¬ Raised (fun value => value.asBool = some true) document "live_capital_allowed".toList ∧
        getBool document "observability_required".toList ≠ some false ∧
        (Raised LooksSet document "live_capital_allowed".toList ∨
          Exists fun value => document.get "observability_required".toList = some value ∧ value.asBool = none)

/-- A manifest without errors in Rust has none in Python, unless a flag is misread. -/
theorem rust_accepts_only_what_python_does (fold : Text.Lowercasing) (kind : ManifestKind) (document : Document) :
    (Rust.validate fold kind document.json = [] -> Python.policyRules fold kind document.json = .ok []) <->
      ¬ Misread fold document.json kind := by
  rcases document with ⟨document, unique⟩
  cases kind with
  | service =>
      change (Rust.validateServiceManifest fold document = [] -> _) <-> _
      rw [rust_service_iff fold unique]
      constructor
      · rintro implied ⟨rules, unexposed, looksSet⟩
        have python := implied ⟨rules, not_raised_of_looksSet looksSet, unexposed⟩
        rw [python_service_iff fold (isObject_of_getStr rules.schemaVersion)] at python
        exact python.2.1 ((raised_truth_iff _ _).mpr (Or.inr looksSet))
      · rintro typed ⟨rules, lowered, unexposed⟩
        rw [python_service_iff fold (isObject_of_getStr rules.schemaVersion), raised_truth_iff, not_or]
        exact ⟨rules, ⟨lowered, fun looksSet => typed ⟨rules, unexposed, looksSet⟩⟩, unexposed⟩
  | environment =>
      change (Rust.validateEnvironmentManifest fold document = [] -> _) <-> _
      rw [rust_environment_iff fold unique]
      constructor
      · rintro implied ⟨rules, unexposed, infrastructure, lowered, observed, misread⟩
        have python := implied ⟨rules, lowered, observed, infrastructure, unexposed⟩
        rw [python_environment_iff fold (isObject_of_getStr rules.schemaVersion)] at python
        rcases misread with looksSet | ⟨value, found, untyped⟩
        · exact python.2.1 ((raised_truth_iff _ _).mpr (Or.inr looksSet))
        · cases untyped.symm.trans (python.2.2.1 value found)
      · rintro typed ⟨rules, lowered, observed, infrastructure, unexposed⟩
        rw [python_environment_iff fold (isObject_of_getStr rules.schemaVersion), raised_truth_iff, not_or]
        have clear : ¬ (Raised LooksSet document "live_capital_allowed".toList ∨
            Exists fun value => document.get "observability_required".toList = some value ∧ value.asBool = none) :=
          fun misread => typed ⟨rules, unexposed, infrastructure, lowered, observed, misread⟩
        rw [not_or] at clear
        refine ⟨rules, ⟨lowered, clear.1⟩, ?_, unexposed⟩
        intro value found
        unfold getBool at observed
        rw [found, Option.bind_some] at observed
        cases read : value.asBool with
        | none => exact absurd ⟨value, found, read⟩ clear.2
        | some flag =>
            cases flag with
            | true => rfl
            | false => exact absurd read observed

namespace Scenario

/-- A manifest of a local service that asks for live trading with a text. -/
def wordyManifest : Document where
  json := .object
    [("schema_version".toList, .string "service_manifest/v1".toList), ("environment".toList, .string "local".toList),
      ("plane".toList, .string "TRADING".toList), ("fail_closed_policy".toList, .string "SHUTDOWN".toList),
      ("live_trading_allowed".toList, .string "yes".toList)]
  uniqueKeys := by
    rw [Json.uniqueKeys_object]
    refine ⟨by decide, ?_⟩
    intro field member
    simp only [List.mem_cons, List.not_mem_nil, or_false] at member
    rcases member with rfl | rfl | rfl | rfl | rfl <;> trivial

end Scenario

/-- Rust takes the text for a flag that is not set. -/
theorem wordy_flag_divides :
    ¬ (Rust.validate Text.asciiLowercasing .service Scenario.wordyManifest.json = [] ->
      Python.policyRules Text.asciiLowercasing .service Scenario.wordyManifest.json = .ok []) := by
  intro implied
  have rust : Rust.validate Text.asciiLowercasing .service Scenario.wordyManifest.json = [] := by decide
  have python := implied rust
  exact absurd python (by decide)

end Config
end ApexQuant
