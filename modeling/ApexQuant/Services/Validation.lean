import ApexQuant.Foundation.Runs
import ApexQuant.Foundation.Text

namespace ApexQuant
namespace Services

open Foundation

/-!
# Descriptors in the registry

`validation.rs` and the registration payload of `http.rs`.  The enumerations of the
protocol buffer arrive as numbers, any of which a client can send.
-/

inductive ServicePlane where
  | unspecified
  | control
  | marketData
  | trading
  | risk
  | ai
  | dataResearch
  | observability
  deriving DecidableEq, Repr

inductive FailClosedPolicy where
  | unspecified
  | readOnly
  | cancelOpenOrders
  | haltTrading
  | shutdown
  deriving DecidableEq, Repr

inductive ServiceState where
  | unspecified
  | starting
  | ready
  | degraded
  | stopping
  | failed
  deriving DecidableEq, Repr

/-- `ServicePlane as i32`. -/
def ServicePlane.code : ServicePlane -> Int
  | .unspecified => 0
  | .control => 1
  | .marketData => 2
  | .trading => 3
  | .risk => 4
  | .ai => 5
  | .dataResearch => 6
  | .observability => 7

def ServicePlane.all : List ServicePlane :=
  [.unspecified, .control, .marketData, .trading, .risk, .ai, .dataResearch, .observability]

/-- `ServicePlane::try_from`. -/
def ServicePlane.tryFrom (code : Int) : Option ServicePlane :=
  ServicePlane.all.find? fun plane => plane.code == code

def FailClosedPolicy.code : FailClosedPolicy -> Int
  | .unspecified => 0
  | .readOnly => 1
  | .cancelOpenOrders => 2
  | .haltTrading => 3
  | .shutdown => 4

def FailClosedPolicy.all : List FailClosedPolicy :=
  [.unspecified, .readOnly, .cancelOpenOrders, .haltTrading, .shutdown]

def FailClosedPolicy.tryFrom (code : Int) : Option FailClosedPolicy :=
  FailClosedPolicy.all.find? fun policy => policy.code == code

def ServiceState.code : ServiceState -> Int
  | .unspecified => 0
  | .starting => 1
  | .ready => 2
  | .degraded => 3
  | .stopping => 4
  | .failed => 5

def ServiceState.all : List ServiceState :=
  [.unspecified, .starting, .ready, .degraded, .stopping, .failed]

def ServiceState.tryFrom (code : Int) : Option ServiceState :=
  ServiceState.all.find? fun state => state.code == code

@[simp]
theorem ServicePlane.tryFrom_code (plane : ServicePlane) : ServicePlane.tryFrom plane.code = some plane := by
  cases plane <;> rfl

@[simp]
theorem FailClosedPolicy.tryFrom_code (policy : FailClosedPolicy) : FailClosedPolicy.tryFrom policy.code = some policy := by
  cases policy <;> rfl

/-! ## `errors.rs` -/

/-- What the database refuses a statement for. -/
inductive Refusal where
  | zeroByte
  | check (name : Text)
  | unique (name : Text)
  | timestamp
  | connection
  deriving DecidableEq

inductive Error where
  | database (refusal : Refusal)
  | notFound (message : Text)
  | invalidArgument (message : Text)
  deriving DecidableEq

/-! ## Descriptors -/

structure ServiceEndpoint where
  name : Text
  protocol : Text
  uri : Text
  port : Int
  deriving DecidableEq

structure ServiceDescriptor where
  serviceId : Text
  serviceName : Text
  version : Text
  environment : Text
  plane : Int
  failClosedPolicy : Int
  description : Text
  capabilities : List Text
  permissions : List Text
  endpoints : List ServiceEndpoint
  dependencies : List Text
  deriving DecidableEq

def executionPrivileges : List Text :=
  ["BROKER_WRITE".toList, "EXECUTION_WRITE".toList, "ORDER_SUBMIT".toList, "ORDER_MODIFY".toList, "ORDER_CANCEL".toList]

def aiForbiddenPrivileges : List Text :=
  ["BROKER_WRITE".toList, "EXECUTION_WRITE".toList, "ORDER_SUBMIT".toList, "ORDER_MODIFY".toList, "ORDER_CANCEL".toList,
    "RISK_OVERRIDE".toList, "KILL_SWITCH".toList, "TRADING_WRITE".toList]

/-- `to_ascii_uppercase`. -/
def toAsciiUppercase (text : Text) : Text :=
  text.map Char.toUpper

/-- `to_ascii_lowercase`. -/
def toAsciiLowercase (text : Text) : Text :=
  text.map Char.toLower

/-- The words in order, each once. -/
def normalizeStringList (values : List Text) : List Text :=
  (((values.map fun value => toAsciiUppercase (Text.trim value)).filter fun value => !value.isEmpty).insertionSort
    (· ≤ ·)).destutter (· ≠ ·)

/-- What the loop over the endpoints does to one of them. -/
def ServiceEndpoint.trimmed (endpoint : ServiceEndpoint) : ServiceEndpoint :=
  { endpoint with
    name := Text.trim endpoint.name
    protocol := toAsciiLowercase (Text.trim endpoint.protocol)
    uri := Text.trim endpoint.uri }

/-- The endpoints that are retained. -/
def ServiceEndpoint.named (endpoint : ServiceEndpoint) : Bool :=
  !endpoint.name.isEmpty && !endpoint.protocol.isEmpty && !endpoint.uri.isEmpty

/-- The assignments that `normalize_descriptor` begins with. -/
def ServiceDescriptor.trimmed (descriptor : ServiceDescriptor) : ServiceDescriptor :=
  { descriptor with
    serviceId := Text.trim descriptor.serviceId
    serviceName := Text.trim descriptor.serviceName
    version := Text.trim descriptor.version
    environment := Text.trim descriptor.environment
    description := Text.trim descriptor.description
    capabilities := normalizeStringList descriptor.capabilities
    permissions := normalizeStringList descriptor.permissions
    dependencies := normalizeStringList descriptor.dependencies
    endpoints := (descriptor.endpoints.map ServiceEndpoint.trimmed).filter ServiceEndpoint.named }

/-- `environment:service_name:version`. -/
def serviceIdOf (environment serviceName version : Text) : Text :=
  environment ++ ':' :: (serviceName ++ ':' :: version)

/-! ## Checks -/

/-- `if condition { return Err(Error::InvalidArgument(message)); }` -/
def refuseWhen (condition : Prop) [Decidable condition] (message : Text) : Except Error Unit :=
  if condition then .error (.invalidArgument message) else .ok ()

@[simp]
theorem refuseWhen_eq_ok_iff {condition : Prop} [Decidable condition] {message : Text} :
    refuseWhen condition message = .ok () <-> ¬condition := by
  by_cases met : condition
  · exact iff_of_false (by rw [refuseWhen, if_pos met]; exact fun returned => by cases returned) (not_not_intro met)
  · exact iff_of_true (if_neg met) met

def validateToken (field value : Text) : Except Error Unit :=
  refuseWhen (value.any Text.isWhitespace = true) (field ++ " must not contain whitespace".toList)

def validatePlane (plane : Int) : Except Error Unit :=
  match ServicePlane.tryFrom plane with
  | none => .error (.invalidArgument "unknown service plane".toList)
  | some plane => refuseWhen (plane = .unspecified) "service plane must be specified".toList

def validateFailClosedPolicy (policy : Int) : Except Error Unit :=
  match FailClosedPolicy.tryFrom policy with
  | none => .error (.invalidArgument "unknown fail-closed policy".toList)
  | some policy => refuseWhen (policy = .unspecified) "fail_closed_policy must be specified".toList

def allowedProtocols : List Text :=
  ["http".toList, "https".toList, "grpc".toList, "tcp".toList, "udp".toList]

/-- The pass over one endpoint of `validate_endpoints`. -/
def validateEndpoint (endpoint : ServiceEndpoint) : Except Error Unit := do
  refuseWhen (endpoint.port < 0 ∨ 65535 < endpoint.port)
    ("endpoint ".toList ++ endpoint.name ++ " has invalid port".toList)
  refuseWhen (endpoint.protocol ∉ allowedProtocols)
    ("endpoint ".toList ++ endpoint.name ++ " has unsupported protocol ".toList ++ endpoint.protocol)

def validateEndpoints (endpoints : List ServiceEndpoint) : Except Error Unit :=
  endpoints.forM validateEndpoint

/-- The pass over one permission of `enforce_plane_permission_policy`. -/
def enforcePermission (plane : ServicePlane) (permission : Text) : Except Error Unit := do
  refuseWhen ((plane = .ai ∨ plane = .dataResearch) ∧ permission ∈ aiForbiddenPrivileges)
    ("AI/research plane may not hold privileged permission ".toList ++ permission)
  refuseWhen (permission ∈ executionPrivileges ∧ plane ≠ .risk)
    ("only RISK plane may hold execution permission ".toList ++ permission)
  refuseWhen (permission = "RISK_OVERRIDE".toList ∧ plane ≠ .risk) "RISK_OVERRIDE is restricted to RISK plane".toList
  refuseWhen (permission = "KILL_SWITCH".toList ∧ ¬(plane = .risk ∨ plane = .control))
    "KILL_SWITCH is restricted to RISK or CONTROL plane".toList

def enforcePlanePermissionPolicy (descriptor : ServiceDescriptor) : Except Error Unit :=
  match ServicePlane.tryFrom descriptor.plane with
  | none => .error (.invalidArgument "unknown service plane".toList)
  | some plane => descriptor.permissions.forM (enforcePermission plane)

/-- `normalize_descriptor`. -/
def normalizeDescriptor (given : ServiceDescriptor) : Except Error ServiceDescriptor := do
  let descriptor := given.trimmed
  refuseWhen (descriptor.serviceName = []) "service_name must not be empty".toList
  refuseWhen (descriptor.version = []) "version must not be empty".toList
  refuseWhen (descriptor.environment = []) "environment must not be empty".toList
  validateToken "service_name".toList descriptor.serviceName
  validateToken "version".toList descriptor.version
  validateToken "environment".toList descriptor.environment
  let expectedServiceId := serviceIdOf descriptor.environment descriptor.serviceName descriptor.version
  -- An empty identifier is filled in.
  refuseWhen (descriptor.serviceId ≠ [] ∧ descriptor.serviceId ≠ expectedServiceId)
    ("service_id must be deterministic and equal to ".toList ++ expectedServiceId)
  validatePlane descriptor.plane
  validateFailClosedPolicy descriptor.failClosedPolicy
  validateEndpoints descriptor.endpoints
  enforcePlanePermissionPolicy descriptor
  return { descriptor with serviceId := expectedServiceId }

/-! ## What is accepted -/

/-- A text that may stand in an identity. -/
def IsToken (text : Text) : Prop :=
  text ≠ [] ∧ text.any Text.isWhitespace = false

instance : DecidablePred IsToken := fun text => inferInstanceAs (Decidable (text ≠ [] ∧ text.any Text.isWhitespace = false))

/-- An identifier of tokens is free of whitespace. -/
theorem any_serviceIdOf {environment serviceName version : Text} (token : IsToken environment)
    (token' : IsToken serviceName) (token'' : IsToken version) :
    (serviceIdOf environment serviceName version).any Text.isWhitespace = false := by
  rw [serviceIdOf, List.any_append, List.any_cons, List.any_append, List.any_cons, token.2, token'.2, token''.2]
  rfl

/-- The permission may be held on the plane. -/
def Permitted (plane : ServicePlane) (permission : Text) : Prop :=
  ((plane = .ai ∨ plane = .dataResearch) -> permission ∉ aiForbiddenPrivileges) ∧
    (permission ∈ executionPrivileges -> plane = .risk) ∧
    (permission = "RISK_OVERRIDE".toList -> plane = .risk) ∧
    (permission = "KILL_SWITCH".toList -> plane = .risk ∨ plane = .control)

/-- The endpoint has a port and a protocol of the registry. -/
def Reachable (endpoint : ServiceEndpoint) : Prop :=
  (0 ≤ endpoint.port ∧ endpoint.port ≤ 65535) ∧ endpoint.protocol ∈ allowedProtocols

/-- The descriptor passes all checks. -/
structure Accepted (given : ServiceDescriptor) : Prop where
  serviceName : IsToken given.trimmed.serviceName
  version : IsToken given.trimmed.version
  environment : IsToken given.trimmed.environment
  serviceId : given.trimmed.serviceId ≠ [] ->
    given.trimmed.serviceId =
      serviceIdOf given.trimmed.environment given.trimmed.serviceName given.trimmed.version
  failClosedPolicy : Exists fun policy => FailClosedPolicy.tryFrom given.failClosedPolicy = some policy ∧ policy ≠ .unspecified
  endpoints : forall endpoint, endpoint ∈ given.trimmed.endpoints -> Reachable endpoint
  plane : Exists fun plane => ServicePlane.tryFrom given.plane = some plane ∧ plane ≠ .unspecified ∧
    forall permission, permission ∈ given.trimmed.permissions -> Permitted plane permission

/-- What the checks let through: the descriptor under its identity. -/
def ServiceDescriptor.normalized (given : ServiceDescriptor) : ServiceDescriptor :=
  { given.trimmed with
    serviceId := serviceIdOf given.trimmed.environment given.trimmed.serviceName given.trimmed.version }

theorem validateToken_eq_ok_iff {field value : Text} :
    validateToken field value = .ok () <-> value.any Text.isWhitespace = false := by
  rw [validateToken, refuseWhen_eq_ok_iff, Bool.not_eq_true]

theorem validatePlane_eq_ok_iff {code : Int} :
    validatePlane code = .ok () <-> Exists fun plane => ServicePlane.tryFrom code = some plane ∧ plane ≠ .unspecified := by
  unfold validatePlane
  cases ServicePlane.tryFrom code with
  | none => simp
  | some plane => simp

theorem validateFailClosedPolicy_eq_ok_iff {code : Int} :
    validateFailClosedPolicy code = .ok () <->
      Exists fun policy => FailClosedPolicy.tryFrom code = some policy ∧ policy ≠ .unspecified := by
  unfold validateFailClosedPolicy
  cases FailClosedPolicy.tryFrom code with
  | none => simp
  | some policy => simp

theorem validateEndpoints_eq_ok_iff {endpoints : List ServiceEndpoint} :
    validateEndpoints endpoints = .ok () <-> forall endpoint, endpoint ∈ endpoints -> Reachable endpoint := by
  rw [validateEndpoints, Run.forM_eq_ok_iff]
  apply forall₂_congr
  intro endpoint _
  rw [validateEndpoint, Run.check_bind_eq_ok_iff, refuseWhen_eq_ok_iff, refuseWhen_eq_ok_iff, not_not, not_or, not_lt,
    not_lt, Reachable]

theorem enforcePermission_eq_ok_iff {plane : ServicePlane} {permission : Text} :
    enforcePermission plane permission = .ok () <-> Permitted plane permission := by
  simp only [enforcePermission, Run.check_bind_eq_ok_iff, refuseWhen_eq_ok_iff, not_and, not_not, Permitted]

theorem enforcePlanePermissionPolicy_eq_ok_iff {descriptor : ServiceDescriptor} :
    enforcePlanePermissionPolicy descriptor = .ok () <->
      Exists fun plane => ServicePlane.tryFrom descriptor.plane = some plane ∧
        forall permission, permission ∈ descriptor.permissions -> Permitted plane permission := by
  unfold enforcePlanePermissionPolicy
  cases ServicePlane.tryFrom descriptor.plane with
  | none => simp
  | some plane =>
      dsimp only
      rw [Run.forM_eq_ok_iff]
      simp only [enforcePermission_eq_ok_iff, Option.some.injEq, exists_eq_left']

/-- The registry accepts a descriptor when it passes all checks, and keeps it under its
identity. -/
theorem normalizeDescriptor_eq_ok_iff {given descriptor : ServiceDescriptor} :
    normalizeDescriptor given = .ok descriptor <-> Accepted given ∧ given.normalized = descriptor := by
  simp only [normalizeDescriptor, Run.check_bind_eq_ok_iff, refuseWhen_eq_ok_iff, validateToken_eq_ok_iff,
    validatePlane_eq_ok_iff, validateFailClosedPolicy_eq_ok_iff, validateEndpoints_eq_ok_iff,
    enforcePlanePermissionPolicy_eq_ok_iff, not_and, not_not]
  constructor
  · rintro ⟨name, version, environment, name', version', environment', identity, ⟨plane, known, specified⟩, policy,
      endpoints, ⟨plane', known', permitted⟩, returned⟩
    cases known.symm.trans known'
    exact ⟨⟨⟨name, name'⟩, ⟨version, version'⟩, ⟨environment, environment'⟩, identity, policy, endpoints,
      ⟨plane, known, specified, permitted⟩⟩, Except.ok.inj returned⟩
  · rintro ⟨accepted, rfl⟩
    rcases accepted.plane with ⟨plane, known, specified, permitted⟩
    exact ⟨accepted.serviceName.1, accepted.version.1, accepted.environment.1, accepted.serviceName.2, accepted.version.2,
      accepted.environment.2, accepted.serviceId, ⟨plane, known, specified⟩, accepted.failClosedPolicy, accepted.endpoints,
      ⟨plane, known, permitted⟩, rfl⟩

end Services
end ApexQuant
