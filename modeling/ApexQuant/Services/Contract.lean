import ApexQuant.Services.Registry

namespace ApexQuant
namespace Services

open Foundation

/-!
# Descriptors in the SDK

`ServiceDescriptor` of `service_contract.py`, with the payload that it registers.  The
model strips and folds what the registry trims and folds, and has the same rules for
planes, so what it accepts in these fields the registry accepts as it stands.  The
endpoints it takes as they are: a name or an address may be blank or have blanks around
it, and the protocol may be any text.
-/

namespace Python

inductive ServicePlane where
  | control
  | marketData
  | trading
  | risk
  | ai
  | dataResearch
  | observability
  deriving DecidableEq, Repr

inductive FailClosedPolicy where
  | readOnly
  | cancelOpenOrders
  | haltTrading
  | shutdown
  deriving DecidableEq, Repr

/-- The plane of this name in the registry. -/
def ServicePlane.registered : ServicePlane -> Services.ServicePlane
  | .control => .control
  | .marketData => .marketData
  | .trading => .trading
  | .risk => .risk
  | .ai => .ai
  | .dataResearch => .dataResearch
  | .observability => .observability

def ServicePlane.value : ServicePlane -> Text
  | .control => "CONTROL".toList
  | .marketData => "MARKET_DATA".toList
  | .trading => "TRADING".toList
  | .risk => "RISK".toList
  | .ai => "AI".toList
  | .dataResearch => "DATA_RESEARCH".toList
  | .observability => "OBSERVABILITY".toList

def FailClosedPolicy.value : FailClosedPolicy -> Text
  | .readOnly => "READ_ONLY".toList
  | .cancelOpenOrders => "CANCEL_OPEN_ORDERS".toList
  | .haltTrading => "HALT_TRADING".toList
  | .shutdown => "SHUTDOWN".toList

/-- An endpoint with a port that `Field(ge=0, le=65535)` admits. -/
structure ServiceEndpoint extends Services.ServiceEndpoint where
  bounded : 0 ≤ port ∧ port ≤ 65535

structure ServiceDescriptor where
  serviceId : Option Text
  serviceName : Text
  version : Text
  environment : Text
  plane : ServicePlane
  failClosedPolicy : FailClosedPolicy
  description : Text
  capabilities : List Text
  permissions : List Text
  endpoints : List ServiceEndpoint
  dependencies : List Text

def executionPrivileges : List Text :=
  ["BROKER_WRITE".toList, "EXECUTION_WRITE".toList, "ORDER_SUBMIT".toList, "ORDER_MODIFY".toList, "ORDER_CANCEL".toList]

def aiForbiddenPrivileges : List Text :=
  executionPrivileges ++ ["RISK_OVERRIDE".toList, "KILL_SWITCH".toList, "TRADING_WRITE".toList]

/-- `if condition: raise ValueError(message)` -/
def raiseWhen (condition : Prop) [Decidable condition] (message : Text) : Except Text Unit :=
  if condition then .error message else .ok ()

@[simp]
theorem raiseWhen_eq_ok_iff {condition : Prop} [Decidable condition] {message : Text} :
    raiseWhen condition message = .ok () <-> ¬condition := by
  by_cases met : condition
  · exact iff_of_false (by rw [raiseWhen, if_pos met]; exact fun returned => by cases returned) (not_not_intro met)
  · exact iff_of_true (if_neg met) met

section Casing

variable (casing : Text.Uppercasing)

/-- `sorted({item.strip().upper() for item in values if item.strip()})` -/
def normalizeStringList (values : List Text) : List Text :=
  ((values.filter fun item => !(Text.strip item).isEmpty).map fun item => casing.text (Text.strip item)).dedup.insertionSort
    (· ≤ ·)

/-- The pass over one permission. -/
def enforcePermission (plane : ServicePlane) (permission : Text) : Except Text Unit := do
  raiseWhen ((plane = .ai ∨ plane = .dataResearch) ∧ permission ∈ aiForbiddenPrivileges)
    ("AI/research plane may not hold privileged permission ".toList ++ permission)
  raiseWhen (permission ∈ executionPrivileges ∧ plane ≠ .risk)
    ("only RISK plane may hold execution permission ".toList ++ permission)
  raiseWhen (permission = "RISK_OVERRIDE".toList ∧ plane ≠ .risk) "RISK_OVERRIDE is restricted to RISK plane".toList
  raiseWhen (permission = "KILL_SWITCH".toList ∧ ¬(plane = .risk ∨ plane = .control))
    "KILL_SWITCH is restricted to RISK or CONTROL plane".toList

/-- `enforce_governance`. -/
def enforceGovernance (given : ServiceDescriptor) : Except Text ServiceDescriptor := do
  let self :=
    { given with
      serviceName := Text.strip given.serviceName
      version := Text.strip given.version
      environment := Text.strip given.environment
      description := Text.strip given.description }
  raiseWhen (self.serviceName = []) "service_name must not be empty".toList
  raiseWhen (self.version = []) "version must not be empty".toList
  raiseWhen (self.environment = []) "environment must not be empty".toList
  [self.serviceName, self.version, self.environment].forM fun value =>
    raiseWhen (value.any Text.isSpace = true) "service identity fields must not contain whitespace".toList
  let self :=
    { self with
      capabilities := normalizeStringList casing self.capabilities
      permissions := normalizeStringList casing self.permissions
      dependencies := normalizeStringList casing self.dependencies }
  self.permissions.forM (enforcePermission self.plane)
  let resolvedServiceId := serviceIdOf self.environment self.serviceName self.version
  raiseWhen (self.serviceId ≠ none ∧ self.serviceId ≠ some resolvedServiceId)
    ("service_id must be deterministic and equal to ".toList ++ resolvedServiceId)
  return { self with serviceId := some resolvedServiceId }

end Casing

/-- `to_registration_payload`. -/
def ServiceDescriptor.toRegistrationPayload (self : ServiceDescriptor) : RegisterHttpRequest where
  serviceId := self.serviceId
  serviceName := self.serviceName
  version := self.version
  environment := self.environment
  plane := self.plane.value
  failClosedPolicy := self.failClosedPolicy.value
  description := self.description
  capabilities := self.capabilities
  permissions := self.permissions
  endpoints := self.endpoints.map ServiceEndpoint.toServiceEndpoint
  dependencies := self.dependencies

/-! ## What the model accepts -/

section Accepted

variable (casing : Text.Uppercasing)

/-- The permission may be held on the plane. -/
theorem enforcePermission_eq_ok_iff {plane : ServicePlane} {permission : Text} :
    enforcePermission plane permission = .ok () <-> Permitted plane.registered permission := by
  have same : forall other, plane = other <-> plane.registered = other.registered := by
    intro other
    cases plane <;> cases other <;> decide
  simp only [enforcePermission, Run.check_bind_eq_ok_iff, raiseWhen_eq_ok_iff, not_and, not_not, same]
  exact Iff.rfl

/-- The descriptor as the validator leaves it. -/
def ServiceDescriptor.governed (given : ServiceDescriptor) : ServiceDescriptor :=
  { given with
    serviceId := some (serviceIdOf (Text.strip given.environment) (Text.strip given.serviceName) (Text.strip given.version))
    serviceName := Text.strip given.serviceName
    version := Text.strip given.version
    environment := Text.strip given.environment
    description := Text.strip given.description
    capabilities := normalizeStringList casing given.capabilities
    permissions := normalizeStringList casing given.permissions
    dependencies := normalizeStringList casing given.dependencies }

/-- A text without blanks, as the model wants it in an identity. -/
def IsToken (text : Text) : Prop :=
  text ≠ [] ∧ text.any Text.isSpace = false

theorem isToken_of_isToken {text : Text} (token : IsToken text) : Services.IsToken text := by
  refine ⟨token.1, ?_⟩
  have solid := token.2
  rw [List.any_eq_false] at solid ⊢
  intro c member blank
  exact solid c member (Bool.and_eq_true_iff.mp blank).1

theorem of_enforceGovernance {given self : ServiceDescriptor} (created : enforceGovernance casing given = .ok self) :
    given.governed casing = self ∧ IsToken self.serviceName ∧ IsToken self.version ∧ IsToken self.environment ∧
      forall permission, permission ∈ self.permissions -> Permitted self.plane.registered permission := by
  unfold enforceGovernance at created
  simp only [Run.check_bind_eq_ok_iff, raiseWhen_eq_ok_iff, Run.forM_eq_ok_iff, enforcePermission_eq_ok_iff,
    List.forall_mem_cons, Bool.not_eq_true] at created
  rcases created with ⟨name, version, environment, ⟨name', version', environment', -⟩, permitted, -, returned⟩
  cases returned
  exact ⟨rfl, ⟨name, name'⟩, ⟨version, version'⟩, ⟨environment, environment'⟩, permitted⟩

/-- The words of the model are those of the registry. -/
theorem registered_normalizeStringList (values : List Text) :
    Services.normalizeStringList (normalizeStringList casing values) = normalizeStringList casing values := by
  have known : forall value, value ∈ normalizeStringList casing values ->
      toAsciiUppercase (Text.trim value) = value ∧ (!value.isEmpty) = true := by
    intro value member
    rw [normalizeStringList, List.mem_insertionSort, List.mem_dedup, List.mem_map] at member
    rcases member with ⟨item, kept, rfl⟩
    have nonempty : Text.strip item ≠ [] := by simpa using (List.mem_filter.mp kept).2
    constructor
    · rw [casing.trim_text_strip]
      exact casing.toUpper_text _
    · simpa using casing.text_ne_nil nonempty
  have sorted : (normalizeStringList casing values).Pairwise (· ≤ ·) := List.pairwise_insertionSort _ _
  have distinct : (normalizeStringList casing values).Nodup :=
    (List.perm_insertionSort _ _).nodup_iff.mpr (List.nodup_dedup _)
  rw [Services.normalizeStringList, List.map_congr_left fun value member => (known value member).1, List.map_id',
    List.filter_eq_self.mpr fun value member => (known value member).2, sorted.insertionSort_eq,
    List.destutter_of_isChain _ _ (List.Pairwise.isChain distinct)]

end Accepted

theorem planeI32FromStr_value (plane : ServicePlane) : planeI32FromStr plane.value = .ok plane.registered.code := by
  cases plane <;> decide

theorem policyI32FromStr_value (policy : FailClosedPolicy) :
    Exists fun registered : Services.FailClosedPolicy =>
      policyI32FromStr policy.value = .ok registered.code ∧ registered ≠ .unspecified := by
  cases policy with
  | readOnly => exact ⟨.readOnly, by decide, nofun⟩
  | cancelOpenOrders => exact ⟨.cancelOpenOrders, by decide, nofun⟩
  | haltTrading => exact ⟨.haltTrading, by decide, nofun⟩
  | shutdown => exact ⟨.shutdown, by decide, nofun⟩

end Python

/-! ## Agreement -/

/-- `register_service` of `http.rs` up to the database. -/
def registerPayload (payload : RegisterHttpRequest) : Except Error ServiceDescriptor := do
  let given ← descriptorFromHttp payload
  normalizeDescriptor given

/-- The registry has nothing to change in the endpoint, and knows its protocol. -/
structure ServiceEndpoint.Plain (endpoint : ServiceEndpoint) : Prop where
  name : endpoint.name ≠ [] ∧ Text.trim endpoint.name = endpoint.name
  uri : endpoint.uri ≠ [] ∧ Text.trim endpoint.uri = endpoint.uri
  protocol : endpoint.protocol ∈ allowedProtocols

theorem ServiceEndpoint.plain_iff (endpoint : ServiceEndpoint) :
    endpoint.Plain <->
      endpoint.trimmed = endpoint ∧ endpoint.named = true ∧ endpoint.protocol ∈ allowedProtocols := by
  have lower : forall protocol, protocol ∈ allowedProtocols ->
      toAsciiLowercase (Text.trim protocol) = protocol ∧ protocol ≠ [] := by decide
  constructor
  · intro plain
    rcases lower _ plain.protocol with ⟨same, nonempty⟩
    refine ⟨?_, ?_, plain.protocol⟩
    · rw [ServiceEndpoint.trimmed, plain.name.2, plain.uri.2, same]
    · simp [ServiceEndpoint.named, plain.name.1, plain.uri.1, nonempty]
  · rintro ⟨same, named, protocol⟩
    simp only [ServiceEndpoint.named, Bool.and_eq_true, Bool.not_eq_true', List.isEmpty_eq_false_iff] at named
    exact ⟨⟨named.1.1, congrArg ServiceEndpoint.name same⟩, ⟨named.2, congrArg ServiceEndpoint.uri same⟩, protocol⟩

/-- The pass over the endpoints keeps a list in which it has nothing to change. -/
theorem endpoints_eq_iff (endpoints : List ServiceEndpoint) :
    (endpoints.map ServiceEndpoint.trimmed).filter ServiceEndpoint.named = endpoints <->
      forall endpoint, endpoint ∈ endpoints -> endpoint.trimmed = endpoint ∧ endpoint.named = true := by
  constructor
  · intro same
    have lengths : ((endpoints.map ServiceEndpoint.trimmed).filter ServiceEndpoint.named).length =
        (endpoints.map ServiceEndpoint.trimmed).length := by
      rw [same, List.length_map]
    have named := List.length_filter_eq_length_iff.mp lengths
    rw [List.filter_eq_self.mpr named] at same
    intro endpoint member
    have fixed : endpoint.trimmed = endpoint :=
      List.map_eq_map_iff.mp (same.trans (List.map_id endpoints).symm) endpoint member
    exact ⟨fixed, fixed ▸ named _ (List.mem_map_of_mem member)⟩
  · intro plain
    rw [List.map_congr_left fun endpoint member => (plain endpoint member).1, List.map_id',
      List.filter_eq_self.mpr fun endpoint member => (plain endpoint member).2]

/-- The descriptor that the registry makes of the payload. -/
def sentDescriptor (self : Python.ServiceDescriptor) (policy : FailClosedPolicy) : ServiceDescriptor where
  serviceId := self.serviceId.getD []
  serviceName := self.serviceName
  version := self.version
  environment := self.environment
  plane := self.plane.registered.code
  failClosedPolicy := policy.code
  description := self.description
  capabilities := self.capabilities
  permissions := self.permissions
  endpoints := self.endpoints.map Python.ServiceEndpoint.toServiceEndpoint
  dependencies := self.dependencies

theorem descriptorFromHttp_payload (self : Python.ServiceDescriptor) :
    Exists fun policy => policy ≠ .unspecified ∧
      descriptorFromHttp self.toRegistrationPayload = .ok (sentDescriptor self policy) := by
  rcases Python.policyI32FromStr_value self.failClosedPolicy with ⟨policy, read, specified⟩
  refine ⟨policy, specified, ?_⟩
  have plane : planeI32FromStr self.toRegistrationPayload.plane = .ok self.plane.registered.code :=
    Python.planeI32FromStr_value self.plane
  have policy' : policyI32FromStr self.toRegistrationPayload.failClosedPolicy = .ok policy.code := read
  rw [descriptorFromHttp, plane, policy']
  rfl

section Agreement

variable {casing : Text.Uppercasing} {given self : Python.ServiceDescriptor}

/-- The registry finds nothing to trim or to fold but in the endpoints. -/
theorem trimmed_sent (created : Python.enforceGovernance casing given = .ok self) (policy : FailClosedPolicy) :
    (sentDescriptor self policy).trimmed =
      { sentDescriptor self policy with
        endpoints := ((sentDescriptor self policy).endpoints.map ServiceEndpoint.trimmed).filter ServiceEndpoint.named } := by
  rcases Python.of_enforceGovernance casing created with ⟨rfl, name, version, environment, -⟩
  have solid : forall c, c ∈ (sentDescriptor (given.governed casing) policy).serviceId -> Text.isWhitespace c = false := by
    have none : (sentDescriptor (given.governed casing) policy).serviceId.any Text.isWhitespace = false :=
      any_serviceIdOf (Python.isToken_of_isToken environment) (Python.isToken_of_isToken name)
        (Python.isToken_of_isToken version)
    rw [List.any_eq_false] at none
    exact fun c member => Bool.eq_false_of_not_eq_true (none c member)
  rw [ServiceDescriptor.trimmed, Text.trim_of_solid solid]
  simp only [sentDescriptor, Python.ServiceDescriptor.governed, Text.trim_strip,
    Python.registered_normalizeStringList]

/-- What the SDK and the registry both know of a service. -/
structure Agrees (described : Python.ServiceDescriptor) (registered : ServiceDescriptor) : Prop where
  serviceId : some registered.serviceId = described.serviceId
  identity : registered.identity =
    { environment := described.environment, serviceName := described.serviceName, version := described.version }
  plane : ServicePlane.tryFrom registered.plane = some described.plane.registered
  permissions : registered.permissions = described.permissions
  endpoints : registered.endpoints = described.endpoints.map Python.ServiceEndpoint.toServiceEndpoint

/-- The registry accepts what the SDK accepts, as the same service, when it has nothing to
change in the endpoints and knows their protocols, and then only. -/
theorem registry_agrees_iff (created : Python.enforceGovernance casing given = .ok self) :
    (Exists fun registered => registerPayload self.toRegistrationPayload = .ok registered ∧ Agrees self registered) <->
      forall endpoint, endpoint ∈ given.endpoints -> endpoint.toServiceEndpoint.Plain := by
  rcases descriptorFromHttp_payload self with ⟨policy, specified, read⟩
  have trimmed := trimmed_sent created policy
  have answer : registerPayload self.toRegistrationPayload = normalizeDescriptor (sentDescriptor self policy) := by
    rw [registerPayload, read]
    rfl
  rcases Python.of_enforceGovernance casing created with ⟨rfl, name, version, environment, permitted⟩
  have kept : (sentDescriptor (given.governed casing) policy).endpoints = given.endpoints.map Python.ServiceEndpoint.toServiceEndpoint := rfl
  have plain : (forall endpoint, endpoint ∈ given.endpoints -> endpoint.toServiceEndpoint.Plain) <->
      forall endpoint, endpoint ∈ (sentDescriptor (given.governed casing) policy).endpoints -> endpoint.Plain := by
    rw [kept, List.forall_mem_map]
  rw [plain, answer]
  constructor
  · rintro ⟨registered, accepted, agrees⟩
    rcases normalizeDescriptor_eq_ok_iff.mp accepted with ⟨checks, rfl⟩
    have same : ((sentDescriptor (given.governed casing) policy).endpoints.map ServiceEndpoint.trimmed).filter
        ServiceEndpoint.named = (sentDescriptor (given.governed casing) policy).endpoints := agrees.endpoints
    have reachable := checks.endpoints
    rw [trimmed] at reachable
    intro endpoint member
    rcases (endpoints_eq_iff _).mp same endpoint member with ⟨fixed, named⟩
    exact (ServiceEndpoint.plain_iff endpoint).mpr ⟨fixed, named, (reachable endpoint (same.symm ▸ member)).2⟩
  · intro plain
    have same := (endpoints_eq_iff (sentDescriptor (given.governed casing) policy).endpoints).mpr fun endpoint member =>
      ⟨((ServiceEndpoint.plain_iff endpoint).mp (plain endpoint member)).1,
        ((ServiceEndpoint.plain_iff endpoint).mp (plain endpoint member)).2.1⟩
    rw [same] at trimmed
    refine ⟨_, normalizeDescriptor_eq_ok_iff.mpr ⟨?_, rfl⟩, ?_⟩
    · constructor
      · rw [trimmed]
        exact Python.isToken_of_isToken name
      · rw [trimmed]
        exact Python.isToken_of_isToken version
      · rw [trimmed]
        exact Python.isToken_of_isToken environment
      · rw [trimmed]
        exact fun _ => rfl
      · exact ⟨policy, FailClosedPolicy.tryFrom_code policy, specified⟩
      · rw [trimmed]
        intro endpoint member
        rcases List.mem_map.mp member with ⟨origin, -, rfl⟩
        exact ⟨origin.bounded, (plain _ member).protocol⟩
      · rw [trimmed]
        refine ⟨given.plane.registered, ServicePlane.tryFrom_code _, ?_, permitted⟩
        cases given.plane <;> exact nofun
    · rw [ServiceDescriptor.normalized, trimmed]
      exact ⟨rfl, rfl, ServicePlane.tryFrom_code _, rfl, rfl⟩

end Agreement

/-! ## An endpoint that the registry refuses -/

def exampleContract (endpoint : Python.ServiceEndpoint) : Python.ServiceDescriptor where
  serviceId := none
  serviceName := "test-service".toList
  version := "0.1.0".toList
  environment := "sandbox".toList
  plane := .risk
  failClosedPolicy := .haltTrading
  description := []
  capabilities := []
  permissions := ["order_submit".toList]
  endpoints := [endpoint]
  dependencies := []

def exampleEndpoint (protocol : Text) : Python.ServiceEndpoint where
  name := "feed".toList
  protocol := protocol
  uri := "localhost".toList
  port := 8080
  bounded := by decide

/-- A protocol that the registry does not know. -/
theorem websocket_is_refused :
    (Python.enforceGovernance Text.asciiUppercasing (exampleContract (exampleEndpoint "ws".toList))).map
        (fun self => registerPayload self.toRegistrationPayload) =
      .ok (.error (.invalidArgument "endpoint feed has unsupported protocol ws".toList)) := by
  decide

theorem created_example :
    Python.enforceGovernance Text.asciiUppercasing (exampleContract (exampleEndpoint "grpc".toList)) =
      .ok ((exampleContract (exampleEndpoint "grpc".toList)).governed Text.asciiUppercasing) := by
  rfl

theorem grpc_is_registered :
    Exists fun registered =>
      registerPayload ((exampleContract (exampleEndpoint "grpc".toList)).governed Text.asciiUppercasing).toRegistrationPayload =
          .ok registered ∧
        Agrees ((exampleContract (exampleEndpoint "grpc".toList)).governed Text.asciiUppercasing) registered :=
  (registry_agrees_iff created_example).mpr fun endpoint member => by
    rw [List.mem_singleton.mp member]
    exact ⟨by decide, by decide, by decide⟩

end Services
end ApexQuant
