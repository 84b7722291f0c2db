import ApexQuant.Foundation.Table
import ApexQuant.Services.Validation

namespace ApexQuant
namespace Services

open Foundation

/-!
# The registry

`db.rs` with the table of services, the log of heartbeats and their constraints, and the
handlers of `grpc.rs` and `http.rs` that write to them.  A step of the registry is one
request as its transaction commits.  The clocks of the server and of the database are
part of a step, and so is a connection that is lost before the commit.
-/

/-- A moment in nanoseconds, as `DateTime<Utc>` has it. -/
abbrev Moment := Int

/-- What is used of the packages for time: a moment from seconds and nanoseconds, and
the moment that a column of type `timestamptz` keeps of it.  Both can be out of range. -/
structure Packages where
  fromTimestamp : Int -> Nat -> Option Moment
  toColumn : Moment -> Option Moment

/-! ## Names of enumerations -/

/-- The names of the planes in the database. -/
def ServicePlane.name : ServicePlane -> Text
  | .unspecified => []
  | .control => "CONTROL".toList
  | .marketData => "MARKET_DATA".toList
  | .trading => "TRADING".toList
  | .risk => "RISK".toList
  | .ai => "AI".toList
  | .dataResearch => "DATA_RESEARCH".toList
  | .observability => "OBSERVABILITY".toList

def FailClosedPolicy.name : FailClosedPolicy -> Text
  | .unspecified => []
  | .readOnly => "READ_ONLY".toList
  | .cancelOpenOrders => "CANCEL_OPEN_ORDERS".toList
  | .haltTrading => "HALT_TRADING".toList
  | .shutdown => "SHUTDOWN".toList

def ServiceState.name : ServiceState -> Text
  | .unspecified => []
  | .starting => "STARTING".toList
  | .ready => "READY".toList
  | .degraded => "DEGRADED".toList
  | .stopping => "STOPPING".toList
  | .failed => "FAILED".toList

section Names

variable {Value : Type} [DecidableEq Value] (unspecified : Value)

/-- `plane_to_db`, `policy_to_db` and `state_to_db`. -/
def toDb (read : Option Value) (name : Value -> Text) (unknown missing : Text) : Except Error Text :=
  match read with
  | none => .error (.invalidArgument unknown)
  | some value => if value = unspecified then .error (.invalidArgument missing) else .ok (name value)

/-- `plane_i32_from_str`, `policy_i32_from_str` and `state_i32_from_str`. -/
def fromStr (all : List Value) (name : Value -> Text) (unknown value : Text) : Except Error Value :=
  match all.find? fun other => decide (other ≠ unspecified) && decide (name other = toAsciiUppercase (Text.trim value)) with
  | some other => .ok other
  | none => .error (.invalidArgument (unknown ++ value))

end Names

def planeToDb (plane : Int) : Except Error Text :=
  toDb .unspecified (ServicePlane.tryFrom plane) ServicePlane.name "unknown service plane".toList "plane unspecified".toList

def policyToDb (policy : Int) : Except Error Text :=
  toDb .unspecified (FailClosedPolicy.tryFrom policy) FailClosedPolicy.name "unknown fail-closed policy".toList
    "policy unspecified".toList

def stateToDb (state : Int) : Except Error Text :=
  toDb .unspecified (ServiceState.tryFrom state) ServiceState.name "unknown service state".toList
    "state unspecified".toList

def planeI32FromStr (value : Text) : Except Error Int :=
  (fromStr ServicePlane.unspecified ServicePlane.all ServicePlane.name "unknown plane ".toList value).map ServicePlane.code

def policyI32FromStr (value : Text) : Except Error Int :=
  (fromStr FailClosedPolicy.unspecified FailClosedPolicy.all FailClosedPolicy.name "unknown policy ".toList value).map
    FailClosedPolicy.code

def stateI32FromStr (value : Text) : Except Error Int :=
  (fromStr ServiceState.unspecified ServiceState.all ServiceState.name "unknown state ".toList value).map ServiceState.code

/-! ## Tables -/

structure ServiceRecord where
  serviceId : Text
  serviceName : Text
  version : Text
  environment : Text
  plane : Text
  failClosedPolicy : Text
  description : Text
  capabilities : List Text
  permissions : List Text
  endpoints : List ServiceEndpoint
  dependencies : List Text
  state : Text
  lastHeartbeatAt : Option Moment
  createdAt : Moment
  updatedAt : Moment
  deriving DecidableEq

structure HeartbeatRow where
  serviceId : Text
  state : Text
  observedAt : Moment
  detail : Text
  deriving DecidableEq

/-- The service that a row is about. -/
structure Identity where
  environment : Text
  serviceName : Text
  version : Text
  deriving DecidableEq

def ServiceRecord.identity (record : ServiceRecord) : Identity where
  environment := record.environment
  serviceName := record.serviceName
  version := record.version

def ServiceDescriptor.identity (descriptor : ServiceDescriptor) : Identity where
  environment := descriptor.environment
  serviceName := descriptor.serviceName
  version := descriptor.version

/-- The table `service_registry` and the log of heartbeats. -/
structure Registry where
  services : Table ServiceRecord.serviceId
  heartbeats : List HeartbeatRow

def Registry.empty : Registry where
  services := Table.empty
  heartbeats := []

/-- Neither `text` nor `jsonb` holds a zero character. -/
def ServiceRecord.sendable (record : ServiceRecord) : Bool :=
  Text.sendable record.serviceId && Text.sendable record.serviceName && Text.sendable record.version &&
    Text.sendable record.environment && Text.sendable record.description && record.capabilities.all Text.sendable &&
    record.permissions.all Text.sendable && record.dependencies.all Text.sendable &&
    record.endpoints.all fun endpoint =>
      Text.sendable endpoint.name && Text.sendable endpoint.protocol && Text.sendable endpoint.uri

/-- The `CHECK` constraints of `service_registry`, in the order of their names. -/
def ServiceRecord.violation (record : ServiceRecord) : Option Refusal :=
  if !Text.notBlank record.environment then some (.check "service_registry_environment_not_empty".toList)
  else if !Text.notBlank record.serviceId then some (.check "service_registry_service_id_not_empty".toList)
  else if !Text.notBlank record.serviceName then some (.check "service_registry_service_name_not_empty".toList)
  else if !Text.notBlank record.version then some (.check "service_registry_version_not_empty".toList)
  else none

/-- `ON CONFLICT (service_id) DO UPDATE`: everything but the moment of creation. -/
def ServiceRecord.overwrite (record old : ServiceRecord) : ServiceRecord :=
  if old.serviceId = record.serviceId then { record with createdAt := old.createdAt } else old

theorem ServiceRecord.serviceId_overwrite (record old : ServiceRecord) :
    (record.overwrite old).serviceId = old.serviceId := by
  unfold ServiceRecord.overwrite
  split
  · rename_i same
    exact same.symm
  · rfl

/-- The row that `register_service` writes. -/
def ServiceDescriptor.toRecord (descriptor : ServiceDescriptor) (plane failClosedPolicy : Text) (now : Moment) :
    ServiceRecord where
  serviceId := descriptor.serviceId
  serviceName := descriptor.serviceName
  version := descriptor.version
  environment := descriptor.environment
  plane := plane
  failClosedPolicy := failClosedPolicy
  description := descriptor.description
  capabilities := descriptor.capabilities
  permissions := descriptor.permissions
  endpoints := descriptor.endpoints
  dependencies := descriptor.dependencies
  state := ServiceState.starting.name
  lastHeartbeatAt := some now
  createdAt := now
  updatedAt := now

/-- The statement of `register_service`. -/
def Registry.upsert (registry : Registry) (record : ServiceRecord) : Except Error Registry :=
  if !record.sendable then .error (.database .zeroByte)
  else
    match record.violation with
    | some refusal => .error (.database refusal)
    | none =>
        if registry.services.rows.any fun other =>
            decide (other.serviceId ≠ record.serviceId) && decide (other.identity = record.identity) then
          .error (.database (.unique "service_registry_unique_name_version_environment".toList))
        else
          match registry.services.insert record with
          | some services => .ok { registry with services := services }
          | none =>
              .ok { registry with services := registry.services.update record.overwrite record.serviceId_overwrite }

/-- `register_service`.  The row that it returns is the one under the identifier. -/
def registerService (now : Moment) (descriptor : ServiceDescriptor) (registry : Registry) : Except Error Registry := do
  let plane ← planeToDb descriptor.plane
  let failClosedPolicy ← policyToDb descriptor.failClosedPolicy
  registry.upsert (descriptor.toRecord plane failClosedPolicy now)

/-- The assignments of the `UPDATE`, with the trigger for `updated_at`. -/
def ServiceRecord.beat (serviceId state : Text) (at' now : Moment) (record : ServiceRecord) : ServiceRecord :=
  if record.serviceId = serviceId then
    { record with state := state, lastHeartbeatAt := some at', updatedAt := now }
  else record

theorem ServiceRecord.serviceId_beat (serviceId state : Text) (at' now : Moment) (record : ServiceRecord) :
    (record.beat serviceId state at' now).serviceId = record.serviceId := by
  unfold ServiceRecord.beat
  split <;> rfl

/-- `record_heartbeat`: one transaction that writes the row and the log. -/
def recordHeartbeat (packages : Packages) (now : Moment) (serviceId : Text) (state : Int) (detail : Text)
    (observedAt : Moment) (registry : Registry) : Except Error Registry := do
  let stateDb ← stateToDb state
  if !Text.sendable serviceId then .error (.database .zeroByte)
  else
    match packages.toColumn observedAt with
    | none => .error (.database .timestamp)
    | some at' =>
        match registry.services.find serviceId with
        | none => .error (.notFound ("service ".toList ++ serviceId))
        | some _ =>
            if !Text.sendable detail then .error (.database .zeroByte)
            else
              .ok
                { services := registry.services.update (ServiceRecord.beat serviceId stateDb at' now)
                    (ServiceRecord.serviceId_beat serviceId stateDb at' now)
                  heartbeats := registry.heartbeats ++
                    [{ serviceId := serviceId, state := stateDb, observedAt := at', detail := detail }] }

/-! ## Requests -/

structure RegisterHttpRequest where
  serviceId : Option Text
  serviceName : Text
  version : Text
  environment : Text
  plane : Text
  failClosedPolicy : Text
  description : Text
  capabilities : List Text
  permissions : List Text
  endpoints : List ServiceEndpoint
  dependencies : List Text

/-- `descriptor_from_http`. -/
def descriptorFromHttp (payload : RegisterHttpRequest) : Except Error ServiceDescriptor := do
  let plane ← planeI32FromStr payload.plane
  let failClosedPolicy ← policyI32FromStr payload.failClosedPolicy
  return {
    serviceId := payload.serviceId.getD []
    serviceName := payload.serviceName
    version := payload.version
    environment := payload.environment
    plane := plane
    failClosedPolicy := failClosedPolicy
    description := payload.description
    capabilities := payload.capabilities
    permissions := payload.permissions
    endpoints := payload.endpoints
    dependencies := payload.dependencies }

structure Timestamp where
  seconds : Int
  nanos : Int

structure HeartbeatRequest where
  serviceId : Text
  state : Int
  observedAt : Option Timestamp
  detail : Text

structure HeartbeatHttpRequest where
  serviceId : Text
  state : Text
  detail : Text

/-- The arguments that a handler hands on to `record_heartbeat`. -/
structure Heartbeat where
  serviceId : Text
  state : Int
  detail : Text
  observedAt : Moment

/-- `heartbeat` of `grpc.rs` up to the database.  A moment that is missing or out of
range is that of the server's clock. -/
def heartbeatFromGrpc (packages : Packages) (clock : Moment) (request : HeartbeatRequest) : Except Error Heartbeat := do
  refuseWhen (Text.trim request.serviceId = []) "service_id is required".toList
  match ServiceState.tryFrom request.state with
  | none => .error (.invalidArgument "state is required".toList)
  | some state =>
      refuseWhen (state = .unspecified) "state must not be unspecified".toList
      return {
        serviceId := request.serviceId
        state := request.state
        detail := request.detail
        observedAt := (request.observedAt.bind fun timestamp =>
          packages.fromTimestamp timestamp.seconds (timestamp.nanos % 4294967296).toNat).getD clock }

/-- `heartbeat` of `http.rs` up to the database. -/
def heartbeatFromHttp (clock : Moment) (payload : HeartbeatHttpRequest) : Except Error Heartbeat := do
  refuseWhen (Text.trim payload.serviceId = []) "service_id is required".toList
  let state ← stateI32FromStr payload.state
  return { serviceId := payload.serviceId, state := state, detail := payload.detail, observedAt := clock }

inductive Registration where
  | grpc (descriptor : Option ServiceDescriptor)
  | http (payload : RegisterHttpRequest)

/-- The descriptor that a request carries. -/
def Registration.descriptor : Registration -> Except Error ServiceDescriptor
  | .grpc none => .error (.invalidArgument "descriptor is required".toList)
  | .grpc (some descriptor) => .ok descriptor
  | .http payload => descriptorFromHttp payload

inductive HeartbeatMessage where
  | grpc (request : HeartbeatRequest)
  | http (payload : HeartbeatHttpRequest)

def HeartbeatMessage.read (packages : Packages) (clock : Moment) : HeartbeatMessage -> Except Error Heartbeat
  | .grpc request => heartbeatFromGrpc packages clock request
  | .http payload => heartbeatFromHttp clock payload

inductive Request where
  | register (registration : Registration)
  | heartbeat (message : HeartbeatMessage)

/-- A request with the clock of the server, that of the database, and whether the
transaction reaches its commit. -/
structure Event where
  request : Request
  clock : Moment
  now : Moment
  commits : Bool

/-! ## Runs -/

/-- The four handlers up to the commit. -/
def serve (packages : Packages) (event : Event) (registry : Registry) : Except Error Registry :=
  match event.request with
  | .register registration => do
      let given ← registration.descriptor
      let descriptor ← normalizeDescriptor given
      registerService event.now descriptor registry
  | .heartbeat message => do
      let heartbeat ← message.read packages event.clock
      recordHeartbeat packages event.now heartbeat.serviceId heartbeat.state heartbeat.detail heartbeat.observedAt registry

def handle (packages : Packages) (event : Event) (registry : Registry) : Except Error Registry := do
  let after ← serve packages event registry
  if event.commits then .ok after else .error (.database .connection)

/-- What the tables hold after a request: what they held, when it was refused. -/
def step (packages : Packages) (registry : Registry) (event : Event) : Registry :=
  match handle packages event registry with
  | .ok after => after
  | .error _ => registry

/-! ## What a step does -/

/-- What an accepted statement of `register_service` leaves. -/
theorem upsert_eq_ok {registry after : Registry} {record : ServiceRecord} (written : registry.upsert record = .ok after) :
    after.heartbeats = registry.heartbeats ∧
      (registry.services.insert record = some after.services ∨
        registry.services.insert record = none ∧
          after.services = registry.services.update record.overwrite record.serviceId_overwrite) := by
  unfold Registry.upsert at written
  split at written
  · cases written
  · split at written
    · cases written
    · split at written
      · cases written
      · split at written
        · rename_i services inserted
          cases written
          exact ⟨rfl, Or.inl inserted⟩
        · rename_i listed
          cases written
          exact ⟨rfl, Or.inr ⟨listed, rfl⟩⟩

/-- A registration leaves the rows of other identifiers alone. -/
theorem find_upsert_of_ne {registry after : Registry} {record : ServiceRecord}
    (written : registry.upsert record = .ok after) {wanted : Text} (other : record.serviceId ≠ wanted) :
    after.services.find wanted = registry.services.find wanted := by
  rcases (upsert_eq_ok written).2 with inserted | ⟨-, updated⟩
  · rw [Table.find_insert inserted, if_neg other, Option.or_none]
  · rw [updated, Table.find_update]
    cases found : registry.services.find wanted with
    | none => rfl
    | some old =>
        have different : old.serviceId ≠ record.serviceId := by
          rw [(Table.mem_of_find found).2]
          exact other.symm
        exact congrArg some (if_neg different)

theorem mem_upsert {registry after : Registry} {record row : ServiceRecord}
    (written : registry.upsert record = .ok after) (member : row ∈ after.services) :
    row ∈ registry.services ∨ (row.serviceId = record.serviceId ∧ row.identity = record.identity) := by
  rcases (upsert_eq_ok written).2 with inserted | ⟨-, updated⟩
  · rcases (Table.mem_insert inserted).mp member with known | new
    · exact Or.inl known
    · exact Or.inr ⟨congrArg _ new, congrArg _ new⟩
  · rw [updated, Table.mem_update] at member
    rcases member with ⟨old, known, rfl⟩
    unfold ServiceRecord.overwrite
    split
    · exact Or.inr ⟨rfl, rfl⟩
    · exact Or.inl known

theorem registerService_eq_ok {now : Moment} {descriptor : ServiceDescriptor} {registry after : Registry}
    (registered : registerService now descriptor registry = .ok after) :
    Exists fun plane => Exists fun policy => registry.upsert (descriptor.toRecord plane policy now) = .ok after := by
  rcases Run.ok_of_bind registered with ⟨plane, -, rest⟩
  rcases Run.ok_of_bind rest with ⟨policy, -, written⟩
  exact ⟨plane, policy, written⟩

/-- What an accepted heartbeat writes. -/
theorem recordHeartbeat_eq_ok {packages : Packages} {now : Moment} {serviceId detail : Text} {state : Int}
    {observedAt : Moment} {registry after : Registry}
    (recorded : recordHeartbeat packages now serviceId state detail observedAt registry = .ok after) :
    Exists fun stateDb => Exists fun at' => stateToDb state = .ok stateDb ∧ packages.toColumn observedAt = some at' ∧
      after.services = registry.services.update (ServiceRecord.beat serviceId stateDb at' now)
        (ServiceRecord.serviceId_beat serviceId stateDb at' now) := by
  rcases Run.ok_of_bind recorded with ⟨stateDb, named, rest⟩
  split at rest
  · cases rest
  · split at rest
    · cases rest
    · rename_i at' kept
      split at rest
      · cases rest
      · split at rest
        · cases rest
        · cases rest
          exact ⟨stateDb, at', named, kept, rfl⟩

/-- A request that is served was committed, and is a registration or a heartbeat. -/
theorem handle_eq_ok {packages : Packages} {event : Event} {registry after : Registry}
    (handled : handle packages event registry = .ok after) :
    event.commits = true ∧
      ((Exists fun registration => Exists fun given => Exists fun descriptor =>
        event.request = .register registration ∧ registration.descriptor = .ok given ∧
          normalizeDescriptor given = .ok descriptor ∧ registerService event.now descriptor registry = .ok after) ∨
      (Exists fun message => Exists fun heartbeat =>
        event.request = .heartbeat message ∧ message.read packages event.clock = .ok heartbeat ∧
          recordHeartbeat packages event.now heartbeat.serviceId heartbeat.state heartbeat.detail heartbeat.observedAt
            registry = .ok after)) := by
  rcases Run.ok_of_bind handled with ⟨written, served, committed⟩
  split at committed
  · rename_i commits
    cases committed
    refine ⟨commits, ?_⟩
    unfold serve at served
    cases kind : event.request with
    | register registration =>
        rw [kind] at served
        rcases Run.ok_of_bind served with ⟨given, read, rest⟩
        rcases Run.ok_of_bind rest with ⟨descriptor, accepted, registered⟩
        exact Or.inl ⟨registration, given, descriptor, rfl, read, accepted, registered⟩
    | heartbeat message =>
        rw [kind] at served
        rcases Run.ok_of_bind served with ⟨heartbeat, read, recorded⟩
        exact Or.inr ⟨message, heartbeat, rfl, read, recorded⟩
  · cases committed

end Services
end ApexQuant
