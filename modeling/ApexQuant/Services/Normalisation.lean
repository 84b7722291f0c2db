import ApexQuant.Foundation.Json
import ApexQuant.Services.Registry

namespace ApexQuant
namespace Services

open Foundation

/-!
# What normalisation leaves

A descriptor that `normalize_descriptor` returns is in normal form: another pass returns
it as it is.  The permissions are checked after they have been brought to one spelling, so
no spelling of a privilege passes on a plane that may not hold it.  And the row that
`register_service` writes of the descriptor is read back by `record_to_descriptor` as the
descriptor that was written.
-/

/-! ## `record_to_descriptor` -/

section Names

variable {Value : Type} [DecidableEq Value] (unspecified : Value)

/-- `plane_from_db` and `policy_from_db`: any other text is unspecified. -/
def fromDb (all : List Value) (name : Value -> Text) (value : Text) : Value :=
  (all.find? fun other => decide (other ≠ unspecified) && decide (name other = value)).getD unspecified

end Names

def planeFromDb (value : Text) : Int :=
  (fromDb ServicePlane.unspecified ServicePlane.all ServicePlane.name value).code

def policyFromDb (value : Text) : Int :=
  (fromDb FailClosedPolicy.unspecified FailClosedPolicy.all FailClosedPolicy.name value).code

/-- `serde_json::to_value` of a `Vec<String>`. -/
def textsToValue (values : List Text) : Json :=
  .array (values.map .string)

/-- `serde_json::from_value` to a `Vec<String>`. -/
def textsFromValue : Json -> Option (List Text)
  | .array items => items.mapM Json.asStr
  | _ => none

/-- `serde_json::to_value` of an `EndpointJson`, whose keys a map keeps in order. -/
def ServiceEndpoint.toValue (endpoint : ServiceEndpoint) : Json :=
  .object
    [("name".toList, .string endpoint.name), ("port".toList, .integer endpoint.port),
      ("protocol".toList, .string endpoint.protocol), ("uri".toList, .string endpoint.uri)]

def asI32 : Json -> Option Int
  | .integer value => if -2147483648 ≤ value ∧ value ≤ 2147483647 then some value else none
  | _ => none

/-- `serde_json::from_value` to an `EndpointJson`: a map with its keys, or its values in
their order. -/
def ServiceEndpoint.fromValue : Json -> Option ServiceEndpoint
  | .array [name, protocol, uri, port] => do
      return { name := ← name.asStr, protocol := ← protocol.asStr, uri := ← uri.asStr, port := ← asI32 port }
  | .object fields => do
      let name ← (Json.get "name".toList (.object fields)).bind Json.asStr
      let protocol ← (Json.get "protocol".toList (.object fields)).bind Json.asStr
      let uri ← (Json.get "uri".toList (.object fields)).bind Json.asStr
      let port ← (Json.get "port".toList (.object fields)).bind asI32
      return { name := name, protocol := protocol, uri := uri, port := port }
  | _ => none

def endpointsToValue (endpoints : List ServiceEndpoint) : Json :=
  .array (endpoints.map ServiceEndpoint.toValue)

def endpointsFromValue : Json -> Option (List ServiceEndpoint)
  | .array items => items.mapM ServiceEndpoint.fromValue
  | _ => none

/-- The columns of type `jsonb`. -/
structure JsonColumns where
  capabilities : Json
  permissions : Json
  endpoints : Json
  dependencies : Json

/-- What `register_service` binds to the columns of a row, and a query returns of them. -/
def ServiceRecord.jsonColumns (record : ServiceRecord) : JsonColumns where
  capabilities := textsToValue record.capabilities
  permissions := textsToValue record.permissions
  endpoints := endpointsToValue record.endpoints
  dependencies := textsToValue record.dependencies

/-- `record_to_descriptor`, without a result for `Error::Serialization`. -/
def recordToDescriptor (record : ServiceRecord) : Option ServiceDescriptor := do
  let capabilities ← textsFromValue record.jsonColumns.capabilities
  let permissions ← textsFromValue record.jsonColumns.permissions
  let dependencies ← textsFromValue record.jsonColumns.dependencies
  let endpoints ← endpointsFromValue record.jsonColumns.endpoints
  return {
    serviceId := record.serviceId
    serviceName := record.serviceName
    version := record.version
    environment := record.environment
    plane := planeFromDb record.plane
    failClosedPolicy := policyFromDb record.failClosedPolicy
    description := record.description
    capabilities := capabilities
    permissions := permissions
    endpoints := endpoints
    dependencies := dependencies }

/-! ## Trimmed texts -/

/-- A text in the one spelling that the registry compares. -/
def spelled (text : Text) : Text :=
  toAsciiUppercase (Text.trim text)

theorem spelled_spelled (text : Text) : spelled (spelled text) = spelled text := by
  unfold spelled toAsciiUppercase
  rw [Text.trim_map Text.isWhitespace_toUpper, Text.trim_trim, List.map_map]
  exact List.map_congr_left fun c _ => Char.toUpper_toUpper_eq_toUpper c

theorem toAsciiLowercase_trim_twice (text : Text) :
    toAsciiLowercase (Text.trim (toAsciiLowercase (Text.trim text))) = toAsciiLowercase (Text.trim text) := by
  unfold toAsciiLowercase
  rw [Text.trim_map Text.isWhitespace_toLower, Text.trim_trim, List.map_map]
  exact List.map_congr_left fun c _ => Char.toLower_toLower_eq_toLower c

/-! ## Lists of words -/

theorem mem_destutter' {value : Text} {values : List Text} {first : Text} (member : value ∈ first :: values) :
    value ∈ values.destutter' (· ≠ ·) first := by
  induction values generalizing first with
  | nil => exact member
  | cons second rest inductionHypothesis =>
      rw [List.destutter'_cons]
      split
      · rcases List.mem_cons.mp member with rfl | later
        · exact List.mem_cons_self
        · exact List.mem_cons_of_mem _ (inductionHypothesis later)
      · rename_i same
        rw [ne_eq, not_not] at same
        refine inductionHypothesis ?_
        rcases List.mem_cons.mp member with rfl | later
        · exact List.mem_cons_self
        · exact same ▸ later

theorem mem_normalizeStringList {values : List Text} {word : Text} :
    word ∈ normalizeStringList values <-> word ≠ [] ∧ Exists fun value => value ∈ values ∧ spelled value = word := by
  have listed : word ∈ (((values.map spelled).filter fun value => !value.isEmpty).insertionSort (· ≤ ·)) <->
      word ≠ [] ∧ Exists fun value => value ∈ values ∧ spelled value = word := by
    rw [List.mem_insertionSort, List.mem_filter, List.mem_map, and_comm, Bool.not_eq_true', List.isEmpty_eq_false_iff]
  rw [← listed]
  constructor
  · exact fun member => (List.destutter_sublist _ _).subset member
  · intro member
    change word ∈ List.destutter _ _
    cases sorted : ((values.map spelled).filter fun value => !value.isEmpty).insertionSort (· ≤ ·) with
    | nil =>
        rw [sorted] at member
        cases member
    | cons first rest =>
        rw [sorted] at member
        have kept := mem_destutter' member
        rw [← List.destutter_cons', ← sorted] at kept
        exact kept

/-- The list of words is its own. -/
theorem normalizeStringList_idem (values : List Text) :
    normalizeStringList (normalizeStringList values) = normalizeStringList values := by
  have known : forall word, word ∈ normalizeStringList values -> spelled word = word ∧ (!word.isEmpty) = true := by
    intro word member
    rcases mem_normalizeStringList.mp member with ⟨nonempty, value, _, rfl⟩
    exact ⟨spelled_spelled value, by simpa using nonempty⟩
  have sorted : (normalizeStringList values).Pairwise (· ≤ ·) :=
    (List.pairwise_insertionSort (· ≤ ·) _).sublist (List.destutter_sublist _ _)
  have distinct : (normalizeStringList values).destutter (· ≠ ·) = normalizeStringList values := List.destutter_idem _ _
  have spelt : (normalizeStringList values).map spelled = normalizeStringList values := by
    rw [List.map_congr_left fun word member => (known word member).1, List.map_id']
  change (((((normalizeStringList values).map spelled).filter fun value => !value.isEmpty).insertionSort
    (· ≤ ·)).destutter (· ≠ ·)) = _
  rw [spelt, List.filter_eq_self.mpr fun word member => (known word member).2, sorted.insertionSort_eq, distinct]

/-! ## Descriptors in normal form -/

theorem ServiceEndpoint.trimmed_trimmed (endpoint : ServiceEndpoint) : endpoint.trimmed.trimmed = endpoint.trimmed := by
  simp only [ServiceEndpoint.trimmed, Text.trim_trim, toAsciiLowercase_trim_twice]

theorem endpoints_trimmed_twice (endpoints : List ServiceEndpoint) :
    (((endpoints.map ServiceEndpoint.trimmed).filter ServiceEndpoint.named).map ServiceEndpoint.trimmed).filter
        ServiceEndpoint.named = (endpoints.map ServiceEndpoint.trimmed).filter ServiceEndpoint.named := by
  have fixed : forall endpoint, endpoint ∈ (endpoints.map ServiceEndpoint.trimmed).filter ServiceEndpoint.named ->
      endpoint.trimmed = endpoint := by
    intro endpoint member
    rcases List.mem_map.mp (List.mem_filter.mp member).1 with ⟨origin, _, rfl⟩
    exact origin.trimmed_trimmed
  rw [List.map_congr_left fixed, List.map_id', List.filter_filter]
  simp only [Bool.and_self]

theorem trimmed_normalized {given : ServiceDescriptor} (accepted : Accepted given) :
    given.normalized.trimmed = given.normalized := by
  have solid := any_serviceIdOf accepted.environment accepted.serviceName accepted.version
  rw [List.any_eq_false] at solid
  have serviceId := Text.trim_of_solid fun c member => Bool.eq_false_of_not_eq_true (solid c member)
  simp only [ServiceDescriptor.trimmed] at serviceId
  simp only [ServiceDescriptor.normalized, ServiceDescriptor.trimmed, serviceId, Text.trim_trim, normalizeStringList_idem,
    endpoints_trimmed_twice]

theorem accepted_normalized {given : ServiceDescriptor} (accepted : Accepted given) : Accepted given.normalized := by
  have same := trimmed_normalized accepted
  refine ⟨?_, ?_, ?_, ?_, accepted.failClosedPolicy, ?_, ?_⟩
  · rw [same]
    exact accepted.serviceName
  · rw [same]
    exact accepted.version
  · rw [same]
    exact accepted.environment
  · intro _
    rw [same]
    rfl
  · rw [same]
    exact accepted.endpoints
  · rw [same]
    exact accepted.plane

theorem normalized_normalized {given : ServiceDescriptor} (accepted : Accepted given) :
    given.normalized.normalized = given.normalized := by
  rw [ServiceDescriptor.normalized, trimmed_normalized accepted]
  rfl

/-! ## Planes and privileges -/

/-- No permission of the list is, in any spelling, one that the plane may not hold. -/
structure PlaneSeparated (plane : Int) (permissions : List Text) : Prop where
  aiForbidden : plane = ServicePlane.ai.code ∨ plane = ServicePlane.dataResearch.code ->
    forall permission, permission ∈ permissions -> spelled permission ∉ aiForbiddenPrivileges
  execution : forall permission, permission ∈ permissions ->
    spelled permission ∈ executionPrivileges ∨ spelled permission = "RISK_OVERRIDE".toList -> plane = ServicePlane.risk.code
  killSwitch : forall permission, permission ∈ permissions -> spelled permission = "KILL_SWITCH".toList ->
    plane = ServicePlane.risk.code ∨ plane = ServicePlane.control.code

/-- The value found by its code has that code. -/
theorem eq_code_of_find {Value : Type} {code : Value -> Int} {all : List Value} {wanted : Int} {value : Value}
    (found : (all.find? fun other => code other == wanted) = some value) : wanted = code value := by
  have same := List.find?_some found
  exact (beq_iff_eq.mp same).symm

theorem permitted_nil (plane : ServicePlane) : Permitted plane [] := by
  refine ⟨fun _ => by decide, fun member => absurd member (by decide), fun same => ?_, fun same => ?_⟩
  · cases same
  · cases same

/-- An accepted list of permissions is separated, whatever its spelling. -/
theorem planeSeparated_of_permitted {code : Int} {plane : ServicePlane} (known : ServicePlane.tryFrom code = some plane)
    {permissions : List Text}
    (permitted : forall permission, permission ∈ permissions -> Permitted plane (spelled permission)) :
    PlaneSeparated code permissions := by
  have named : code = plane.code := eq_code_of_find known
  have codes {other : ServicePlane} (same : code = other.code) : plane = other := by
    rw [same, ServicePlane.tryFrom_code] at known
    exact (Option.some.inj known).symm
  constructor
  · intro research permission member
    exact (permitted permission member).1 (research.imp codes codes)
  · intro permission member privilege
    have allowed := permitted permission member
    rw [named]
    rcases privilege with execution | override
    · rw [allowed.2.1 execution]
    · rw [allowed.2.2.1 override]
  · intro permission member switch
    rw [named]
    exact ((permitted permission member).2.2.2 switch).imp (congrArg ServicePlane.code) (congrArg ServicePlane.code)

theorem planeSeparated_of_accepted {given : ServiceDescriptor} (accepted : Accepted given) :
    PlaneSeparated given.plane given.permissions ∧ PlaneSeparated given.normalized.plane given.normalized.permissions := by
  rcases accepted.plane with ⟨plane, known, _, permitted⟩
  have given_permitted : forall permission, permission ∈ given.permissions -> Permitted plane (spelled permission) := by
    intro permission member
    by_cases empty : spelled permission = []
    · rw [empty]
      exact permitted_nil plane
    · exact permitted _ (mem_normalizeStringList.mpr ⟨empty, permission, member, rfl⟩)
  refine ⟨planeSeparated_of_permitted known given_permitted, planeSeparated_of_permitted known ?_⟩
  intro word member
  rcases mem_normalizeStringList.mp member with ⟨_, permission, listed, rfl⟩
  rw [spelled_spelled]
  exact given_permitted permission listed

/-! ## Rows -/

theorem textsFromValue_toValue (values : List Text) : textsFromValue (textsToValue values) = some values :=
  Json.mapM_read_write fun _ _ => rfl

theorem ServiceEndpoint.fromValue_toValue (endpoint : ServiceEndpoint) (reachable : Reachable endpoint) :
    ServiceEndpoint.fromValue endpoint.toValue = some endpoint := by
  have port : asI32 (.integer endpoint.port) = some endpoint.port :=
    if_pos ⟨by have := reachable.1.1; omega, by have := reachable.1.2; omega⟩
  have keys : Json.get "name".toList endpoint.toValue = some (.string endpoint.name) ∧
      Json.get "protocol".toList endpoint.toValue = some (.string endpoint.protocol) ∧
      Json.get "uri".toList endpoint.toValue = some (.string endpoint.uri) ∧
      Json.get "port".toList endpoint.toValue = some (.integer endpoint.port) := ⟨rfl, rfl, rfl, rfl⟩
  rw [ServiceEndpoint.toValue] at keys ⊢
  rw [ServiceEndpoint.fromValue, keys.1, keys.2.1, keys.2.2.1, keys.2.2.2]
  simp only [Option.bind_some, Json.asStr, port, Option.bind_eq_bind, Option.pure_def]

theorem endpointsFromValue_toValue (endpoints : List ServiceEndpoint)
    (reachable : forall endpoint, endpoint ∈ endpoints -> Reachable endpoint) :
    endpointsFromValue (endpointsToValue endpoints) = some endpoints :=
  Json.mapM_read_write fun endpoint member => endpoint.fromValue_toValue (reachable endpoint member)

theorem planeToDb_eq {plane : ServicePlane} (specified : plane ≠ .unspecified) :
    planeToDb plane.code = .ok plane.name ∧ planeFromDb plane.name = plane.code := by
  cases plane with
  | unspecified => exact absurd rfl specified
  | control | marketData | trading | risk | ai | dataResearch | observability => decide +kernel

theorem policyToDb_eq {policy : FailClosedPolicy} (specified : policy ≠ .unspecified) :
    policyToDb policy.code = .ok policy.name ∧ policyFromDb policy.name = policy.code := by
  cases policy with
  | unspecified => exact absurd rfl specified
  | readOnly | cancelOpenOrders | haltTrading | shutdown => decide +kernel

/-- The row names the plane and the policy of the descriptor. -/
theorem names_of_accepted {given : ServiceDescriptor} (accepted : Accepted given) :
    Exists fun plane => Exists fun policy =>
      (planeToDb given.plane = .ok plane ∧ planeFromDb plane = given.plane) ∧
        policyToDb given.failClosedPolicy = .ok policy ∧ policyFromDb policy = given.failClosedPolicy := by
  rcases accepted.plane with ⟨plane, known, specified, _⟩
  rcases accepted.failClosedPolicy with ⟨policy, known', specified'⟩
  rw [eq_code_of_find known, eq_code_of_find known']
  exact ⟨plane.name, policy.name, planeToDb_eq specified, policyToDb_eq specified'⟩

/-- A row is read back as the descriptor it was written of. -/
theorem recordToDescriptor_toRecord {given : ServiceDescriptor} (accepted : Accepted given) {plane policy : Text}
    (named : planeFromDb plane = given.plane) (named' : policyFromDb policy = given.failClosedPolicy) (now created : Moment) :
    recordToDescriptor { given.normalized.toRecord plane policy now with createdAt := created } =
      some given.normalized := by
  simp only [recordToDescriptor, ServiceRecord.jsonColumns, ServiceDescriptor.toRecord, textsFromValue_toValue,
    endpointsFromValue_toValue given.normalized.endpoints accepted.endpoints, named, named',
    Option.bind_eq_bind, Option.bind_some, Option.pure_def]
  rfl

/-- The row that a registration returns, inserted or overwritten. -/
theorem find_upsert {registry after : Registry} {record : ServiceRecord} (written : registry.upsert record = .ok after) :
    Exists fun created => after.services.find record.serviceId = some { record with createdAt := created } := by
  rcases (upsert_eq_ok written).2 with inserted | ⟨listed, updated⟩
  · rw [Table.find_insert inserted, Table.find_eq_none_of_insert inserted, if_pos rfl]
    exact ⟨record.createdAt, rfl⟩
  · cases found : registry.services.find record.serviceId with
    | none =>
        rcases Table.exists_insert found with ⟨services, inserted⟩
        rw [listed] at inserted
        cases inserted
    | some old =>
        rw [updated, Table.find_update, found, Option.map_some, ServiceRecord.overwrite, if_pos (Table.mem_of_find found).2]
        exact ⟨old.createdAt, rfl⟩

/-- What a registration has stored is read back. -/
theorem read_registered {given : ServiceDescriptor} (accepted : Accepted given) {now : Moment} {registry after : Registry}
    (registered : registerService now given.normalized registry = .ok after) :
    Exists fun record => after.services.find given.normalized.serviceId = some record ∧
      recordToDescriptor record = some given.normalized := by
  rcases names_of_accepted accepted with ⟨plane, policy, ⟨named, read⟩, named', read'⟩
  have same : registerService now given.normalized registry =
      registry.upsert (given.normalized.toRecord plane policy now) := by
    rw [registerService, show given.normalized.plane = given.plane from rfl,
      show given.normalized.failClosedPolicy = given.failClosedPolicy from rfl, named, named']
    rfl
  rw [same] at registered
  rcases find_upsert registered with ⟨created, found⟩
  exact ⟨_, found, recordToDescriptor_toRecord accepted read read' now created⟩

/-- A normalised descriptor is returned as it is, holds no permission that its plane may
not hold, and is read back from the row that it is registered in.  The plane is the given
one, and the given permissions are held to it in whatever spelling they come. -/
theorem normalisation_stable {given descriptor : ServiceDescriptor}
    (normalised : normalizeDescriptor given = .ok descriptor) :
    normalizeDescriptor descriptor = .ok descriptor ∧
      (descriptor.plane = given.plane ∧ PlaneSeparated given.plane given.permissions ∧
        PlaneSeparated descriptor.plane descriptor.permissions) ∧
      (Exists fun plane => Exists fun policy =>
        planeToDb descriptor.plane = .ok plane ∧ policyToDb descriptor.failClosedPolicy = .ok policy ∧
          forall now, recordToDescriptor (descriptor.toRecord plane policy now) = some descriptor) ∧
      forall now registry after, registerService now descriptor registry = .ok after ->
        Exists fun record => after.services.find descriptor.serviceId = some record ∧
          recordToDescriptor record = some descriptor := by
  rcases normalizeDescriptor_eq_ok_iff.mp normalised with ⟨accepted, rfl⟩
  rcases names_of_accepted accepted with ⟨plane, policy, ⟨named, read⟩, named', read'⟩
  refine ⟨?_, ⟨rfl, planeSeparated_of_accepted accepted⟩, ?_, ?_⟩
  · exact normalizeDescriptor_eq_ok_iff.mpr ⟨accepted_normalized accepted, normalized_normalized accepted⟩
  · exact ⟨plane, policy, named, named', fun now => recordToDescriptor_toRecord accepted read read' now now⟩
  · exact fun now registry after registered => read_registered accepted registered

/-- A risk gateway whose registration is spelt as it came. -/
def riskGateway : ServiceDescriptor where
  serviceId := []
  serviceName := " risk-gateway ".toList
  version := "1.0.0".toList
  environment := "sandbox".toList
  plane := ServicePlane.risk.code
  failClosedPolicy := FailClosedPolicy.haltTrading.code
  description := []
  capabilities := []
  permissions := [" order_submit".toList, "ORDER_SUBMIT".toList, "Kill_Switch ".toList]
  endpoints := [{ name := "api".toList, protocol := " HTTP".toList, uri := "http://risk".toList, port := 8080 }]
  dependencies := []

theorem riskGateway_is_stable :
    riskGateway.normalized.permissions = ["KILL_SWITCH".toList, "ORDER_SUBMIT".toList] ∧
      normalizeDescriptor riskGateway.normalized = .ok riskGateway.normalized := by
  have normalised : normalizeDescriptor riskGateway = .ok riskGateway.normalized := by decide +kernel
  exact ⟨by decide +kernel, (normalisation_stable normalised).1⟩

end Services
end ApexQuant
