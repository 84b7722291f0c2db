import ApexQuant.Foundation.Separators
import ApexQuant.Services.Registry

namespace ApexQuant
namespace Services

open Foundation

/-!
# The identity of a service

The key of the table is `environment:service_name:version`.  The parts are free of
whitespace, but nothing keeps them free of colons, so two services can have one key, and
a registration of the one then overwrites the row of the other.  A service is safe from
that when its parts can be read off its key.
-/

/-- No other three tokens have the identifier of these. -/
def Unambiguous (identity : Identity) : Prop :=
  Separated.Unambiguous ':' identity.environment identity.serviceName identity.version

instance : DecidablePred Unambiguous := fun identity =>
  inferInstanceAs (Decidable
    (Separated.Unambiguous ':' identity.environment identity.serviceName identity.version))

def Identity.serviceId (identity : Identity) : Text :=
  serviceIdOf identity.environment identity.serviceName identity.version

/-- The parts are tokens. -/
structure Identity.Valid (identity : Identity) : Prop where
  environment : IsToken identity.environment
  serviceName : IsToken identity.serviceName
  version : IsToken identity.version

theorem Identity.eq_of_serviceId_eq {identity other : Identity} (unambiguous : Unambiguous identity)
    (valid : other.Valid) (same : identity.serviceId = other.serviceId) : identity = other := by
  rcases Separated.Unambiguous.eq unambiguous valid.environment.1 valid.serviceName.1 valid.version.1 same with
    ⟨environment, serviceName, version⟩
  cases identity
  cases other
  cases environment
  cases serviceName
  cases version
  rfl

theorem isToken_of_subset {text whole : Text} (nonempty : text ≠ []) (solid : whole.any Text.isWhitespace = false)
    (inside : forall c, c ∈ text -> c ∈ whole) : IsToken text := by
  refine ⟨nonempty, ?_⟩
  rw [List.any_eq_false] at solid ⊢
  exact fun c member => solid c (inside c member)

/-- An ambiguous service has a namesake. -/
theorem Identity.exists_namesake {identity : Identity} (valid : identity.Valid) (ambiguous : ¬Unambiguous identity) :
    Exists fun other : Identity => other.Valid ∧ other.serviceId = identity.serviceId ∧ other ≠ identity := by
  rcases Separated.exists_other_of_not_unambiguous valid.environment.1 valid.serviceName.1 valid.version.1 ambiguous with
    ⟨environment, serviceName, version, ⟨nonempty, nonempty', nonempty''⟩, same, different⟩
  have solid : identity.serviceId.any Text.isWhitespace = false :=
    any_serviceIdOf valid.environment valid.serviceName valid.version
  rw [← show Separated.joined ':' environment serviceName version = identity.serviceId from same] at solid
  refine ⟨⟨environment, serviceName, version⟩, ⟨?_, ?_, ?_⟩, same, ?_⟩
  · exact isToken_of_subset nonempty solid fun c member => List.mem_append_left _ member
  · exact isToken_of_subset nonempty' solid fun c member =>
      List.mem_append_right _ (List.mem_cons_of_mem _ (List.mem_append_left _ member))
  · exact isToken_of_subset nonempty'' solid fun c member =>
      List.mem_append_right _ (List.mem_cons_of_mem _ (List.mem_append_right _ (List.mem_cons_of_mem _ member)))
  · rintro rfl
    exact different ⟨rfl, rfl, rfl⟩

/-! ## Accepted descriptors -/

/-- An accepted descriptor names a valid service, under its identifier. -/
theorem valid_of_accepted {given descriptor : ServiceDescriptor} (accepted : normalizeDescriptor given = .ok descriptor) :
    descriptor.identity.Valid ∧ descriptor.serviceId = descriptor.identity.serviceId := by
  rcases normalizeDescriptor_eq_ok_iff.mp accepted with ⟨checks, rfl⟩
  exact ⟨⟨checks.environment, checks.serviceName, checks.version⟩, rfl⟩

/-- A descriptor of a valid service without anything else. -/
def Identity.descriptor (identity : Identity) : ServiceDescriptor where
  serviceId := []
  serviceName := identity.serviceName
  version := identity.version
  environment := identity.environment
  plane := ServicePlane.control.code
  failClosedPolicy := FailClosedPolicy.shutdown.code
  description := []
  capabilities := []
  permissions := []
  endpoints := []
  dependencies := []

theorem trim_of_isToken {text : Text} (token : IsToken text) : Text.trim text = text := by
  have none := token.2
  rw [List.any_eq_false] at none
  exact Text.trim_of_solid fun c member => Bool.eq_false_of_not_eq_true (none c member)

theorem Identity.accepted_descriptor {identity : Identity} (valid : identity.Valid) :
    Exists fun descriptor => normalizeDescriptor identity.descriptor = .ok descriptor ∧
      descriptor.identity = identity := by
  have environment := trim_of_isToken valid.environment
  have serviceName := trim_of_isToken valid.serviceName
  have version := trim_of_isToken valid.version
  refine ⟨_, normalizeDescriptor_eq_ok_iff.mpr ⟨?_, rfl⟩, ?_⟩
  · constructor
    · exact (congrArg IsToken serviceName).mpr valid.serviceName
    · exact (congrArg IsToken version).mpr valid.version
    · exact (congrArg IsToken environment).mpr valid.environment
    · exact fun given => absurd rfl given
    · exact ⟨.shutdown, rfl, nofun⟩
    · exact fun endpoint member => absurd member List.not_mem_nil
    · exact ⟨.control, rfl, nofun, fun permission member => absurd member List.not_mem_nil⟩
  · change Identity.mk _ _ _ = identity
    change Identity.mk (Text.trim identity.environment) (Text.trim identity.serviceName) (Text.trim identity.version) = identity
    rw [environment, serviceName, version]

/-! ## Rows -/

/-- Every row stands under the identifier of a valid service, which is its own. -/
def Registry.Named (registry : Registry) : Prop :=
  forall row, row ∈ registry.services -> row.identity.Valid ∧ row.serviceId = row.identity.serviceId

theorem named_empty : Registry.empty.Named :=
  fun _ member => absurd member List.not_mem_nil

theorem named_step (packages : Packages) (registry : Registry) (event : Event) (named : registry.Named) :
    (step packages registry event).Named := by
  unfold step
  split
  · rename_i after handled
    rcases (handle_eq_ok handled).2 with ⟨-, given, descriptor, -, -, accepted, registered⟩ |
      ⟨-, heartbeat, -, -, recorded⟩
    · rcases registerService_eq_ok registered with ⟨plane, policy, written⟩
      intro row member
      rcases mem_upsert written member with known | ⟨serviceId, identity⟩
      · exact named row known
      · rw [serviceId, identity]
        exact valid_of_accepted accepted
    · rcases recordHeartbeat_eq_ok recorded with ⟨stateDb, at', -, -, updated⟩
      intro row member
      rw [updated, Table.mem_update] at member
      rcases member with ⟨old, known, rfl⟩
      have same := named old known
      unfold ServiceRecord.beat
      split <;> exact same
  · exact named

theorem named_run (packages : Packages) (events : List Event) : (events.foldl (step packages) Registry.empty).Named :=
  Run.invariant (step packages) (fun registry event => named_step packages registry event) named_empty events

/-- A registration leaves the rows of services with other identifiers alone. -/
theorem mem_step_of_ne {packages : Packages} {registry : Registry} {event : Event} {registration : Registration}
    {given descriptor : ServiceDescriptor} (asks : event.request = .register registration)
    (read : registration.descriptor = .ok given) (accepted : normalizeDescriptor given = .ok descriptor)
    {row : ServiceRecord} (member : row ∈ registry.services) (other : descriptor.serviceId ≠ row.serviceId) :
    row ∈ (step packages registry event).services := by
  unfold step
  split
  · rename_i after handled
    rcases (handle_eq_ok handled).2 with ⟨registration', given', descriptor', asks', read', accepted', registered⟩ |
      ⟨message, heartbeat, asks', -, -⟩
    · cases asks.symm.trans asks'
      cases read.symm.trans read'
      cases accepted.symm.trans accepted'
      rcases registerService_eq_ok registered with ⟨plane, policy, written⟩
      have found := find_upsert_of_ne written (show (descriptor.toRecord plane policy event.now).serviceId ≠ row.serviceId from other)
      rw [Table.find_of_mem member] at found
      exact (Table.mem_of_find found).1
    · cases asks.symm.trans asks'
  · exact member

/-- The identifier of an accepted descriptor is that of no other service, and its
registration never overwrites the row of another, when its parts can be read off the
identifier, and then only. -/
theorem service_id_identifies_iff {given descriptor : ServiceDescriptor}
    (accepted : normalizeDescriptor given = .ok descriptor) :
    ((forall given' descriptor', normalizeDescriptor given' = .ok descriptor' ->
        descriptor'.identity ≠ descriptor.identity -> descriptor'.serviceId ≠ descriptor.serviceId) ∧
      forall (packages : Packages) (events : List Event) (event : Event) (registration : Registration),
        event.request = .register registration -> registration.descriptor = .ok given ->
        forall row, row ∈ (events.foldl (step packages) Registry.empty).services -> row.identity ≠ descriptor.identity ->
          row ∈ (step packages (events.foldl (step packages) Registry.empty) event).services) <->
      Separated.Unambiguous ':' (Text.trim given.environment) (Text.trim given.serviceName) (Text.trim given.version) := by
  rcases normalizeDescriptor_eq_ok_iff.mp accepted with ⟨checks, rfl⟩
  have own := valid_of_accepted accepted
  constructor
  · rintro ⟨injective, -⟩
    by_contra ambiguous
    rcases Identity.exists_namesake own.1 ambiguous with ⟨other, valid, same, different⟩
    rcases Identity.accepted_descriptor valid with ⟨descriptor', accepted', rfl⟩
    have identifier := (valid_of_accepted accepted').2
    exact injective _ descriptor' accepted' different (identifier.trans (same.trans own.2.symm))
  · intro (unambiguous : Unambiguous given.normalized.identity)
    constructor
    · intro given' descriptor' accepted' different same
      rcases valid_of_accepted accepted' with ⟨valid, identifier⟩
      exact different (Identity.eq_of_serviceId_eq unambiguous valid (own.2.symm.trans (same.symm.trans identifier))).symm
    · intro packages events event registration asks read row member different
      rcases named_run packages events row member with ⟨valid, identifier⟩
      apply mem_step_of_ne asks read accepted member
      intro same
      exact different (Identity.eq_of_serviceId_eq unambiguous valid (own.2.symm.trans (same.trans identifier))).symm

/-! ## Two services with one key -/

def exampleIdentity : Identity where
  environment := "sandbox".toList
  serviceName := "test-service".toList
  version := "0.1.0".toList

theorem valid_exampleIdentity : exampleIdentity.Valid :=
  ⟨by decide, by decide, by decide⟩

theorem accepted_exampleIdentity :
    normalizeDescriptor exampleIdentity.descriptor = .ok exampleIdentity.descriptor.normalized := by
  rcases Identity.accepted_descriptor valid_exampleIdentity with ⟨descriptor, accepted, -⟩
  rw [accepted, (normalizeDescriptor_eq_ok_iff.mp accepted).2]

/-- The service of the tests has its identifier for itself. -/
theorem example_is_identified :
    exampleIdentity.descriptor.normalized.identity = exampleIdentity ∧
      forall given' descriptor', normalizeDescriptor given' = .ok descriptor' ->
        descriptor'.identity ≠ exampleIdentity.descriptor.normalized.identity ->
          descriptor'.serviceId ≠ exampleIdentity.descriptor.normalized.serviceId :=
  ⟨by decide, ((service_id_identifies_iff accepted_exampleIdentity).mpr (by decide)).1⟩

/-- `eu:prod` and `gateway`, or `eu` and `prod:gateway`. -/
theorem colon_is_shared :
    ¬forall given given' descriptor descriptor', normalizeDescriptor given = .ok descriptor ->
      normalizeDescriptor given' = .ok descriptor' -> descriptor.identity ≠ descriptor'.identity ->
        descriptor.serviceId ≠ descriptor'.serviceId := by
  intro injective
  let first : Identity :=
    { environment := "eu:prod".toList, serviceName := "gateway".toList, version := "1".toList }
  let second : Identity :=
    { environment := "eu".toList, serviceName := "prod:gateway".toList, version := "1".toList }
  have valid : first.Valid := ⟨by decide, by decide, by decide⟩
  have valid' : second.Valid := ⟨by decide, by decide, by decide⟩
  rcases Identity.accepted_descriptor valid with ⟨descriptor, accepted, named⟩
  rcases Identity.accepted_descriptor valid' with ⟨descriptor', accepted', named'⟩
  have same : descriptor.serviceId = descriptor'.serviceId := by
    rw [(valid_of_accepted accepted).2, (valid_of_accepted accepted').2, named, named']
    rfl
  exact injective _ _ descriptor descriptor' accepted accepted' (by rw [named, named']; decide) same

end Services
end ApexQuant
