import ApexQuant.Containers.References
import ApexQuant.Foundation.Dictionary
import ApexQuant.Foundation.Json

namespace ApexQuant
namespace Containers

open Foundation

/-!
# Container policy

`compose.py`, `models.py` and `policy.py`.  Every check adds violations to one list, and
all of them are errors, so a report is ok exactly when every managed service complies
with the rules as the checks state them.  The rules look at the text of a user, of an
image and of a value under a secret key; what these texts mean is in `References`, and
the two readings part at a few kinds of text.
-/

/-! ## `compose.py` -/

/-- The `test` of a healthcheck. -/
inductive HealthcheckTest where
  | none
  | line (command : Text)
  | words (command : List Text)

structure ComposeHealthcheck where
  test : HealthcheckTest

structure ComposeService where
  name : Text
  image : Option Text
  user : Option Text
  readOnly : Bool
  privileged : Bool
  securityOpt : List Text
  capDrop : List Text
  healthcheck : Option ComposeHealthcheck
  environment : Dictionary Text Text
  networks : Finset Text
  labels : Dictionary Text Text
  deploy : Option (Dictionary Text Json)

structure ComposeDocument where
  services : Dictionary Text ComposeService

/-! ## `models.py` -/

inductive Severity where
  | error
  | warning
  deriving DecidableEq

structure Violation where
  serviceName : Text
  code : Text
  severity : Severity
  message : Text

structure VerificationReport where
  composePath : Text
  ok : Bool
  errorsCount : Nat
  warningsCount : Nat
  servicesChecked : List Text
  violations : List Violation

/-! ## `policy.py` -/

def managedLabel : Text :=
  "apexquant.managed".toList

def readOnlyExemptLabel : Text :=
  "apexquant.container.read_only_exempt".toList

def healthcheckExemptLabel : Text :=
  "apexquant.container.healthcheck_exempt".toList

def requiredLabels : List Text :=
  ["apexquant.service.name".toList, "apexquant.service.plane".toList, "apexquant.environment".toList,
    "apexquant.feature".toList, "apexquant.version".toList, "apexquant.fail_closed_policy".toList]

def secretKeyMarkers : List Text :=
  ["password".toList, "secret".toList, "token".toList, "api_key".toList, "apikey".toList, "private_key".toList,
    "credential".toList]

def rootUsers : List Text :=
  ["root".toList, "0".toList, "0:0".toList, "uid=0".toList, "uid=0 gid=0".toList]

/-- The code and the message of a violation; its service and its severity are those of
every other. -/
structure Fault where
  code : Text
  message : Text

def Fault.violation (service : ComposeService) (fault : Fault) : Violation where
  serviceName := service.name
  code := fault.code
  severity := .error
  message := fault.message

/-- A list with one fault, when there is cause for it. -/
def faultIf (cause : Prop) [Decidable cause] (code message : String) : List Fault :=
  if cause then [{ code := code.toList, message := message.toList }] else []

def verifyLabels (service : ComposeService) : List Fault :=
  requiredLabels.flatMap fun label =>
    match service.labels.get label with
    | none => [{ code := "MISSING_LABEL".toList, message := "required label is missing: ".toList ++ label }]
    | some value =>
        if Text.strip value = [] then
          [{ code := "EMPTY_LABEL".toList, message := "required label is empty: ".toList ++ label }]
        else []

def digestMark : Text :=
  "@sha256:".toList

/-- A field that is missing is as good as an empty text. -/
def verifyImage (service : ComposeService) : List Fault :=
  let image := service.image.getD []
  if image = [] then
    faultIf True "MISSING_IMAGE" "managed services must declare an explicit image"
  else if digestMark <:+: image then []
  else if ':' ∉ image then
    faultIf True "MISSING_IMAGE_TAG" "image must include an explicit version tag"
  else if Text.strip (behindColon image) = [] then
    faultIf True "EMPTY_IMAGE_TAG" "image tag must not be empty"
  else faultIf (behindColon image = latest) "LATEST_IMAGE_TAG_FORBIDDEN" "latest image tag is forbidden"

section Casing

variable (lowercasing : Text.Lowercasing) (uppercasing : Text.Uppercasing)

def normalizedUser (user : Text) : Text :=
  lowercasing.lower (Text.strip user)

def verifyUser (service : ComposeService) : List Fault :=
  let user := service.user.getD []
  if user = [] then
    faultIf True "MISSING_USER" "managed services must run as an explicit non-root user"
  else
    faultIf (normalizedUser lowercasing user ∈ rootUsers) "ROOT_USER_FORBIDDEN"
      "managed services must not run as root"

def verifyPrivilege (service : ComposeService) : List Fault :=
  faultIf (service.privileged = true) "PRIVILEGED_FORBIDDEN" "privileged containers are forbidden" ++
    faultIf ("no-new-privileges:true".toList ∉ service.securityOpt) "NO_NEW_PRIVILEGES_MISSING"
      "security_opt must include no-new-privileges:true"

def verifyCapabilities (service : ComposeService) : List Fault :=
  faultIf ("ALL".toList ∉ service.capDrop.map uppercasing.text) "CAP_DROP_ALL_MISSING" "cap_drop must include ALL" ++
    faultIf (service.readOnly = false ∧ service.labels.get readOnlyExemptLabel ≠ some "true".toList) "READ_ONLY_REQUIRED"
      "managed services must use a read-only root filesystem"

def HealthcheckTest.isEmpty : HealthcheckTest -> Bool
  | .none => true
  | .line command => command.isEmpty
  | .words command => command.isEmpty

def verifyHealthcheck (service : ComposeService) : List Fault :=
  if service.labels.get healthcheckExemptLabel = some "true".toList then []
  else
    match service.healthcheck with
    | none => faultIf True "HEALTHCHECK_MISSING" "managed services must define a healthcheck"
    | some healthcheck =>
        faultIf (healthcheck.test.isEmpty = true) "INVALID_HEALTHCHECK" "healthcheck test must not be empty"

def verifyNetworks (service : ComposeService) : List Fault :=
  if service.networks = ∅ then
    faultIf True "NETWORKS_MISSING" "managed services must attach to explicit networks"
  else
    faultIf ("default".toList ∈ service.networks) "DEFAULT_NETWORK_FORBIDDEN"
      "managed services must not use the default network"

/-- The mapping under a key, when there is one. -/
def mapping : Option Json -> Option Json
  | some (.object fields) => some (.object fields)
  | _ => none

/-- The value of a key that is there and not `None`. -/
def present : Option Json -> Bool
  | some .null => false
  | some _ => true
  | none => false

def verifyResourceLimits (service : ComposeService) : List Fault :=
  match service.deploy with
  | none => faultIf True "RESOURCE_LIMITS_MISSING" "managed services must define deploy resource limits"
  | some deploy =>
      match mapping (deploy.get "resources".toList) with
      | none => faultIf True "RESOURCE_LIMITS_MISSING" "deploy.resources must be defined"
      | some resources =>
          match mapping (resources.get "limits".toList) with
          | none => faultIf True "RESOURCE_LIMITS_MISSING" "deploy.resources.limits must be defined"
          | some limits =>
              faultIf (present (limits.get "memory".toList) = false) "MEMORY_LIMIT_MISSING"
                "memory limit must be defined" ++
                faultIf (present (limits.get "cpus".toList) = false) "CPU_LIMIT_MISSING" "CPU limit must be defined"

def secretKey (key : Text) : Prop :=
  Exists fun marker => marker ∈ secretKeyMarkers ∧ marker <:+: lowercasing.lower key

instance (key : Text) : Decidable (secretKey lowercasing key) :=
  inferInstanceAs (Decidable (Exists fun marker => marker ∈ secretKeyMarkers ∧ marker <:+: lowercasing.lower key))

def interpolated (value : Text) : Prop :=
  "$\x7b".toList <+: value ∧ "\x7d".toList <:+ value

instance (value : Text) : Decidable (interpolated value) :=
  inferInstanceAs (Decidable (_ ∧ _))

def verifyEnvironmentSecrets (service : ComposeService) : List Fault :=
  service.environment.rows.flatMap fun (key, value) =>
    if secretKey lowercasing key ∧ value ≠ [] ∧ ¬interpolated value then
      [{ code := "LITERAL_SECRET_IN_ENVIRONMENT".toList
         message := "environment variable ".toList ++ key ++ " appears to contain a literal secret".toList }]
    else []

def verifyService (service : ComposeService) : List Violation :=
  (verifyLabels service ++ verifyImage service ++ verifyUser lowercasing service ++ verifyPrivilege service ++
    verifyCapabilities uppercasing service ++ verifyHealthcheck service ++ verifyNetworks service ++
    verifyResourceLimits service ++ verifyEnvironmentSecrets lowercasing service).map (Fault.violation service)

def ComposeService.managed (service : ComposeService) : Bool :=
  service.labels.get managedLabel == some "true".toList

/-- The services that the loop does not skip, in its order. -/
def managedServices (document : ComposeDocument) : List (Text × ComposeService) :=
  (document.services.keys.insertionSort (· ≤ ·)).filterMap fun name =>
    ((document.services.get name).filter ComposeService.managed).map fun service => (name, service)

def countOf (severity : Severity) (violations : List Violation) : Nat :=
  (violations.filter fun violation => decide (violation.severity = severity)).length

def verifyDocument (document : ComposeDocument) (strictWarnings : Bool) : VerificationReport :=
  let violations := (managedServices document).flatMap fun checked => verifyService lowercasing uppercasing checked.2
  { composePath := []
    ok := countOf .error violations == 0 && (!strictWarnings || countOf .warning violations == 0)
    errorsCount := countOf .error violations
    warningsCount := countOf .warning violations
    servicesChecked := (managedServices document).map Prod.fst
    violations := violations }

/-! ## The rules as the checks state them -/

theorem faultIf_eq_nil_iff {cause : Prop} [Decidable cause] {code message : String} :
    faultIf cause code message = [] <-> ¬cause := by
  simp [faultIf]

/-- The image names a digest, or something stands behind its first colon that is not
`latest`. -/
structure CompliantImage (image : Text) : Prop where
  nonempty : image ≠ []
  marked : ¬digestMark <:+: image -> ':' ∈ image ∧ Text.strip (behindColon image) ≠ [] ∧ behindColon image ≠ latest

structure CompliantLimits (deploy : Dictionary Text Json) (resources limits : Json) : Prop where
  inDeploy : mapping (deploy.get "resources".toList) = some resources
  inResources : mapping (resources.get "limits".toList) = some limits
  memory : present (limits.get "memory".toList) = true
  cpus : present (limits.get "cpus".toList) = true

/-- What a managed service has to be. -/
structure Compliant (service : ComposeService) : Prop where
  labels : forall label, label ∈ requiredLabels ->
    Exists fun value => service.labels.get label = some value ∧ Text.strip value ≠ []
  image : CompliantImage (service.image.getD [])
  user : service.user.getD [] ≠ []
  notRoot : normalizedUser lowercasing (service.user.getD []) ∉ rootUsers
  unprivileged : service.privileged = false
  noNewPrivileges : "no-new-privileges:true".toList ∈ service.securityOpt
  dropsAll : "ALL".toList ∈ service.capDrop.map uppercasing.text
  readOnly : service.readOnly = true ∨ service.labels.get readOnlyExemptLabel = some "true".toList
  healthcheck : service.labels.get healthcheckExemptLabel = some "true".toList ∨
    Exists fun healthcheck => service.healthcheck = some healthcheck ∧ healthcheck.test.isEmpty = false
  networks : service.networks ≠ ∅
  ownNetworks : "default".toList ∉ service.networks
  limits : Exists fun deploy => service.deploy = some deploy ∧
    Exists fun resources => Exists fun limits => CompliantLimits deploy resources limits
  secrets : forall key value, (key, value) ∈ service.environment.rows -> secretKey lowercasing key -> value ≠ [] ->
    interpolated value

theorem verifyLabels_eq_nil_iff {service : ComposeService} :
    verifyLabels service = [] <-> forall label, label ∈ requiredLabels ->
      Exists fun value => service.labels.get label = some value ∧ Text.strip value ≠ [] := by
  rw [verifyLabels, List.flatMap_eq_nil_iff]
  refine forall₂_congr fun label _ => ?_
  cases service.labels.get label with
  | none =>
      refine iff_of_false (List.cons_ne_nil _ _) ?_
      rintro ⟨value, held, _⟩
      cases held
  | some value =>
      by_cases blank : Text.strip value = []
      · refine iff_of_false (fun silent => List.cons_ne_nil _ _ ((if_pos blank).symm.trans silent)) ?_
        rintro ⟨_, held, kept⟩
        cases held
        exact kept blank
      · exact iff_of_true (if_neg blank) ⟨value, rfl, blank⟩

theorem verifyImage_eq_nil_iff {service : ComposeService} :
    verifyImage service = [] <-> CompliantImage (service.image.getD []) := by
  simp only [verifyImage]
  generalize service.image.getD [] = image
  by_cases empty : image = []
  · rw [if_pos empty, faultIf_eq_nil_iff]
    exact iff_of_false (fun absent => absent trivial) fun compliant => compliant.nonempty empty
  · rw [if_neg empty]
    by_cases marked : digestMark <:+: image
    · rw [if_pos marked]
      exact iff_of_true rfl ⟨empty, fun unmarked => absurd marked unmarked⟩
    · rw [if_neg marked]
      by_cases colon : ':' ∈ image
      · rw [if_neg (not_not_intro colon)]
        by_cases blank : Text.strip (behindColon image) = []
        · rw [if_pos blank, faultIf_eq_nil_iff]
          exact iff_of_false (fun absent => absent trivial) fun compliant => (compliant.marked marked).2.1 blank
        · rw [if_neg blank, faultIf_eq_nil_iff]
          exact ⟨fun other => ⟨empty, fun _ => ⟨colon, blank, other⟩⟩, fun compliant => (compliant.marked marked).2.2⟩
      · rw [if_pos colon, faultIf_eq_nil_iff]
        exact iff_of_false (fun absent => absent trivial) fun compliant => colon (compliant.marked marked).1

theorem verifyUser_eq_nil_iff {service : ComposeService} :
    verifyUser lowercasing service = [] <-> service.user.getD [] ≠ [] ∧
      normalizedUser lowercasing (service.user.getD []) ∉ rootUsers := by
  simp only [verifyUser]
  by_cases empty : service.user.getD [] = []
  · rw [if_pos empty, faultIf_eq_nil_iff]
    exact iff_of_false (fun absent => absent trivial) fun compliant => compliant.1 empty
  · rw [if_neg empty, faultIf_eq_nil_iff]
    exact (and_iff_right empty).symm

theorem verifyPrivilege_eq_nil_iff {service : ComposeService} :
    verifyPrivilege service = [] <-> service.privileged = false ∧
      "no-new-privileges:true".toList ∈ service.securityOpt := by
  rw [verifyPrivilege, List.append_eq_nil_iff, faultIf_eq_nil_iff, faultIf_eq_nil_iff, not_not, Bool.not_eq_true]

theorem verifyCapabilities_eq_nil_iff {service : ComposeService} :
    verifyCapabilities uppercasing service = [] <-> "ALL".toList ∈ service.capDrop.map uppercasing.text ∧
      (service.readOnly = true ∨ service.labels.get readOnlyExemptLabel = some "true".toList) := by
  rw [verifyCapabilities, List.append_eq_nil_iff, faultIf_eq_nil_iff, faultIf_eq_nil_iff, not_not, not_and_or, not_not,
    Bool.not_eq_false]

theorem verifyHealthcheck_eq_nil_iff {service : ComposeService} :
    verifyHealthcheck service = [] <-> service.labels.get healthcheckExemptLabel = some "true".toList ∨
      Exists fun healthcheck => service.healthcheck = some healthcheck ∧ healthcheck.test.isEmpty = false := by
  rw [verifyHealthcheck]
  by_cases exempt : service.labels.get healthcheckExemptLabel = some "true".toList
  · rw [if_pos exempt]
    exact iff_of_true rfl (Or.inl exempt)
  · rw [if_neg exempt, or_iff_right exempt]
    cases service.healthcheck with
    | none => simp [faultIf_eq_nil_iff]
    | some healthcheck => simp [faultIf_eq_nil_iff]

theorem verifyNetworks_eq_nil_iff {service : ComposeService} :
    verifyNetworks service = [] <-> service.networks ≠ ∅ ∧ "default".toList ∉ service.networks := by
  rw [verifyNetworks]
  by_cases empty : service.networks = ∅
  · rw [if_pos empty, faultIf_eq_nil_iff]
    exact iff_of_false (fun absent => absent trivial) fun compliant => compliant.1 empty
  · rw [if_neg empty, faultIf_eq_nil_iff]
    exact (and_iff_right empty).symm

theorem verifyResourceLimits_eq_nil_iff {service : ComposeService} :
    verifyResourceLimits service = [] <-> Exists fun deploy => service.deploy = some deploy ∧
      Exists fun resources => Exists fun limits => CompliantLimits deploy resources limits := by
  rw [verifyResourceLimits]
  cases service.deploy with
  | none => simp [faultIf_eq_nil_iff]
  | some deploy =>
      cases inDeploy : mapping (deploy.get "resources".toList) with
      | none =>
          refine iff_of_false ?_ ?_
          · simp only [inDeploy, faultIf_eq_nil_iff, not_true_eq_false, not_false_eq_true]
          · rintro ⟨_, same, resources, limits, compliant⟩
            cases same
            cases inDeploy.symm.trans compliant.inDeploy
      | some resources =>
          cases inResources : mapping (resources.get "limits".toList) with
          | none =>
              refine iff_of_false ?_ ?_
              · simp only [inDeploy, inResources, faultIf_eq_nil_iff, not_true_eq_false, not_false_eq_true]
              · rintro ⟨_, same, _, limits, compliant⟩
                cases same
                cases inDeploy.symm.trans compliant.inDeploy
                cases inResources.symm.trans compliant.inResources
          | some limits =>
              simp only [inDeploy, inResources, List.append_eq_nil_iff, faultIf_eq_nil_iff, Bool.not_eq_false]
              constructor
              · rintro ⟨memory, cpus⟩
                exact ⟨deploy, rfl, resources, limits, inDeploy, inResources, memory, cpus⟩
              · rintro ⟨_, same, _, _, compliant⟩
                cases same
                cases inDeploy.symm.trans compliant.inDeploy
                cases inResources.symm.trans compliant.inResources
                exact ⟨compliant.memory, compliant.cpus⟩

theorem verifyEnvironmentSecrets_eq_nil_iff {service : ComposeService} :
    verifyEnvironmentSecrets lowercasing service = [] <->
      forall key value, (key, value) ∈ service.environment.rows -> secretKey lowercasing key -> value ≠ [] ->
        interpolated value := by
  rw [verifyEnvironmentSecrets, List.flatMap_eq_nil_iff]
  constructor
  · intro silent key value listed secret nonempty
    by_contra literal
    exact List.cons_ne_nil _ _ ((if_pos ⟨secret, nonempty, literal⟩).symm.trans (silent (key, value) listed))
  · rintro keeps ⟨key, value⟩ listed
    refine if_neg ?_
    rintro ⟨secret, nonempty, literal⟩
    exact literal (keeps key value listed secret nonempty)

/-- The verifier reports nothing about a service exactly when it complies. -/
theorem verifyService_eq_nil_iff {service : ComposeService} :
    verifyService lowercasing uppercasing service = [] <-> Compliant lowercasing uppercasing service := by
  simp only [verifyService, List.map_eq_nil_iff, List.append_eq_nil_iff, verifyLabels_eq_nil_iff, verifyImage_eq_nil_iff,
    verifyUser_eq_nil_iff, verifyPrivilege_eq_nil_iff, verifyCapabilities_eq_nil_iff, verifyHealthcheck_eq_nil_iff,
    verifyNetworks_eq_nil_iff, verifyResourceLimits_eq_nil_iff, verifyEnvironmentSecrets_eq_nil_iff]
  constructor
  · rintro ⟨⟨⟨⟨⟨⟨⟨⟨labels, image⟩, user, notRoot⟩, unprivileged, noNewPrivileges⟩, dropsAll, readOnly⟩, healthcheck⟩,
      networks, ownNetworks⟩, limits⟩, secrets⟩
    exact ⟨labels, image, user, notRoot, unprivileged, noNewPrivileges, dropsAll, readOnly, healthcheck, networks,
      ownNetworks, limits, secrets⟩
  · intro compliant
    exact ⟨⟨⟨⟨⟨⟨⟨⟨compliant.labels, compliant.image⟩, compliant.user, compliant.notRoot⟩, compliant.unprivileged,
      compliant.noNewPrivileges⟩, compliant.dropsAll, compliant.readOnly⟩, compliant.healthcheck⟩, compliant.networks,
      compliant.ownNetworks⟩, compliant.limits⟩, compliant.secrets⟩

/-- A service of the document that the verifier looks at. -/
def Managed (document : ComposeDocument) (service : ComposeService) : Prop :=
  (Exists fun name => (name, service) ∈ document.services.rows) ∧ service.managed = true

theorem mem_managedServices_iff {document : ComposeDocument} {service : ComposeService} :
    (Exists fun name => (name, service) ∈ managedServices document) <-> Managed document service := by
  constructor
  · rintro ⟨name, checked⟩
    rcases List.mem_filterMap.mp checked with ⟨key, _, found⟩
    rcases Option.map_eq_some_iff.mp found with ⟨held, kept, same⟩
    cases same
    rcases Option.filter_eq_some_iff.mp kept with ⟨stored, managed⟩
    exact ⟨⟨name, Dictionary.mem_of_get stored⟩, managed⟩
  · rintro ⟨⟨name, listed⟩, managed⟩
    refine ⟨name, List.mem_filterMap.mpr ⟨name, ?_, ?_⟩⟩
    · exact (List.mem_insertionSort (· ≤ ·)).mpr (List.mem_map_of_mem listed)
    · rw [Dictionary.get_of_mem listed, Option.filter_some, if_pos managed, Option.map_some]

theorem severity_of_mem_verifyService {service : ComposeService} {violation : Violation}
    (reported : violation ∈ verifyService lowercasing uppercasing service) : violation.severity = .error := by
  rcases List.mem_map.mp reported with ⟨fault, _, rfl⟩
  rfl

/-- A report is ok, strict or not, exactly when every managed service complies. -/
theorem verifyDocument_ok_iff {document : ComposeDocument} {strictWarnings : Bool} :
    (verifyDocument lowercasing uppercasing document strictWarnings).ok = true <->
      forall service, Managed document service -> Compliant lowercasing uppercasing service := by
  have errors : forall violation, violation ∈ ((managedServices document).flatMap fun checked =>
      verifyService lowercasing uppercasing checked.2) -> violation.severity = .error := by
    intro violation reported
    rcases List.mem_flatMap.mp reported with ⟨checked, _, found⟩
    exact severity_of_mem_verifyService lowercasing uppercasing found
  have counted : (verifyDocument lowercasing uppercasing document strictWarnings).ok = true <->
      ((managedServices document).flatMap fun checked => verifyService lowercasing uppercasing checked.2) = [] := by
    simp only [verifyDocument]
    generalize ((managedServices document).flatMap fun checked => verifyService lowercasing uppercasing checked.2) =
      violations at errors ⊢
    have all : countOf .error violations = violations.length := by
      rw [countOf, List.filter_eq_self.mpr fun violation reported => decide_eq_true (errors violation reported)]
    have none : countOf .warning violations = 0 := by
      rw [countOf, List.filter_eq_nil_iff.mpr, List.length_nil]
      intro violation reported
      rw [errors violation reported]
      decide
    rw [all, none, beq_self_eq_true, Bool.or_true, Bool.and_true, beq_iff_eq, List.length_eq_zero_iff]
  rw [counted, List.flatMap_eq_nil_iff]
  constructor
  · intro silent service managed
    rcases mem_managedServices_iff.mpr managed with ⟨name, checked⟩
    exact (verifyService_eq_nil_iff lowercasing uppercasing).mp (silent _ checked)
  · rintro compliant ⟨name, service⟩ checked
    exact (verifyService_eq_nil_iff lowercasing uppercasing).mpr
      (compliant service (mem_managedServices_iff.mp ⟨name, checked⟩))

end Casing
end Containers
end ApexQuant
