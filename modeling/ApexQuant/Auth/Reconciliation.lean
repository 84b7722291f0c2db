import ApexQuant.Auth.Store

namespace ApexQuant
namespace Auth

open Foundation

/-!
# The reconciliation sweep

`reconciliation.py`: a sweep reads the principals, their roles and their direct
grants, detects what breaks the invariant of the matrix and deletes the
assignments behind it.  The sweep decides from what it read at its start; the
deletions follow in the order of the violations.
-/

/-! ## Detection -/

inductive ViolationCategory where
  | forbiddenPermission
  | unprovisioned
  deriving DecidableEq, Repr

/-- `Violation`. -/
structure RbacViolation where
  principalId : Id
  category : ViolationCategory
  detail : Text
  deriving DecidableEq

/-- An entry of `assignments`: a permission and the role it comes from, if any. -/
structure Assignment where
  roleId : Option Id
  permission : Text
  deriving DecidableEq

/-- What the sweep knows about a principal. -/
structure PrincipalEntry where
  principalId : Id
  plane : Text
  subject : Text
  rolePermissions : List Text
  directGrants : List Text
  roleCount : Nat
  assignments : List Assignment

/-- The violations of one effective permission on a restricted plane. -/
def forbiddenViolations (entry : PrincipalEntry) (perm : Text) : List RbacViolation :=
  let report (shown : Text) : RbacViolation :=
    { principalId := entry.principalId
      category := .forbiddenPermission
      detail := "plane=".toList ++ entry.plane ++ " subject=".toList ++ entry.subject ++ " permission=".toList ++ shown }
  if perm = wildcard then [report wildcard]
  else ((Rbac.forbiddenPatterns forbiddenMatrix entry.plane).filter (Rbac.overlaps perm)).map fun _ => report perm

/-- The body of the loop in `detect_violations`. -/
def entryViolations (entry : PrincipalEntry) : List RbacViolation :=
  (if Rbac.isRestricted forbiddenMatrix entry.plane then
    (entry.rolePermissions ++ entry.directGrants).flatMap (forbiddenViolations entry)
  else []) ++
  (if entry.roleCount = 0 ∧ entry.directGrants ≠ [] then
    [{ principalId := entry.principalId
       category := .unprovisioned
       detail := "subject=".toList ++ entry.subject ++ " has ".toList ++
         (toString entry.directGrants.length).toList ++ " direct grants but no roles".toList }]
  else [])

/-- `detect_violations`. -/
def detectViolations (assignments : List PrincipalEntry) : List RbacViolation :=
  assignments.flatMap entryViolations

/-! ## Remediation -/

/-- The `assignments` that `reconcile_and_remediate` builds from its three queries. -/
def AuthStore.entries (store : AuthStore) : List PrincipalEntry :=
  store.principals.rows.map fun principal =>
    let roles := store.principalRoles.rows.filter fun role => decide (role.principalId = principal.principalId)
    let fromRoles : List Assignment := roles.flatMap fun role =>
      (store.rolePermissions.rows.filter fun row => decide (row.roleId = role.roleId)).map fun row =>
        { roleId := some role.roleId, permission := row.permission }
    let direct : List Assignment :=
      (store.grants.rows.filter fun grant => decide (grant.principalId = principal.principalId)).map fun grant =>
        { roleId := none, permission := grant.permission }
    { principalId := principal.principalId
      plane := principal.plane.value
      subject := principal.subjectName
      rolePermissions := fromRoles.map Assignment.permission
      directGrants := direct.map Assignment.permission
      roleCount := (roles.map PrincipalRole.roleId).dedup.length
      assignments := fromRoles ++ direct }

inductive RemediationAction where
  | autoRevokeRole
  | autoRevokeGrant
  deriving DecidableEq, Repr

/-- A row of `auth.rbac_remediations`, with the violation it answers. -/
structure Remediation where
  violation : RbacViolation
  action : RemediationAction
  detail : Text
  deriving DecidableEq

/-- A `MACHINE_REMEDIATION` row of `auth.rbac_audit`. -/
structure MachineRemediation where
  principalId : Id
  permission : Text
  deriving DecidableEq

/-- The store under the sweep, and the rows that the sweep writes about itself. -/
structure Sweep where
  store : AuthStore
  remediations : List Remediation
  audit : List MachineRemediation

/-- The test of an assignment in `reconcile_and_remediate`. -/
def isBad (plane perm : Text) : Bool :=
  decide (perm = wildcard) || (Rbac.forbiddenPatterns forbiddenMatrix plane).any (Rbac.overlaps perm)

def AuthStore.deleteRole (store : AuthStore) (principalId roleId : Id) : AuthStore :=
  { store with
    principalRoles := store.principalRoles.filter fun row =>
      !(decide (row.principalId = principalId) && decide (row.roleId = roleId)) }

def AuthStore.deleteGrant (store : AuthStore) (principalId : Id) (permission : Text) : AuthStore :=
  { store with
    grants := store.grants.filter fun row =>
      !(decide (row.principalId = principalId) && decide (row.permission = permission)) }

def AuthStore.deleteGrants (store : AuthStore) (principalId : Id) : AuthStore :=
  { store with grants := store.grants.filter fun row => !decide (row.principalId = principalId) }

/-- The body of the loop over a principal's assignments. -/
def revokeAssignment (violation : RbacViolation) (plane : Text) (sweep : Sweep) (assignment : Assignment) : Sweep :=
  if isBad plane assignment.permission then
    let row (action : RemediationAction) : Remediation :=
      { violation := violation, action := action, detail := "permission=".toList ++ assignment.permission }
    let audit := sweep.audit ++ [{ principalId := violation.principalId, permission := assignment.permission }]
    match assignment.roleId with
    | some roleId =>
        { store := sweep.store.deleteRole violation.principalId roleId
          remediations := sweep.remediations ++ [row .autoRevokeRole]
          audit := audit }
    | none =>
        { store := sweep.store.deleteGrant violation.principalId assignment.permission
          remediations := sweep.remediations ++ [row .autoRevokeGrant]
          audit := audit }
  else sweep

/-- The body of the loop over the violations. -/
def remediate (entries : List PrincipalEntry) (sweep : Sweep) (violation : RbacViolation) : Sweep :=
  match violation.category with
  | .forbiddenPermission =>
      match entries.find? fun entry => decide (entry.principalId = violation.principalId) with
      | none => sweep
      | some entry => entry.assignments.foldl (revokeAssignment violation entry.plane) sweep
  | .unprovisioned =>
      { sweep with
        store := sweep.store.deleteGrants violation.principalId
        remediations := sweep.remediations ++
          [{ violation := violation, action := .autoRevokeGrant, detail := "unprovisioned direct grants".toList }] }

/-- `reconcile_and_remediate`, completed. -/
def reconcileAndRemediate (store : AuthStore) : List RbacViolation × Sweep :=
  let entries := store.entries
  let violations := detectViolations entries
  (violations, violations.foldl (remediate entries) { store := store, remediations := [], audit := [] })

/-! ## A sweep only takes away -/

/-- Nothing but role assignments and direct grants has gone. -/
structure AuthStore.Reduced (before after : AuthStore) : Prop where
  principals : after.principals = before.principals
  credentials : after.credentials = before.credentials
  rolePermissions : after.rolePermissions = before.rolePermissions
  events : after.events = before.events
  grants : forall grant, grant ∈ after.grants -> grant ∈ before.grants
  principalRoles : forall role, role ∈ after.principalRoles -> role ∈ before.principalRoles

namespace AuthStore.Reduced

theorem refl (store : AuthStore) : store.Reduced store :=
  ⟨rfl, rfl, rfl, rfl, fun _ member => member, fun _ member => member⟩

theorem trans {first second third : AuthStore} (earlier : first.Reduced second) (later : second.Reduced third) :
    first.Reduced third where
  principals := later.principals.trans earlier.principals
  credentials := later.credentials.trans earlier.credentials
  rolePermissions := later.rolePermissions.trans earlier.rolePermissions
  events := later.events.trans earlier.events
  grants := fun grant member => earlier.grants grant (later.grants grant member)
  principalRoles := fun role member => earlier.principalRoles role (later.principalRoles role member)

theorem deleteRole (store : AuthStore) (principalId roleId : Id) :
    store.Reduced (store.deleteRole principalId roleId) :=
  { refl store with principalRoles := fun _ member => (Table.mem_filter.mp member).1 }

theorem deleteGrant (store : AuthStore) (principalId : Id) (permission : Text) :
    store.Reduced (store.deleteGrant principalId permission) :=
  { refl store with grants := fun _ member => (Table.mem_filter.mp member).1 }

theorem deleteGrants (store : AuthStore) (principalId : Id) : store.Reduced (store.deleteGrants principalId) :=
  { refl store with grants := fun _ member => (Table.mem_filter.mp member).1 }

theorem revokeAssignment (violation : RbacViolation) (plane : Text) (sweep : Sweep) (assignment : Assignment) :
    sweep.store.Reduced (revokeAssignment violation plane sweep assignment).store := by
  unfold Auth.revokeAssignment
  split
  · cases assignment.roleId with
    | none => exact deleteGrant _ _ _
    | some roleId => exact deleteRole _ _ _
  · exact refl _

theorem foldl {A : Type} {step : Sweep -> A -> Sweep}
    (reduces : forall (sweep : Sweep) (item : A), sweep.store.Reduced (step sweep item).store) (items : List A)
    (sweep : Sweep) :
    sweep.store.Reduced (items.foldl step sweep).store := by
  induction items generalizing sweep with
  | nil => exact refl _
  | cons item items inductionHypothesis => exact (reduces sweep item).trans (inductionHypothesis _)

theorem remediate (entries : List PrincipalEntry) (sweep : Sweep) (violation : RbacViolation) :
    sweep.store.Reduced (remediate entries sweep violation).store := by
  unfold Auth.remediate
  split
  · split
    · exact refl _
    · exact foldl (revokeAssignment _ _) _ _
  · exact deleteGrants _ _

/-- A completed sweep adds nothing to the store. -/
theorem reconcileAndRemediate (store : AuthStore) : store.Reduced (reconcileAndRemediate store).2.store :=
  foldl (remediate _) _ { store := store, remediations := [], audit := [] }

end AuthStore.Reduced
end Auth
end ApexQuant
