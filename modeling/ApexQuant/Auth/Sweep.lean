import ApexQuant.Auth.GrantSoundness
import ApexQuant.Auth.Reconciliation

namespace ApexQuant
namespace Auth

open Foundation

/-!
# What one sweep leaves

A sweep deletes what the violations that it has read up say, one after the other.
Taken together it deletes the roles with a forbidden permission and the forbidden
direct grants of the principals on a restricted plane, and every direct grant of a
principal that had no role when the sweep began.  A principal that has a role only
until its roles are deleted is not among these: its other grants are left, without a
role beside them, and the next sweep finds them.
-/

/-! ## One principal -/

/-- The roles of a principal. -/
def AuthStore.rolesOf (store : AuthStore) (principal : Principal) : List PrincipalRole :=
  store.principalRoles.rows.filter fun role => decide (role.principalId = principal.principalId)

/-- The direct grants of a principal. -/
def AuthStore.grantsOf (store : AuthStore) (principal : Principal) : List PermissionGrant :=
  store.grants.rows.filter fun grant => decide (grant.principalId = principal.principalId)

/-- The permissions of a role. -/
def AuthStore.permissionsOf (store : AuthStore) (roleId : Id) : List RolePermission :=
  store.rolePermissions.rows.filter fun row => decide (row.roleId = roleId)

/-- What a principal has through its roles. -/
def AuthStore.roleAssignments (store : AuthStore) (principal : Principal) : List Assignment :=
  (store.rolesOf principal).flatMap fun role =>
    (store.permissionsOf role.roleId).map fun row => { roleId := some role.roleId, permission := row.permission }

/-- What a principal has directly. -/
def AuthStore.grantAssignments (store : AuthStore) (principal : Principal) : List Assignment :=
  (store.grantsOf principal).map fun grant => { roleId := none, permission := grant.permission }

/-- What the sweep reads up about one principal. -/
def AuthStore.entry (store : AuthStore) (principal : Principal) : PrincipalEntry where
  principalId := principal.principalId
  plane := principal.plane.value
  subject := principal.subjectName
  rolePermissions := (store.roleAssignments principal).map Assignment.permission
  directGrants := (store.grantAssignments principal).map Assignment.permission
  roleCount := ((store.rolesOf principal).map PrincipalRole.roleId).dedup.length
  assignments := store.roleAssignments principal ++ store.grantAssignments principal

theorem AuthStore.entries_eq (store : AuthStore) : store.entries = store.principals.rows.map store.entry := rfl

theorem AuthStore.mem_rolesOf {store : AuthStore} {principal : Principal} {role : PrincipalRole} :
    role ∈ store.rolesOf principal <-> role ∈ store.principalRoles ∧ role.principalId = principal.principalId := by
  rw [rolesOf, List.mem_filter, decide_eq_true_eq]
  rfl

theorem AuthStore.mem_grantsOf {store : AuthStore} {principal : Principal} {grant : PermissionGrant} :
    grant ∈ store.grantsOf principal <-> grant ∈ store.grants ∧ grant.principalId = principal.principalId := by
  rw [grantsOf, List.mem_filter, decide_eq_true_eq]
  rfl

theorem AuthStore.mem_roleAssignments {store : AuthStore} {principal : Principal} {assignment : Assignment} :
    assignment ∈ store.roleAssignments principal <->
      Exists fun role => role ∈ store.rolesOf principal ∧ Exists fun row => row ∈ store.permissionsOf role.roleId ∧
        { roleId := some role.roleId, permission := row.permission } = assignment := by
  simp only [roleAssignments, List.mem_flatMap, List.mem_map]

theorem AuthStore.mem_grantAssignments {store : AuthStore} {principal : Principal} {assignment : Assignment} :
    assignment ∈ store.grantAssignments principal <->
      Exists fun grant => grant ∈ store.grantsOf principal ∧
        { roleId := none, permission := grant.permission } = assignment := by
  simp only [grantAssignments, List.mem_map]

theorem AuthStore.find_entry {store : AuthStore} {principal : Principal} (known : principal ∈ store.principals) :
    (store.entries.find? fun entry => decide (entry.principalId = principal.principalId)) =
      some (store.entry principal) := by
  have found := Table.find_of_mem known
  rw [Table.find] at found
  rw [entries_eq, List.find?_map]
  change Option.map store.entry (store.principals.rows.find? fun row => _) = _
  exact congrArg (Option.map store.entry) found

/-- No role is counted exactly when there is none. -/
theorem AuthStore.roleCount_eq_zero_iff (store : AuthStore) (principal : Principal) :
    (store.entry principal).roleCount = 0 <-> store.rolesOf principal = [] := by
  change ((store.rolesOf principal).map PrincipalRole.roleId).dedup.length = 0 <-> _
  rw [List.length_eq_zero_iff, List.dedup_eq_nil, List.map_eq_nil_iff]

theorem AuthStore.directGrants_eq_nil_iff (store : AuthStore) (principal : Principal) :
    (store.entry principal).directGrants = [] <-> store.grantsOf principal = [] := by
  change ((store.grantAssignments principal).map Assignment.permission) = [] <-> _
  rw [List.map_eq_nil_iff, grantAssignments, List.map_eq_nil_iff]

theorem AuthStore.effective_eq (store : AuthStore) (principal : Principal) :
    (store.entry principal).rolePermissions ++ (store.entry principal).directGrants =
      (store.entry principal).assignments.map Assignment.permission :=
  List.map_append.symm

/-! ## Its violations -/

/-- How often a permission is reported on a restricted plane. -/
def offences (plane perm : Text) : Nat :=
  if perm = wildcard then 1 else ((Rbac.forbiddenPatterns forbiddenMatrix plane).filter (Rbac.overlaps perm)).length

theorem isBad_iff_offences_pos (plane perm : Text) : isBad plane perm = true <-> 0 < offences plane perm := by
  unfold isBad offences
  split
  · rename_i whole
    simp [whole]
  · rename_i proper
    rw [decide_eq_false proper, Bool.false_or, List.any_eq_true, List.length_pos_iff_exists_mem]
    simp only [List.mem_filter]

theorem length_forbiddenViolations (entry : PrincipalEntry) (perm : Text) :
    (forbiddenViolations entry perm).length = offences entry.plane perm := by
  unfold forbiddenViolations offences
  dsimp only
  split
  · rfl
  · rw [List.length_map]

theorem mem_forbiddenViolations {entry : PrincipalEntry} {perm : Text} {violation : RbacViolation}
    (reported : violation ∈ forbiddenViolations entry perm) :
    violation.principalId = entry.principalId ∧ violation.category = .forbiddenPermission := by
  unfold forbiddenViolations at reported
  dsimp only at reported
  split at reported
  · rw [List.mem_singleton.mp reported]
    exact ⟨rfl, rfl⟩
  · rcases List.mem_map.mp reported with ⟨-, -, same⟩
    rw [← same]
    exact ⟨rfl, rfl⟩

/-- The forbidden permissions of a principal are reported. -/
def PrincipalEntry.forbidden (entry : PrincipalEntry) : List RbacViolation :=
  if Rbac.isRestricted forbiddenMatrix entry.plane then
    (entry.rolePermissions ++ entry.directGrants).flatMap (forbiddenViolations entry)
  else []

/-- A principal without roles is reported when it has direct grants. -/
def PrincipalEntry.unprovisioned (entry : PrincipalEntry) : List RbacViolation :=
  if entry.roleCount = 0 ∧ entry.directGrants ≠ [] then
    [{ principalId := entry.principalId
       category := .unprovisioned
       detail := "subject=".toList ++ entry.subject ++ " has ".toList ++
         (toString entry.directGrants.length).toList ++ " direct grants but no roles".toList }]
  else []

theorem entryViolations_eq (entry : PrincipalEntry) : entryViolations entry = entry.forbidden ++ entry.unprovisioned :=
  rfl

theorem PrincipalEntry.mem_forbidden {entry : PrincipalEntry} {violation : RbacViolation}
    (reported : violation ∈ entry.forbidden) :
    violation.principalId = entry.principalId ∧ violation.category = .forbiddenPermission := by
  unfold PrincipalEntry.forbidden at reported
  split at reported
  · rcases List.mem_flatMap.mp reported with ⟨perm, -, found⟩
    exact mem_forbiddenViolations found
  · exact absurd reported List.not_mem_nil

theorem PrincipalEntry.mem_unprovisioned {entry : PrincipalEntry} {violation : RbacViolation}
    (reported : violation ∈ entry.unprovisioned) :
    violation.principalId = entry.principalId ∧ violation.category = .unprovisioned := by
  unfold PrincipalEntry.unprovisioned at reported
  split at reported
  · rw [List.mem_singleton.mp reported]
    exact ⟨rfl, rfl⟩
  · exact absurd reported List.not_mem_nil

theorem PrincipalEntry.principalId_of_mem {entry : PrincipalEntry} {violation : RbacViolation}
    (reported : violation ∈ entryViolations entry) : violation.principalId = entry.principalId := by
  rcases List.mem_append.mp reported with forbidden | unprovisioned
  · exact (mem_forbidden forbidden).1
  · exact (mem_unprovisioned unprovisioned).1

theorem PrincipalEntry.forbidden_ne_nil_iff (entry : PrincipalEntry) :
    entry.forbidden ≠ [] <-> Rbac.isRestricted forbiddenMatrix entry.plane = true ∧
      Exists fun perm => perm ∈ entry.rolePermissions ++ entry.directGrants ∧ isBad entry.plane perm = true := by
  unfold PrincipalEntry.forbidden
  split
  · rename_i restricted
    rw [ne_eq, List.flatMap_eq_nil_iff]
    push Not
    simp only [restricted, true_and]
    refine exists_congr fun perm => and_congr_right fun _ => ?_
    rw [isBad_iff_offences_pos, ← length_forbiddenViolations, List.length_pos_iff]
  · rename_i unrestricted
    exact iff_of_false (fun absent => absent rfl) fun both => unrestricted both.1

theorem PrincipalEntry.unprovisioned_ne_nil_iff (entry : PrincipalEntry) :
    entry.unprovisioned ≠ [] <-> entry.roleCount = 0 ∧ entry.directGrants ≠ [] := by
  unfold PrincipalEntry.unprovisioned
  split
  · rename_i both
    exact iff_of_true (List.cons_ne_nil _ _) both
  · rename_i neither
    exact iff_of_false (fun absent => absent rfl) neither

theorem mem_detectViolations {store : AuthStore} {violation : RbacViolation} :
    violation ∈ detectViolations store.entries <->
      Exists fun principal => principal ∈ store.principals ∧ violation ∈ entryViolations (store.entry principal) := by
  rw [detectViolations, AuthStore.entries_eq, List.mem_flatMap]
  constructor
  · rintro ⟨entry, listed, reported⟩
    rcases List.mem_map.mp listed with ⟨principal, known, same⟩
    exact ⟨principal, known, same ▸ reported⟩
  · rintro ⟨principal, known, reported⟩
    exact ⟨_, List.mem_map_of_mem known, reported⟩

/-! ## The effect of a sweep -/

/-- The store without the assignments that two conditions single out. -/
def AuthStore.without (store : AuthStore) (roles : PrincipalRole -> Bool) (grants : PermissionGrant -> Bool) :
    AuthStore :=
  { store with
    principalRoles := store.principalRoles.filter fun row => !roles row
    grants := store.grants.filter fun row => !grants row }

theorem AuthStore.without_nothing (store : AuthStore) : store.without (fun _ => false) (fun _ => false) = store := by
  have roles : store.principalRoles.filter (fun _ => !false) = store.principalRoles :=
    Table.ext_rows (List.filter_eq_self.mpr fun _ _ => rfl)
  have grants : store.grants.filter (fun _ => !false) = store.grants :=
    Table.ext_rows (List.filter_eq_self.mpr fun _ _ => rfl)
  rw [without, roles, grants]

theorem AuthStore.without_without (store : AuthStore) (roles roles' : PrincipalRole -> Bool)
    (grants grants' : PermissionGrant -> Bool) :
    (store.without roles grants).without roles' grants' =
      store.without (fun row => roles row || roles' row) (fun row => grants row || grants' row) := by
  have first : (store.principalRoles.filter fun row => !roles row).filter (fun row => !roles' row) =
      store.principalRoles.filter fun row => !(roles row || roles' row) := by
    apply Table.ext_rows
    simp only [Table.filter, List.filter_filter, Bool.not_or, Bool.and_comm]
  have second : (store.grants.filter fun row => !grants row).filter (fun row => !grants' row) =
      store.grants.filter fun row => !(grants row || grants' row) := by
    apply Table.ext_rows
    simp only [Table.filter, List.filter_filter, Bool.not_or, Bool.and_comm]
  rw [without, without, without, first, second]

/-- The role assignment of a principal that an assignment rests on. -/
def Assignment.restsOnRole (principalId : Id) (assignment : Assignment) (row : PrincipalRole) : Bool :=
  decide (row.principalId = principalId) && decide (assignment.roleId = some row.roleId)

/-- The direct grant of a principal that an assignment is. -/
def Assignment.isGrant (principalId : Id) (assignment : Assignment) (row : PermissionGrant) : Bool :=
  decide (row.principalId = principalId) && (assignment.roleId.isNone && decide (assignment.permission = row.permission))

/-- The assignments that a violation has its principal lose. -/
def PrincipalEntry.bad (entry : PrincipalEntry) : List Assignment :=
  entry.assignments.filter fun assignment => isBad entry.plane assignment.permission

/-- The row that the sweep writes for an assignment. -/
def remediationRow (violation : RbacViolation) (assignment : Assignment) : Remediation where
  violation := violation
  action := if assignment.roleId.isSome then .autoRevokeRole else .autoRevokeGrant
  detail := "permission=".toList ++ assignment.permission

/-- The audit row that the sweep writes for an assignment. -/
def auditRow (violation : RbacViolation) (assignment : Assignment) : MachineRemediation where
  principalId := violation.principalId
  permission := assignment.permission

/-- The body of the inner loop, for an assignment that goes. -/
theorem revokeAssignment_of_isBad {plane : Text} {assignment : Assignment}
    (bad : isBad plane assignment.permission = true) (violation : RbacViolation) (sweep : Sweep) :
    revokeAssignment violation plane sweep assignment =
      { store := sweep.store.without (assignment.restsOnRole violation.principalId)
          (assignment.isGrant violation.principalId)
        remediations := sweep.remediations ++ [remediationRow violation assignment]
        audit := sweep.audit ++ [auditRow violation assignment] } := by
  unfold revokeAssignment
  rw [if_pos bad]
  rcases assignment with ⟨roleId, permission⟩
  cases roleId with
  | none =>
      have kept : sweep.store.principalRoles.filter (fun row => !(Assignment.restsOnRole violation.principalId
          { roleId := none, permission := permission } row)) = sweep.store.principalRoles :=
        Table.ext_rows (List.filter_eq_self.mpr fun row _ => by simp [Assignment.restsOnRole])
      rw [AuthStore.without, kept]
      simp only [AuthStore.deleteGrant, Assignment.isGrant, Option.isNone_none, Bool.true_and, eq_comm]
      rfl
  | some role =>
      have kept : sweep.store.grants.filter (fun row => !(Assignment.isGrant violation.principalId
          { roleId := some role, permission := permission } row)) = sweep.store.grants :=
        Table.ext_rows (List.filter_eq_self.mpr fun row _ => by simp [Assignment.isGrant])
      rw [AuthStore.without, kept]
      simp only [AuthStore.deleteRole, Assignment.restsOnRole, Option.some.injEq, eq_comm]
      rfl

/-- The inner loop. -/
theorem foldl_revokeAssignment (violation : RbacViolation) (plane : Text) (assignments : List Assignment)
    (sweep : Sweep) :
    assignments.foldl (revokeAssignment violation plane) sweep =
      { store := sweep.store.without
          (fun row => (assignments.filter fun assignment => isBad plane assignment.permission).any
            fun assignment => assignment.restsOnRole violation.principalId row)
          (fun row => (assignments.filter fun assignment => isBad plane assignment.permission).any
            fun assignment => assignment.isGrant violation.principalId row)
        remediations := sweep.remediations ++
          (assignments.filter fun assignment => isBad plane assignment.permission).map (remediationRow violation)
        audit := sweep.audit ++
          (assignments.filter fun assignment => isBad plane assignment.permission).map (auditRow violation) } := by
  induction assignments generalizing sweep with
  | nil =>
      simp only [List.foldl_nil, List.filter_nil, List.any_nil, List.map_nil, List.append_nil,
        AuthStore.without_nothing]
  | cons assignment assignments inductionHypothesis =>
      rw [List.foldl_cons, inductionHypothesis, List.filter_cons]
      by_cases bad : isBad plane assignment.permission = true
      · rw [revokeAssignment_of_isBad bad, if_pos bad]
        simp only [AuthStore.without_without, List.any_cons, List.map_cons, List.append_assoc, List.singleton_append]
      · rw [if_neg bad, revokeAssignment, if_neg bad]

/-- The remediations that a violation is answered with. -/
def rowsFor (store : AuthStore) (principal : Principal) (violation : RbacViolation) : List Remediation :=
  match violation.category with
  | .forbiddenPermission => (store.entry principal).bad.map (remediationRow violation)
  | .unprovisioned =>
      [{ violation := violation, action := .autoRevokeGrant, detail := "unprovisioned direct grants".toList }]

/-- The audit rows that a violation is answered with. -/
def auditFor (store : AuthStore) (principal : Principal) (violation : RbacViolation) : List MachineRemediation :=
  match violation.category with
  | .forbiddenPermission => (store.entry principal).bad.map (auditRow violation)
  | .unprovisioned => []

/-- The roles that go with a violation. -/
def losesRole (store : AuthStore) (principal : Principal) (violation : RbacViolation) (row : PrincipalRole) : Bool :=
  match violation.category with
  | .forbiddenPermission => (store.entry principal).bad.any fun assignment =>
      assignment.restsOnRole principal.principalId row
  | .unprovisioned => false

/-- The direct grants that go with a violation. -/
def losesGrant (store : AuthStore) (principal : Principal) (violation : RbacViolation) (row : PermissionGrant) : Bool :=
  match violation.category with
  | .forbiddenPermission => (store.entry principal).bad.any fun assignment =>
      assignment.isGrant principal.principalId row
  | .unprovisioned => decide (row.principalId = principal.principalId)

/-- The body of the loop over the violations. -/
theorem remediate_eq {store : AuthStore} {principal : Principal} (known : principal ∈ store.principals)
    {violation : RbacViolation} (own : violation.principalId = principal.principalId) (sweep : Sweep) :
    remediate store.entries sweep violation =
      { store := sweep.store.without (losesRole store principal violation) (losesGrant store principal violation)
        remediations := sweep.remediations ++ rowsFor store principal violation
        audit := sweep.audit ++ auditFor store principal violation } := by
  unfold remediate losesRole losesGrant rowsFor auditFor
  cases violation.category with
  | forbiddenPermission =>
      dsimp only
      rw [own, AuthStore.find_entry known]
      dsimp only
      rw [foldl_revokeAssignment, own]
      rfl
  | unprovisioned =>
      have kept : sweep.store.principalRoles.filter (fun _ => !false) = sweep.store.principalRoles :=
        Table.ext_rows (List.filter_eq_self.mpr fun _ _ => rfl)
      dsimp only
      rw [AuthStore.without, kept, AuthStore.deleteGrants, own, List.append_nil]

/-- The loop over the violations of some of the principals. -/
theorem foldl_remediate (store : AuthStore) (principals : List Principal)
    (known : forall principal, principal ∈ principals -> principal ∈ store.principals) (sweep : Sweep) :
    (principals.flatMap fun principal => entryViolations (store.entry principal)).foldl (remediate store.entries)
        sweep =
      { store := sweep.store.without
          (fun row => principals.any fun principal => (entryViolations (store.entry principal)).any
            fun violation => losesRole store principal violation row)
          (fun row => principals.any fun principal => (entryViolations (store.entry principal)).any
            fun violation => losesGrant store principal violation row)
        remediations := sweep.remediations ++
          principals.flatMap fun principal => (entryViolations (store.entry principal)).flatMap (rowsFor store principal)
        audit := sweep.audit ++
          principals.flatMap fun principal =>
            (entryViolations (store.entry principal)).flatMap (auditFor store principal) } := by
  have ofOne : forall principal, principal ∈ store.principals -> forall (violations : List RbacViolation),
      (forall violation, violation ∈ violations -> violation.principalId = principal.principalId) ->
      forall sweep : Sweep, violations.foldl (remediate store.entries) sweep =
        { store := sweep.store.without (fun row => violations.any fun violation => losesRole store principal violation row)
            (fun row => violations.any fun violation => losesGrant store principal violation row)
          remediations := sweep.remediations ++ violations.flatMap (rowsFor store principal)
          audit := sweep.audit ++ violations.flatMap (auditFor store principal) } := by
    intro principal member violations own
    induction violations with
    | nil =>
        intro sweep
        simp only [List.foldl_nil, List.any_nil, List.flatMap_nil, List.append_nil, AuthStore.without_nothing]
    | cons violation violations inductionHypothesis =>
        intro sweep
        rw [List.foldl_cons, inductionHypothesis fun other listed => own other (List.mem_cons_of_mem _ listed),
          remediate_eq member (own violation List.mem_cons_self)]
        simp only [AuthStore.without_without, List.any_cons, List.flatMap_cons, List.append_assoc]
  induction principals generalizing sweep with
  | nil =>
      simp only [List.flatMap_nil, List.foldl_nil, List.any_nil, List.append_nil, AuthStore.without_nothing]
  | cons principal principals inductionHypothesis =>
      rw [List.flatMap_cons, List.foldl_append,
        ofOne principal (known principal List.mem_cons_self) _ fun violation reported =>
          PrincipalEntry.principalId_of_mem reported,
        inductionHypothesis fun other listed => known other (List.mem_cons_of_mem _ listed)]
      simp only [AuthStore.without_without, List.any_cons, List.flatMap_cons, List.append_assoc]

/-- The rows that a sweep writes, and what it deletes. -/
theorem reconcileAndRemediate_eq (store : AuthStore) :
    reconcileAndRemediate store =
      (detectViolations store.entries,
        { store := store.without
            (fun row => store.principals.rows.any fun principal => (entryViolations (store.entry principal)).any
              fun violation => losesRole store principal violation row)
            (fun row => store.principals.rows.any fun principal => (entryViolations (store.entry principal)).any
              fun violation => losesGrant store principal violation row)
          remediations := store.principals.rows.flatMap fun principal =>
            (entryViolations (store.entry principal)).flatMap (rowsFor store principal)
          audit := store.principals.rows.flatMap fun principal =>
            (entryViolations (store.entry principal)).flatMap (auditFor store principal) }) := by
  have listed : detectViolations store.entries =
      store.principals.rows.flatMap fun principal => entryViolations (store.entry principal) := by
    rw [detectViolations, AuthStore.entries_eq, List.flatMap_map]
  have ran := foldl_remediate store store.principals.rows (fun _ member => member)
    { store := store, remediations := [], audit := [] }
  unfold reconcileAndRemediate
  dsimp only
  rw [listed, ran]
  simp only [List.nil_append]

end Auth
end ApexQuant
