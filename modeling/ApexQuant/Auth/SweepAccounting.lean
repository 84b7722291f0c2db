import ApexQuant.Auth.SweepConvergence
import ApexQuant.Foundation.Matching

namespace ApexQuant
namespace Auth

open Foundation

/-!
# What a sweep writes about itself

For every violation the sweep goes through all assignments of the principal and
writes a remediation and an audit row for each that is forbidden, whether a statement
before has deleted it or not, and one remediation and no audit row for all direct
grants of a principal without roles.  The rows stand for the deleted assignments only
where there is at most one reason to delete anything of a principal.
-/

/-- An assignment that a sweep can delete. -/
inductive Deletion where
  | role (row : PrincipalRole)
  | grant (row : PermissionGrant)
  deriving DecidableEq

def Deletion.principalId : Deletion -> Id
  | .role row => row.principalId
  | .grant row => row.principalId

/-- The assignment was there before and is gone after. -/
def Deletion.Happened (before after : AuthStore) : Deletion -> Prop
  | .role row => row ∈ before.principalRoles ∧ row ∉ after.principalRoles
  | .grant row => row ∈ before.grants ∧ row ∉ after.grants

/-- The remediation names the principal, the kind and a permission of the assignment. -/
def Remediation.Concerns (store : AuthStore) (remediation : Remediation) : Deletion -> Prop
  | .role row => remediation.violation.principalId = row.principalId ∧ remediation.action = .autoRevokeRole ∧
      Exists fun permitted => permitted ∈ store.permissionsOf row.roleId ∧
        remediation.detail = "permission=".toList ++ permitted.permission
  | .grant row => remediation.violation.principalId = row.principalId ∧ remediation.action = .autoRevokeGrant ∧
      remediation.detail = "permission=".toList ++ row.permission

/-- The audit row names the principal and a permission of the assignment. -/
def MachineRemediation.Concerns (store : AuthStore) (row : MachineRemediation) : Deletion -> Prop
  | .role role => row.principalId = role.principalId ∧
      Exists fun permitted => permitted ∈ store.permissionsOf role.roleId ∧ row.permission = permitted.permission
  | .grant grant => row.principalId = grant.principalId ∧ row.permission = grant.permission

/-- The remediations and the audit rows of a sweep stand one to one for what it has
deleted, and the recorded number of remediations is the number of deletions. -/
def AuthStore.SweepAccounted (store : AuthStore) : Prop :=
  OneToOne (Remediation.Concerns store) (reconcileAndRemediate store).2.remediations
      (Deletion.Happened store store.swept) ∧
    OneToOne (MachineRemediation.Concerns store) (reconcileAndRemediate store).2.audit
      (Deletion.Happened store store.swept) ∧
    forall deleted : List Deletion, deleted.Nodup ->
      (forall deletion, deletion ∈ deleted <-> deletion.Happened store store.swept) ->
      (reconcileAndRemediate store).2.remediations.length = deleted.length

/-- At most one reason to delete anything of a principal: it has a role if it has a
direct grant, and on a restricted plane at most one of its permissions is the
wildcard or overlaps a forbidden pattern, and overlaps one only. -/
def AuthStore.SingleFault (store : AuthStore) (principal : Principal) : Prop :=
  (store.rolesOf principal = [] -> store.grantsOf principal = []) ∧
    (principal.Restricted ->
      ((store.entry principal).assignments.map fun assignment =>
        offences principal.plane.value assignment.permission).sum ≤ 1)

/-! ## One principal -/

/-- The remediations of a principal. -/
def AuthStore.remediationsOf (store : AuthStore) (principal : Principal) : List Remediation :=
  (entryViolations (store.entry principal)).flatMap (rowsFor store principal)

/-- The audit rows of a principal. -/
def AuthStore.auditOf (store : AuthStore) (principal : Principal) : List MachineRemediation :=
  (entryViolations (store.entry principal)).flatMap (auditFor store principal)

/-- What of a principal is gone. -/
def Deletion.Of (store : AuthStore) (principal : Principal) (deletion : Deletion) : Prop :=
  deletion.Happened store store.swept ∧ deletion.principalId = principal.principalId

section One

variable {store : AuthStore} {principal : Principal}

theorem length_forbidden (store : AuthStore) (restricted : principal.Restricted) :
    (store.entry principal).forbidden.length =
      ((store.entry principal).assignments.map fun assignment =>
        offences principal.plane.value assignment.permission).sum := by
  have onPlane : Rbac.isRestricted forbiddenMatrix (store.entry principal).plane = true := restricted
  unfold PrincipalEntry.forbidden
  rw [if_pos onPlane, AuthStore.effective_eq, List.length_flatMap, List.map_map]
  congr 1
  apply List.map_congr_left
  intro assignment _
  exact length_forbiddenViolations _ _

/-- Every forbidden assignment is a reason of its own. -/
theorem length_bad_le (store : AuthStore) (principal : Principal) :
    (store.entry principal).bad.length ≤ ((store.entry principal).assignments.map fun assignment =>
      offences principal.plane.value assignment.permission).sum := by
  unfold PrincipalEntry.bad
  induction (store.entry principal).assignments with
  | nil => exact Nat.le_refl 0
  | cons assignment assignments inductionHypothesis =>
      rw [List.map_cons, List.sum_cons, List.filter_cons]
      split
      · rename_i offends
        have reason := (isBad_iff_offences_pos _ _).mp offends
        change 0 < offences principal.plane.value assignment.permission at reason
        rw [List.length_cons]
        omega
      · omega

theorem flatMap_rowsFor (store : AuthStore) (principal : Principal) (violations : List RbacViolation)
    (category : forall violation, violation ∈ violations -> violation.category = .forbiddenPermission) :
    violations.flatMap (rowsFor store principal) =
        violations.flatMap (fun violation => (store.entry principal).bad.map (remediationRow violation)) ∧
      violations.flatMap (auditFor store principal) =
        violations.flatMap (fun violation => (store.entry principal).bad.map (auditRow violation)) := by
  constructor
  · apply List.flatMap_congr
    intro violation member
    rw [rowsFor, category violation member]
  · apply List.flatMap_congr
    intro violation member
    rw [auditFor, category violation member]

/-- There is a row for every pair of a reason and a forbidden assignment, and one
remediation more for a principal without roles. -/
theorem length_rows (store : AuthStore) (principal : Principal) :
    (store.auditOf principal).length = (store.entry principal).forbidden.length * (store.entry principal).bad.length ∧
      (store.remediationsOf principal).length =
        (store.auditOf principal).length + (store.entry principal).unprovisioned.length := by
  have forbidden := flatMap_rowsFor store principal (store.entry principal).forbidden
    fun violation reported => (PrincipalEntry.mem_forbidden reported).2
  have counted : forall {B : Type} (row : RbacViolation -> Assignment -> B) (violations : List RbacViolation),
      (violations.flatMap fun violation => (store.entry principal).bad.map (row violation)).length =
        violations.length * (store.entry principal).bad.length := by
    intro B row violations
    simp only [List.length_flatMap, List.length_map, List.map_const', List.sum_replicate, smul_eq_mul]
  have rest : (store.entry principal).unprovisioned.flatMap (auditFor store principal) = [] ∧
      ((store.entry principal).unprovisioned.flatMap (rowsFor store principal)).length =
        (store.entry principal).unprovisioned.length := by
    unfold PrincipalEntry.unprovisioned
    split
    · exact ⟨rfl, rfl⟩
    · exact ⟨rfl, rfl⟩
  have audit : (store.auditOf principal).length =
      (store.entry principal).forbidden.length * (store.entry principal).bad.length := by
    rw [AuthStore.auditOf, entryViolations_eq, List.flatMap_append, rest.1, List.append_nil, forbidden.2, counted]
  refine ⟨audit, ?_⟩
  rw [AuthStore.remediationsOf, entryViolations_eq, List.flatMap_append, List.length_append, rest.2, forbidden.1,
    counted, audit]

theorem principalId_of_mem_rows {violation : RbacViolation} {remediation : Remediation}
    (written : remediation ∈ rowsFor store principal violation) : remediation.violation = violation := by
  unfold rowsFor at written
  split at written
  · rcases List.mem_map.mp written with ⟨assignment, -, rfl⟩
    rfl
  · rw [List.mem_singleton.mp written]

theorem owner_of_remediationsOf {remediation : Remediation} (written : remediation ∈ store.remediationsOf principal) :
    remediation.violation.principalId = principal.principalId := by
  rcases List.mem_flatMap.mp written with ⟨violation, reported, row⟩
  rw [principalId_of_mem_rows row]
  exact PrincipalEntry.principalId_of_mem reported

theorem owner_of_auditOf {row : MachineRemediation} (written : row ∈ store.auditOf principal) :
    row.principalId = principal.principalId := by
  rcases List.mem_flatMap.mp written with ⟨violation, reported, found⟩
  unfold auditFor at found
  split at found
  · rcases List.mem_map.mp found with ⟨assignment, -, rfl⟩
    exact PrincipalEntry.principalId_of_mem reported
  · exact absurd found List.not_mem_nil

/-! ## What goes -/

/-- The assignment behind a deletion, as far as it tells deletions of one principal
apart. -/
def Deletion.key : Deletion -> Option Id × Option Text
  | .role row => (some row.roleId, none)
  | .grant row => (none, some row.permission)

def Assignment.key (assignment : Assignment) : Option Id × Option Text :=
  match assignment.roleId with
  | some roleId => (some roleId, none)
  | none => (none, some assignment.permission)

theorem Deletion.eq_of_key {left right : Deletion} (deleted : left.Of store principal)
    (deleted' : right.Of store principal) (same : left.key = right.key) : left = right := by
  rcases deleted with ⟨gone, own⟩
  rcases deleted' with ⟨gone', own'⟩
  cases left with
  | role row =>
      cases right with
      | role row' =>
          have roleId : row.roleId = row'.roleId := Option.some.inj (congrArg Prod.fst same)
          exact congrArg Deletion.role (Table.eq_of_key_eq gone.1 gone'.1 (Prod.ext (own.trans own'.symm) roleId))
      | grant row' => exact absurd (congrArg Prod.fst same) nofun
  | grant row =>
      cases right with
      | role row' => exact absurd (congrArg Prod.fst same) nofun
      | grant row' =>
          have permission : row.permission = row'.permission := Option.some.inj (congrArg Prod.snd same)
          exact congrArg Deletion.grant (Table.eq_of_key_eq gone.1 gone'.1 (Prod.ext (own.trans own'.symm) permission))

/-- What goes of a principal with a role for its direct grants is a forbidden
assignment. -/
theorem exists_bad_of_deletion (known : principal ∈ store.principals)
    (provisioned : store.rolesOf principal = [] -> store.grantsOf principal = []) {deletion : Deletion}
    (deleted : deletion.Of store principal) :
    principal.Restricted ∧ Exists fun assignment => assignment ∈ (store.entry principal).bad ∧
      assignment.key = deletion.key := by
  rcases deleted with ⟨gone, own⟩
  cases deletion with
  | role row =>
      have held : row ∈ store.rolesOf principal := AuthStore.mem_rolesOf.mpr ⟨gone.1, own⟩
      have lost : principal.Restricted ∧ store.BadRole principal row := by
        by_contra stays
        exact gone.2 (AuthStore.mem_rolesOf.mp ((AuthStore.mem_rolesOf_swept known).mpr ⟨held, stays⟩)).1
      rcases lost with ⟨restricted, permitted, listed, offends⟩
      refine ⟨restricted, { roleId := some row.roleId, permission := permitted.permission }, ?_, rfl⟩
      apply List.mem_filter.mpr
      exact ⟨List.mem_append_left _ (AuthStore.mem_roleAssignments.mpr ⟨row, held, permitted, listed, rfl⟩), offends⟩
  | grant row =>
      have held : row ∈ store.grantsOf principal := AuthStore.mem_grantsOf.mpr ⟨gone.1, own⟩
      have lost : (principal.Restricted ∧ isBad principal.plane.value row.permission = true) ∨
          store.rolesOf principal = [] := by
        by_contra stays
        exact gone.2 (AuthStore.mem_grantsOf.mp ((AuthStore.mem_grantsOf_swept known).mpr ⟨held, stays⟩)).1
      rcases lost with ⟨restricted, offends⟩ | roleless
      · refine ⟨restricted, { roleId := none, permission := row.permission }, ?_, rfl⟩
        apply List.mem_filter.mpr
        exact ⟨List.mem_append_right _ (AuthStore.mem_grantAssignments.mpr ⟨row, held, rfl⟩), offends⟩
      · exact absurd (provisioned roleless) (List.ne_nil_of_mem held)

/-- A forbidden assignment on a restricted plane goes, and its rows concern it. -/
theorem exists_deletion_of_bad (known : principal ∈ store.principals) (restricted : principal.Restricted)
    {assignment : Assignment} (bad : assignment ∈ (store.entry principal).bad) {violation : RbacViolation}
    (own : violation.principalId = principal.principalId) :
    Exists fun deletion : Deletion => deletion.Of store principal ∧ deletion.key = assignment.key ∧
      Remediation.Concerns store (remediationRow violation assignment) deletion ∧
      MachineRemediation.Concerns store (auditRow violation assignment) deletion := by
  rcases List.mem_filter.mp bad with ⟨assigned, offends⟩
  rcases List.mem_append.mp assigned with viaRole | direct
  · rcases AuthStore.mem_roleAssignments.mp viaRole with ⟨role, held, permitted, listed, rfl⟩
    have owner := (AuthStore.mem_rolesOf.mp held).2
    refine ⟨.role role, ⟨⟨(AuthStore.mem_rolesOf.mp held).1, fun left => ?_⟩, owner⟩, rfl,
      ⟨own.trans owner.symm, rfl, permitted, listed, rfl⟩, own.trans owner.symm, permitted, listed, rfl⟩
    have stays := (AuthStore.mem_rolesOf_swept known).mp (AuthStore.mem_rolesOf.mpr ⟨left, owner⟩)
    exact stays.2 ⟨restricted, permitted, listed, offends⟩
  · rcases AuthStore.mem_grantAssignments.mp direct with ⟨grant, held, rfl⟩
    have owner := (AuthStore.mem_grantsOf.mp held).2
    refine ⟨.grant grant, ⟨⟨(AuthStore.mem_grantsOf.mp held).1, fun left => ?_⟩, owner⟩, rfl,
      ⟨own.trans owner.symm, rfl, rfl⟩, own.trans owner.symm, rfl⟩
    have stays := (AuthStore.mem_grantsOf_swept known).mp (AuthStore.mem_grantsOf.mpr ⟨left, owner⟩)
    exact stays.2 (Or.inl ⟨restricted, offends⟩)

/-- With one reason at most, the rows of a principal stand for what goes of it. -/
theorem accounted_of_singleFault (known : principal ∈ store.principals) (single : store.SingleFault principal) :
    OneToOne (Remediation.Concerns store) (store.remediationsOf principal) (Deletion.Of store principal) ∧
      OneToOne (MachineRemediation.Concerns store) (store.auditOf principal) (Deletion.Of store principal) := by
  have unprovisioned : (store.entry principal).unprovisioned = [] := by
    by_contra reported
    rcases (PrincipalEntry.unprovisioned_ne_nil_iff _).mp reported with ⟨uncounted, granted⟩
    have roleless := (AuthStore.roleCount_eq_zero_iff _ _).mp uncounted
    exact granted ((AuthStore.directGrants_eq_nil_iff _ _).mpr (single.1 roleless))
  have rows := flatMap_rowsFor store principal (store.entry principal).forbidden
    fun violation reported => (PrincipalEntry.mem_forbidden reported).2
  have remediations : store.remediationsOf principal = (store.entry principal).forbidden.flatMap fun violation =>
      (store.entry principal).bad.map (remediationRow violation) := by
    rw [AuthStore.remediationsOf, entryViolations_eq, unprovisioned, List.append_nil, rows.1]
  have audit : store.auditOf principal = (store.entry principal).forbidden.flatMap fun violation =>
      (store.entry principal).bad.map (auditRow violation) := by
    rw [AuthStore.auditOf, entryViolations_eq, unprovisioned, List.append_nil, rows.2]
  rw [remediations, audit]
  cases reports : (store.entry principal).forbidden with
  | nil =>
      have none : forall deletion : Deletion, ¬ deletion.Of store principal := by
        intro deletion deleted
        rcases exists_bad_of_deletion known single.1 deleted with ⟨restricted, assignment, bad, -⟩
        exact forbidden_ne_nil_of_bad restricted bad reports
      exact ⟨OneToOne.nil none, OneToOne.nil none⟩
  | cons violation others =>
      have reported : violation ∈ (store.entry principal).forbidden := reports ▸ List.mem_cons_self
      have restricted := restricted_of_forbidden reported
      have own := (PrincipalEntry.mem_forbidden reported).1
      have bounded := single.2 restricted
      have one : others = [] := by
        have sized := length_forbidden store restricted
        rw [reports, List.length_cons] at sized
        exact List.eq_nil_of_length_eq_zero (by omega)
      have few := length_bad_le store principal
      rw [one, List.flatMap_singleton, List.flatMap_singleton]
      cases offenders : (store.entry principal).bad with
      | nil =>
          rcases ((PrincipalEntry.forbidden_ne_nil_iff _).mp (List.ne_nil_of_mem reported)).2 with
            ⟨perm, effective, offends⟩
          rw [AuthStore.effective_eq] at effective
          rcases List.mem_map.mp effective with ⟨assignment, assigned, rfl⟩
          have bad : assignment ∈ (store.entry principal).bad := List.mem_filter.mpr ⟨assigned, offends⟩
          rw [offenders] at bad
          exact absurd bad List.not_mem_nil
      | cons assignment more =>
          have alone : more = [] := by
            rw [offenders, List.length_cons] at few
            exact List.eq_nil_of_length_eq_zero (by omega)
          have bad : assignment ∈ (store.entry principal).bad := offenders ▸ List.mem_cons_self
          rcases exists_deletion_of_bad known restricted bad own with ⟨deletion, deleted, keyed, answered, audited⟩
          have only : forall other : Deletion, other.Of store principal <-> other = deletion := by
            intro other
            constructor
            · intro gone
              rcases exists_bad_of_deletion known single.1 gone with ⟨-, behind, listed, keyedOther⟩
              rw [offenders, alone, List.mem_singleton] at listed
              apply Deletion.eq_of_key gone deleted
              rw [← keyedOther, listed, keyed]
            · rintro rfl
              exact deleted
          rw [alone, List.map_singleton, List.map_singleton]
          exact ⟨OneToOne.singleton answered only, OneToOne.singleton audited only⟩

/-- The rows of a principal stand for what goes of it only with one reason at most. -/
theorem singleFault_of_accounted (known : principal ∈ store.principals)
    (remediated : OneToOne (Remediation.Concerns store) (store.remediationsOf principal) (Deletion.Of store principal))
    (audited : OneToOne (MachineRemediation.Concerns store) (store.auditOf principal) (Deletion.Of store principal)) :
    store.SingleFault principal := by
  have lengths := length_rows store principal
  have same := remediated.length_eq_length audited
  have unprovisioned : (store.entry principal).unprovisioned = [] := List.eq_nil_of_length_eq_zero (by omega)
  have provisioned : store.rolesOf principal = [] -> store.grantsOf principal = [] := by
    intro roleless
    by_contra granted
    apply (PrincipalEntry.unprovisioned_ne_nil_iff _).mpr _ unprovisioned
    exact ⟨(AuthStore.roleCount_eq_zero_iff _ _).mpr roleless, fun none =>
      granted ((AuthStore.directGrants_eq_nil_iff _ _).mp none)⟩
  refine ⟨provisioned, fun restricted => ?_⟩
  have bounded : (store.auditOf principal).length ≤ ((store.entry principal).bad.map Assignment.key).length := by
    apply audited.length_le (fun left right gone gone' => Deletion.eq_of_key gone gone')
    intro deletion gone
    rcases exists_bad_of_deletion known provisioned gone with ⟨-, assignment, bad, keyed⟩
    exact keyed ▸ List.mem_map_of_mem bad
  rw [List.length_map, lengths.1] at bounded
  rw [← length_forbidden store restricted]
  have few := length_bad_le store principal
  rw [← length_forbidden store restricted] at few
  cases offenders : (store.entry principal).bad.length with
  | zero =>
      have none : (store.entry principal).forbidden = [] := by
        by_contra reported
        rcases ((PrincipalEntry.forbidden_ne_nil_iff _).mp reported).2 with ⟨perm, effective, offends⟩
        rw [AuthStore.effective_eq] at effective
        rcases List.mem_map.mp effective with ⟨assignment, assigned, rfl⟩
        have bad : assignment ∈ (store.entry principal).bad := List.mem_filter.mpr ⟨assigned, offends⟩
        rw [List.eq_nil_of_length_eq_zero offenders] at bad
        exact List.not_mem_nil bad
      rw [none]
      exact Nat.zero_le 1
  | succ more =>
      rw [offenders] at bounded
      exact Nat.le_of_mul_le_mul_right (bounded.trans_eq (Nat.one_mul _).symm) (Nat.succ_pos more)

end One

/-! ## All of them -/

theorem remediations_eq (store : AuthStore) :
    (reconcileAndRemediate store).2.remediations = store.principals.rows.flatMap store.remediationsOf ∧
      (reconcileAndRemediate store).2.audit = store.principals.rows.flatMap store.auditOf := by
  rw [reconcileAndRemediate_eq]
  exact ⟨rfl, rfl⟩

/-- Only assignments of known principals go. -/
theorem happened_iff (store : AuthStore) (deletion : Deletion) :
    deletion.Happened store store.swept <->
      Exists fun principal => principal ∈ store.principals.rows ∧ deletion.Of store principal := by
  constructor
  · intro gone
    by_contra unknown
    have unowned : forall principal, principal ∈ store.principals -> deletion.principalId ≠ principal.principalId :=
      fun principal known own => unknown ⟨principal, known, gone, own⟩
    have swept : store.swept = (reconcileAndRemediate store).2.store := rfl
    rw [reconcileAndRemediate_eq] at swept
    cases deletion with
    | role row =>
        apply gone.2
        rw [swept]
        refine Table.mem_filter.mpr ⟨gone.1, ?_⟩
        rw [Bool.not_eq_true', List.any_eq_false]
        intro principal known lost
        rcases List.any_eq_true.mp lost with ⟨violation, -, loses⟩
        unfold losesRole at loses
        split at loses
        · rcases List.any_eq_true.mp loses with ⟨assignment, -, rests⟩
          exact unowned principal known (of_decide_eq_true (Bool.and_eq_true_iff.mp rests).1)
        · exact Bool.false_ne_true loses
    | grant row =>
        apply gone.2
        rw [swept]
        refine Table.mem_filter.mpr ⟨gone.1, ?_⟩
        rw [Bool.not_eq_true', List.any_eq_false]
        intro principal known lost
        rcases List.any_eq_true.mp lost with ⟨violation, -, loses⟩
        unfold losesGrant at loses
        split at loses
        · rcases List.any_eq_true.mp loses with ⟨assignment, -, rests⟩
          exact unowned principal known (of_decide_eq_true (Bool.and_eq_true_iff.mp rests).1)
        · exact unowned principal known (of_decide_eq_true loses)
  · rintro ⟨principal, -, gone, -⟩
    exact gone

/-- The rows of a sweep account for its deletions exactly when there is at most one
reason to delete anything of any principal. -/
theorem sweep_accounted_iff (store : AuthStore) :
    store.SweepAccounted <-> forall principal, principal ∈ store.principals -> store.SingleFault principal := by
  have rows := remediations_eq store
  have all : Deletion.Happened store store.swept = fun deletion =>
      Exists fun principal => principal ∈ store.principals.rows ∧ Deletion.Of store principal deletion :=
    funext fun deletion => propext (happened_iff store deletion)
  constructor
  · rintro ⟨remediated, audited, -⟩ principal known
    have own : forall deletion : Deletion,
        (deletion.Happened store store.swept ∧ decide (deletion.principalId = principal.principalId) = true) =
          deletion.Of store principal := fun deletion => by rw [decide_eq_true_eq, Deletion.Of]
    have answers := remediated.filter
      (fun remediation => decide (remediation.violation.principalId = principal.principalId))
      (fun deletion => decide (deletion.principalId = principal.principalId))
      (by rintro remediation (role | grant) concerns <;> rw [concerns.1] <;> rfl)
    have notes := audited.filter
      (fun row => decide (row.principalId = principal.principalId))
      (fun deletion => decide (deletion.principalId = principal.principalId))
      (by rintro row (role | grant) concerns <;> rw [concerns.1] <;> rfl)
    rw [rows.1, filter_flatMap_of_owner store.principals.unique
      (fun _ _ _ written => owner_of_remediationsOf written) known] at answers
    rw [rows.2, filter_flatMap_of_owner store.principals.unique
      (fun _ _ _ written => owner_of_auditOf written) known] at notes
    simp only [own] at answers notes
    exact singleFault_of_accounted known answers notes
  · intro single
    have apart : store.principals.rows.Pairwise fun left right => forall deletion : Deletion,
        deletion.Of store left -> ¬ deletion.Of store right := by
      have distinct := List.pairwise_map.mp store.principals.unique
      exact distinct.imp fun different deletion first second => different (first.2.symm.trans second.2)
    have remediated := OneToOne.flatMap apart fun principal known =>
      (accounted_of_singleFault known (single principal known)).1
    have audited := OneToOne.flatMap apart fun principal known =>
      (accounted_of_singleFault known (single principal known)).2
    rw [← rows.1, ← all] at remediated
    rw [← rows.2, ← all] at audited
    exact ⟨remediated, audited, fun deleted distinct listed => remediated.length_eq distinct listed⟩

def aiService : Principal where
  principalId := 1
  subjectName := "trainer".toList
  principalType := .service
  active := true
  plane := .ai

/-- An AI service with one role that has two forbidden permissions. -/
def twiceForbidden : AuthStore where
  principals := { rows := [aiService], unique := List.nodup_singleton _ }
  grants := Table.empty
  credentials := Table.empty
  principalRoles := Table.single { principalId := 1, roleId := 7 }
  rolePermissions :=
    { rows := [{ roleId := 7, permission := "execution:submit".toList },
        { roleId := 7, permission := "broker:read".toList }]
      unique := by decide }
  events := []

/-- Its role is all that goes. -/
theorem deletion_of_twiceForbidden (deletion : Deletion) :
    deletion ∈ [Deletion.role { principalId := 1, roleId := 7 }] <->
      deletion.Happened twiceForbidden twiceForbidden.swept := by
  have gone : twiceForbidden.swept.principalRoles.rows = [] := by decide
  rw [List.mem_singleton]
  constructor
  · rintro rfl
    refine ⟨List.mem_singleton.mpr rfl, fun left => ?_⟩
    change _ ∈ twiceForbidden.swept.principalRoles.rows at left
    rw [gone] at left
    exact List.not_mem_nil left
  · intro happened
    cases deletion with
    | role row => exact congrArg Deletion.role (List.mem_singleton.mp happened.1)
    | grant row => exact absurd happened.1 List.not_mem_nil

/-- One deleted role is recorded as four remediations. -/
theorem one_role_is_recorded_four_times : ¬ forall store : AuthStore, store.SweepAccounted := by
  intro accounted
  have counted := (accounted twiceForbidden).2.2 _ (List.nodup_singleton _) deletion_of_twiceForbidden
  exact absurd counted (by decide)

end Auth
end ApexQuant
