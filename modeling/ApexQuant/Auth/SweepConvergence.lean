import ApexQuant.Auth.Sweep

namespace ApexQuant
namespace Auth

open Foundation

/-!
# When one sweep is enough

Of what `detect_violations` reports, a sweep leaves nothing behind except what it
makes itself: a principal on a restricted plane whose every role goes for a forbidden
permission keeps its other direct grants, and is reported for them the next time.
-/

/-- The store that a sweep leaves. -/
def AuthStore.swept (store : AuthStore) : AuthStore :=
  (reconcileAndRemediate store).2.store

/-- A role with a forbidden permission, on the plane of a principal. -/
def AuthStore.BadRole (store : AuthStore) (principal : Principal) (role : PrincipalRole) : Prop :=
  Exists fun row => row ∈ store.permissionsOf role.roleId ∧ isBad principal.plane.value row.permission = true

def Principal.Restricted (principal : Principal) : Prop :=
  Rbac.isRestricted forbiddenMatrix principal.plane.value = true

section Lost

variable {store : AuthStore} {principal : Principal}

theorem forbidden_ne_nil_of_bad {assignment : Assignment} (restricted : principal.Restricted)
    (bad : assignment ∈ (store.entry principal).bad) : (store.entry principal).forbidden ≠ [] := by
  rcases List.mem_filter.mp bad with ⟨listed, offends⟩
  apply (PrincipalEntry.forbidden_ne_nil_iff _).mpr
  refine ⟨restricted, assignment.permission, ?_, offends⟩
  rw [AuthStore.effective_eq]
  exact List.mem_map_of_mem listed

theorem restricted_of_forbidden {violation : RbacViolation} (reported : violation ∈ (store.entry principal).forbidden) :
    principal.Restricted :=
  ((PrincipalEntry.forbidden_ne_nil_iff _).mp (List.ne_nil_of_mem reported)).1

/-- What is reported of a forbidden permission is in the first part of the report. -/
theorem mem_forbidden_of_category {violation : RbacViolation}
    (reported : violation ∈ entryViolations (store.entry principal))
    (category : violation.category = .forbiddenPermission) : violation ∈ (store.entry principal).forbidden := by
  rcases List.mem_append.mp reported with forbidden | unprovisioned
  · exact forbidden
  · have other := (PrincipalEntry.mem_unprovisioned unprovisioned).2
    rw [category] at other
    exact absurd other nofun

theorem mem_unprovisioned_of_category {violation : RbacViolation}
    (reported : violation ∈ entryViolations (store.entry principal)) (category : violation.category = .unprovisioned) :
    violation ∈ (store.entry principal).unprovisioned := by
  rcases List.mem_append.mp reported with forbidden | unprovisioned
  · have other := (PrincipalEntry.mem_forbidden forbidden).2
    rw [category] at other
    exact absurd other nofun
  · exact unprovisioned

/-- A role goes when its principal is on a restricted plane and it has a forbidden
permission. -/
theorem losesRole_iff (known : principal ∈ store.principals) {role : PrincipalRole}
    (held : role ∈ store.rolesOf principal) :
    (store.principals.rows.any fun other => (entryViolations (store.entry other)).any
        fun violation => losesRole store other violation role) = true <->
      principal.Restricted ∧ store.BadRole principal role := by
  have own := (AuthStore.mem_rolesOf.mp held).2
  simp only [List.any_eq_true]
  constructor
  · rintro ⟨other, listed, violation, reported, lost⟩
    unfold losesRole at lost
    cases category : violation.category with
    | unprovisioned =>
        rw [category] at lost
        exact absurd lost Bool.false_ne_true
    | forbiddenPermission =>
        rw [category] at lost
        rcases List.any_eq_true.mp lost with ⟨assignment, bad, rests⟩
        rcases Bool.and_eq_true_iff.mp rests with ⟨owner, named⟩
        have same : other = principal :=
          Table.eq_of_key_eq listed known ((of_decide_eq_true owner).symm.trans own)
        subst same
        refine ⟨restricted_of_forbidden (mem_forbidden_of_category reported category), ?_⟩
        rcases List.mem_filter.mp bad with ⟨assigned, offends⟩
        rcases List.mem_append.mp assigned with viaRole | direct
        · rcases AuthStore.mem_roleAssignments.mp viaRole with ⟨held', -, row, permitted, rfl⟩
          have sameRole : held'.roleId = role.roleId := Option.some.inj (of_decide_eq_true named)
          exact ⟨row, sameRole ▸ permitted, offends⟩
        · rcases AuthStore.mem_grantAssignments.mp direct with ⟨grant, -, rfl⟩
          exact absurd (of_decide_eq_true named) nofun
  · rintro ⟨restricted, row, permitted, offends⟩
    let assignment : Assignment := { roleId := some role.roleId, permission := row.permission }
    have assigned : assignment ∈ (store.entry principal).assignments :=
      List.mem_append_left _ (AuthStore.mem_roleAssignments.mpr ⟨role, held, row, permitted, rfl⟩)
    have bad : assignment ∈ (store.entry principal).bad := List.mem_filter.mpr ⟨assigned, offends⟩
    rcases List.exists_mem_of_ne_nil _ (forbidden_ne_nil_of_bad restricted bad) with ⟨violation, reported⟩
    refine ⟨principal, known, violation, List.mem_append_left _ reported, ?_⟩
    unfold losesRole
    rw [(PrincipalEntry.mem_forbidden reported).2]
    apply List.any_eq_true.mpr
    exact ⟨assignment, bad, Bool.and_eq_true_iff.mpr ⟨decide_eq_true own, decide_eq_true rfl⟩⟩

/-- A direct grant goes when it is forbidden on its principal's plane, or its
principal has no role. -/
theorem losesGrant_iff (known : principal ∈ store.principals) {grant : PermissionGrant}
    (held : grant ∈ store.grantsOf principal) :
    (store.principals.rows.any fun other => (entryViolations (store.entry other)).any
        fun violation => losesGrant store other violation grant) = true <->
      (principal.Restricted ∧ isBad principal.plane.value grant.permission = true) ∨ store.rolesOf principal = [] := by
  have own := (AuthStore.mem_grantsOf.mp held).2
  simp only [List.any_eq_true]
  constructor
  · rintro ⟨other, listed, violation, reported, lost⟩
    unfold losesGrant at lost
    cases category : violation.category with
    | unprovisioned =>
        rw [category] at lost
        have same : other = principal :=
          Table.eq_of_key_eq listed known ((of_decide_eq_true lost).symm.trans own)
        subst same
        have unprovisioned := List.ne_nil_of_mem (mem_unprovisioned_of_category reported category)
        exact Or.inr ((AuthStore.roleCount_eq_zero_iff _ _).mp
          ((PrincipalEntry.unprovisioned_ne_nil_iff _).mp unprovisioned).1)
    | forbiddenPermission =>
        rw [category] at lost
        rcases List.any_eq_true.mp lost with ⟨assignment, bad, rests⟩
        rcases Bool.and_eq_true_iff.mp rests with ⟨owner, named⟩
        have same : other = principal :=
          Table.eq_of_key_eq listed known ((of_decide_eq_true owner).symm.trans own)
        subst same
        refine Or.inl ⟨restricted_of_forbidden (mem_forbidden_of_category reported category), ?_⟩
        have offends := (List.mem_filter.mp bad).2
        rw [of_decide_eq_true (Bool.and_eq_true_iff.mp named).2] at offends
        exact offends
  · rintro (⟨restricted, offends⟩ | roleless)
    · let assignment : Assignment := { roleId := none, permission := grant.permission }
      have assigned : assignment ∈ (store.entry principal).assignments :=
        List.mem_append_right _ (AuthStore.mem_grantAssignments.mpr ⟨grant, held, rfl⟩)
      have bad : assignment ∈ (store.entry principal).bad := List.mem_filter.mpr ⟨assigned, offends⟩
      rcases List.exists_mem_of_ne_nil _ (forbidden_ne_nil_of_bad restricted bad) with ⟨violation, reported⟩
      refine ⟨principal, known, violation, List.mem_append_left _ reported, ?_⟩
      unfold losesGrant
      rw [(PrincipalEntry.mem_forbidden reported).2]
      apply List.any_eq_true.mpr
      refine ⟨assignment, bad, Bool.and_eq_true_iff.mpr ⟨decide_eq_true own, ?_⟩⟩
      exact Bool.and_eq_true_iff.mpr ⟨rfl, decide_eq_true rfl⟩
    · have direct : (store.entry principal).directGrants ≠ [] := fun none =>
        List.ne_nil_of_mem held ((AuthStore.directGrants_eq_nil_iff _ _).mp none)
      have unprovisioned := (PrincipalEntry.unprovisioned_ne_nil_iff (store.entry principal)).mpr
        ⟨(AuthStore.roleCount_eq_zero_iff _ _).mpr roleless, direct⟩
      rcases List.exists_mem_of_ne_nil _ unprovisioned with ⟨violation, reported⟩
      refine ⟨principal, known, violation, List.mem_append_right _ reported, ?_⟩
      unfold losesGrant
      rw [(PrincipalEntry.mem_unprovisioned reported).2]
      exact decide_eq_true own

/-! ## The store afterwards -/

theorem AuthStore.principals_swept (store : AuthStore) : store.swept.principals = store.principals :=
  (AuthStore.Reduced.reconcileAndRemediate store).principals

theorem AuthStore.permissionsOf_swept (store : AuthStore) (roleId : Id) :
    store.swept.permissionsOf roleId = store.permissionsOf roleId := by
  have same := (AuthStore.Reduced.reconcileAndRemediate store).rolePermissions
  unfold AuthStore.permissionsOf AuthStore.swept
  rw [same]

theorem AuthStore.mem_rolesOf_swept (known : principal ∈ store.principals) {role : PrincipalRole} :
    role ∈ store.swept.rolesOf principal <->
      role ∈ store.rolesOf principal ∧ ¬ (principal.Restricted ∧ store.BadRole principal role) := by
  rw [AuthStore.mem_rolesOf, AuthStore.swept, reconcileAndRemediate_eq]
  change (role ∈ store.principalRoles.filter _) ∧ _ <-> _
  rw [Table.mem_filter, Bool.not_eq_true', and_right_comm, ← AuthStore.mem_rolesOf]
  refine and_congr_right fun held => ?_
  rw [← losesRole_iff known held, Bool.not_eq_true]

theorem AuthStore.mem_grantsOf_swept (known : principal ∈ store.principals) {grant : PermissionGrant} :
    grant ∈ store.swept.grantsOf principal <->
      grant ∈ store.grantsOf principal ∧ ¬ ((principal.Restricted ∧
        isBad principal.plane.value grant.permission = true) ∨ store.rolesOf principal = []) := by
  rw [AuthStore.mem_grantsOf, AuthStore.swept, reconcileAndRemediate_eq]
  change (grant ∈ store.grants.filter _) ∧ _ <-> _
  rw [Table.mem_filter, Bool.not_eq_true', and_right_comm, ← AuthStore.mem_grantsOf]
  refine and_congr_right fun held => ?_
  rw [← losesGrant_iff known held, Bool.not_eq_true]

/-- A principal on a restricted plane that is to lose its every role and keeps a
direct grant. -/
def AuthStore.Stranded (store : AuthStore) (principal : Principal) : Prop :=
  principal.Restricted ∧ store.rolesOf principal ≠ [] ∧
    (forall role, role ∈ store.rolesOf principal -> store.BadRole principal role) ∧
    Exists fun grant => grant ∈ store.grantsOf principal ∧ isBad principal.plane.value grant.permission = false

/-- No forbidden permission survives a sweep. -/
theorem forbidden_swept (known : principal ∈ store.principals) : (store.swept.entry principal).forbidden = [] := by
  by_contra reported
  rcases (PrincipalEntry.forbidden_ne_nil_iff _).mp reported with ⟨restricted, perm, effective, offends⟩
  rw [AuthStore.effective_eq] at effective
  rcases List.mem_map.mp effective with ⟨assignment, assigned, rfl⟩
  rcases List.mem_append.mp assigned with viaRole | direct
  · rcases AuthStore.mem_roleAssignments.mp viaRole with ⟨role, held, row, permitted, rfl⟩
    rw [AuthStore.permissionsOf_swept] at permitted
    exact ((AuthStore.mem_rolesOf_swept known).mp held).2 ⟨restricted, row, permitted, offends⟩
  · rcases AuthStore.mem_grantAssignments.mp direct with ⟨grant, held, rfl⟩
    exact ((AuthStore.mem_grantsOf_swept known).mp held).2 (Or.inl ⟨restricted, offends⟩)

/-- After a sweep a principal has direct grants and no role exactly when it was
stranded. -/
theorem unprovisioned_swept (known : principal ∈ store.principals) :
    (store.swept.entry principal).unprovisioned ≠ [] <-> store.Stranded principal := by
  rw [PrincipalEntry.unprovisioned_ne_nil_iff, AuthStore.roleCount_eq_zero_iff, ne_eq,
    AuthStore.directGrants_eq_nil_iff]
  constructor
  · rintro ⟨roleless, granted⟩
    rcases List.exists_mem_of_ne_nil _ granted with ⟨grant, kept⟩
    rcases (AuthStore.mem_grantsOf_swept known).mp kept with ⟨held, stays⟩
    rw [not_or] at stays
    have gone : forall role, role ∈ store.rolesOf principal -> principal.Restricted ∧ store.BadRole principal role := by
      intro role member
      by_contra survives
      have left := (AuthStore.mem_rolesOf_swept known).mpr ⟨member, survives⟩
      rw [roleless] at left
      exact List.not_mem_nil left
    rcases List.exists_mem_of_ne_nil _ stays.2 with ⟨role, member⟩
    have restricted := (gone role member).1
    refine ⟨restricted, stays.2, fun other listed => (gone other listed).2, grant, held, ?_⟩
    exact Bool.eq_false_iff.mpr fun offends => stays.1 ⟨restricted, offends⟩
  · rintro ⟨restricted, provisioned, allBad, grant, held, innocent⟩
    constructor
    · apply List.eq_nil_iff_forall_not_mem.mpr
      intro role left
      rcases (AuthStore.mem_rolesOf_swept known).mp left with ⟨member, survives⟩
      exact survives ⟨restricted, allBad role member⟩
    · apply List.ne_nil_of_mem
      refine (AuthStore.mem_grantsOf_swept known).mpr ⟨held, ?_⟩
      rintro (⟨-, offends⟩ | roleless)
      · rw [innocent] at offends
        exact Bool.false_ne_true offends
      · exact provisioned roleless

end Lost

/-- A second look finds nothing exactly when the sweep has stranded nobody. -/
theorem sweep_converges_iff (store : AuthStore) :
    detectViolations store.swept.entries = [] <->
      forall principal, principal ∈ store.principals -> ¬ store.Stranded principal := by
  rw [List.eq_nil_iff_forall_not_mem]
  simp only [mem_detectViolations, AuthStore.principals_swept, not_exists, not_and]
  constructor
  · intro clean principal known stranded
    rcases List.exists_mem_of_ne_nil _ ((unprovisioned_swept known).mpr stranded) with ⟨violation, reported⟩
    exact clean violation principal known (List.mem_append_right _ reported)
  · intro none violation principal known reported
    rw [entryViolations_eq, forbidden_swept known, List.nil_append] at reported
    exact none principal known ((unprovisioned_swept known).mp (List.ne_nil_of_mem reported))

def researchService : Principal where
  principalId := 1
  subjectName := "research".toList
  principalType := .service
  active := true
  plane := .ai

/-- A research service whose only role reads everything, and that may read the model
directly. -/
def strandedService : AuthStore where
  principals := { rows := [researchService], unique := List.nodup_singleton _ }
  grants :=
    { rows := [{ principalId := 1, permission := "model:read".toList, expiresAt := none }]
      unique := List.nodup_singleton _ }
  credentials := Table.empty
  principalRoles := { rows := [{ principalId := 1, roleId := 7 }], unique := List.nodup_singleton _ }
  rolePermissions := { rows := [{ roleId := 7, permission := "*".toList }], unique := List.nodup_singleton _ }
  events := []

/-- The sweep takes the role, and the grant that is left is a violation. -/
theorem sweep_leaves_a_violation : ¬ forall store : AuthStore, detectViolations store.swept.entries = [] := by
  intro clean
  exact absurd (clean strandedService) (by decide)

end Auth
end ApexQuant
