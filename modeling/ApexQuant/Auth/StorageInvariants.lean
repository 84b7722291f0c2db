import ApexQuant.Auth.StorageRules

namespace ApexQuant
namespace Auth

open Foundation

/-!
# The rules of the role tables along every run

A statement that a trigger guards keeps the rules: the trigger asks what they ask.
The others keep them when they do not do what a trigger on them would refuse, which
`keepsRules` says of each.
-/

/-- A text of the reserved domain. -/
def namesEmergencyStop (permission : Text) : Bool :=
  decide (permission = "emergency_stop".toList) || "emergency_stop:".toList.isPrefixOf permission

/-- What the triggers are there for. -/
structure RbacTables.Sound (tables : RbacTables) : Prop where
  exclusive : forall left, left ∈ tables.principalRoles -> forall right, right ∈ tables.principalRoles ->
    left.principalId = right.principalId -> forall exclusion, exclusion ∈ tables.roleMutualExclusions ->
      ¬ (exclusion.roleA = left.roleId ∧ exclusion.roleB = right.roleId)
  bound : forall held, held ∈ tables.principalRoles -> forall principal, principal ∈ tables.principals ->
    held.principalId = principal.principalId ->
      Exists fun binding => binding ∈ tables.rolePlaneBindings ∧ binding.roleId = held.roleId ∧
        binding.plane = principal.plane
  granted : forall grant, grant ∈ tables.permissionGrants -> namesEmergencyStop grant.permission = false
  permitted : forall row, row ∈ tables.rolePermissions -> namesEmergencyStop row.permission = false

/-- What the constraints add: a role is held by a principal that is there, and no role
excludes itself. -/
structure RbacTables.Consistent (tables : RbacTables) : Prop where
  known : forall held, held ∈ tables.principalRoles -> Exists fun principal => principal ∈ tables.principals ∧
    principal.principalId = held.principalId
  distinct : forall exclusion, exclusion ∈ tables.roleMutualExclusions -> exclusion.roleA ≠ exclusion.roleB

/-- The rules and the constraints. -/
def RbacTables.Lawful (tables : RbacTables) : Prop :=
  tables.Sound ∧ tables.Consistent

/-! ## What is not checked -/

/-- The permission of a row that is put in the place of another. -/
def replacedPermission {Row : Type} (permission : Row -> Text) : RowWrite Row -> Option Text
  | .insert _ => none
  | .update _ row => some (permission row)

/-- A principal holds both roles. -/
def RbacTables.holdsBoth (tables : RbacTables) (exclusion : RoleMutualExclusion) : Bool :=
  tables.principalRoles.rows.any fun left => tables.principalRoles.rows.any fun right =>
    decide (left.principalId = right.principalId ∧ exclusion.roleA = left.roleId ∧ exclusion.roleB = right.roleId)

/-- A principal on the plane holds the role. -/
def RbacTables.inUse (tables : RbacTables) (binding : RolePlaneBinding) : Bool :=
  tables.principalRoles.rows.any fun held => tables.principals.rows.any fun principal =>
    decide (held.principalId = principal.principalId ∧ held.roleId = binding.roleId ∧
      principal.plane = binding.plane)

/-- The statement does nothing that a trigger on it would have to refuse. -/
def RbacStatement.keepsRules (tables : RbacTables) : RbacStatement -> Bool
  | .rolePermissions (.write writes) => writes.all fun write =>
      (replacedPermission RolePermission.permission write).all fun permission => !namesEmergencyStop permission
  | .permissionGrants (.write writes) => writes.all fun write =>
      (replacedPermission PermissionGrant.permission write).all fun permission => !namesEmergencyStop permission
  | .roleMutualExclusions (.write writes) => writes.all fun write => !tables.holdsBoth write.row
  | .rolePlaneBindings command => tables.rolePlaneBindings.rows.all fun binding =>
      !tables.inUse binding || decide (binding ∈ command.rowsAfter tables.rolePlaneBindings.rows)
  | .principals (.write writes) => tables.principalRoles.rows.all fun held =>
      tables.principals.rows.all fun principal =>
        ((Command.write writes).rowsAfter tables.principals.rows).all fun row =>
          decide (held.principalId = principal.principalId -> row.principalId = principal.principalId ->
            row.plane = principal.plane)
  | _ => true

/-- The statement is refused. -/
def RbacStatement.refused (fold : Text.Lowercasing) (tables : RbacTables) (statement : RbacStatement) : Bool :=
  match statement.apply fold tables with
  | none => true
  | some after => !statement.isDelete && !after.referential

/-- The statement is refused or keeps the rules. -/
def RbacStatement.Harmless (fold : Text.Lowercasing) (tables : RbacTables) (statement : RbacStatement) : Prop :=
  (statement.refused fold tables || statement.keepsRules tables) = true

instance RbacStatement.Harmless.decidable (fold : Text.Lowercasing) (tables : RbacTables)
    (statement : RbacStatement) : Decidable (statement.Harmless fold tables) :=
  inferInstanceAs (Decidable (_ = true))

/-! ## The triggers -/

theorem isEmergencyStop_of_names {permission : Text} (names : namesEmergencyStop permission = true) :
    isEmergencyStop permission = true := by
  rcases Bool.or_eq_true_iff.mp names with whole | opens
  · exact Bool.or_eq_true_iff.mpr (Or.inl whole)
  · rcases List.isPrefixOf_iff_prefix.mp opens with ⟨rest, rfl⟩
    have front : "emergency_stop:".toList = ("emergency".toList ++ ['_']) ++ "stop:".toList := by decide
    rw [isEmergencyStop, front, List.append_assoc, List.drop_left' (by decide), List.append_assoc]
    apply Bool.or_eq_true_iff.mpr
    right
    apply Bool.and_eq_true_iff.mpr
    exact ⟨List.isPrefixOf_iff_prefix.mpr (List.prefix_append _ _),
      List.isPrefixOf_iff_prefix.mpr (List.prefix_append _ _)⟩

/-- A permission that the trigger or the condition has passed. -/
theorem not_names_of_carveout {permission : Text} (isInsert : Bool)
    (passed : RbacTables.emergencyStopCarveout isInsert permission = true)
    (replaced : isInsert = false -> namesEmergencyStop permission = false) : namesEmergencyStop permission = false := by
  cases isInsert with
  | false => exact replaced rfl
  | true =>
      rw [RbacTables.emergencyStopCarveout, Bool.true_and, Bool.not_eq_true'] at passed
      apply Bool.eq_false_iff.mpr
      intro names
      rw [isEmergencyStop_of_names names] at passed
      exact absurd passed nofun

theorem not_excluded_of_trigger {tables : RbacTables} {new held : PrincipalRole} {exclusion : RoleMutualExclusion}
    (passed : tables.mutualExclusion new = true) (member : held ∈ tables.principalRoles)
    (same : held.principalId = new.principalId) (listed : exclusion ∈ tables.roleMutualExclusions) :
    ¬ (exclusion.roleA = held.roleId ∧ exclusion.roleB = new.roleId) ∧
      ¬ (exclusion.roleB = held.roleId ∧ exclusion.roleA = new.roleId) := by
  rw [RbacTables.mutualExclusion, Bool.not_eq_true', List.any_eq_false] at passed
  have free := passed held member
  rw [Bool.not_eq_true, decide_eq_true same, Bool.true_and, List.any_eq_false] at free
  have pair := free exclusion listed
  constructor
  · rintro ⟨first, second⟩
    apply pair
    rw [decide_eq_true first, decide_eq_true second]
    rfl
  · rintro ⟨first, second⟩
    apply pair
    rw [decide_eq_true first, decide_eq_true second]
    exact Bool.or_true _

theorem exists_binding_of_trigger {tables : RbacTables} {new : PrincipalRole} {principal : Principal}
    (passed : tables.planeRoleBinding new = true) (member : principal ∈ tables.principals)
    (own : new.principalId = principal.principalId) :
    Exists fun binding => binding ∈ tables.rolePlaneBindings ∧ binding.roleId = new.roleId ∧
      binding.plane = principal.plane := by
  have found := Table.find_of_mem member
  rw [RbacTables.planeRoleBinding, own, found] at passed
  rcases List.any_eq_true.mp passed with ⟨binding, listed, both⟩
  rcases Bool.and_eq_true_iff.mp both with ⟨role, plane⟩
  exact ⟨binding, listed, of_decide_eq_true role, of_decide_eq_true plane⟩

/-! ## Statements by table -/

section Statements

variable {fold : Text.Lowercasing} {tables after : RbacTables}

/-- A role that is given to a principal keeps the rules. -/
theorem sound_of_principalRoles (sound : tables.Sound) (consistent : tables.Consistent)
    {command : Command PrincipalRole} (ran : RbacTables.principalRolesGuard.run tables command = some after) :
    after.Sound := by
  cases command with
  | delete doomed =>
      cases Option.some.inj ran
      exact
        { exclusive := fun left member right member' => sound.exclusive left (Table.mem_filter.mp member).1 right
            (Table.mem_filter.mp member').1
          bound := fun held member => sound.bound held (Table.mem_filter.mp member).1
          granted := sound.granted
          permitted := sound.permitted }
  | write writes =>
      have kept : after.Sound ∧ forall exclusion, exclusion ∈ after.roleMutualExclusions ->
          exclusion.roleA ≠ exclusion.roleB := by
        refine GuardedTable.write_invariant (fun state => state.Sound ∧ forall exclusion,
          exclusion ∈ state.roleMutualExclusions -> exclusion.roleA ≠ exclusion.roleB) ?_
          ⟨sound, consistent.distinct⟩ ran
        rintro state write next - ⟨holds, distinct⟩ written
        rcases GuardedTable.writeRow_cases written with ⟨table, rfl, rows, old, accepted, -⟩
        rcases Bool.and_eq_true_iff.mp accepted with ⟨exclusive, bound⟩
        have known : forall held, held ∈ table -> held ∈ state.principalRoles ∨ held = write.row := by
          intro held member
          change held ∈ table.rows at member
          rw [rows] at member
          exact GuardedTable.mem_rowsAfter member
        refine ⟨⟨?_, ?_, holds.granted, holds.permitted⟩, distinct⟩
        · rintro left member right member' same exclusion listed ⟨first, second⟩
          rcases known left member with before | rfl
          · rcases known right member' with before' | rfl
            · exact holds.exclusive left before right before' same exclusion listed ⟨first, second⟩
            · exact (not_excluded_of_trigger exclusive before same listed).1 ⟨first, second⟩
          · rcases known right member' with before' | rfl
            · exact (not_excluded_of_trigger exclusive before' same.symm listed).2 ⟨second, first⟩
            · exact distinct exclusion listed (first.trans second.symm)
        · intro held member principal listed own
          rcases known held member with before | rfl
          · exact holds.bound held before principal listed own
          · exact exists_binding_of_trigger bound listed own
      exact kept.1

/-- A table of permissions whose checks start with the trigger stays out of the reserved
domain, when no row that names it is replaced. -/
theorem unreserved_of_run {Row Key : Type} {key : Row -> Key} [DecidableEq Key] {guarded : GuardedTable RbacTables key}
    (permission : Row -> Text)
    (carveout : forall state old new, guarded.accepts state old new = true ->
      RbacTables.emergencyStopCarveout old.isNone (permission new) = true)
    {command : Command Row} (ran : guarded.run tables command = some after)
    (keeps : forall writes, command = .write writes -> forall write, write ∈ writes ->
      (replacedPermission permission write).all (fun replaced => !namesEmergencyStop replaced) = true)
    (initially : forall row, row ∈ guarded.read tables -> namesEmergencyStop (permission row) = false) :
    forall row, row ∈ guarded.read after -> namesEmergencyStop (permission row) = false := by
  cases command with
  | delete doomed =>
      cases Option.some.inj ran
      rw [guarded.read_put]
      exact fun row member => initially row (Table.mem_filter.mp member).1
  | write writes =>
      refine GuardedTable.write_invariant (fun state => forall row, row ∈ guarded.read state ->
        namesEmergencyStop (permission row) = false) ?_ initially ran
      intro state write next listed holds written row member
      rcases GuardedTable.writeRow_cases written with ⟨table, rfl, rows, old, accepted, kind⟩
      rw [guarded.read_put] at member
      change row ∈ table.rows at member
      rw [rows] at member
      rcases GuardedTable.mem_rowsAfter member with before | rfl
      · exact holds row before
      · apply not_names_of_carveout old.isNone (carveout state old _ accepted)
        intro replaced
        have free := keeps writes rfl write listed
        cases write with
        | insert row =>
            rw [kind] at replaced
            cases replaced
        | update index row => exact Bool.not_eq_true' _ ▸ free

theorem sound_of_rolePermissions (sound : tables.Sound) {command : Command RolePermission}
    (ran : (RbacTables.rolePermissionsGuard fold).run tables command = some after)
    (keeps : (RbacStatement.rolePermissions command).keepsRules tables = true) : after.Sound := by
  have permitted : forall row, row ∈ after.rolePermissions -> namesEmergencyStop row.permission = false := by
    refine unreserved_of_run RolePermission.permission ?_ ran ?_ sound.permitted
    · exact fun _ _ _ accepted => (Bool.and_eq_true_iff.mp accepted).1
    · rintro writes rfl
      exact List.all_eq_true.mp keeps
  rcases GuardedTable.run_frame ran with ⟨table, rfl, -⟩
  exact ⟨sound.exclusive, sound.bound, sound.granted, permitted⟩

theorem sound_of_permissionGrants (sound : tables.Sound) {command : Command PermissionGrant}
    (ran : (RbacTables.permissionGrantsGuard fold).run tables command = some after)
    (keeps : (RbacStatement.permissionGrants command).keepsRules tables = true) : after.Sound := by
  have granted : forall row, row ∈ after.permissionGrants -> namesEmergencyStop row.permission = false := by
    refine unreserved_of_run PermissionGrant.permission ?_ ran ?_ sound.granted
    · exact fun _ _ _ accepted => (Bool.and_eq_true_iff.mp (Bool.and_eq_true_iff.mp accepted).1).1
    · rintro writes rfl
      exact List.all_eq_true.mp keeps
  rcases GuardedTable.run_frame ran with ⟨table, rfl, -⟩
  exact ⟨sound.exclusive, sound.bound, granted, sound.permitted⟩

theorem sound_of_roleMutualExclusions (sound : tables.Sound) {command : Command RoleMutualExclusion}
    (ran : RbacTables.roleMutualExclusionsGuard.run tables command = some after)
    (keeps : (RbacStatement.roleMutualExclusions command).keepsRules tables = true) : after.Sound := by
  rcases GuardedTable.run_frame ran with ⟨table, rfl, rows⟩
  refine ⟨?_, sound.bound, sound.granted, sound.permitted⟩
  rintro left member right member' same exclusion listed ⟨first, second⟩
  change exclusion ∈ table.rows at listed
  rw [rows] at listed
  cases command with
  | delete doomed =>
      have before : exclusion ∈ tables.roleMutualExclusions := (List.mem_filter.mp listed).1
      exact sound.exclusive left member right member' same exclusion before ⟨first, second⟩
  | write writes =>
      rcases GuardedTable.mem_of_writes listed with before | ⟨write, written, rfl⟩
      · exact sound.exclusive left member right member' same exclusion before ⟨first, second⟩
      · have free := List.all_eq_true.mp keeps write written
        rw [Bool.not_eq_true', RbacTables.holdsBoth, List.any_eq_false] at free
        apply free left member
        apply List.any_eq_true.mpr
        exact ⟨right, member', decide_eq_true ⟨same, first, second⟩⟩

theorem sound_of_rolePlaneBindings (sound : tables.Sound) {command : Command RolePlaneBinding}
    (ran : RbacTables.rolePlaneBindingsGuard.run tables command = some after)
    (keeps : (RbacStatement.rolePlaneBindings command).keepsRules tables = true) : after.Sound := by
  rcases GuardedTable.run_frame ran with ⟨table, rfl, rows⟩
  refine ⟨sound.exclusive, ?_, sound.granted, sound.permitted⟩
  intro held member principal listed own
  rcases sound.bound held member principal listed own with ⟨binding, bound, role, plane⟩
  refine ⟨binding, ?_, role, plane⟩
  change binding ∈ table.rows
  rw [rows]
  have stays := List.all_eq_true.mp keeps binding bound
  rcases Bool.or_eq_true_iff.mp stays with unused | left
  · rw [Bool.not_eq_true', RbacTables.inUse, List.any_eq_false] at unused
    refine absurd (List.any_eq_true.mpr ⟨principal, listed, ?_⟩) (unused held member)
    exact decide_eq_true ⟨own, role.symm, plane.symm⟩
  · exact of_decide_eq_true left

theorem sound_of_principals (sound : tables.Sound) (consistent : tables.Consistent) {command : Command Principal}
    (ran : RbacTables.principalsGuard.run tables command = some after)
    (keeps : (RbacStatement.principals command).keepsRules tables = true) : after.Sound := by
  rcases GuardedTable.run_frame ran with ⟨table, rfl, rows⟩
  refine ⟨sound.exclusive, ?_, sound.granted, sound.permitted⟩
  intro held member principal listed own
  change principal ∈ table.rows at listed
  rw [rows] at listed
  cases command with
  | delete doomed => exact sound.bound held member principal (List.mem_filter.mp listed).1 own
  | write writes =>
      rcases consistent.known held member with ⟨before, known, same⟩
      rcases sound.bound held member before known same.symm with ⟨binding, bound, role, plane⟩
      have kept := List.all_eq_true.mp (List.all_eq_true.mp (List.all_eq_true.mp keeps held member) before known)
        principal listed
      refine ⟨binding, bound, role, plane.trans ?_⟩
      exact (of_decide_eq_true kept same.symm (own.symm.trans same.symm)).symm

/-! ## The end of a statement -/

theorem RbacTables.Sound.cascade (sound : tables.Sound) : tables.cascade.Sound where
  exclusive := fun left member right member' same exclusion listed =>
    sound.exclusive left (Table.mem_filter.mp member).1 right (Table.mem_filter.mp member').1 same exclusion
      (Table.mem_filter.mp listed).1
  bound := by
    intro held member principal listed own
    rcases Table.mem_filter.mp member with ⟨before, parents⟩
    rcases sound.bound held before principal listed own with ⟨binding, bound, role, plane⟩
    refine ⟨binding, Table.mem_filter.mpr ⟨bound, ?_⟩, role, plane⟩
    rw [role]
    exact (Bool.and_eq_true_iff.mp parents).2
  granted := fun grant member => sound.granted grant (Table.mem_filter.mp member).1
  permitted := fun row member => sound.permitted row (Table.mem_filter.mp member).1

theorem exists_of_knowsPrincipal {principalId : Id} (known : tables.knowsPrincipal principalId = true) :
    Exists fun principal => principal ∈ tables.principals ∧ principal.principalId = principalId := by
  rcases Option.isSome_iff_exists.mp known with ⟨principal, found⟩
  exact ⟨principal, Table.mem_of_find found⟩

theorem known_of_cascade (held : PrincipalRole) (member : held ∈ tables.cascade.principalRoles) :
    Exists fun principal => principal ∈ tables.cascade.principals ∧ principal.principalId = held.principalId :=
  exists_of_knowsPrincipal (Bool.and_eq_true_iff.mp (Table.mem_filter.mp member).2).1

theorem known_of_referential (checked : tables.referential = true) (held : PrincipalRole)
    (member : held ∈ tables.principalRoles) :
    Exists fun principal => principal ∈ tables.principals ∧ principal.principalId = held.principalId := by
  simp only [RbacTables.referential, Bool.and_eq_true] at checked
  have parents := List.all_eq_true.mp checked.1.1.1.2 held member
  exact exists_of_knowsPrincipal (Bool.and_eq_true_iff.mp parents).1

/-- No statement lets a role exclude itself. -/
theorem distinct_of_apply (consistent : tables.Consistent) {statement : RbacStatement}
    (applied : statement.apply fold tables = some after) :
    forall exclusion, exclusion ∈ after.roleMutualExclusions -> exclusion.roleA ≠ exclusion.roleB := by
  cases statement with
  | roleMutualExclusions command =>
      cases command with
      | delete doomed =>
          cases Option.some.inj applied
          exact fun exclusion member => consistent.distinct exclusion (Table.mem_filter.mp member).1
      | write writes =>
          refine GuardedTable.write_invariant (fun state => forall exclusion,
            exclusion ∈ state.roleMutualExclusions -> exclusion.roleA ≠ exclusion.roleB) ?_ consistent.distinct applied
          intro state write next _ holds written exclusion member
          rcases GuardedTable.writeRow_cases written with ⟨table, rfl, rows, old, accepted, -⟩
          change exclusion ∈ table.rows at member
          rw [rows] at member
          rcases GuardedTable.mem_rowsAfter member with before | rfl
          · exact holds exclusion before
          · exact of_decide_eq_true (Bool.and_eq_true_iff.mp accepted).1
  | roles command | rolePermissions command | principalRoles command | rolePlaneBindings command
  | permissionGrants command | principals command =>
      rcases GuardedTable.run_frame applied with ⟨table, rfl, -⟩
      exact consistent.distinct

theorem sound_of_apply (sound : tables.Sound) (consistent : tables.Consistent) {statement : RbacStatement}
    (applied : statement.apply fold tables = some after) (keeps : statement.keepsRules tables = true) :
    after.Sound := by
  cases statement with
  | roles command =>
      rcases GuardedTable.run_frame applied with ⟨table, rfl, -⟩
      exact ⟨sound.exclusive, sound.bound, sound.granted, sound.permitted⟩
  | rolePermissions command => exact sound_of_rolePermissions sound applied keeps
  | principalRoles command => exact sound_of_principalRoles sound consistent applied
  | rolePlaneBindings command => exact sound_of_rolePlaneBindings sound applied keeps
  | roleMutualExclusions command => exact sound_of_roleMutualExclusions sound applied keeps
  | permissionGrants command => exact sound_of_permissionGrants sound applied keeps
  | principals command => exact sound_of_principals sound consistent applied keeps

/-- A harmless statement keeps the rules. -/
theorem lawful_of_execute (lawful : tables.Lawful) {statement : RbacStatement}
    (harmless : statement.Harmless fold tables) : (statement.execute fold tables).Lawful := by
  rcases lawful with ⟨sound, consistent⟩
  unfold RbacStatement.Harmless RbacStatement.refused at harmless
  unfold RbacStatement.execute
  cases applied : statement.apply fold tables with
  | none => exact ⟨sound, consistent⟩
  | some after =>
      rw [applied] at harmless
      dsimp only at harmless ⊢
      have distinct := distinct_of_apply consistent applied
      cases deletes : statement.isDelete with
      | true =>
          rw [deletes, Bool.not_true, Bool.false_and, Bool.false_or] at harmless
          rw [if_pos rfl]
          refine ⟨(sound_of_apply sound consistent applied harmless).cascade, known_of_cascade, ?_⟩
          exact fun exclusion member => distinct exclusion (Table.mem_filter.mp member).1
      | false =>
          rw [if_neg Bool.false_ne_true]
          split
          · rename_i checked
            rw [deletes, checked, Bool.not_true, Bool.and_false, Bool.false_or] at harmless
            exact ⟨sound_of_apply sound consistent applied harmless, known_of_referential checked, distinct⟩
          · exact ⟨sound, consistent⟩

end Statements

/-- Along every run whose statements are harmless the rules hold. -/
theorem storage_rules_of_harmless (fold : Text.Lowercasing) (statements : List RbacStatement)
    (harmless : Run.Guarded (RbacStatement.execute fold) (fun tables statement => statement.Harmless fold tables)
      RbacTables.empty statements) :
    (rbacTablesAfter fold statements).Sound := by
  have initially : RbacTables.empty.Lawful := by
    refine ⟨⟨?_, ?_, ?_, ?_⟩, ⟨?_, ?_⟩⟩
    · exact fun _ member => absurd member List.not_mem_nil
    · exact fun _ member => absurd member List.not_mem_nil
    · exact fun _ member => absurd member List.not_mem_nil
    · exact fun _ member => absurd member List.not_mem_nil
    · exact fun _ member => absurd member List.not_mem_nil
    · exact fun _ member => absurd member List.not_mem_nil
  have keeps : forall (tables : RbacTables) (statement : RbacStatement), tables.Lawful ->
      statement.Harmless fold tables -> (statement.execute fold tables).Lawful :=
    fun _ _ lawful fine => lawful_of_execute lawful fine
  exact (Run.Guarded.invariant keeps harmless initially).1

/-- A viewer on the trading plane is set up, and its role is taken away again. -/
def viewerStatements : List RbacStatement :=
  [.roles (.write [.insert { roleId := 1, roleName := "VIEWER".toList }]),
    .rolePermissions (.write [.insert { roleId := 1, permission := "*:read".toList }]),
    .rolePlaneBindings (.write [.insert { roleId := 1, plane := .trading }]),
    .principals (.write [.insert { principalId := 5, subjectName := "desk".toList, principalType := .user,
                                   active := true, plane := .trading }]),
    .principalRoles (.write [.insert { principalId := 5, roleId := 1 }]),
    .principalRoles (.delete fun row => decide (row.principalId = 5)),
    .rolePlaneBindings (.delete fun row => decide (row.plane = .trading))]

theorem viewer_statements_keep_rules : (rbacTablesAfter Text.asciiLowercasing viewerStatements).Sound :=
  storage_rules_of_harmless Text.asciiLowercasing viewerStatements (by decide)

/-- A permission is inserted and then renamed. -/
def renamedPermission : List RbacStatement :=
  [.roles (.write [.insert { roleId := 1, roleName := "OPERATOR".toList }]),
    .rolePermissions (.write [.insert { roleId := 1, permission := "system:stop".toList }]),
    .rolePermissions (.write [.update 0 { roleId := 1, permission := "emergency_stop:global".toList }])]

/-- The trigger does not see an UPDATE. -/
theorem update_reaches_emergency_stop :
    ¬ forall statements, (rbacTablesAfter Text.asciiLowercasing statements).Sound := by
  intro sound
  have permitted := (sound renamedPermission).permitted { roleId := 1, permission := "emergency_stop:global".toList }
    (by
      change _ ∈ (rbacTablesAfter Text.asciiLowercasing renamedPermission).rolePermissions.rows
      decide)
  exact absurd permitted (by decide)

end Auth
end ApexQuant
