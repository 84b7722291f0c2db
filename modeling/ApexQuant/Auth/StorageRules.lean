import ApexQuant.Auth.Store
import ApexQuant.Foundation.Commands
import ApexQuant.Foundation.Runs

namespace ApexQuant
namespace Auth

open Foundation

/-!
# What the role tables enforce

The tables of `0002_rbac.sql` with their constraints and triggers, under arbitrary
statements.  Three rules relate the rows of several tables, or forbid some texts, and
each trigger guards them on some statements of one table: a role is checked against
exclusions and bindings when it is given to a principal, a permission is checked
against the reserved domain when it is inserted.  The other statements that can break
a rule are not checked.
-/

/-! ## Rows -/

/-- A row of `auth.roles`. -/
structure Role where
  roleId : Id
  roleName : Text
  deriving DecidableEq

/-- A row of `auth.role_plane_bindings`. -/
structure RolePlaneBinding where
  roleId : Id
  plane : Plane
  deriving DecidableEq

def RolePlaneBinding.key (binding : RolePlaneBinding) : Id × Plane :=
  (binding.roleId, binding.plane)

/-- A row of `auth.role_mutual_exclusions`. -/
structure RoleMutualExclusion where
  roleA : Id
  roleB : Id
  deriving DecidableEq

def RoleMutualExclusion.key (exclusion : RoleMutualExclusion) : Id × Id :=
  (exclusion.roleA, exclusion.roleB)

structure RbacTables where
  roles : Table Role.roleId
  rolePermissions : Table RolePermission.key
  principalRoles : Table PrincipalRole.key
  rolePlaneBindings : Table RolePlaneBinding.key
  roleMutualExclusions : Table RoleMutualExclusion.key
  permissionGrants : Table PermissionGrant.key
  principals : Table Principal.principalId

namespace RbacTables

/-- The tables as they are created. -/
def empty : RbacTables where
  roles := Table.empty
  rolePermissions := Table.empty
  principalRoles := Table.empty
  rolePlaneBindings := Table.empty
  roleMutualExclusions := Table.empty
  permissionGrants := Table.empty
  principals := Table.empty

/-! ## Triggers and constraints -/

/-- `auth.enforce_emergency_stop_carveout`, which runs before an INSERT only. -/
def emergencyStopCarveout (isInsert : Bool) (permission : Text) : Bool :=
  !(isInsert && isEmergencyStop permission)

/-- `auth.enforce_plane_immutable`, which runs before an UPDATE. -/
def planeImmutable (old : Option Principal) (new : Principal) : Bool :=
  old.all fun row => decide (new.plane = row.plane)

/-- `auth.enforce_mutual_exclusion`. -/
def mutualExclusion (tables : RbacTables) (new : PrincipalRole) : Bool :=
  !(tables.principalRoles.rows.any fun held =>
    decide (held.principalId = new.principalId) && tables.roleMutualExclusions.rows.any fun exclusion =>
      (decide (exclusion.roleA = held.roleId) && decide (exclusion.roleB = new.roleId)) ||
        (decide (exclusion.roleB = held.roleId) && decide (exclusion.roleA = new.roleId)))

/-- `auth.enforce_plane_role_binding`. -/
def planeRoleBinding (tables : RbacTables) (new : PrincipalRole) : Bool :=
  match tables.principals.find new.principalId with
  | none => false
  | some principal => tables.rolePlaneBindings.rows.any fun binding =>
      decide (binding.roleId = new.roleId) && decide (binding.plane = principal.plane)

/-- A unique column: no other row has the value. -/
def unique {Row Value : Type} [DecidableEq Row] [DecidableEq Value] (column : Row -> Value) (rows : List Row)
    (old : Option Row) (new : Row) : Bool :=
  rows.all fun row => decide (old = some row) || decide (column row ≠ column new)

/-- `role_mutual_exclusions_canonical_idx`. -/
def canonicalPair (exclusion : RoleMutualExclusion) : Id × Id :=
  (min exclusion.roleA exclusion.roleB, max exclusion.roleA exclusion.roleB)

def rolesGuard : GuardedTable RbacTables Role.roleId where
  read := roles
  put := fun table tables => { tables with roles := table }
  accepts := fun tables old new => Text.notBlank new.roleName && unique Role.roleName tables.roles.rows old new
  read_put := fun _ _ => rfl
  put_read := fun _ => rfl
  put_put := fun _ _ _ => rfl

def rolePermissionsGuard (fold : Text.Lowercasing) : GuardedTable RbacTables RolePermission.key where
  read := rolePermissions
  put := fun table tables => { tables with rolePermissions := table }
  accepts := fun _ old new =>
    emergencyStopCarveout old.isNone new.permission && isValidPermission fold new.permission
  read_put := fun _ _ => rfl
  put_read := fun _ => rfl
  put_put := fun _ _ _ => rfl

def principalRolesGuard : GuardedTable RbacTables PrincipalRole.key where
  read := principalRoles
  put := fun table tables => { tables with principalRoles := table }
  accepts := fun tables _ new => tables.mutualExclusion new && tables.planeRoleBinding new
  read_put := fun _ _ => rfl
  put_read := fun _ => rfl
  put_put := fun _ _ _ => rfl

def rolePlaneBindingsGuard : GuardedTable RbacTables RolePlaneBinding.key where
  read := rolePlaneBindings
  put := fun table tables => { tables with rolePlaneBindings := table }
  accepts := fun _ _ _ => true
  read_put := fun _ _ => rfl
  put_read := fun _ => rfl
  put_put := fun _ _ _ => rfl

def roleMutualExclusionsGuard : GuardedTable RbacTables RoleMutualExclusion.key where
  read := roleMutualExclusions
  put := fun table tables => { tables with roleMutualExclusions := table }
  accepts := fun tables old new =>
    decide (new.roleA ≠ new.roleB) && unique canonicalPair tables.roleMutualExclusions.rows old new
  read_put := fun _ _ => rfl
  put_read := fun _ => rfl
  put_put := fun _ _ _ => rfl

def permissionGrantsGuard (fold : Text.Lowercasing) : GuardedTable RbacTables PermissionGrant.key where
  read := permissionGrants
  put := fun table tables => { tables with permissionGrants := table }
  accepts := fun _ old new => emergencyStopCarveout old.isNone new.permission && Text.notBlank new.permission &&
    isValidPermission fold new.permission
  read_put := fun _ _ => rfl
  put_read := fun _ => rfl
  put_put := fun _ _ _ => rfl

def principalsGuard : GuardedTable RbacTables Principal.principalId where
  read := principals
  put := fun table tables => { tables with principals := table }
  accepts := fun tables old new => planeImmutable old new && Text.notBlank new.subjectName &&
    unique Principal.subjectName tables.principals.rows old new
  read_put := fun _ _ => rfl
  put_read := fun _ => rfl
  put_put := fun _ _ _ => rfl

/-! ## Statements -/

/-- The foreign keys of a row, of which a role or a principal can be the parent. -/
def knowsRole (tables : RbacTables) (roleId : Id) : Bool :=
  (tables.roles.find roleId).isSome

def knowsPrincipal (tables : RbacTables) (principalId : Id) : Bool :=
  (tables.principals.find principalId).isSome

/-- The check of the foreign keys at the end of a statement that writes. -/
def referential (tables : RbacTables) : Bool :=
  (tables.rolePermissions.rows.all fun row => tables.knowsRole row.roleId) &&
    (tables.principalRoles.rows.all fun row => tables.knowsPrincipal row.principalId && tables.knowsRole row.roleId) &&
    (tables.rolePlaneBindings.rows.all fun row => tables.knowsRole row.roleId) &&
    (tables.roleMutualExclusions.rows.all fun row => tables.knowsRole row.roleA && tables.knowsRole row.roleB) &&
    (tables.permissionGrants.rows.all fun row => tables.knowsPrincipal row.principalId)

/-- `ON DELETE CASCADE`. -/
def cascade (tables : RbacTables) : RbacTables :=
  { tables with
    rolePermissions := tables.rolePermissions.filter fun row => tables.knowsRole row.roleId
    principalRoles := tables.principalRoles.filter fun row =>
      tables.knowsPrincipal row.principalId && tables.knowsRole row.roleId
    rolePlaneBindings := tables.rolePlaneBindings.filter fun row => tables.knowsRole row.roleId
    roleMutualExclusions := tables.roleMutualExclusions.filter fun row =>
      tables.knowsRole row.roleA && tables.knowsRole row.roleB
    permissionGrants := tables.permissionGrants.filter fun row => tables.knowsPrincipal row.principalId }

end RbacTables

/-- A statement on one of the tables. -/
inductive RbacStatement where
  | roles (command : Command Role)
  | rolePermissions (command : Command RolePermission)
  | principalRoles (command : Command PrincipalRole)
  | rolePlaneBindings (command : Command RolePlaneBinding)
  | roleMutualExclusions (command : Command RoleMutualExclusion)
  | permissionGrants (command : Command PermissionGrant)
  | principals (command : Command Principal)

namespace RbacStatement

def isDelete : RbacStatement -> Bool
  | .roles (.delete _) | .rolePermissions (.delete _) | .principalRoles (.delete _) | .rolePlaneBindings (.delete _)
  | .roleMutualExclusions (.delete _) | .permissionGrants (.delete _) | .principals (.delete _) => true
  | _ => false

/-- The rows of a statement, checked one after the other. -/
def apply (fold : Text.Lowercasing) (tables : RbacTables) : RbacStatement -> Option RbacTables
  | .roles command => RbacTables.rolesGuard.run tables command
  | .rolePermissions command => (RbacTables.rolePermissionsGuard fold).run tables command
  | .principalRoles command => RbacTables.principalRolesGuard.run tables command
  | .rolePlaneBindings command => RbacTables.rolePlaneBindingsGuard.run tables command
  | .roleMutualExclusions command => RbacTables.roleMutualExclusionsGuard.run tables command
  | .permissionGrants command => (RbacTables.permissionGrantsGuard fold).run tables command
  | .principals command => RbacTables.principalsGuard.run tables command

/-- A statement: it is accepted as a whole, or leaves the tables alone. -/
def execute (fold : Text.Lowercasing) (tables : RbacTables) (statement : RbacStatement) : RbacTables :=
  match statement.apply fold tables with
  | none => tables
  | some after =>
      if statement.isDelete then after.cascade
      else if after.referential then after
      else tables

end RbacStatement

/-- The tables after a sequence of statements. -/
def rbacTablesAfter (fold : Text.Lowercasing) (statements : List RbacStatement) : RbacTables :=
  statements.foldl (RbacStatement.execute fold) RbacTables.empty

end Auth
end ApexQuant
