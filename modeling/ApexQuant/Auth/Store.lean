import ApexQuant.Auth.Permissions
import ApexQuant.Foundation.Database
import ApexQuant.Foundation.Table

namespace ApexQuant
namespace Auth

open Foundation
open Foundation.Database

/-!
# The auth store

The tables of `migrations/postgres/auth` and the statements that
`PostgresAuthRepository` runs on them.  The pool is opened with `autocommit`, so
every statement of a method is committed on its own and a method that fails
half-way leaves what it has written.

Row identifiers are drawn by the database; a drawn value is an argument of the
statement, and one that is taken is refused by the primary key.  Roles are read by
the reconciliation sweep only: the permissions of a token are direct grants.
-/

/-! ## Rows -/

inductive Plane where
  | control
  | marketData
  | trading
  | risk
  | ai
  | dataResearch
  | observability
  deriving DecidableEq, Repr

def Plane.value : Plane -> Text
  | .control => "CONTROL".toList
  | .marketData => "MARKET_DATA".toList
  | .trading => "TRADING".toList
  | .risk => "RISK".toList
  | .ai => "AI".toList
  | .dataResearch => "DATA_RESEARCH".toList
  | .observability => "OBSERVABILITY".toList

inductive PrincipalType where
  | service
  | admin
  | user
  deriving DecidableEq, Repr

def PrincipalType.value : PrincipalType -> Text
  | .service => "SERVICE".toList
  | .admin => "ADMIN".toList
  | .user => "USER".toList

inductive CredentialStatus where
  | active
  | revoked
  | expired
  deriving DecidableEq, Repr

/-- A value of a `UUID` column. -/
abbrev Id := Nat

/-- A row of `auth.principals`. -/
structure Principal where
  principalId : Id
  subjectName : Text
  principalType : PrincipalType
  active : Bool
  plane : Plane
  deriving DecidableEq

/-- A row of `auth.permission_grants`. -/
structure PermissionGrant where
  principalId : Id
  permission : Text
  expiresAt : Option Int
  deriving DecidableEq

def PermissionGrant.key (grant : PermissionGrant) : Id × Text :=
  (grant.principalId, grant.permission)

/-- A row of `auth.credentials`. -/
structure Credential where
  credentialId : Id
  principalId : Id
  identifier : Text
  secretHash : Text
  status : CredentialStatus
  expiresAt : Option Int
  lastUsedAt : Option Int
  deriving DecidableEq

/-- A row of `auth.principal_roles`. -/
structure PrincipalRole where
  principalId : Id
  roleId : Id
  deriving DecidableEq

def PrincipalRole.key (role : PrincipalRole) : Id × Id :=
  (role.principalId, role.roleId)

/-- A row of `auth.role_permissions`. -/
structure RolePermission where
  roleId : Id
  permission : Text
  deriving DecidableEq

def RolePermission.key (role : RolePermission) : Id × Text :=
  (role.roleId, role.permission)

/-- A row of `auth.auth_events`. -/
structure AuthEvent where
  subjectName : Text
  principalType : Option Text
  action : Text
  decision : Text
  reason : Text
  deriving DecidableEq

structure AuthStore where
  principals : Table Principal.principalId
  grants : Table PermissionGrant.key
  credentials : Table Credential.identifier
  principalRoles : Table PrincipalRole.key
  rolePermissions : Table RolePermission.key
  events : List AuthEvent

/-- The messages of `AuthSecurityError`. -/
inductive AuthSecurityError where
  | emptyApiKey
  | invalidApiKeyFormat
  | invalidApiKey
  | credentialNotActive
  | principalNotActive
  | notAuthorizedToCreate
  | notAuthorizedToRevoke
  | tokenExpired
  deriving DecidableEq, Repr

def AuthSecurityError.message : AuthSecurityError -> String
  | .emptyApiKey => "API key must not be empty"
  | .invalidApiKeyFormat => "invalid API key format"
  | .invalidApiKey => "invalid API key"
  | .credentialNotActive => "credential is not active"
  | .principalNotActive => "principal is not active"
  | .notAuthorizedToCreate => "caller is not authorized to create API keys"
  | .notAuthorizedToRevoke => "caller is not authorized to revoke API keys"
  | .tokenExpired => "token expired"

/-- The ways in which the service and its repository raise. -/
inductive AuthError where
  | security (error : AuthSecurityError)
  | nulByte
  | emergencyStop
  | checkViolation
  | uniqueViolation
  | foreignKeyViolation
  /-- An error of the password hasher other than a mismatch. -/
  | hashing
  deriving DecidableEq, Repr

/-! ## Constraints -/

/-- `auth.is_valid_permission`. -/
def isValidPermission (fold : Text.Lowercasing) (p : Text) : Bool :=
  if p = [] then false
  else if p = wildcard then true
  else if p ≠ fold.lower p then false
  else
    let segs := List.splitOn ':' p
    if segs.length < 2 ∨ segs.length > 3 then false
    else segs.all fun seg => decide (seg = wildcard) || Rbac.word seg

/-- The condition of `auth.enforce_emergency_stop_carveout`.  In a `LIKE` pattern the
underscore stands for any one character. -/
def isEmergencyStop (permission : Text) : Bool :=
  decide (permission = "emergency_stop".toList) ||
    ("emergency".toList.isPrefixOf permission && "stop:".toList.isPrefixOf (permission.drop 10))

/-! ## Statements -/

/-- The upsert of a principal in `create_principal` and `ensure_bootstrap`.  A new
principal is on the default plane; the plane of a known one is not touched. -/
def upsertPrincipal (drawn : Id) (subjectName : Text) (principalType : PrincipalType) (store : AuthStore) :
    Except AuthError Id × AuthStore :=
  if Text.sendable subjectName = false then (.error .nulByte, store)
  else if Text.notBlank subjectName = false then (.error .checkViolation, store)
  else
    match store.principals.rows.find? fun row => decide (row.subjectName = subjectName) with
    | some known =>
        let change (row : Principal) : Principal :=
          if row.principalId = known.principalId then { row with principalType := principalType, active := true }
          else row
        have keeps : forall row, (change row).principalId = row.principalId := by
          intro row
          dsimp only [change]
          split <;> rfl
        (.ok known.principalId, { store with principals := store.principals.update change keeps })
    | none =>
        match store.principals.insert
          { principalId := drawn, subjectName := subjectName, principalType := principalType, active := true,
            plane := .control } with
        | none => (.error .uniqueViolation, store)
        | some principals => (.ok drawn, { store with principals := principals })

/-- `INSERT INTO auth.permission_grants ... ON CONFLICT DO NOTHING`. -/
def insertGrant (fold : Text.Lowercasing) (principalId : Id) (permission : Text) (store : AuthStore) :
    Except AuthError Unit × AuthStore :=
  if Text.sendable permission = false then (.error .nulByte, store)
  else if isEmergencyStop permission then (.error .emergencyStop, store)
  else if (Text.notBlank permission && isValidPermission fold permission) = false then (.error .checkViolation, store)
  else
    match store.grants.insert { principalId := principalId, permission := permission, expiresAt := none } with
    | none => (.ok (), store)
    | some grants =>
        if (store.principals.find principalId).isNone then (.error .foreignKeyViolation, store)
        else (.ok (), { store with grants := grants })

/-- The insert of `create_credential`. -/
def insertCredential (drawn principalId : Id) (identifier secretHash : Text) (expiresAt : Option Int)
    (store : AuthStore) : Except AuthError Unit × AuthStore :=
  if (Text.sendable identifier && Text.sendable secretHash) = false then (.error .nulByte, store)
  else if (Text.notBlank identifier && Text.notBlank secretHash) = false then (.error .checkViolation, store)
  else if store.credentials.rows.any (fun row => decide (row.credentialId = drawn)) then (.error .uniqueViolation, store)
  else
    match store.credentials.insert
      { credentialId := drawn, principalId := principalId, identifier := identifier, secretHash := secretHash,
        status := .active, expiresAt := expiresAt, lastUsedAt := none } with
    | none => (.error .uniqueViolation, store)
    | some credentials =>
        if (store.principals.find principalId).isNone then (.error .foreignKeyViolation, store)
        else (.ok (), { store with credentials := credentials })

/-- The credential upsert of `ensure_bootstrap`. -/
def upsertBootstrapCredential (drawn principalId : Id) (identifier secretHash : Text) (store : AuthStore) :
    Except AuthError Unit × AuthStore :=
  match store.credentials.find identifier with
  | none => insertCredential drawn principalId identifier secretHash none store
  | some _ =>
      if (Text.sendable identifier && Text.sendable secretHash) = false then (.error .nulByte, store)
      else if (Text.notBlank identifier && Text.notBlank secretHash) = false then (.error .checkViolation, store)
      else if (store.principals.find principalId).isNone then (.error .foreignKeyViolation, store)
      else
        let change (row : Credential) : Credential :=
          if row.identifier = identifier then
            { row with principalId := principalId, secretHash := secretHash, status := .active, expiresAt := none }
          else row
        have keeps : forall row, (change row).identifier = row.identifier := by
          intro row
          dsimp only [change]
          split <;> rfl
        (.ok (), { store with credentials := store.credentials.update change keeps })

/-- The update of `revoke_credential`, which answers whether a row was found. -/
def setRevoked (identifier : Text) (store : AuthStore) : Except AuthError Bool × AuthStore :=
  if Text.sendable identifier = false then (.error .nulByte, store)
  else
    let change (row : Credential) : Credential :=
      if row.identifier = identifier then { row with status := .revoked } else row
    have keeps : forall row, (change row).identifier = row.identifier := by
      intro row
      dsimp only [change]
      split <;> rfl
    (.ok (store.credentials.find identifier).isSome,
      { store with credentials := store.credentials.update change keeps })

/-- The update of `update_last_used`. -/
def setLastUsed (credentialId : Id) (now : Int) (store : AuthStore) : Except AuthError Unit × AuthStore :=
  let change (row : Credential) : Credential :=
    if row.credentialId = credentialId then { row with lastUsedAt := some now } else row
  have keeps : forall row, (change row).identifier = row.identifier := by
    intro row
    dsimp only [change]
    split <;> rfl
  (.ok (), { store with credentials := store.credentials.update change keeps })

/-- The insert of `record_event`. -/
def insertEvent (event : AuthEvent) (store : AuthStore) : Except AuthError Unit × AuthStore :=
  if ([event.subjectName, event.action, event.decision, event.reason] ++
      event.principalType.toList).all Text.sendable = false then (.error .nulByte, store)
  else if (Text.notBlank event.subjectName && Text.notBlank event.action &&
      ["ALLOW".toList, "DENY".toList, "SUCCESS".toList, "FAILURE".toList].contains event.decision) = false then
    (.error .checkViolation, store)
  else (.ok (), { store with events := store.events ++ [event] })

/-- The join of `get_credential_with_principal`. -/
def AuthStore.credentialWithPrincipal (store : AuthStore) (identifier : Text) : Option (Credential × Principal) :=
  (store.credentials.find identifier).bind fun credential =>
    (store.principals.find credential.principalId).map fun principal => (credential, principal)

/-- The query of `get_permissions`, in the order of the database's collation. -/
def AuthStore.permissions (collation : Text -> Text -> Bool) (store : AuthStore) (principalId : Id) (now : Int) :
    List Text :=
  ((store.grants.rows.filter fun grant =>
      decide (grant.principalId = principalId) && grant.expiresAt.all fun expiry => decide (now < expiry)).map
    PermissionGrant.permission).insertionSort fun a b => collation a b = true

/-! ## Repository methods -/

/-- `create_principal`. -/
def createPrincipal (drawn : Id) (subjectName : Text) (principalType : PrincipalType) : Program AuthError AuthStore Id :=
  statement (upsertPrincipal drawn subjectName principalType)

/-- `grant_permissions`. -/
def grantPermissions (fold : Text.Lowercasing) (principalId : Id) (permissions : List Text) :
    Program AuthError AuthStore PUnit :=
  ForM.forM permissions fun permission => statement (insertGrant fold principalId permission)

/-- `create_credential`. -/
def createCredential (drawn principalId : Id) (identifier secretHash : Text) (expiresAt : Option Int) :
    Program AuthError AuthStore Unit :=
  statement (insertCredential drawn principalId identifier secretHash expiresAt)

/-- `revoke_credential`. -/
def revokeCredential (identifier : Text) : Program AuthError AuthStore Bool :=
  statement (setRevoked identifier)

/-- `update_last_used`. -/
def updateLastUsed (credentialId : Id) (now : Int) : Program AuthError AuthStore Unit :=
  statement (setLastUsed credentialId now)

/-- `record_event`. -/
def recordEvent (subjectName : Text) (principalType : Option Text) (action decision reason : Text) :
    Program AuthError AuthStore Unit :=
  statement (insertEvent
    { subjectName := subjectName, principalType := principalType, action := action, decision := decision,
      reason := reason })

/-- `get_credential_with_principal`. -/
def getCredentialWithPrincipal (identifier : Text) : Program AuthError AuthStore (Option (Credential × Principal)) :=
  statement fun store =>
    if Text.sendable identifier = false then (.error .nulByte, store)
    else (.ok (store.credentialWithPrincipal identifier), store)

/-- `get_permissions`. -/
def getPermissions (collation : Text -> Text -> Bool) (principalId : Id) (now : Int) :
    Program AuthError AuthStore (List Text) :=
  query fun store => store.permissions collation principalId now

/-! ## What the statements do -/

/-- A text that a required column takes. -/
def recordable (value : Text) : Bool :=
  Text.sendable value && Text.notBlank value

theorem wellFormed_of_isValidPermission {fold : Text.Lowercasing} {permission : Text}
    (valid : isValidPermission fold permission = true) : wellFormed permission = true := by
  unfold isValidPermission at valid
  unfold wellFormed
  by_cases whole : permission = wildcard
  · rw [decide_eq_true whole, Bool.true_or]
  · rw [if_neg whole] at valid
    split at valid
    · exact absurd valid Bool.false_ne_true
    · split at valid
      · exact absurd valid Bool.false_ne_true
      · dsimp only at valid
        split at valid
        · exact absurd valid Bool.false_ne_true
        · rename_i sized
          rw [not_or, Nat.not_lt, gt_iff_lt, Nat.not_lt] at sized
          rw [decide_eq_true sized.1, decide_eq_true sized.2, valid]
          exact Bool.or_true _

/-- The upsert is refused, changes a known principal in place without its name and
plane, or adds one on the default plane under a name nobody had. -/
theorem upsertPrincipal_cases (drawn : Id) (subjectName : Text) (principalType : PrincipalType) (store : AuthStore) :
    (Exists fun error => upsertPrincipal drawn subjectName principalType store = (.error error, store)) ∨
    (Exists fun known => Exists fun change : Principal -> Principal =>
      Exists fun keeps : forall row, (change row).principalId = row.principalId =>
        known ∈ store.principals ∧ known.subjectName = subjectName ∧
        (forall row, (change row).subjectName = row.subjectName ∧ (change row).plane = row.plane) ∧
        upsertPrincipal drawn subjectName principalType store =
          (.ok known.principalId, { store with principals := store.principals.update change keeps })) ∨
    (Exists fun added : Principal => Exists fun principals =>
      added.principalId = drawn ∧ added.subjectName = subjectName ∧ added.plane = .control ∧
        recordable subjectName = true ∧ (forall row, row ∈ store.principals -> row.subjectName ≠ subjectName) ∧
        store.principals.insert added = some principals ∧
        upsertPrincipal drawn subjectName principalType store =
          (.ok drawn, { store with principals := principals })) := by
  unfold upsertPrincipal
  split
  · exact Or.inl ⟨_, rfl⟩
  · split
    · exact Or.inl ⟨_, rfl⟩
    · rename_i sendable notBlank
      have accepted : recordable subjectName = true :=
        Bool.and_eq_true_iff.mpr ⟨Bool.eq_true_of_not_eq_false sendable, Bool.eq_true_of_not_eq_false notBlank⟩
      split
      · rename_i known found
        let change (row : Principal) : Principal :=
          if row.principalId = known.principalId then { row with principalType := principalType, active := true }
          else row
        have same : forall row, (change row).principalId = row.principalId ∧
            (change row).subjectName = row.subjectName ∧ (change row).plane = row.plane := by
          intro row
          dsimp only [change]
          split <;> exact ⟨rfl, rfl, rfl⟩
        refine Or.inr (Or.inl ⟨known, change, fun row => (same row).1, List.mem_of_find?_eq_some found, ?_,
          fun row => (same row).2, rfl⟩)
        simpa using List.find?_some found
      · rename_i unknown
        split
        · exact Or.inl ⟨_, rfl⟩
        · rename_i principals inserted
          refine Or.inr (Or.inr ⟨_, principals, rfl, rfl, rfl, accepted, ?_, inserted, rfl⟩)
          intro row member
          simpa using List.find?_eq_none.mp unknown row member

/-- The insert of a grant leaves the store alone, or adds the row for a permission
of the grammar. -/
theorem insertGrant_cases (fold : Text.Lowercasing) (principalId : Id) (permission : Text) (store : AuthStore) :
    (insertGrant fold principalId permission store).2 = store ∨
    (Exists fun grants => isValidPermission fold permission = true ∧
      store.grants.insert { principalId := principalId, permission := permission, expiresAt := none } = some grants ∧
      (insertGrant fold principalId permission store).2 = { store with grants := grants }) := by
  unfold insertGrant
  split
  · exact Or.inl rfl
  · split
    · exact Or.inl rfl
    · split
      · exact Or.inl rfl
      · rename_i checked
        have valid := (Bool.and_eq_true_iff.mp (Bool.eq_true_of_not_eq_false checked)).2
        split
        · exact Or.inl rfl
        · rename_i grants inserted
          split
          · exact Or.inl rfl
          · exact Or.inr ⟨grants, valid, inserted, rfl⟩

/-- Neither principals nor grants have changed. -/
def AuthStore.SameGrants (before after : AuthStore) : Prop :=
  after.principals = before.principals ∧ after.grants = before.grants

theorem insertCredential_sameGrants (drawn principalId : Id) (identifier secretHash : Text) (expiresAt : Option Int)
    (store : AuthStore) :
    store.SameGrants (insertCredential drawn principalId identifier secretHash expiresAt store).2 := by
  unfold insertCredential
  split
  · exact ⟨rfl, rfl⟩
  · split
    · exact ⟨rfl, rfl⟩
    · split
      · exact ⟨rfl, rfl⟩
      · split
        · exact ⟨rfl, rfl⟩
        · split <;> exact ⟨rfl, rfl⟩

theorem upsertBootstrapCredential_sameGrants (drawn principalId : Id) (identifier secretHash : Text)
    (store : AuthStore) :
    store.SameGrants (upsertBootstrapCredential drawn principalId identifier secretHash store).2 := by
  unfold upsertBootstrapCredential
  split
  · exact insertCredential_sameGrants _ _ _ _ _ _
  · split
    · exact ⟨rfl, rfl⟩
    · split
      · exact ⟨rfl, rfl⟩
      · split <;> exact ⟨rfl, rfl⟩

theorem setRevoked_sameGrants (identifier : Text) (store : AuthStore) :
    store.SameGrants (setRevoked identifier store).2 := by
  unfold setRevoked
  split <;> exact ⟨rfl, rfl⟩

theorem setLastUsed_sameGrants (credentialId : Id) (now : Int) (store : AuthStore) :
    store.SameGrants (setLastUsed credentialId now store).2 :=
  ⟨rfl, rfl⟩

theorem insertEvent_sameGrants (event : AuthEvent) (store : AuthStore) :
    store.SameGrants (insertEvent event store).2 := by
  unfold insertEvent
  split
  · exact ⟨rfl, rfl⟩
  · split <;> exact ⟨rfl, rfl⟩

/-- A credential is read together with the principal it belongs to. -/
theorem AuthStore.credentialWithPrincipal_spec {store : AuthStore} {identifier : Text} {credential : Credential}
    {principal : Principal} (found : store.credentialWithPrincipal identifier = some (credential, principal)) :
    principal ∈ store.principals ∧ principal.principalId = credential.principalId := by
  rcases Option.bind_eq_some_iff.mp found with ⟨read, -, joined⟩
  rcases Option.map_eq_some_iff.mp joined with ⟨owner, owned, same⟩
  rw [Prod.mk.injEq] at same
  rcases same with ⟨rfl, rfl⟩
  exact Table.mem_of_find owned

/-- The permissions of a principal are permissions of its grants. -/
theorem AuthStore.mem_permissions {collation : Text -> Text -> Bool} {store : AuthStore} {principalId : Id} {now : Int}
    {permission : Text} (listed : permission ∈ store.permissions collation principalId now) :
    Exists fun grant => grant ∈ store.grants ∧ grant.principalId = principalId ∧ grant.permission = permission := by
  unfold AuthStore.permissions at listed
  rw [List.mem_insertionSort] at listed
  rcases List.mem_map.mp listed with ⟨grant, kept, named⟩
  rcases List.mem_filter.mp kept with ⟨member, current⟩
  exact ⟨grant, member, of_decide_eq_true (Bool.and_eq_true_iff.mp current).1, named⟩

end Auth
end ApexQuant
