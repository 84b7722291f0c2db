import ApexQuant.Auth.Revocation

namespace ApexQuant
namespace Auth

open Foundation
open Foundation.Database

/-!
# What a new key does to the old ones

`create_api_key` asks for a principal by its subject name.  A name that nobody has
gets a principal of its own, and the older keys are left alone.  A name that is there
gets the principal that has it: it is active from then on, whatever it was before,
and what the request lists is granted to it, that is, to every key of it.
-/

/-- The principal of a subject name. -/
def AuthStore.named (store : AuthStore) (subjectName : Text) : Option Principal :=
  store.principals.rows.find? fun row => decide (row.subjectName = subjectName)

/-- The principal has a grant of the permission, whether it has expired or not. -/
def AuthStore.HasGrant (store : AuthStore) (principalId : Id) (permission : Text) : Prop :=
  (store.grants.find (principalId, permission)).isSome = true

/-- The foreign keys of credentials and grants. -/
structure AuthStore.Linked (store : AuthStore) : Prop where
  owned : forall credential, credential ∈ store.credentials -> (store.principals.find credential.principalId).isSome = true
  granted : forall grant, grant ∈ store.grants -> (store.principals.find grant.principalId).isSome = true

/-! ## The authority of a key -/

/-- What the checks of `issue_token` make of a key. -/
def AuthStore.authority (deployment : Deployment) (store : AuthStore) (moment : Int) (identifier secret : Text) :
    Option (List Text) :=
  (store.credentialWithPrincipal identifier).bind fun row =>
    if row.1.status = .active ∧ row.2.active = true ∧ deployment.hasher.verify row.1.secretHash secret = .verified then
      some (store.permissions deployment.collation row.2.principalId moment)
    else none

/-- The upsert of a principal as a change of its row. -/
def revived (known : Principal) (principalType : PrincipalType) (row : Principal) : Principal :=
  if row.principalId = known.principalId then { row with principalType := principalType, active := true } else row

theorem principalId_revived (known : Principal) (principalType : PrincipalType) (row : Principal) :
    (revived known principalType row).principalId = row.principalId := by
  unfold revived
  split <;> rfl

/-- The grants of one principal have been added that were missing. -/
def AuthStore.Granted (principalId : Id) (permissions : List Text) (before after : AuthStore) : Prop :=
  Exists fun grants : Table PermissionGrant.key => Exists fun added : List PermissionGrant =>
    after = { before with grants := grants } ∧ grants.rows = before.grants.rows ++ added ∧
      (forall grant, grant ∈ added -> grant.principalId = principalId ∧ grant.permission ∈ permissions) ∧
      (forall permission, permission ∈ permissions -> after.HasGrant principalId permission) ∧
      forall permission, permission ∈ permissions -> ¬ before.HasGrant principalId permission ->
        { principalId := principalId, permission := permission, expiresAt := none } ∈ added

theorem AuthStore.hasGrant_iff {store : AuthStore} {principalId : Id} {permission : Text} :
    store.HasGrant principalId permission <-> Exists fun grant => grant ∈ store.grants ∧
      grant.principalId = principalId ∧ grant.permission = permission := by
  unfold AuthStore.HasGrant
  rw [Option.isSome_iff_exists]
  constructor
  · rintro ⟨grant, found⟩
    rcases Table.mem_of_find found with ⟨member, keyed⟩
    exact ⟨grant, member, congrArg Prod.fst keyed, congrArg Prod.snd keyed⟩
  · rintro ⟨grant, member, rfl, rfl⟩
    exact ⟨grant, Table.find_of_mem member⟩

theorem AuthStore.HasGrant.mono {before after : AuthStore} {added : List PermissionGrant} {principalId : Id}
    {permission : Text} (rows : after.grants.rows = before.grants.rows ++ added)
    (held : before.HasGrant principalId permission) : after.HasGrant principalId permission := by
  rcases AuthStore.hasGrant_iff.mp held with ⟨grant, member, own, named⟩
  refine AuthStore.hasGrant_iff.mpr ⟨grant, ?_, own, named⟩
  change grant ∈ after.grants.rows
  rw [rows]
  exact List.mem_append_left _ member

theorem AuthStore.Granted.nil (principalId : Id) (store : AuthStore) : store.Granted principalId [] store :=
  ⟨store.grants, [], rfl, (List.append_nil _).symm, fun _ member => absurd member List.not_mem_nil,
    fun _ member => absurd member List.not_mem_nil, fun _ member => absurd member List.not_mem_nil⟩

theorem AuthStore.Granted.cons {principalId : Id} {permission : Text} {permissions : List Text}
    {before middle after : AuthStore} (first : before.Granted principalId [permission] middle)
    (rest : middle.Granted principalId permissions after) :
    before.Granted principalId (permission :: permissions) after := by
  rcases first with ⟨grants, added, rfl, rows, own, held, missing⟩
  rcases rest with ⟨grants', added', rfl, rows', own', held', missing'⟩
  change grants'.rows = grants.rows ++ added' at rows'
  refine ⟨grants', added ++ added', rfl, by rw [rows', rows, List.append_assoc], ?_, ?_, ?_⟩
  · intro grant member
    rcases List.mem_append.mp member with early | late
    · exact ⟨(own grant early).1, List.mem_cons.mpr (Or.inl (List.mem_singleton.mp (own grant early).2))⟩
    · exact ⟨(own' grant late).1, List.mem_cons_of_mem _ (own' grant late).2⟩
  · intro other listed
    rcases List.mem_cons.mp listed with rfl | later
    · exact (held other (List.mem_singleton_self _)).mono rows'
    · exact held' other later
  · intro other listed absent
    rcases List.mem_cons.mp listed with rfl | later
    · exact List.mem_append_left _ (missing other (List.mem_singleton_self _) absent)
    · by_cases between : AuthStore.HasGrant { before with grants := grants } principalId other
      · rcases AuthStore.hasGrant_iff.mp between with ⟨grant, member, owner, named⟩
        change grant ∈ grants.rows at member
        rw [rows] at member
        rcases List.mem_append.mp member with known | early
        · exact absurd (AuthStore.hasGrant_iff.mpr ⟨grant, known, owner, named⟩) absent
        · have same : other ∈ [permission] := named ▸ (own grant early).2
          exact List.mem_append_left _ (missing other same absent)
      · exact List.mem_append_right _ (missing' other later between)

theorem insertEvent_ok {event : AuthEvent} {store after : AuthStore} {answer : Unit}
    (ran : insertEvent event store = (.ok answer, after)) : after = { store with events := after.events } := by
  unfold insertEvent at ran
  split at ran
  · exact absurd (congrArg Prod.fst ran) nofun
  · split at ran
    · exact absurd (congrArg Prod.fst ran) nofun
    · cases congrArg Prod.snd ran
      rfl

/-- What a successful creation has written. -/
structure Created (deployment : Deployment) (draws : CreateDraws) (request : CreateApiKeyRequest)
    (before after : AuthStore) (principalId : Id) (upserted granted : AuthStore) (credential : Credential) : Prop where
  upsert : upsertPrincipal draws.principalId request.subjectName request.principalType before =
    (.ok principalId, upserted)
  grants : upserted.Granted principalId request.permissions granted
  fresh : before.credentials.find credential.identifier = none
  credentials : forall identifier, after.credentials.find identifier =
    (before.credentials.find identifier).or (if credential.identifier = identifier then some credential else none)
  principals : after.principals = upserted.principals
  grantRows : after.grants = granted.grants

/-- A missing permission is one of the principal from now on. -/
theorem AuthStore.Granted.mem_permissions {before after : AuthStore} {principalId : Id} {permissions : List Text}
    (granted : before.Granted principalId permissions after) {permission : Text} (listed : permission ∈ permissions)
    (missing : ¬ before.HasGrant principalId permission) (collation : Text -> Text -> Bool) (moment : Int) :
    permission ∈ after.permissions collation principalId moment := by
  rcases granted with ⟨grants, added, rfl, rows, -, -, fresh⟩
  unfold AuthStore.permissions
  rw [List.mem_insertionSort, rows]
  refine List.mem_map.mpr ⟨_, List.mem_filter.mpr ⟨List.mem_append_right _ (fresh permission listed missing), ?_⟩, rfl⟩
  exact Bool.and_eq_true_iff.mpr ⟨decide_eq_true rfl, rfl⟩

section Creation

variable {deployment : Deployment} {draws : CreateDraws} {request : CreateApiKeyRequest} {before after : AuthStore}
variable {principalId : Id} {upserted granted : AuthStore} {added : Credential}

/-- The credential of an old key is read as before, with the principal that is now
under the same identifier. -/
theorem Created.credentialWithPrincipal
    (created : Created deployment draws request before after principalId upserted granted added)
    {identifier : Text} {credential : Credential} {old new : Principal}
    (read : before.credentialWithPrincipal identifier = some (credential, old))
    (found : upserted.principals.find old.principalId = some new) :
    after.credentialWithPrincipal identifier = some (credential, new) := by
  rcases Option.bind_eq_some_iff.mp read with ⟨stored, foundStored, joined⟩
  rcases Option.map_eq_some_iff.mp joined with ⟨owner, owned, same⟩
  cases same
  rw [(Table.mem_of_find owned).2] at found
  unfold AuthStore.credentialWithPrincipal
  rw [created.credentials, foundStored, Option.some_or, Option.bind_some, created.principals, found, Option.map_some]

theorem Created.permissions
    (created : Created deployment draws request before after principalId upserted granted added)
    (collation : Text -> Text -> Bool) (owner : Id) (moment : Int) :
    after.permissions collation owner moment = granted.permissions collation owner moment := by
  unfold AuthStore.permissions
  rw [created.grantRows]

end Creation

theorem AuthStore.named_mem {store : AuthStore} {subjectName : Text} {known : Principal}
    (found : store.named subjectName = some known) : known ∈ store.principals :=
  List.mem_of_find?_eq_some found

theorem revived_of_ne {known row : Principal} (principalType : PrincipalType)
    (apart : row.principalId ≠ known.principalId) : revived known principalType row = row :=
  if_neg apart

/-- Every credential with a principal, in a linked store. -/
theorem AuthStore.Linked.read {store : AuthStore} (linked : store.Linked) {identifier : Text}
    (present : (store.credentials.find identifier).isSome = true) :
    Exists fun credential => Exists fun principal =>
      store.credentialWithPrincipal identifier = some (credential, principal) := by
  rcases Option.isSome_iff_exists.mp present with ⟨credential, found⟩
  rcases Option.isSome_iff_exists.mp (linked.owned credential (Table.mem_of_find found).1) with ⟨principal, owned⟩
  refine ⟨credential, principal, ?_⟩
  unfold AuthStore.credentialWithPrincipal
  rw [found, Option.bind_some, owned, Option.map_some]

section Verdict

variable {deployment : Deployment} {draws : CreateDraws} {caller : AuthContext} {request : CreateApiKeyRequest}
variable {before after : Connection AuthStore} {response : CreateApiKeyResponse}

end Verdict

namespace Scenario

theorem unlimited (days : Nat) (given : (none : Option Nat) = some days) : 1 ≤ days ∧ days ≤ 3650 := by
  cases given

def modelDraws : CreateDraws where
  principalId := 1
  credentialId := 1
  key := modelKey
  salt := "s".toList
  now := 0

/-- The model service has been switched off. -/
def retired : AuthStore :=
  { blank with
    principals :=
      { rows :=
          [{ principalId := 7, subjectName := "signal-model".toList, principalType := .service, active := false,
             plane := .ai }]
        unique := List.nodup_singleton _ } }

end Scenario

end Auth
end ApexQuant
