import ApexQuant.Auth.Isolation

namespace ApexQuant
namespace Auth

open Foundation
open Foundation.Database

/-!
# Failed creations

`create_api_key` runs one statement for the principal, one for each permission, one
for the credential and one for the audit trail, and every one of them is committed
when the next begins.  A call that raises leaves what it has written until then.
It leaves nothing only when what came before the failure had nothing to write.

The upsert writes `updated_at` also where it writes nothing else.  No operation
reads that column, so `AuthStore` does without it; here it is kept beside the tables.
-/

/-- The auth store with the column `updated_at` of `auth.principals`. -/
structure StampedStore where
  tables : AuthStore
  updatedAt : Id -> Int

/-- A statement that does not write `updated_at`. -/
def StampedStore.unstamped {A : Type} (effect : AuthStore -> Except AuthError A × AuthStore) (store : StampedStore) :
    Except AuthError A × StampedStore :=
  ((effect store.tables).1, { store with tables := (effect store.tables).2 })

/-- The upsert of a principal at a moment of the database's clock. -/
def StampedStore.upsertPrincipal (moment : Int) (drawn : Id) (subjectName : Text) (principalType : PrincipalType)
    (store : StampedStore) : Except AuthError Id × StampedStore :=
  match Auth.upsertPrincipal drawn subjectName principalType store.tables with
  | (.ok principalId, tables) =>
      (.ok principalId, { tables := tables, updatedAt := Function.update store.updatedAt principalId moment })
  | (.error error, tables) => (.error error, { store with tables := tables })

/-- The statements of `create_api_key` that follow the upsert. -/
def AuthService.writeApiKeyStamped (deployment : Deployment) (draws : CreateDraws) (caller : AuthContext)
    (request : CreateApiKeyRequest) (principalId : Id) : Program AuthError StampedStore CreateApiKeyResponse := do
  ForM.forM request.permissions fun permission =>
    statement (StampedStore.unstamped (insertGrant deployment.fold principalId permission))
  statement (StampedStore.unstamped (insertCredential draws.credentialId principalId draws.key.identifier
    (deployment.hasher.hash draws.salt draws.key.secret)
    (request.expiresInDays.map fun days => draws.now + days * microsecondsPerDay)))
  statement (StampedStore.unstamped (insertEvent
    { subjectName := caller.subject, principalType := some caller.principalType, action := "CREATE_API_KEY".toList,
      decision := "SUCCESS".toList, reason := "created API key for ".toList ++ request.subjectName }))
  pure
    { subjectName := request.subjectName
      principalType := request.principalType
      identifier := draws.key.identifier
      apiKey := draws.key.fullKey
      permissions := request.permissions }

/-- `create_api_key` with the column. -/
def AuthService.createApiKeyStamped (deployment : Deployment) (draws : CreateDraws) (moment : Int)
    (caller : AuthContext) (request : CreateApiKeyRequest) : Program AuthError StampedStore CreateApiKeyResponse :=
  if managesApiKeys caller = false then throw (.raised (.security .notAuthorizedToCreate))
  else do
    let principalId ← statement (StampedStore.upsertPrincipal moment draws.principalId request.subjectName
      request.principalType)
    writeApiKeyStamped deployment draws caller request principalId

/-- Principals, grants and credentials are as they were. -/
def StampedStore.Untouched (before after : StampedStore) : Prop :=
  after.tables.principals = before.tables.principals ∧ after.updatedAt = before.updatedAt ∧
    after.tables.grants = before.tables.grants ∧ after.tables.credentials = before.tables.credentials

/-- The schema takes a grant of the permission. -/
def grantable (fold : Text.Lowercasing) (permission : Text) : Bool :=
  Text.sendable permission && !isEmergencyStop permission && Text.notBlank permission &&
    isValidPermission fold permission

/-- The schema refuses the principal of the request. -/
def AuthStore.RefusesPrincipal (store : AuthStore) (draws : CreateDraws) (request : CreateApiKeyRequest) : Prop :=
  recordable request.subjectName = false ∨
    store.named request.subjectName = none ∧ (store.principals.find draws.principalId).isSome = true

/-- The schema refuses the credential of the key. -/
def AuthStore.RefusesKey (deployment : Deployment) (store : AuthStore) (draws : CreateDraws) : Prop :=
  recordable (deployment.hasher.hash draws.salt draws.key.secret) = false ∨
    (Exists fun credential => credential ∈ store.credentials ∧ credential.credentialId = draws.credentialId) ∨
      (store.credentials.find draws.key.identifier).isSome = true

/-- The upsert writes the row of a principal as it is. -/
def StampedStore.Rewrites (store : StampedStore) (moment : Int) (request : CreateApiKeyRequest) (known : Principal) :
    Prop :=
  store.tables.named request.subjectName = some known ∧ known.principalType = request.principalType ∧
    known.active = true ∧ store.updatedAt known.principalId = moment

/-- What the principal is granted before the schema or the connection stops it, it
has already. -/
def AuthStore.Holds (fold : Text.Lowercasing) (store : AuthStore) (principalId : Id) (permissions : List Text)
    (carries : Nat -> Bool) : Prop :=
  forall index permission, (permissions.takeWhile (grantable fold))[index]? = some permission ->
    carries index = true -> store.HasGrant principalId permission

/-- The key is not stored: a permission before it is refused, the connection is lost,
or the schema refuses it. -/
def AuthStore.KeepsOut (deployment : Deployment) (store : AuthStore) (draws : CreateDraws) (permissions : List Text)
    (carries : Nat -> Bool) : Prop :=
  permissions.all (grantable deployment.fold) = true -> carries permissions.length = true ->
    store.RefusesKey deployment draws

/-- The call fails before its first statement has an effect, or after statements
that have none. -/
def StampedStore.StopsInTime (deployment : Deployment) (store : StampedStore) (link : Link) (draws : CreateDraws)
    (moment : Int) (caller : AuthContext) (request : CreateApiKeyRequest) : Prop :=
  AuthService.managesApiKeys caller = false ∨ link.carries 0 = false ∨ store.tables.RefusesPrincipal draws request ∨
    Exists fun known => store.Rewrites moment request known ∧
      store.tables.Holds deployment.fold known.principalId request.permissions (fun earlier => link.carries (earlier + 1)) ∧
      store.tables.KeepsOut deployment draws request.permissions (fun earlier => link.carries (earlier + 1))

/-! ## The column changes nothing else -/

/-- What a program does, without the column. -/
def StampedStore.unstamp {A : Type} :
    EStateM.Result (Failure AuthError) (Connection StampedStore) A ->
      EStateM.Result (Failure AuthError) (Connection AuthStore) A
  | .ok answer after => .ok answer { store := after.store.tables, link := after.link }
  | .error failure after => .error failure { store := after.store.tables, link := after.link }

/-- The two programs do the same to the tables. -/
def StampedStore.Agree {A : Type} (stamped : Program AuthError StampedStore A) (plain : Program AuthError AuthStore A) :
    Prop :=
  forall connection : Connection StampedStore, unstamp (stamped connection) =
    plain { store := connection.store.tables, link := connection.link }

namespace StampedStore.Agree

variable {A B : Type}

theorem statement {stamped : StampedStore -> Except AuthError A × StampedStore}
    {plain : AuthStore -> Except AuthError A × AuthStore}
    (same : forall store, (stamped store).1 = (plain store.tables).1 ∧
      (stamped store).2.tables = (plain store.tables).2) :
    Agree (Database.statement stamped) (Database.statement plain) := by
  intro connection
  unfold Database.statement
  cases connection.link.next with
  | none =>
      cases connection.link.applies with
      | true =>
          dsimp only [unstamp]
          rw [if_pos rfl, if_pos rfl, (same connection.store).2]
      | false => rfl
  | some link =>
      have ends := same connection.store
      cases ran : stamped connection.store with
      | mk answer after =>
          cases ran' : plain connection.store.tables with
          | mk answer' after' =>
              rw [ran, ran'] at ends
              rcases ends with ⟨rfl, rfl⟩
              dsimp only
              cases answer <;> rfl

theorem bind {first : Program AuthError StampedStore A} {first' : Program AuthError AuthStore A}
    {rest : A -> Program AuthError StampedStore B} {rest' : A -> Program AuthError AuthStore B}
    (begins : Agree first first') (continues : forall answer, Agree (rest answer) (rest' answer)) :
    Agree (first >>= rest) (first' >>= rest') := by
  intro connection
  have opening := begins connection
  change unstamp (EStateM.bind first rest connection) = EStateM.bind first' rest' _
  unfold EStateM.bind
  cases ran : first connection with
  | ok answer after =>
      rw [ran] at opening
      rw [← opening]
      exact continues answer after
  | error failure after =>
      rw [ran] at opening
      rw [← opening]
      rfl

theorem forM {items : List B} {body : B -> Program AuthError StampedStore PUnit}
    {body' : B -> Program AuthError AuthStore PUnit} (same : forall item, Agree (body item) (body' item)) :
    Agree (ForM.forM items body) (ForM.forM items body') := by
  induction items with
  | nil => exact fun _ => rfl
  | cons item items inductionHypothesis =>
      rw [List.forM_cons, List.forM_cons]
      exact (same item).bind fun _ => inductionHypothesis

end StampedStore.Agree

/-- With the column and without it, a creation does the same. -/
theorem createApiKeyStamped_agree (deployment : Deployment) (draws : CreateDraws) (moment : Int) (caller : AuthContext)
    (request : CreateApiKeyRequest) :
    StampedStore.Agree (AuthService.createApiKeyStamped deployment draws moment caller request)
      (AuthService.createApiKey deployment draws caller request) := by
  unfold AuthService.createApiKeyStamped AuthService.createApiKey
  split
  · exact fun _ => rfl
  · apply StampedStore.Agree.bind
    · apply StampedStore.Agree.statement
      intro store
      unfold StampedStore.upsertPrincipal
      cases ran : upsertPrincipal draws.principalId request.subjectName request.principalType store.tables with
      | mk answer after => cases answer <;> exact ⟨rfl, rfl⟩
    · intro principalId
      apply StampedStore.Agree.bind (StampedStore.Agree.forM fun _ => StampedStore.Agree.statement fun _ => ⟨rfl, rfl⟩)
      intro _
      apply StampedStore.Agree.bind (StampedStore.Agree.statement fun _ => ⟨rfl, rfl⟩)
      intro _
      apply StampedStore.Agree.bind (StampedStore.Agree.statement fun _ => ⟨rfl, rfl⟩)
      exact fun _ _ => rfl

/-! ## The grants -/

/-- What the insert of a grant does for a principal that exists. -/
theorem insertGrant_of_owned (fold : Text.Lowercasing) {principalId : Id} (permission : Text) {store : AuthStore}
    (owned : (store.principals.find principalId).isSome = true) :
    (grantable fold permission = false ∧ Exists fun error =>
      insertGrant fold principalId permission store = (.error error, store)) ∨
    (grantable fold permission = true ∧ store.HasGrant principalId permission ∧
      insertGrant fold principalId permission store = (.ok (), store)) ∨
    (grantable fold permission = true ∧ ¬ store.HasGrant principalId permission ∧ Exists fun grants => Exists fun row =>
      grants.rows = store.grants.rows ++ [row] ∧
        insertGrant fold principalId permission store = (.ok (), { store with grants := grants })) := by
  let grant : PermissionGrant := { principalId := principalId, permission := permission, expiresAt := none }
  unfold insertGrant grantable
  cases Text.sendable permission with
  | false => exact Or.inl ⟨rfl, _, rfl⟩
  | true =>
      cases isEmergencyStop permission with
      | true => exact Or.inl ⟨rfl, _, rfl⟩
      | false =>
          cases checked : Text.notBlank permission && isValidPermission fold permission with
          | false => exact Or.inl ⟨checked, _, rfl⟩
          | true =>
              have present : (store.principals.find principalId).isNone = false := by
                rw [Option.isNone_eq_false_iff]
                exact owned
              cases found : store.grants.find (PermissionGrant.key grant) with
              | none =>
                  rcases Table.exists_insert found with ⟨grants, inserted⟩
                  refine Or.inr (Or.inr ⟨checked, ?_, grants, grant, Table.rows_of_insert inserted, ?_⟩)
                  · intro held
                    have nothing : (none : Option PermissionGrant).isSome = true := found ▸ held
                    cases nothing
                  · simp [grant, inserted, present]
              | some known =>
                  have taken : store.grants.insert grant = none := by
                    cases inserted : store.grants.insert grant with
                    | none => rfl
                    | some grants => cases found.symm.trans (Table.find_eq_none_of_insert inserted)
                  refine Or.inr (Or.inl ⟨checked, Option.isSome_iff_exists.mpr ⟨known, found⟩, ?_⟩)
                  simp [grant, taken]

/-- Grants have been added, none of them exactly when the condition holds. -/
def StampedStore.Grown (before : StampedStore) (held : Prop) (after : StampedStore) : Prop :=
  Exists fun grants : Table PermissionGrant.key => Exists fun added : List PermissionGrant =>
    after = { before with tables := { before.tables with grants := grants } } ∧
      grants.rows = before.tables.grants.rows ++ added ∧ (added = [] <-> held)

theorem StampedStore.Grown.refl (store : StampedStore) {held : Prop} (holds : held) : store.Grown held store :=
  ⟨store.tables.grants, [], rfl, (List.append_nil _).symm, iff_of_true rfl holds⟩

theorem StampedStore.Grown.congr {before after : StampedStore} {held held' : Prop} (grown : before.Grown held after)
    (same : held <-> held') : before.Grown held' after := by
  rcases grown with ⟨grants, added, result, rows, nothing⟩
  exact ⟨grants, added, result, rows, nothing.trans same⟩

theorem StampedStore.Grown.grants_iff {before after : StampedStore} {held : Prop} (grown : before.Grown held after) :
    after.tables.grants = before.tables.grants <-> held := by
  rcases grown with ⟨grants, added, rfl, rows, nothing⟩
  rw [← nothing]
  constructor
  · intro same
    change grants = before.tables.grants at same
    rw [same] at rows
    exact List.self_eq_append_right.mp rows
  · rintro rfl
    exact Table.ext_rows (rows.trans (List.append_nil _))

theorem StampedStore.Grown.credentials {before after : StampedStore} {held : Prop} (grown : before.Grown held after) :
    after.tables.credentials = before.tables.credentials := by
  rcases grown with ⟨grants, added, rfl, -, -⟩
  rfl

theorem StampedStore.Grown.principals {before after : StampedStore} {held : Prop} (grown : before.Grown held after) :
    after.tables.principals = before.tables.principals := by
  rcases grown with ⟨grants, added, rfl, -, -⟩
  rfl

/-- One more grant in front of the others. -/
theorem StampedStore.Grown.after_insert {before after : StampedStore} {grants : Table PermissionGrant.key}
    {row : PermissionGrant} {held held' : Prop} (rows : grants.rows = before.tables.grants.rows ++ [row])
    (grown : StampedStore.Grown { before with tables := { before.tables with grants := grants } } held after)
    (missing : ¬ held') : before.Grown held' after := by
  rcases grown with ⟨grants', added, result, rows', -⟩
  refine ⟨grants', row :: added, result, ?_, iff_of_false (List.cons_ne_nil _ _) missing⟩
  rw [rows', rows, List.append_assoc, List.singleton_append]

theorem AuthStore.Holds.cons_iff {fold : Text.Lowercasing} {store : AuthStore} {principalId : Id} {permission : Text}
    {permissions : List Text} {carries : Nat -> Bool} (accepted : grantable fold permission = true) :
    store.Holds fold principalId (permission :: permissions) carries <->
      (carries 0 = true -> store.HasGrant principalId permission) ∧
        store.Holds fold principalId permissions fun earlier => carries (earlier + 1) := by
  unfold AuthStore.Holds
  rw [List.takeWhile_cons_of_pos accepted]
  constructor
  · intro holds
    exact ⟨holds 0 permission rfl, fun index other listed => holds (index + 1) other listed⟩
  · rintro ⟨first, rest⟩ index other listed
    cases index with
    | zero =>
        cases listed
        exact first
    | succ index => exact rest index other listed

/-- Nothing is granted before a permission that is refused. -/
theorem AuthStore.Holds.of_refused {fold : Text.Lowercasing} {store : AuthStore} {principalId : Id} {permission : Text}
    {permissions : List Text} {carries : Nat -> Bool} (refused : grantable fold permission = false) :
    store.Holds fold principalId (permission :: permissions) carries := by
  intro index other listed
  rw [List.takeWhile_cons_of_neg (refused ▸ Bool.false_ne_true)] at listed
  exact absurd listed nofun

/-- Nothing is granted over a connection that is lost. -/
theorem AuthStore.Holds.of_lost {fold : Text.Lowercasing} {store : AuthStore} {principalId : Id}
    {permissions : List Text} {carries : Nat -> Bool} (lost : forall earlier, carries earlier = false) :
    store.Holds fold principalId permissions carries :=
  fun index _ _ carried => absurd ((lost index).symm.trans carried) Bool.false_ne_true

/-- The statements that grant the permissions of a request. -/
def grantStamped (fold : Text.Lowercasing) (principalId : Id) (permissions : List Text) :
    Program AuthError StampedStore PUnit :=
  ForM.forM permissions fun permission =>
    statement (StampedStore.unstamped (insertGrant fold principalId permission))

/-- How the grants of a request end. -/
def GrantsEnd (fold : Text.Lowercasing) (principalId : Id) (permissions : List Text) (store : StampedStore)
    (link : Link) : EStateM.Result (Failure AuthError) (Connection StampedStore) PUnit -> Prop
  | .ok _ after =>
      permissions.all (grantable fold) = true ∧
        (forall later, after.link.carries later = link.carries (permissions.length + later)) ∧
          store.Grown (store.tables.Holds fold principalId permissions link.carries) after.store
  | .error _ after =>
      (permissions.all (grantable fold) = true -> link.carries permissions.length = false) ∧
        store.Grown (store.tables.Holds fold principalId permissions link.carries) after.store

theorem grantStamped_cons (fold : Text.Lowercasing) (principalId : Id) (permission : Text) (permissions : List Text)
    (store : StampedStore) (link : Link) :
    grantStamped fold principalId (permission :: permissions) { store := store, link := link } =
      match link.next with
      | none => .error .connectionLost
          { store := if link.applies then (StampedStore.unstamped (insertGrant fold principalId permission) store).2
              else store, link := link }
      | some rest =>
          match StampedStore.unstamped (insertGrant fold principalId permission) store with
          | (.ok _, store) => grantStamped fold principalId permissions { store := store, link := rest }
          | (.error error, store) => .error (.raised error) { store := store, link := rest } := by
  unfold grantStamped
  rw [List.forM_cons, statement_bind_run]
  cases link.next with
  | none => rfl
  | some rest =>
      cases StampedStore.unstamped (insertGrant fold principalId permission) store with
      | mk answer after => cases answer <;> rfl

/-- One accepted permission in front of the others. -/
theorem GrantsEnd.cons {fold : Text.Lowercasing} {principalId : Id} {permission : Text} {permissions : List Text}
    {store middle : StampedStore} {link rest : Link}
    {result : EStateM.Result (Failure AuthError) (Connection StampedStore) PUnit}
    (ended : GrantsEnd fold principalId permissions middle rest result)
    (accepted : grantable fold permission = true)
    (further : forall later, rest.carries (permissions.length + later) =
      link.carries ((permission :: permissions).length + later))
    (grows : forall after, middle.Grown (middle.tables.Holds fold principalId permissions rest.carries) after ->
      store.Grown (store.tables.Holds fold principalId (permission :: permissions) link.carries) after) :
    GrantsEnd fold principalId (permission :: permissions) store link result := by
  cases result with
  | ok answer after =>
      rcases ended with ⟨all, links, grown⟩
      refine ⟨?_, fun later => (links later).trans (further later), grows after.store grown⟩
      rw [List.all_cons, accepted, all, Bool.and_self]
  | error failure after =>
      rcases ended with ⟨unsent, grown⟩
      refine ⟨fun all => ?_, grows after.store grown⟩
      rw [List.all_cons, accepted, Bool.true_and] at all
      exact (further 0).symm.trans (unsent all)

theorem grants_end (fold : Text.Lowercasing) {principalId : Id} (permissions : List Text) (store : StampedStore)
    (link : Link) (owned : (store.tables.principals.find principalId).isSome = true) :
    GrantsEnd fold principalId permissions store link
      (grantStamped fold principalId permissions { store := store, link := link }) := by
  induction permissions generalizing store link with
  | nil =>
      refine ⟨rfl, fun later => by rw [List.length_nil, Nat.zero_add], StampedStore.Grown.refl store ?_⟩
      exact fun _ _ listed => absurd listed nofun
  | cons permission permissions inductionHypothesis =>
      rw [grantStamped_cons]
      have first := insertGrant_of_owned fold permission owned
      unfold StampedStore.unstamped
      cases next : link.next with
      | none =>
          have lost := Link.of_next_eq_none next
          refine ⟨fun _ => (lost _).1, ?_⟩
          cases applied : link.applies with
          | false =>
              apply StampedStore.Grown.refl
              apply AuthStore.Holds.of_lost
              intro earlier
              cases earlier with
              | zero => exact (lost 0).2.2.trans applied
              | succ earlier => exact (lost earlier).1
          | true =>
              rw [if_pos rfl]
              rcases first with
                ⟨refused, error, ran⟩ | ⟨accepted, held, ran⟩ | ⟨accepted, missing, grants, row, rows, ran⟩
              · rw [ran]
                exact StampedStore.Grown.refl _ (AuthStore.Holds.of_refused refused)
              · rw [ran]
                apply StampedStore.Grown.refl
                exact (AuthStore.Holds.cons_iff accepted).mpr
                  ⟨fun _ => held, AuthStore.Holds.of_lost fun earlier => (lost earlier).1⟩
              · rw [ran]
                apply StampedStore.Grown.after_insert rows (StampedStore.Grown.refl _ trivial)
                intro holds
                exact missing (((AuthStore.Holds.cons_iff accepted).mp holds).1 ((lost 0).2.2.trans applied))
      | some rest =>
          have kept := Link.of_next_eq_some next
          have further : forall later, rest.carries (permissions.length + later) =
              link.carries ((permission :: permissions).length + later) := by
            intro later
            rw [List.length_cons, Nat.add_right_comm]
            exact ((kept _).1).symm
          rcases first with
            ⟨refused, error, ran⟩ | ⟨accepted, held, ran⟩ | ⟨accepted, missing, grants, row, rows, ran⟩
          · rw [ran]
            refine ⟨fun all => ?_, StampedStore.Grown.refl _ (AuthStore.Holds.of_refused refused)⟩
            rw [List.all_cons, refused, Bool.false_and] at all
            exact absurd all Bool.false_ne_true
          · rw [ran]
            apply (inductionHypothesis store rest owned).cons accepted further
            intro after grown
            apply grown.congr
            have shifted : (fun earlier => link.carries (earlier + 1)) = rest.carries :=
              funext fun earlier => (kept earlier).1
            rw [AuthStore.Holds.cons_iff accepted, shifted]
            exact (and_iff_right fun _ => held).symm
          · rw [ran]
            let middle : StampedStore := { store with tables := { store.tables with grants := grants } }
            apply (inductionHypothesis middle rest owned).cons accepted further
            intro after grown
            apply grown.after_insert rows
            intro holds
            exact missing (((AuthStore.Holds.cons_iff accepted).mp holds).1 (kept 0).2.2)

/-! ## The credential and the audit trail -/

/-- A drawn identifier is one that the schema takes. -/
theorem recordable_identifier (key : Security.ApiKey) : recordable key.identifier = true := by
  have shaped := List.all_eq_true.mp key.identifier_shape.2
  apply Bool.and_eq_true_iff.mpr
  constructor
  · apply List.all_eq_true.mpr
    intro c member
    apply decide_eq_true
    rintro rfl
    exact absurd (shaped _ member) (by decide)
  · cases drawn : key.identifier with
    | nil => exact absurd (drawn ▸ key.identifier_shape.1) nofun
    | cons c rest =>
        apply List.any_eq_true.mpr
        refine ⟨c, List.mem_cons_self, decide_eq_true ?_⟩
        rintro rfl
        exact absurd (shaped _ (drawn ▸ List.mem_cons_self)) (by decide)

/-- What the insert of a key does for a principal that exists. -/
theorem insertCredential_of_owned (deployment : Deployment) (draws : CreateDraws) {principalId : Id}
    (expiresAt : Option Int) {store : AuthStore} (owned : (store.principals.find principalId).isSome = true) :
    (store.RefusesKey deployment draws ∧ Exists fun error =>
      insertCredential draws.credentialId principalId draws.key.identifier
        (deployment.hasher.hash draws.salt draws.key.secret) expiresAt store = (.error error, store)) ∨
    (¬ store.RefusesKey deployment draws ∧ Exists fun credentials => Exists fun row =>
      store.credentials.insert row = some credentials ∧
        insertCredential draws.credentialId principalId draws.key.identifier
          (deployment.hasher.hash draws.salt draws.key.secret) expiresAt store =
            (.ok (), { store with credentials := credentials })) := by
  rcases Bool.and_eq_true_iff.mp (recordable_identifier draws.key) with ⟨sent, kept⟩
  have present : (store.principals.find principalId).isNone = false := by
    rw [Option.isNone_eq_false_iff]
    exact owned
  unfold insertCredential AuthStore.RefusesKey recordable
  rw [sent, kept, Bool.true_and, Bool.true_and]
  by_cases sendable : Text.sendable (deployment.hasher.hash draws.salt draws.key.secret) = false
  · rw [if_pos sendable, sendable, Bool.false_and]
    exact Or.inl ⟨Or.inl rfl, _, rfl⟩
  · rw [if_neg sendable, Bool.eq_true_of_not_eq_false sendable, Bool.true_and]
    by_cases blank : Text.notBlank (deployment.hasher.hash draws.salt draws.key.secret) = false
    · rw [if_pos blank]
      exact Or.inl ⟨Or.inl blank, _, rfl⟩
    · rw [if_neg blank]
      by_cases drawn : store.credentials.rows.any (fun row => decide (row.credentialId = draws.credentialId)) = true
      · rw [if_pos drawn]
        rcases List.any_eq_true.mp drawn with ⟨row, member, same⟩
        exact Or.inl ⟨Or.inr (Or.inl ⟨row, member, of_decide_eq_true same⟩), _, rfl⟩
      · rw [if_neg drawn]
        let row : Credential :=
          { credentialId := draws.credentialId, principalId := principalId, identifier := draws.key.identifier,
            secretHash := deployment.hasher.hash draws.salt draws.key.secret, status := .active, expiresAt := expiresAt,
            lastUsedAt := none }
        cases found : store.credentials.find row.identifier with
        | some known =>
            have taken : store.credentials.insert row = none := by
              cases inserted : store.credentials.insert row with
              | none => rfl
              | some credentials => exact absurd (found.symm.trans (Table.find_eq_none_of_insert inserted)) nofun
            refine Or.inl ⟨Or.inr (Or.inr rfl), .uniqueViolation, ?_⟩
            simp [row, taken]
        | none =>
            rcases Table.exists_insert found with ⟨credentials, inserted⟩
            refine Or.inr ⟨?_, credentials, row, inserted, ?_⟩
            · rintro (refused | ⟨other, member, same⟩ | known)
              · exact blank refused
              · exact drawn (List.any_eq_true.mpr ⟨other, member, decide_eq_true same⟩)
              · exact absurd known nofun
            · simp [row, inserted, present]

theorem StampedStore.unstamped_eq {A : Type} {effect : AuthStore -> Except AuthError A × AuthStore}
    {store : StampedStore} {answer : Except AuthError A} {tables : AuthStore}
    (ran : effect store.tables = (answer, tables)) :
    StampedStore.unstamped effect store = (answer, { store with tables := tables }) := by
  unfold StampedStore.unstamped
  rw [ran]

/-- The statements after the upsert leave the principals alone. -/
theorem writeApiKeyStamped_principals (deployment : Deployment) (draws : CreateDraws) (caller : AuthContext)
    (request : CreateApiKeyRequest) (principalId : Id) (before : StampedStore) :
    Triple (fun store => store.tables.principals = before.tables.principals ∧ store.updatedAt = before.updatedAt)
      (AuthService.writeApiKeyStamped deployment draws caller request principalId)
      (fun _ store => store.tables.principals = before.tables.principals ∧ store.updatedAt = before.updatedAt)
      (fun store => store.tables.principals = before.tables.principals ∧ store.updatedAt = before.updatedAt) := by
  have keeps : forall effect : AuthStore -> Except AuthError Unit × AuthStore,
      (forall store, (effect store).2.principals = store.principals) ->
      Triple (fun store => store.tables.principals = before.tables.principals ∧ store.updatedAt = before.updatedAt)
        (statement (StampedStore.unstamped effect))
        (fun _ store => store.tables.principals = before.tables.principals ∧ store.updatedAt = before.updatedAt)
        (fun store => store.tables.principals = before.tables.principals ∧ store.updatedAt = before.updatedAt) :=
    fun effect same => Triple.statement (fun store holds _ _ => ⟨(same store.tables).trans holds.1, holds.2⟩)
      (fun _ holds => holds) fun store holds => ⟨(same store.tables).trans holds.1, holds.2⟩
  have grants : forall permission store,
      (insertGrant deployment.fold principalId permission store).2.principals = store.principals := by
    intro permission store
    rcases insertGrant_cases deployment.fold principalId permission store with unchanged | ⟨grants, -, -, ran⟩
    · rw [unchanged]
    · rw [ran]
  unfold AuthService.writeApiKeyStamped
  apply Triple.bind (Triple.forM fun permission _ => keeps _ (grants permission))
  intro _
  apply Triple.bind (keeps _ fun store => (insertCredential_sameGrants _ _ _ _ _ store).1)
  intro _
  apply Triple.bind (keeps _ fun store => (insertEvent_sameGrants _ store).1)
  exact fun _ => Triple.pure fun _ holds => holds

/-- A statement that is tried last leaves the credentials alone or ends the call. -/
theorem insertEvent_ends (event : AuthEvent) (response : CreateApiKeyResponse) (before : StampedStore) :
    Triple (fun store => store = before) (do
        statement (StampedStore.unstamped (insertEvent event))
        pure response)
      (fun _ _ => True) (fun store => store.tables.credentials = before.tables.credentials) := by
  have recorded : Triple (fun store => store = before) (statement (StampedStore.unstamped (insertEvent event)))
      (fun _ _ => True) (fun store => store.tables.credentials = before.tables.credentials) := by
    refine Triple.statement (fun _ _ _ _ => trivial) (fun store same => same ▸ rfl) ?_
    rintro store rfl
    exact insertEvent_credentials event store.tables
  apply Triple.bind recorded
  exact fun _ => Triple.pure fun _ _ => trivial

theorem bind_run {A B : Type} (first : Program AuthError StampedStore A) (rest : A -> Program AuthError StampedStore B)
    (connection : Connection StampedStore) :
    (first >>= rest) connection = match first connection with
      | .ok answer after => rest answer after
      | .error failure after => .error failure after := by
  change EStateM.bind _ _ _ = _
  unfold EStateM.bind
  cases first connection <;> rfl

/-- Once the principal is there, a call that raises leaves grants and credentials
alone exactly when every grant it reaches is there and the key is kept out. -/
theorem writeApiKeyStamped_raises {deployment : Deployment} {draws : CreateDraws} {caller : AuthContext}
    {request : CreateApiKeyRequest} {principalId : Id} {before : StampedStore} {link : Link} {failure : Failure AuthError}
    {after : Connection StampedStore} (owned : (before.tables.principals.find principalId).isSome = true)
    (ran : AuthService.writeApiKeyStamped deployment draws caller request principalId
      { store := before, link := link } = .error failure after) :
    (after.store.tables.grants = before.tables.grants ∧ after.store.tables.credentials = before.tables.credentials) <->
      before.tables.Holds deployment.fold principalId request.permissions link.carries ∧
        before.tables.KeepsOut deployment draws request.permissions link.carries := by
  have ended := grants_end deployment.fold request.permissions before link owned
  unfold AuthService.writeApiKeyStamped at ran
  change (grantStamped deployment.fold principalId request.permissions >>= _) _ = _ at ran
  rw [bind_run] at ran
  cases granting : grantStamped deployment.fold principalId request.permissions { store := before, link := link } with
  | error failure' middle =>
      rw [granting] at ran ended
      cases ran
      rcases ended with ⟨unsent, grown⟩
      have keptOut : before.tables.KeepsOut deployment draws request.permissions link.carries :=
        fun all carried => absurd ((unsent all).symm.trans carried) Bool.false_ne_true
      rw [grown.grants_iff, and_iff_left grown.credentials, and_iff_left keptOut]
  | ok answer middle =>
      rw [granting] at ran ended
      rcases ended with ⟨all, links, grown⟩
      rcases middle with ⟨middle, later⟩
      change (statement _ >>= _) { store := middle, link := later } = _ at ran
      rw [statement_bind_run] at ran
      have carried : later.carries 0 = link.carries request.permissions.length := links 0
      have ownedStill : (middle.tables.principals.find principalId).isSome = true := by
        rw [grown.principals]
        exact owned
      have inserting := insertCredential_of_owned deployment draws
        (request.expiresInDays.map fun days => draws.now + days * microsecondsPerDay) ownedStill
      have sameRefusal : middle.tables.RefusesKey deployment draws <-> before.tables.RefusesKey deployment draws := by
        unfold AuthStore.RefusesKey
        rw [grown.credentials]
      -- the insert leaves the store alone unless it is both sent and accepted
      have idle : (before.tables.RefusesKey deployment draws ∨ link.carries request.permissions.length = false) ->
          before.tables.KeepsOut deployment draws request.permissions link.carries := by
        rintro (refused | unsent) _ sent
        · exact refused
        · exact absurd (unsent.symm.trans sent) Bool.false_ne_true
      have unchanged : before.tables.KeepsOut deployment draws request.permissions link.carries ->
          ((middle.tables.grants = before.tables.grants ∧
            middle.tables.credentials = before.tables.credentials) <->
              before.tables.Holds deployment.fold principalId request.permissions link.carries ∧
                before.tables.KeepsOut deployment draws request.permissions link.carries) := by
        intro keptOut
        rw [grown.grants_iff, and_iff_left grown.credentials, and_iff_left keptOut]
      have differs : forall credentials row, middle.tables.credentials.insert row = some credentials ->
          credentials ≠ before.tables.credentials := by
        intro credentials row inserted
        rw [← grown.credentials]
        exact Table.ne_of_insert inserted
      have sentKey : link.carries request.permissions.length = true -> ¬ before.tables.RefusesKey deployment draws ->
          ¬ before.tables.KeepsOut deployment draws request.permissions link.carries :=
        fun sent accepted keptOut => accepted (keptOut all sent)
      cases next : later.next with
      | none =>
          have lost := Link.of_next_eq_none next 0
          rw [next] at ran
          cases ran
          cases applied : later.applies with
          | false => exact unchanged (idle (Or.inr (carried.symm.trans (lost.2.2.trans applied))))
          | true =>
              rw [if_pos rfl]
              rcases inserting with ⟨refused, error, ran⟩ | ⟨accepted, credentials, row, inserted, ran⟩
              · rw [StampedStore.unstamped_eq ran]
                exact unchanged (idle (Or.inl (sameRefusal.mp refused)))
              · rw [StampedStore.unstamped_eq ran]
                apply iff_of_false
                · exact fun same => differs credentials row inserted same.2
                · exact fun holds => sentKey (carried.symm.trans (lost.2.2.trans applied))
                    (fun refused => accepted (sameRefusal.mpr refused)) holds.2
      | some rest =>
          have kept := Link.of_next_eq_some next 0
          rw [next] at ran
          rcases inserting with ⟨refused, error, ran'⟩ | ⟨accepted, credentials, row, inserted, ran'⟩
          · rw [StampedStore.unstamped_eq ran'] at ran
            cases ran
            exact unchanged (idle (Or.inl (sameRefusal.mp refused)))
          · rw [StampedStore.unstamped_eq ran'] at ran
            have last := insertEvent_ends
              { subjectName := caller.subject, principalType := some caller.principalType,
                action := "CREATE_API_KEY".toList, decision := "SUCCESS".toList,
                reason := "created API key for ".toList ++ request.subjectName }
              { subjectName := request.subjectName, principalType := request.principalType,
                identifier := draws.key.identifier, apiKey := draws.key.fullKey, permissions := request.permissions }
              { middle with tables := { middle.tables with credentials := credentials } }
              { store := { middle with tables := { middle.tables with credentials := credentials } }, link := rest } rfl
            dsimp only at ran
            rw [ran] at last
            apply iff_of_false
            · exact fun same => differs credentials row inserted (last.symm.trans same.2)
            · exact fun holds => sentKey (carried.symm.trans kept.2.2)
                (fun refused => accepted (sameRefusal.mpr refused)) holds.2

/-! ## The upsert -/

/-- What the upsert of a principal does. -/
theorem upsertPrincipal_of (draws : CreateDraws) (request : CreateApiKeyRequest) (store : AuthStore) :
    (store.RefusesPrincipal draws request ∧ Exists fun error =>
      upsertPrincipal draws.principalId request.subjectName request.principalType store = (.error error, store)) ∨
    (¬ store.RefusesPrincipal draws request ∧ Exists fun known => store.named request.subjectName = some known ∧
      upsertPrincipal draws.principalId request.subjectName request.principalType store =
        (.ok known.principalId, { store with
          principals := store.principals.update (revived known request.principalType)
            (principalId_revived known request.principalType) })) ∨
    (¬ store.RefusesPrincipal draws request ∧ store.named request.subjectName = none ∧
      Exists fun principals => Exists fun row => store.principals.insert row = some principals ∧
        upsertPrincipal draws.principalId request.subjectName request.principalType store =
          (.ok draws.principalId, { store with principals := principals })) := by
  unfold AuthStore.RefusesPrincipal recordable
  cases sendable : Text.sendable request.subjectName with
  | false => exact Or.inl ⟨Or.inl rfl, .nulByte, by simp [upsertPrincipal, sendable]⟩
  | true =>
      cases notBlank : Text.notBlank request.subjectName with
      | false => exact Or.inl ⟨Or.inl rfl, .checkViolation, by simp [upsertPrincipal, sendable, notBlank]⟩
      | true =>
          cases found : store.named request.subjectName with
          | some known =>
              refine Or.inr (Or.inl ⟨?_, known, rfl, ?_⟩)
              · rintro (refused | ⟨unknown, -⟩)
                · exact absurd refused nofun
                · exact absurd unknown nofun
              · unfold AuthStore.named at found
                unfold upsertPrincipal
                rw [sendable, notBlank, if_neg Bool.true_eq_false.mp, if_neg Bool.true_eq_false.mp, found]
                rfl
          | none =>
              let row : Principal :=
                { principalId := draws.principalId, subjectName := request.subjectName,
                  principalType := request.principalType, active := true, plane := .control }
              unfold AuthStore.named at found
              cases taken : store.principals.find row.principalId with
              | some other =>
                  have refused : store.principals.insert row = none := by
                    cases inserted : store.principals.insert row with
                    | none => rfl
                    | some principals => exact absurd (taken.symm.trans (Table.find_eq_none_of_insert inserted)) nofun
                  refine Or.inl ⟨Or.inr ⟨rfl, rfl⟩, .uniqueViolation, ?_⟩
                  · unfold upsertPrincipal
                    rw [sendable, notBlank, if_neg Bool.true_eq_false.mp, if_neg Bool.true_eq_false.mp, found]
                    simp [row, refused]
              | none =>
                  rcases Table.exists_insert taken with ⟨principals, inserted⟩
                  refine Or.inr (Or.inr ⟨?_, rfl, principals, row, inserted, ?_⟩)
                  · rintro (refused | ⟨-, known⟩)
                    · exact absurd refused nofun
                    · exact absurd known nofun
                  · unfold upsertPrincipal
                    rw [sendable, notBlank, if_neg Bool.true_eq_false.mp, if_neg Bool.true_eq_false.mp, found]
                    simp [row, inserted]

/-- The upsert of a known principal writes nothing exactly when it rewrites the row. -/
theorem update_revived_eq_iff {store : StampedStore} {known : Principal} (member : known ∈ store.tables.principals)
    (moment : Int) (request : CreateApiKeyRequest) :
    (store.tables.principals.update (revived known request.principalType)
        (principalId_revived known request.principalType) = store.tables.principals ∧
      Function.update store.updatedAt known.principalId moment = store.updatedAt) <->
        known.principalType = request.principalType ∧ known.active = true ∧
          store.updatedAt known.principalId = moment := by
  have stamp : Function.update store.updatedAt known.principalId moment = store.updatedAt <->
      store.updatedAt known.principalId = moment := by
    constructor
    · intro same
      rw [← same, Function.update_self]
    · rintro rfl
      exact Function.update_eq_self _ _
  have row : store.tables.principals.update (revived known request.principalType)
      (principalId_revived known request.principalType) = store.tables.principals <->
        known.principalType = request.principalType ∧ known.active = true := by
    constructor
    · intro same
      have rows := congrArg Table.rows same
      change store.tables.principals.rows.map (revived known request.principalType) = store.tables.principals.rows at rows
      rw [← List.map_id store.tables.principals.rows, List.map_map, Function.comp_id] at rows
      have rewritten := List.map_inj_left.mp rows known member
      rw [revived, if_pos rfl] at rewritten
      have asKnown : { known with principalType := request.principalType, active := true } = known := rewritten
      exact ⟨(congrArg Principal.principalType asKnown).symm, (congrArg Principal.active asKnown).symm⟩
    · rintro ⟨sameType, active⟩
      apply Table.ext_rows
      change store.tables.principals.rows.map (revived known request.principalType) = store.tables.principals.rows
      rw [← List.map_id store.tables.principals.rows, List.map_map, Function.comp_id]
      apply List.map_congr_left
      intro other listed
      by_cases own : other.principalId = known.principalId
      · have same := Table.eq_of_key_eq listed member own
        rw [revived, if_pos own, same, ← sameType, ← active]
        rfl
      · exact revived_of_ne _ own
  rw [stamp, row, and_assoc]

/-- Where the upsert is carried out and accepted, the rest decides. -/
theorem StampedStore.stopsInTime_iff {deployment : Deployment} {store : StampedStore} {link : Link}
    {draws : CreateDraws} {moment : Int} {caller : AuthContext} {request : CreateApiKeyRequest}
    (managed : ¬ AuthService.managesApiKeys caller = false) (carried : link.carries 0 = true)
    (accepted : ¬ store.tables.RefusesPrincipal draws request) :
    store.StopsInTime deployment link draws moment caller request <->
      Exists fun known => store.Rewrites moment request known ∧
        store.tables.Holds deployment.fold known.principalId request.permissions
          (fun earlier => link.carries (earlier + 1)) ∧
        store.tables.KeepsOut deployment draws request.permissions (fun earlier => link.carries (earlier + 1)) := by
  constructor
  · rintro (refused | lost | refused | stops)
    · exact absurd refused managed
    · exact absurd (carried.symm.trans lost) Bool.true_eq_false.mp
    · exact absurd refused accepted
    · exact stops
  · exact fun stops => Or.inr (Or.inr (Or.inr stops))

/-- A call that raises leaves the tables as they are exactly when it stops before its
first change. -/
theorem creation_atomic_iff (deployment : Deployment) (draws : CreateDraws) (moment : Int) (caller : AuthContext)
    (request : CreateApiKeyRequest) (store : StampedStore) (link : Link) (failure : Failure AuthError)
    (after : Connection StampedStore)
    (ran : AuthService.createApiKeyStamped deployment draws moment caller request { store := store, link := link } =
      .error failure after) :
    store.Untouched after.store <-> store.StopsInTime deployment link draws moment caller request := by
  unfold AuthService.createApiKeyStamped at ran
  by_cases managed : AuthService.managesApiKeys caller = false
  · rw [if_pos managed] at ran
    cases ran
    exact iff_of_true ⟨rfl, rfl, rfl, rfl⟩ (Or.inl managed)
  rw [if_neg managed, statement_bind_run] at ran
  rcases upsertPrincipal_of draws request store.tables with
    ⟨refused, error, upserted⟩ | ⟨accepted, known, named, upserted⟩ |
      ⟨accepted, unknown, principals, row, inserted, upserted⟩
  · have effect : StampedStore.upsertPrincipal moment draws.principalId request.subjectName request.principalType store =
        (.error error, store) := by
      unfold StampedStore.upsertPrincipal
      rw [upserted]
    rw [effect, ite_self] at ran
    have same : after.store = store := by
      cases next : link.next with
      | none =>
          rw [next] at ran
          cases ran
          rfl
      | some rest =>
          rw [next] at ran
          cases ran
          rfl
    rw [same]
    exact iff_of_true ⟨rfl, rfl, rfl, rfl⟩ (Or.inr (Or.inr (Or.inl refused)))
  · let middle : StampedStore :=
      { tables := { store.tables with
          principals := store.tables.principals.update (revived known request.principalType)
            (principalId_revived known request.principalType) }
        updatedAt := Function.update store.updatedAt known.principalId moment }
    have effect : StampedStore.upsertPrincipal moment draws.principalId request.subjectName request.principalType store =
        (.ok known.principalId, middle) := by
      unfold StampedStore.upsertPrincipal
      rw [upserted]
    have member := AuthStore.named_mem named
    have rewrites : (Exists fun other => store.Rewrites moment request other ∧
        store.tables.Holds deployment.fold other.principalId request.permissions
          (fun earlier => link.carries (earlier + 1)) ∧
        store.tables.KeepsOut deployment draws request.permissions (fun earlier => link.carries (earlier + 1))) <->
        (middle.tables.principals = store.tables.principals ∧ middle.updatedAt = store.updatedAt) ∧
          store.tables.Holds deployment.fold known.principalId request.permissions
            (fun earlier => link.carries (earlier + 1)) ∧
          store.tables.KeepsOut deployment draws request.permissions (fun earlier => link.carries (earlier + 1)) := by
      rw [update_revived_eq_iff member moment request]
      constructor
      · rintro ⟨other, ⟨found, same⟩, rest⟩
        rw [named] at found
        cases found
        exact ⟨same, rest⟩
      · rintro ⟨same, rest⟩
        exact ⟨known, ⟨named, same⟩, rest⟩
    rw [effect] at ran
    cases next : link.next with
    | none =>
        have lost := Link.of_next_eq_none next
        rw [next] at ran
        cases ran
        cases applied : link.applies with
        | false => exact iff_of_true ⟨rfl, rfl, rfl, rfl⟩ (Or.inr (Or.inl ((lost 0).2.2.trans applied)))
        | true =>
            rw [if_pos rfl, StampedStore.stopsInTime_iff managed ((lost 0).2.2.trans applied) accepted, rewrites,
              and_iff_left]
            · exact ⟨fun same => ⟨same.1, same.2.1⟩, fun same => ⟨same.1, same.2, rfl, rfl⟩⟩
            · refine ⟨AuthStore.Holds.of_lost fun earlier => (lost earlier).1, fun _ carried => ?_⟩
              exact absurd ((lost _).1.symm.trans carried) Bool.false_ne_true
    | some rest =>
        have kept := Link.of_next_eq_some next
        have shifted : (fun earlier => link.carries (earlier + 1)) = rest.carries :=
          funext fun earlier => (kept earlier).1
        rw [next] at ran
        dsimp only at ran
        have owned : (middle.tables.principals.find known.principalId).isSome = true := by
          rw [Table.find_update, Table.find_of_mem member]
          rfl
        have later := writeApiKeyStamped_raises owned ran
        have same := writeApiKeyStamped_principals deployment draws caller request known.principalId middle
          { store := middle, link := rest } ⟨rfl, rfl⟩
        rw [ran] at same
        dsimp only at same
        rw [StampedStore.stopsInTime_iff managed (kept 0).2.2 accepted, rewrites, shifted]
        unfold StampedStore.Untouched
        rw [same.1, same.2, ← and_assoc]
        exact and_congr_right' later
  · let middle : StampedStore :=
      { tables := { store.tables with principals := principals }
        updatedAt := Function.update store.updatedAt draws.principalId moment }
    have effect : StampedStore.upsertPrincipal moment draws.principalId request.subjectName request.principalType store =
        (.ok draws.principalId, middle) := by
      unfold StampedStore.upsertPrincipal
      rw [upserted]
    have added : principals ≠ store.tables.principals := Table.ne_of_insert inserted
    have missing : link.carries 0 = true -> ¬ store.StopsInTime deployment link draws moment caller request := by
      intro carried stops
      rcases (StampedStore.stopsInTime_iff managed carried accepted).mp stops with ⟨known, ⟨named, -⟩, -⟩
      exact absurd (unknown.symm.trans named) nofun
    rw [effect] at ran
    cases next : link.next with
    | none =>
        have lost := Link.of_next_eq_none next 0
        rw [next] at ran
        cases ran
        cases applied : link.applies with
        | false => exact iff_of_true ⟨rfl, rfl, rfl, rfl⟩ (Or.inr (Or.inl (lost.2.2.trans applied)))
        | true => exact iff_of_false (fun same => added same.1) (missing (lost.2.2.trans applied))
    | some rest =>
        rw [next] at ran
        dsimp only at ran
        have same := writeApiKeyStamped_principals deployment draws caller request draws.principalId middle
          { store := middle, link := rest } ⟨rfl, rfl⟩
        rw [ran] at same
        apply iff_of_false
        · exact fun untouched => added (same.1.symm.trans untouched.1)
        · exact missing (Link.of_next_eq_some next 0).2.2

/-! ## A refused permission -/

namespace Scenario

/-- The second permission is not of the grammar. -/
def mixedRequest : CreateApiKeyRequest where
  subjectName := "signal-model".toList
  principalType := .service
  permissions := ["model:read".toList, "BAD".toList]
  expiresInDays := none
  expiresInDays_bounds := unlimited

def unstampedBlank : StampedStore where
  tables := blank
  updatedAt := fun _ => 0

end Scenario

/-- A connection that is lost before the first statement leaves nothing behind. -/
theorem creation_atomic_when_never_sent :
    Exists fun after =>
      AuthService.createApiKeyStamped Scenario.deployment Scenario.modelDraws 5 Scenario.administrator
        Scenario.mixedRequest { store := Scenario.unstampedBlank, link := .drops 0 false } =
          .error .connectionLost after ∧ Scenario.unstampedBlank.Untouched after.store :=
  ⟨_, rfl, (creation_atomic_iff Scenario.deployment Scenario.modelDraws 5 Scenario.administrator Scenario.mixedRequest
    Scenario.unstampedBlank (.drops 0 false) _ _ rfl).mpr (Or.inr (Or.inl rfl))⟩

/-- A permission that is refused leaves the principal and the grants before it. -/
theorem refused_permission_leaves_a_principal :
    ¬ forall (deployment : Deployment) (draws : CreateDraws) (moment : Int) (caller : AuthContext)
      (request : CreateApiKeyRequest) (store : StampedStore) (link : Link) (failure : Failure AuthError)
      (after : Connection StampedStore),
      AuthService.createApiKeyStamped deployment draws moment caller request { store := store, link := link } =
        .error failure after -> store.Untouched after.store := by
  intro atomic
  have untouched := atomic Scenario.deployment Scenario.modelDraws 5 Scenario.administrator Scenario.mixedRequest
    Scenario.unstampedBlank .steady _ _ rfl
  exact absurd (congrArg Table.rows untouched.1) nofun

end Auth
end ApexQuant
