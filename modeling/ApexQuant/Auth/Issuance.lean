import ApexQuant.Auth.Upkeep

namespace ApexQuant
namespace Auth

open Foundation
open Foundation.Database

/-!
# Who is given a token

`issue_token` reads the credential of the key together with its principal and
checks the status of the one, the flag of the other and the secret.  The row has
an expiry too, which `create_api_key` writes and nothing reads: a key goes on
working after its time.  Of the five conditions under which a token should be
issued the service therefore checks four, and `issues_soundly_iff` says that the
fifth fails exactly for the keys that the other four accept.
-/

/-- The expiry of a credential is not behind the moment. -/
def Credential.current (moment : Int) (credential : Credential) : Bool :=
  credential.expiresAt.all fun expiry => decide (moment < expiry)

/-- The checks of `issue_token`, on the row that it reads for the key. -/
def AuthStore.Accepts (store : AuthStore) (hasher : PasswordHasher) (identifier secret : Text)
    (credential : Credential) (principal : Principal) : Prop :=
  store.credentialWithPrincipal identifier = some (credential, principal) ∧ credential.status = .active ∧
    principal.active = true ∧ hasher.verify credential.secretHash secret = .verified

/-- The permissions are those of the principal's grants that have not expired, each
of them once. -/
def AuthStore.ExactGrants (store : AuthStore) (principal : Principal) (moment : Int) (permissions : List Text) :
    Prop :=
  permissions.Nodup ∧ forall permission, permission ∈ permissions <-> Exists fun grant => grant ∈ store.grants ∧
    grant.principalId = principal.principalId ∧ grant.permission = permission ∧
      grant.expiresAt.all (fun expiry => decide (moment < expiry)) = true

/-- Whatever token the key gets, its credential is accepted and current, and the
token carries what its principal is granted. -/
def AuthStore.IssuesSoundly (deployment : Deployment) (store : AuthStore) (draws : IssueDraws) (moment : Int)
    (apiKey : Text) (ttlSeconds : Int) : Prop :=
  forall link response after,
    AuthService.issueToken deployment draws apiKey ttlSeconds { store := store, link := link } = .ok response after ->
    Exists fun identifier => Exists fun secret => Exists fun credential => Exists fun principal =>
      Security.parseApiKey apiKey = .ok (identifier, secret) ∧
        store.Accepts deployment.hasher identifier secret credential principal ∧ credential.current moment = true ∧
        store.ExactGrants principal draws.grantsReadAt response.accessToken.permissions

/-- The key names a credential that passes every check of `issue_token` and has
expired. -/
def AuthStore.AcceptsExpired (deployment : Deployment) (store : AuthStore) (moment : Int) (apiKey : Text) : Prop :=
  Exists fun identifier => Exists fun secret => Exists fun credential => Exists fun principal =>
    Security.parseApiKey apiKey = .ok (identifier, secret) ∧
      store.Accepts deployment.hasher identifier secret credential principal ∧ credential.current moment = false

/-! ## The permissions of a token -/

theorem AuthStore.permissions_exactGrants (collation : Text -> Text -> Bool) (store : AuthStore)
    (principal : Principal) (moment : Int) :
    store.ExactGrants principal moment (store.permissions collation principal.principalId moment) := by
  constructor
  · have sorted := List.perm_insertionSort (fun a b => collation a b = true)
      ((store.grants.rows.filter fun grant => decide (grant.principalId = principal.principalId) &&
        grant.expiresAt.all fun expiry => decide (moment < expiry)).map PermissionGrant.permission)
    apply sorted.nodup_iff.mpr
    apply List.Nodup.map_on
    · intro left leftMember right rightMember same
      rcases List.mem_filter.mp leftMember with ⟨leftStored, leftKept⟩
      rcases List.mem_filter.mp rightMember with ⟨rightStored, rightKept⟩
      have leftOwner := of_decide_eq_true (Bool.and_eq_true_iff.mp leftKept).1
      have rightOwner := of_decide_eq_true (Bool.and_eq_true_iff.mp rightKept).1
      exact Table.eq_of_key_eq leftStored rightStored (Prod.ext (leftOwner.trans rightOwner.symm) same)
    · exact (List.Nodup.of_map _ store.grants.unique).filter _
  · intro permission
    unfold AuthStore.permissions
    rw [List.mem_insertionSort, List.mem_map]
    constructor
    · rintro ⟨grant, kept, named⟩
      rcases List.mem_filter.mp kept with ⟨stored, passes⟩
      rcases Bool.and_eq_true_iff.mp passes with ⟨owner, current⟩
      exact ⟨grant, stored, of_decide_eq_true owner, named, current⟩
    · rintro ⟨grant, stored, owner, named, current⟩
      refine ⟨grant, List.mem_filter.mpr ⟨stored, ?_⟩, named⟩
      exact Bool.and_eq_true_iff.mpr ⟨decide_eq_true owner, current⟩

/-! ## What a token rests on -/

/-- The checks and the permissions behind a response of `issue_token`. -/
def AuthStore.Backs (deployment : Deployment) (store : AuthStore) (draws : IssueDraws) (apiKey : Text)
    (response : IssueTokenResponse) : Prop :=
  Exists fun identifier => Exists fun secret => Exists fun credential => Exists fun principal =>
    Security.parseApiKey apiKey = .ok (identifier, secret) ∧
      store.Accepts deployment.hasher identifier secret credential principal ∧
      response.accessToken.permissions =
        store.permissions deployment.collation principal.principalId draws.grantsReadAt

section Issue

variable {deployment : Deployment} {draws : IssueDraws} {store : AuthStore}

theorem verifyApiKeySecret_verified {hasher : PasswordHasher} {secretHash secret : Text}
    (verified : Security.verifyApiKeySecret hasher secretHash secret = .ok true) :
    hasher.verify secretHash secret = .verified := by
  unfold Security.verifyApiKeySecret at verified
  cases outcome : hasher.verify secretHash secret with
  | verified => rfl
  | mismatch =>
      rw [outcome] at verified
      exact absurd verified nofun
  | failed =>
      rw [outcome] at verified
      exact absurd verified nofun

/-- A failed attempt returns nothing. -/
theorem deny_returns {A : Type} {pre : AuthStore -> Prop} {post : A -> AuthStore -> Prop} (subjectName : Text)
    (principalType : Option Text) (action reason : Text) (error : AuthSecurityError) :
    Triple pre (AuthService.deny subjectName principalType action reason error) post (fun _ => True) := by
  have recorded : Triple pre (recordEvent subjectName principalType action "DENY".toList reason)
      (fun _ _ => True) (fun _ => True) :=
    Triple.statement (fun _ _ _ _ => trivial) (fun _ _ => trivial) (fun _ _ => trivial)
  apply Triple.bind recorded
  intro _
  exact Triple.throw fun _ _ => trivial

/-- A statement does not change what has been read before it. -/
theorem statement_after {A : Type} (fact : Prop) (effect : AuthStore -> Except AuthError A × AuthStore) :
    Triple (fun _ => fact) (statement effect) (fun _ _ => fact) (fun _ => True) :=
  Triple.statement (fun _ holds _ _ => holds) (fun _ _ => trivial) (fun _ _ => trivial)

theorem issueClaims_permissions (credential : Credential) (principal : Principal) (ttlSeconds : Int) :
    Triple (fun before => before = store)
      (AuthService.issueClaims deployment draws credential principal ttlSeconds)
      (fun response _ => response.accessToken.permissions =
        store.permissions deployment.collation credential.principalId draws.grantsReadAt)
      (fun _ => True) := by
  apply Triple.query_bind (fun _ _ => trivial)
  intro permissions
  let fact : Prop := permissions = store.permissions deployment.collation credential.principalId draws.grantsReadAt
  have known : forall before, (before = store ∧
      before.permissions deployment.collation credential.principalId draws.grantsReadAt = permissions) -> fact := by
    rintro before ⟨rfl, read⟩
    exact read.symm
  apply Triple.bind ((statement_after fact _).weaken known (fun _ _ holds => holds) (fun _ holds => holds))
  intro _
  apply Triple.bind (statement_after fact _)
  intro _
  exact Triple.pure fun _ holds => holds

variable (deployment draws store) in
theorem issueToken_backs (apiKey : Text) (ttlSeconds : Int) :
    Triple (fun before => before = store) (AuthService.issueToken deployment draws apiKey ttlSeconds)
      (fun response _ => store.Backs deployment draws apiKey response) (fun _ => True) := by
  unfold AuthService.issueToken
  cases parsed : Security.parseApiKey apiKey with
  | error error => exact Triple.throw fun _ _ => trivial
  | ok parts =>
      have read : Triple (fun before => before = store) (getCredentialWithPrincipal parts.1)
          (fun row before => before = store ∧ store.credentialWithPrincipal parts.1 = row) (fun _ => True) := by
        refine Triple.statement ?_ (fun _ _ => trivial) (fun _ _ => trivial)
        rintro before rfl row answered
        split at answered
        · exact absurd answered nofun
        · rename_i sent
          rw [if_neg sent]
          exact ⟨rfl, Except.ok.inj answered⟩
      apply Triple.bind read
      intro row
      cases row with
      | none => exact deny_returns _ _ _ _ _
      | some found =>
          rcases found with ⟨credential, principal⟩
          dsimp only
          split
          · exact deny_returns _ _ _ _ _
          · rename_i active
            split
            · exact deny_returns _ _ _ _ _
            · rename_i enabled
              split
              · exact Triple.throw fun _ _ => trivial
              · exact deny_returns _ _ _ _ _
              · rename_i verified
                by_cases joined : store.credentialWithPrincipal parts.1 = some (credential, principal)
                · have owner := (AuthStore.credentialWithPrincipal_spec joined).2
                  refine (issueClaims_permissions credential principal ttlSeconds).weaken (fun _ holds => holds.1) ?_
                    (fun _ _ => trivial)
                  intro response after carried
                  refine ⟨parts.1, parts.2, credential, principal, parsed, ?_, ?_⟩
                  · exact ⟨joined, not_not.mp active, Bool.eq_true_of_not_eq_false enabled,
                      verifyApiKeySecret_verified verified⟩
                  · rw [owner]
                    exact carried
                · exact fun connection holds => absurd holds.2 joined

/-- Every token rests on the four checks. -/
theorem backs_of_issueToken {apiKey : Text} {ttlSeconds : Int} {link : Link} {response : IssueTokenResponse}
    {after : Connection AuthStore}
    (issued : AuthService.issueToken deployment draws apiKey ttlSeconds { store := store, link := link } =
      .ok response after) : store.Backs deployment draws apiKey response := by
  have ended := issueToken_backs deployment draws store apiKey ttlSeconds { store := store, link := link } rfl
  rw [issued] at ended
  exact ended

/-- The event of an issued token is a row that the schema takes. -/
theorem insertEvent_issued {principal : Principal} (named : recordable principal.subjectName = true)
    (store : AuthStore) :
    (insertEvent
      { subjectName := principal.subjectName, principalType := some principal.principalType.value,
        action := "ISSUE_TOKEN".toList, decision := "SUCCESS".toList, reason := "token issued".toList } store).1 =
      .ok () := by
  rcases Bool.and_eq_true_iff.mp named with ⟨sendable, notBlank⟩
  have typed : Text.sendable principal.principalType.value = true := by
    cases principal.principalType <;> decide
  have words : Text.sendable "ISSUE_TOKEN".toList = true ∧ Text.sendable "SUCCESS".toList = true ∧
      Text.sendable "token issued".toList = true ∧ Text.notBlank "ISSUE_TOKEN".toList = true ∧
      ["ALLOW".toList, "DENY".toList, "SUCCESS".toList, "FAILURE".toList].contains "SUCCESS".toList = true := by
    decide
  rcases words with ⟨action, decision, reason, actionKept, listed⟩
  have sent : ([principal.subjectName, "ISSUE_TOKEN".toList, "SUCCESS".toList, "token issued".toList] ++
      (some principal.principalType.value).toList).all Text.sendable = true := by
    simp only [List.all_append, List.all_cons, List.all_nil, Option.toList, sendable, action, decision, reason, typed,
      Bool.and_self]
  unfold insertEvent
  rw [if_neg (sent ▸ Bool.true_eq_false.mp), if_neg]
  rw [notBlank, actionKept, listed]
  exact Bool.true_eq_false.mp

theorem issueClaims_returns {principal : Principal} (named : recordable principal.subjectName = true)
    (credential : Credential) (ttlSeconds : Int) (store : AuthStore) :
    Exists fun response => Exists fun after =>
      AuthService.issueClaims deployment draws credential principal ttlSeconds
        { store := store, link := .steady } = .ok response after := by
  unfold AuthService.issueClaims getPermissions query
  rw [statement_bind_run]
  simp only [Link.next]
  unfold updateLastUsed setLastUsed
  rw [statement_bind_run]
  simp only [Link.next]
  unfold recordEvent
  rw [statement_bind_run]
  simp only [Link.next]
  split
  · exact ⟨_, _, rfl⟩
  · rename_i error after refused
    have accepted := insertEvent_issued named (setLastUsed credential.credentialId draws.usedAt store).2
    unfold setLastUsed at accepted
    rw [refused] at accepted
    cases accepted

variable (draws) in
/-- Nothing but the four checks stands between a key and its token. -/
theorem issueToken_of_accepts {apiKey identifier secret : Text} {credential : Credential} {principal : Principal}
    (parsed : Security.parseApiKey apiKey = .ok (identifier, secret)) (sent : Text.sendable identifier = true)
    (named : recordable principal.subjectName = true)
    (accepts : store.Accepts deployment.hasher identifier secret credential principal) (ttlSeconds : Int) :
    Exists fun response => Exists fun after =>
      AuthService.issueToken deployment draws apiKey ttlSeconds { store := store, link := .steady } =
        .ok response after := by
  rcases accepts with ⟨joined, active, enabled, verified⟩
  unfold AuthService.issueToken
  rw [parsed]
  dsimp only
  unfold getCredentialWithPrincipal
  rw [statement_bind_run]
  simp only [Link.next, sent, Bool.true_eq_false, if_false, joined]
  rw [if_neg (not_not.mpr active), if_neg (by rw [enabled]; exact Bool.true_eq_false.mp)]
  simp only [Security.verifyApiKeySecret, verified]
  exact issueClaims_returns named _ _ _

end Issue

/-! ## The rows that the schema takes -/

/-- The texts of principals and credentials that the schema takes. -/
structure AuthStore.Recorded (store : AuthStore) : Prop where
  named : forall principal, principal ∈ store.principals -> recordable principal.subjectName = true
  identified : forall credential, credential ∈ store.credentials -> recordable credential.identifier = true

theorem insertCredential_recorded {drawn principalId : Id} {identifier secretHash : Text} {expiresAt : Option Int}
    {store : AuthStore} (holds : store.Recorded) :
    (insertCredential drawn principalId identifier secretHash expiresAt store).2.Recorded := by
  unfold insertCredential
  split
  · exact holds
  · rename_i sent
    split
    · exact holds
    · rename_i kept
      split
      · exact holds
      · split
        · exact holds
        · rename_i credentials inserted
          split
          · exact holds
          · refine { holds with identified := fun credential member => ?_ }
            rcases (Table.mem_insert inserted).mp member with old | rfl
            · exact holds.identified credential old
            · exact Bool.and_eq_true_iff.mpr
                ⟨(Bool.and_eq_true_iff.mp (Bool.eq_true_of_not_eq_false sent)).1,
                  (Bool.and_eq_true_iff.mp (Bool.eq_true_of_not_eq_false kept)).1⟩

/-- An update in place that leaves the identifiers alone. -/
theorem AuthStore.Recorded.update {store : AuthStore} (holds : store.Recorded) (change : Credential -> Credential)
    (keeps : forall row, (change row).identifier = row.identifier) :
    AuthStore.Recorded { store with credentials := store.credentials.update change keeps } := by
  refine { holds with identified := fun credential member => ?_ }
  rcases (Table.mem_update keeps).mp member with ⟨old, known, rfl⟩
  rw [keeps old]
  exact holds.identified old known

theorem recorded_upheld (fold : Text.Lowercasing) : Upheld fold (fun _ => True) AuthStore.Recorded where
  upsertPrincipal := by
    intro drawn subjectName principalType store holds
    rcases upsertPrincipal_cases drawn subjectName principalType store with
      ⟨error, ran⟩ | ⟨known, change, keeps, -, -, same, ran⟩ | ⟨added, principals, -, named, -, accepted, -, inserted, ran⟩
    · rw [ran]
      exact holds
    · rw [ran]
      refine { holds with named := fun principal member => ?_ }
      rcases (Table.mem_update keeps).mp member with ⟨old, stored, rfl⟩
      rw [(same old).1]
      exact holds.named old stored
    · rw [ran]
      refine { holds with named := fun principal member => ?_ }
      rcases (Table.mem_insert inserted).mp member with old | rfl
      · exact holds.named principal old
      · rw [named]
        exact accepted
  insertGrant := by
    intro principalId permission store holds
    rcases insertGrant_cases fold principalId permission store with unchanged | ⟨grants, -, -, ran⟩
    · rw [unchanged]
      exact holds
    · rw [ran]
      exact { holds with }
  insertCredential := fun _ _ _ _ _ _ holds => insertCredential_recorded holds
  upsertBootstrapCredential := by
    intro drawn principalId identifier secretHash store _ holds
    unfold upsertBootstrapCredential
    split
    · exact insertCredential_recorded holds
    · split
      · exact holds
      · split
        · exact holds
        · split
          · exact holds
          · exact holds.update _ _
  setRevoked := by
    intro identifier store holds
    unfold setRevoked
    split
    · exact holds
    · exact holds.update _ _
  setLastUsed := fun _ _ _ holds => holds.update _ _
  insertEvent := by
    intro event store holds
    unfold insertEvent
    split
    · exact holds
    · split
      · exact holds
      · exact { holds with }
  reduced := by
    intro before after reduced holds
    constructor
    · rw [reduced.principals]
      exact holds.named
    · rw [reduced.credentials]
      exact holds.identified

/-! ## The verdict -/

theorem AuthStore.Recorded.issuesSoundly_iff {store : AuthStore} (holds : store.Recorded) (deployment : Deployment)
    (draws : IssueDraws) (moment : Int) (apiKey : Text) (ttlSeconds : Int) :
    store.IssuesSoundly deployment draws moment apiKey ttlSeconds <-> ¬ store.AcceptsExpired deployment moment apiKey := by
  constructor
  · rintro sound ⟨identifier, secret, credential, principal, parsed, accepts, expired⟩
    rcases Option.bind_eq_some_iff.mp accepts.1 with ⟨read, found, joined⟩
    rcases Option.map_eq_some_iff.mp joined with ⟨owner, owned, same⟩
    cases same
    have sent := (Bool.and_eq_true_iff.mp (holds.identified _ (Table.mem_of_find found).1)).1
    rw [(Table.mem_of_find found).2] at sent
    have named := holds.named _ (Table.mem_of_find owned).1
    rcases issueToken_of_accepts draws parsed sent named accepts ttlSeconds with ⟨response, after, issued⟩
    rcases sound _ _ _ issued with ⟨identifier', secret', credential', principal', parsed', accepts', current, -⟩
    rw [parsed] at parsed'
    cases parsed'
    have sameRow := accepts.1.symm.trans accepts'.1
    cases sameRow
    rw [expired] at current
    exact Bool.false_ne_true current
  · intro unexpired link response after issued
    rcases backs_of_issueToken issued with ⟨identifier, secret, credential, principal, parsed, accepts, carried⟩
    refine ⟨identifier, secret, credential, principal, parsed, accepts, ?_, ?_⟩
    · cases current : credential.current moment with
      | true => rfl
      | false => exact absurd ⟨identifier, secret, credential, principal, parsed, accepts, current⟩ unexpired
    · rw [carried]
      exact AuthStore.permissions_exactGrants _ _ _ _

/-- The state that a run of operations and restarts reaches. -/
def reachedStore (deployment : Deployment) (initial : AuthStore) (actions : List AuthAction) : AuthStore :=
  (actions.foldl (AuthSystem.step deployment) { store := initial, issued := [] }).store

theorem recorded_reachedStore (deployment : Deployment) {initial : AuthStore} (recorded : initial.Recorded)
    (actions : List AuthAction) : (reachedStore deployment initial actions).Recorded := by
  apply (recorded_upheld deployment.fold).run ?_ recorded
  intro action _
  cases action <;> simp [AuthAction.Admitted]

/-- In every state that a run reaches, a key is issued tokens on exactly the stated
authority, unless the checks accept it after its time. -/
theorem issues_soundly_iff (deployment : Deployment) (initial : AuthStore) (recorded : initial.Recorded)
    (actions : List AuthAction) (draws : IssueDraws) (moment : Int) (apiKey : Text) (ttlSeconds : Int) :
    (reachedStore deployment initial actions).IssuesSoundly deployment draws moment apiKey ttlSeconds <->
      ¬ (reachedStore deployment initial actions).AcceptsExpired deployment moment apiKey :=
  (recorded_reachedStore deployment recorded actions).issuesSoundly_iff _ _ _ _ _

/-! ## A key past its time -/

namespace Scenario

/-- The database after its migrations. -/
def blank : AuthStore where
  principals := Table.empty
  grants := Table.empty
  credentials := Table.empty
  principalRoles := Table.empty
  rolePermissions := Table.empty
  events := []

theorem blank_recorded : blank.Recorded where
  named := fun _ member => absurd member List.not_mem_nil
  identified := fun _ member => absurd member List.not_mem_nil

/-- The administrator creates a key that is good for one day. -/
def dayKey : List AuthAction :=
  [.createApiKey .steady { principalId := 1, credentialId := 1, key := modelKey, salt := "s".toList, now := 0 }
    administrator
    { subjectName := "signal-model".toList, principalType := .service, permissions := ["model:read".toList],
      expiresInDays := some 1, expiresInDays_bounds := fun days given => by cases given; decide }]

/-- A request for a token, at a time in seconds. -/
def request (seconds : Int) : IssueDraws where
  grantsReadAt := seconds * 1000000
  usedAt := seconds * 1000000
  now := seconds
  jti := "first".toList

def dayCredential : Credential where
  credentialId := 1
  principalId := 1
  identifier := modelKey.identifier
  secretHash := "s".toList ++ modelKey.secret
  status := .active
  expiresAt := some microsecondsPerDay
  lastUsedAt := none

def keyOwner : Principal where
  principalId := 1
  subjectName := "signal-model".toList
  principalType := .service
  active := true
  plane := .control

theorem dayKey_accepted :
    Security.parseApiKey modelKey.fullKey = .ok (modelKey.identifier, modelKey.secret) ∧
      (reachedStore deployment blank dayKey).Accepts deployment.hasher modelKey.identifier modelKey.secret
        dayCredential keyOwner := by
  refine ⟨by decide, by decide, by decide, by decide, by decide⟩

end Scenario

/-- Within its day the key is issued tokens on the stated authority. -/
theorem issues_soundly_before_expiry :
    (reachedStore Scenario.deployment Scenario.blank Scenario.dayKey).IssuesSoundly Scenario.deployment
      (Scenario.request 3600) 3600000000 Scenario.modelKey.fullKey 300 := by
  apply (issues_soundly_iff Scenario.deployment Scenario.blank Scenario.blank_recorded Scenario.dayKey _ _ _ _).mpr
  rintro ⟨identifier, secret, credential, principal, parsed, accepts, expired⟩
  have key := Scenario.dayKey_accepted
  rw [key.1] at parsed
  cases parsed
  have sameRow := key.2.1.symm.trans accepts.1
  cases sameRow
  exact absurd expired (by decide)

/-- Two days later the key still is. -/
theorem expired_key_is_issued_a_token :
    ¬ forall (deployment : Deployment) (initial : AuthStore) (actions : List AuthAction) (draws : IssueDraws)
      (apiKey : Text) (ttlSeconds : Int), initial.Recorded ->
      (reachedStore deployment initial actions).IssuesSoundly deployment draws draws.grantsReadAt apiKey
        ttlSeconds := by
  intro sound
  have issues := sound Scenario.deployment Scenario.blank Scenario.dayKey (Scenario.request 172800)
    Scenario.modelKey.fullKey 300 Scenario.blank_recorded
  have reached := recorded_reachedStore Scenario.deployment Scenario.blank_recorded Scenario.dayKey
  have key := Scenario.dayKey_accepted
  exact (reached.issuesSoundly_iff _ _ _ _ _).mp issues
    ⟨_, _, Scenario.dayCredential, Scenario.keyOwner, key.1, key.2, by decide⟩

end Auth
end ApexQuant
