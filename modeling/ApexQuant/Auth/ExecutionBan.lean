import ApexQuant.Auth.Reconciliation
import ApexQuant.Auth.Service
import ApexQuant.Foundation.Runs

namespace ApexQuant
namespace Auth

open Foundation
open Foundation.Database
open Permissions

/-!
# From a grant to an answer

A permission travels from a grant through the store into a token and from there
into the answer of `authorize`.  None of the stations looks at the plane of the
principal: `grant_permissions` writes what the grammar admits, `issue_token` copies
it, and the context that `authorize` reads has no plane.  The sweep deletes grants,
but not the tokens issued before it.

So the ban on execution holds in a run exactly as far as nobody grants what it
forbids.  `Contained` says that neither the grants nor the tokens of a restricted
principal name a banned permission; every operation keeps it, and a context with
such permissions is refused every forbidden request.
-/

/-! ## Banned permissions -/

/-- The permissions that must not reach a principal: on a restricted plane, the
global wildcard and whatever a forbidden pattern covers. -/
def banned (plane : Plane) (permission : Text) : Bool :=
  Rbac.isRestricted forbiddenMatrix plane.value &&
    (decide (permission = wildcard) ||
      (Rbac.forbiddenPatterns forbiddenMatrix plane.value).any fun pattern => Rbac.covers pattern permission)

theorem not_banned_control (permission : Text) : banned .control permission = false := rfl

theorem not_banned_iff {plane : Plane} (restricted : Rbac.isRestricted forbiddenMatrix plane.value = true)
    (permission : Text) :
    banned plane permission = false <-> permission ≠ wildcard ∧
      forall pattern, pattern ∈ Rbac.forbiddenPatterns forbiddenMatrix plane.value ->
        Rbac.covers pattern permission = false := by
  rw [banned, restricted, Bool.true_and, Bool.or_eq_false_iff, decide_eq_false_iff_not, List.any_eq_false]
  simp only [Bool.not_eq_true, ne_eq]

theorem executionPatterns_word {pattern domain : Text} (listed : pattern ∈ executionPatterns)
    (shape : List.splitOn ':' pattern = [domain, wildcard]) : Rbac.word domain = true := by
  have table : forall p, p ∈ executionPatterns -> Rbac.word ((List.splitOn ':' p).headD []) = true := by decide
  have plain := table pattern listed
  rwa [shape] at plain

/-- Trimming a request that opens with a domain keeps the domain. -/
theorem strip_requiredPermission {domain action resource : Text} (plain : Rbac.word domain = true)
    (opens : (List.splitOn ':' (AuthService.requiredPermission action resource)).head? = some domain) :
    (List.splitOn ':' (Text.strip (AuthService.requiredPermission action resource))).head? = some domain := by
  rcases List.exists_cons_of_ne_nil (List.splitOn_ne_nil ':' action) with ⟨first, rest, segments⟩
  have split : List.splitOn ':' (AuthService.requiredPermission action resource) =
      first :: (rest ++ List.splitOn ':' resource) := by
    rw [AuthService.requiredPermission, List.splitOn_append_cons_self, segments, List.cons_append]
  rw [split, List.head?_cons, Option.some.injEq] at opens
  subst first
  have more : rest ++ List.splitOn ':' resource ≠ [] :=
    List.append_ne_nil_of_right_ne_nil _ (List.splitOn_ne_nil _ _)
  have shape := eq_of_splitOn_append (List.cons_ne_nil domain []) more split
  have single : List.intercalate [':'] [domain] = domain := by simp [List.intercalate]
  rcases Bool.and_eq_true_iff.mp plain with ⟨nonempty, letters⟩
  have solid : forall c, c ∈ domain -> Text.isSpace c = false :=
    fun c member => allowed_solid (List.all_eq_true.mp letters c member)
  have present : domain ≠ [] := by simpa using nonempty
  rw [single] at shape
  rw [shape, Text.strip_word_append domain ':' _ present solid (by decide),
    List.splitOn_append_cons_self_of_not_mem (word_colonFree plain), List.head?_cons]

/-- No list without banned permissions reaches a forbidden request. -/
theorem hasPermission_of_forbidden {plane : Plane} {granted : List Text} {pattern action resource : Text}
    (restricted : Rbac.isRestricted forbiddenMatrix plane.value = true)
    (harmless : forall p, p ∈ granted -> wellFormed p = true ∧ banned plane p = false)
    (listed : pattern ∈ Rbac.forbiddenPatterns forbiddenMatrix plane.value)
    (covered : Rbac.covers pattern (AuthService.requiredPermission action resource) = true) :
    hasPermission granted (AuthService.requiredPermission action resource) = false := by
  have execution := listed
  rw [forbiddenPatterns_of_restricted restricted] at execution
  rcases executionPatterns_shape execution with ⟨domain, shape, proper⟩
  have opens := strip_requiredPermission (executionPatterns_word execution shape)
    ((covers_executionPattern shape proper _).mp covered)
  unfold hasPermission
  split
  · rfl
  · rw [List.any_eq_false]
    intro p member matched
    rcases harmless p member with ⟨admitted, allowed⟩
    rcases (not_banned_iff restricted p).mp allowed with ⟨notWhole, apart⟩
    have outside : (List.splitOn ':' p).head? ≠ some domain := by
      intro inside
      have reached := (covers_executionPattern shape proper p).mpr inside
      rw [apart pattern listed] at reached
      exact Bool.false_ne_true reached
    rcases (permissionMatches_iff admitted).mp matched with equal | ⟨stem, more, split, continued, -⟩
    · exact outside (equal ▸ opens)
    · cases stem with
      | nil =>
          -- The empty stem is the global wildcard.
          exact notWhole (Text.eq_of_splitOn_eq ':' (split.trans (by decide)))
      | cons head tail =>
          rw [continued, List.cons_append, List.head?_cons] at opens
          apply outside
          rw [split, List.cons_append, List.head?_cons]
          exact opens

/-! ## The invariant -/

/-- The schema's constraints on the names of principals. -/
structure AuthStore.NamesKept (store : AuthStore) : Prop where
  named : forall principal, principal ∈ store.principals -> recordable principal.subjectName = true
  distinct : forall left right, left ∈ store.principals -> right ∈ store.principals ->
    left.subjectName = right.subjectName -> left.principalId = right.principalId

/-- No grant and no token of a principal names a permission that its plane is banned
from. -/
structure Contained (issued : List TokenClaims) (store : AuthStore) : Prop extends AuthStore.NamesKept store where
  grants : forall grant, grant ∈ store.grants -> wellFormed grant.permission = true ∧
    forall principal, principal ∈ store.principals -> principal.principalId = grant.principalId ->
      banned principal.plane grant.permission = false
  recordableTokens : forall claims, claims ∈ issued -> recordable claims.sub = true ∧ Text.sendable claims.typ = true
  tokens : forall claims, claims ∈ issued -> forall permission, permission ∈ claims.permissions ->
    wellFormed permission = true ∧
      forall principal, principal ∈ store.principals -> principal.subjectName = claims.sub ->
        banned principal.plane permission = false

/-- Every principal was there before, under its name and on its plane, or is on the
default plane under a name of its own; and no grant is new. -/
structure AuthStore.Continues (before after : AuthStore) : Prop where
  principals : forall principal, principal ∈ after.principals ->
    (Exists fun old => old ∈ before.principals ∧ old.principalId = principal.principalId ∧
      old.subjectName = principal.subjectName ∧ old.plane = principal.plane) ∨
    (principal.plane = .control ∧ recordable principal.subjectName = true ∧
      forall other, other ∈ after.principals -> other.subjectName = principal.subjectName ->
        other.principalId = principal.principalId)
  grants : forall grant, grant ∈ after.grants -> grant ∈ before.grants

namespace AuthStore.Continues

theorem of_principals_eq {before after : AuthStore} (principals : after.principals = before.principals)
    (grants : forall grant, grant ∈ after.grants -> grant ∈ before.grants) : before.Continues after where
  principals := fun principal member => Or.inl ⟨principal, principals ▸ member, rfl, rfl, rfl⟩
  grants := grants

theorem of_sameGrants {before after : AuthStore} (same : before.SameGrants after) : before.Continues after :=
  of_principals_eq same.1 fun _ member => same.2 ▸ member

theorem upsertPrincipal (drawn : Id) (subjectName : Text) (principalType : PrincipalType) (store : AuthStore) :
    store.Continues (upsertPrincipal drawn subjectName principalType store).2 := by
  rcases upsertPrincipal_cases drawn subjectName principalType store with
    ⟨error, ran⟩ | ⟨known, change, keeps, -, -, same, ran⟩ |
    ⟨added, principals, -, named, plane, accepted, unknown, inserted, ran⟩
  · rw [ran]
    exact of_sameGrants ⟨rfl, rfl⟩
  · rw [ran]
    refine ⟨fun principal member => ?_, fun _ member => member⟩
    rcases (Table.mem_update keeps).mp member with ⟨old, known, rfl⟩
    exact Or.inl ⟨old, known, (keeps old).symm, (same old).1.symm, (same old).2.symm⟩
  · rw [ran]
    refine ⟨fun principal member => ?_, fun _ member => member⟩
    rcases (Table.mem_insert inserted).mp member with old | rfl
    · exact Or.inl ⟨principal, old, rfl, rfl, rfl⟩
    · refine Or.inr ⟨plane, named ▸ accepted, fun other otherMember sameName => ?_⟩
      rcases (Table.mem_insert inserted).mp otherMember with old | rfl
      · exact absurd (sameName.trans named) (unknown other old)
      · rfl

/-- What is contained stays contained where nothing is granted. -/
theorem contained {issued : List TokenClaims} {before after : AuthStore} (continues : before.Continues after)
    (holds : Contained issued before) : Contained issued after where
  named := by
    intro principal member
    rcases continues.principals principal member with ⟨old, known, -, sameName, -⟩ | ⟨-, accepted, -⟩
    · exact sameName ▸ holds.named old known
    · exact accepted
  distinct := by
    intro left right leftMember rightMember sameName
    rcases continues.principals left leftMember with ⟨oldLeft, knownLeft, leftId, leftName, -⟩ | ⟨-, -, alone⟩
    · rcases continues.principals right rightMember with ⟨oldRight, knownRight, rightId, rightName, -⟩ | ⟨-, -, alone⟩
      · have sameOld := holds.distinct oldLeft oldRight knownLeft knownRight
          (leftName.trans (sameName.trans rightName.symm))
        exact leftId.symm.trans (sameOld.trans rightId)
      · exact alone left leftMember sameName
    · exact (alone right rightMember sameName.symm).symm
  grants := by
    intro grant member
    rcases holds.grants grant (continues.grants grant member) with ⟨admitted, allowed⟩
    refine ⟨admitted, fun principal listed owns => ?_⟩
    rcases continues.principals principal listed with ⟨old, known, sameId, -, samePlane⟩ | ⟨default, -, -⟩
    · exact samePlane ▸ allowed old known (sameId.trans owns)
    · rw [default]
      exact not_banned_control _
  recordableTokens := holds.recordableTokens
  tokens := by
    intro claims member permission carried
    rcases holds.tokens claims member permission carried with ⟨admitted, allowed⟩
    refine ⟨admitted, fun principal listed subject => ?_⟩
    rcases continues.principals principal listed with ⟨old, known, -, sameName, samePlane⟩ | ⟨default, -, -⟩
    · exact samePlane ▸ allowed old known (sameName.trans subject)
    · rw [default]
      exact not_banned_control _

end AuthStore.Continues

namespace Contained

variable {issued : List TokenClaims}

theorem forget {more : List TokenClaims} {store : AuthStore} (holds : Contained (issued ++ more) store) :
    Contained issued store :=
  { holds with
    recordableTokens := fun claims member => holds.recordableTokens claims (List.mem_append_left _ member)
    tokens := fun claims member => holds.tokens claims (List.mem_append_left _ member) }

/-- A grant to an identifier none of whose owners is banned from it. -/
theorem insertGrant {fold : Text.Lowercasing} {principalId : Id} {permission : Text} {store : AuthStore}
    (holds : Contained issued store)
    (allowed : isValidPermission fold permission = true -> forall principal, principal ∈ store.principals ->
      principal.principalId = principalId -> banned principal.plane permission = false) :
    Contained issued (insertGrant fold principalId permission store).2 := by
  rcases insertGrant_cases fold principalId permission store with unchanged | ⟨grants, valid, inserted, ran⟩
  · rw [unchanged]
    exact holds
  · rw [ran]
    refine { holds with grants := fun grant member => ?_ }
    rcases (Table.mem_insert inserted).mp member with old | rfl
    · exact holds.grants grant old
    · exact ⟨wellFormed_of_isValidPermission valid, allowed valid⟩

/-- A token that carries the grants of the principal it names. -/
theorem issue {store : AuthStore} (holds : Contained issued store) {claims : TokenClaims} {principal : Principal}
    (listed : principal ∈ store.principals) (subject : claims.sub = principal.subjectName)
    (typ : Text.sendable claims.typ = true)
    (carries : forall permission, permission ∈ claims.permissions -> Exists fun grant => grant ∈ store.grants ∧
      grant.principalId = principal.principalId ∧ grant.permission = permission) :
    Contained (issued ++ [claims]) store := by
  refine { holds with recordableTokens := fun other member => ?_, tokens := fun other member => ?_ }
  · rcases List.mem_append.mp member with earlier | last
    · exact holds.recordableTokens other earlier
    · rw [List.mem_singleton.mp last, subject]
      exact ⟨holds.named principal listed, typ⟩
  · rcases List.mem_append.mp member with earlier | last
    · exact holds.tokens other earlier
    · rw [List.mem_singleton.mp last]
      intro permission carried
      rcases carries permission carried with ⟨grant, stored, owner, rfl⟩
      rcases holds.grants grant stored with ⟨admitted, allowed⟩
      refine ⟨admitted, fun other known named => allowed other known ?_⟩
      exact (holds.distinct other principal known listed (named.trans subject)).trans owner.symm

end Contained

/-! ## The operations keep it -/

abbrev Principal.Named (subjectName : Text) (principal : Principal) : Prop :=
  principal.subjectName = subjectName

abbrev Principal.Identified (principalId : Id) (principal : Principal) : Prop :=
  principal.principalId = principalId

/-- None of the principals concerned is banned from what the grammar admits of a
list of permissions. -/
def AuthStore.Spares (store : AuthStore) (fold : Text.Lowercasing) (permissions : List Text)
    (concerned : Principal -> Prop) : Prop :=
  forall permission, permission ∈ permissions -> isValidPermission fold permission = true ->
    forall principal, principal ∈ store.principals -> concerned principal ->
      banned principal.plane permission = false

instance (store : AuthStore) (fold : Text.Lowercasing) (permissions : List Text) (concerned : Principal -> Prop)
    [DecidablePred concerned] : Decidable (store.Spares fold permissions concerned) :=
  inferInstanceAs (Decidable (forall permission, permission ∈ permissions ->
    isValidPermission fold permission = true -> forall principal, principal ∈ store.principals.rows ->
      concerned principal -> banned principal.plane permission = false))

/-- The identifier that the upsert answers belongs to the name it was given. -/
theorem upsertPrincipal_subject {drawn answer : Id} {subjectName : Text} {principalType : PrincipalType}
    {store : AuthStore} (answered : (upsertPrincipal drawn subjectName principalType store).1 = .ok answer)
    {principal : Principal} (listed : principal ∈ (upsertPrincipal drawn subjectName principalType store).2.principals)
    (owns : principal.principalId = answer) : principal.subjectName = subjectName := by
  rcases upsertPrincipal_cases drawn subjectName principalType store with
    ⟨error, ran⟩ | ⟨known, change, keeps, member, named, same, ran⟩ |
    ⟨added, principals, drew, named, -, -, -, inserted, ran⟩
  · rw [ran] at answered
    exact nomatch answered
  · rw [ran] at answered listed
    rcases (Table.mem_update keeps).mp listed with ⟨old, oldMember, rfl⟩
    have sameId : old.principalId = known.principalId :=
      (keeps old).symm.trans (owns.trans (Except.ok.inj answered).symm)
    rw [(same old).1, Table.eq_of_key_eq oldMember member sameId]
    exact named
  · rw [ran] at answered listed
    rcases (Table.mem_insert inserted).mp listed with old | rfl
    · have taken := Table.key_not_mem_of_insert inserted old
      exact absurd (owns.trans ((Except.ok.inj answered).symm.trans drew.symm)) taken
    · exact named

section Programs

variable {issued : List TokenClaims}

/-- A statement that grants nothing. -/
theorem Contained.of_statement {A : Type} {effect : AuthStore -> Except AuthError A × AuthStore}
    (continues : forall store : AuthStore, store.Continues (effect store).2) :
    Triple (Contained issued) (statement effect) (fun _ => Contained issued) (Contained issued) :=
  Triple.statement (fun store holds _ _ => (continues store).contained holds) (fun _ holds => holds)
    (fun store holds => (continues store).contained holds)

theorem recordEvent_contained (subjectName : Text) (principalType : Option Text) (action decision reason : Text) :
    Triple (Contained issued) (recordEvent subjectName principalType action decision reason)
      (fun _ => Contained issued) (Contained issued) :=
  Contained.of_statement fun store => .of_sameGrants (insertEvent_sameGrants _ store)

theorem updateLastUsed_contained (credentialId : Id) (now : Int) :
    Triple (Contained issued) (updateLastUsed credentialId now) (fun _ => Contained issued) (Contained issued) :=
  Contained.of_statement fun store => .of_sameGrants (setLastUsed_sameGrants _ _ store)

theorem createCredential_contained (drawn principalId : Id) (identifier secretHash : Text) (expiresAt : Option Int) :
    Triple (Contained issued) (createCredential drawn principalId identifier secretHash expiresAt)
      (fun _ => Contained issued) (Contained issued) :=
  Contained.of_statement fun store => .of_sameGrants (insertCredential_sameGrants _ _ _ _ _ store)

theorem revokeCredential_contained (identifier : Text) :
    Triple (Contained issued) (revokeCredential identifier) (fun _ => Contained issued) (Contained issued) :=
  Contained.of_statement fun store => .of_sameGrants (setRevoked_sameGrants _ store)

theorem getCredentialWithPrincipal_contained (identifier : Text) :
    Triple (Contained issued) (getCredentialWithPrincipal identifier)
      (fun row store => Contained issued store ∧ store.credentialWithPrincipal identifier = row)
      (Contained issued) := by
  refine Triple.statement ?_ (fun _ holds => holds) ?_
  · intro store holds row read
    by_cases unsendable : Text.sendable identifier = false
    · rw [if_pos unsendable] at read
      exact nomatch read
    · rw [if_neg unsendable] at read ⊢
      exact ⟨holds, Except.ok.inj read⟩
  · intro store holds
    split <;> exact holds

theorem createPrincipal_contained (fold : Text.Lowercasing) (drawn : Id) (subjectName : Text)
    (principalType : PrincipalType) (permissions : List Text) :
    Triple (fun store => Contained issued store ∧ store.Spares fold permissions (Principal.Named subjectName))
      (createPrincipal drawn subjectName principalType)
      (fun principalId store => Contained issued store ∧
        store.Spares fold permissions (Principal.Identified principalId))
      (Contained issued) := by
  have continues := AuthStore.Continues.upsertPrincipal drawn subjectName principalType
  refine Triple.statement ?_ (fun _ holds => holds.1) (fun store holds => (continues store).contained holds.1)
  intro store holds answer answered
  refine ⟨(continues store).contained holds.1, ?_⟩
  intro permission member valid principal listed owns
  have subject := upsertPrincipal_subject answered listed owns
  rcases (continues store).principals principal listed with ⟨old, known, -, sameName, samePlane⟩ | ⟨default, -, -⟩
  · exact samePlane ▸ holds.2 permission member valid old known (sameName.trans subject)
  · rw [default]
    exact not_banned_control _

theorem grantPermissions_contained (fold : Text.Lowercasing) (principalId : Id) (permissions : List Text) :
    Triple (fun store => Contained issued store ∧ store.Spares fold permissions (Principal.Identified principalId))
      (grantPermissions fold principalId permissions) (fun _ => Contained issued) (Contained issued) := by
  let Before (store : AuthStore) : Prop :=
    Contained issued store ∧ store.Spares fold permissions (Principal.Identified principalId)
  have loop : Triple Before (grantPermissions fold principalId permissions) (fun _ => Before) (Contained issued) := by
    apply Triple.forM
    intro permission member
    have keeps : forall store, Before store -> Contained issued (insertGrant fold principalId permission store).2 :=
      fun store holds => holds.1.insertGrant (holds.2 permission member)
    refine Triple.statement (fun store holds _ _ => ⟨keeps store holds, ?_⟩) (fun _ holds => holds.1) keeps
    -- The loop writes grants only, so the principals it speaks about stay the same.
    rcases insertGrant_cases fold principalId permission store with unchanged | ⟨grants, -, -, ran⟩
    · rw [unchanged]
      exact holds.2
    · rw [ran]
      exact holds.2
  exact loop.weaken (fun _ holds => holds) (fun _ _ holds => holds.1) (fun _ holds => holds)

theorem deny_contained {A : Type} {post : A -> AuthStore -> Prop} (subjectName : Text) (principalType : Option Text)
    (action reason : Text) (error : AuthSecurityError) :
    Triple (Contained issued) (AuthService.deny subjectName principalType action reason error) post
      (Contained issued) :=
  Triple.bind (recordEvent_contained _ _ _ _ _) fun _ => Triple.throw fun _ holds => holds

theorem ensureBootstrap_contained (deployment : Deployment) (draws : BootstrapDraws) (subjectName apiKey : Text)
    (permissions : List Text) :
    Triple (fun store => Contained issued store ∧
        store.Spares deployment.fold permissions (Principal.Named subjectName))
      (AuthService.ensureBootstrap deployment draws subjectName apiKey permissions) (fun _ => Contained issued)
      (Contained issued) := by
  unfold AuthService.ensureBootstrap
  cases Security.parseApiKey apiKey with
  | error error => exact Triple.throw fun _ holds => holds.1
  | ok parts =>
      apply Triple.bind (createPrincipal_contained deployment.fold _ _ _ permissions)
      intro principalId
      apply Triple.bind (grantPermissions_contained _ _ _)
      intro _
      exact Contained.of_statement fun store => .of_sameGrants (upsertBootstrapCredential_sameGrants _ _ _ _ store)

theorem createApiKey_contained (deployment : Deployment) (draws : CreateDraws) (caller : AuthContext)
    (request : CreateApiKeyRequest) :
    Triple (fun store => Contained issued store ∧ (AuthService.managesApiKeys caller = true ->
        store.Spares deployment.fold request.permissions (Principal.Named request.subjectName)))
      (AuthService.createApiKey deployment draws caller request) (fun _ => Contained issued) (Contained issued) := by
  unfold AuthService.createApiKey
  split
  · exact Triple.throw fun _ holds => holds.1
  · rename_i manages
    have authorized := Bool.eq_true_of_not_eq_false manages
    apply Triple.bind
    · exact (createPrincipal_contained deployment.fold _ _ _ request.permissions).weaken
        (fun _ holds => ⟨holds.1, holds.2 authorized⟩) (fun _ _ holds => holds) (fun _ holds => holds)
    · intro principalId
      apply Triple.bind (grantPermissions_contained _ _ _)
      intro _
      apply Triple.bind (createCredential_contained _ _ _ _ _)
      intro _
      exact Triple.bind (recordEvent_contained _ _ _ _ _) fun _ => Triple.pure fun _ holds => holds

theorem revokeApiKey_contained (caller : AuthContext) (identifier : Text) :
    Triple (Contained issued) (AuthService.revokeApiKey caller identifier) (fun _ => Contained issued)
      (Contained issued) := by
  unfold AuthService.revokeApiKey
  split
  · exact Triple.throw fun _ holds => holds
  · apply Triple.bind (revokeCredential_contained _)
    intro revoked
    exact Triple.bind (recordEvent_contained _ _ _ _ _) fun _ => Triple.pure fun _ holds => holds

theorem issueClaims_contained (deployment : Deployment) (draws : IssueDraws) (credential : Credential)
    (principal : Principal) (ttlSeconds : Int) :
    Triple (fun store => Contained issued store ∧ principal ∈ store.principals ∧
        principal.principalId = credential.principalId)
      (AuthService.issueClaims deployment draws credential principal ttlSeconds)
      (fun response => Contained (issued ++ [response.accessToken])) (Contained issued) := by
  apply Triple.query_bind (fun _ holds => holds.1)
  intro permissions
  let claims : TokenClaims :=
    { sub := principal.subjectName, typ := principal.principalType.value, iat := draws.now,
      exp := draws.now + ttlSeconds, jti := draws.jti, permissions := permissions }
  have typed : Text.sendable claims.typ = true := by
    change Text.sendable principal.principalType.value = true
    cases principal.principalType with
    | service => decide
    | admin => decide
    | user => decide
  -- The token is sound as soon as its permissions are read; the rest only writes events.
  have sound : forall store : AuthStore, ((Contained issued store ∧ principal ∈ store.principals ∧
      principal.principalId = credential.principalId) ∧
      store.permissions deployment.collation credential.principalId draws.grantsReadAt = permissions) ->
      Contained (issued ++ [claims]) store := by
    rintro store ⟨⟨holds, listed, owner⟩, read⟩
    refine holds.issue listed rfl typed fun permission carried => ?_
    change permission ∈ permissions at carried
    rw [← read] at carried
    rw [owner]
    exact AuthStore.mem_permissions carried
  apply Triple.bind ((updateLastUsed_contained _ _).weaken sound (fun _ _ holds => holds) (fun _ holds => holds.forget))
  intro _
  apply Triple.bind ((recordEvent_contained _ _ _ _ _).weaken (fun _ holds => holds) (fun _ _ holds => holds)
    (fun _ holds => holds.forget))
  intro _
  exact Triple.pure fun _ holds => holds

theorem issueToken_contained (deployment : Deployment) (draws : IssueDraws) (apiKey : Text) (ttlSeconds : Int) :
    Triple (Contained issued) (AuthService.issueToken deployment draws apiKey ttlSeconds)
      (fun response => Contained (issued ++ [response.accessToken])) (Contained issued) := by
  unfold AuthService.issueToken
  cases Security.parseApiKey apiKey with
  | error error => exact Triple.throw fun _ holds => holds
  | ok parts =>
      apply Triple.bind (getCredentialWithPrincipal_contained parts.1)
      intro row
      have refuses : forall subjectName principalType reason error,
          Triple (fun store => Contained issued store ∧ store.credentialWithPrincipal parts.1 = row)
            (AuthService.deny subjectName principalType "ISSUE_TOKEN".toList reason error :
              Program AuthError AuthStore IssueTokenResponse)
            (fun response => Contained (issued ++ [response.accessToken])) (Contained issued) :=
        fun _ _ _ _ => (deny_contained _ _ _ _ _).weaken (fun _ holds => holds.1) (fun _ _ holds => holds)
          (fun _ holds => holds)
      cases row with
      | none => exact refuses _ _ _ _
      | some found =>
          dsimp only
          split
          · exact refuses _ _ _ _
          · split
            · exact refuses _ _ _ _
            · split
              · exact Triple.throw fun _ holds => holds.1
              · exact refuses _ _ _ _
              · exact (issueClaims_contained _ _ _ _ _).weaken
                  (fun _ holds => ⟨holds.1, AuthStore.credentialWithPrincipal_spec holds.2⟩)
                  (fun _ _ holds => holds) (fun _ holds => holds)

end Programs

/-! ## The verdict -/

/-- Whatever `authorize` returns is `False`, and it returns unless its record of the
decision fails: the connection is lost, or the request holds a zero byte. -/
def Refused (context : AuthContext) (action resource : Text) : Prop :=
  forall connection, match AuthService.authorize context action resource connection with
    | .ok allowed _ => allowed = false
    | .error failure _ => failure = .connectionLost ∨
        (failure = .raised .nulByte ∧ Text.sendable (AuthService.requiredPermission action resource) = false)

/-- Why a record of an event can fail. -/
theorem recordEvent_error {subjectName : Text} {principalType : Option Text} {action decision reason : Text}
    {connection after : Connection AuthStore} {failure : Failure AuthError}
    (failed : recordEvent subjectName principalType action decision reason connection = .error failure after) :
    failure = .connectionLost ∨
      (failure = .raised .nulByte ∧
        ([subjectName, action, decision, reason] ++ principalType.toList).all Text.sendable = false) ∨
      (failure = .raised .checkViolation ∧ (Text.notBlank subjectName && Text.notBlank action &&
        ["ALLOW".toList, "DENY".toList, "SUCCESS".toList, "FAILURE".toList].contains decision) = false) := by
  unfold recordEvent statement insertEvent at failed
  cases survives : connection.link.next with
  | none =>
      rw [survives] at failed
      cases failed
      exact Or.inl rfl
  | some link =>
      rw [survives] at failed
      dsimp only at failed
      by_cases unsendable : ([subjectName, action, decision, reason] ++ principalType.toList).all Text.sendable = false
      · rw [if_pos unsendable] at failed
        cases failed
        exact Or.inr (Or.inl ⟨rfl, unsendable⟩)
      · rw [if_neg unsendable] at failed
        by_cases unchecked : (Text.notBlank subjectName && Text.notBlank action &&
            ["ALLOW".toList, "DENY".toList, "SUCCESS".toList, "FAILURE".toList].contains decision) = false
        · rw [if_pos unchecked] at failed
          cases failed
          exact Or.inr (Or.inr ⟨rfl, unchecked⟩)
        · rw [if_neg unchecked] at failed
          exact nomatch failed

/-- The record of a denial fails with the connection or on a zero byte in the request. -/
theorem denial_error {subject typ request : Text} (named : recordable subject = true)
    (typed : Text.sendable typ = true) {connection after : Connection AuthStore} {failure : Failure AuthError}
    (failed : recordEvent subject (some typ) "AUTHORIZE".toList "DENY".toList request connection =
      .error failure after) :
    failure = .connectionLost ∨ (failure = .raised .nulByte ∧ Text.sendable request = false) := by
  rcases Bool.and_eq_true_iff.mp named with ⟨sendable, notBlank⟩
  rcases recordEvent_error failed with lost | ⟨zero, unsendable⟩ | ⟨-, unchecked⟩
  · exact Or.inl lost
  · refine Or.inr ⟨zero, ?_⟩
    have plain : (["AUTHORIZE".toList, "DENY".toList].all Text.sendable) = true := by decide
    cases sent : Text.sendable request with
    | false => rfl
    | true =>
        have whole : ([subject, "AUTHORIZE".toList, "DENY".toList, request] ++ [typ]).all Text.sendable = true := by
          simp only [List.all_append, List.all_cons, List.all_nil, Bool.and_true, sendable, sent, typed] at plain ⊢
          exact plain
        exact absurd (whole.symm.trans unsendable) (by decide)
  · have plain : (Text.notBlank "AUTHORIZE".toList &&
        ["ALLOW".toList, "DENY".toList, "SUCCESS".toList, "FAILURE".toList].contains "DENY".toList) = true := by
      decide
    rw [notBlank, Bool.true_and, plain] at unchecked
    exact nomatch unchecked

/-- A request that no permission of the context reaches is refused. -/
theorem refused_of_not_hasPermission {context : AuthContext} {action resource : Text}
    (named : recordable context.subject = true) (typed : Text.sendable context.principalType = true)
    (denied : hasPermission context.permissions (AuthService.requiredPermission action resource) = false) :
    Refused context action resource := by
  intro connection
  have unfolded : AuthService.authorize context action resource connection =
      EStateM.bind (recordEvent context.subject (some context.principalType) "AUTHORIZE".toList "DENY".toList
        (AuthService.requiredPermission action resource)) (fun _ => EStateM.pure false) connection := by
    unfold AuthService.authorize
    rw [denied]
    rfl
  rw [unfolded, EStateM.bind]
  cases ran : recordEvent context.subject (some context.principalType) "AUTHORIZE".toList "DENY".toList
      (AuthService.requiredPermission action resource) connection with
  | ok answer after => rfl
  | error failure after => exact denial_error named typed ran

/-! ## Runs -/

/-- The store, and the tokens that have left the service. -/
structure AuthSystem where
  store : AuthStore
  issued : List TokenClaims

/-- What happens to the store: a call with the fate of its connection and what it
draws, or a completed sweep. -/
inductive AuthAction where
  | createApiKey (link : Link) (draws : CreateDraws) (caller : AuthContext) (request : CreateApiKeyRequest)
  | grantPermissions (link : Link) (principalId : Id) (permissions : List Text)
  | revokeApiKey (link : Link) (caller : AuthContext) (identifier : Text)
  | issueToken (link : Link) (draws : IssueDraws) (apiKey : Text) (ttlSeconds : Int)
  | reconcile
  | ensureBootstrap (link : Link) (draws : BootstrapDraws) (subjectName apiKey : Text) (permissions : List Text)

/-- One action.  A token is issued when the call returns it. -/
def AuthSystem.step (deployment : Deployment) (system : AuthSystem) : AuthAction -> AuthSystem
  | .createApiKey link draws caller request =>
      { system with
        store := finalStore (AuthService.createApiKey deployment draws caller request)
          { store := system.store, link := link } }
  | .grantPermissions link principalId permissions =>
      { system with
        store := finalStore (grantPermissions deployment.fold principalId permissions)
          { store := system.store, link := link } }
  | .revokeApiKey link caller identifier =>
      { system with
        store := finalStore (AuthService.revokeApiKey caller identifier) { store := system.store, link := link } }
  | .issueToken link draws apiKey ttlSeconds =>
      match AuthService.issueToken deployment draws apiKey ttlSeconds { store := system.store, link := link } with
      | .ok response after => { store := after.store, issued := system.issued ++ [response.accessToken] }
      | .error _ after => { system with store := after.store }
  | .reconcile => { system with store := (reconcileAndRemediate system.store).2.store }
  | .ensureBootstrap link draws subjectName apiKey permissions =>
      { system with
        store := finalStore (AuthService.ensureBootstrap deployment draws subjectName apiKey permissions)
          { store := system.store, link := link } }

/-- The action grants no principal a permission that its plane is banned from. -/
def AuthSystem.Harmless (deployment : Deployment) (system : AuthSystem) : AuthAction -> Prop
  | .createApiKey _ _ caller request =>
      AuthService.managesApiKeys caller = true ->
        system.store.Spares deployment.fold request.permissions (Principal.Named request.subjectName)
  | .grantPermissions _ principalId permissions =>
      system.store.Spares deployment.fold permissions (Principal.Identified principalId)
  | .ensureBootstrap _ _ subjectName _ permissions =>
      system.store.Spares deployment.fold permissions (Principal.Named subjectName)
  | .revokeApiKey _ _ _ => True
  | .issueToken _ _ _ _ => True
  | .reconcile => True

instance (deployment : Deployment) (system : AuthSystem) :
    forall action, Decidable (system.Harmless deployment action)
  | .createApiKey _ _ caller request =>
      inferInstanceAs (Decidable (AuthService.managesApiKeys caller = true ->
        system.store.Spares deployment.fold request.permissions (Principal.Named request.subjectName)))
  | .grantPermissions _ principalId permissions =>
      inferInstanceAs (Decidable (system.store.Spares deployment.fold permissions (Principal.Identified principalId)))
  | .ensureBootstrap _ _ subjectName _ permissions =>
      inferInstanceAs (Decidable (system.store.Spares deployment.fold permissions (Principal.Named subjectName)))
  | .revokeApiKey _ _ _ => isTrue trivial
  | .issueToken _ _ _ _ => isTrue trivial
  | .reconcile => isTrue trivial

/-- A database before its first grant: any principals that the schema admits, on any
planes, with any roles. -/
structure AuthStore.Ungranted (store : AuthStore) : Prop extends AuthStore.NamesKept store where
  grants : store.grants.rows = []

/-- Every token of a principal on one of the two planes, wherever it is accepted, is
refused every request that a forbidden pattern of the plane covers. -/
def AuthSystem.BanHolds (system : AuthSystem) : Prop :=
  forall claims, claims ∈ system.issued -> forall principal, principal ∈ system.store.principals ->
    principal.subjectName = claims.sub -> (principal.plane = .ai ∨ principal.plane = .dataResearch) ->
    forall nowUnix context, Security.verifyToken claims nowUnix = .ok context ->
    forall action resource, (Exists fun pattern =>
      pattern ∈ Rbac.forbiddenPatterns forbiddenMatrix principal.plane.value ∧
        Rbac.covers pattern (AuthService.requiredPermission action resource) = true) ->
    Refused context action resource

theorem AuthStore.Ungranted.contained {store : AuthStore} (starts : store.Ungranted) : Contained [] store where
  named := starts.named
  distinct := starts.distinct
  grants := by
    intro grant member
    have stored : grant ∈ store.grants.rows := member
    rw [starts.grants] at stored
    exact absurd stored List.not_mem_nil
  recordableTokens := fun _ member => absurd member List.not_mem_nil
  tokens := fun _ member => absurd member List.not_mem_nil

theorem contained_finalStore {A : Type} {issued : List TokenClaims} {pre : AuthStore -> Prop}
    {program : Program AuthError AuthStore A}
    (triple : Triple pre program (fun _ => Contained issued) (Contained issued)) {store : AuthStore} (link : Link)
    (holds : pre store) : Contained issued (finalStore program { store := store, link := link }) :=
  triple.finalStore (fun _ _ contained => contained) (fun _ contained => contained) holds

theorem contained_step (deployment : Deployment) (system : AuthSystem) (action : AuthAction)
    (holds : Contained system.issued system.store) (harmless : system.Harmless deployment action) :
    Contained (system.step deployment action).issued (system.step deployment action).store := by
  cases action with
  | createApiKey link draws caller request =>
      exact contained_finalStore (createApiKey_contained _ _ _ _) link ⟨holds, harmless⟩
  | grantPermissions link principalId permissions =>
      exact contained_finalStore (grantPermissions_contained _ _ _) link ⟨holds, harmless⟩
  | revokeApiKey link caller identifier =>
      exact contained_finalStore (revokeApiKey_contained _ _) link holds
  | issueToken link draws apiKey ttlSeconds =>
      have ended := issueToken_contained deployment draws apiKey ttlSeconds
        { store := system.store, link := link } holds
      unfold AuthSystem.step
      dsimp only
      cases ran : AuthService.issueToken deployment draws apiKey ttlSeconds { store := system.store, link := link } with
      | ok response after =>
          rw [ran] at ended
          exact ended
      | error failure after =>
          rw [ran] at ended
          exact ended
  | reconcile =>
      have reduced := AuthStore.Reduced.reconcileAndRemediate system.store
      exact (AuthStore.Continues.of_principals_eq reduced.principals reduced.grants).contained holds
  | ensureBootstrap link draws subjectName apiKey permissions =>
      exact contained_finalStore (ensureBootstrap_contained _ _ _ _ _) link ⟨holds, harmless⟩

theorem banHolds_of_contained {system : AuthSystem} (holds : Contained system.issued system.store) :
    system.BanHolds := by
  intro claims issued principal listed subject plane nowUnix context verified action resource forbidden
  rcases forbidden with ⟨pattern, inMatrix, covered⟩
  have restricted : Rbac.isRestricted forbiddenMatrix principal.plane.value = true := by
    rcases plane with ai | research
    · rw [ai]
      decide
    · rw [research]
      decide
  unfold Security.verifyToken at verified
  split at verified
  · exact nomatch verified
  · cases verified
    rcases holds.recordableTokens claims issued with ⟨named, typ⟩
    apply refused_of_not_hasPermission named typ
    apply hasPermission_of_forbidden restricted ?_ inMatrix covered
    intro permission carried
    rcases holds.tokens claims issued permission carried with ⟨admitted, allowed⟩
    exact ⟨admitted, allowed principal listed subject⟩

/-- The ban on execution, end to end, in every run in which no grant names a
permission that the plane of the principal is banned from. -/
theorem execution_ban_of_harmless_run (deployment : Deployment) (initial : AuthStore) (actions : List AuthAction)
    (starts : initial.Ungranted)
    (harmless : Run.Guarded (AuthSystem.step deployment) (AuthSystem.Harmless deployment)
      { store := initial, issued := [] } actions) :
    (actions.foldl (AuthSystem.step deployment) { store := initial, issued := [] }).BanHolds := by
  apply banHolds_of_contained
  exact Run.Guarded.invariant (contained_step deployment) harmless starts.contained

/-! ## A run of the service -/

namespace Scenario

/-- A hasher that keeps the secret behind its salt. -/
def saltedHasher : PasswordHasher where
  hash := fun salt secret => salt ++ secret
  verify := fun secretHash secret => if secret.isSuffixOf secretHash then .verified else .mismatch

def deployment : Deployment where
  fold := Text.asciiLowercasing
  collation := fun left right => decide (left ≤ right)
  hasher := saltedHasher

/-- One model service on the AI plane, which nobody has granted anything. -/
def initial : AuthStore where
  principals :=
    { rows :=
        [{ principalId := 1, subjectName := "signal-model".toList, principalType := .service, active := true,
           plane := .ai }]
      unique := by decide }
  grants := Table.empty
  credentials := Table.empty
  principalRoles := Table.empty
  rolePermissions := Table.empty
  events := []

theorem initial_ungranted : initial.Ungranted where
  named := by
    have table : forall principal, principal ∈ initial.principals.rows ->
        recordable principal.subjectName = true := by decide
    exact table
  distinct := by
    have table : forall left, left ∈ initial.principals.rows -> forall right, right ∈ initial.principals.rows ->
        left.subjectName = right.subjectName -> left.principalId = right.principalId := by decide
    exact fun left right leftMember rightMember => table left leftMember right rightMember
  grants := rfl

/-- The context of the bootstrap administrator's token. -/
def administrator : AuthContext where
  subject := "bootstrap-admin".toList
  principalType := "ADMIN".toList
  permissions := ["*".toList]
  expiresAt := 1300
  jti := "first".toList

def modelKey : Security.ApiKey where
  identifier := "AAAAAAAAAAAAAAAA".toList
  secret := "BBBBBBBBBBBBBBBBBBBBBBBBBBBBBBBBBBBBBBBBBBB".toList
  identifier_shape := by decide
  secret_shape := by decide

/-- The service starts, its administrator takes a token and creates a key for the
model with some permissions, the model takes a token, and the sweep runs. -/
def actions (permissions : List Text) : List AuthAction :=
  [.ensureBootstrap .steady { principalId := 2, credentialId := 1, salt := "s".toList } "bootstrap-admin".toList
      "root-key".toList ["*".toList],
    .issueToken .steady { grantsReadAt := 0, usedAt := 0, now := 1000, jti := "first".toList } "root-key".toList 300,
    .createApiKey .steady { principalId := 3, credentialId := 2, key := modelKey, salt := "s".toList, now := 0 }
      administrator
      { subjectName := "signal-model".toList, principalType := .service, permissions := permissions,
        expiresInDays := none, expiresInDays_bounds := fun _ given => nomatch given },
    .issueToken .steady { grantsReadAt := 0, usedAt := 0, now := 1100, jti := "second".toList } modelKey.fullKey 300,
    .reconcile]

def final (permissions : List Text) : AuthSystem :=
  (actions permissions).foldl (AuthSystem.step deployment) { store := initial, issued := [] }

end Scenario

/-- A model service that may read models has a token, and the ban holds for it. -/
theorem execution_ban_of_model_reader :
    ((Scenario.final ["model:read".toList]).issued.map TokenClaims.permissions =
      [["*".toList], ["model:read".toList]]) ∧ (Scenario.final ["model:read".toList]).BanHolds :=
  ⟨by decide, execution_ban_of_harmless_run Scenario.deployment Scenario.initial
    (Scenario.actions ["model:read".toList]) Scenario.initial_ungranted (by decide)⟩

/-- A key with `execution:submit` for the same service: every layer lets the grant
pass, and the token outlives the sweep that deletes it. -/
theorem granted_execution_is_authorized :
    ¬ forall (deployment : Deployment) (initial : AuthStore) (actions : List AuthAction), initial.Ungranted ->
      (actions.foldl (AuthSystem.step deployment) { store := initial, issued := [] }).BanHolds := by
  intro holds
  have ban := holds Scenario.deployment Scenario.initial (Scenario.actions ["execution:submit".toList])
    Scenario.initial_ungranted
  let claims : TokenClaims :=
    { sub := "signal-model".toList, typ := "SERVICE".toList, iat := 1100, exp := 1400, jti := "second".toList,
      permissions := ["execution:submit".toList] }
  let context : AuthContext :=
    { subject := "signal-model".toList, principalType := "SERVICE".toList,
      permissions := ["execution:submit".toList], expiresAt := 1400, jti := "second".toList }
  let model : Principal :=
    { principalId := 1, subjectName := "signal-model".toList, principalType := .service, active := true, plane := .ai }
  have issued : claims ∈ (Scenario.final ["execution:submit".toList]).issued := by decide
  have listed : model ∈ (Scenario.final ["execution:submit".toList]).store.principals.rows := by decide
  have refused := ban claims issued model listed rfl (Or.inl rfl) 1200 context (by decide) "execution".toList
    "submit".toList ⟨"execution:*".toList, by decide, by decide⟩ { store := Scenario.initial, link := .steady }
  cases refused

end Auth
end ApexQuant
