import ApexQuant.Auth.Issuance

namespace ApexQuant
namespace Auth

open Foundation
open Foundation.Database

/-!
# Revoked keys

`revoke_api_key` sets the status of a credential and nothing sets it back but one
statement: the upsert that a restart runs for the bootstrap key.  It does not ask
whether the row it finds was revoked.  So a revocation lasts until the next restart
when it concerns the bootstrap key, and for good otherwise: `create_api_key` cannot
touch a row that exists.
-/

/-- The row of the identifier is revoked. -/
def AuthStore.RevokedAt (identifier : Text) (store : AuthStore) : Prop :=
  Exists fun credential => store.credentials.find identifier = some credential ∧ credential.status = .revoked

/-- No API key of the identifier gets a token. -/
def AuthStore.Refuses (deployment : Deployment) (identifier : Text) (store : AuthStore) : Prop :=
  forall draws apiKey secret ttlSeconds link, Security.parseApiKey apiKey = .ok (identifier, secret) ->
    forall response after, AuthService.issueToken deployment draws apiKey ttlSeconds
      { store := store, link := link } ≠ .ok response after

/-- The call creates a credential with the identifier. -/
def AuthAction.creates (identifier : Text) : AuthAction -> Bool
  | .createApiKey _ draws _ _ => decide (draws.key.identifier = identifier)
  | .grantPermissions _ _ _ => false
  | .revokeApiKey _ _ _ => false
  | .issueToken _ _ _ _ => false
  | .reconcile => false
  | .ensureBootstrap _ _ _ _ _ => false

/-- The restart is configured with an API key of the identifier. -/
def AuthAction.restarts (identifier : Text) : AuthAction -> Bool
  | .ensureBootstrap _ _ _ apiKey _ =>
      match Security.parseApiKey apiKey with
      | .ok (named, _) => decide (named = identifier)
      | .error _ => false
  | .createApiKey _ _ _ _ => false
  | .grantPermissions _ _ _ => false
  | .revokeApiKey _ _ _ => false
  | .issueToken _ _ _ _ => false
  | .reconcile => false

/-- A history in which a call of `revoke_api_key` returns `True`. -/
structure Revoking (deployment : Deployment) (initial : AuthStore) (identifier : Text) where
  earlier : List AuthAction
  link : Link
  caller : AuthContext
  revoked : Exists fun after => AuthService.revokeApiKey caller identifier
    { store := reachedStore deployment initial earlier, link := link } = .ok true after
  later : List AuthAction

/-- The whole history. -/
def Revoking.actions {deployment : Deployment} {initial : AuthStore} {identifier : Text}
    (history : Revoking deployment initial identifier) : List AuthAction :=
  history.earlier ++ .revokeApiKey history.link history.caller identifier :: history.later

/-- Unless the identifier is given to a new credential, its keys are refused for good. -/
def Revoking.Permanent {deployment : Deployment} {initial : AuthStore} {identifier : Text}
    (history : Revoking deployment initial identifier) : Prop :=
  (forall action, action ∈ history.later -> action.creates identifier = false) ->
    (reachedStore deployment initial history.actions).Refuses deployment identifier

/-! ## What the statements do to a revoked row -/

/-- An update in place that revives no row. -/
theorem AuthStore.RevokedAt.update {identifier : Text} {store : AuthStore} (holds : store.RevokedAt identifier)
    (change : Credential -> Credential) (keeps : forall row, (change row).identifier = row.identifier)
    (sleeps : forall row, row.identifier = identifier -> row.status = .revoked -> (change row).status = .revoked) :
    AuthStore.RevokedAt identifier { store with credentials := store.credentials.update change keeps } := by
  rcases holds with ⟨credential, found, revoked⟩
  refine ⟨change credential, ?_, sleeps credential (Table.mem_of_find found).2 revoked⟩
  simp only [Table.find_update, found, Option.map_some]

theorem AuthStore.RevokedAt.of_credentials_eq {identifier : Text} {before after : AuthStore}
    (same : after.credentials = before.credentials) (holds : before.RevokedAt identifier) :
    after.RevokedAt identifier := by
  rw [RevokedAt, same]
  exact holds

/-- A row is inserted beside the others, never over one. -/
theorem insertCredential_revokedAt {drawn principalId : Id} {identifier other secretHash : Text}
    {expiresAt : Option Int} {store : AuthStore} (holds : store.RevokedAt identifier) :
    (insertCredential drawn principalId other secretHash expiresAt store).2.RevokedAt identifier := by
  unfold insertCredential
  split
  · exact holds
  · split
    · exact holds
    · split
      · exact holds
      · split
        · exact holds
        · rename_i credentials inserted
          split
          · exact holds
          · rcases holds with ⟨credential, found, revoked⟩
            refine ⟨credential, ?_, revoked⟩
            simp only [Table.find_insert inserted, found, Option.some_or]

theorem upsertPrincipal_credentials (drawn : Id) (subjectName : Text) (principalType : PrincipalType)
    (store : AuthStore) :
    (upsertPrincipal drawn subjectName principalType store).2.credentials = store.credentials := by
  rcases upsertPrincipal_cases drawn subjectName principalType store with
    ⟨error, ran⟩ | ⟨known, change, keeps, -, -, -, ran⟩ | ⟨added, principals, -, -, -, -, -, -, ran⟩
  · rw [ran]
  · rw [ran]
  · rw [ran]

theorem insertGrant_credentials (fold : Text.Lowercasing) (principalId : Id) (permission : Text) (store : AuthStore) :
    (insertGrant fold principalId permission store).2.credentials = store.credentials := by
  rcases insertGrant_cases fold principalId permission store with unchanged | ⟨grants, -, -, ran⟩
  · rw [unchanged]
  · rw [ran]

theorem insertEvent_credentials (event : AuthEvent) (store : AuthStore) :
    (insertEvent event store).2.credentials = store.credentials := by
  unfold insertEvent
  split
  · rfl
  · split <;> rfl

/-- Only the upsert of a restart can revive a row. -/
theorem revokedAt_upheld (fold : Text.Lowercasing) (identifier : Text) :
    Upheld fold (fun other => other ≠ identifier) (AuthStore.RevokedAt identifier) where
  upsertPrincipal := fun _ _ _ _ holds => holds.of_credentials_eq (upsertPrincipal_credentials _ _ _ _)
  insertGrant := fun _ _ _ holds => holds.of_credentials_eq (insertGrant_credentials _ _ _ _)
  insertCredential := fun _ _ _ _ _ _ holds => insertCredential_revokedAt holds
  upsertBootstrapCredential := by
    intro drawn principalId other secretHash store apart holds
    unfold upsertBootstrapCredential
    split
    · exact insertCredential_revokedAt holds
    · split
      · exact holds
      · split
        · exact holds
        · split
          · exact holds
          · apply holds.update
            intro row named revoked
            rw [if_neg (named ▸ apart.symm)]
            exact revoked
  setRevoked := by
    intro other store holds
    unfold setRevoked
    split
    · exact holds
    · apply holds.update
      intro row _ revoked
      split
      · rfl
      · exact revoked
  setLastUsed := by
    intro credentialId now store holds
    apply holds.update
    intro row _ revoked
    split <;> exact revoked
  insertEvent := fun _ _ holds => holds.of_credentials_eq (insertEvent_credentials _ _)
  reduced := fun _ _ reduced holds => holds.of_credentials_eq reduced.credentials

/-! ## The revocation -/

/-- The answer `True` means that there is a row, and that it is revoked now. -/
theorem setRevoked_revokedAt {identifier : Text} {store : AuthStore}
    (answered : (setRevoked identifier store).1 = .ok true) : (setRevoked identifier store).2.RevokedAt identifier := by
  unfold setRevoked at answered ⊢
  split at answered
  · exact absurd answered nofun
  · rename_i sent
    rw [if_neg sent]
    rcases Option.isSome_iff_exists.mp (Except.ok.inj answered) with ⟨credential, found⟩
    have named := (Table.mem_of_find found).2
    refine ⟨{ credential with status := .revoked }, ?_, rfl⟩
    simp only [Table.find_update, found, Option.map_some, if_pos named]

theorem revokeApiKey_revokes (caller : AuthContext) (identifier : Text) :
    Triple (fun _ => True) (AuthService.revokeApiKey caller identifier)
      (fun revoked store => revoked = true -> store.RevokedAt identifier) (fun _ => True) := by
  have update : Triple (fun _ => True) (revokeCredential identifier)
      (fun revoked store => revoked = true -> store.RevokedAt identifier) (fun _ => True) := by
    refine Triple.statement ?_ (fun _ _ => trivial) (fun _ _ => trivial)
    intro store _ revoked answered yes
    exact setRevoked_revokedAt (answered.trans (congrArg Except.ok yes))
  unfold AuthService.revokeApiKey
  split
  · exact Triple.throw fun _ _ => trivial
  · apply Triple.bind update
    intro revoked
    have recorded : Triple (fun store => revoked = true -> store.RevokedAt identifier)
        (recordEvent caller.subject (some caller.principalType) "REVOKE_API_KEY".toList
          (if revoked then "SUCCESS".toList else "DENY".toList) ("identifier=".toList ++ identifier))
        (fun _ store => revoked = true -> store.RevokedAt identifier) (fun _ => True) := by
      refine Triple.statement ?_ (fun _ _ => trivial) (fun _ _ => trivial)
      intro store holds _ _ yes
      exact (holds yes).of_credentials_eq (insertEvent_credentials _ _)
    apply Triple.bind recorded
    intro _
    exact Triple.pure fun _ holds => holds

/-- A revoked row is never accepted. -/
theorem AuthStore.RevokedAt.refuses {deployment : Deployment} {identifier : Text} {store : AuthStore}
    (holds : store.RevokedAt identifier) : store.Refuses deployment identifier := by
  intro draws apiKey secret ttlSeconds link parsed response after issued
  rcases backs_of_issueToken issued with ⟨identifier', secret', credential, principal, parsed', accepts, -⟩
  rw [parsed] at parsed'
  cases parsed'
  rcases holds with ⟨row, found, revoked⟩
  rcases Option.bind_eq_some_iff.mp accepts.1 with ⟨read, foundRead, joined⟩
  rcases Option.map_eq_some_iff.mp joined with ⟨owner, -, same⟩
  cases same
  rw [found] at foundRead
  cases foundRead
  exact absurd (revoked.symm.trans accepts.2.1) nofun

theorem admitted_of_not_restarts {identifier : Text} {action : AuthAction}
    (quiet : action.restarts identifier = false) : action.Admitted fun other => other ≠ identifier := by
  cases action with
  | ensureBootstrap link draws subjectName apiKey permissions =>
      intro named secret parsed same
      simp only [AuthAction.restarts, parsed] at quiet
      exact of_decide_eq_false quiet same
  | createApiKey link draws caller request => trivial
  | grantPermissions link principalId permissions => trivial
  | revokeApiKey link caller identifier => trivial
  | issueToken link draws apiKey ttlSeconds => trivial
  | reconcile => trivial

/-- A call that returns `True` leaves the row revoked. -/
theorem revokedAt_step {deployment : Deployment} {system : AuthSystem} {link : Link} {caller : AuthContext}
    {identifier : Text}
    (revoked : Exists fun after => AuthService.revokeApiKey caller identifier { store := system.store, link := link } =
      .ok true after) :
    (system.step deployment (.revokeApiKey link caller identifier)).store.RevokedAt identifier := by
  rcases revoked with ⟨after, returned⟩
  have ended := revokeApiKey_revokes caller identifier { store := system.store, link := link } trivial
  change AuthStore.RevokedAt identifier
    (finalStore (AuthService.revokeApiKey caller identifier) { store := system.store, link := link })
  unfold finalStore
  rw [returned] at ended ⊢
  exact ended rfl

/-- The row is revoked from the revocation on, as long as no restart has its key. -/
theorem Revoking.revokedAt {deployment : Deployment} {initial : AuthStore} {identifier : Text}
    (history : Revoking deployment initial identifier)
    (quiet : forall action, action ∈ history.later -> action.restarts identifier = false) :
    (reachedStore deployment initial history.actions).RevokedAt identifier := by
  unfold reachedStore Revoking.actions
  rw [List.foldl_append, List.foldl_cons]
  apply (revokedAt_upheld deployment.fold identifier).run
  · exact fun action member => admitted_of_not_restarts (quiet action member)
  · exact revokedAt_step history.revoked

/-- A revocation is permanent in every history in which no later restart is
configured with an API key of the identifier. -/
theorem revocation_permanent_of_quiet_restarts (deployment : Deployment) (initial : AuthStore) (identifier : Text)
    (history : Revoking deployment initial identifier)
    (quiet : forall action, action ∈ history.later -> action.restarts identifier = false) : history.Permanent :=
  fun _ => (history.revokedAt quiet).refuses

/-! ## The bootstrap key -/

namespace Scenario

/-- A start of the service with the key of its administrator. -/
def start : AuthAction :=
  .ensureBootstrap .steady { principalId := 1, credentialId := 1, salt := "s".toList } "bootstrap-admin".toList
    "root-key".toList ["*".toList]

/-- The service starts, its administrator revokes the bootstrap key, and more
happens. -/
def revokedBootstrap (later : List AuthAction) : Revoking deployment blank "bootstrap".toList where
  earlier := [start]
  link := .steady
  caller := administrator
  revoked := ⟨_, rfl⟩
  later := later

end Scenario

/-- The key is refused while the service runs on, whatever is created and issued. -/
theorem revoked_bootstrap_stays_revoked :
    (Scenario.revokedBootstrap (Scenario.dayKey ++ [.reconcile])).Permanent :=
  revocation_permanent_of_quiet_restarts Scenario.deployment Scenario.blank "bootstrap".toList
    (Scenario.revokedBootstrap (Scenario.dayKey ++ [.reconcile])) (by
      intro action member
      rcases List.mem_cons.mp member with rfl | last
      · rfl
      · rw [List.mem_singleton.mp last]
        rfl)

/-- The next start of the service gives the revoked key back. -/
theorem restart_revives_bootstrap_key :
    ¬ forall (deployment : Deployment) (initial : AuthStore) (identifier : Text)
      (history : Revoking deployment initial identifier), history.Permanent := by
  intro permanent
  have refuses := permanent Scenario.deployment Scenario.blank "bootstrap".toList
    (Scenario.revokedBootstrap [Scenario.start]) (by
      intro action member
      rw [List.mem_singleton.mp member]
      rfl)
  exact refuses (Scenario.request 0) "root-key".toList "root-key".toList 300 .steady (by decide) _ _ rfl

end Auth
end ApexQuant
