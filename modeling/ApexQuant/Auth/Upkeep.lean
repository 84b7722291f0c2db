import ApexQuant.Auth.ExecutionBan

namespace ApexQuant
namespace Auth

open Foundation
open Foundation.Database

/-!
# What the service keeps

The operations of the service are programs over eight statements and a sweep.  A
property of the store that none of these breaks holds after every operation,
however its connection fares, and so in every state that a run reaches.

The upsert of a restart is the one statement that overwrites a credential, so a
property may depend on the identifiers that restarts are given: `Upheld` has them
as a parameter.
-/

/-- None of the service's statements breaks the property, when restarts upsert
credentials under admitted identifiers only. -/
structure Upheld (fold : Text.Lowercasing) (admitted : Text -> Prop) (Inv : AuthStore -> Prop) : Prop where
  upsertPrincipal : forall drawn subjectName principalType store, Inv store ->
    Inv (upsertPrincipal drawn subjectName principalType store).2
  insertGrant : forall principalId permission store, Inv store -> Inv (insertGrant fold principalId permission store).2
  insertCredential : forall drawn principalId identifier secretHash expiresAt store, Inv store ->
    Inv (insertCredential drawn principalId identifier secretHash expiresAt store).2
  upsertBootstrapCredential : forall drawn principalId identifier secretHash store, admitted identifier ->
    Inv store -> Inv (upsertBootstrapCredential drawn principalId identifier secretHash store).2
  setRevoked : forall identifier store, Inv store -> Inv (setRevoked identifier store).2
  setLastUsed : forall credentialId now store, Inv store -> Inv (setLastUsed credentialId now store).2
  insertEvent : forall event store, Inv store -> Inv (insertEvent event store).2
  reduced : forall before after : AuthStore, before.Reduced after -> Inv before -> Inv after

/-- The identifier that a restart with the key writes to is admitted. -/
def AuthAction.Admitted (admitted : Text -> Prop) : AuthAction -> Prop
  | .ensureBootstrap _ _ _ apiKey _ =>
      forall identifier secret, Security.parseApiKey apiKey = .ok (identifier, secret) -> admitted identifier
  | .createApiKey _ _ _ _ => True
  | .grantPermissions _ _ _ => True
  | .revokeApiKey _ _ _ => True
  | .issueToken _ _ _ _ => True
  | .reconcile => True

/-- A program that leaves the property alone, however it ends. -/
abbrev Maintains {A : Type} (Inv : AuthStore -> Prop) (program : Program AuthError AuthStore A) : Prop :=
  Triple Inv program (fun _ => Inv) Inv

namespace Maintains

variable {A B : Type} {Inv : AuthStore -> Prop}

theorem statement {effect : AuthStore -> Except AuthError A × AuthStore}
    (keeps : forall store, Inv store -> Inv (effect store).2) : Maintains Inv (Database.statement effect) :=
  Triple.statement (fun store holds _ _ => keeps store holds) (fun _ holds => holds) keeps

theorem query (read : AuthStore -> A) : Maintains Inv (Database.query read) :=
  Maintains.statement fun _ holds => holds

theorem pure (answer : A) : Maintains Inv (Pure.pure answer) :=
  Triple.pure fun _ holds => holds

theorem throw (failure : Failure AuthError) :
    Maintains Inv (MonadExcept.throw failure : Program AuthError AuthStore A) :=
  Triple.throw fun _ holds => holds

theorem bind {first : Program AuthError AuthStore A} {rest : A -> Program AuthError AuthStore B}
    (begins : Maintains Inv first) (continues : forall answer, Maintains Inv (rest answer)) :
    Maintains Inv (first >>= rest) :=
  Triple.bind begins continues

theorem finalStore {program : Program AuthError AuthStore A} (maintains : Maintains Inv program) (link : Link)
    {store : AuthStore} (holds : Inv store) : Inv (Database.finalStore program { store := store, link := link }) :=
  Triple.finalStore maintains (fun _ _ kept => kept) (fun _ kept => kept) holds

end Maintains

namespace Upheld

variable {deployment : Deployment} {admitted : Text -> Prop} {Inv : AuthStore -> Prop}

theorem recordEvent (upheld : Upheld deployment.fold admitted Inv) (subjectName : Text) (principalType : Option Text)
    (action decision reason : Text) : Maintains Inv (recordEvent subjectName principalType action decision reason) :=
  Maintains.statement fun store => upheld.insertEvent _ store

theorem grantPermissions (upheld : Upheld deployment.fold admitted Inv) (principalId : Id) (permissions : List Text) :
    Maintains Inv (grantPermissions deployment.fold principalId permissions) :=
  Triple.forM fun permission _ => Maintains.statement fun store => upheld.insertGrant _ permission store

theorem deny {A : Type} (upheld : Upheld deployment.fold admitted Inv) (subjectName : Text)
    (principalType : Option Text) (action reason : Text) (error : AuthSecurityError) :
    Maintains Inv (AuthService.deny subjectName principalType action reason error : Program AuthError AuthStore A) := by
  apply Maintains.bind (upheld.recordEvent _ _ _ _ _)
  intro _
  exact Maintains.throw _

theorem ensureBootstrap (upheld : Upheld deployment.fold admitted Inv) (draws : BootstrapDraws)
    (subjectName apiKey : Text) (permissions : List Text)
    (allowed : forall identifier secret, Security.parseApiKey apiKey = .ok (identifier, secret) ->
      admitted identifier) :
    Maintains Inv (AuthService.ensureBootstrap deployment draws subjectName apiKey permissions) := by
  unfold AuthService.ensureBootstrap
  cases parsed : Security.parseApiKey apiKey with
  | error error => exact Maintains.throw _
  | ok parts =>
      apply Maintains.bind (Maintains.statement fun store => upheld.upsertPrincipal _ _ _ store)
      intro principalId
      apply Maintains.bind (upheld.grantPermissions _ _)
      intro _
      apply Maintains.statement
      exact fun store => upheld.upsertBootstrapCredential _ _ _ _ store (allowed parts.1 parts.2 parsed)

theorem createApiKey (upheld : Upheld deployment.fold admitted Inv) (draws : CreateDraws) (caller : AuthContext)
    (request : CreateApiKeyRequest) : Maintains Inv (AuthService.createApiKey deployment draws caller request) := by
  unfold AuthService.createApiKey
  split
  · exact Maintains.throw _
  · apply Maintains.bind (Maintains.statement fun store => upheld.upsertPrincipal _ _ _ store)
    intro principalId
    apply Maintains.bind (upheld.grantPermissions _ _)
    intro _
    apply Maintains.bind (Maintains.statement fun store => upheld.insertCredential _ _ _ _ _ store)
    intro _
    apply Maintains.bind (upheld.recordEvent _ _ _ _ _)
    intro _
    exact Maintains.pure _

theorem revokeApiKey (upheld : Upheld deployment.fold admitted Inv) (caller : AuthContext) (identifier : Text) :
    Maintains Inv (AuthService.revokeApiKey caller identifier) := by
  unfold AuthService.revokeApiKey
  split
  · exact Maintains.throw _
  · apply Maintains.bind (Maintains.statement fun store => upheld.setRevoked _ store)
    intro revoked
    apply Maintains.bind (upheld.recordEvent _ _ _ _ _)
    intro _
    exact Maintains.pure _

theorem issueClaims (upheld : Upheld deployment.fold admitted Inv) (draws : IssueDraws) (credential : Credential)
    (principal : Principal) (ttlSeconds : Int) :
    Maintains Inv (AuthService.issueClaims deployment draws credential principal ttlSeconds) := by
  unfold AuthService.issueClaims getPermissions
  apply Maintains.bind (Maintains.query _)
  intro permissions
  apply Maintains.bind (Maintains.statement fun store => upheld.setLastUsed _ _ store)
  intro _
  apply Maintains.bind (upheld.recordEvent _ _ _ _ _)
  intro _
  exact Maintains.pure _

theorem issueToken (upheld : Upheld deployment.fold admitted Inv) (draws : IssueDraws) (apiKey : Text)
    (ttlSeconds : Int) : Maintains Inv (AuthService.issueToken deployment draws apiKey ttlSeconds) := by
  unfold AuthService.issueToken
  cases Security.parseApiKey apiKey with
  | error error => exact Maintains.throw _
  | ok parts =>
      apply Maintains.bind
      · apply Maintains.statement
        intro store holds
        split <;> exact holds
      · intro row
        cases row with
        | none => exact upheld.deny _ _ _ _ _
        | some found =>
            dsimp only
            split
            · exact upheld.deny _ _ _ _ _
            · split
              · exact upheld.deny _ _ _ _ _
              · split
                · exact Maintains.throw _
                · exact upheld.deny _ _ _ _ _
                · exact upheld.issueClaims _ _ _ _

/-- One action keeps the property. -/
theorem step (upheld : Upheld deployment.fold admitted Inv) (system : AuthSystem) (action : AuthAction)
    (holds : Inv system.store) (allowed : action.Admitted admitted) : Inv (system.step deployment action).store := by
  cases action with
  | createApiKey link draws caller request => exact (upheld.createApiKey _ _ _).finalStore link holds
  | grantPermissions link principalId permissions => exact (upheld.grantPermissions _ _).finalStore link holds
  | revokeApiKey link caller identifier => exact (upheld.revokeApiKey _ _).finalStore link holds
  | issueToken link draws apiKey ttlSeconds =>
      have ended := upheld.issueToken draws apiKey ttlSeconds { store := system.store, link := link } holds
      unfold AuthSystem.step
      dsimp only
      cases ran : AuthService.issueToken deployment draws apiKey ttlSeconds
          { store := system.store, link := link } with
      | ok response after =>
          rw [ran] at ended
          exact ended
      | error failure after =>
          rw [ran] at ended
          exact ended
  | reconcile => exact upheld.reduced _ _ (AuthStore.Reduced.reconcileAndRemediate system.store) holds
  | ensureBootstrap link draws subjectName apiKey permissions =>
      exact (upheld.ensureBootstrap _ _ _ _ allowed).finalStore link holds

/-- Every run whose restarts are admitted keeps the property. -/
theorem run (upheld : Upheld deployment.fold admitted Inv) {system : AuthSystem} {actions : List AuthAction}
    (allowed : forall action, action ∈ actions -> action.Admitted admitted) (initially : Inv system.store) :
    Inv (actions.foldl (AuthSystem.step deployment) system).store := by
  have guarded : Run.Guarded (AuthSystem.step deployment) (fun _ action => action.Admitted admitted) system actions :=
    Run.guarded_of_mem _ (fun action member _ => allowed action member) system
  have keeps : forall (state : AuthSystem) action, Inv state.store -> action.Admitted admitted ->
      Inv (state.step deployment action).store := upheld.step
  have kept := Run.Guarded.invariant keeps guarded initially
  exact kept

end Upheld
end Auth
end ApexQuant
