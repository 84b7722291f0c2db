import ApexQuant.Foundation.TwoRuns
import ApexQuant.Secrets.Cli
import ApexQuant.Secrets.Ledger

namespace ApexQuant
namespace Secrets

open Foundation
open Foundation.Database
open Foundation.TwoRuns

/-!
# What a plane can learn from the command line

The view of a plane on a store is everything but the times and the values that the
plane may not read.  Two stores with the same view are treated alike by every
command issued under the plane: it loads one or the other, decides on data that the
view holds, and reads a value only after the policy has let it.  Only the control
plane may write, and it sees everything, so what is written keeps the views equal.
-/

/-! ## The policy -/

/-- The plane may read secrets of the classification. -/
def readable (plane : SecretPlane) (classification : SecretClassification) : Bool :=
  (evaluateAccess plane classification .read none).allowed

theorem control_reads (classification : SecretClassification) : readable .control classification = true := by
  cases classification <;> decide

theorem control_of_write {plane : SecretPlane} {classification : SecretClassification} {action : SecretAction}
    (writes : action = .write ∨ action = .rotate)
    (allowed : (evaluateAccess plane classification action none).allowed = true) : plane = .control := by
  revert allowed
  rcases writes with rfl | rfl
  · cases plane <;> cases classification <;> decide
  · cases plane <;> cases classification <;> decide

/-! ## Views -/

structure VersionView where
  version : Nat
  value : Option Text
  status : SecretVersionStatus

structure EntryView where
  classification : SecretClassification
  description : Text
  currentVersion : Nat
  versions : List VersionView

def SecretVersion.view (reveals : Bool) (version : SecretVersion) : VersionView where
  version := version.version
  value := if reveals then some version.value else none
  status := version.status

def SecretEntry.view (plane : SecretPlane) (entry : SecretEntry) : EntryView where
  classification := entry.classification
  description := entry.description
  currentVersion := entry.currentVersion
  versions := entry.versions.map (SecretVersion.view (readable plane entry.classification))

/-- The view of a plane on a store. -/
def storeView (plane : SecretPlane) (payload : SecretStorePayload) : Dictionary Text EntryView :=
  payload.mapValues fun _ => SecretEntry.view plane

section Views

variable {plane : SecretPlane} {left right : SecretStorePayload}

/-- Under every name both stores have nothing, or entries with the same view. -/
theorem get_of_storeView (same : storeView plane left = storeView plane right) (name : Text) :
    (left.get name = none ∧ right.get name = none) ∨
      Exists fun entry => Exists fun other => left.get name = some entry ∧ right.get name = some other ∧
        entry.view plane = other.view plane := by
  have viewed := congrArg (fun view => Dictionary.get view name) same
  simp only [storeView, Dictionary.get_mapValues] at viewed
  cases foundLeft : left.get name with
  | none =>
      cases foundRight : right.get name with
      | none => exact Or.inl ⟨rfl, rfl⟩
      | some other =>
          rw [foundLeft, foundRight] at viewed
          cases viewed
  | some entry =>
      cases foundRight : right.get name with
      | none =>
          rw [foundLeft, foundRight] at viewed
          cases viewed
      | some other =>
          rw [foundLeft, foundRight] at viewed
          exact Or.inr ⟨entry, other, rfl, rfl, Option.some.inj viewed⟩

theorem keys_of_storeView (same : storeView plane left = storeView plane right) : left.keys = right.keys := by
  have keys := congrArg Dictionary.keys same
  rwa [storeView, storeView, Dictionary.keys_mapValues, Dictionary.keys_mapValues] at keys

theorem metadataOf_of_view {entry other : SecretEntry} (same : entry.view plane = other.view plane) (name : Text) :
    Store.metadataOf name entry = Store.metadataOf name other := by
  simp only [SecretEntry.view, EntryView.mk.injEq] at same
  simp only [Store.metadataOf, same.1, same.2.1, same.2.2.1]

theorem getMetadata_of_storeView (same : storeView plane left = storeView plane right) (name : Text) :
    Store.getMetadata name left = Store.getMetadata name right := by
  unfold Store.getMetadata
  rcases get_of_storeView same name with ⟨foundLeft, foundRight⟩ | ⟨entry, other, foundLeft, foundRight, viewed⟩
  · rw [foundLeft, foundRight]
  · rw [foundLeft, foundRight]
    dsimp only
    rw [metadataOf_of_view viewed name]

theorem listMetadata_of_storeView (same : storeView plane left = storeView plane right) :
    Store.listMetadata left = Store.listMetadata right := by
  unfold Store.listMetadata
  rw [keys_of_storeView same]
  apply List.filterMap_congr
  intro name _
  rcases get_of_storeView same name with ⟨foundLeft, foundRight⟩ | ⟨entry, other, foundLeft, foundRight, viewed⟩
  · rw [foundLeft, foundRight]
  · rw [foundLeft, foundRight, Option.map_some, Option.map_some, metadataOf_of_view viewed name]

/-- The current value of an entry is part of a view that reveals it. -/
theorem find_of_view {entry other : SecretEntry} (same : entry.view plane = other.view plane)
    (reveals : readable plane entry.classification = true) :
    ((entry.versions.find? fun version =>
        decide (version.version = entry.currentVersion) && decide (version.status = .active)).map SecretVersion.value) =
      ((other.versions.find? fun version =>
        decide (version.version = other.currentVersion) && decide (version.status = .active)).map SecretVersion.value)
    := by
  simp only [SecretEntry.view, EntryView.mk.injEq] at same
  rcases same with ⟨classification, -, current, versions⟩
  rw [<- classification, reveals] at versions
  rw [current]
  let wanted (view : VersionView) : Bool :=
    decide (view.version = other.currentVersion) && decide (view.status = .active)
  have through : forall versions : List SecretVersion,
      (versions.find? fun version =>
        decide (version.version = other.currentVersion) && decide (version.status = .active)).map SecretVersion.value =
        ((versions.map (SecretVersion.view true)).find? wanted).bind VersionView.value := by
    intro versions
    have same : (wanted ∘ SecretVersion.view true) = fun version : SecretVersion =>
        decide (version.version = other.currentVersion) && decide (version.status = .active) := rfl
    rw [List.find?_map, Option.bind_map, same]
    cases versions.find? fun version =>
      decide (version.version = other.currentVersion) && decide (version.status = .active) <;> rfl
  rw [through, through, versions]

theorem getSecret_of_storeView (same : storeView plane left = storeView plane right) {name : Text}
    {metadata : SecretMetadata} (described : Store.getMetadata name left = .ok metadata)
    (reveals : readable plane metadata.classification = true) :
    Store.getSecret name left = Store.getSecret name right := by
  unfold Store.getMetadata at described
  unfold Store.getSecret
  rcases get_of_storeView same name with ⟨foundLeft, foundRight⟩ | ⟨entry, other, foundLeft, foundRight, viewed⟩
  · rw [foundLeft, foundRight]
  · rw [foundLeft] at described
    split at described
    · exact absurd described nofun
    · cases described
      have values := find_of_view viewed reveals
      rw [foundLeft, foundRight]
      dsimp only
      cases current : entry.versions.find? fun version =>
          decide (version.version = entry.currentVersion) && decide (version.status = .active) with
      | none =>
          rw [current, Option.map_none, eq_comm, Option.map_eq_none_iff] at values
          rw [values]
      | some version =>
          rw [current, Option.map_some, eq_comm, Option.map_eq_some_iff] at values
          rcases values with ⟨shown, found, equal⟩
          rw [found]
          dsimp only
          rw [equal]

/-! ## Writes of the control plane -/

def VersionView.revoke (version : VersionView) : VersionView :=
  if version.status = .active then { version with status := .revoked } else version

theorem view_revoke (reveals : Bool) (version : SecretVersion) :
    version.revoke.view reveals = (version.view reveals).revoke := by
  unfold SecretVersion.revoke VersionView.revoke SecretVersion.view
  dsimp only
  split <;> rfl

/-- Entries that look the same look the same after a write. -/
theorem view_write {entry other : SecretEntry} (same : entry.view .control = other.view .control)
    (moment moment' : Datetime) (value : Text) :
    (entry.write moment value).view .control = (other.write moment' value).view .control := by
  simp only [SecretEntry.view, EntryView.mk.injEq, control_reads] at same
  rcases same with ⟨classification, description, current, versions⟩
  have revoked : (SecretVersion.view true ∘ SecretVersion.revoke) =
      VersionView.revoke ∘ SecretVersion.view true := by
    funext version
    exact view_revoke true version
  simp only [SecretEntry.view, SecretEntry.write, EntryView.mk.injEq, control_reads, List.map_append, List.map_map,
    revoked, classification, description, current, true_and]
  rw [<- List.map_map, <- List.map_map, versions]
  rfl

theorem view_setEntry {found found' : Option SecretEntry}
    (same : (found = none ∧ found' = none) ∨ Exists fun entry => Exists fun other => found = some entry ∧
      found' = some other ∧ entry.view .control = other.view .control)
    (moment moment' : Datetime) (value : Text) (classification : SecretClassification) (description : Text) :
    (Store.setEntry moment value classification description found).view .control =
      (Store.setEntry moment' value classification description found').view .control := by
  have started : (found.getD (SecretEntry.blank classification description)).view .control =
      (found'.getD (SecretEntry.blank classification description)).view .control := by
    rcases same with ⟨rfl, rfl⟩ | ⟨entry, other, rfl, rfl, viewed⟩
    · rfl
    · exact viewed
  have written := view_write started moment moment' value
  simp only [SecretEntry.view, EntryView.mk.injEq, control_reads] at written
  simp only [SecretEntry.view, Store.setEntry, control_reads, written.2.1, written.2.2.1, written.2.2.2]

/-- The answers of a write agree, and what it leaves looks the same. -/
def WritesAlike {A : Type} (first second : Except SecretStoreError (A × SecretStorePayload)) : Prop :=
  match first, second with
  | .ok (a, left), .ok (b, right) => a = b ∧ storeView .control left = storeView .control right
  | .error e, .error f => e = f
  | .ok _, .error _ => False
  | .error _, .ok _ => False

theorem setSecret_alike (same : storeView .control left = storeView .control right) (moment moment' : Datetime)
    (name value : Text) (classification : SecretClassification) (description : Text) :
    WritesAlike (Store.setSecret moment name value classification description left)
      (Store.setSecret moment' name value classification description right) := by
  have found := get_of_storeView same name
  have viewed := view_setEntry found moment moment' value classification description
  have isNone : (left.get name).isNone = (right.get name).isNone := by
    rcases found with ⟨foundLeft, foundRight⟩ | ⟨entry, other, foundLeft, foundRight, -⟩
    · rw [foundLeft, foundRight]
    · rw [foundLeft, foundRight]
      rfl
  unfold Store.setSecret
  split
  · rfl
  · split
    · rfl
    · refine ⟨?_, ?_⟩
      · have current := congrArg EntryView.currentVersion viewed
        exact Prod.ext isNone current
      · unfold storeView
        rw [Dictionary.mapValues_set, Dictionary.mapValues_set, viewed]
        exact congrArg (fun view => Dictionary.set view name _) same

theorem rotateSecret_alike (same : storeView .control left = storeView .control right) (moment moment' : Datetime)
    (name value : Text) :
    WritesAlike (Store.rotateSecret moment name value left) (Store.rotateSecret moment' name value right) := by
  unfold Store.rotateSecret
  split
  · rfl
  · rcases get_of_storeView same name with ⟨foundLeft, foundRight⟩ | ⟨entry, other, foundLeft, foundRight, viewed⟩
    · rw [foundLeft, foundRight]
      rfl
    · rw [foundLeft, foundRight]
      dsimp only
      split
      · rfl
      · have written := view_write viewed moment moment' value
        refine ⟨congrArg EntryView.currentVersion written, ?_⟩
        unfold storeView
        rw [Dictionary.mapValues_set, Dictionary.mapValues_set, written]
        exact congrArg (fun view => Dictionary.set view name _) same

end Views
/-! ## Systems that look the same -/

/-- An audit entry without its time and its request id. -/
def AuditEvent.entry (event : AuditEvent) : Text × SecretPlane × Text × SecretAction × PolicyEffect × Text :=
  (event.subjectServiceName, event.subjectPlane, event.secretName, event.action, event.decision, event.reason)

/-- The two databases differ at most in what an audit entry draws. -/
def databasesAlike (left right : SecretsDatabase) : Prop :=
  left.metadata = right.metadata ∧ left.versions = right.versions ∧
    left.audit.map AuditEvent.entry = right.audit.map AuditEvent.entry

/-- Both files hold a store, and the plane sees the same in both; the audits and the
databases are alike. -/
def systemsAlike (packages : Packages) (masterSecret : Bytes) (plane : SecretPlane) (left right : SecretsSystem) :
    Prop :=
  (Exists fun payload => Exists fun other => Store.load packages masterSecret left.file = .ok payload ∧
      Store.load packages masterSecret right.file = .ok other ∧ storeView plane payload = storeView plane other) ∧
    left.auditFile.map AuditEvent.entry = right.auditFile.map AuditEvent.entry ∧
    databasesAlike left.database right.database

section Commands

open Cli

variable {packages : Packages} {masterSecret : Bytes} {plane : SecretPlane}

theorem onDatabase_alike {A : Type} {first second : Program PersistenceError SecretsDatabase A} {answers : A -> A -> Prop}
    (programs : Alike (sameLink databasesAlike) first second answers) (link : Link)
    (failed : Failure PersistenceError -> Exit) :
    Alike (systemsAlike packages masterSecret plane) (onDatabase link first failed) (onDatabase link second failed)
      answers := by
  rintro left right ⟨files, audits, databases⟩
  have ended := programs { store := left.database, link := link } { store := right.database, link := link }
    ⟨databases, rfl⟩
  unfold onDatabase
  cases ranFirst : first { store := left.database, link := link } with
  | ok a after =>
      cases ranSecond : second { store := right.database, link := link } with
      | ok b after' =>
          rw [ranFirst, ranSecond] at ended
          exact ⟨ended.1, files, audits, ended.2.1⟩
      | error failure after' =>
          rw [ranFirst, ranSecond] at ended
          exact ended.elim
  | error failure after =>
      cases ranSecond : second { store := right.database, link := link } with
      | ok b after' =>
          rw [ranFirst, ranSecond] at ended
          exact ended.elim
      | error failure' after' =>
          rw [ranFirst, ranSecond] at ended
          exact ⟨congrArg failed ended.1, files, audits, ended.2.1⟩

theorem loadStore_alike (arguments : Arguments) (surroundings : Surroundings) :
    Alike (systemsAlike packages masterSecret plane) (loadStore packages masterSecret arguments surroundings)
      (loadStore packages masterSecret arguments surroundings)
      (fun payload other => storeView plane payload = storeView plane other) := by
  intro left right agrees
  rcases agrees.1 with ⟨payload, other, loads, loads', same⟩
  unfold loadStore
  cases surroundings.keyError with
  | some message => exact ⟨rfl, agrees⟩
  | none =>
      rw [loads, loads']
      exact ⟨same, agrees⟩

theorem stripped_alike (text complaint : Text) :
    Alike (systemsAlike packages masterSecret plane) (stripped text complaint) (stripped text complaint) Eq := by
  unfold stripped
  split
  · exact Alike.throw _
  · exact Alike.pure rfl

theorem readValue_alike (source : ValueSource) (surroundings : Surroundings) :
    Alike (systemsAlike packages masterSecret plane) (readValue source surroundings) (readValue source surroundings)
      Eq := by
  unfold readValue
  split
  · split
    · exact Alike.throw _
    · exact stripped_alike _ _
  · split
    · exact Alike.throw _
    · split
      · exact Alike.throw _
      · split
        · exact Alike.throw _
        · exact Alike.throw _
        · exact Alike.throw _
        · exact stripped_alike _ _

/-- Events with the same entry are audited alike. -/
theorem auditOrExit_alike (arguments : Arguments) (surroundings : Surroundings) {event event' : AuditEvent}
    (same : event.entry = event'.entry) :
    Alike (systemsAlike packages masterSecret plane) (auditOrExit arguments surroundings event)
      (auditOrExit arguments surroundings event') (fun _ _ => True) := by
  have inserts : EffectsAlike databasesAlike (insertAudit event) (insertAudit event') (fun _ _ => True) := by
    rintro left right agrees
    have fields := same
    simp only [AuditEvent.entry, Prod.mk.injEq] at fields
    unfold insertAudit
    rw [fields.1, fields.2.2.1, fields.2.2.2.2.2]
    split
    · exact ⟨agrees, rfl⟩
    · split
      · exact ⟨agrees, rfl⟩
      · refine ⟨⟨agrees.1, agrees.2.1, ?_⟩, trivial⟩
        rw [List.map_append, List.map_append, agrees.2.2, List.map_singleton, List.map_singleton, same]
  have appends : Alike (systemsAlike packages masterSecret plane) (appendAudit surroundings event)
      (appendAudit surroundings event') (fun _ _ => True) := by
    rintro left right ⟨files, audits, databases⟩
    unfold appendAudit
    cases surroundings.auditFileFailure with
    | some message => exact ⟨rfl, files, audits, databases⟩
    | none =>
        refine ⟨trivial, files, ?_, databases⟩
        rw [List.map_append, List.map_append, audits, List.map_singleton, List.map_singleton, same]
  have persists : Alike (systemsAlike packages masterSecret plane) (auditToDatabase arguments surroundings event)
      (auditToDatabase arguments surroundings event') (fun _ _ => True) := by
    unfold auditToDatabase
    split
    · exact onDatabase_alike (Alike.transaction (Alike.statement inserts)) _ _
    · exact Alike.pure trivial
  apply Alike.bind persists
  intro _ _ _
  unfold auditToFile
  split
  · exact appends
  · split
    · exact Alike.pure trivial
    · exact Alike.throw _

/-- The entries of two runs of a command differ in what they draw. -/
theorem audit_alike (arguments : Arguments) (surroundings : Surroundings) (draws draws' : Draws) (secretName : Text)
    (action : SecretAction) (evaluation : PolicyEvaluation) :
    Alike (systemsAlike packages masterSecret plane)
      (auditOrExit arguments surroundings (buildAuditEvent arguments draws secretName action evaluation))
      (auditOrExit arguments surroundings (buildAuditEvent arguments draws' secretName action evaluation))
      (fun _ _ => True) :=
  auditOrExit_alike arguments surroundings rfl

/-- The database is told names, classifications, descriptions and numbers only. -/
theorem mirrorWrite_alike (arguments : Arguments) (surroundings : Surroundings) (name : Text)
    (classification : SecretClassification) (description : Text) (version : Nat) :
    Alike (systemsAlike packages masterSecret plane)
      (mirrorWrite arguments surroundings name classification description version)
      (mirrorWrite arguments surroundings name classification description version) (fun _ _ => True) := by
  have metadata : EffectsAlike databasesAlike (upsertMetadata name
      { classification := classification, description := description, currentVersion := version })
      (upsertMetadata name
        { classification := classification, description := description, currentVersion := version })
      (fun _ _ => True) := by
    rintro left right agrees
    unfold upsertMetadata
    split
    · exact ⟨agrees, rfl⟩
    · split
      · exact ⟨agrees, rfl⟩
      · split
        · exact ⟨agrees, rfl⟩
        · exact ⟨⟨congrArg (fun table => Dictionary.set table name _) agrees.1, agrees.2⟩, trivial⟩
  have versions : EffectsAlike databasesAlike (upsertVersion name version) (upsertVersion name version)
      (fun _ _ => True) := by
    rintro left right agrees
    unfold upsertVersion
    split
    · exact ⟨agrees, rfl⟩
    · split
      · exact ⟨agrees, rfl⟩
      · exact ⟨⟨agrees.1, congrArg (fun table => Dictionary.set table (name, version) _) agrees.2.1, agrees.2.2⟩,
          trivial⟩
  have looksUp : EffectsAlike databasesAlike
      (fun database : SecretsDatabase =>
        ((.ok (database.metadata.get name) : Except PersistenceError (Option MetadataRow)), database))
      (fun database => (.ok (database.metadata.get name), database)) Eq := by
    rintro left right agrees
    exact ⟨agrees, congrArg (fun table => Dictionary.get table name) agrees.1⟩
  have second : Alike (sameLink databasesAlike) (persistSecretVersion name version) (persistSecretVersion name version)
      (fun _ _ => True) := by
    apply Alike.transaction
    apply Alike.bind (Alike.statement looksUp)
    rintro row _ rfl
    cases row with
    | none => exact Alike.throw _
    | some row => exact Alike.statement versions
  unfold mirrorWrite
  split
  · apply onDatabase_alike
    apply Alike.bind (Alike.transaction (Alike.statement metadata))
    intro _ _ _
    exact second
  · exact Alike.pure trivial

theorem saveStore_alike (lawful : packages.Lawful) (surroundings : Surroundings) (draws draws' : Draws)
    {payload other : SecretStorePayload} (same : storeView plane payload = storeView plane other) :
    Alike (systemsAlike packages masterSecret plane) (saveStore packages masterSecret surroundings draws payload)
      (saveStore packages masterSecret surroundings draws' other) (fun _ _ => True) := by
  intro left right agrees
  unfold saveStore
  cases surroundings.saveWorks with
  | true =>
      exact ⟨trivial, ⟨payload, other, Store.load_save lawful _ _ _, Store.load_save lawful _ _ _, same⟩, agrees.2⟩
  | false => exact ⟨rfl, agrees⟩

theorem orExit_alike {A : Type} (opening : String) {first second : Except SecretStoreError A} (same : first = second) :
    Alike (systemsAlike packages masterSecret plane) (orExit opening first) (orExit opening second)
      (fun a b => a = b ∧ first = .ok a) := by
  subst same
  cases first with
  | ok value => exact Alike.pure ⟨rfl, rfl⟩
  | error error => exact Alike.throw _

theorem orExit_writes {A : Type} (opening : String) {first second : Except SecretStoreError (A × SecretStorePayload)}
    (writes : WritesAlike first second) :
    Alike (systemsAlike packages masterSecret plane) (orExit opening first) (orExit opening second)
      (fun a b => a.1 = b.1 ∧ storeView .control a.2 = storeView .control b.2) := by
  cases first with
  | ok answer =>
      cases second with
      | ok other => exact Alike.pure writes
      | error error => exact writes.elim
  | error error =>
      cases second with
      | ok other => exact writes.elim
      | error other =>
          have same : error = other := writes
          subst same
          exact Alike.throw _

/-! ## The commands -/

variable (packages masterSecret) in
/-- A command is no less and no more than its plane can know. -/
abbrev CommandAlike (arguments : Arguments) (first second : Cli Reply) : Prop :=
  Alike (systemsAlike packages masterSecret arguments.subjectPlane) first second Eq

/-- A write that is let through is saved, mirrored and reported alike. -/
theorem written_alike {A : Type} (lawful : packages.Lawful) (arguments : Arguments) (surroundings : Surroundings)
    (draws draws' : Draws) (control : arguments.subjectPlane = .control)
    {first second : Except SecretStoreError (A × SecretStorePayload)} (writes : WritesAlike first second)
    (opening : String) (name : Text) (classification : SecretClassification) (description : Text) (version : A -> Nat)
    (reply : A -> Reply) :
    CommandAlike packages masterSecret arguments
      (orExit opening first >>= fun written => saveStore packages masterSecret surroundings draws written.2 >>= fun _ =>
        mirrorWrite arguments surroundings name classification description (version written.1) >>= fun _ =>
          pure (reply written.1))
      (orExit opening second >>= fun written => saveStore packages masterSecret surroundings draws' written.2 >>= fun _ =>
        mirrorWrite arguments surroundings name classification description (version written.1) >>= fun _ =>
          pure (reply written.1)) := by
  apply Alike.bind (orExit_writes opening writes)
  rintro ⟨answer, left⟩ ⟨_, right⟩ ⟨sameAnswer, sameStore⟩
  dsimp only at sameAnswer sameStore ⊢
  subst sameAnswer
  rw [<- control] at sameStore
  apply Alike.bind (saveStore_alike lawful surroundings draws draws' sameStore)
  intro _ _ _
  apply Alike.bind (mirrorWrite_alike _ _ _ _ _ _)
  intro _ _ _
  exact Alike.pure rfl

theorem cmdSetSecret_alike (lawful : packages.Lawful) (arguments : Arguments) (surroundings : Surroundings)
    (draws draws' : Draws) (name : Text) (classification : SecretClassification) (description : Text)
    (source : ValueSource) :
    CommandAlike packages masterSecret arguments
      (cmdSetSecret packages masterSecret arguments surroundings draws name classification description source)
      (cmdSetSecret packages masterSecret arguments surroundings draws' name classification description source) := by
  unfold cmdSetSecret
  apply Alike.bind (loadStore_alike arguments surroundings)
  intro payload other same
  apply Alike.bind (readValue_alike source surroundings)
  rintro value _ rfl
  have isSome : (payload.get name).isSome = (other.get name).isSome := by
    rcases get_of_storeView same name with ⟨foundLeft, foundRight⟩ | ⟨entry, found, foundLeft, foundRight, -⟩
    · rw [foundLeft, foundRight]
    · rw [foundLeft, foundRight]
      rfl
  have writes : (if (payload.get name).isSome then SecretAction.rotate else SecretAction.write) = .write ∨
      (if (payload.get name).isSome then SecretAction.rotate else SecretAction.write) = .rotate := by
    split
    · exact Or.inr rfl
    · exact Or.inl rfl
  rw [<- isSome]
  dsimp only
  generalize (if (payload.get name).isSome then SecretAction.rotate else SecretAction.write) = action at writes ⊢
  apply Alike.bind (audit_alike arguments surroundings draws draws' _ _ _)
  intro _ _ _
  split
  · exact Alike.pure rfl
  · rename_i permitted
    have control := control_of_write writes (Bool.eq_true_of_not_eq_false permitted)
    have view := same
    rw [control] at view
    exact written_alike lawful arguments surroundings draws draws' control
      (setSecret_alike view draws.moment draws'.moment name value classification description) _ name classification
      description Prod.snd fun answer =>
        { printed := .written answer.1 name classification answer.2, exitCode := 0 }

theorem cmdRotateSecret_alike (lawful : packages.Lawful) (arguments : Arguments) (surroundings : Surroundings)
    (draws draws' : Draws) (name : Text) (source : ValueSource) :
    CommandAlike packages masterSecret arguments
      (cmdRotateSecret packages masterSecret arguments surroundings draws name source)
      (cmdRotateSecret packages masterSecret arguments surroundings draws' name source) := by
  unfold cmdRotateSecret
  apply Alike.bind (loadStore_alike arguments surroundings)
  intro payload other same
  apply Alike.bind (readValue_alike source surroundings)
  rintro value _ rfl
  apply Alike.bind (orExit_alike "" (getMetadata_of_storeView same name))
  rintro metadata _ ⟨rfl, -⟩
  apply Alike.bind (audit_alike arguments surroundings draws draws' _ _ _)
  intro _ _ _
  split
  · exact Alike.pure rfl
  · rename_i permitted
    have allowed := Bool.eq_true_of_not_eq_false permitted
    have control := control_of_write (Or.inr rfl) allowed
    have view := same
    rw [control] at view
    exact written_alike lawful arguments surroundings draws draws' control
      (rotateSecret_alike view draws.moment draws'.moment name value) _ name metadata.classification
      metadata.description id fun version =>
        { printed := .rotated name metadata.classification version, exitCode := 0 }

theorem cmdGetSecret_alike (arguments : Arguments) (surroundings : Surroundings) (draws draws' : Draws) (name : Text)
    (reveal : Bool) :
    CommandAlike packages masterSecret arguments
      (cmdGetSecret packages masterSecret arguments surroundings draws name reveal)
      (cmdGetSecret packages masterSecret arguments surroundings draws' name reveal) := by
  unfold cmdGetSecret
  apply Alike.bind (loadStore_alike arguments surroundings)
  intro payload other same
  apply Alike.bind (orExit_alike "" (getMetadata_of_storeView same name))
  rintro metadata _ ⟨rfl, described⟩
  apply Alike.bind (audit_alike arguments surroundings draws draws' _ _ _)
  intro _ _ _
  split
  · exact Alike.pure rfl
  · rename_i permitted
    have reveals : readable arguments.subjectPlane metadata.classification = true :=
      Bool.eq_true_of_not_eq_false permitted
    split
    · exact Alike.pure rfl
    · apply Alike.bind (orExit_alike "" (getSecret_of_storeView same described reveals))
      rintro value _ ⟨rfl, -⟩
      exact Alike.pure rfl

theorem cmdListSecrets_alike (arguments : Arguments) (surroundings : Surroundings) (draws draws' : Draws) :
    CommandAlike packages masterSecret arguments (cmdListSecrets packages masterSecret arguments surroundings draws)
      (cmdListSecrets packages masterSecret arguments surroundings draws') := by
  unfold cmdListSecrets
  apply Alike.bind (loadStore_alike arguments surroundings)
  intro payload other same
  apply Alike.bind (audit_alike arguments surroundings draws draws' _ _ _)
  intro _ _ _
  split
  · exact Alike.pure rfl
  · rw [listMetadata_of_storeView same]
    exact Alike.pure rfl

variable (masterSecret) in
theorem handler_alike (lawful : packages.Lawful) (arguments : Arguments) (surroundings : Surroundings)
    (draws draws' : Draws) (command : Command) :
    CommandAlike packages masterSecret arguments
      (handler packages masterSecret arguments surroundings draws command)
      (handler packages masterSecret arguments surroundings draws' command) := by
  cases command with
  | setSecret name classification description source => exact cmdSetSecret_alike lawful _ _ _ _ _ _ _ _
  | rotateSecret name source => exact cmdRotateSecret_alike lawful _ _ _ _ _ _
  | getSecret name reveal => exact cmdGetSecret_alike _ _ _ _ _ _
  | listSecrets => exact cmdListSecrets_alike _ _ _ _

theorem main_alike {first second : Cli Reply}
    (alike : Alike (systemsAlike packages masterSecret plane) first second Eq) {left right : SecretsSystem}
    (agrees : systemsAlike packages masterSecret plane left right) :
    (main first left).1 = (main second right).1 ∧
      systemsAlike packages masterSecret plane (main first left).2 (main second right).2 := by
  have ended := alike left right agrees
  unfold main
  cases ranFirst : first left with
  | ok reply after =>
      cases ranSecond : second right with
      | ok other after' =>
          rw [ranFirst, ranSecond] at ended
          rcases ended with ⟨rfl, agreesAfter⟩
          exact ⟨rfl, agreesAfter⟩
      | error exit after' =>
          rw [ranFirst, ranSecond] at ended
          exact ended.elim
  | error exit after =>
      cases ranSecond : second right with
      | ok other after' =>
          rw [ranFirst, ranSecond] at ended
          exact ended.elim
      | error other after' =>
          rw [ranFirst, ranSecond] at ended
          rcases ended with ⟨rfl, agreesAfter⟩
          cases exit with
          | systemExit message => exact ⟨rfl, agreesAfter⟩
          | crash => exact ⟨rfl, agreesAfter⟩

/-- An issued command, with what it draws in the first run and in the second. -/
abbrev IssuedTwice := Issue × Draws × Draws

def IssuedTwice.first (issued : IssuedTwice) : Issue × Draws :=
  (issued.1, issued.2.1)

def IssuedTwice.second (issued : IssuedTwice) : Issue × Draws :=
  (issued.1, issued.2.2)

/-- Two runs of the same commands under one plane, from systems that look the same to
it, print the same, exit alike and leave the same audit entries. -/
theorem secrets_noninterference (packages : Packages) (lawful : packages.Lawful) (masterSecret : Bytes)
    (plane : SecretPlane) (issues : List IssuedTwice)
    (under : forall issued, issued ∈ issues -> issued.1.arguments.subjectPlane = plane) (left right : SecretsSystem)
    (agrees : systemsAlike packages masterSecret plane left right) :
    (session packages masterSecret (issues.map IssuedTwice.first) left).1 =
        (session packages masterSecret (issues.map IssuedTwice.second) right).1 ∧
      systemsAlike packages masterSecret plane
        (session packages masterSecret (issues.map IssuedTwice.first) left).2
        (session packages masterSecret (issues.map IssuedTwice.second) right).2 := by
  induction issues generalizing left right with
  | nil => exact ⟨rfl, agrees⟩
  | cons issued later inductionHypothesis =>
      rcases issued with ⟨issue, draws, draws'⟩
      have alike := handler_alike masterSecret lawful issue.arguments issue.surroundings draws draws'
        issue.command
      have plain : issue.arguments.subjectPlane = plane := under _ List.mem_cons_self
      unfold CommandAlike at alike
      rw [plain] at alike
      rcases main_alike alike agrees with ⟨sameOutcome, agreesAfter⟩
      have rest := inductionHypothesis (fun other member => under other (List.mem_cons_of_mem _ member)) _ _ agreesAfter
      exact ⟨List.cons_eq_cons.mpr ⟨sameOutcome, rest.1⟩, rest.2⟩

end Commands

/-! ## Two stores with different broker keys -/

namespace Scenario

open Cli

/-- A file with one broker secret. -/
noncomputable def brokerStore (value : Text) : SecretsSystem where
  file := some (Store.save packages draws [] (Dictionary.set Table.empty "broker/key".toList
    (Store.setEntry moment value .broker [] none)))
  auditFile := []
  database := { metadata := Table.empty, versions := Table.empty, audit := [] }

/-- A command of a service on the AI plane, with an audit file and no database. -/
def asked (command : Command) : IssuedTwice :=
  ({ command := command
     arguments := { storePath := "local.apexsecrets".toList, auditsToFile := true, usesDatabase := false,
                    subjectService := "signal-model".toList, subjectPlane := .ai }
     surroundings := { keyError := none, stdin := .ok "guess".toList, valueFile := .missing, saveWorks := true,
                       auditLink := .steady, auditFileFailure := none, mirrorLink := .steady } },
    { requestId := 1, occurredAt := moment, moment := moment, sealDraws := draws },
    { requestId := 2, occurredAt := moment, moment := moment, sealDraws := draws })

def questions : List IssuedTwice :=
  [asked (.getSecret "broker/key".toList true), asked (.listSecrets),
    asked (.setSecret "broker/key".toList .api [] { valueStdin := true, valueFile := none })]

theorem brokerStore_alike :
    systemsAlike packages [] .ai (brokerStore "first".toList) (brokerStore "second".toList) := by
  refine ⟨⟨_, _, Store.load_save packages_lawful _ _ _, Store.load_save packages_lawful _ _ _, ?_⟩, rfl, rfl, rfl, rfl⟩
  unfold storeView
  rw [Dictionary.mapValues_set, Dictionary.mapValues_set]
  rfl

end Scenario

/-- A model service asks for the broker key, lists and tries to overwrite it, and
learns nothing about it. -/
theorem broker_key_is_not_learned :
    (Cli.session Scenario.packages [] (Scenario.questions.map IssuedTwice.first)
        (Scenario.brokerStore "first".toList)).1 =
      (Cli.session Scenario.packages [] (Scenario.questions.map IssuedTwice.second)
        (Scenario.brokerStore "second".toList)).1 :=
  (secrets_noninterference Scenario.packages Scenario.packages_lawful [] .ai Scenario.questions (by
    intro issued member
    simp only [Scenario.questions, List.mem_cons, List.not_mem_nil, or_false] at member
    rcases member with rfl | rfl | rfl <;> rfl) _ _ Scenario.brokerStore_alike).1

end Secrets
end ApexQuant
