import ApexQuant.Versioning.Identity
import ApexQuant.Versioning.Postgres

namespace ApexQuant
namespace Versioning

open Foundation
open Foundation.SideBySide

/-!
# The tables mirror the dictionaries

`Mirrors` relates the repository in memory and the tables: the same services and events,
the same versions under their names and texts, the same dependencies in any order.
Every method keeps it, unless its statement is refused or lost, so that the two
services answer every list of requests alike.

A key of the dictionary of versions is a name and a text in one.  It stands for one
pair only, because what is stored contains no colon.
-/

/-- How a document in memory is kept in the tables. -/
def PostgresServer.stores (server : PostgresServer) (metadata document : Text) : Prop :=
  server.jsonb metadata = some document

/-- The tables hold what the repository in memory holds. -/
structure Mirrors (server : PostgresServer) (memory : InMemoryRepository) (postgres : PostgresRepository) : Prop where
  services : forall serviceName, postgres.services.find serviceName = memory.services.get serviceName
  named : forall serviceName record, memory.services.get serviceName = some record -> isServiceName serviceName = true
  versions : forall serviceName version,
    Option.Rel (VersionRecord.StoredAs server.stores) (memory.getVersion serviceName version)
      (postgres.versions.find (serviceName, version))
  plain : forall serviceName version record, memory.getVersion serviceName version = some record ->
    ':' ∉ serviceName ∧ ':' ∉ version
  identified : forall serviceName version record, memory.getVersion serviceName version = some record ->
    Exists fun n => n < memory.drawn ∧ record.versionId = server.interpreter.uuid n
  dependencies : forall versionId, (memory.getDependencies versionId).Perm (postgres.dependenciesOf versionId)
  owned : forall versionId, memory.getDependencies versionId ≠ [] ->
    Exists fun n => n < memory.drawn ∧ versionId = server.interpreter.uuid n
  events : postgres.events = memory.events
  drawn : postgres.drawn = memory.drawn

/-- What the server refuses or loses is given up. -/
def GaveUp (failure : Database.Failure PostgresFailure) : Prop :=
  failure = .connectionLost ∨ failure = .raised .refused

/-- The two repositories side by side.  An error of the service is the same in both. -/
def mirroring (server : PostgresServer) :
    Pairing Failure (Database.Failure PostgresFailure) InMemoryRepository (Database.Connection PostgresRepository) where
  keeps := fun memory connection => Mirrors server memory connection.store
  errors := fun failure failure' => failure' = .raised (.service failure)
  gaveUp := GaveUp

section Methods

variable {server : PostgresServer}

theorem Mirrors.empty : Mirrors server InMemoryRepository.empty PostgresRepository.empty where
  services := fun _ => rfl
  named := fun _ _ found => by cases found
  versions := fun _ _ => Option.Rel.none
  plain := fun _ _ _ found => by cases found
  identified := fun _ _ _ found => by cases found
  dependencies := fun _ => List.Perm.refl _
  owned := fun _ listed => absurd rfl listed
  events := rfl
  drawn := rfl

/-! ## Statements -/

/-- A statement that is not refused does what the method in memory does. -/
theorem corresponds_statement {A B : Type} {answers : A -> B -> Prop} {method : Repository A}
    {effect : PostgresRepository -> Except PostgresFailure B × PostgresRepository}
    (serves : forall memory postgres, Mirrors server memory postgres ->
      effect postgres = PostgresRepository.refuse postgres ∨
        Exists fun a => Exists fun memory' => Exists fun b => Exists fun postgres' =>
          method memory = .ok a memory' ∧ effect postgres = (.ok b, postgres') ∧ answers a b ∧
            Mirrors server memory' postgres') :
    Corresponds (mirroring server) answers method (Database.statement effect) := by
  intro memory connection mirrors
  unfold Database.statement
  cases connection.link.next with
  | none => exact Outcome.gaveUp (.inl rfl)
  | some link =>
      dsimp only
      rcases serves memory connection.store mirrors with
        refused | ⟨a, memory', b, postgres', ran, served, alike, kept⟩
      · rw [refused]
        exact Outcome.gaveUp (.inr rfl)
      · rw [ran, served]
        exact Outcome.returned alike kept

/-! ## Reads -/

theorem corresponds_raises {A B : Type} (answers : A -> B -> Prop) (failure : Failure) :
    Corresponds (mirroring server) answers (throw failure : Repository A)
      (PostgresRepository.raises failure : Postgres B) :=
  Corresponds.throw rfl

theorem corresponds_getService (serviceName : Text) :
    Corresponds (mirroring server) Eq
      (do
        let memory ← get
        pure (memory.getService serviceName))
      (PostgresRepository.getService serviceName) := by
  apply corresponds_statement
  intro memory postgres mirrors
  split
  · exact .inr ⟨_, _, _, _, rfl, rfl, (mirrors.services serviceName).symm, mirrors⟩
  · exact .inl rfl

theorem corresponds_getVersion (serviceName version : Text) :
    Corresponds (mirroring server) (Option.Rel (VersionRecord.StoredAs server.stores))
      (do
        let memory ← get
        pure (memory.getVersion serviceName version))
      (PostgresRepository.getVersion serviceName version) := by
  apply corresponds_statement
  intro memory postgres mirrors
  split
  · exact .inr ⟨_, _, _, _, rfl, rfl, mirrors.versions serviceName version, mirrors⟩
  · exact .inl rfl

theorem corresponds_getDependencies (versionId : Text) :
    Corresponds (mirroring server) List.Perm
      (do
        let memory ← get
        pure (memory.getDependencies versionId))
      (PostgresRepository.getDependencies server versionId) := by
  apply corresponds_statement
  intro memory postgres mirrors
  exact .inr ⟨_, _, _, _, rfl, rfl, (mirrors.dependencies versionId).trans (List.mergeSort_perm _ _).symm, mirrors⟩

/-! ## Services -/

/-- A service is set in both. -/
theorem Mirrors.setService {memory : InMemoryRepository} {postgres : PostgresRepository}
    (mirrors : Mirrors server memory postgres) {record : ServiceRecord} (named : isServiceName record.serviceName = true)
    {services : Table ServiceRecord.serviceName}
    (found : forall serviceName, services.find serviceName =
      if record.serviceName = serviceName then some record else postgres.services.find serviceName) :
    Mirrors server { memory with services := memory.services.set record.serviceName record }
      { postgres with services := services } := by
  refine { mirrors with services := ?_, named := ?_ }
  · intro serviceName
    rw [found, Dictionary.get_set, mirrors.services]
  · intro serviceName other held
    rw [Dictionary.get_set] at held
    split at held
    · rename_i same
      exact same ▸ named
    · exact mirrors.named serviceName other held

theorem corresponds_upsertService (now : Int) (serviceName plane description : Text) :
    Corresponds (mirroring server) Eq (InMemoryRepository.upsertService now serviceName plane description)
      (PostgresRepository.upsertService now serviceName plane description) := by
  apply corresponds_statement
  intro memory postgres mirrors
  split
  · rename_i accepted
    have named : isServiceName serviceName = true := by
      unfold ServiceRecord.accepted at accepted
      simp only [Bool.and_eq_true] at accepted
      exact accepted.1.1.1
    rw [InMemoryRepository.upsertService, ← mirrors.services]
    cases stored : postgres.services.find serviceName with
    | some existing =>
        have own := (Table.mem_of_find stored).2
        subst own
        refine .inr ⟨_, _, _, _, rfl, rfl, rfl,
          @Mirrors.setService _ _ _ mirrors (existing.describe now plane description) named _ fun other => ?_⟩
        rw [Table.find_update]
        by_cases same : existing.serviceName = other
        · subst same
          rw [stored, Option.map_some, if_pos rfl]
          exact (if_pos rfl).symm
        · refine Eq.trans ?_ (if_neg same).symm
          cases found : postgres.services.find other with
          | none => rfl
          | some row =>
              rw [Option.map_some, (Table.mem_of_find found).2, if_neg (Ne.symm same)]
    | none =>
        dsimp only
        cases inserted : postgres.services.insert (ServiceRecord.proposed now serviceName plane description) with
        | none => exact .inl rfl
        | some services =>
            refine .inr ⟨_, _, _, _, rfl, rfl, rfl,
              @Mirrors.setService _ _ _ mirrors (ServiceRecord.proposed now serviceName plane description) named _
                fun other => ?_⟩
            rw [Table.find_insert inserted]
            by_cases same : (ServiceRecord.proposed now serviceName plane description).serviceName = other
            · have absent : postgres.services.find other = none := same ▸ stored
              rw [if_pos same, if_pos same, absent]
              rfl
            · rw [if_neg same, if_neg same, Option.or_none]
  · exact .inl rfl

/-! ## Versions -/

/-- One more identifier is drawn in both. -/
theorem Mirrors.draw {memory : InMemoryRepository} {postgres : PostgresRepository}
    (mirrors : Mirrors server memory postgres) :
    Mirrors server { memory with drawn := memory.drawn + 1 } { postgres with drawn := postgres.drawn + 1 } := by
  refine { mirrors with identified := ?_, owned := ?_, drawn := congrArg (· + 1) mirrors.drawn }
  · intro serviceName version record found
    rcases mirrors.identified serviceName version record found with ⟨n, small, same⟩
    exact ⟨n, Nat.lt_succ_of_lt small, same⟩
  · intro versionId listed
    rcases mirrors.owned versionId listed with ⟨n, small, same⟩
    exact ⟨n, Nat.lt_succ_of_lt small, same⟩

/-- A version is set in both, under a name and a text without colons. -/
theorem Mirrors.setVersion {memory : InMemoryRepository} {postgres : PostgresRepository}
    (mirrors : Mirrors server memory postgres) {record : VersionRecord} {document : Text}
    (stored : server.stores record.metadata document) (plain : ':' ∉ record.serviceName ∧ ':' ∉ record.version)
    (identified : Exists fun n => n < memory.drawn ∧ record.versionId = server.interpreter.uuid n)
    {versions : Table VersionRecord.key}
    (found : forall key, versions.find key =
      if record.key = key then some (record.withMetadata document) else postgres.versions.find key) :
    Mirrors server { memory with versions := memory.versions.set (versionKey record.serviceName record.version) record }
      { postgres with versions := versions } := by
  have lookup : forall serviceName version,
      (memory.versions.set (versionKey record.serviceName record.version) record).get (versionKey serviceName version) =
        if record.key = (serviceName, version) then some record else memory.getVersion serviceName version := by
    intro serviceName version
    rw [Dictionary.get_set]
    by_cases same : record.key = (serviceName, version)
    · rcases Prod.mk.inj same with ⟨rfl, rfl⟩
      rw [if_pos rfl, if_pos same]
    · rw [if_neg same, if_neg]
      · rfl
      · intro sameKey
        rcases versionKey_inj sameKey.symm plain.1 plain.2 with ⟨sameName, sameText⟩
        exact same (Prod.ext sameName.symm sameText.symm)
  refine { mirrors with versions := ?_, plain := ?_, identified := ?_ }
  · intro serviceName version
    rw [InMemoryRepository.getVersion, lookup, found]
    split
    · exact Option.Rel.some ⟨document, stored, rfl⟩
    · exact mirrors.versions serviceName version
  · intro serviceName version other held
    rw [InMemoryRepository.getVersion, lookup] at held
    split at held
    · rename_i same
      rcases Prod.mk.inj same with ⟨rfl, rfl⟩
      exact plain
    · exact mirrors.plain serviceName version other held
  · intro serviceName version other held
    rw [InMemoryRepository.getVersion, lookup] at held
    split at held
    · rw [← Option.some.inj held]
      exact identified
    · exact mirrors.identified serviceName version other held

/-- The dependencies of a version are set in both. -/
theorem Mirrors.setDependencies {memory : InMemoryRepository} {postgres : PostgresRepository}
    (mirrors : Mirrors server memory postgres) (versionId : Text) {dependencies : List DependencyRecord}
    (owned : dependencies ≠ [] -> Exists fun n => n < memory.drawn ∧ versionId = server.interpreter.uuid n)
    {table : Table DependencyRow.key}
    (rows : forall other, PostgresRepository.dependenciesOf { postgres with dependencies := table } other =
      if versionId = other then dependencies else postgres.dependenciesOf other) :
    Mirrors server { memory with dependencies := memory.dependencies.set versionId dependencies }
      { postgres with dependencies := table } := by
  have lookup : forall other,
      ((memory.dependencies.set versionId dependencies).get other).getD [] =
        if versionId = other then dependencies else memory.getDependencies other := by
    intro other
    rw [Dictionary.get_set]
    split <;> rfl
  refine { mirrors with dependencies := ?_, owned := ?_ }
  · intro other
    rw [InMemoryRepository.getDependencies, lookup, rows]
    split
    · exact List.Perm.refl _
    · exact mirrors.dependencies other
  · intro other listed
    rw [InMemoryRepository.getDependencies, lookup] at listed
    split at listed
    · rename_i same
      exact same ▸ owned listed
    · exact mirrors.owned other listed

/-- A new version is inserted in both, with the identifier that both draw. -/
theorem Mirrors.insertVersion {memory : InMemoryRepository} {postgres : PostgresRepository}
    (mirrors : Mirrors server memory postgres) {record : VersionRecord} {document : Text}
    (stored : server.stores record.metadata document) (plain : ':' ∉ record.serviceName ∧ ':' ∉ record.version)
    (identified : record.versionId = server.interpreter.uuid memory.drawn) {versions : Table VersionRecord.key}
    (inserted : postgres.versions.insert (record.withMetadata document) = some versions) :
    Mirrors server
      { memory with
        versions := memory.versions.set (versionKey record.serviceName record.version) record
        dependencies := memory.dependencies.set record.versionId []
        drawn := memory.drawn + 1 }
      { postgres with versions := versions, drawn := postgres.drawn + 1 } := by
  have unowned : memory.getDependencies record.versionId = [] := by
    by_contra owned
    rcases mirrors.owned _ owned with ⟨n, small, same⟩
    exact absurd (server.interpreter.uuid_injective (identified.symm.trans same)) (Nat.ne_of_gt small)
  have found : forall key, versions.find key =
      if record.key = key then some (record.withMetadata document) else postgres.versions.find key := by
    intro key
    rw [Table.find_insert inserted]
    by_cases same : record.key = key
    · have absent : postgres.versions.find (record.withMetadata document).key = none :=
        Table.find_eq_none_of_insert inserted
      rw [show (record.withMetadata document).key = key from same] at absent
      rw [absent, if_pos same]
      exact if_pos same
    · rw [if_neg same]
      exact (congrArg _ (if_neg same)).trans (Option.or_none ..)
  have set := mirrors.draw.setVersion stored plain ⟨memory.drawn, Nat.lt_succ_self _, identified⟩ found
  refine set.setDependencies record.versionId (fun none => absurd rfl none) ?_
  intro other
  split
  · rename_i same
    have mirrored := mirrors.dependencies record.versionId
    rw [unowned, same] at mirrored
    exact List.nil_perm.mp mirrored
  · rfl

theorem corresponds_insertVersion (now : Int) (serviceName version : Text) (semver : SemVer)
    (status : LifecycleStatus) (gitSha imageTag : Option Text) (apiVersion : Text)
    (minCompatibleVersion checksumSha256 : Option Text) (metadata : Text)
    (parsed : SemVer.parse server.interpreter.digits version = .ok semver) :
    Corresponds (mirroring server) (VersionRecord.StoredAs server.stores)
      (InMemoryRepository.insertVersion server.interpreter now serviceName version semver status gitSha imageTag
        apiVersion minCompatibleVersion checksumSha256 metadata)
      (PostgresRepository.insertVersion server now serviceName version semver status gitSha imageTag apiVersion
        minCompatibleVersion checksumSha256 metadata) := by
  apply corresponds_statement
  intro memory postgres mirrors
  cases kept : server.jsonb metadata with
  | none => exact .inl rfl
  | some document =>
      dsimp only
      split
      · rename_i accepted
        split
        · rename_i versions inserted
          have absent : memory.getVersion serviceName version = none := by
            have related := mirrors.versions serviceName version
            have unlisted : postgres.versions.find (serviceName, version) = none :=
              Table.find_eq_none_of_insert inserted
            rw [unlisted] at related
            generalize memory.getVersion serviceName version = found at related ⊢
            cases related
            rfl
          have named : isServiceName serviceName = true := by
            have known := (Bool.and_eq_true_iff.mp accepted).2
            rw [PostgresRepository.hasService, mirrors.services] at known
            rcases Option.isSome_iff_exists.mp known with ⟨service, found⟩
            exact mirrors.named serviceName service found
          rw [mirrors.drawn] at inserted
          have fresh : ¬ (memory.versions.get (versionKey serviceName version)).isSome = true := by
            rw [show memory.versions.get (versionKey serviceName version) = none from absent]
            exact Bool.false_ne_true
          let record := VersionRecord.inserted (server.interpreter.uuid memory.drawn) now serviceName version semver
            status gitSha imageTag apiVersion minCompatibleVersion checksumSha256 metadata
          have plain : ':' ∉ record.serviceName ∧ ':' ∉ record.version :=
            ⟨colon_not_mem_serviceName named, SemVer.colon_not_mem parsed⟩
          have stored : server.stores record.metadata document := kept
          refine .inr ⟨record, _, _, _, if_neg fresh, rfl, ⟨document, stored, ?_⟩,
            mirrors.insertVersion stored plain rfl inserted⟩
          rw [mirrors.drawn]
          rfl
        · exact .inl rfl
      · exact .inl rfl

/-- A version in both is changed in both. -/
theorem Mirrors.changeVersion {memory : InMemoryRepository} {postgres : PostgresRepository}
    (mirrors : Mirrors server memory postgres) {serviceName version : Text} {record : VersionRecord} {document : Text}
    {change : VersionRecord -> VersionRecord} (keeps : forall record, (change record).key = record.key)
    (sameId : (change record).versionId = record.versionId) (found : memory.getVersion serviceName version = some record)
    (stored : server.stores (change record).metadata document)
    (row : postgres.versions.find (serviceName, version) = some (record.withMetadata document))
    (commutes : change (record.withMetadata document) = (change record).withMetadata document)
    (keepsRow : forall row : VersionRecord,
      (if row.key = (serviceName, version) then change row else row).key = row.key) :
    Mirrors server { memory with versions := memory.versions.set (versionKey serviceName version) (change record) }
      { postgres with
        versions := postgres.versions.update
          (fun row => if row.key = (serviceName, version) then change row else row) keepsRow } := by
  have own : (change record).key = (serviceName, version) := (keeps record).trans (Table.mem_of_find row).2
  rcases Prod.mk.inj own with ⟨ownName, ownText⟩
  have plain := mirrors.plain serviceName version record found
  have identified := mirrors.identified serviceName version record found
  rw [← ownName, ← ownText] at plain
  rw [← sameId] at identified
  have changed : forall key, (postgres.versions.update _ keepsRow).find key =
      if (change record).key = key then some ((change record).withMetadata document) else postgres.versions.find key := by
    intro key
    have found := PostgresRepository.find_changed row (keeps _) keepsRow key
    rw [commutes] at found
    exact found
  have set := mirrors.setVersion stored plain identified changed
  rw [ownName, ownText] at set
  exact set

/-- The update in memory, answering what has become of the version, if it is there. -/
def changeInMemory (serviceName version : Text) (change : VersionRecord -> VersionRecord) :
    Repository (Option VersionRecord) := fun memory =>
  match memory.getVersion serviceName version with
  | none => .ok none memory
  | some record =>
      .ok (some (change record))
        { memory with versions := memory.versions.set (versionKey serviceName version) (change record) }

theorem updateVersion_eq_bind (serviceName version : Text) (change : VersionRecord -> VersionRecord) :
    InMemoryRepository.updateVersion serviceName version change =
      changeInMemory serviceName version change >>= fun changed =>
        match changed with
        | none => throw (.notFound ("version not found: ".toList ++ version))
        | some record => pure record := by
  funext memory
  cases found : memory.versions.get (versionKey serviceName version) with
  | none =>
      have changed : changeInMemory serviceName version change memory = .ok none memory := by
        rw [changeInMemory, InMemoryRepository.getVersion, found]
      rw [Run.bind_run_of_ok changed, InMemoryRepository.updateVersion, found]
      rfl
  | some record =>
      have changed : changeInMemory serviceName version change memory = .ok (some (change record))
          { memory with versions := memory.versions.set (versionKey serviceName version) (change record) } := by
        rw [changeInMemory, InMemoryRepository.getVersion, found]
      rw [Run.bind_run_of_ok changed, InMemoryRepository.updateVersion, found]
      rfl

theorem corresponds_updateVersion (parameters : List Text) (serviceName version : Text)
    {change : VersionRecord -> VersionRecord} (keeps : forall record, (change record).key = record.key)
    (sameId : forall record, (change record).versionId = record.versionId)
    (sameMetadata : forall record, (change record).metadata = record.metadata)
    (commutes : forall document record,
      change (VersionRecord.withMetadata document record) = (change record).withMetadata document) :
    Corresponds (mirroring server) (VersionRecord.StoredAs server.stores)
      (InMemoryRepository.updateVersion serviceName version change)
      (PostgresRepository.changeVersion server parameters serviceName version change keeps >>=
        PostgresRepository.returned version) := by
  rw [updateVersion_eq_bind]
  apply @Corresponds.bind _ _ _ _ _ _ _ _ _ (Option.Rel (VersionRecord.StoredAs server.stores))
  · apply corresponds_statement
    intro memory postgres mirrors
    have related := mirrors.versions serviceName version
    rw [changeInMemory]
    split
    · cases row : postgres.versions.find (serviceName, version) with
      | none =>
          rw [row] at related
          generalize found : memory.getVersion serviceName version = held at related
          cases related
          exact .inr ⟨none, memory, none, postgres, rfl, rfl, Option.Rel.none, mirrors⟩
      | some kept =>
          rw [row] at related
          generalize found : memory.getVersion serviceName version = held at related
          cases related with
          | @some record _ same =>
              rcases same with ⟨document, stored, rfl⟩
              have stored' : server.stores (change record).metadata document := sameMetadata record ▸ stored
              dsimp only
              split
              · refine .inr ⟨some (change record), _, _, _, rfl, rfl, ?_,
                  mirrors.changeVersion keeps (sameId record) found stored' row (commutes document record) _⟩
                exact Option.Rel.some ⟨document, stored', commutes document record⟩
              · exact .inl rfl
    · exact .inl rfl
  · intro changed changed' same
    cases same with
    | none => exact corresponds_raises _ _
    | some same => exact Corresponds.pure same

/-! ## Events -/

theorem corresponds_insertEvent (now : Int) (versionId : Text) (eventType : EventType) (actor reason : Text)
    (details : List (Text × Text)) :
    Corresponds (mirroring server) Eq
      (InMemoryRepository.insertEvent server.interpreter now versionId eventType actor reason details)
      (PostgresRepository.insertEvent server now versionId eventType actor reason details) := by
  apply corresponds_statement
  intro memory postgres mirrors
  dsimp only
  split
  · refine .inr ⟨_, _, _, _, rfl, rfl, rfl, { mirrors.draw with events := ?_ }⟩
    rw [mirrors.events, mirrors.drawn]
  · exact .inl rfl

/-! ## Dependencies -/

/-- The rows that `set_dependencies` inserts. -/
def dependencyRows (versionId : Text) (dependencies : List DependencyRecord) : List DependencyRow :=
  dependencies.map fun dependency =>
    { versionId := versionId, dependsOnServiceName := dependency.serviceName, minVersion := dependency.minVersion }

/-- The connection later on, when the dependencies have been written. -/
def withDependencies (connection : Database.Connection PostgresRepository) (table : Table DependencyRow.key)
    (link : Database.Link) : Database.Connection PostgresRepository where
  store := { connection.store with dependencies := table }
  link := link

/-- A program that does not give up has changed the dependencies only, to rows that are
known, and something held when it began. -/
def Rewrites (program : Postgres Unit) (connection : Database.Connection PostgresRepository) (held : Prop)
    (rows : List DependencyRow) : Prop :=
  (Exists fun failure => Exists fun after => program connection = .error failure after ∧ GaveUp failure) ∨
    Exists fun table => Exists fun link =>
      program connection = .ok () (withDependencies connection table link) ∧ table.rows = rows ∧ held

theorem statement_rewrites {effect : PostgresRepository -> Except PostgresFailure Unit × PostgresRepository}
    {connection : Database.Connection PostgresRepository} {held : Prop} {rows : List DependencyRow}
    (serves : effect connection.store = PostgresRepository.refuse connection.store ∨
      Exists fun table => effect connection.store = (.ok (), { connection.store with dependencies := table }) ∧
        table.rows = rows ∧ held) :
    Rewrites (Database.statement effect) connection held rows := by
  dsimp only [Rewrites, Database.statement]
  cases connection.link.next with
  | none => exact .inl ⟨_, _, rfl, .inl rfl⟩
  | some link =>
      dsimp only
      rcases serves with refused | ⟨table, served, same⟩
      · rw [refused]
        exact .inl ⟨_, _, rfl, .inr rfl⟩
      · rw [served]
        exact .inr ⟨table, link, rfl, same⟩

theorem deleteDependencies_rewrites (versionId : Text) (connection : Database.Connection PostgresRepository) :
    Rewrites (PostgresRepository.deleteDependencies versionId) connection True
      (connection.store.dependencies.rows.filter fun row => decide (row.versionId ≠ versionId)) :=
  statement_rewrites (.inr ⟨_, rfl, rfl, trivial⟩)

theorem insertDependency_rewrites (row : DependencyRow) (connection : Database.Connection PostgresRepository) :
    Rewrites (PostgresRepository.insertDependency row) connection
      (connection.store.hasVersion row.versionId = true) (connection.store.dependencies.rows ++ [row]) := by
  apply statement_rewrites
  split
  · rename_i accepted
    simp only [Bool.and_eq_true] at accepted
    cases inserted : connection.store.dependencies.insert row with
    | none => exact .inl rfl
    | some table => exact .inr ⟨table, rfl, Table.rows_of_insert inserted, accepted.1.2⟩
  · exact .inl rfl

theorem Rewrites.bind {first rest : Postgres Unit} {connection : Database.Connection PostgresRepository}
    {held held' : Prop} {between rows : List DependencyRow} (begins : Rewrites first connection held between)
    (continues : forall table link, table.rows = between ->
      Rewrites rest (withDependencies connection table link) held' rows) :
    Rewrites (first >>= fun _ => rest) connection (held ∧ held') rows := by
  rcases begins with ⟨failure, after, ran, lost⟩ | ⟨table, link, ran, same, held⟩
  · refine .inl ⟨failure, after, ?_, lost⟩
    change EStateM.bind first (fun _ => rest) connection = .error failure after
    unfold EStateM.bind
    rw [ran]
  · unfold Rewrites
    rw [Run.bind_run_of_ok ran]
    rcases continues table link same with lost | ⟨table', link', ran', same', held'⟩
    · exact .inl lost
    · exact .inr ⟨table', link', ran', same', held, held'⟩

/-- A list that is not empty is inserted for a version that is there. -/
theorem insertDependencies_rewrites (versionId : Text) (dependencies : List DependencyRecord)
    (connection : Database.Connection PostgresRepository) :
    Rewrites (PostgresRepository.insertDependencies versionId dependencies) connection
      (dependencies ≠ [] -> connection.store.hasVersion versionId = true)
      (connection.store.dependencies.rows ++ dependencyRows versionId dependencies) := by
  induction dependencies generalizing connection with
  | nil =>
      exact .inr ⟨connection.store.dependencies, connection.link, rfl, (List.append_nil _).symm, fun none =>
        absurd rfl none⟩
  | cons dependency dependencies ih =>
      let row : DependencyRow :=
        { versionId := versionId, dependsOnServiceName := dependency.serviceName, minVersion := dependency.minVersion }
      have continues : forall table link, table.rows = connection.store.dependencies.rows ++ [row] ->
          Rewrites (PostgresRepository.insertDependencies versionId dependencies) (withDependencies connection table link)
            (dependencies ≠ [] -> connection.store.hasVersion versionId = true)
            (connection.store.dependencies.rows ++ dependencyRows versionId (dependency :: dependencies)) := by
        intro table link same
        have later := ih (withDependencies connection table link)
        rw [show (withDependencies connection table link).store.dependencies.rows = _ from same, List.append_assoc]
          at later
        exact later
      have inserted := Rewrites.bind (insertDependency_rewrites row connection) continues
      rcases inserted with lost | ⟨table, link, ran, same, held, _⟩
      · exact .inl lost
      · exact .inr ⟨table, link, ran, same, fun _ => held⟩

theorem records_of_dependencyRows (versionId other : Text) (dependencies : List DependencyRecord) :
    ((dependencyRows versionId dependencies).filter fun row => decide (row.versionId = other)).map
      DependencyRow.record = if versionId = other then dependencies else [] := by
  unfold dependencyRows
  induction dependencies with
  | nil => rw [ite_self]; rfl
  | cons dependency dependencies ih =>
      by_cases same : versionId = other
      · rw [if_pos same] at ih
        rw [if_pos same]
        refine Eq.trans (congrArg _ (List.filter_cons_of_pos (decide_eq_true ?_))) ?_
        · exact same
        · rw [List.map_cons, ih]
          rfl
      · rw [if_neg same] at ih
        rw [if_neg same]
        refine Eq.trans (congrArg _ (List.filter_cons_of_neg fun listed => ?_)) ih
        exact same (of_decide_eq_true listed)

/-- What the tables hold for a version once its dependencies have been replaced. -/
theorem dependenciesOf_replaced (postgres : PostgresRepository) (versionId : Text)
    (dependencies : List DependencyRecord) {table : Table DependencyRow.key}
    (rows : table.rows = (postgres.dependencies.rows.filter fun row => decide (row.versionId ≠ versionId)) ++
      dependencyRows versionId dependencies) (other : Text) :
    PostgresRepository.dependenciesOf { postgres with dependencies := table } other =
      if versionId = other then dependencies else postgres.dependenciesOf other := by
  unfold PostgresRepository.dependenciesOf
  rw [rows, List.filter_append, List.map_append, records_of_dependencyRows, List.filter_filter]
  by_cases same : versionId = other
  · rw [if_pos same, if_pos same]
    have none : (postgres.dependencies.rows.filter fun row =>
        decide (row.versionId = other) && decide (row.versionId ≠ versionId)) = [] := by
      rw [List.filter_eq_nil_iff]
      intro row _ listed
      rw [Bool.and_eq_true, decide_eq_true_iff, decide_eq_true_iff] at listed
      exact listed.2 (listed.1.trans same.symm)
    rw [none]
    rfl
  · rw [if_neg same, if_neg same, List.append_nil]
    congr 1
    apply List.filter_congr
    intro row _
    by_cases own : row.versionId = other
    · have apart : row.versionId ≠ versionId := fun old => same (old.symm.trans own)
      rw [decide_eq_true own, decide_eq_true apart]
      rfl
    · rw [decide_eq_false own]
      rfl

/-- A version that the tables know has an identifier that was drawn. -/
theorem Mirrors.identified_of_hasVersion {memory : InMemoryRepository} {postgres : PostgresRepository}
    (mirrors : Mirrors server memory postgres) {versionId : Text} (known : postgres.hasVersion versionId = true) :
    Exists fun n => n < memory.drawn ∧ versionId = server.interpreter.uuid n := by
  rcases List.any_eq_true.mp known with ⟨row, member, own⟩
  have related := mirrors.versions row.serviceName row.version
  have found : postgres.versions.find (row.serviceName, row.version) = some row := Table.find_of_mem member
  rw [found] at related
  generalize held : memory.getVersion row.serviceName row.version = stored at related
  cases related with
  | some same =>
      rcases same with ⟨document, _, rfl⟩
      rcases mirrors.identified _ _ _ held with ⟨n, small, drawn⟩
      exact ⟨n, small, (of_decide_eq_true own).symm.trans drawn⟩

theorem corresponds_setDependencies (versionId : Text) (dependencies : List DependencyRecord) :
    Corresponds (mirroring server) Eq (InMemoryRepository.setDependencies versionId dependencies)
      (PostgresRepository.setDependencies versionId dependencies) := by
  intro memory connection mirrors
  have continues : forall table link,
      table.rows = connection.store.dependencies.rows.filter (fun row => decide (row.versionId ≠ versionId)) ->
      Rewrites (PostgresRepository.insertDependencies versionId dependencies) (withDependencies connection table link)
        (dependencies ≠ [] -> connection.store.hasVersion versionId = true)
        ((connection.store.dependencies.rows.filter fun row => decide (row.versionId ≠ versionId)) ++
          dependencyRows versionId dependencies) := by
    intro table link same
    have inserted := insertDependencies_rewrites versionId dependencies (withDependencies connection table link)
    rw [show (withDependencies connection table link).store.dependencies.rows = _ from same] at inserted
    exact inserted
  have replaced := Rewrites.bind (deleteDependencies_rewrites versionId connection) continues
  dsimp only [PostgresRepository.setDependencies, Database.transaction]
  rcases replaced with ⟨failure, after, ran, lost⟩ | ⟨table, link, ran, rows, _, known⟩
  · rw [ran]
    exact Outcome.gaveUp lost
  · rw [ran]
    dsimp only
    cases (withDependencies connection table link).link.next with
    | none => exact Outcome.gaveUp (.inl rfl)
    | some next =>
        have replaced := dependenciesOf_replaced connection.store versionId dependencies rows
        have mirrors' : Mirrors server memory connection.store := mirrors
        have set := mirrors'.setDependencies versionId (fun listed => mirrors'.identified_of_hasVersion (known listed))
          replaced
        exact Outcome.returned rfl set

end Methods

/-! ## The services -/

/-- The methods of the two repositories correspond. -/
theorem methods_correspond (server : PostgresServer) :
    VersionStore.Correspond server.stores (mirroring server) server.interpreter
      (VersionStore.inMemory server.interpreter) (VersionStore.postgres server) where
  raises := fun answers failure => corresponds_raises answers failure
  upsertService := corresponds_upsertService
  getService := corresponds_getService
  getVersion := corresponds_getVersion
  getDependencies := corresponds_getDependencies
  insertVersion := corresponds_insertVersion
  setDependencies := corresponds_setDependencies
  updateVersionRelease := fun now serviceName version gitSha imageTag checksumSha256 =>
    @corresponds_updateVersion _ [gitSha, imageTag, checksumSha256] serviceName version
      (VersionRecord.release now gitSha imageTag checksumSha256) (fun _ => rfl) (fun _ => rfl) (fun _ => rfl)
      fun _ _ => rfl
  updateVersionStatus := fun now serviceName version status =>
    @corresponds_updateVersion _ [] serviceName version (VersionRecord.moveTo now status) (fun _ => rfl) (fun _ => rfl)
      (fun _ => rfl) fun _ _ => rfl
  insertEvent := corresponds_insertEvent

/-- What the service answers over the tables. -/
def VersioningRequest.postgres (server : PostgresServer) (request : VersioningRequest) : Postgres VersioningReply :=
  (VersionStore.postgres server).answer server.interpreter request

theorem requests_correspond (server : PostgresServer) (requests : List VersioningRequest) :
    List.Forall₂ (Corresponds (mirroring server) (VersioningReply.SameAs server.stores))
      (requests.map (VersioningRequest.inMemory server.interpreter))
      (requests.map (VersioningRequest.postgres server)) := by
  induction requests with
  | nil => exact List.Forall₂.nil
  | cons request requests ih =>
      refine List.Forall₂.cons ?_ ih
      rw [← VersionStore.inMemory_answer]
      exact (methods_correspond server).answer request

/-- For every list of requests to a service that has just been started: as long as no
statement is refused and the connection is not lost, the service over PostgreSQL
answers each request as the one over the repository in memory does (the same error, or
the same record, with the metadata as its column keeps it and the dependencies in any
order), and the tables mirror the dictionaries. -/
theorem postgres_answers_like_memory (server : PostgresServer) (link : Database.Link)
    (requests : List VersioningRequest)
    (served : forall failure,
      Except.error failure ∈ replies (requests.map (VersioningRequest.postgres server))
        { store := PostgresRepository.empty, link := link } -> ¬ GaveUp failure) :
    List.Forall₂ (Alike (mirroring server) (VersioningReply.SameAs server.stores))
        (replies (requests.map (VersioningRequest.inMemory server.interpreter)) InMemoryRepository.empty)
        (replies (requests.map (VersioningRequest.postgres server))
          { store := PostgresRepository.empty, link := link }) ∧
      Mirrors server (left (requests.map (VersioningRequest.inMemory server.interpreter)) InMemoryRepository.empty)
        (left (requests.map (VersioningRequest.postgres server))
          { store := PostgresRepository.empty, link := link }).store :=
  replies_alike (requests_correspond server requests) Mirrors.empty served

/-! ## One service -/

namespace Scenario

/-- A server that keeps documents as they come. -/
def server : PostgresServer where
  interpreter := interpreter
  jsonb := some
  indexed := fun version => decide (version.length ≤ 2000)
  collates := fun first second => !decide (second < first)

theorem longEnough : 5 ≤ "1.0.0".toList.length := by
  decide

/-- A version is created, created again, released and read. -/
def requests : List VersioningRequest :=
  [.call registration, .call (creation "1.0.0".toList longEnough), .call (creation "1.0.0".toList longEnough),
    .call (.releaseVersion { updatedAt := 2, occurredAt := 2 } "api".toList "1.0.0".toList "abcdef0".toList
      "api:1".toList (List.replicate 64 'a') "ada".toList []),
    .getVersion "api".toList "1.0.0".toList]

/-- An answer that was not given up. -/
def isServed : Except (Database.Failure PostgresFailure) VersioningReply -> Bool
  | .error .connectionLost => false
  | .error (.raised .refused) => false
  | _ => true

theorem not_gaveUp_of_isServed {failure : Database.Failure PostgresFailure} (served : isServed (.error failure) = true) :
    ¬ GaveUp failure := by
  rintro (rfl | rfl)
  · cases served
  · cases served

end Scenario

theorem a_release_is_answered_alike :
    List.Forall₂ (Alike (mirroring Scenario.server) (VersioningReply.SameAs Scenario.server.stores))
        (replies (Scenario.requests.map (VersioningRequest.inMemory Scenario.server.interpreter))
          InMemoryRepository.empty)
        (replies (Scenario.requests.map (VersioningRequest.postgres Scenario.server))
          { store := PostgresRepository.empty, link := .steady }) ∧
      Mirrors Scenario.server
        (left (Scenario.requests.map (VersioningRequest.inMemory Scenario.server.interpreter)) InMemoryRepository.empty)
        (left (Scenario.requests.map (VersioningRequest.postgres Scenario.server))
          { store := PostgresRepository.empty, link := .steady }).store := by
  have served : (replies (Scenario.requests.map (VersioningRequest.postgres Scenario.server))
      { store := PostgresRepository.empty, link := .steady }).all Scenario.isServed = true := by decide +kernel
  exact postgres_answers_like_memory Scenario.server .steady Scenario.requests fun failure member =>
    Scenario.not_gaveUp_of_isServed (List.all_eq_true.mp served _ member)

end Versioning
end ApexQuant
