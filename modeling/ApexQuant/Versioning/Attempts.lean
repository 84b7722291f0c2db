import ApexQuant.Versioning.Postgres

namespace ApexQuant
namespace Versioning

open Foundation

/-!
# Calls that are broken off

Over PostgreSQL a call of the service writes with several statements: the version, its
dependencies, its event.  A statement may be refused or lost, and then the call raises
between them.

What a call can have done to the versions and their events is said once, in `Attempted`:
nothing, or the version alone, or the version and its event.  What is known of the
tables after every history is derived from that.
-/

/-- The versions, their events, and how many identifiers have been drawn. -/
structure VersionLog where
  versions : Table VersionRecord.key
  events : List EventRecord
  drawn : Nat

namespace VersionLog

/-- The types of the events of a version, the oldest first. -/
def eventTypes (log : VersionLog) (versionId : Text) : List EventType :=
  (log.events.filter fun event => decide (event.versionId = versionId)).map EventRecord.eventType

end VersionLog

def PostgresRepository.log (repository : PostgresRepository) : VersionLog where
  versions := repository.versions
  events := repository.events
  drawn := repository.drawn

/-! ## What a call can do -/

/-- Where the version that a call writes comes from: it is new, or the call moves it on. -/
inductive Origin (server : PostgresServer) (before after : VersionLog) (record : VersionRecord) (eventType : EventType) :
    Prop where
  | created (created : eventType = .versionCreated) (absent : before.versions.find record.key = none)
      (parsed : SemVer.parse server.interpreter.digits record.version = .ok record.semver)
      (draft : record.status = .draft) (dated : record.Dated)
      (identified : record.versionId = server.interpreter.uuid before.drawn) (drawn : before.drawn < after.drawn)
  | moved (old : VersionRecord) (found : before.versions.find record.key = some old)
      (sameId : record.versionId = old.versionId) (sameSemver : record.semver = old.semver)
      (history : record.status.history = old.status.history ++ [eventType]) (dated : old.Dated -> record.Dated)
      (stable : old.status = .draft -> Exists fun semver =>
        SemVer.parse server.interpreter.digits record.version = .ok semver ∧ semver.isStable = true)
      (released : record.status ≠ .draft) (artifact : old.status ≠ .draft -> record.artifact = old.artifact)

/-- A version has been written for a call, and its event has not. -/
structure Written (server : PostgresServer) (call : VersioningCall) (before after : VersionLog) (record : VersionRecord)
    (eventType : EventType) : Prop where
  effect : call.effect = some (record.key, eventType)
  origin : Origin server before after record eventType
  versions : forall key,
    after.versions.find key = if record.key = key then some record else before.versions.find key
  events : after.events = before.events
  drawn : before.drawn ≤ after.drawn

/-- The event of a version has been written. -/
structure Logged (before after : VersionLog) (record : VersionRecord) (eventType : EventType) : Prop where
  versions : after.versions = before.versions
  events : Exists fun event =>
    after.events = before.events ++ [event] ∧ event.versionId = record.versionId ∧ event.eventType = eventType
  drawn : before.drawn ≤ after.drawn

/-- What a call has done, whether it has returned or raised. -/
inductive Attempted (server : PostgresServer) (call : VersioningCall) (before after : VersionLog) (returned : Bool) :
    Prop where
  | untouched (same : after = before) (noEffect : returned = true -> call.effect = none)
  | unlogged (record : VersionRecord) (eventType : EventType)
      (written : Written server call before after record eventType) (raised : returned = false)
  | logged (between : VersionLog) (record : VersionRecord) (eventType : EventType)
      (written : Written server call before between record eventType) (logged : Logged between after record eventType)

namespace VersionLog

/-! ## What is known of the tables -/

variable {server : PostgresServer}

/-- What is known of a version, its events and the calls on it that have returned. -/
structure Accounts (server : PostgresServer) (log : VersionLog) (returned : List VersioningCall)
    (record : VersionRecord) : Prop where
  parsed : SemVer.parse server.interpreter.digits record.version = .ok record.semver
  stable : record.status ≠ .draft -> record.semver.isStable = true
  dated : record.Dated
  logged : (log.eventTypes record.versionId).Sublist record.status.history
  answered : (effectsOn record.serviceName record.version returned).Sublist (log.eventTypes record.versionId)
  identified : Exists fun n => n < log.drawn ∧ record.versionId = server.interpreter.uuid n

structure Sound (server : PostgresServer) (log : VersionLog) (returned : List VersioningCall) : Prop where
  versions : forall key record, log.versions.find key = some record -> log.Accounts server returned record
  distinct : forall key key' record other, log.versions.find key = some record -> log.versions.find key' = some other ->
    record.versionId = other.versionId -> key = key'
  events : forall event, event ∈ log.events ->
    Exists fun n => n < log.drawn ∧ event.versionId = server.interpreter.uuid n
  absent : forall serviceName version, log.versions.find (serviceName, version) = none ->
    effectsOn serviceName version returned = []

theorem effectOn_of_key_ne {call : VersioningCall} {key : Text × Text} {eventType : EventType}
    (effect : call.effect = some (key, eventType)) {serviceName version : Text} (apart : key ≠ (serviceName, version)) :
    call.effectOn serviceName version = none := by
  rw [VersioningCall.effectOn, effect, Option.bind_some, if_neg apart]

theorem effectsOn_of_key_ne {call : VersioningCall} {key : Text × Text} {eventType : EventType}
    (effect : call.effect = some (key, eventType)) {serviceName version : Text} (apart : key ≠ (serviceName, version))
    (returned : List VersioningCall) :
    effectsOn serviceName version (returned ++ [call]) = effectsOn serviceName version returned := by
  rw [effectsOn_concat, effectOn_of_key_ne effect apart]
  exact List.append_nil _

theorem effectsOn_of_noEffect {call : VersioningCall} (noEffect : call.effect = none) (serviceName version : Text)
    (returned : List VersioningCall) :
    effectsOn serviceName version (returned ++ [call]) = effectsOn serviceName version returned := by
  rw [effectsOn_concat, effectOn_none noEffect]
  exact List.append_nil _

/-- A call without an effect that returns changes nothing of what is known. -/
theorem Sound.noEffect {log : VersionLog} {returned : List VersioningCall} (sound : log.Sound server returned)
    {call : VersioningCall} (noEffect : call.effect = none) : log.Sound server (returned ++ [call]) := by
  refine { sound with versions := ?_, absent := ?_ }
  · intro key record found
    refine { sound.versions key record found with answered := ?_ }
    rw [effectsOn_of_noEffect noEffect]
    exact (sound.versions key record found).answered
  · intro serviceName version missing
    rw [effectsOn_of_noEffect noEffect]
    exact sound.absent serviceName version missing

/-- A version that is left alone keeps its account while events of others are added. -/
theorem Accounts.keep {log after : VersionLog} {returned returned' : List VersioningCall} {record : VersionRecord}
    (accounts : log.Accounts server returned record)
    (events : after.eventTypes record.versionId = log.eventTypes record.versionId)
    (answered : effectsOn record.serviceName record.version returned' =
      effectsOn record.serviceName record.version returned)
    (drawn : log.drawn ≤ after.drawn) : after.Accounts server returned' record := by
  refine { accounts with logged := ?_, answered := ?_, identified := ?_ }
  · rw [events]
    exact accounts.logged
  · rw [events, answered]
    exact accounts.answered
  · rcases accounts.identified with ⟨n, small, same⟩
    exact ⟨n, Nat.lt_of_lt_of_le small drawn, same⟩

/-- An identifier that has not been drawn belongs to no version. -/
theorem Sound.ne_of_fresh {log : VersionLog} {returned : List VersioningCall} (sound : log.Sound server returned)
    {key : Text × Text} {record : VersionRecord} (found : log.versions.find key = some record) :
    record.versionId ≠ server.interpreter.uuid log.drawn := by
  intro same
  rcases (sound.versions key record found).identified with ⟨n, small, own⟩
  exact absurd (server.interpreter.uuid_injective (own.symm.trans same)) (Nat.ne_of_lt small)

theorem Sound.no_events_of_fresh {log : VersionLog} {returned : List VersioningCall}
    (sound : log.Sound server returned) : log.eventTypes (server.interpreter.uuid log.drawn) = [] := by
  unfold eventTypes
  rw [List.map_eq_nil_iff, List.filter_eq_nil_iff]
  intro event member same
  rcases sound.events event member with ⟨n, small, own⟩
  have drawn := server.interpreter.uuid_injective (own.symm.trans (of_decide_eq_true same))
  exact absurd drawn (Nat.ne_of_lt small)

/-- The version that a call has written has its account, with room for its event. -/
theorem Sound.account {before after : VersionLog} {returned : List VersioningCall} (sound : before.Sound server returned)
    {call : VersioningCall} {record : VersionRecord} {eventType : EventType}
    (written : Written server call before after record eventType) :
    after.Accounts server returned record ∧
      (after.eventTypes record.versionId ++ [eventType]).Sublist record.status.history := by
  have events : after.eventTypes record.versionId = before.eventTypes record.versionId := by
    rw [eventTypes, written.events]
    rfl
  rw [events]
  cases written.origin with
  | created created absent parsed draft dated identified drawn =>
      have none : before.eventTypes record.versionId = [] := identified ▸ sound.no_events_of_fresh
      rw [none, draft, created]
      refine ⟨⟨parsed, fun released => absurd draft released, dated, ?_, ?_, ⟨_, drawn, identified⟩⟩,
        List.Sublist.refl _⟩
      · rw [events, none]
        exact List.nil_sublist _
      · rw [sound.absent _ _ absent]
        exact List.nil_sublist _
  | moved old found sameId sameSemver history dated stable released artifact =>
      have accounts := sound.versions _ old found
      rcases Prod.mk.inj (Table.mem_of_find found).2 with ⟨sameName, sameText⟩
      have parsed : SemVer.parse server.interpreter.digits record.version = .ok record.semver := by
        rw [← sameText, sameSemver]
        exact accounts.parsed
      rw [history, sameId]
      refine ⟨⟨parsed, ?_, dated accounts.dated, ?_, ?_, ?_⟩, accounts.logged.append_right _⟩
      · intro _
        by_cases draft : old.status = .draft
        · rcases stable draft with ⟨semver, again, stable⟩
          rw [Except.ok.inj (parsed.symm.trans again)]
          exact stable
        · rw [sameSemver]
          exact accounts.stable draft
      · rw [events, history, sameId]
        exact accounts.logged.trans (List.sublist_append_left _ _)
      · rw [events, ← sameName, ← sameText, sameId]
        exact accounts.answered
      · rcases accounts.identified with ⟨n, small, own⟩
        exact ⟨n, Nat.lt_of_lt_of_le small written.drawn, sameId.trans own⟩

/-- What is known once a version has been written for a call. -/
theorem Sound.written {before after : VersionLog} {returned : List VersioningCall} (sound : before.Sound server returned)
    {call : VersioningCall} {record : VersionRecord} {eventType : EventType}
    (written : Written server call before after record eventType) : after.Sound server returned := by
  have kept : forall key other, before.versions.find key = some other -> after.Accounts server returned other := by
    intro key other found
    refine (sound.versions key other found).keep ?_ rfl written.drawn
    rw [eventTypes, written.events]
    rfl
  have apart : forall key other, before.versions.find key = some other -> record.versionId = other.versionId ->
      record.key = key := by
    intro key other found same
    cases written.origin with
    | created _ _ _ _ _ identified _ => exact absurd (same.symm.trans identified) (sound.ne_of_fresh found)
    | moved old foundOld sameId _ _ _ _ _ _ => exact sound.distinct _ _ _ _ foundOld found (sameId.symm.trans same)
  constructor
  · intro key other found
    rw [written.versions] at found
    split at found
    · rw [← Option.some.inj found]
      exact (sound.account written).1
    · exact kept key other found
  · intro key key' first second found found' same
    rw [written.versions] at found found'
    split at found
    · rename_i here
      rw [← Option.some.inj found] at same
      split at found'
      · rename_i there
        exact here.symm.trans there
      · exact here.symm.trans (apart key' second found' same)
    · split at found'
      · rename_i there
        rw [← Option.some.inj found'] at same
        exact (apart key first found same.symm).symm.trans there
      · exact sound.distinct key key' first second found found' same
  · intro event member
    rw [written.events] at member
    rcases sound.events event member with ⟨n, small, own⟩
    exact ⟨n, Nat.lt_of_lt_of_le small written.drawn, own⟩
  · intro serviceName version missing
    rw [written.versions] at missing
    split at missing
    · cases missing
    · exact sound.absent serviceName version missing

theorem eventTypes_of_logged {before after : VersionLog} {record : VersionRecord} {eventType : EventType}
    (logged : Logged before after record eventType) :
    after.eventTypes record.versionId = before.eventTypes record.versionId ++ [eventType] := by
  rcases logged.events with ⟨event, appended, own, rfl⟩
  simp [eventTypes, appended, own]

theorem eventTypes_of_logged_other {before after : VersionLog} {record : VersionRecord} {eventType : EventType}
    (logged : Logged before after record eventType) {versionId : Text} (apart : record.versionId ≠ versionId) :
    after.eventTypes versionId = before.eventTypes versionId := by
  rcases logged.events with ⟨event, appended, own, -⟩
  simp [eventTypes, appended, own, apart]

/-- What is known once the event of a call has been written, whether the call then returns
or raises. -/
theorem Sound.logged {before between after : VersionLog} {returned returned' : List VersioningCall}
    (sound : before.Sound server returned) {call : VersioningCall} {record : VersionRecord} {eventType : EventType}
    (written : Written server call before between record eventType) (logged : Logged between after record eventType)
    (told : returned' = returned ∨ returned' = returned ++ [call]) : after.Sound server returned' := by
  have middle := sound.written written
  have stored : between.versions.find record.key = some record := by
    rw [written.versions, if_pos rfl]
  have own : after.Accounts server returned' record := by
    rcases sound.account written with ⟨accounts, room⟩
    refine { accounts with logged := ?_, answered := ?_, identified := ?_ }
    · rw [eventTypes_of_logged logged]
      exact room
    · rw [eventTypes_of_logged logged]
      rcases told with rfl | rfl
      · exact accounts.answered.trans (List.sublist_append_left _ _)
      · rw [effectsOn_concat, effectOn_self written.effect]
        exact accounts.answered.append_right _
    · rcases accounts.identified with ⟨n, small, same⟩
      exact ⟨n, Nat.lt_of_lt_of_le small logged.drawn, same⟩
  have alone : forall serviceName version, record.key ≠ (serviceName, version) ->
      effectsOn serviceName version returned' = effectsOn serviceName version returned := by
    intro serviceName version apart
    rcases told with rfl | rfl
    · rfl
    · exact effectsOn_of_key_ne written.effect apart returned
  constructor
  · intro key other found
    rw [logged.versions] at found
    have ownKey := (Table.mem_of_find found).2
    by_cases same : record.key = key
    · rw [← same, stored] at found
      rw [← Option.some.inj found]
      exact own
    · refine (middle.versions key other found).keep ?_ (alone _ _ fun here => same (here.trans ownKey)) logged.drawn
      apply eventTypes_of_logged_other logged
      exact fun sameId => same (middle.distinct _ _ _ _ stored found sameId)
  · intro key key' first second found found'
    rw [logged.versions] at found found'
    exact middle.distinct key key' first second found found'
  · intro event member
    rcases logged.events with ⟨last, appended, sameId, -⟩
    rw [appended] at member
    rcases List.mem_append.mp member with earlier | latest
    · rcases middle.events event earlier with ⟨n, small, drawn⟩
      exact ⟨n, Nat.lt_of_lt_of_le small logged.drawn, drawn⟩
    · rw [List.mem_singleton.mp latest, sameId]
      exact own.identified
  · intro serviceName version missing
    rw [logged.versions] at missing
    have apart : record.key ≠ (serviceName, version) := by
      intro same
      rw [← same, stored] at missing
      cases missing
    rw [alone serviceName version apart]
    exact middle.absent serviceName version missing

/-- One call keeps what is known, however it ends. -/
theorem Sound.attempted {before after : VersionLog} {returned : List VersioningCall}
    (sound : before.Sound server returned) {call : VersioningCall} {ok : Bool}
    (attempted : Attempted server call before after ok) :
    after.Sound server (if ok then returned ++ [call] else returned) := by
  cases attempted with
  | untouched same noEffect =>
      subst same
      cases ok with
      | false => exact sound
      | true => exact sound.noEffect (noEffect rfl)
  | unlogged record eventType written raised =>
      subst raised
      exact sound.written written
  | logged between record eventType written logged =>
      apply sound.logged written logged
      cases ok with
      | false => exact .inl rfl
      | true => exact .inr rfl

/-! ## Released artifacts -/

/-- A version has been released with an artifact. -/
def Released (key : Text × Text) (artifact : Option Text × Option Text × Option Text) (log : VersionLog) : Prop :=
  Exists fun record => log.versions.find key = some record ∧ record.status ≠ .draft ∧ record.artifact = artifact

theorem Released.written {key : Text × Text} {artifact : Option Text × Option Text × Option Text}
    {before after : VersionLog} (released : Released key artifact before) {call : VersioningCall}
    {record : VersionRecord} {eventType : EventType} (written : Written server call before after record eventType) :
    Released key artifact after := by
  rcases released with ⟨old, found, notDraft, same⟩
  by_cases own : record.key = key
  · refine ⟨record, (written.versions key).trans (if_pos own), ?_⟩
    rw [← own] at found
    cases written.origin with
    | created _ absent _ _ _ _ _ =>
        rw [absent] at found
        cases found
    | moved other foundOther _ _ _ _ _ released kept =>
        cases foundOther.symm.trans found
        exact ⟨released, (kept notDraft).trans same⟩
  · exact ⟨old, ((written.versions key).trans (if_neg own)).trans found, notDraft, same⟩

theorem Released.attempted {key : Text × Text} {artifact : Option Text × Option Text × Option Text}
    {before after : VersionLog} (released : Released key artifact before) {call : VersioningCall} {ok : Bool}
    (attempted : Attempted server call before after ok) : Released key artifact after := by
  cases attempted with
  | untouched same _ => exact same ▸ released
  | unlogged record eventType written _ => exact released.written written
  | logged between record eventType written logged =>
      rcases released.written written with ⟨kept, found, rest⟩
      exact ⟨kept, logged.versions ▸ found, rest⟩

end VersionLog

/-! ## The programs -/

open Database (Triple)

section Programs

variable {A B : Type} {server : PostgresServer}

/-- The tables hold these versions and events. -/
def At (log : VersionLog) (store : PostgresRepository) : Prop :=
  store.log = log

/-- A program that leaves the versions and their events alone, and what it answers. -/
def Reads (log : VersionLog) (program : Postgres A) (answers : A -> Prop) : Prop :=
  Triple (At log) program (fun answer store => At log store ∧ answers answer) (At log)

namespace Reads

variable {log : VersionLog} {answers : A -> Prop} {answers' : B -> Prop}

theorem pure {answer : A} (holds : answers answer) : Reads log (Pure.pure answer) answers :=
  Triple.pure fun _ here => ⟨here, holds⟩

theorem raises (failure : Failure) : Reads log (PostgresRepository.raises failure) answers :=
  Triple.throw fun _ here => here

theorem statement {effect : PostgresRepository -> Except PostgresFailure A × PostgresRepository}
    (same : forall store, (effect store).2.log = store.log)
    (holds : forall store answer, store.log = log -> (effect store).1 = .ok answer -> answers answer) :
    Reads log (Database.statement effect) answers :=
  Triple.statement (fun store here answer answered => ⟨(same store).trans here, holds store answer here answered⟩)
    (fun _ here => here) fun store here => (same store).trans here

theorem bind {first : Postgres A} {rest : A -> Postgres B} (begins : Reads log first answers)
    (continues : forall answer, answers answer -> Reads log (rest answer) answers') :
    Reads log (first >>= rest) answers' := by
  apply Triple.bind begins
  intro answer connection held
  exact continues answer held.2 connection held.1

end Reads

section Services

variable (log : VersionLog)

theorem getVersion_reads (serviceName version : Text) :
    Reads log (PostgresRepository.getVersion serviceName version) fun found =>
      found = log.versions.find (serviceName, version) := by
  apply Reads.statement
  · intro store
    split <;> rfl
  · intro store answer here answered
    subst here
    split at answered
    · exact (Except.ok.inj answered).symm
    · cases answered

theorem getService_reads (serviceName : Text) :
    Reads log (PostgresRepository.getService serviceName) fun _ => True := by
  apply Reads.statement
  · intro store
    split <;> rfl
  · exact fun _ _ _ _ => trivial

theorem getDependencies_reads (versionId : Text) :
    Reads log (PostgresRepository.getDependencies server versionId) fun _ => True :=
  Reads.statement (fun _ => rfl) fun _ _ _ _ => trivial

theorem setDependencies_reads (versionId : Text) (dependencies : List DependencyRecord) :
    Reads log (PostgresRepository.setDependencies versionId dependencies) fun _ => True := by
  have inserts : Reads log (PostgresRepository.insertDependencies versionId dependencies) fun _ => True := by
    induction dependencies with
    | nil => exact Reads.pure trivial
    | cons dependency dependencies ih =>
        have insert : forall row, Reads log (PostgresRepository.insertDependency row) fun _ => True := by
          intro row
          apply Reads.statement
          · intro store
            split
            · split <;> rfl
            · rfl
          · exact fun _ _ _ _ => trivial
        exact Reads.bind (insert _) fun _ _ => ih
  have body : forall before, At log before ->
      Triple (fun store => store = before)
        (do
          PostgresRepository.deleteDependencies versionId
          PostgresRepository.insertDependencies versionId dependencies)
        (fun _ after => At log after ∧ True) fun after => At log after := by
    intro before here connection same
    have deletes : Reads log (PostgresRepository.deleteDependencies versionId) fun _ => True :=
      Reads.statement (fun _ => rfl) fun _ _ _ _ => trivial
    subst same
    exact Reads.bind deletes (fun _ _ => inserts) connection here
  apply Triple.transaction body
  · intro before here _ after ended
    exact ⟨ended, ended.1, here⟩
  · exact fun _ here _ _ => here

theorem parseVersion_reads (describe : Text -> Text) (value : Text) :
    Reads log ((VersionStore.postgres server).parseVersion server.interpreter describe value) fun version =>
      SemVer.parse server.interpreter.digits value = .ok version := by
  unfold VersionStore.parseVersion
  cases SemVer.parse server.interpreter.digits value with
  | ok version => exact Reads.pure rfl
  | error error =>
      cases error with
      | invalid value => exact Reads.raises _
      | tooManyDigits => exact Reads.raises _

/-- A version that is read is there with the status that is answered. -/
theorem readVersion_reads (serviceName version : Text) :
    Reads log ((VersionStore.postgres server).readVersion serviceName version) fun current =>
      Exists fun record => log.versions.find (serviceName, version) = some record ∧ current.status = record.status := by
  apply Reads.bind (getVersion_reads log serviceName version)
  intro found same
  cases found with
  | none => exact Reads.raises _
  | some record =>
      apply Reads.bind (getDependencies_reads log record.versionId)
      intro dependencies _
      cases dependencies.mapM readDependency with
      | none => exact Reads.raises _
      | some dependencies => exact Reads.pure ⟨record, same.symm, rfl⟩

theorem dependencyRecords_reads (serviceName : Text) (seen : List Text) (dependencies : List DependencySpec) :
    Reads log ((VersionStore.postgres server).dependencyRecords server.interpreter serviceName seen dependencies)
      fun _ => True := by
  induction dependencies generalizing seen with
  | nil => exact Reads.pure trivial
  | cons dependency dependencies ih =>
      rw [VersionStore.dependencyRecords]
      split
      · exact Reads.raises _
      · split
        · exact Reads.raises _
        · apply Reads.bind (getService_reads log dependency.serviceName)
          intro service _
          cases service with
          | none => exact Reads.raises _
          | some service =>
              apply Reads.bind (parseVersion_reads log _ dependency.minVersion)
              intro _ _
              apply Reads.bind (ih (dependency.serviceName :: seen))
              intro _ _
              exact Reads.pure trivial

theorem checkMinimum_reads (minimum : Option Text) :
    Reads log ((VersionStore.postgres server).checkMinimum server.interpreter minimum) fun _ => True := by
  cases minimum with
  | none => exact Reads.pure trivial
  | some minimum =>
      apply Reads.bind (parseVersion_reads log _ minimum)
      intro _ _
      exact Reads.pure trivial

end Services
/-- A program does what a call can do. -/
def Attempts (server : PostgresServer) (call : VersioningCall) (log : VersionLog) (program : Postgres A) : Prop :=
  Triple (At log) program (fun _ store => Attempted server call log store.log true) fun store =>
    Attempted server call log store.log false

/-- The rest of a program for a call that has written a version. -/
def Finishes (server : PostgresServer) (call : VersioningCall) (log middle : VersionLog) (program : Postgres A) : Prop :=
  Triple (At middle) program (fun _ store => Attempted server call log store.log true) fun store =>
    Attempted server call log store.log false

section Writes

variable {call : VersioningCall} {log middle : VersionLog} {record : VersionRecord} {eventType : EventType}

theorem Attempted.at {store : PostgresRepository} (here : At log store) : Attempted server call log store.log false :=
  Attempted.untouched here fun returned => nomatch returned

theorem Attempts.raises (failure : Failure) : Attempts server call log (PostgresRepository.raises failure : Postgres A) :=
  Triple.throw fun _ here => Attempted.at here

theorem Attempts.read_bind {first : Postgres A} {rest : A -> Postgres B} {answers : A -> Prop}
    (begins : Reads log first answers)
    (continues : forall answer, answers answer -> Attempts server call log (rest answer)) :
    Attempts server call log (first >>= rest) := by
  have reads := Triple.weaken begins (fun _ here => here) (fun _ _ held => held) fun _ here =>
    @Attempted.at server call log _ here
  apply Triple.bind reads
  intro answer connection held
  exact continues answer held.2 connection held.1

/-- The statement that writes the version. -/
theorem Attempts.write_bind {effect : PostgresRepository -> Except PostgresFailure A × PostgresRepository}
    {rest : A -> Postgres B} {answers : A -> VersionRecord -> Prop}
    (serves : forall store, At log store -> effect store = PostgresRepository.refuse store ∨
      Exists fun answer => Exists fun record => Exists fun store' =>
        effect store = (.ok answer, store') ∧ answers answer record ∧
          Written server call log store'.log record eventType)
    (continues : forall answer record middle, answers answer record -> Written server call log middle record eventType ->
      Finishes server call log middle (rest answer)) :
    Attempts server call log (Database.statement effect >>= rest) := by
  have writes : Triple (At log) (Database.statement effect)
      (fun answer store => Exists fun record => answers answer record ∧
        Written server call log store.log record eventType)
      fun store => Attempted server call log store.log false := by
    apply Triple.statement
    · intro store here answer answered
      rcases serves store here with refused | ⟨other, record, store', served, wrote, written⟩
      · rw [refused] at answered
        cases answered
      · rw [served] at answered ⊢
        cases Except.ok.inj answered
        exact ⟨record, wrote, written⟩
    · exact fun store here => Attempted.at here
    · intro store here
      rcases serves store here with refused | ⟨other, record, store', served, wrote, written⟩
      · rw [refused]
        exact Attempted.at here
      · rw [served]
        exact Attempted.unlogged record eventType written rfl
  apply Triple.bind writes
  rintro answer connection ⟨record, wrote, written⟩
  exact continues answer record _ wrote written connection rfl

theorem Finishes.read_bind {first : Postgres A} {rest : A -> Postgres B} {answers : A -> Prop}
    (written : Written server call log middle record eventType) (begins : Reads middle first answers)
    (continues : forall answer, answers answer -> Finishes server call log middle (rest answer)) :
    Finishes server call log middle (first >>= rest) := by
  have reads := Triple.weaken begins (fun _ here => here) (fun _ _ held => held) fun store (here : At middle store) =>
    Attempted.unlogged record eventType (here.symm ▸ written) rfl
  apply Triple.bind reads
  intro answer connection held
  exact continues answer held.2 connection held.1

theorem insertEvent_logs (record : VersionRecord) (now : Int) (eventType : EventType) (actor reason : Text)
    (details : List (Text × Text)) :
    Triple (At middle) (PostgresRepository.insertEvent server now record.versionId eventType actor reason details)
      (fun _ store => Logged middle store.log record eventType)
      fun store => At middle store ∨ Logged middle store.log record eventType := by
  have appends : forall (store : PostgresRepository) (event : EventRecord), At middle store ->
      event.versionId = record.versionId -> event.eventType = eventType ->
        Logged middle { store.log with events := store.events ++ [event], drawn := store.drawn + 1 } record
          eventType := by
    intro store event here own same
    subst here
    exact ⟨rfl, ⟨event, rfl, own, same⟩, Nat.le_succ _⟩
  apply Triple.statement
  · intro store here answer answered
    dsimp only at answered ⊢
    split at answered
    · rename_i accepted
      rw [if_pos accepted]
      exact appends store _ here rfl rfl
    · cases answered
  · exact fun store here => .inl here
  · intro store here
    dsimp only
    split
    · exact .inr (appends store _ here rfl rfl)
    · exact .inl here

/-- The event of a version that has been written, and the answer. -/
theorem Finishes.event (written : Written server call log middle record eventType) (now : Int) (actor reason : Text)
    (details : List (Text × Text)) (serviceName version : Text) :
    Finishes server call log middle (do
      PostgresRepository.insertEvent server now record.versionId eventType actor reason details
      (VersionStore.postgres server).readVersion serviceName version) := by
  have logs := Triple.weaken (@insertEvent_logs server middle record now eventType actor reason details)
    (fun _ here => here) (fun _ _ held => held) fun store (held : At middle store ∨ _) =>
      (held.elim (fun here => Attempted.unlogged record eventType (here.symm ▸ written) rfl) fun logged =>
        Attempted.logged middle record eventType written logged : Attempted server call log store.log false)
  apply Triple.bind logs
  intro _ connection logged
  have answers : Finishes server call log connection.store.log
      ((VersionStore.postgres server).readVersion serviceName version) := by
    refine Triple.weaken (readVersion_reads connection.store.log serviceName version) (fun _ here => here) ?_ ?_
    · intro answer store held
      rw [show store.log = _ from held.1]
      exact Attempted.logged middle record eventType written logged
    · intro store here
      rw [show store.log = _ from here]
      exact Attempted.logged middle record eventType written logged
  exact answers connection rfl

end Writes
end Programs

/-! ## The calls -/

section Calls

variable {server : PostgresServer} (log : VersionLog)

/-- What a version becomes when a call moves it on. -/
structure Moves (server : PostgresServer) (record changed : VersionRecord) (eventType : EventType) : Prop where
  sameKey : changed.key = record.key
  sameId : changed.versionId = record.versionId
  sameSemver : changed.semver = record.semver
  history : changed.status.history = record.status.history ++ [eventType]
  dated : record.Dated -> changed.Dated
  stable : record.status = .draft -> Exists fun semver =>
    SemVer.parse server.interpreter.digits record.version = .ok semver ∧ semver.isStable = true
  released : changed.status ≠ .draft
  artifact : record.status ≠ .draft -> changed.artifact = record.artifact

/-- The UPDATE of a version that moves on. -/
theorem Moves.written {call : VersioningCall} {key : Text × Text} {record : VersionRecord}
    {change : VersionRecord -> VersionRecord} {eventType : EventType}
    (moves : Moves server record (change record) eventType) (effect : call.effect = some (key, eventType))
    (found : log.versions.find key = some record)
    (keepsRow : forall row : VersionRecord, (if row.key = key then change row else row).key = row.key) :
    Written server call log
      { log with versions := log.versions.update (fun row => if row.key = key then change row else row) keepsRow }
      (change record) eventType := by
  have own : (change record).key = key := moves.sameKey.trans (Table.mem_of_find found).2
  have spelled : (change record).version = record.version := (Prod.mk.inj moves.sameKey).2
  constructor
  · rw [own]
    exact effect
  · refine Origin.moved record ?_ moves.sameId moves.sameSemver moves.history moves.dated ?_ moves.released
      moves.artifact
    · rw [own]
      exact found
    · rw [spelled]
      exact moves.stable
  · exact PostgresRepository.find_changed found moves.sameKey keepsRow
  · rfl
  · exact Nat.le_refl _

/-- The end of a call that moves a version on: the update, the event and the answer. -/
theorem Moves.attempts {call : VersioningCall} {serviceName version : Text} {record : VersionRecord}
    {change : VersionRecord -> VersionRecord} {eventType : EventType}
    (moves : Moves server record (change record) eventType)
    (effect : call.effect = some ((serviceName, version), eventType))
    (found : log.versions.find (serviceName, version) = some record)
    (keeps : forall record, (change record).key = record.key) (parameters : List Text) (now : Int)
    (actor reason : Text) (details : List (Text × Text)) :
    Attempts server call log
      ((PostgresRepository.changeVersion server parameters serviceName version change keeps >>=
        PostgresRepository.returned version) >>= fun record => do
          PostgresRepository.insertEvent server now record.versionId eventType actor reason details
          (VersionStore.postgres server).readVersion serviceName version) := by
  rw [bind_assoc]
  apply @Attempts.write_bind _ _ server call log eventType _ _ fun answer changed => answer = some changed
  · intro store here
    subst here
    split
    · rw [show store.versions.find (serviceName, version) = some record from found]
      dsimp only
      split
      · have keepsRow : forall row : VersionRecord,
            (if row.key = (serviceName, version) then change row else row).key = row.key := by
          intro row
          split
          · exact keeps row
          · rfl
        exact .inr ⟨_, change record, _, rfl, rfl, moves.written store.log effect found keepsRow⟩
      · exact .inl rfl
    · exact .inl rfl
  · rintro _ changed middle rfl written
    exact Finishes.event written now actor reason details serviceName version

theorem releaseVersion_attempts (moments : Moments)
    (serviceName version gitSha imageTag checksumSha256 actor reason : Text) :
    Attempts server (.releaseVersion moments serviceName version gitSha imageTag checksumSha256 actor reason) log
      ((VersionStore.postgres server).releaseVersion server.interpreter moments serviceName version gitSha imageTag
        checksumSha256 actor reason) := by
  apply Attempts.read_bind (readVersion_reads log serviceName version)
  rintro current ⟨record, found, status⟩
  split
  · exact Attempts.raises _
  · rename_i passed
    have draft : record.status = .draft := status.symm.trans (not_not.mp passed)
    cases parsed : SemVer.parse server.interpreter.digits version with
    | error error => exact Attempts.raises _
    | ok semver =>
        dsimp only
        split
        · exact Attempts.raises _
        · rename_i stable
          have moves : Moves server record (VersionRecord.release moments.updatedAt gitSha imageTag checksumSha256 record)
              .versionReleased := by
            constructor
            · rfl
            · rfl
            · rfl
            · rw [draft]
              rfl
            · exact fun dated => dated.release draft rfl rfl rfl rfl
            · rw [(Prod.mk.inj (Table.mem_of_find found).2).2]
              exact fun _ => ⟨semver, parsed, Bool.eq_true_of_not_eq_false stable⟩
            · exact nofun
            · exact fun notDraft => absurd draft notDraft
          exact moves.attempts log rfl found (fun _ => rfl) _ _ _ _ _

/-- A call that moves a version from one status to the next, both beyond the draft. -/
theorem moveTo_attempts {call : VersioningCall} {serviceName version : Text} {expected status : LifecycleStatus}
    {eventType : EventType} (effect : call.effect = some ((serviceName, version), eventType))
    (beyond : expected ≠ .draft) (beyond' : status ≠ .draft)
    (history : status.history = expected.history ++ [eventType]) (now : Int)
    (dated : forall record : VersionRecord, record.status = expected -> record.Dated ->
      (VersionRecord.moveTo now status record).Dated) (refusal : ServiceVersion -> Failure) (occurredAt : Int)
    (actor reason : Text) :
    Attempts server call log (do
      let current ← (VersionStore.postgres server).readVersion serviceName version
      if current.status ≠ expected then PostgresRepository.raises (refusal current)
      else do
        let record ← PostgresRepository.updateVersionStatus server now serviceName version status
        PostgresRepository.insertEvent server occurredAt record.versionId eventType actor reason []
        (VersionStore.postgres server).readVersion serviceName version) := by
  apply Attempts.read_bind (readVersion_reads log serviceName version)
  rintro current ⟨record, found, same⟩
  split
  · exact Attempts.raises _
  · rename_i passed
    have here : record.status = expected := same.symm.trans (not_not.mp passed)
    have moves : Moves server record (VersionRecord.moveTo now status record) eventType := by
      constructor
      · rfl
      · rfl
      · rfl
      · rw [here]
        exact history
      · exact dated record here
      · exact fun draft => absurd (here.symm.trans draft) beyond
      · exact beyond'
      · exact fun _ => rfl
    exact moves.attempts log effect found (fun _ => rfl) _ _ _ _ _

/-- The INSERT of a new version. -/
theorem Written.insert {call : VersioningCall} {record : VersionRecord} {versions : Table VersionRecord.key}
    (effect : call.effect = some (record.key, .versionCreated)) (inserted : log.versions.insert record = some versions)
    (parsed : SemVer.parse server.interpreter.digits record.version = .ok record.semver) (draft : record.status = .draft)
    (dated : record.Dated) (identified : record.versionId = server.interpreter.uuid log.drawn) :
    Written server call log { log with versions := versions, drawn := log.drawn + 1 } record .versionCreated := by
  have absent := Table.find_eq_none_of_insert inserted
  refine ⟨effect, Origin.created rfl absent parsed draft dated identified (Nat.lt_succ_self _), ?_, rfl,
    Nat.le_succ _⟩
  intro key
  rw [Table.find_insert inserted]
  by_cases same : record.key = key
  · rw [← same, absent, if_pos rfl]
    rfl
  · rw [if_neg same, if_neg same, Option.or_none]

theorem createVersion_attempts (moments : Moments) (serviceName : Text) (payload : VersionCreate) :
    Attempts server (.createVersion moments serviceName payload) log
      ((VersionStore.postgres server).createVersion server.interpreter moments serviceName payload) := by
  apply Attempts.read_bind (getService_reads log serviceName)
  intro service _
  cases service with
  | none => exact Attempts.raises _
  | some service =>
      apply Attempts.read_bind (parseVersion_reads log _ payload.version)
      intro semver parsed
      apply Attempts.read_bind (checkMinimum_reads log payload.minCompatibleVersion)
      intro _ _
      apply Attempts.read_bind (getVersion_reads log serviceName payload.version)
      intro existing absent
      cases existing with
      | some existing => exact Attempts.raises _
      | none =>
          apply Attempts.read_bind (dependencyRecords_reads log serviceName [] payload.dependencies)
          intro records _
          change Attempts server _ log (PostgresRepository.insertVersion server _ _ _ _ _ _ _ _ _ _ _ >>= _)
          unfold PostgresRepository.insertVersion
          apply @Attempts.write_bind _ _ server _ log .versionCreated _ _ Eq
          · intro store here
            subst here
            cases server.jsonb payload.metadata with
            | none => exact .inl rfl
            | some document =>
                dsimp only
                split
                · split
                  · rename_i versions inserted
                    refine .inr ⟨_, _, _, rfl, rfl, Written.insert store.log rfl inserted parsed rfl ?_ rfl⟩
                    exact VersionRecord.dated_of_draft rfl rfl rfl rfl
                  · exact .inl rfl
                · exact .inl rfl
          · rintro _ record middle rfl written
            apply Finishes.read_bind written (setDependencies_reads middle _ records)
            intro _ _
            exact Finishes.event written _ _ _ _ _ _

/-- What a call does over PostgreSQL, wherever it is broken off. -/
theorem call_attempts (call : VersioningCall) :
    Attempts server call log ((VersionStore.postgres server).answer server.interpreter (.call call)) := by
  have answers : forall (program : Postgres ServiceVersion), Attempts server call log program ->
      Attempts server call log (program >>= fun version => pure (VersioningReply.version version)) := by
    intro program attempts
    apply Triple.bind attempts
    intro version
    exact Triple.pure fun _ attempted => attempted
  cases call with
  | registerService now payload =>
      have upserts : Reads log (PostgresRepository.upsertService now payload.serviceName
          (server.interpreter.upper payload.plane) payload.description) fun _ => True := by
        apply Reads.statement
        · intro store
          split
          · split
            · rfl
            · split <;> rfl
          · rfl
        · exact fun _ _ _ _ => trivial
      apply Attempts.read_bind upserts
      intro record _
      exact Triple.pure fun _ here => Attempted.untouched here fun _ => rfl
  | createVersion moments serviceName payload => exact answers _ (createVersion_attempts log moments serviceName payload)
  | releaseVersion moments serviceName version gitSha imageTag checksumSha256 actor reason =>
      exact answers _
        (releaseVersion_attempts log moments serviceName version gitSha imageTag checksumSha256 actor reason)
  | deprecateVersion moments serviceName version actor reason =>
      apply answers
      apply @moveTo_attempts server log _ _ _ .released .deprecated .versionDeprecated rfl (by simp) (by simp) rfl
      exact fun record released dated => dated.deprecate released rfl rfl rfl rfl
  | retireVersion moments serviceName version actor reason =>
      apply answers
      apply @moveTo_attempts server log _ _ _ .deprecated .retired .versionRetired rfl (by simp) (by simp) rfl
      exact fun record deprecated dated => dated.retire deprecated rfl rfl rfl rfl

end Calls

/-! ## Histories -/

/-- The tables, and the calls that have returned, in their order. -/
structure PostgresHistory where
  repository : PostgresRepository
  returned : List VersioningCall

namespace PostgresHistory

def start : PostgresHistory where
  repository := PostgresRepository.empty
  returned := []

/-- One more call, on a connection that may be lost at any of its statements. -/
def step (server : PostgresServer) (history : PostgresHistory) (attempt : VersioningCall × Database.Link) :
    PostgresHistory :=
  match (VersionStore.postgres server).answer server.interpreter (.call attempt.1)
      { store := history.repository, link := attempt.2 } with
  | .ok _ after => { repository := after.store, returned := history.returned ++ [attempt.1] }
  | .error _ after => { repository := after.store, returned := history.returned }

/-- The history of a sequence of calls. -/
def after (server : PostgresServer) (attempts : List (VersioningCall × Database.Link)) : PostgresHistory :=
  attempts.foldl (step server) start

variable {server : PostgresServer}

/-- What one more call has done. -/
theorem step_cases (history : PostgresHistory) (attempt : VersioningCall × Database.Link) :
    Exists fun ok => Attempted server attempt.1 history.repository.log (history.step server attempt).repository.log ok ∧
      (history.step server attempt).returned = if ok then history.returned ++ [attempt.1] else history.returned := by
  have ended := @call_attempts server history.repository.log attempt.1
    { store := history.repository, link := attempt.2 } rfl
  unfold step
  cases ran : (VersionStore.postgres server).answer server.interpreter (.call attempt.1)
      { store := history.repository, link := attempt.2 } with
  | ok reply after =>
      rw [ran] at ended
      exact ⟨true, ended, rfl⟩
  | error failure after =>
      rw [ran] at ended
      exact ⟨false, ended, rfl⟩

/-- What is known of a history. -/
def Sound (server : PostgresServer) (history : PostgresHistory) : Prop :=
  history.repository.log.Sound server history.returned

theorem Sound.start : Sound server start where
  versions := fun _ _ found => nomatch found
  distinct := fun _ _ _ _ found => nomatch found
  events := fun _ member => nomatch member
  absent := fun _ _ _ => rfl

theorem Sound.step (history : PostgresHistory) (attempt : VersioningCall × Database.Link)
    (sound : Sound server history) : Sound server (history.step server attempt) := by
  rcases step_cases history attempt with ⟨ok, attempted, told⟩
  unfold Sound
  rw [told]
  exact VersionLog.Sound.attempted sound attempted

theorem sound_after (attempts : List (VersioningCall × Database.Link)) : Sound server (after server attempts) :=
  Run.invariant _ Sound.step Sound.start attempts

/-- A released artifact stays. -/
theorem released_step {key : Text × Text} {artifact : Option Text × Option Text × Option Text}
    (history : PostgresHistory) (attempt : VersioningCall × Database.Link)
    (released : VersionLog.Released key artifact history.repository.log) :
    VersionLog.Released key artifact (history.step server attempt).repository.log := by
  rcases step_cases history attempt with ⟨ok, attempted, -⟩
  exact released.attempted attempted

end PostgresHistory

/-- Over every history of calls to the service over PostgreSQL, each on a connection that
may be lost at any statement: the parts of a version are those of its text, beyond its
draft it is stable, its dates are those of its status, its events are among those of the
statuses up to its own in their order, and the events of the calls on it that have
returned are among its events in their order; and what a release has stored is there
after all calls to come. -/
theorem postgres_version_lifecycle (server : PostgresServer) (attempts : List (VersioningCall × Database.Link)) :
    (forall key record, (PostgresHistory.after server attempts).repository.versions.find key = some record ->
      SemVer.parse server.interpreter.digits record.version = .ok record.semver ∧
        (record.status ≠ .draft -> record.semver.isStable = true) ∧ record.Dated ∧
        ((PostgresHistory.after server attempts).repository.log.eventTypes record.versionId).Sublist
          record.status.history ∧
        (effectsOn record.serviceName record.version (PostgresHistory.after server attempts).returned).Sublist
          ((PostgresHistory.after server attempts).repository.log.eventTypes record.versionId)) ∧
      forall key record later, (PostgresHistory.after server attempts).repository.versions.find key = some record ->
        record.status ≠ .draft ->
          Exists fun last =>
            (PostgresHistory.after server (attempts ++ later)).repository.versions.find key = some last ∧
              last.artifact = record.artifact := by
  constructor
  · intro key record found
    have accounts := (PostgresHistory.sound_after attempts).versions key record found
    exact ⟨accounts.parsed, accounts.stable, accounts.dated, accounts.logged, accounts.answered⟩
  · intro key record later found notDraft
    have begins : VersionLog.Released key record.artifact (PostgresHistory.after server attempts).repository.log :=
      ⟨record, found, notDraft, rfl⟩
    have ends := Run.invariant (PostgresHistory.step server) PostgresHistory.released_step begins later
    unfold PostgresHistory.after
    rw [List.foldl_append]
    rcases ends with ⟨last, found', -, same⟩
    exact ⟨last, found', same⟩

end Versioning
end ApexQuant
