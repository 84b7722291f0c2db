import ApexQuant.Foundation.WholeFile
import ApexQuant.Secrets.Ledger
import ApexQuant.Secrets.Policy

namespace ApexQuant
namespace Secrets

open Foundation

/-!
# Two writers of one store

`set-secret` and `rotate-secret` as two processes run them on one file.  A process
loads the store, decides on the copy in memory and writes the copy back as a whole,
through a temporary file beside the store.  Nothing keeps the other process out in
between.  A process whose value or whose audit entry fails takes no further step.
-/

/-- What a process does under the name of its secret. -/
inductive WriteRequest where
  | setSecret (classification : SecretClassification) (description : Text)
  | rotateSecret

/-- A process that writes a secret, with its input and what it draws. -/
structure WriteJob where
  plane : SecretPlane
  name : Text
  value : Text
  request : WriteRequest
  moment : Datetime
  draws : SealDraws

/-- The action that `set-secret` asks the policy for. -/
def actionOfSet (found : Option SecretEntry) : SecretAction :=
  if found.isSome then .rotate else .write

/-- What the process does in memory: its policy check, and the write of the store.
Nothing is left of it when either fails. -/
def WriteJob.modify (job : WriteJob) (payload : SecretStorePayload) : Option (Nat × SecretStorePayload) :=
  match job.request with
  | .setSecret classification description =>
      if (evaluateAccess job.plane classification (actionOfSet (payload.get job.name)) none).allowed then
        (Store.setSecret job.moment job.name job.value classification description payload).toOption.map
          fun written => (written.1.2, written.2)
      else none
  | .rotateSecret =>
      (Store.getMetadata job.name payload).toOption.bind fun metadata =>
        if (evaluateAccess job.plane metadata.classification .rotate none).allowed then
          (Store.rotateSecret job.moment job.name job.value payload).toOption
        else none

/-- The file of the store under two processes. -/
def sharedStore (packages : Packages) (masterSecret : Bytes) (jobs : Writer -> WriteJob) :
    WholeFile SecretStorePayload StoreDocument Nat where
  load := fun document => (Store.load packages masterSecret (some document)).toOption
  modify := fun writer => (jobs writer).modify
  save := fun writer => Store.save packages (jobs writer).draws masterSecret

/-- The file has the value of the process, as the version that the process printed. -/
def Kept (packages : Packages) (masterSecret : Bytes) (file : Option StoreDocument) (job : WriteJob) (version : Nat) :
    Prop :=
  Exists fun payload => Store.load packages masterSecret file = .ok payload ∧
    Store.getSecret job.name payload = .ok job.value ∧
      Exists fun metadata => Store.getMetadata job.name payload = .ok metadata ∧ metadata.currentVersion = version

/-! ## What one write leaves -/

/-- A read of the entry finds the value. -/
def SecretEntry.Answers (entry : SecretEntry) (value : Text) : Prop :=
  Exists fun version => (entry.versions.find? fun version =>
      decide (version.version = entry.currentVersion) && decide (version.status = .active)) = some version ∧
    version.value = value

theorem SecretEntry.write_answers (entry : SecretEntry) (moment : Datetime) (value : Text) :
    (entry.write moment value).Answers value := by
  have skipped : ((entry.versions.map SecretVersion.revoke).find? fun version =>
      decide (version.version = entry.currentVersion + 1) && decide (version.status = .active)) = none := by
    rw [List.find?_eq_none]
    intro version member
    rcases List.mem_map.mp member with ⟨earlier, -, rfl⟩
    rw [SecretEntry.Records.revoke_status]
    simp
  let added : SecretVersion :=
    { version := entry.currentVersion + 1, value := value, status := .active, createdAt := moment,
      positive := Nat.le_add_left 1 _ }
  refine ⟨added, ?_, rfl⟩
  change ((entry.versions.map SecretVersion.revoke ++ [added]).find? fun version =>
    decide (version.version = entry.currentVersion + 1) && decide (version.status = .active)) = some added
  rw [List.find?_append, skipped, Option.none_or, List.find?_singleton]
  exact if_pos (Bool.and_eq_true_iff.mpr ⟨decide_eq_true rfl, decide_eq_true rfl⟩)

/-- The number of the current version under a name, with none for no entry. -/
def SecretStorePayload.current (payload : SecretStorePayload) (name : Text) : Nat :=
  ((payload.get name).map SecretEntry.currentVersion).getD 0

/-- What a write that succeeds does to the payload. -/
structure WriteJob.Effect (job : WriteJob) (before : SecretStorePayload) (version : Nat) (after : SecretStorePayload) :
    Prop where
  valid : matchesSecretName job.name = true
  numbered : version = SecretStorePayload.current before job.name + 1
  stored : Exists fun entry =>
    after = before.set job.name entry ∧ entry.currentVersion = version ∧ entry.Answers job.value

theorem SecretEntry.Answers.of_eq {entry other : SecretEntry} {value : Text} (answers : entry.Answers value)
    (versions : other.versions = entry.versions) (current : other.currentVersion = entry.currentVersion) :
    other.Answers value := by
  unfold Answers
  rw [versions, current]
  exact answers

theorem WriteJob.effect_of_wrote {job : WriteJob} {before after : SecretStorePayload} {version : Nat}
    (wrote : Store.Wrote job.moment job.name job.value before version after) : job.Effect before version after := by
  rcases wrote.stored with ⟨classification, description, entry, shape, versions, current, numbered⟩
  refine ⟨wrote.valid, ?_, entry, shape, numbered, (SecretEntry.write_answers _ _ _).of_eq versions current⟩
  rw [← numbered, current, SecretStorePayload.current]
  cases before.get job.name with
  | none => rfl
  | some old => rfl

theorem WriteJob.effect {job : WriteJob} {before after : SecretStorePayload} {version : Nat}
    (modified : job.modify before = some (version, after)) : job.Effect before version after := by
  apply effect_of_wrote
  cases requested : job.request with
  | setSecret classification description =>
      simp only [modify, requested] at modified
      split at modified
      · rcases Option.map_eq_some_iff.mp modified with ⟨⟨⟨created, number⟩, payload⟩, kept, same⟩
        cases same
        exact Store.wrote_of_setSecret (Run.ok_of_toOption kept)
      · cases modified
  | rotateSecret =>
      simp only [modify, requested] at modified
      rcases Option.bind_eq_some_iff.mp modified with ⟨metadata, -, decided⟩
      split at decided
      · exact Store.wrote_of_rotateSecret (Run.ok_of_toOption decided)
      · cases decided

section Files

variable {packages : Packages} {masterSecret : Bytes} {draws : SealDraws} {job : WriteJob}
  {payload : SecretStorePayload} {version : Nat}

/-- A saved payload keeps a write when it has the entry of the write. -/
theorem kept_of_get (lawful : packages.Lawful) (valid : matchesSecretName job.name = true) {entry : SecretEntry}
    (held : payload.get job.name = some entry) (current : entry.currentVersion = version)
    (answers : entry.Answers job.value) :
    Kept packages masterSecret (some (Store.save packages draws masterSecret payload)) job version := by
  rcases answers with ⟨found, looked, same⟩
  refine ⟨payload, Store.load_save lawful draws masterSecret payload, ?_, Store.metadataOf job.name entry, ?_, current⟩
  · simp only [Store.getSecret, valid, Bool.true_eq_false, if_false, held, looked, same]
  · simp only [Store.getMetadata, valid, Bool.true_eq_false, if_false, held]

/-- A payload in which the name has not moved on keeps no write of it. -/
theorem not_kept_of_current (lawful : packages.Lawful) (behind : SecretStorePayload.current payload job.name < version) :
    ¬ Kept packages masterSecret (some (Store.save packages draws masterSecret payload)) job version := by
  rintro ⟨loaded, loads, -, metadata, described, current⟩
  rw [Store.load_save lawful] at loads
  cases loads
  rw [Store.getMetadata] at described
  split at described
  · cases described
  · cases held : payload.get job.name with
    | none =>
        rw [held] at described
        cases described
    | some entry =>
        rw [held] at described
        cases described
        rw [SecretStorePayload.current, held] at behind
        exact absurd current (Nat.ne_of_lt behind)

end Files

/-! ## Both writes -/

section Races

variable {packages : Packages} {masterSecret : Bytes} {jobs : Writer -> WriteJob}

theorem sharedStore_load_save (lawful : packages.Lawful) (writer : Writer) (payload : SecretStorePayload) :
    (sharedStore packages masterSecret jobs).load ((sharedStore packages masterSecret jobs).save writer payload) =
      some payload := by
  simp only [sharedStore, Store.load_save lawful]
  rfl

theorem names_apart (distinct : (jobs .first).name ≠ (jobs .second).name) (writer : Writer) :
    (jobs writer).name ≠ (jobs writer.other).name := by
  cases writer with
  | first => exact distinct
  | second => exact distinct.symm

end Races

/-- When both processes have exited successfully, the file keeps what both have
written if and only if the one that began had moved its file into place before the
other loaded it. -/
theorem both_writes_kept_iff (packages : Packages) (lawful : packages.Lawful) (masterSecret : Bytes)
    (jobs : Writer -> WriteJob) (distinct : (jobs .first).name ≠ (jobs .second).name)
    (file temporary : Option StoreDocument) (schedule : List Writer) (versions : Writer -> Nat)
    (exited : forall writer,
      ((sharedStore packages masterSecret jobs).run file temporary schedule).stage writer = .exited (versions writer)) :
    (forall writer, Kept packages masterSecret ((sharedStore packages masterSecret jobs).run file temporary schedule).file
      (jobs writer) (versions writer)) <-> WholeFile.TakesTurns schedule := by
  constructor
  · intro kept
    by_contra crossed
    rcases WholeFile.exits_in_overlap exited crossed with ⟨content, -, modified, document, there, winner, answer, after,
      won, saved⟩
    rcases modified winner.other with ⟨lost, losing⟩
    have winning := WriteJob.effect won
    have losing := WriteJob.effect losing
    rcases winning.stored with ⟨entry, rfl, -⟩
    have lost := kept winner.other
    rw [there, ← saved] at lost
    refine not_kept_of_current lawful ?_ lost
    rw [losing.numbered, SecretStorePayload.current, Dictionary.get_set_of_ne _ _ (names_apart distinct winner)]
    exact Nat.lt_succ_self _
  · intro turns
    rcases WholeFile.exits_in_turn (sharedStore_load_save lawful) exited turns with ⟨leader, content, saved, final, -, led,
      followed, there⟩
    have leading := WriteJob.effect led
    have following := WriteJob.effect followed
    rcases leading.stored with ⟨entry, rfl, current, answers⟩
    rcases following.stored with ⟨later, rfl, current', answers'⟩
    rw [there]
    intro writer
    by_cases same : writer = leader.other
    · subst same
      exact kept_of_get lawful following.valid (Dictionary.get_set_self _ _ _) current' answers'
    · rw [Writer.eq_of_ne_other same]
      refine kept_of_get lawful leading.valid ?_ current answers
      rw [Dictionary.get_set_of_ne _ _ (names_apart distinct leader).symm, Dictionary.get_set_self]

/-! ## Two operators and one empty store -/

namespace Scenario

/-- An operator who writes the first version of a database secret. -/
def databaseJob (name value : String) : WriteJob where
  plane := .control
  name := name.toList
  value := value.toList
  request := .setSecret .database []
  moment := moment
  draws := draws

def databaseJobs : Writer -> WriteJob
  | .first => databaseJob "db/main" "alpha"
  | .second => databaseJob "db/replica" "beta"

/-- The payload after one of them has written to a name that is new. -/
def writtenBy (writer : Writer) (payload : SecretStorePayload) : SecretStorePayload :=
  payload.set (databaseJobs writer).name (Store.setEntry moment (databaseJobs writer).value .database [] none)

theorem modify_databaseJobs (writer : Writer) {payload : SecretStorePayload}
    (fresh : payload.get (databaseJobs writer).name = none) :
    (databaseJobs writer).modify payload = some (1, writtenBy writer payload) := by
  have allowed : (evaluateAccess .control .database .write none).allowed = true := by decide
  cases writer with
  | first =>
      have named : matchesSecretName "db/main".toList = true := by decide
      simp only [databaseJobs, databaseJob] at fresh
      simp only [databaseJobs, databaseJob, WriteJob.modify, writtenBy, fresh, actionOfSet, Option.isSome_none,
        Bool.false_eq_true, if_false, allowed, if_true, Store.setSecret, named, Bool.true_eq_false]
      rfl
  | second =>
      have named : matchesSecretName "db/replica".toList = true := by decide
      simp only [databaseJobs, databaseJob] at fresh
      simp only [databaseJobs, databaseJob, WriteJob.modify, writtenBy, fresh, actionOfSet, Option.isSome_none,
        Bool.false_eq_true, if_false, allowed, if_true, Store.setSecret, named, Bool.true_eq_false]
      rfl

/-- The file of an empty store. -/
noncomputable def emptyFile : StoreDocument :=
  Store.save packages draws [] Table.empty

noncomputable def databaseRace (schedule : List Writer) : WholeFile.Desk SecretStorePayload StoreDocument Nat :=
  (sharedStore packages [] databaseJobs).run (some emptyFile) none schedule

theorem emptyFile_loads : (sharedStore packages [] databaseJobs).load emptyFile = some Table.empty := by
  simp only [sharedStore, emptyFile, Store.load_save packages_lawful]
  rfl

theorem inTurn_exits (writer : Writer) : (databaseRace WholeFile.inTurn).stage writer = .exited 1 := by
  refine WholeFile.stage_inTurn (fun _ => 1) (sharedStore_load_save packages_lawful) emptyFile_loads
    (modify_databaseJobs .first rfl) (modify_databaseJobs .second ?_) writer
  rw [writtenBy, Dictionary.get_set_of_ne]
  · rfl
  · decide

theorem crossing_exits (writer : Writer) : (databaseRace WholeFile.crossing).stage writer = .exited 1 :=
  WholeFile.stage_crossing (fun _ => 1) emptyFile_loads (modify_databaseJobs .first rfl)
    (modify_databaseJobs .second rfl) writer

end Scenario

/-- One operator after the other: both secrets are there. -/
theorem writes_in_turn_are_kept :
    Kept Scenario.packages [] (Scenario.databaseRace WholeFile.inTurn).file (Scenario.databaseJobs .first) 1 ∧
      Kept Scenario.packages [] (Scenario.databaseRace WholeFile.inTurn).file (Scenario.databaseJobs .second) 1 := by
  have kept := (both_writes_kept_iff Scenario.packages Scenario.packages_lawful [] Scenario.databaseJobs (by decide)
    (some Scenario.emptyFile) none WholeFile.inTurn (fun _ => 1) Scenario.inTurn_exits).mpr (by decide)
  exact ⟨kept .first, kept .second⟩

/-- Both load the empty store before either saves.  Both exit with the first version
of their secret, and the file has never heard of one of the two. -/
theorem crossing_loses_a_secret :
    (forall writer, (Scenario.databaseRace WholeFile.crossing).stage writer = .exited 1) ∧
      Exists fun payload =>
        Store.load Scenario.packages [] (Scenario.databaseRace WholeFile.crossing).file = .ok payload ∧
          Store.getSecret "db/main".toList payload = .error (.missing "db/main".toList) ∧
            Store.getSecret "db/replica".toList payload = .ok "beta".toList := by
  refine ⟨Scenario.crossing_exits, Scenario.writtenBy .second Table.empty, ?_, ?_, ?_⟩
  · have there := WholeFile.file_crossing (fun _ => 1) Scenario.emptyFile_loads
      (Scenario.modify_databaseJobs .first rfl) (Scenario.modify_databaseJobs .second rfl)
    rw [Scenario.databaseRace, there]
    exact Store.load_save Scenario.packages_lawful _ _ _
  · decide
  · decide

end Secrets
end ApexQuant
