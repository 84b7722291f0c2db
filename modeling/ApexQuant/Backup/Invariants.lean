import ApexQuant.Backup.Bookkeeping

namespace ApexQuant
namespace Backup

open Foundation
open Foundation.Faults
open BackupService

/-!
# Invariants of the tables

A restore writes the table of restores, the storage and the work directory.  What is said
of the policies, the runs and the artifacts alone is therefore kept by every restore, and
by the other calls as soon as the row operations that they make keep it.
-/

/-- The policies, the runs and the artifacts are the same. -/
structure World.SameTables (before after : World) : Prop where
  policies : after.policies = before.policies
  runs : after.runs = before.runs
  artifacts : after.artifacts = before.artifacts

/-- The invariant looks at the policies, the runs and the artifacts only. -/
def OfTables (Inv : World -> Prop) : Prop :=
  forall before after : World, before.SameTables after -> Inv before -> Inv after

namespace World

theorem uploadFile_tables (uri : Text -> Text) (localPath key : Text) (world : World) :
    world.SameTables (world.uploadFile uri localPath key).2 := by
  unfold uploadFile
  split <;> exact ⟨rfl, rfl, rfl⟩

theorem downloadFile_tables (key localPath : Text) (world : World) :
    world.SameTables (world.downloadFile key localPath).2 := by
  unfold downloadFile
  split <;> exact ⟨rfl, rfl, rfl⟩

theorem createRestore_tables (restore : RestoreRun) (world : World) :
    world.SameTables (world.createRestore restore).2 := by
  unfold createRestore
  split
  · exact ⟨rfl, rfl, rfl⟩
  · split <;> exact ⟨rfl, rfl, rfl⟩

end World

section Invariants

variable (deployment : Deployment) {Inv : World -> Prop} (ofTables : OfTables Inv)
include ofTables

theorem dump_maintains (command : BackupCommand) (timeout : Nat) (execution : Execution) :
    Maintains Inv (dump command timeout execution) := by
  have writes (bytes : Bytes) (world : World) (holds : Inv world) :
      Inv (world.writeFile command.outputPath bytes) :=
    ofTables world _ ⟨rfl, rfl, rfl⟩ holds
  unfold dump
  split
  · exact Maintains.bind (Maintains.change fun world holds => writes _ world holds) fun _ => Maintains.inspect _
  · exact Maintains.inspect _

theorem storeArtifact_maintains (draws : BackupDraws) (policy : BackupPolicy) (run : BackupRun)
    (creates : forall artifact world, Inv world -> Inv (world.createArtifact artifact).2) :
    Maintains Inv (storeArtifact deployment draws policy run) := by
  unfold storeArtifact
  apply Maintains.bind (Maintains.inspect _)
  intro connection
  apply Maintains.bind (Maintains.inspect _)
  intro command
  apply Maintains.bind (dump_maintains ofTables command _ _)
  intro _
  apply Maintains.bind (Maintains.inspect _)
  intro bytes
  apply Maintains.bind
  · exact Maintains.call fun world holds => ofTables _ _ (world.uploadFile_tables _ _ _) holds
  intro uri
  apply Maintains.bind
  · exact Maintains.call fun world holds => creates _ world holds
  exact fun _ => Maintains.pure _

theorem checkArtifact_maintains (draws : VerifyDraws) (policy : BackupPolicy) (artifact : BackupArtifact)
    (localPath : Text) : Maintains Inv (checkArtifact deployment draws policy artifact localPath) := by
  unfold checkArtifact
  apply Maintains.bind
  · exact Maintains.call fun world holds => ofTables _ _ (world.downloadFile_tables _ _) holds
  intro _
  apply Maintains.bind (Maintains.inspect _)
  intro bytes
  split
  · exact Maintains.bind (Maintains.throw _) fun _ => Maintains.inspect _
  · exact Maintains.inspect _

theorem verifyBackup_maintains (draws : VerifyDraws) (runId : Id)
    (updates : forall run world, Inv world -> Inv (world.updateRun run)) :
    Maintains Inv (verifyBackup deployment draws runId) := by
  have failed {A : Type} (run : BackupRun) (failure : BackupFailure) :
      Maintains Inv (failVerification deployment run failure : Service A) := by
    unfold failVerification
    exact Maintains.bind (Maintains.tell fun world holds => updates _ world holds) fun _ => Maintains.throw _
  unfold verifyBackup
  apply Maintains.bind (Maintains.ask _)
  intro foundRun
  cases foundRun with
  | none => exact Maintains.throw _
  | some run =>
      apply Maintains.bind (Maintains.ask _)
      intro foundArtifact
      cases foundArtifact with
      | none => exact Maintains.throw _
      | some artifact =>
          apply Maintains.bind (Maintains.ask _)
          intro foundPolicy
          cases foundPolicy with
          | none => exact Maintains.throw _
          | some policy =>
              apply Maintains.bind
              · exact Maintains.handle (checkArtifact_maintains deployment ofTables draws policy artifact _)
                  fun failure => failed _ failure
              intro _
              refine Maintains.handle ?_ fun failure => failed _ failure
              exact Maintains.bind (Maintains.tell fun world holds => updates _ world holds) fun _ => Maintains.pure _

theorem recordRestore_maintains (draws : RestoreDraws) (runId : Id) (request : RestoreRequest)
    (connection path : Text) : Maintains Inv (recordRestore deployment draws runId request connection path) := by
  have updates (restore : RestoreRun) (world : World) (holds : Inv world) : Inv (world.updateRestore restore) :=
    ofTables world _ ⟨rfl, rfl, rfl⟩ holds
  unfold recordRestore
  apply Maintains.bind (Maintains.inspect _)
  intro redactedCommand
  apply Maintains.bind (Maintains.inspect _)
  intro redactedConnection
  apply Maintains.bind
  · exact Maintains.call fun world holds => ofTables _ _ (world.createRestore_tables _) holds
  intro restore
  split
  · exact Maintains.bind (Maintains.tell fun world holds => updates _ world holds) fun _ => Maintains.pure _
  · refine Maintains.handle ?_ fun failure => ?_
    · unfold executeRestore
      apply Maintains.bind (Maintains.inspect _)
      intro _
      exact Maintains.bind (Maintains.tell fun world holds => updates _ world holds) fun _ => Maintains.pure _
    · unfold failRestore
      exact Maintains.bind (Maintains.tell fun world holds => updates _ world holds) fun _ => Maintains.throw _

theorem restoreBackup_maintains (draws : RestoreDraws) (runId : Id) (request : RestoreRequest) :
    Maintains Inv (restoreBackup deployment draws runId request) := by
  unfold restoreBackup
  apply Maintains.bind (Maintains.ask _)
  intro foundRun
  cases foundRun with
  | none => exact Maintains.throw _
  | some run =>
      apply Maintains.ite (Maintains.throw _)
      apply Maintains.bind (Maintains.ask _)
      intro foundArtifact
      cases foundArtifact with
      | none => exact Maintains.throw _
      | some artifact =>
          apply Maintains.ite (Maintains.throw _)
          apply Maintains.ite (Maintains.throw _)
          apply Maintains.bind (Maintains.inspect _)
          intro resolved
          apply Maintains.bind
          · exact Maintains.call fun world holds => ofTables _ _ (world.downloadFile_tables _ _) holds
          intro _
          apply Maintains.bind (Maintains.inspect _)
          intro bytes
          exact Maintains.ite (Maintains.throw _)
            (recordRestore_maintains deployment ofTables draws runId request resolved _)

theorem applyRetention_maintains (now : Moment) (policyId : Id)
    (marks : forall artifactId status world, Inv world -> Inv (world.updateArtifactStatus artifactId status)) :
    Maintains Inv (applyRetention now policyId) := by
  have deletes (key : Text) (world : World) (holds : Inv world) : Inv (world.deleteObject key) :=
    ofTables world _ ⟨rfl, rfl, rfl⟩ holds
  unfold applyRetention
  apply Maintains.bind (Maintains.ask _)
  intro found
  cases found with
  | none => exact Maintains.throw _
  | some policy =>
      apply Maintains.bind (Maintains.ask _)
      intro active
      apply Maintains.bind
      · apply Maintains.forM
        intro artifact _
        apply Maintains.bind (Maintains.tell fun world holds => marks _ _ world holds)
        intro _
        split
        · apply Maintains.bind (Maintains.tell fun world holds => deletes _ world holds)
          exact fun _ => Maintains.tell fun world holds => marks _ _ world holds
        · exact Maintains.pure _
      · exact fun _ => Maintains.pure _

end Invariants

end Backup
end ApexQuant
