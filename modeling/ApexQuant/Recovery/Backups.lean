import ApexQuant.Backup.Verified
import ApexQuant.Recovery.Completion

namespace ApexQuant
namespace Recovery

open Foundation
open Foundation.Faults

/-!
# Drills over the backup service

`PostgresBackupStatusProvider` reads the tables that the backup service writes.  A drill
and the backup service run side by side: each call of the provider sees the tables after
some beginning of the history of backups.
-/

/-- `PostgresBackupStatusProvider.policy_exists` -/
def policyExists (policyName : Text) (backups : Backup.World) : Bool :=
  backups.policies.rows.any fun policy => decide (policy.name = policyName)

/-- The runs that `latest_backup` selects from. -/
def succeededRuns (policyName : Text) (backups : Backup.World) : List Backup.BackupRun :=
  backups.runs.rows.filter fun run =>
    decide (run.status = .succeeded) &&
      (backups.getPolicy run.policyId).any fun policy => decide (policy.name = policyName)

/-- `PostgresBackupStatusProvider.latest_backup`.  Of two runs with one start the first in
the order of the table is taken. -/
def latestBackup (policyName : Text) (backups : Backup.World) : Option BackupStatus :=
  ((succeededRuns policyName backups).insertionSort fun left right => right.startedAt ≤ left.startedAt).head?.map
    fun run => { latestSuccessAt := some run.startedAt, verificationStatus := run.verificationStatus }

section Composition

variable (deployment : Backup.Deployment) (initial : Backup.World) (seen : Nat -> List Backup.BackupEvent)

/-- Surroundings whose provider reads the tables of the backup service. -/
def overBackups (surroundings : Surroundings) : Surroundings :=
  { surroundings with
    policyExists := fun number name => policyExists name (Backup.watchedAfter deployment initial (seen number)).world
    latestBackup := fun number name => latestBackup name (Backup.watchedAfter deployment initial (seen number)).world }

/-- When a call of the drill asked for it, the history of backups had started a run of the
policy inside the RPO, dumped it, and found the checksum of the dump in the storage. -/
def Kept (surroundings : Surroundings) (plan : RecoveryPlan) (component : RecoveryComponent) (before after : World) :
    Prop :=
  Exists fun name => Exists fun policyId => Exists fun runId => Exists fun startedAt =>
    component.backupPolicyName = some name ∧
      Asked before after (fun number =>
        (Exists fun policy => (Backup.watchedAfter deployment initial (seen number)).world.getPolicy policyId =
          some policy ∧ policy.name = name) ∧
        Backup.Started (seen number) (runId, policyId, startedAt) ∧
        Backup.DumpedAndVerified deployment initial (seen number) runId) ∧
      Asked before after fun number =>
        surroundings.utcNow number - rpoOf plan component * microsecondsPerSecond ≤ startedAt

variable {deployment initial seen}

/-- The latest backup is one of the succeeded runs of the policy. -/
theorem exists_run_of_latestBackup {policyName : Text} {backups : Backup.World} {status : BackupStatus}
    (answered : latestBackup policyName backups = some status) :
    Exists fun run => run ∈ backups.runs ∧
      (Exists fun policy => backups.getPolicy run.policyId = some policy ∧ policy.name = policyName) ∧
      status.latestSuccessAt = some run.startedAt ∧ status.verificationStatus = run.verificationStatus := by
  rcases Option.map_eq_some_iff.mp answered with ⟨run, first, rfl⟩
  have member := (List.perm_insertionSort _ _).subset (List.mem_of_head? first)
  rcases List.mem_filter.mp member with ⟨stored, selected⟩
  simp only [Bool.and_eq_true, Option.any_eq_true, decide_eq_true_eq] at selected
  exact ⟨run, stored, selected.2, rfl, rfl⟩

theorem kept_of_backed (noRuns : initial.runs = Table.empty) (noArtifacts : initial.artifacts = Table.empty)
    {surroundings : Surroundings} {plan : RecoveryPlan} {component : RecoveryComponent} {before after : World}
    (backed : Backed (overBackups deployment initial seen surroundings) plan component before after) :
    Kept deployment initial seen surroundings plan component before after := by
  rcases backed with ⟨name, status, moment, named, -, ⟨number, first, last, answered⟩, success, fresh, verified⟩
  rcases exists_run_of_latestBackup answered with ⟨run, stored, policy, latest, verification⟩
  have traced := @Backup.runsTraced_after deployment initial noRuns noArtifacts (seen number) run stored
  rw [success] at latest
  cases latest
  exact ⟨name, run.policyId, run.runId, run.startedAt, named,
    ⟨number, first, last, policy, traced.1, traced.2 (verification.symm.trans verified)⟩, fresh⟩

/-- A drill that `run_drill` stores as succeeded while it reads the tables of the backup
service stands for backups that exist: every component that is restored from a backup has
one, started inside its RPO, whose stored object hashed to the checksum of its dump. -/
theorem drill_success_is_kept (deployment : Backup.Deployment) (initial : Backup.World)
    (noRuns : initial.runs = Table.empty) (noArtifacts : initial.artifacts = Table.empty)
    (seen : Nat -> List Backup.BackupEvent) (surroundings : Surroundings) (enableHealthChecks : Bool)
    (planId : Id) (actor trigger : Text) (outside : Outside Failure World) :
    SuccessStandsFor (fun plan before after =>
        forall component, component ∈ before.components plan.planId ->
          component.recoveryStrategy = .restoreFromBackup ->
            Kept deployment initial seen surroundings plan component before after)
      planId outside.world
      (finalWorld (runDrill (overBackups deployment initial seen surroundings) enableHealthChecks planId actor trigger)
        outside) := by
  intro drill member new succeeded
  by_cases creates : Creates (overBackups deployment initial seen surroundings) planId actor trigger outside
  · rcases begun_of_creates _ enableHealthChecks creates with ⟨plan, created, found, samePlans, -, rows, -, conducted⟩
    refine ⟨plan, found, fun component listed strategy => kept_of_backed noRuns noArtifacts ?_⟩
    rcases conducted.rows drill member with kept | earned
    · -- The row as it is created is still running.
      change drill ∈ created.drills.rows at kept
      rw [rows] at kept
      rcases List.mem_append.mp kept with old | added
      · exact absurd old new
      · cases List.mem_singleton.mp added
        cases succeeded
    · have backed := (earned succeeded).backed component (samePlans.components ▸ listed) strategy
      exact backed.stays _ samePlans (SamePlans.refl _)
  · rw [drills_of_not_creates _ enableHealthChecks creates] at member
    exact absurd member new

end Composition

/-! ## A drill over one verified backup -/

namespace Scenario

def restoredComponent : RecoveryComponent where
  componentName := "market".toList
  recoveryStrategy := .restoreFromBackup
  backupPolicyName := some "daily".toList
  healthEndpoint := none
  rpoSeconds := none

/-- A backup and its verification, before the drill. -/
def verifiedBackup : List Backup.BackupEvent :=
  [.step (Backup.Scenario.backup (.exits 0 [] []) []), .step Backup.Scenario.verification]

def surroundings : Surroundings :=
  overBackups Backup.Scenario.deployment Backup.Scenario.unused (fun _ => verifiedBackup) exampleSurroundings

def outside : Outside Failure World where
  world := { exampleOutside.world with components := fun _ => [restoredComponent] }
  fates := []

end Scenario

/-- The drill succeeds, and so it stands for the backup. -/
theorem verified_backup_is_kept :
    ((finalWorld (runDrill Scenario.surroundings false "plan".toList "actor".toList "manual".toList)
        Scenario.outside).drills.rows.map Drill.status) = [.succeeded] ∧
      SuccessStandsFor (fun plan before after =>
          forall component, component ∈ before.components plan.planId ->
            component.recoveryStrategy = .restoreFromBackup ->
              Kept Backup.Scenario.deployment Backup.Scenario.unused (fun _ => Scenario.verifiedBackup)
                exampleSurroundings plan component before after)
        "plan".toList Scenario.outside.world
        (finalWorld (runDrill Scenario.surroundings false "plan".toList "actor".toList "manual".toList)
          Scenario.outside) :=
  ⟨by decide +kernel,
    drill_success_is_kept Backup.Scenario.deployment Backup.Scenario.unused rfl rfl (fun _ => Scenario.verifiedBackup)
      exampleSurroundings false "plan".toList "actor".toList "manual".toList Scenario.outside⟩

end Recovery
end ApexQuant
