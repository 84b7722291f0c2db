import ApexQuant.Backup.Invariants
import ApexQuant.Backup.RestoreGate

namespace ApexQuant
namespace Backup

open Foundation
open Foundation.Faults

/-!
# What a restore brings back

A history of the service in which, between its operations, anybody may change the objects
of the storage and the files of the work directory.  The rows of the artifacts are written
by the service alone.  Their checksums are fixed when a dump is stored, so a restore that
runs works on a file with the checksum of the dump of its run.
-/

/-- An operation of the service, or a change to the storage and the work directory. -/
inductive BackupEvent where
  | step (step : BackupStep)
  | tamper (objects files : Dictionary Text Bytes)

def eventStep (deployment : Deployment) (watched : Watched World Invocation) : BackupEvent -> Watched World Invocation
  | .step step => watchedStep deployment watched step
  | .tamper objects files => { watched with world := { watched.world with objects := objects, files := files } }

/-- The dump of a backup ends well and leaves these bytes. -/
def Dumps (deployment : Deployment) (draws : BackupDraws) (policyId : Id) (world : World) (bytes : Bytes) : Prop :=
  Exists fun policy => Exists fun connection => Exists fun command => Exists fun result =>
    world.getPolicy policyId = some policy ∧
      resolveConnectionRef deployment.environ policy.targetConnectionRef = .ok connection ∧
      buildBackupCommand policy deployment.workdir (uuidText draws.runId) connection = .ok command ∧
      runCommand command.command (some policy.backupTimeoutSeconds) draws.execution.outcome = .ok result ∧
      (BackupService.dumped command.outputPath draws.execution world).readFile command.outputPath = .ok bytes

/-- The event is a backup under the run that dumps these bytes. -/
def BackupEvent.Backs (deployment : Deployment) (world : World) (runId : Id) (bytes : Bytes) (event : BackupEvent) : Prop :=
  Exists fun draws => Exists fun policyId => Exists fun trigger => Exists fun fates =>
    event = .step { action := .createBackup draws policyId trigger, fates := fates } ∧ draws.runId = runId ∧
      Dumps deployment draws policyId world bytes

/-! ## Where the artifacts come from -/

/-- What of an artifact never changes. -/
def BackupArtifact.mark (artifact : BackupArtifact) : Id × Text :=
  (artifact.runId, artifact.checksumSha256)

/-- The marks of all artifacts meet a condition. -/
def World.Traced (traced : Id × Text -> Prop) (world : World) : Prop :=
  forall artifact, artifact ∈ world.artifacts -> traced artifact.mark

namespace World

variable {traced : Id × Text -> Prop} {world after : World}

theorem Traced.of_same (holds : world.Traced traced) (same : after.artifacts = world.artifacts) : after.Traced traced := by
  unfold Traced
  rw [same]
  exact holds

theorem Traced.updateArtifactStatus (holds : world.Traced traced) (artifactId : Id) (status : ArtifactStatus) :
    (world.updateArtifactStatus artifactId status).Traced traced := by
  intro artifact member
  rcases (Table.mem_update (artifactId_marked artifactId status)).mp member with ⟨old, stored, rfl⟩
  have same : (marked artifactId status old).mark = old.mark := by
    unfold marked
    split <;> rfl
  rw [same]
  exact holds old stored

theorem Traced.createArtifact (holds : world.Traced traced) {artifact : BackupArtifact} (new : traced artifact.mark) :
    (world.createArtifact artifact).2.Traced traced := by
  rcases createArtifact_cases artifact world with ⟨error, refused⟩ | ⟨artifacts, inserted, -, created⟩
  · rw [refused]
    exact holds
  · rw [created]
    intro other member
    rcases (Table.mem_insert inserted).mp member with old | rfl
    · exact holds other old
    · exact new

theorem Traced.ofTables : OfTables (Traced traced) :=
  fun _ _ same holds => holds.of_same same.artifacts

theorem createRun_same (run : BackupRun) (world : World) :
    (world.createRun run).2.artifacts = world.artifacts ∧ (world.createRun run).2.files = world.files := by
  unfold createRun
  split
  · exact ⟨rfl, rfl⟩
  · split <;> exact ⟨rfl, rfl⟩

theorem createRun_ok {run answer : BackupRun} (created : world.createRun run = (.ok answer, after)) : answer = run := by
  unfold createRun at created
  split at created
  · exact absurd (congrArg Prod.fst created) nofun
  · split at created
    · exact absurd (congrArg Prod.fst created) nofun
    · exact (Except.ok.inj (congrArg Prod.fst created)).symm

/-- What a dump leaves depends on the files only. -/
theorem readFile_dumped {left right : World} (files : left.files = right.files) (path : Text) (execution : Execution) :
    (BackupService.dumped path execution left).readFile path = (BackupService.dumped path execution right).readFile path := by
  unfold BackupService.dumped readFile writeFile
  cases execution.written <;> simp only [files]

end World

open BackupService

section Steps

variable (deployment : Deployment) {traced : Id × Text -> Prop}

theorem failRun_traced {A : Type} (draws : BackupDraws) (run : BackupRun) (failure : BackupFailure) :
    Maintains (World.Traced traced) (failRun deployment draws run failure : Service A) := by
  unfold failRun
  exact Maintains.bind (Maintains.tell fun _ holds => holds.of_same rfl) fun _ => Maintains.throw _

theorem finishRun_traced (draws : BackupDraws) (policy : BackupPolicy) (run : BackupRun) :
    Maintains (World.Traced traced) (finishRun draws policy run) := by
  unfold finishRun
  apply Maintains.bind (Maintains.tell fun _ holds => holds.of_same rfl)
  intro _
  split
  · exact Maintains.bind (Maintains.tell fun _ holds => holds.of_same rfl) fun _ => Maintains.pure _
  · exact Maintains.pure _

theorem storeArtifact_traced {draws : BackupDraws} {policy : BackupPolicy} {run : BackupRun}
    {outside : Outside BackupFailure World} (holds : outside.world.Traced traced)
    (new : forall connection command result bytes,
      resolveConnectionRef deployment.environ policy.targetConnectionRef = .ok connection ->
        buildBackupCommand policy deployment.workdir (uuidText run.runId) connection = .ok command ->
        runCommand command.command (some policy.backupTimeoutSeconds) draws.execution.outcome = .ok result ->
        (dumped command.outputPath draws.execution outside.world).readFile command.outputPath = .ok bytes ->
        traced (run.runId, deployment.sha256 bytes)) :
    Triple (fun start => start = outside) (storeArtifact deployment draws policy run)
      (fun _ after => after.world.Traced traced) (fun _ after => after.world.Traced traced) := by
  unfold storeArtifact
  apply Triple.inspect_bind (fun _ _ => holds)
  intro connection resolved
  apply Triple.inspect_bind (fun _ _ => holds)
  intro command built
  have dumps := (dumped_same command.outputPath draws.execution outside.world).2
  apply dump_bind
  · exact fun _ _ => holds.of_same dumps
  intro result ran
  apply Triple.inspect_bind
  · exact fun _ _ => holds.of_same dumps
  intro bytes read
  have mark := new connection command result bytes resolved built ran read
  refine Maintains.from_known (?_ : Maintains (World.Traced traced) _) (holds.of_same dumps) fun _ kept => kept
  apply Maintains.bind
  · exact Maintains.call fun world kept => kept.of_same (uploadFile_same _ _ _ world).2
  intro uri
  apply Maintains.bind
  · exact Maintains.call fun world kept => kept.createArtifact mark
  exact fun _ => Maintains.pure _

theorem createBackup_traced (draws : BackupDraws) (policyId : Id) (trigger : Text)
    {outside : Outside BackupFailure World} (holds : outside.world.Traced traced)
    (new : forall bytes, Dumps deployment draws policyId outside.world bytes ->
      traced (draws.runId, deployment.sha256 bytes)) :
    Triple (fun start => start = outside) (createBackup deployment draws policyId trigger)
      (fun _ after => after.world.Traced traced) (fun _ after => after.world.Traced traced) := by
  have complains {A : Type} (class_ : BackupErrorClass) (message : Text) {start : Outside BackupFailure World}
      (kept : start.world.Traced traced) : Triple (fun before => before = start) (complain class_ message : Service A)
        (fun _ after => after.world.Traced traced) (fun _ after => after.world.Traced traced) :=
    Maintains.from_known (Maintains.throw _) kept fun _ kept => kept
  unfold createBackup
  apply Triple.ask_bind (fun _ _ _ => holds)
  intro _
  cases found : outside.world.getPolicy policyId with
  | none => exact complains _ _ holds
  | some policy =>
      dsimp only
      split
      · exact complains _ _ holds
      · apply Triple.call_bind
        · exact fun _ _ => holds
        · exact fun _ _ => holds.of_same (World.createRun_same _ _).1
        · intro error world _ refused
          have same := (World.createRun_same _ _).1.symm.trans (congrArg (fun result => result.2.artifacts) refused)
          exact holds.of_same same.symm
        · intro run world _ created
          rcases World.createRun_ok created with rfl
          have same := World.createRun_same _ _ |>.1.symm.trans (congrArg (fun result => result.2.artifacts) created)
          have files := World.createRun_same _ _ |>.2.symm.trans (congrArg (fun result => result.2.files) created)
          have kept : world.Traced traced := holds.of_same same.symm
          refine Triple.bind (Triple.handle (storeArtifact_traced deployment kept ?_) fun failure =>
            failRun_traced deployment draws _ failure) fun artifact => ?_
          · intro connection command result bytes resolved built ran read
            refine new bytes ⟨policy, connection, command, result, found, resolved, built, ran, ?_⟩
            exact (World.readFile_dumped files _ _).trans read
          · exact Maintains.handle (finishRun_traced draws policy _) fun failure => failRun_traced deployment draws _ failure

/-- A step writes no mark but that of the dump of its own backup. -/
theorem World.Traced.step {world : World} {step : BackupStep} (holds : world.Traced traced)
    (new : forall runId bytes, (BackupEvent.step step).Backs deployment world runId bytes ->
      traced (runId, deployment.sha256 bytes)) : (world.step deployment step).Traced traced := by
  rcases step with ⟨action, fates⟩
  cases action with
  | createBackup draws policyId trigger =>
      have begins : (world.facing ⟨.createBackup draws policyId trigger, fates⟩).world.Traced traced := holds
      have created := createBackup_traced deployment draws policyId trigger begins fun bytes dumps =>
        new draws.runId bytes ⟨draws, policyId, trigger, fates, rfl, rfl, dumps⟩
      exact created.finalWorld (fun _ _ kept => kept) (fun _ _ kept => kept) rfl
  | verifyBackup draws runId =>
      have keeps := verifyBackup_maintains deployment (@Traced.ofTables traced) draws runId fun _ _ kept => kept.of_same rfl
      exact keeps.finalWorld holds
  | restoreBackup draws runId request =>
      exact (restoreBackup_maintains deployment Traced.ofTables draws runId request).finalWorld holds
  | applyRetention now policyId =>
      have keeps := applyRetention_maintains (@Traced.ofTables traced) now policyId fun artifactId status _ kept =>
        kept.updateArtifactStatus artifactId status
      exact keeps.finalWorld holds

end Steps

/-! ## Histories -/

section Histories

variable (deployment : Deployment) (initial : World)

/-- What the service and its log hold after a history. -/
def watchedAfter (events : List BackupEvent) : Watched World Invocation :=
  events.foldl (eventStep deployment) { world := initial, log := [] }

/-- Some backup of the history dumped bytes with the mark. -/
def Dumped (events : List BackupEvent) (mark : Id × Text) : Prop :=
  Exists fun before => Exists fun event => Exists fun after => Exists fun bytes =>
    events = before ++ event :: after ∧
      event.Backs deployment (watchedAfter deployment initial before).world mark.1 bytes ∧
      mark.2 = deployment.sha256 bytes

variable {deployment initial}

theorem watchedAfter_concat (events : List BackupEvent) (last : BackupEvent) :
    watchedAfter deployment initial (events ++ [last]) = eventStep deployment (watchedAfter deployment initial events) last := by
  simp [watchedAfter]

theorem Dumped.concat {events : List BackupEvent} {mark : Id × Text} (dumped : Dumped deployment initial events mark)
    (last : BackupEvent) : Dumped deployment initial (events ++ [last]) mark := by
  rcases dumped with ⟨before, event, after, bytes, rfl, backs, same⟩
  exact ⟨before, event, after ++ [last], bytes, by simp, backs, same⟩

/-- Every artifact carries the checksum of a dump under its run. -/
theorem traced_after (empty : initial.artifacts = Table.empty) (events : List BackupEvent) :
    (watchedAfter deployment initial events).world.Traced (Dumped deployment initial events) := by
  induction events using List.reverseRecOn with
  | nil =>
      intro artifact member
      change artifact ∈ initial.artifacts at member
      rw [empty] at member
      cases member
  | append_singleton events last ih =>
      rw [watchedAfter_concat]
      have kept : (watchedAfter deployment initial events).world.Traced (Dumped deployment initial (events ++ [last])) :=
        fun artifact member => (ih artifact member).concat last
      cases last with
      | tamper objects files => exact kept.of_same rfl
      | step step =>
          change (watchedStep deployment _ step).world.Traced _
          rw [world_watchedStep]
          exact World.Traced.step deployment kept fun runId bytes backs =>
            ⟨events, .step step, [], bytes, rfl, backs, rfl⟩

/-- The invocation restores, into some database, a file that hashes to the checksum of a
dump that the history made under the run. -/
def Restores (deployment : Deployment) (initial : World) (events : List BackupEvent) (invocation : Invocation) : Prop :=
  Exists fun runId => Exists fun connection => Exists fun content =>
    invocation.command = buildRestoreCommand (restorePath deployment runId) connection ∧
      invocation.world.readFile (restorePath deployment runId) = .ok content ∧
      Dumped deployment initial events (runId, deployment.sha256 content)

theorem Restores.concat {events : List BackupEvent} {invocation : Invocation}
    (restores : Restores deployment initial events invocation) (last : BackupEvent) :
    Restores deployment initial (events ++ [last]) invocation := by
  rcases restores with ⟨runId, connection, content, command, read, dumped⟩
  exact ⟨runId, connection, content, command, read, dumped.concat last⟩

/-- Over every history, whatever happens to the storage and the work directory in between,
`pg_restore` is only ever run on a file whose checksum is that of the bytes which the dump
of that very run left. -/
theorem restores_what_was_dumped (deployment : Deployment) (initial : World) (empty : initial.artifacts = Table.empty)
    (events : List BackupEvent) (invocation : Invocation)
    (logged : invocation ∈ (watchedAfter deployment initial events).log)
    (restoring : Watching.IsRestore invocation.command) : Restores deployment initial events invocation := by
  induction events using List.reverseRecOn with
  | nil => cases logged
  | append_singleton events last ih =>
      rw [watchedAfter_concat] at logged
      by_cases old : invocation ∈ (watchedAfter deployment initial events).log
      · exact (ih old).concat last
      cases last with
      | tamper objects files => exact absurd logged old
      | step step =>
          have gated := gated_step deployment (watchedAfter deployment initial events) step
          change invocation ∈ (watchedStep deployment _ step).log at logged
          rcases step with ⟨action, fates⟩
          cases action with
          | restoreBackup draws runId request =>
              rcases gated with same | ⟨entry, logs, permitted⟩
              · rw [same] at logged
                exact absurd logged old
              · rw [logs, List.mem_append, List.mem_singleton] at logged
                rcases logged with earlier | rfl
                · exact absurd earlier old
                · rcases permitted.checked with ⟨artifact, content, found, -, read, checksum⟩
                  rcases permitted.command with ⟨connection, -, command⟩
                  have known := @traced_after deployment initial empty events artifact (List.mem_of_find?_eq_some found)
                  have own : artifact.runId = runId := by simpa using List.find?_some found
                  refine ⟨runId, connection, content, command, read, ?_⟩
                  rw [checksum, ← own]
                  exact known.concat _
          | createBackup draws policyId trigger =>
              rcases gated with ⟨new, logs, spares⟩
              rw [logs, List.mem_append] at logged
              exact absurd restoring (spares invocation (logged.resolve_left old))
          | verifyBackup draws runId =>
              rcases gated with ⟨new, logs, spares⟩
              rw [logs, List.mem_append] at logged
              exact absurd restoring (spares invocation (logged.resolve_left old))
          | applyRetention now policyId =>
              rcases gated with ⟨new, logs, spares⟩
              rw [logs, List.mem_append] at logged
              exact absurd restoring (spares invocation (logged.resolve_left old))

end Histories

/-! ## A backup, and its restore after the work directory was emptied -/

namespace Scenario

def restoring : BackupStep where
  action := .restoreBackup { restoreId := 1, startedAt := 3, completedAt := 4, outcome := .exits 0 [] [] } 1
    { targetConnectionRef := "env://MARKET_URL".toList
      dryRun := false
      confirm := true
      allowProductionRestore := false }
  fates := []

def emptiedBetween : List BackupEvent :=
  [.step (backup (.exits 0 [] []) []),
    .tamper (Dictionary.set Table.empty (BackupService.storageKey (policy true) 1) []) Table.empty, .step restoring]

end Scenario

theorem restored_what_was_dumped :
    Exists fun invocation =>
      (watchedAfter Scenario.deployment Scenario.unused Scenario.emptiedBetween).log.getLast? = some invocation ∧
        Restores Scenario.deployment Scenario.unused Scenario.emptiedBetween invocation := by
  have logged : Exists fun invocation =>
      (watchedAfter Scenario.deployment Scenario.unused Scenario.emptiedBetween).log.getLast? = some invocation ∧
        invocation.command = buildRestoreCommand (restorePath Scenario.deployment 1)
          "postgresql://backup:secret@db/market".toList := ⟨_, rfl, rfl⟩
  rcases logged with ⟨invocation, last, command⟩
  exact ⟨invocation, last, restores_what_was_dumped Scenario.deployment Scenario.unused rfl Scenario.emptiedBetween
    invocation (List.mem_of_getLast? last) ⟨_, _, command⟩⟩

end Backup
end ApexQuant
