import ApexQuant.Backup.Service
import ApexQuant.Foundation.Runs

namespace ApexQuant
namespace Backup

open Foundation
open Foundation.Faults
open BackupService

/-!
# Runs and their artifacts

A run succeeds when its artifact is written, and the artifact is written first.  The
catch-all handler of `create_backup` marks the run failed whatever was raised, also
when the artifact row is there already: when its own acknowledgement was lost, when
the run could not be marked succeeded, and when the policy could not be scheduled.
Unless a call fails there, active artifacts and succeeded runs go together.
-/

/-- Every active artifact belongs to a succeeded run, and every succeeded run has
exactly one artifact. -/
structure World.Booked (world : World) : Prop where
  backed : forall artifact, artifact ∈ world.artifacts -> artifact.status = .active ->
    Exists fun run => run ∈ world.runs ∧ run.runId = artifact.runId ∧ run.status = .succeeded
  single : forall run, run ∈ world.runs -> run.status = .succeeded ->
    Exists fun artifact => artifact ∈ world.artifacts ∧ artifact.runId = run.runId ∧
      forall other, other ∈ world.artifacts -> other.runId = run.runId -> other = artifact

/-- The artifact of the backup can be stored: the connection resolves, the command
succeeds, its file is there and the identifier is free. -/
def Storable (deployment : Deployment) (draws : BackupDraws) (policy : BackupPolicy) (world : World) : Prop :=
  Exists fun connection => Exists fun command => Exists fun result =>
    resolveConnectionRef deployment.environ policy.targetConnectionRef = .ok connection ∧
      buildBackupCommand policy deployment.workdir (uuidText draws.runId) connection = .ok command ∧
      runCommand command.command (some policy.backupTimeoutSeconds) draws.execution.outcome = .ok result ∧
      (draws.execution.written.isSome = true ∨ (world.files.get command.outputPath).isSome = true) ∧
      world.artifacts.find draws.artifactId = none

/-- The artifact of the backup is stored if no call before it fails. -/
def Stores (deployment : Deployment) (draws : BackupDraws) (policyId : Id) (world : World) : Prop :=
  Exists fun policy => world.getPolicy policyId = some policy ∧ policy.enabled = true ∧
    world.runs.find draws.runId = none ∧ Storable deployment draws policy world

/-- The call that stores the artifact does not fail after its effect.  Once it is
served, the run is marked succeeded: either this call is served and so is the next,
which schedules the policy, or the run stays marked because the handler's call has
no effect. -/
def Closes (fates : Nat -> Fate BackupFailure) : Prop :=
  (forall error, fates 0 ≠ .fails error true) ∧
    (fates 0 = .served ->
      (fates 1 = .served ∧ (fates 2 = .served ∨ Exists fun error => fates 3 = .fails error false)) ∨
        ((Exists fun error => fates 1 = .fails error true) ∧ Exists fun error => fates 2 = .fails error false))

/-- No backup fails once its artifact is stored.  The artifact is stored by the
fourth call. -/
def BackupStep.Settles (deployment : Deployment) (world : World) (step : BackupStep) : Prop :=
  match step.action with
  | .createBackup draws policyId _ =>
      Stores deployment draws policyId world -> (forall earlier, earlier < 3 -> (world.facing step).fateAfter earlier = .served) ->
        Closes fun later => (world.facing step).fateAfter (later + 3)
  | .verifyBackup _ _ => True
  | .restoreBackup _ _ _ => True
  | .applyRetention _ _ => True

/-- The worlds that runs lead through. -/
structure World.Sound (world : World) : Prop where
  booked : world.Booked
  linked : forall artifact, artifact ∈ world.artifacts -> (world.runs.find artifact.runId).isSome = true

/-- No artifact belongs to the run. -/
def World.Bare (world : World) (runId : Id) : Prop :=
  forall artifact, artifact ∈ world.artifacts -> artifact.runId ≠ runId

/-- The run is not marked, or its mark is left alone. -/
def World.Agrees (world : World) (run : BackupRun) : Prop :=
  forall row, row ∈ world.runs -> row.runId = run.runId -> row.status = run.status

/-! ## What the calls keep -/

namespace World

theorem Sound.of_same {before after : World} (sound : before.Sound) (runs : after.runs = before.runs)
    (artifacts : after.artifacts = before.artifacts) : after.Sound := by
  rcases sound with ⟨⟨backed, single⟩, linked⟩
  constructor
  · constructor
    · rw [runs, artifacts]
      exact backed
    · rw [runs, artifacts]
      exact single
  · rw [runs, artifacts]
    exact linked

/-- A run without an artifact is marked as failed, or a run keeps its mark. -/
theorem Sound.updateRun {world : World} (sound : world.Sound) {run : BackupRun}
    (harmless : world.Agrees run ∨ (run.status ≠ .succeeded ∧ world.Bare run.runId)) :
    (world.updateRun run).Sound := by
  have status : forall row, row ∈ world.runs -> (rewritten run row).status = row.status ∨
      (row.runId = run.runId ∧ (rewritten run row).status ≠ .succeeded ∧ world.Bare run.runId) := by
    intro row member
    unfold rewritten
    split
    · rename_i own
      rcases harmless with agrees | ⟨failed, bare⟩
      · exact Or.inl (agrees row member own).symm
      · exact Or.inr ⟨own, failed, bare⟩
    · exact Or.inl rfl
  constructor
  · constructor
    · intro artifact member active
      rcases sound.booked.backed artifact member active with ⟨row, stored, same, succeeded⟩
      refine ⟨rewritten run row, (Table.mem_update (runId_rewritten run)).mpr ⟨row, stored, rfl⟩,
        (runId_rewritten run row).trans same, ?_⟩
      rcases status row stored with kept | ⟨own, -, bare⟩
      · exact kept.trans succeeded
      · exact absurd (same.symm.trans own) (bare artifact member)
    · intro after member succeeded
      rcases (Table.mem_update (runId_rewritten run)).mp member with ⟨row, stored, rfl⟩
      rcases status row stored with kept | ⟨-, failed, -⟩
      · rw [runId_rewritten]
        exact sound.booked.single row stored (kept.symm.trans succeeded)
      · exact absurd succeeded failed
  · intro artifact member
    change ((world.runs.update (rewritten run) (runId_rewritten run)).find artifact.runId).isSome = true
    rw [Table.find_update, Option.isSome_map]
    exact sound.linked artifact member

/-- An artifact that is marked expired or deleted. -/
theorem Sound.updateArtifactStatus {world : World} (sound : world.Sound) (artifactId : Id) {status : ArtifactStatus}
    (inactive : status ≠ .active) : (world.updateArtifactStatus artifactId status).Sound := by
  have runId : forall row, (marked artifactId status row).runId = row.runId := by
    intro row
    unfold marked
    split <;> rfl
  have status_active : forall row, (marked artifactId status row).status = .active -> row.status = .active := by
    intro row active
    unfold marked at active
    split at active
    · exact absurd active inactive
    · exact active
  constructor
  · constructor
    · intro after member active
      rcases (Table.mem_update (artifactId_marked artifactId status)).mp member with ⟨row, stored, rfl⟩
      rw [runId]
      exact sound.booked.backed row stored (status_active row active)
    · intro run member succeeded
      rcases sound.booked.single run member succeeded with ⟨artifact, stored, own, unique⟩
      refine ⟨marked artifactId status artifact,
        (Table.mem_update (artifactId_marked artifactId status)).mpr ⟨artifact, stored, rfl⟩,
        (runId artifact).trans own, ?_⟩
      intro other otherMember otherOwn
      rcases (Table.mem_update (artifactId_marked artifactId status)).mp otherMember with ⟨row, rowStored, rfl⟩
      rw [unique row rowStored ((runId row).symm.trans otherOwn)]
  · intro after member
    rcases (Table.mem_update (artifactId_marked artifactId status)).mp member with ⟨row, stored, rfl⟩
    rw [runId]
    exact sound.linked row stored

/-- A new run has no artifact. -/
theorem Sound.createRun {world after : World} (sound : world.Sound) {run answer : BackupRun}
    (running : run.status ≠ .succeeded) (created : world.createRun run = (.ok answer, after)) :
    answer = run ∧ world.runs.find run.runId = none ∧ after.Sound ∧ after.Bare run.runId ∧
      after.artifacts = world.artifacts ∧ after.files = world.files := by
  unfold World.createRun at created
  split at created
  · cases congrArg Prod.fst created
  · split at created
    · cases congrArg Prod.fst created
    · rename_i runs inserted
      cases congrArg Prod.snd created
      have fresh := Table.find_eq_none_of_insert inserted
      refine ⟨(Except.ok.inj (congrArg Prod.fst created)).symm, fresh, ⟨⟨?_, ?_⟩, ?_⟩, ?_, rfl, rfl⟩
      · intro artifact member active
        rcases sound.booked.backed artifact member active with ⟨row, stored, same, succeeded⟩
        exact ⟨row, (Table.mem_insert inserted).mpr (Or.inl stored), same, succeeded⟩
      · intro row member succeeded
        rcases (Table.mem_insert inserted).mp member with stored | rfl
        · exact sound.booked.single row stored succeeded
        · exact absurd succeeded running
      · intro artifact member
        change (runs.find artifact.runId).isSome = true
        rw [Table.find_insert inserted]
        rcases Option.isSome_iff_exists.mp (sound.linked artifact member) with ⟨row, found⟩
        rw [found]
        rfl
      · intro artifact member same
        have found := sound.linked artifact member
        rw [same, fresh] at found
        cases found

/-- The refusal of a run changes nothing. -/
theorem createRun_refused {world after : World} {run : BackupRun} {error : BackupFailure}
    (refused : world.createRun run = (.error error, after)) : after = world := by
  unfold World.createRun at refused
  split at refused
  · exact (congrArg Prod.snd refused).symm
  · split at refused
    · exact (congrArg Prod.snd refused).symm
    · cases congrArg Prod.fst refused

/-- The artifact has been added for a run that had none. -/
structure Awaits (world : World) (artifact : BackupArtifact) (before : World) : Prop where
  sound : before.Sound
  bare : before.Bare artifact.runId
  inserted : before.artifacts.insert artifact = some world.artifacts
  runs : world.runs = before.runs
  present : (before.runs.find artifact.runId).isSome = true

/-- The run of the artifact is marked as succeeded. -/
theorem Awaits.finish {world before : World} {artifact : BackupArtifact} (awaits : world.Awaits artifact before)
    {run : BackupRun} (own : run.runId = artifact.runId) (succeeds : run.status = .succeeded) :
    (world.updateRun run).Sound := by
  rcases awaits with ⟨sound, bare, inserted, sameRuns, present⟩
  have others : forall row : BackupRun, row.runId ≠ run.runId -> rewritten run row = row :=
    fun row apart => if_neg apart
  have stored : forall row, row ∈ before.runs -> row ∈ world.runs := fun row member => sameRuns.symm ▸ member
  have after : forall row, row ∈ before.runs -> rewritten run row ∈ (world.updateRun run).runs :=
    fun row member => (Table.mem_update (runId_rewritten run)).mpr ⟨row, stored row member, rfl⟩
  constructor
  · constructor
    · intro other member active
      rcases (Table.mem_insert inserted).mp member with old | rfl
      · rcases sound.booked.backed other old active with ⟨row, rowStored, same, succeeded⟩
        have apart : row.runId ≠ run.runId := fun equal => bare other old (same.symm.trans (equal.trans own))
        exact ⟨row, others row apart ▸ after row rowStored, same, succeeded⟩
      · rcases Option.isSome_iff_exists.mp present with ⟨row, found⟩
        rcases Table.mem_of_find found with ⟨rowStored, same⟩
        refine ⟨rewritten run row, after row rowStored, (runId_rewritten run row).trans same, ?_⟩
        unfold rewritten
        rw [if_pos (same.trans own.symm)]
        exact succeeds
    · intro result member succeeded
      rcases (Table.mem_update (runId_rewritten run)).mp member with ⟨row, rowMember, rfl⟩
      rw [runId_rewritten]
      by_cases same : row.runId = run.runId
      · refine ⟨artifact, (Table.mem_insert inserted).mpr (Or.inr rfl), (same.trans own).symm, ?_⟩
        intro other otherMember otherOwn
        rcases (Table.mem_insert inserted).mp otherMember with old | equal
        · exact absurd (otherOwn.trans (same.trans own)) (bare other old)
        · exact equal
      · rw [others row same] at succeeded
        rcases sound.booked.single row (sameRuns ▸ rowMember) succeeded with ⟨other, old, otherOwn, unique⟩
        refine ⟨other, (Table.mem_insert inserted).mpr (Or.inl old), otherOwn, ?_⟩
        intro third thirdMember thirdOwn
        rcases (Table.mem_insert inserted).mp thirdMember with thirdOld | rfl
        · exact unique third thirdOld thirdOwn
        · exact absurd (thirdOwn.symm.trans own.symm) same
  · intro other member
    change ((world.runs.update (rewritten run) (runId_rewritten run)).find other.runId).isSome = true
    rw [Table.find_update, Option.isSome_map, sameRuns]
    rcases (Table.mem_insert inserted).mp member with old | rfl
    · exact sound.linked other old
    · exact present

end World

/-! ## A backup -/

section Backup

variable {deployment : Deployment} {draws : BackupDraws} {policy : BackupPolicy} {run : BackupRun}

/-- A handler whose call has no effect leaves the world alone. -/
theorem failRun_lost {A : Type} {Inv : World -> Prop} (failure : BackupFailure) :
    Triple (fun outside => Inv outside.world ∧ Exists fun error => outside.fate = .fails error false)
      (failRun deployment draws run failure : Service A) (fun _ after => Inv after.world)
      (fun _ after => Inv after.world) := by
  rintro outside ⟨holds, error, fate⟩
  refine Triple.tell_bind (fun _ _ => holds) (fun other taken => ?_) (fun served => ?_) outside rfl
  · rw [fate] at taken
    cases taken
  · rw [fate] at served
    cases served

/-- Once the artifact is stored, the rest of the backup marks its run. -/
theorem finishRun_sound {artifact : BackupArtifact} {before : World} {outside : Outside BackupFailure World}
    (enabled : policy.enabled = true) (awaits : outside.world.Awaits artifact before)
    (own : run.runId = artifact.runId) (succeeds : run.status = .succeeded)
    (closes : (outside.fate = .served ∧ (outside.fateAfter 1 = .served ∨
        Exists fun error => outside.fateAfter 2 = .fails error false)) ∨
      ((Exists fun error => outside.fate = .fails error true) ∧
        Exists fun error => outside.fateAfter 1 = .fails error false)) :
    Triple (fun start => start = outside) (handle (finishRun draws policy run) (failRun deployment draws run))
      (fun _ after => after.world.Sound) (fun _ after => after.world.Sound) := by
  have marked := awaits.finish own succeeds
  have body : Triple (fun start => start = outside) (finishRun draws policy run) (fun _ after => after.world.Sound)
      (fun _ after => after.world.Sound ∧ Exists fun error => after.fate = .fails error false) := by
    unfold finishRun
    apply Triple.tell_bind
    · intro error fate
      rcases closes with ⟨served, -⟩ | ⟨⟨other, taken⟩, -⟩
      · rw [fate] at served
        cases served
      · rw [fate] at taken
        cases taken
    · intro error fate
      rcases closes with ⟨served, -⟩ | ⟨-, later⟩
      · rw [fate] at served
        cases served
      · rw [Outside.fate_next]
        exact ⟨marked, later⟩
    · intro served
      have scheduled : (policy.enabled && decide (policy.intervalMinutes ≠ 0)) = true := by
        rw [enabled, Bool.true_and]
        exact decide_eq_true (Nat.pos_iff_ne_zero.mp policy.interval_positive)
      rw [if_pos scheduled]
      have next_fate := outside.fate_next (outside.world.updateRun run)
      have next_fate' := outside.fateAfter_next (outside.world.updateRun run) 1
      have handler_lost : outside.fateAfter 1 ≠ .served -> Exists fun error => outside.fateAfter 2 = .fails error false := by
        intro unserved
        rcases closes with ⟨-, scheduled | lost⟩ | ⟨⟨error, taken⟩, -⟩
        · exact absurd scheduled unserved
        · exact lost
        · rw [served] at taken
          cases taken
      have caught : forall world, world.runs = (outside.world.updateRun run).runs ->
          world.artifacts = (outside.world.updateRun run).artifacts -> outside.fateAfter 1 ≠ .served ->
          ((outside.next (outside.world.updateRun run)).next world).world.Sound ∧ Exists fun error =>
            ((outside.next (outside.world.updateRun run)).next world).fate = .fails error false := by
        intro world runs artifacts unserved
        refine ⟨World.Sound.of_same marked runs artifacts, ?_⟩
        rw [Outside.fate_next, next_fate']
        exact handler_lost unserved
      apply Triple.tell_bind
      · intro error fate
        rw [next_fate] at fate
        exact caught _ rfl rfl (fate ▸ nofun)
      · intro error fate
        rw [next_fate] at fate
        exact caught _ rfl rfl (fate ▸ nofun)
      · intro _
        apply Triple.pure
        rintro after rfl
        exact World.Sound.of_same marked rfl rfl
  exact Triple.handle body fun failure => failRun_lost failure

/-- The artifact row is added, or nothing changes. -/
theorem createArtifact_cases (artifact : BackupArtifact) (world : World) :
    (Exists fun error => world.createArtifact artifact = (.error error, world)) ∨
      (Exists fun artifacts => world.artifacts.insert artifact = some artifacts ∧
        (world.runs.find artifact.runId).isSome = true ∧
        world.createArtifact artifact = (.ok (), { world with artifacts := artifacts })) := by
  unfold World.createArtifact
  split
  · exact Or.inl ⟨_, rfl⟩
  · rename_i linked
    split
    · exact Or.inl ⟨_, rfl⟩
    · rename_i artifacts inserted
      refine Or.inr ⟨artifacts, inserted, ?_, rfl⟩
      cases found : world.runs.find artifact.runId with
      | some row => rfl
      | none =>
          rw [found] at linked
          exact absurd (Bool.true_or _) linked

theorem uploadFile_same (uri : Text -> Text) (localPath key : Text) (world : World) :
    (world.uploadFile uri localPath key).2.runs = world.runs ∧
      (world.uploadFile uri localPath key).2.artifacts = world.artifacts := by
  unfold World.uploadFile
  split <;> exact ⟨rfl, rfl⟩

theorem dumped_same (path : Text) (execution : Execution) (world : World) :
    (dumped path execution world).runs = world.runs ∧ (dumped path execution world).artifacts = world.artifacts := by
  unfold dumped
  split <;> exact ⟨rfl, rfl⟩

theorem dump_bind {A : Type} {command : BackupCommand} {timeout : Nat} {execution : Execution}
    {rest : Unit -> Service A} {post : A -> Outside BackupFailure World -> Prop}
    {failed : BackupFailure -> Outside BackupFailure World -> Prop} {outside : Outside BackupFailure World}
    (refuses : forall failure, runCommand command.command (some timeout) execution.outcome = .error failure ->
      failed failure { outside with world := dumped command.outputPath execution outside.world })
    (continues : forall result, runCommand command.command (some timeout) execution.outcome = .ok result ->
      Triple (fun before => before = { outside with world := dumped command.outputPath execution outside.world })
        (rest ()) post failed) :
    Triple (fun before => before = outside) (dump command timeout execution >>= rest) post failed := by
  have ending : Triple
      (fun before => before = { outside with world := dumped command.outputPath execution outside.world })
      ((inspect fun _ => (runCommand command.command (some timeout) execution.outcome).map fun _ => ()) >>= rest)
      post failed := by
    cases ran : runCommand command.command (some timeout) execution.outcome with
    | ok result =>
        apply Triple.inspect_bind
        · exact fun _ refused => absurd refused nofun
        · exact fun _ _ => continues result ran
    | error failure =>
        apply Triple.inspect_bind
        · intro other refused
          cases refused
          exact refuses failure ran
        · exact fun _ answered => absurd answered nofun
  unfold dump
  unfold dumped at ending
  cases written : execution.written with
  | some bytes =>
      rw [written] at ending
      dsimp only
      rw [bind_assoc]
      exact Triple.change_bind ending
  | none =>
      rw [written] at ending
      exact ending

/-- Storing the artifact ends with an artifact that awaits its mark, or without one. -/
theorem storeArtifact_awaits {outside : Outside BackupFailure World} (sound : outside.world.Sound)
    (bare : outside.world.Bare run.runId) (own : run.runId = draws.runId)
    (kept : Storable deployment draws policy outside.world -> outside.fate = .served ->
      forall error, outside.fateAfter 1 ≠ .fails error true) :
    Triple (fun start => start = outside) (storeArtifact deployment draws policy run)
      (fun artifact after => (Exists fun before => after.world.Awaits artifact before) ∧ artifact.runId = run.runId ∧
        Storable deployment draws policy outside.world ∧ outside.fate = .served ∧ outside.fateAfter 1 = .served ∧
          after.fates = outside.fates.tail.tail)
      (fun _ after => after.world.Sound ∧ after.world.Bare run.runId) := by
  have stays : forall world : World, world.runs = outside.world.runs -> world.artifacts = outside.world.artifacts ->
      world.Sound ∧ world.Bare run.runId := by
    intro world runs artifacts
    refine ⟨World.Sound.of_same sound runs artifacts, ?_⟩
    unfold World.Bare
    rw [artifacts]
    exact bare
  unfold storeArtifact
  apply Triple.inspect_bind
  · exact fun _ _ => ⟨sound, bare⟩
  intro connection resolved
  apply Triple.inspect_bind
  · exact fun _ _ => ⟨sound, bare⟩
  intro command built
  apply dump_bind
  · intro failure _
    exact stays _ (dumped_same _ _ _).1 (dumped_same _ _ _).2
  intro result ran
  apply Triple.inspect_bind
  · intro failure _
    exact stays _ (dumped_same _ _ _).1 (dumped_same _ _ _).2
  intro bytes read
  have file : draws.execution.written.isSome = true ∨ (outside.world.files.get command.outputPath).isSome = true := by
    unfold World.readFile dumped at read
    cases written : draws.execution.written with
    | some bytes => exact Or.inl rfl
    | none =>
        rw [written] at read
        dsimp only at read
        cases found : outside.world.files.get command.outputPath with
        | some bytes => exact Or.inr rfl
        | none =>
            rw [found] at read
            exact absurd read nofun
  let dumpedWorld := dumped command.outputPath draws.execution outside.world
  have uploads := uploadFile_same deployment.uri command.outputPath (storageKey policy run.runId) dumpedWorld
  have dumps := dumped_same command.outputPath draws.execution outside.world
  apply Triple.call_bind
  · intro error _
    exact stays _ dumps.1 dumps.2
  · intro error _
    exact stays _ (uploads.1.trans dumps.1) (uploads.2.trans dumps.2)
  · intro error world _ refused
    rw [refused] at uploads
    exact stays _ (uploads.1.trans dumps.1) (uploads.2.trans dumps.2)
  intro uri world uploadServed uploaded
  rw [uploaded] at uploads
  have same : world.runs = outside.world.runs ∧ world.artifacts = outside.world.artifacts :=
    ⟨uploads.1.trans dumps.1, uploads.2.trans dumps.2⟩
  have storable : world.artifacts.find draws.artifactId = none -> Storable deployment draws policy outside.world := by
    intro free
    rw [own] at built
    exact ⟨connection, command, result, resolved, built, ran, file, same.2 ▸ free⟩
  have fate := outside.fate_next world
  dsimp only
  rcases createArtifact_cases
      { artifactId := draws.artifactId, runId := run.runId, policyId := policy.policyId,
        targetSystem := policy.targetSystem, targetName := policy.targetName,
        storageKey := storageKey policy run.runId, uri := uri, sizeBytes := bytes.length,
        checksumSha256 := deployment.sha256 bytes, encryptionKeyRef := policy.encryptionKeyRef, status := .active,
        createdAt := draws.createdAt,
        expiresAt := policy.retentionDays.map fun days => draws.expiresFrom + days * microsecondsPerDay } world with
    ⟨error, refused⟩ | ⟨artifacts, inserted, present, created⟩
  · apply Triple.call_bind
    · exact fun _ _ => stays _ same.1 same.2
    · intro other _
      dsimp only [Outside.next]
      rw [refused]
      exact stays _ same.1 same.2
    · intro other after _ result
      dsimp only [Outside.next] at result
      rw [refused] at result
      cases result
      exact stays _ same.1 same.2
    · intro answer after _ result
      dsimp only [Outside.next] at result
      rw [refused] at result
      exact absurd (congrArg Prod.fst result) nofun
  · have free := storable (Table.find_eq_none_of_insert inserted)
    apply Triple.call_bind
    · exact fun _ _ => stays _ same.1 same.2
    · intro error interrupted
      exact absurd (fate.symm.trans interrupted) (kept free uploadServed error)
    · intro error after _ result
      dsimp only [Outside.next] at result
      rw [created] at result
      exact absurd (congrArg Prod.fst result) nofun
    · intro answer after served result
      dsimp only [Outside.next] at result
      rw [created] at result
      cases congrArg Prod.snd result
      apply Triple.pure
      rintro final rfl
      have before := stays world same.1 same.2
      exact ⟨⟨world, before.1, before.2, inserted, rfl, present⟩, rfl, free, uploadServed, fate.symm.trans served, rfl⟩

/-- The handler marks a run without an artifact. -/
theorem failRun_bare {A : Type} {post : A -> Outside BackupFailure World -> Prop} (failure : BackupFailure) :
    Triple (fun outside => outside.world.Sound ∧ outside.world.Bare run.runId)
      (failRun deployment draws run failure : Service A) post (fun _ after => after.world.Sound) := by
  rintro outside ⟨sound, bare⟩
  have unsuccessful : BackupRunStatus.failed ≠ .succeeded := nofun
  have marked : (outside.world.updateRun
      { run with status := .failed
                 completedAt := some draws.failedAt
                 error := some (failure.message deployment.printable) }).Sound :=
    sound.updateRun (Or.inr ⟨unsuccessful, bare⟩)
  refine Triple.tell_bind (fun _ _ => sound) (fun _ _ => marked) (fun _ => ?_) outside rfl
  apply Triple.throw
  rintro after rfl
  exact marked

variable (deployment draws) in
/-- A backup that settles keeps runs and artifacts together. -/
theorem createBackup_sound (policyId : Id) (trigger : Text) {outside : Outside BackupFailure World}
    (sound : outside.world.Sound)
    (settles : Stores deployment draws policyId outside.world ->
      (forall earlier, earlier < 3 -> outside.fateAfter earlier = .served) ->
        Closes fun later => outside.fateAfter (later + 3)) :
    Triple (fun start => start = outside) (createBackup deployment draws policyId trigger)
      (fun _ after => after.world.Sound) (fun _ after => after.world.Sound) := by
  have complains : forall {A : Type} {class_ : BackupErrorClass} {message : Text} {start : Outside BackupFailure World}
      {post : A -> Outside BackupFailure World -> Prop}, start.world.Sound ->
      Triple (fun before => before = start) (complain class_ message : Service A) post
        (fun _ after => after.world.Sound) := by
    intro A class_ message start post holds
    apply Triple.throw
    rintro after rfl
    exact holds
  unfold createBackup
  apply Triple.ask_bind
  · exact fun _ _ _ => sound
  intro firstServed
  cases found : outside.world.getPolicy policyId with
  | none => exact complains sound
  | some policy =>
      dsimp only
      split
      · exact complains sound
      · rename_i notDisabled
        have enabled := Bool.eq_true_of_not_eq_false notDisabled
        have secondFate := outside.fate_next outside.world
        have running : BackupRunStatus.running ≠ .succeeded := nofun
        apply Triple.call_bind
        · exact fun _ _ => sound
        · intro error _
          cases created : outside.world.createRun
              { runId := draws.runId, policyId := policyId, trigger := trigger, status := .running,
                startedAt := draws.startedAt, completedAt := none, artifactUri := none, artifactSizeBytes := none,
                checksumSha256 := none, error := none, verificationStatus := none, lastVerifiedAt := none } with
          | mk answer world =>
              dsimp only [Outside.next]
              rw [created]
              cases answer with
              | ok answer => exact (sound.createRun running created).2.2.1
              | error refusal =>
                  rw [World.createRun_refused created]
                  exact sound
        · intro error world _ refused
          rw [World.createRun_refused refused]
          exact sound
        · intro run world secondServed created
          rcases sound.createRun running created with ⟨sameRun, free, soundAfter, bare, sameArtifacts, sameFiles⟩
          have own : run.runId = draws.runId := by rw [sameRun]
          have bareRun : world.Bare run.runId := own ▸ bare
          have fates : forall earlier, ((outside.next outside.world).next world).fateAfter earlier =
              outside.fateAfter (earlier + 2) := by
            intro earlier
            rw [Outside.fateAfter_next, Outside.fateAfter_next]
          have closing : Storable deployment draws policy world ->
              ((outside.next outside.world).next world).fate = .served ->
                Closes fun later => outside.fateAfter (later + 3) := by
            intro storable thirdServed
            unfold Storable at storable
            rw [sameArtifacts, sameFiles] at storable
            apply settles ⟨policy, found, enabled, free, storable⟩
            intro earlier small
            have position : earlier = 0 ∨ earlier = 1 ∨ earlier = 2 := by omega
            rcases position with rfl | rfl | rfl
            · exact firstServed
            · exact secondFate.symm.trans secondServed
            · exact (fates 0).symm.trans thirdServed
          have stored : Triple (fun start => start = (outside.next outside.world).next world)
              (storeArtifact deployment draws policy run) _ _ :=
            storeArtifact_awaits soundAfter bareRun own fun storable served error interrupted =>
              (closing storable served).1 error ((fates 1).symm.trans interrupted)
          apply Triple.bind (Triple.handle stored fun failure => failRun_bare failure)
          rintro artifact after ⟨⟨before, awaits⟩, ownArtifact, storable, thirdServed, fourthServed, rest⟩
          have later : forall earlier, after.fateAfter earlier = outside.fateAfter (earlier + 4) := by
            intro earlier
            unfold Outside.fateAfter
            rw [rest]
            change ((outside.fates.tail.tail.tail.tail).drop earlier).head?.getD .served = _
            rw [List.drop_tail, List.drop_tail, List.drop_tail, List.drop_tail]
          have closes := (closing storable thirdServed).2 ((fates 1).symm.trans fourthServed)
          have here : after.fate = outside.fateAfter 4 := later 0
          refine finishRun_sound enabled awaits ?_ ?_ ?_ after rfl
          · exact ownArtifact.symm
          · rfl
          · rw [here, later 1, later 2]
            exact closes

end Backup

/-! ## Verification, restoration and retention -/

section Others

variable (deployment : Deployment)

/-- The world is sound and the run has the mark that was read. -/
def Held (run : BackupRun) (world : World) : Prop :=
  world.Sound ∧ world.Agrees run

theorem held_of_found {world : World} (sound : world.Sound) {runId : Id} {run : BackupRun}
    (found : world.getRun runId = some run) : Held run world := by
  refine ⟨sound, fun row member same => ?_⟩
  rw [Table.eq_of_key_eq member (Table.mem_of_find found).1 same]

theorem Held.of_same {run : BackupRun} {before after : World} (held : Held run before)
    (runs : after.runs = before.runs) (artifacts : after.artifacts = before.artifacts) : Held run after := by
  refine ⟨World.Sound.of_same held.1 runs artifacts, ?_⟩
  unfold World.Agrees
  rw [runs]
  exact held.2

/-- A rewrite that leaves the mark of the run. -/
theorem Held.updateRun {run : BackupRun} {world : World} (held : Held run world) {changed : BackupRun}
    (sameId : changed.runId = run.runId) (sameStatus : changed.status = run.status) :
    Held run (world.updateRun changed) := by
  have agrees : world.Agrees changed := by
    intro row member own
    rw [sameStatus]
    exact held.2 row member (own.trans sameId)
  refine ⟨held.1.updateRun (Or.inl agrees), ?_⟩
  intro after member own
  rcases (Table.mem_update (World.runId_rewritten changed)).mp member with ⟨row, stored, rfl⟩
  rw [World.runId_rewritten] at own
  unfold World.rewritten
  rw [if_pos (own.trans sameId.symm)]
  exact sameStatus

theorem downloadFile_same (key localPath : Text) (world : World) :
    (world.downloadFile key localPath).2.runs = world.runs ∧
      (world.downloadFile key localPath).2.artifacts = world.artifacts := by
  unfold World.downloadFile
  split <;> exact ⟨rfl, rfl⟩

theorem checkArtifact_held (run : BackupRun) (draws : VerifyDraws) (policy : BackupPolicy) (artifact : BackupArtifact)
    (localPath : Text) : Maintains (Held run) (checkArtifact deployment draws policy artifact localPath) := by
  unfold checkArtifact
  apply Maintains.bind
  · apply Maintains.call
    exact fun world held => held.of_same (downloadFile_same _ _ world).1 (downloadFile_same _ _ world).2
  intro _
  apply Maintains.bind (Maintains.inspect _)
  intro bytes
  split
  · exact Maintains.bind (Maintains.throw _) fun _ => Maintains.inspect _
  · exact Maintains.inspect _

theorem failVerification_held {A : Type} {run changed : BackupRun} (sameId : changed.runId = run.runId)
    (sameStatus : changed.status = run.status) (failure : BackupFailure) :
    Maintains (Held run) (failVerification deployment changed failure : Service A) := by
  unfold failVerification
  apply Maintains.bind (Maintains.tell fun world held => held.updateRun sameId sameStatus)
  exact fun _ => Maintains.throw _

theorem verifyBackup_sound (draws : VerifyDraws) (runId : Id) :
    Maintains World.Sound (verifyBackup deployment draws runId) := by
  intro outside sound
  unfold verifyBackup
  refine Triple.ask_bind (fun _ _ _ => sound) (fun _ => ?_) outside rfl
  cases found : outside.world.getRun runId with
  | none => exact (Maintains.throw _).weaken (fun _ same => same ▸ sound) (fun _ _ kept => kept) fun _ _ kept => kept
  | some run =>
      refine Maintains.from_known ?_ (held_of_found sound found) fun _ held => held.1
      apply Maintains.bind (Maintains.ask _)
      intro foundArtifact
      cases foundArtifact with
      | none => exact Maintains.throw _
      | some artifact =>
          apply Maintains.bind (Maintains.ask _)
          intro foundPolicy
          cases foundPolicy with
          | none => exact Maintains.throw _
          | some policy =>
              apply Maintains.bind
              · exact Maintains.handle (checkArtifact_held deployment run draws policy artifact _)
                  fun failure => failVerification_held deployment rfl rfl failure
              intro _
              apply Maintains.handle
              · apply Maintains.bind (Maintains.tell fun world held => held.updateRun rfl rfl)
                exact fun _ => Maintains.pure _
              · intro failure
                let verified :=
                  { run with
                    verificationStatus := some "SUCCEEDED".toList
                    lastVerifiedAt := some draws.verifiedAt }
                have sameId : verified.runId = run.runId := rfl
                exact failVerification_held deployment sameId rfl failure

theorem applyRetention_sound (now : Moment) (policyId : Id) : Maintains World.Sound (applyRetention now policyId) := by
  unfold applyRetention
  apply Maintains.bind (Maintains.ask _)
  intro found
  cases found with
  | none => exact Maintains.throw _
  | some policy =>
      apply Maintains.bind (Maintains.ask _)
      intro active
      apply Maintains.bind
      · apply Maintains.forM
        intro artifact _
        apply Maintains.bind (Maintains.tell fun world sound => sound.updateArtifactStatus _ nofun)
        intro _
        split
        · have deletes : forall world : World, world.Sound -> (world.deleteObject artifact.storageKey).Sound :=
            fun _ sound => World.Sound.of_same sound rfl rfl
          apply Maintains.bind (Maintains.tell deletes)
          exact fun _ => Maintains.tell fun world sound => sound.updateArtifactStatus _ nofun
        · exact Maintains.pure _
      · exact fun _ => Maintains.pure _

theorem createRestore_same (restore : RestoreRun) (world : World) :
    (world.createRestore restore).2.runs = world.runs ∧
      (world.createRestore restore).2.artifacts = world.artifacts := by
  unfold World.createRestore
  split
  · exact ⟨rfl, rfl⟩
  · split <;> exact ⟨rfl, rfl⟩

theorem recordRestore_sound (draws : RestoreDraws) (runId : Id) (request : RestoreRequest)
    (resolvedTargetConnection localPath : Text) :
    Maintains World.Sound (recordRestore deployment draws runId request resolvedTargetConnection localPath) := by
  have updates : forall (restore : RestoreRun) (world : World), world.Sound -> (world.updateRestore restore).Sound :=
    fun _ _ sound => World.Sound.of_same sound rfl rfl
  unfold recordRestore
  apply Maintains.bind (Maintains.inspect _)
  intro redactedCommand
  apply Maintains.bind (Maintains.inspect _)
  intro redactedConnection
  apply Maintains.bind
  · apply Maintains.call
    intro world sound
    exact World.Sound.of_same sound (createRestore_same _ world).1 (createRestore_same _ world).2
  intro restore
  split
  · exact Maintains.bind (Maintains.tell (updates _)) fun _ => Maintains.pure _
  · apply Maintains.handle
    · unfold executeRestore
      apply Maintains.bind (Maintains.inspect _)
      intro _
      exact Maintains.bind (Maintains.tell (updates _)) fun _ => Maintains.pure _
    · intro failure
      unfold failRestore
      exact Maintains.bind (Maintains.tell (updates _)) fun _ => Maintains.throw _

theorem restoreBackup_sound (draws : RestoreDraws) (runId : Id) (request : RestoreRequest) :
    Maintains World.Sound (restoreBackup deployment draws runId request) := by
  unfold restoreBackup
  apply Maintains.bind (Maintains.ask _)
  intro foundRun
  cases foundRun with
  | none => exact Maintains.throw _
  | some run =>
      apply Maintains.ite (Maintains.throw _)
      apply Maintains.bind (Maintains.ask _)
      intro foundArtifact
      cases foundArtifact with
      | none => exact Maintains.throw _
      | some artifact =>
          apply Maintains.ite (Maintains.throw _)
          apply Maintains.ite (Maintains.throw _)
          apply Maintains.bind (Maintains.inspect _)
          intro resolved
          apply Maintains.bind
          · apply Maintains.call
            intro world sound
            exact World.Sound.of_same sound (downloadFile_same _ _ world).1 (downloadFile_same _ _ world).2
          intro _
          apply Maintains.bind (Maintains.inspect _)
          intro bytes
          exact Maintains.ite (Maintains.throw _) (recordRestore_sound deployment draws runId request resolved _)

end Others

/-! ## Histories -/

/-- A step that settles keeps runs and artifacts together. -/
theorem World.Sound.step (deployment : Deployment) (world : World) (step : BackupStep) (sound : world.Sound)
    (settles : step.Settles deployment world) : (world.step deployment step).Sound := by
  rcases step with ⟨action, fates⟩
  cases action with
  | createBackup draws policyId trigger =>
      have begins : (world.facing ⟨.createBackup draws policyId trigger, fates⟩).world.Sound := sound
      have created := createBackup_sound deployment draws policyId trigger begins settles
      exact created.finalWorld (fun _ _ kept => kept) (fun _ _ kept => kept) rfl
  | verifyBackup draws runId => exact (verifyBackup_sound deployment draws runId).finalWorld sound
  | restoreBackup draws runId request => exact (restoreBackup_sound deployment draws runId request).finalWorld sound
  | applyRetention now policyId => exact (applyRetention_sound now policyId).finalWorld sound

/-- Before the first backup. -/
structure World.Unused (world : World) : Prop where
  runs : world.runs.rows = []
  artifacts : world.artifacts.rows = []

theorem World.Unused.sound {world : World} (unused : world.Unused) : world.Sound := by
  have noRun : forall run, run ∉ world.runs := by
    intro run member
    change run ∈ world.runs.rows at member
    rw [unused.runs] at member
    exact List.not_mem_nil member
  have noArtifact : forall artifact, artifact ∉ world.artifacts := by
    intro artifact member
    change artifact ∈ world.artifacts.rows at member
    rw [unused.artifacts] at member
    exact List.not_mem_nil member
  constructor
  · constructor
    · exact fun artifact member => absurd member (noArtifact artifact)
    · exact fun run member => absurd member (noRun run)
  · exact fun artifact member => absurd member (noArtifact artifact)

/-- While no backup fails once its artifact is stored, active artifacts and succeeded
runs go together. -/
theorem artifacts_booked_while_settled (deployment : Deployment) (initial : World) (unused : initial.Unused)
    (steps : List BackupStep)
    (settled : Run.Guarded (World.step deployment) (fun world step => step.Settles deployment world) initial steps) :
    (steps.foldl (World.step deployment) initial).Booked := by
  have sound : (steps.foldl (World.step deployment) initial).Sound :=
    settled.invariant (World.Sound.step deployment) unused.sound
  exact sound.booked

/-! ## A backup and what follows it -/

namespace Scenario

def deployment : Deployment :=
  database "postgresql://backup:secret@db/market".toList

def verification : BackupStep where
  action := .verifyBackup { verifiedAt := 1, outcome := .exits 0 [] [] } 1
  fates := []

def retention : BackupStep where
  action := .applyRetention 2 1
  fates := []

end Scenario

/-- A backup, its verification and the retention after it. -/
theorem artifacts_booked_when_served :
    ([Scenario.backup (.exits 0 [] []) [], Scenario.verification, Scenario.retention].foldl (World.step Scenario.deployment)
      Scenario.unused).Booked := by
  refine artifacts_booked_while_settled Scenario.deployment Scenario.unused ⟨rfl, rfl⟩ _ ⟨?_, trivial, trivial, trivial⟩
  intro _ _
  exact ⟨nofun, fun _ => Or.inl ⟨rfl, Or.inl rfl⟩⟩

/-- A policy that cannot be scheduled turns the run of a stored artifact into a failed
one. -/
theorem unscheduled_policy_fails_a_stored_backup :
    ¬ forall (deployment : Deployment) (initial : World), initial.Unused ->
      forall steps : List BackupStep, (steps.foldl (World.step deployment) initial).Booked := by
  intro booked
  have after := booked Scenario.deployment Scenario.unused ⟨rfl, rfl⟩
    [Scenario.backup (.exits 0 [] [])
      [.served, .served, .served, .served, .served, .fails Scenario.unreachable false]]
  rcases after.backed _ List.mem_cons_self rfl with ⟨run, stored, -, succeeded⟩
  have failed : run.status = .failed := by
    rcases List.mem_singleton.mp stored with rfl
    rfl
  exact absurd (failed.symm.trans succeeded) nofun

end Backup
end ApexQuant
