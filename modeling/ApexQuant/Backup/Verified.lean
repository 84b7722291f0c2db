import ApexQuant.Backup.Integrity

namespace ApexQuant
namespace Backup

open Foundation
open Foundation.Faults
open BackupService

/-!
# What a verified run stands for

The run rows go back to their backups as the artifacts do: when they were started and for
which policy is fixed.  A row says `SUCCEEDED` of its verification only after a call of
`verify_backup` that found an object with the checksum of the dump.
-/

/-- A call of `verify_backup` that starts here finds this content under the artifact of the
run, with the checksum that is recorded. -/
def Finds (deployment : Deployment) (world : World) (runId : Id) (content : Bytes) : Prop :=
  Exists fun artifact => world.getArtifactByRun runId = some artifact ∧
    world.objects.get artifact.storageKey = some content ∧ deployment.sha256 content = artifact.checksumSha256

/-- The event is a verification of the run that finds this content. -/
def BackupEvent.Verifies (deployment : Deployment) (world : World) (runId : Id) (content : Bytes)
    (event : BackupEvent) : Prop :=
  (Exists fun draws => Exists fun fates => event = .step { action := .verifyBackup draws runId, fates := fates }) ∧
    Finds deployment world runId content

/-- The event is a backup of the policy that starts the run then. -/
def BackupEvent.Starts (runId policyId : Id) (startedAt : Moment) (event : BackupEvent) : Prop :=
  Exists fun draws => Exists fun trigger => Exists fun fates =>
    event = .step { action := .createBackup draws policyId trigger, fates := fates } ∧ draws.runId = runId ∧
      draws.startedAt = startedAt

/-! ## The rows of the runs -/

/-- What of a run never changes. -/
def BackupRun.origin (run : BackupRun) : Id × Id × Moment :=
  (run.runId, run.policyId, run.startedAt)

/-- The row says that its verification succeeded. -/
def BackupRun.Certified (run : BackupRun) : Prop :=
  run.verificationStatus = some "SUCCEEDED".toList

/-- All runs have an origin of a kind, and those that are certified were verified. -/
def World.RunsTraced (origins : Id × Id × Moment -> Prop) (verified : Id -> Prop) (world : World) : Prop :=
  forall run, run ∈ world.runs -> origins run.origin ∧ (run.Certified -> verified run.runId)

namespace World

variable {origins : Id × Id × Moment -> Prop} {verified : Id -> Prop} {world after : World}

theorem RunsTraced.of_same (holds : world.RunsTraced origins verified) (same : after.runs = world.runs) :
    after.RunsTraced origins verified := by
  unfold RunsTraced
  rw [same]
  exact holds

theorem RunsTraced.updateRun (holds : world.RunsTraced origins verified) {run : BackupRun}
    (earned : run.Certified -> verified run.runId) : (world.updateRun run).RunsTraced origins verified := by
  intro row member
  rcases (Table.mem_update (runId_rewritten run)).mp member with ⟨old, stored, rfl⟩
  unfold rewritten
  split
  · rename_i same
    exact ⟨(holds old stored).1, fun certified => same ▸ earned certified⟩
  · exact holds old stored

theorem RunsTraced.createRun (holds : world.RunsTraced origins verified) {run : BackupRun} (new : origins run.origin)
    (uncertified : ¬run.Certified) : (world.createRun run).2.RunsTraced origins verified := by
  unfold World.createRun
  split
  · exact holds
  · split
    · exact holds
    · rename_i runs inserted
      intro row member
      rcases (Table.mem_insert inserted).mp member with old | rfl
      · exact holds row old
      · exact ⟨new, fun certified => absurd certified uncertified⟩

theorem RunsTraced.ofTables : OfTables (RunsTraced origins verified) :=
  fun _ _ same holds => holds.of_same same.runs

theorem createArtifact_runs (artifact : BackupArtifact) (world : World) :
    (world.createArtifact artifact).2.runs = world.runs := by
  rcases createArtifact_cases artifact world with ⟨error, refused⟩ | ⟨artifacts, -, -, created⟩
  · rw [refused]
  · rw [created]

end World

section Steps

variable (deployment : Deployment) {origins : Id × Id × Moment -> Prop} {verified : Id -> Prop} {runId : Id}

theorem failRun_runsTraced {A : Type} (draws : BackupDraws) {run : BackupRun} (uncertified : ¬run.Certified)
    (failure : BackupFailure) :
    Maintains (World.RunsTraced origins verified) (failRun deployment draws run failure : Service A) := by
  unfold failRun
  exact Maintains.bind (Maintains.tell fun _ holds => holds.updateRun fun certified => absurd certified uncertified)
    fun _ => Maintains.throw _

theorem finishRun_runsTraced (draws : BackupDraws) (policy : BackupPolicy) {run : BackupRun}
    (uncertified : ¬run.Certified) :
    Maintains (World.RunsTraced origins verified) (finishRun draws policy run) := by
  unfold finishRun
  apply Maintains.bind
    (Maintains.tell fun _ holds => holds.updateRun fun certified => absurd certified uncertified)
  intro _
  split
  · exact Maintains.bind (Maintains.tell fun _ holds => holds.of_same rfl) fun _ => Maintains.pure _
  · exact Maintains.pure _

theorem createBackup_runsTraced (draws : BackupDraws) (policyId : Id) (trigger : Text)
    (new : origins (draws.runId, policyId, draws.startedAt)) :
    Maintains (World.RunsTraced origins verified) (createBackup deployment draws policyId trigger) := by
  unfold createBackup
  apply Maintains.bind (Maintains.ask _)
  intro found
  cases found with
  | none => exact Maintains.throw _
  | some policy =>
      dsimp only
      split
      · exact Maintains.throw _
      · apply @Maintains.bind_told _ _ _ _ _ _ _ fun run : BackupRun => run.verificationStatus = none
        · exact Maintains.call fun world holds => holds.createRun new nofun
        · intro outside run after created
          have answered := (ok_of_call created).2.1
          rw [World.createRun_ok (Prod.ext answered rfl)]
        · intro run unverified
          have uncertified : ¬run.Certified := by
            unfold BackupRun.Certified
            rw [unverified]
            exact nofun
          apply Maintains.bind
          · have stores := storeArtifact_maintains deployment (@World.RunsTraced.ofTables origins verified) draws policy
              run fun artifact world kept => kept.of_same (World.createArtifact_runs artifact world)
            exact Maintains.handle stores fun failure => failRun_runsTraced deployment draws uncertified failure
          intro artifact
          have finishedUncertified : ¬(finished draws run artifact).Certified := uncertified
          exact Maintains.handle (finishRun_runsTraced draws policy finishedUncertified) fun failure =>
            failRun_runsTraced deployment draws finishedUncertified failure

/-- What `verify_backup` learns before it certifies the run. -/
theorem checkArtifact_finds (draws : VerifyDraws) (policy : BackupPolicy) (artifact : BackupArtifact) (localPath : Text)
    {outside : Outside BackupFailure World} (holds : outside.world.RunsTraced origins verified)
    (earned : forall content, outside.world.objects.get artifact.storageKey = some content ->
      deployment.sha256 content = artifact.checksumSha256 -> verified runId) :
    Triple (fun start => start = outside) (checkArtifact deployment draws policy artifact localPath)
      (fun _ after => after.world.RunsTraced origins verified ∧ verified runId)
      (fun _ after => after.world.RunsTraced origins verified) := by
  have kept : (outside.world.downloadFile artifact.storageKey localPath).2.RunsTraced origins verified :=
    holds.of_same (downloadFile_same _ _ _).1
  unfold checkArtifact
  apply Triple.call_bind
  · exact fun _ _ => holds
  · exact fun _ _ => kept
  · intro error world _ refused
    rw [refused] at kept
    exact kept
  intro answer world _ fetched
  rw [fetched] at kept
  apply Triple.inspect_bind
  · exact fun _ _ => kept
  intro bytes read
  have stored : outside.world.objects.get artifact.storageKey = some bytes := by
    apply @get_of_download _ localPath
    · rw [fetched]
    · rw [fetched]
      exact read
  by_cases same : deployment.sha256 bytes = artifact.checksumSha256
  · have known := earned bytes stored same
    rw [if_neg (not_not.mpr same)]
    refine Triple.inspect (fun after value unchanged _ => ?_) fun after error unchanged _ => ?_
    · rw [unchanged]
      exact ⟨kept, known⟩
    · rw [unchanged]
      exact kept
  · rw [if_pos same]
    refine Triple.bind (Triple.throw fun after unchanged => ?_ : Triple _ _ (fun _ _ => False) _) fun _ => nofun
    rw [unchanged]
    exact kept

/-- The handler certifies nothing and never returns. -/
theorem failVerification_runsTraced {A : Type} {post : A -> Outside BackupFailure World -> Prop} (run : BackupRun)
    (failure : BackupFailure) :
    Triple (fun outside => outside.world.RunsTraced origins verified)
      (failVerification deployment run failure : Service A) post
      (fun _ after => after.world.RunsTraced origins verified) := by
  have marks (world : World) (holds : world.RunsTraced origins verified) (message : Text) :
      (world.updateRun { run with verificationStatus := some "FAILED".toList, error := some message }).RunsTraced
        origins verified :=
    holds.updateRun fun certified => absurd (Option.some.inj certified) (by decide)
  unfold failVerification
  refine Triple.bind (Maintains.tell fun world holds => marks world holds _) fun _ => ?_
  exact Triple.throw fun _ kept => kept

theorem verifyBackup_runsTraced (draws : VerifyDraws) {outside : Outside BackupFailure World}
    (holds : outside.world.RunsTraced origins verified)
    (earned : forall content, Finds deployment outside.world runId content -> verified runId) :
    Triple (fun start => start = outside) (verifyBackup deployment draws runId)
      (fun _ after => after.world.RunsTraced origins verified)
      (fun _ after => after.world.RunsTraced origins verified) := by
  have missing {class_ : BackupErrorClass} {message : Text} :
      Triple (fun before : Outside BackupFailure World => before.world.RunsTraced origins verified)
        (complain class_ message : Service BackupRun) (fun _ after => after.world.RunsTraced origins verified)
        (fun _ after => after.world.RunsTraced origins verified) := Maintains.throw _
  unfold verifyBackup
  apply Triple.ask_bind (fun _ _ _ => holds)
  intro _
  cases foundRun : outside.world.getRun runId with
  | none => exact missing.weaken (fun _ same => same ▸ holds) (fun _ _ kept => kept) fun _ _ kept => kept
  | some run =>
      have own : run.runId = runId := (Table.mem_of_find foundRun).2
      apply Triple.ask_bind (fun _ _ _ => holds)
      intro _
      cases foundArtifact : (outside.next outside.world).world.getArtifactByRun runId with
      | none => exact missing.weaken (fun _ same => same ▸ holds) (fun _ _ kept => kept) fun _ _ kept => kept
      | some artifact =>
          apply Triple.ask_bind (fun _ _ _ => holds)
          intro _
          dsimp only
          cases (((outside.next outside.world).next (outside.next outside.world).world).world).getPolicy run.policyId with
          | none => exact missing.weaken (fun _ same => same ▸ holds) (fun _ _ kept => kept) fun _ _ kept => kept
          | some policy =>
              have checks := @checkArtifact_finds deployment origins verified runId draws policy artifact
                (inDirectory deployment.workdir ("verify-".toList ++ uuidText runId ++ ".dump".toList))
                (((outside.next outside.world).next (outside.next outside.world).world).next outside.world)
                holds fun content stored same => earned content ⟨artifact, foundArtifact, stored, same⟩
              refine Triple.bind (Triple.handle checks fun failure => failVerification_runsTraced deployment run failure)
                fun _ => ?_
              refine Triple.handle ?_ fun failure => failVerification_runsTraced deployment _ failure
              intro after known
              refine Maintains.bind (Maintains.tell fun world kept => kept.updateRun fun _ => ?_) (fun _ => Maintains.pure _)
                after known.1
              rw [own]
              exact known.2

/-- A step starts no run but that of its own backup, and certifies none but the run of its
own verification. -/
theorem World.RunsTraced.step {world : World} {step : BackupStep} (holds : world.RunsTraced origins verified)
    (new : forall runId policyId startedAt, (BackupEvent.step step).Starts runId policyId startedAt ->
      origins (runId, policyId, startedAt))
    (earned : forall runId content, (BackupEvent.step step).Verifies deployment world runId content -> verified runId) :
    (world.step deployment step).RunsTraced origins verified := by
  rcases step with ⟨action, fates⟩
  cases action with
  | createBackup draws policyId trigger =>
      refine (createBackup_runsTraced deployment draws policyId trigger ?_).finalWorld holds
      exact new _ _ _ ⟨draws, trigger, fates, rfl, rfl, rfl⟩
  | verifyBackup draws runId =>
      have begins : (world.facing ⟨.verifyBackup draws runId, fates⟩).world.RunsTraced origins verified := holds
      have ended := verifyBackup_runsTraced deployment draws begins fun content finds =>
        earned runId content ⟨⟨draws, fates, rfl⟩, finds⟩
      exact ended.finalWorld (fun _ _ kept => kept) (fun _ _ kept => kept) rfl
  | restoreBackup draws runId request =>
      exact (restoreBackup_maintains deployment World.RunsTraced.ofTables draws runId request).finalWorld holds
  | applyRetention now policyId =>
      have keeps := applyRetention_maintains (@World.RunsTraced.ofTables origins verified) now policyId fun _ _ _ kept =>
        kept.of_same rfl
      exact keeps.finalWorld holds

end Steps

/-! ## Histories -/

section Histories

variable (deployment : Deployment) (initial : World)

/-- Some backup of the history started the run. -/
def Started (events : List BackupEvent) (origin : Id × Id × Moment) : Prop :=
  Exists fun event => event ∈ events ∧ event.Starts origin.1 origin.2.1 origin.2.2

/-- The history dumped the run, and a later verification found its checksum in the storage. -/
def DumpedAndVerified (events : List BackupEvent) (runId : Id) : Prop :=
  Exists fun before => Exists fun event => Exists fun after => Exists fun content =>
    events = before ++ event :: after ∧
      event.Verifies deployment (watchedAfter deployment initial before).world runId content ∧
      Dumped deployment initial before (runId, deployment.sha256 content)

variable {deployment initial}

theorem Started.concat {events : List BackupEvent} {origin : Id × Id × Moment} (started : Started events origin)
    (last : BackupEvent) : Started (events ++ [last]) origin := by
  rcases started with ⟨event, member, starts⟩
  exact ⟨event, List.mem_append_left _ member, starts⟩

theorem DumpedAndVerified.concat {events : List BackupEvent} {runId : Id}
    (verified : DumpedAndVerified deployment initial events runId) (last : BackupEvent) :
    DumpedAndVerified deployment initial (events ++ [last]) runId := by
  rcases verified with ⟨before, event, after, content, rfl, verifies, dumped⟩
  exact ⟨before, event, after ++ [last], content, by simp, verifies, dumped⟩

/-- Over every history a certified run was dumped and verified. -/
theorem runsTraced_after (noRuns : initial.runs = Table.empty) (noArtifacts : initial.artifacts = Table.empty)
    (events : List BackupEvent) :
    (watchedAfter deployment initial events).world.RunsTraced (Started events)
      (DumpedAndVerified deployment initial events) := by
  induction events using List.reverseRecOn with
  | nil =>
      intro run member
      change run ∈ initial.runs at member
      rw [noRuns] at member
      cases member
  | append_singleton events last ih =>
      rw [watchedAfter_concat]
      have kept : (watchedAfter deployment initial events).world.RunsTraced (Started (events ++ [last]))
          (DumpedAndVerified deployment initial (events ++ [last])) := fun run member =>
        ⟨(ih run member).1.concat last, fun certified => ((ih run member).2 certified).concat last⟩
      cases last with
      | tamper objects files => exact kept.of_same rfl
      | step step =>
          change (watchedStep deployment _ step).world.RunsTraced _ _
          rw [world_watchedStep]
          refine World.RunsTraced.step deployment kept ?_ ?_
          · exact fun runId policyId startedAt starts => ⟨.step step, by simp, starts⟩
          · rintro runId content ⟨verification, artifact, found, stored, same⟩
            have dumped := @traced_after deployment initial noArtifacts events artifact
              (List.mem_of_find?_eq_some found)
            have own : artifact.runId = runId := by simpa using List.find?_some found
            rw [BackupArtifact.mark, own, ← same] at dumped
            exact ⟨events, .step step, [], content, rfl, ⟨verification, artifact, found, stored, same⟩, dumped⟩

end Histories

end Backup
end ApexQuant
