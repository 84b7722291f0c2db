import ApexQuant.Backup.Service
import ApexQuant.Foundation.Runs

namespace ApexQuant
namespace Backup

open Foundation
open Foundation.Faults
open BackupService

/-!
# Passwords in the records

A deployment is run twice, with connection URLs that differ in their passwords.  The
message of a backup whose command runs out of time shows the command and with it the
URL.  The command of a restore is recorded after `redact_command`, which does not
find the password in an argument that begins with a hyphen.  No other record depends
on the password.
-/

/-- A connection URL and the password in it. -/
def connectionUrl (scheme user password rest : Text) : Text :=
  scheme ++ "://".toList ++ user ++ ':' :: password ++ '@' :: rest

/-- The variables of two environments are the same, or connection URLs that differ
only in their passwords. -/
def Alike (environ environ' : Text -> Option Text) : Prop :=
  forall name, environ name = environ' name ∨
    Exists fun scheme => Exists fun user => Exists fun password => Exists fun password' => Exists fun rest =>
      environ name = some (connectionUrl scheme user password rest) ∧
        environ' name = some (connectionUrl scheme user password' rest)

/-- The deployment in another environment. -/
def Deployment.reading (deployment : Deployment) (environ : Text -> Option Text) : Deployment :=
  { deployment with environ := environ }

/-- The backup gets as far as its command, which runs out of time, and the failure is
recorded. -/
def RecordsTimeout (draws : BackupDraws) (policy : BackupPolicy)
    (outside : Outside BackupFailure World) : Prop :=
  draws.execution.outcome = .timesOut ∧ policy.enabled = true ∧ policy.targetSystem = .postgres ∧
    outside.world.runs.find draws.runId = none ∧ outside.fateAfter 0 = .served ∧ outside.fateAfter 1 = .served ∧
    forall error, outside.fateAfter 2 ≠ .fails error false

/-- Where the artifact of a restore is downloaded to. -/
def restorePath (deployment : Deployment) (runId : Id) : Text :=
  inDirectory deployment.workdir ("restore-".toList ++ uuidText runId ++ ".dump".toList)

/-- The restore passes every check and its row is stored. -/
def RecordsRestore (deployment : Deployment) (draws : RestoreDraws) (runId : Id) (request : RestoreRequest)
    (outside : Outside BackupFailure World) : Prop :=
  Exists fun run => Exists fun artifact => Exists fun bytes => Exists fun connection =>
    Exists fun command => Exists fun redacted =>
      (outside.world.getRun runId = some run ∧ run.status = .succeeded) ∧
        outside.world.getArtifactByRun runId = some artifact ∧
        ¬ (deployment.environment = "production".toList ∧ request.allowProductionRestore = false) ∧
        ¬ (request.dryRun = false ∧ request.confirm = false) ∧
        resolveConnectionRef deployment.environ request.targetConnectionRef = .ok connection ∧
        (outside.world.objects.get artifact.storageKey = some bytes ∧
          deployment.sha256 bytes = artifact.checksumSha256) ∧
        redactCommand deployment.packages (buildRestoreCommand (restorePath deployment runId) connection) = .ok command ∧
        redactUrl deployment.packages connection = .ok redacted ∧
        outside.world.restores.find draws.restoreId = none ∧
        (forall earlier, earlier < 3 -> outside.fateAfter earlier = .served) ∧
        forall error, outside.fateAfter 3 ≠ .fails error false

/-- A step that connects to the same URL in both environments, or that does not get
so far as to record the one it connects to. -/
def BackupStep.Unexposed (deployment : Deployment) (environ environ' : Text -> Option Text) (world : World)
    (step : BackupStep) : Prop :=
  match step.action with
  | .createBackup draws policyId _ =>
      forall policy, world.getPolicy policyId = some policy ->
        resolveConnectionRef environ policy.targetConnectionRef =
            resolveConnectionRef environ' policy.targetConnectionRef ∨
          ¬ RecordsTimeout draws policy (world.facing step)
  | .verifyBackup _ _ => True
  | .restoreBackup draws runId request =>
      resolveConnectionRef environ request.targetConnectionRef =
          resolveConnectionRef environ' request.targetConnectionRef ∨
        (¬ RecordsRestore (deployment.reading environ) draws runId request (world.facing step) ∧
          ¬ RecordsRestore (deployment.reading environ') draws runId request (world.facing step))
  | .applyRetention _ _ => True

/-! ## What is shown of a command -/

/-- The recorded command of a restore carries the connection as it is. -/
theorem option_mem_of_redactCommand {packages : Urls.Packages} {localPath connection : Text} {redacted : List Text}
    (returned : redactCommand packages (buildRestoreCommand localPath connection) = .ok redacted) :
    "--dbname=".toList ++ connection ∈ redacted := by
  unfold redactCommand buildRestoreCommand at returned
  have listed := Run.eq_filterMap_of_mapM returned
  rw [listed]
  apply List.mem_filterMap.mpr
  refine ⟨"--dbname=".toList ++ connection, ?_, ?_⟩
  · exact List.mem_cons_of_mem _ (List.mem_cons_of_mem _ (List.mem_cons_of_mem _ (List.mem_cons_of_mem _
      (List.mem_cons_of_mem _ List.mem_cons_self))))
  · have kept : redactUrl packages ("--dbname=".toList ++ connection) = .ok ("--dbname=".toList ++ connection) :=
      redactUrl_option packages ("-dbname=".toList ++ connection)
    split
    · rw [kept]
      rfl
    · rfl

/-! ## Connections -/

section Connections

variable {environ environ' : Text -> Option Text}

theorem connectionUrl_eq_cons (scheme user password rest : Text) :
    Exists fun c => Exists fun others => connectionUrl scheme user password rest = c :: others := by
  unfold connectionUrl
  cases scheme with
  | nil => exact ⟨_, _, rfl⟩
  | cons c scheme => exact ⟨_, _, rfl⟩

/-- A reference is refused in both environments, and for the same reason, or in none. -/
theorem Alike.resolve (alike : Alike environ environ') (reference : Text) :
    resolveConnectionRef environ reference = resolveConnectionRef environ' reference ∨
      Exists fun connection => Exists fun connection' =>
        resolveConnectionRef environ reference = .ok connection ∧
          resolveConnectionRef environ' reference = .ok connection' := by
  unfold resolveConnectionRef
  by_cases variable_ : "env://".toList.isPrefixOf reference
  · rw [if_pos variable_, if_pos variable_]
    rcases alike (reference.drop 6) with same | ⟨scheme, user, password, password', rest, value, value'⟩
    · rw [same]
      exact Or.inl rfl
    · rcases connectionUrl_eq_cons scheme user password rest with ⟨c, others, first⟩
      rcases connectionUrl_eq_cons scheme user password' rest with ⟨c', others', first'⟩
      rw [value, value', first, first']
      exact Or.inr ⟨_, _, rfl, rfl⟩
  · rw [if_neg variable_, if_neg variable_]
    exact Or.inl rfl

end Connections

/-! ## Backups -/

section Backups

variable {deployment : Deployment} {environ environ' : Text -> Option Text} {draws : BackupDraws}
variable {policy : BackupPolicy} {run : BackupRun}

/-- Unless its command runs out of time, a command is as good as another that writes
the same file. -/
theorem dump_congr {execution : Execution} (inTime : execution.outcome ≠ .timesOut) (command command' : List Text)
    (outputPath : Text) (timeout : Nat) :
    dump { command := command, outputPath := outputPath } timeout execution =
      dump { command := command', outputPath := outputPath } timeout execution := by
  unfold dump
  rw [runCommand_congr inTime command command']

/-- The artifact is stored in the same way in both environments, unless the command
runs out of time. -/
theorem storeArtifact_alike (alike : Alike environ environ')
    (harmless : resolveConnectionRef environ policy.targetConnectionRef =
        resolveConnectionRef environ' policy.targetConnectionRef ∨
      policy.targetSystem ≠ .postgres ∨ draws.execution.outcome ≠ .timesOut)
    (outside : Outside BackupFailure World) :
    storeArtifact (deployment.reading environ) draws policy run outside =
      storeArtifact (deployment.reading environ') draws policy run outside := by
  unfold storeArtifact
  dsimp only [Deployment.reading]
  rw [inspect_bind_run, inspect_bind_run]
  rcases alike.resolve policy.targetConnectionRef with same | ⟨connection, connection', resolved, resolved'⟩
  · rw [same]
  rcases harmless with same | apart
  · rw [same]
  rw [resolved, resolved']
  dsimp only
  rw [inspect_bind_run, inspect_bind_run]
  unfold buildBackupCommand
  by_cases supported : policy.targetSystem = .postgres
  · have inTime := apart.resolve_left (not_not_intro supported)
    rw [if_neg (not_not_intro supported), if_neg (not_not_intro supported)]
    exact congrArg (fun first : Service Unit => (first >>= _) outside) (dump_congr inTime _ _ _ _)
  · rw [if_pos supported, if_pos supported]

/-- What is left when the command runs out of time. -/
theorem storeArtifact_timesOut (supported : policy.targetSystem = .postgres) (late : draws.execution.outcome = .timesOut)
    {connection : Text} (resolved : resolveConnectionRef environ policy.targetConnectionRef = .ok connection)
    (outside : Outside BackupFailure World) :
    Exists fun command =>
      storeArtifact (deployment.reading environ) draws policy run outside =
        .error (.timedOut command (some policy.backupTimeoutSeconds))
          { outside with
            world := dumped (inDirectory deployment.workdir (policy.targetName ++ '-' :: uuidText run.runId ++
              ".dump".toList)) draws.execution outside.world } := by
  unfold storeArtifact
  dsimp only [Deployment.reading]
  rw [inspect_bind_run, resolved]
  dsimp only
  rw [inspect_bind_run]
  unfold buildBackupCommand
  rw [if_neg (not_not_intro supported)]
  dsimp only
  rw [bind_run]
  unfold dump dumped
  rw [late]
  cases draws.execution.written <;> exact ⟨_, rfl⟩

/-- A run is created under an identifier that is free. -/
theorem createRun_ok {run answer : BackupRun} {world : World} (created : (world.createRun run).1 = .ok answer) :
    answer = run ∧ world.runs.find run.runId = none := by
  unfold World.createRun at created
  split at created
  · cases created
  · cases inserted : world.runs.insert run with
    | none =>
        rw [inserted] at created
        cases created
    | some runs =>
        rw [inserted] at created
        exact ⟨(Except.ok.inj created).symm, Table.find_eq_none_of_insert inserted⟩

/-- A failure whose record is lost leaves the world alone. -/
theorem failRun_lost_run {A : Type} {failure error : BackupFailure} {outside : Outside BackupFailure World}
    (lost : outside.fate = .fails error false) :
    (failRun deployment draws run failure : Service A) outside = .error error (outside.next outside.world) := by
  unfold failRun
  rw [bind_run]
  unfold Faults.tell
  rw [error_of_call_lost lost]

/-- A backup in two environments that resolve its connection alike, or do not record
what becomes of its command. -/
theorem createBackup_alike (alike : Alike environ environ') (policyId : Id) (trigger : Text)
    {outside : Outside BackupFailure World}
    (unexposed : forall policy, outside.world.getPolicy policyId = some policy ->
      resolveConnectionRef environ policy.targetConnectionRef =
          resolveConnectionRef environ' policy.targetConnectionRef ∨
        ¬ RecordsTimeout draws policy outside) :
    finalWorld (createBackup (deployment.reading environ) draws policyId trigger) outside =
      finalWorld (createBackup (deployment.reading environ') draws policyId trigger) outside := by
  unfold createBackup
  apply finalWorld_bind_congr rfl
  intro found between asked
  rcases ok_of_call asked with ⟨firstFate, answered, rfl⟩
  have known := Except.ok.inj answered
  cases found with
  | none => rfl
  | some policy =>
      dsimp only
      apply finalWorld_ite_congr (fun _ => rfl)
      intro disabled
      apply finalWorld_bind_congr rfl
      intro run after created
      rcases ok_of_call created with ⟨secondFate, answered, reached⟩
      rcases createRun_ok answered with ⟨rfl, free⟩
      by_cases harmless : resolveConnectionRef environ policy.targetConnectionRef =
          resolveConnectionRef environ' policy.targetConnectionRef ∨
        policy.targetSystem ≠ .postgres ∨ draws.execution.outcome ≠ .timesOut
      · apply finalWorld_bind_congr
        · unfold handle
          rw [storeArtifact_alike alike harmless]
          rfl
        · exact fun _ _ _ => rfl
      · rw [not_or, not_or] at harmless
        rcases harmless with ⟨apart, supported, late⟩
        rcases (alike.resolve policy.targetConnectionRef).resolve_left apart with
          ⟨connection, connection', resolved, resolved'⟩
        have lost : Exists fun error => outside.fateAfter 2 = .fails error false := by
          by_contra recorded
          apply (unexposed policy known).resolve_left apart
          have secondServed : outside.fateAfter 1 = .served := (outside.fate_next outside.world).symm.trans secondFate
          exact ⟨not_not.mp late, Bool.eq_true_of_not_eq_false disabled, not_not.mp supported, free, firstFate,
            secondServed, fun error fails => recorded ⟨error, fails⟩⟩
        rcases lost with ⟨error, fails⟩
        have thirdFate : forall world : World, Outside.fate { after with world := world } = .fails error false := by
          intro world
          change after.fate = .fails error false
          rw [reached, Outside.fate_next, Outside.fateAfter_next]
          exact fails
        rcases storeArtifact_timesOut (not_not.mp supported) (not_not.mp late) resolved after with ⟨command, ended⟩
        rcases storeArtifact_timesOut (not_not.mp supported) (not_not.mp late) resolved' after with ⟨command', ended'⟩
        rw [finalWorld_bind_of_error ((handle_of_error ended).trans (failRun_lost_run (thirdFate _))),
          finalWorld_bind_of_error ((handle_of_error ended').trans (failRun_lost_run (thirdFate _)))]

end Backups

/-! ## Restores -/

section Restores

variable {deployment : Deployment} {environ environ' : Text -> Option Text} {draws : RestoreDraws}
variable {runId : Id} {request : RestoreRequest}

theorem createRestore_refused {restore : RestoreRun} {world : World}
    (taken : world.restores.find restore.restoreId ≠ none) :
    Exists fun error => world.createRestore restore = (.error error, world) := by
  unfold World.createRestore
  split
  · exact ⟨_, rfl⟩
  · cases inserted : world.restores.insert restore with
    | none => exact ⟨_, rfl⟩
    | some restores => exact absurd (Table.find_eq_none_of_insert inserted) taken

theorem restores_downloadFile (key localPath : Text) (world : World) :
    (world.downloadFile key localPath).2.restores = world.restores := by
  unfold World.downloadFile
  split <;> rfl

/-- What is read after a download is the object. -/
theorem get_of_download {key localPath : Text} {world : World} {bytes : Bytes}
    (fetched : (world.downloadFile key localPath).1 = .ok ())
    (read : (world.downloadFile key localPath).2.readFile localPath = .ok bytes) :
    world.objects.get key = some bytes := by
  unfold World.downloadFile at fetched read
  cases found : world.objects.get key with
  | none =>
      rw [found] at fetched
      exact absurd fetched nofun
  | some stored =>
      rw [found] at read
      unfold World.readFile at read
      dsimp only at read
      rw [Dictionary.get_set_self] at read
      exact congrArg some (Except.ok.inj read)

/-- A restore whose row is not stored leaves the world alone. -/
theorem recordRestore_unrecorded {connection localPath : Text} {outside : Outside BackupFailure World}
    (unrecorded : forall command redacted,
      redactCommand deployment.packages (buildRestoreCommand localPath connection) = .ok command ->
        redactUrl deployment.packages connection = .ok redacted ->
          outside.world.restores.find draws.restoreId = none ->
            Exists fun error => outside.fate = .fails error false) :
    finalWorld (recordRestore deployment draws runId request connection localPath) outside = outside.world := by
  unfold recordRestore
  dsimp only
  cases shown : redactCommand deployment.packages (buildRestoreCommand localPath connection) with
  | error error => exact finalWorld_inspect_bind_of_error rfl
  | ok command =>
      have answers : (fun _ : World => (Except.ok command).mapError BackupFailure.url) outside.world = .ok command := rfl
      rw [finalWorld_inspect_bind answers]
      cases masked : redactUrl deployment.packages connection with
      | error error => exact finalWorld_inspect_bind_of_error rfl
      | ok redacted =>
          have answers : (fun _ : World => (Except.ok redacted).mapError BackupFailure.url) outside.world =
              .ok redacted := rfl
          rw [finalWorld_inspect_bind answers]
          by_cases free : outside.world.restores.find draws.restoreId = none
          · rcases unrecorded command redacted shown masked free with ⟨error, lost⟩
            exact finalWorld_call_bind_lost lost
          · exact finalWorld_call_bind_refused (createRestore_refused free)

/-- The part of a restore before it is recorded, in an environment that resolves its
connection. -/
theorem restoreBackup_alike (alike : Alike environ environ') {outside : Outside BackupFailure World}
    (unexposed : resolveConnectionRef environ request.targetConnectionRef =
        resolveConnectionRef environ' request.targetConnectionRef ∨
      (¬ RecordsRestore (deployment.reading environ) draws runId request outside ∧
        ¬ RecordsRestore (deployment.reading environ') draws runId request outside)) :
    finalWorld (restoreBackup (deployment.reading environ) draws runId request) outside =
      finalWorld (restoreBackup (deployment.reading environ') draws runId request) outside := by
  unfold restoreBackup
  apply finalWorld_bind_congr rfl
  intro foundRun between asked
  rcases ok_of_call asked with ⟨firstFate, answered, rfl⟩
  have knownRun := Except.ok.inj answered
  cases foundRun with
  | none => rfl
  | some run =>
      dsimp only
      apply finalWorld_ite_congr (fun _ => rfl)
      intro failed
      apply finalWorld_bind_congr rfl
      intro foundArtifact after asked
      rcases ok_of_call asked with ⟨secondFate, answered, rfl⟩
      have knownArtifact := Except.ok.inj answered
      cases foundArtifact with
      | none => rfl
      | some artifact =>
          dsimp only
          apply finalWorld_ite_congr (fun _ => rfl)
          intro production
          apply finalWorld_ite_congr (fun _ => rfl)
          intro unconfirmed
          by_cases same : resolveConnectionRef environ request.targetConnectionRef =
              resolveConnectionRef environ' request.targetConnectionRef
          · apply finalWorld_bind_congr
            · change inspect (fun _ => resolveConnectionRef environ request.targetConnectionRef) _ = _
              rw [same]
              rfl
            · exact fun _ _ _ => rfl
          rcases (alike.resolve request.targetConnectionRef).resolve_left same with
            ⟨connection, connection', resolved, resolved'⟩
          rcases unexposed.resolve_left same with ⟨hidden, hidden'⟩
          apply (finalWorld_inspect_bind resolved).trans
          apply Eq.trans _ (finalWorld_inspect_bind resolved').symm
          apply finalWorld_bind_congr rfl
          intro _ between downloaded
          rcases ok_of_call downloaded with ⟨thirdFate, fetched, reached⟩
          apply finalWorld_bind_congr rfl
          intro bytes after opened
          rcases ok_of_inspect opened with ⟨read, rfl⟩
          apply finalWorld_ite_congr (fun _ => rfl)
          intro corrupt
          have world_eq := congrArg Outside.world reached
          rw [world_eq] at read
          have stored := get_of_download fetched read
          have restores : after.world.restores = outside.world.restores := by
            rw [world_eq]
            exact restores_downloadFile _ _ _
          have fourthFate : after.fate = outside.fateAfter 3 := by
            rw [reached, Outside.fate_next, Outside.fateAfter_next, Outside.fateAfter_next]
          have served : forall earlier, earlier < 3 -> outside.fateAfter earlier = .served := by
            intro earlier small
            have position : earlier = 0 ∨ earlier = 1 ∨ earlier = 2 := by omega
            rcases position with rfl | rfl | rfl
            · exact firstFate
            · exact (outside.fate_next _).symm.trans secondFate
            · rw [Outside.fate_next, Outside.fateAfter_next] at thirdFate
              exact thirdFate
          have leaves : forall (environ : Text -> Option Text) (connection localPath : Text),
              resolveConnectionRef environ request.targetConnectionRef = .ok connection ->
                ¬ RecordsRestore (deployment.reading environ) draws runId request outside ->
                  localPath = restorePath deployment runId ->
                    finalWorld (recordRestore (deployment.reading environ) draws runId request connection localPath)
                      after = after.world := by
            rintro environ connection localPath resolved hidden rfl
            apply recordRestore_unrecorded
            intro command redacted shown masked free
            by_contra recorded
            rw [fourthFate] at recorded
            rw [restores] at free
            exact hidden ⟨run, artifact, bytes, connection, command, redacted, ⟨knownRun, not_not.mp failed⟩,
              knownArtifact, production, unconfirmed, resolved, ⟨stored, not_not.mp corrupt⟩, shown, masked, free,
              served, fun error fails => recorded ⟨error, fails⟩⟩
          exact (leaves environ connection _ resolved hidden rfl).trans
            (leaves environ' connection' _ resolved' hidden' rfl).symm

end Restores

/-! ## Histories -/

theorem World.step_alike (deployment : Deployment) {environ environ' : Text -> Option Text}
    (alike : Alike environ environ') (world : World) (step : BackupStep)
    (unexposed : step.Unexposed deployment environ environ' world) :
    world.step (deployment.reading environ) step = world.step (deployment.reading environ') step := by
  rcases step with ⟨action, fates⟩
  cases action with
  | createBackup draws policyId trigger => exact createBackup_alike alike policyId trigger unexposed
  | verifyBackup draws runId => rfl
  | restoreBackup draws runId request => exact restoreBackup_alike alike unexposed
  | applyRetention now policyId => rfl

/-- While no step records the connection that it has resolved, the records do not
depend on the passwords. -/
theorem records_alike_while_unexposed (deployment : Deployment) (environ environ' : Text -> Option Text)
    (alike : Alike environ environ') (initial : World) (steps : List BackupStep)
    (unexposed : Run.Guarded (World.step (deployment.reading environ))
      (fun world step => step.Unexposed deployment environ environ' world) initial steps) :
    (steps.foldl (World.step (deployment.reading environ)) initial).runs =
        (steps.foldl (World.step (deployment.reading environ')) initial).runs ∧
      (steps.foldl (World.step (deployment.reading environ)) initial).restores =
        (steps.foldl (World.step (deployment.reading environ')) initial).restores := by
  have same : steps.foldl (World.step (deployment.reading environ)) initial =
      steps.foldl (World.step (deployment.reading environ')) initial :=
    unexposed.foldl_congr (World.step_alike deployment alike)
  exact ⟨congrArg World.runs same, congrArg World.restores same⟩

/-! ## Two passwords -/

namespace Scenario

def connection (password : Text) : Text :=
  connectionUrl "postgresql".toList "backup".toList password "db/market".toList

theorem connections_alike (password password' : Text) :
    Alike (database (connection password)).environ (database (connection password')).environ := by
  intro name
  unfold database
  dsimp only
  by_cases named : name = "MARKET_URL".toList
  · rw [if_pos named, if_pos named]
    exact Or.inr ⟨_, _, password, password', _, rfl, rfl⟩
  · rw [if_neg named, if_neg named]
    exact Or.inl rfl

/-- A restore that is not carried out. -/
def rehearsal : BackupStep where
  action := .restoreBackup { restoreId := 1, startedAt := 1, completedAt := 2, outcome := .timesOut } 1
    { targetConnectionRef := "env://MARKET_URL".toList
      dryRun := true
      confirm := false
      allowProductionRestore := false }
  fates := []

end Scenario

/-- A backup that succeeds does not show the password. -/
theorem backup_hides_the_password :
    let steps := [Scenario.backup (.exits 0 [] []) []]
    let environ := (Scenario.database (Scenario.connection "one".toList)).environ
    let environ' := (Scenario.database (Scenario.connection "two".toList)).environ
    let deployment := Scenario.database []
    (steps.foldl (World.step (deployment.reading environ)) Scenario.unused).runs =
        (steps.foldl (World.step (deployment.reading environ')) Scenario.unused).runs ∧
      (steps.foldl (World.step (deployment.reading environ)) Scenario.unused).restores =
        (steps.foldl (World.step (deployment.reading environ')) Scenario.unused).restores := by
  refine records_alike_while_unexposed _ _ _ (Scenario.connections_alike _ _) _ _ ⟨?_, trivial⟩
  exact fun _ _ => Or.inr fun records => absurd records.1 nofun

/-- A restore records its command with the password in it. -/
theorem restore_shows_the_password :
    ¬ forall (deployment : Deployment) (environ environ' : Text -> Option Text), Alike environ environ' ->
      forall (initial : World) (steps : List BackupStep),
        (steps.foldl (World.step (deployment.reading environ)) initial).runs =
            (steps.foldl (World.step (deployment.reading environ')) initial).runs ∧
          (steps.foldl (World.step (deployment.reading environ)) initial).restores =
            (steps.foldl (World.step (deployment.reading environ')) initial).restores := by
  intro hidden
  have same := hidden (Scenario.database []) _ _ (Scenario.connections_alike "one".toList "two".toList) Scenario.unused
    [Scenario.backup (.exits 0 [] []) [], Scenario.rehearsal]
  have commands := congrArg (fun table : Table RestoreRun.restoreId => table.rows.map RestoreRun.commandRedacted) same.2
  exact absurd commands (by decide +kernel)

end Backup
end ApexQuant
