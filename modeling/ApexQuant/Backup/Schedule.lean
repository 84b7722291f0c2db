import ApexQuant.Backup.Integrity

namespace ApexQuant
namespace Backup

open Foundation
open Foundation.Faults

/-!
# The schedule

`run_due` makes one backup of every policy that is due.  A backup that ends well sets the
next run of its policy, and nothing else does.
-/

/-- The next run after a backup that was finished then. -/
def BackupPolicy.following (policy : BackupPolicy) (scheduledFrom : Moment) : Moment :=
  scheduledFrom + policy.intervalMinutes * microsecondsPerMinute

/-- The policy with another next run. -/
def BackupPolicy.scheduledAt (policy : BackupPolicy) (nextRunAt : Moment) : BackupPolicy :=
  { policy with nextRunAt := some nextRunAt }

/-- The test that `run_due` makes of a policy. -/
def BackupPolicy.isDue (now : Moment) (policy : BackupPolicy) : Bool :=
  policy.enabled && policy.nextRunAt.any fun next => decide (next ≤ now)

/-- `list_policies`, in the order of the names. -/
def World.listPolicies (collates : Text -> Text -> Bool) (world : World) : List BackupPolicy :=
  world.policies.rows.insertionSort fun left right => collates left.name right.name = true

/-- The policies that `run_due` goes through. -/
def World.duePolicies (collates : Text -> Text -> Bool) (now : Moment) (world : World) : List BackupPolicy :=
  (world.listPolicies collates).filter (BackupPolicy.isDue now)

namespace BackupService

variable (deployment : Deployment)

/-- One turn of the loop of `run_due`.  A `BackupError` ends the turn, anything else the call. -/
def attemptDue (draws : BackupDraws) (policyId : Id) : Service (Option BackupRun) :=
  handle (do
      let run ← createBackup deployment draws policyId "scheduled".toList
      pure (some run))
    fun failure =>
      match failure with
      | .raised _ _ => pure none
      | failure => throw failure

/-- The loop of `run_due`. -/
def attemptEach (draws : Id -> BackupDraws) : List Id -> Service (List BackupRun)
  | [] => pure []
  | policyId :: policyIds => do
      let attempted ← attemptDue deployment (draws policyId) policyId
      let runs ← attemptEach draws policyIds
      pure (attempted.toList ++ runs)

/-- `run_due`, called at a moment. -/
def runDue (collates : Text -> Text -> Bool) (now : Moment) (draws : Id -> BackupDraws) : Service (List BackupRun) := do
  let duePolicies ← ask (World.duePolicies collates now)
  attemptEach deployment draws (duePolicies.map BackupPolicy.policyId)

end BackupService

open BackupService

/-! ## What a backup does to the policies -/

/-- The policies are those before, but for the next run of an enabled policy. -/
def World.Advanced (scheduledFrom : Moment) (policyId : Id) (before after : World) : Prop :=
  Exists fun policy => before.getPolicy policyId = some policy ∧ policy.enabled = true ∧
    after.policies = (before.updatePolicyNextRun policyId (policy.following scheduledFrom)).policies

/-- The policies are those before, or advanced. -/
def World.Moved (scheduledFrom : Moment) (policyId : Id) (before after : World) : Prop :=
  after.policies = before.policies ∨ before.Advanced scheduledFrom policyId after

/-- The row of an enabled policy has its next run set. -/
def World.RowAdvanced (scheduledFrom : Moment) (policyId : Id) (before after : World) : Prop :=
  Exists fun policy => before.getPolicy policyId = some policy ∧ policy.enabled = true ∧
    after.getPolicy policyId = some (policy.scheduledAt (policy.following scheduledFrom))

/-- The policies are these. -/
def World.Keeps (policies : Table BackupPolicy.policyId) (world : World) : Prop :=
  world.policies = policies

namespace World

variable {world after : World} {policies : Table BackupPolicy.policyId} {scheduledFrom : Moment} {policyId another : Id}

theorem Keeps.ofTables : OfTables (Keeps policies) :=
  fun _ _ same holds => same.policies.trans holds

theorem createRun_policies (run : BackupRun) (world : World) : (world.createRun run).2.policies = world.policies := by
  unfold createRun
  split
  · rfl
  · split <;> rfl

theorem createArtifact_policies (artifact : BackupArtifact) (world : World) :
    (world.createArtifact artifact).2.policies = world.policies := by
  unfold createArtifact
  split
  · rfl
  · split <;> rfl

theorem getPolicy_of_same (same : after.policies = world.policies) (policyId : Id) :
    after.getPolicy policyId = world.getPolicy policyId := by
  unfold getPolicy
  rw [same]

theorem updatePolicyNextRun_of_same (same : after.policies = world.policies) (policyId : Id) (nextRunAt : Moment) :
    (after.updatePolicyNextRun policyId nextRunAt).policies =
      (world.updatePolicyNextRun policyId nextRunAt).policies := by
  unfold updatePolicyNextRun
  simp only [same]

theorem getPolicy_updatePolicyNextRun (policyId other : Id) (nextRunAt : Moment) (world : World) :
    (world.updatePolicyNextRun policyId nextRunAt).getPolicy other =
      (world.getPolicy other).map (scheduled policyId nextRunAt) := by
  unfold updatePolicyNextRun getPolicy
  exact Table.find_update (policyId_scheduled policyId nextRunAt) other

theorem Advanced.row (advanced : world.Advanced scheduledFrom policyId after) :
    world.RowAdvanced scheduledFrom policyId after := by
  rcases advanced with ⟨policy, found, enabled, moved⟩
  refine ⟨policy, found, enabled, ?_⟩
  have own : policy.policyId = policyId := (Table.mem_of_find found).2
  rw [getPolicy_of_same moved, getPolicy_updatePolicyNextRun, found, Option.map_some]
  unfold scheduled
  rw [if_pos own]
  rfl

theorem Advanced.other (advanced : world.Advanced scheduledFrom policyId after) (differs : another ≠ policyId) :
    after.getPolicy another = world.getPolicy another := by
  rcases advanced with ⟨policy, -, -, moved⟩
  rw [getPolicy_of_same moved, getPolicy_updatePolicyNextRun]
  cases found : world.getPolicy another with
  | none => rfl
  | some row =>
      have own : row.policyId = another := (Table.mem_of_find found).2
      rw [Option.map_some]
      unfold scheduled
      rw [if_neg (own ▸ differs)]

theorem Moved.row (moved : world.Moved scheduledFrom policyId after) :
    after.getPolicy policyId = world.getPolicy policyId ∨ world.RowAdvanced scheduledFrom policyId after := by
  rcases moved with same | advanced
  · exact Or.inl (getPolicy_of_same same policyId)
  · exact Or.inr advanced.row

theorem Moved.other (moved : world.Moved scheduledFrom policyId after) (differs : another ≠ policyId) :
    after.getPolicy another = world.getPolicy another := by
  rcases moved with same | advanced
  · exact getPolicy_of_same same another
  · exact advanced.other differs

/-- A row that was not touched before advances as it stands. -/
theorem RowAdvanced.from_same {middle : World} (advanced : middle.RowAdvanced scheduledFrom policyId after)
    (same : middle.getPolicy policyId = world.getPolicy policyId) : world.RowAdvanced scheduledFrom policyId after := by
  rcases advanced with ⟨policy, found, enabled, moved⟩
  exact ⟨policy, same ▸ found, enabled, moved⟩

/-- A row that is not touched later stays advanced. -/
theorem RowAdvanced.to_same {middle : World} (advanced : world.RowAdvanced scheduledFrom policyId middle)
    (same : after.getPolicy policyId = middle.getPolicy policyId) : world.RowAdvanced scheduledFrom policyId after := by
  rcases advanced with ⟨policy, found, enabled, moved⟩
  exact ⟨policy, found, enabled, same.trans moved⟩

end World

section Backups

variable (deployment : Deployment) {policies : Table BackupPolicy.policyId}

/-- The handler writes a run only, and never returns. -/
theorem failRun_raises {A : Type} {Inv : World -> Prop} {post : A -> Outside BackupFailure World -> Prop}
    (updates : forall run world, Inv world -> Inv (world.updateRun run)) (draws : BackupDraws) (run : BackupRun)
    (failure : BackupFailure) :
    Triple (fun outside => Inv outside.world) (failRun deployment draws run failure : Service A) post
      (fun _ after => Inv after.world) := by
  unfold failRun
  refine Triple.bind (Maintains.tell fun world holds => updates _ world holds) fun _ => ?_
  exact Triple.throw fun _ kept => kept

/-- A finished run is returned after its policy has been advanced. -/
theorem finishRun_schedules (draws : BackupDraws) (policy : BackupPolicy) (run : BackupRun)
    (enabled : policy.enabled = true) {before : World}
    (found : before.getPolicy policy.policyId = some policy) {outside : Outside BackupFailure World}
    (kept : outside.world.policies = before.policies) :
    Triple (fun start => start = outside) (finishRun draws policy run)
      (fun answer after => answer = run ∧ before.Advanced draws.scheduledFrom policy.policyId after.world)
      (fun _ after => before.Moved draws.scheduledFrom policy.policyId after.world) := by
  have scheduling : (policy.enabled && decide (policy.intervalMinutes ≠ 0)) = true := by
    have positive := policy.interval_positive
    simp only [enabled, Bool.true_and, decide_eq_true_eq]
    omega
  have advances (world : World) (same : world.policies = before.policies) :
      before.Advanced draws.scheduledFrom policy.policyId
        (world.updatePolicyNextRun policy.policyId (policy.following draws.scheduledFrom)) :=
    ⟨policy, found, enabled, World.updatePolicyNextRun_of_same same _ _⟩
  unfold finishRun
  apply Triple.tell_bind
  · exact fun _ _ => Or.inl kept
  · exact fun _ _ => Or.inl kept
  intro _
  dsimp only
  rw [if_pos scheduling]
  apply Triple.tell_bind
  · exact fun _ _ => Or.inl kept
  · exact fun _ _ => Or.inr (advances _ kept)
  intro _
  apply Triple.pure
  rintro after rfl
  exact ⟨rfl, advances _ kept⟩

/-- A backup that returns has advanced its policy.  One that raises has at most done that. -/
theorem createBackup_schedules (draws : BackupDraws) (policyId : Id) (trigger : Text)
    (outside : Outside BackupFailure World) :
    Triple (fun start => start = outside) (createBackup deployment draws policyId trigger)
      (fun run after => run.policyId = policyId ∧ outside.world.Advanced draws.scheduledFrom policyId after.world)
      (fun _ after => outside.world.Moved draws.scheduledFrom policyId after.world) := by
  unfold createBackup
  apply Triple.ask_bind (fun _ _ _ => Or.inl rfl)
  intro _
  cases found : outside.world.getPolicy policyId with
  | none =>
      apply Triple.throw
      rintro after rfl
      exact Or.inl rfl
  | some policy =>
      rcases (Table.mem_of_find found).2 with rfl
      dsimp only
      by_cases enabled : policy.enabled = true
      · rw [if_neg (by simp [enabled])]
        apply Triple.call_bind
        · exact fun _ _ => Or.inl rfl
        · exact fun _ _ => Or.inl (World.createRun_policies _ _)
        · intro error world _ refused
          have kept := World.createRun_policies _ _ |>.symm.trans (congrArg (fun result => result.2.policies) refused)
          exact Or.inl kept.symm
        intro run world _ created
        rcases World.createRun_ok created with rfl
        have same := World.createRun_policies _ _ |>.symm.trans (congrArg (fun result => result.2.policies) created)
        have stores := storeArtifact_maintains deployment (@World.Keeps.ofTables outside.world.policies) draws policy
        refine Triple.bind (Triple.handle ((stores _ ?_).from_known same.symm fun _ kept => kept) fun failure => ?_)
          fun artifact => ?_
        · exact fun artifact world kept => (World.createArtifact_policies artifact world).trans kept
        · have raises := @failRun_raises deployment BackupArtifact (World.Keeps outside.world.policies)
            (fun _ after => World.Keeps outside.world.policies after.world) (fun _ _ kept => kept) draws
          exact (raises _ failure).weaken (fun _ kept => kept) (fun _ _ kept => kept) fun _ _ kept => Or.inl kept
        · intro between kept
          have finishes (run : BackupRun) := finishRun_schedules draws policy run enabled found kept
          refine Triple.handle ((finishes _).weaken (fun _ same => same) ?_ fun _ _ moved => moved) (fun failure => ?_)
            between rfl
          · rintro _ after ⟨rfl, advanced⟩
            exact ⟨rfl, advanced⟩
          · exact failRun_raises deployment (fun _ _ moved => moved) draws _ failure
      · rw [if_pos (by simpa using enabled)]
        apply Triple.throw
        rintro after rfl
        exact Or.inl rfl

/-! ## What a sweep does to the policies -/

/-- The backup of a turn raises a `BackupError`. -/
def Raises (draws : BackupDraws) (policyId : Id) (outside : Outside BackupFailure World) : Prop :=
  Exists fun class_ => Exists fun message => Exists fun after =>
    createBackup deployment draws policyId "scheduled".toList outside = .error (.raised class_ message) after

/-- What becomes of the policy of a turn that goes on. -/
def Attempted (draws : BackupDraws) (policyId : Id) (start : Outside BackupFailure World) (after : World) :
    Option BackupRun -> Prop
  | some run => run.policyId = policyId ∧ start.world.Advanced draws.scheduledFrom policyId after
  | none => Raises deployment draws policyId start ∧ start.world.Moved draws.scheduledFrom policyId after

theorem attemptDue_attempts (draws : BackupDraws) (policyId : Id) (outside : Outside BackupFailure World) :
    Triple (fun start => start = outside) (attemptDue deployment draws policyId)
      (fun attempted after => Attempted deployment draws policyId outside after.world attempted)
      (fun _ after => outside.world.Moved draws.scheduledFrom policyId after.world) := by
  have ended := createBackup_schedules deployment draws policyId "scheduled".toList outside outside rfl
  rintro start rfl
  unfold attemptDue handle
  rw [bind_run]
  cases ran : createBackup deployment draws policyId "scheduled".toList start with
  | ok run after =>
      rw [ran] at ended
      exact ended
  | error failure after =>
      rw [ran] at ended
      cases failure with
      | raised class_ message => exact ⟨⟨class_, message, after, ran⟩, ended⟩
      | timedOut command timeout => exact ended
      | fileNotFound path => exact ended
      | url error => exact ended
      | constraint message => exact ended
      | outside message => exact ended

/-- The loop came to the policy, and its backup raised a `BackupError` there. -/
def Refused (draws : Id -> BackupDraws) (policyIds : List Id) (policyId : Id) (start : Outside BackupFailure World) :
    Prop :=
  Exists fun earlier => Exists fun later => Exists fun runs => Exists fun outside =>
    policyIds = earlier ++ policyId :: later ∧ attemptEach deployment draws earlier start = .ok runs outside ∧
      Raises deployment (draws policyId) policyId outside

/-- What becomes of the policies of a loop that returns. -/
structure Swept (draws : Id -> BackupDraws) (policyIds : List Id) (start : Outside BackupFailure World)
    (runs : List BackupRun) (after : World) : Prop where
  each : (runs.map BackupRun.policyId).Sublist policyIds
  others : forall policyId, policyId ∉ policyIds -> after.getPolicy policyId = start.world.getPolicy policyId
  returned : forall run, run ∈ runs -> start.world.RowAdvanced (draws run.policyId).scheduledFrom run.policyId after
  refused : forall policyId, policyId ∈ policyIds -> policyId ∉ runs.map BackupRun.policyId ->
    Refused deployment draws policyIds policyId start

/-- No row but those of the policies changes, and these at most advance. -/
def World.RowsMoved (draws : Id -> BackupDraws) (policyIds : List Id) (before after : World) : Prop :=
  forall policyId, after.getPolicy policyId = before.getPolicy policyId ∨
    policyId ∈ policyIds ∧ before.RowAdvanced (draws policyId).scheduledFrom policyId after

variable {deployment} {draws : Id -> BackupDraws} {policyId : Id} {policyIds : List Id}

theorem Attempted.moved {draws : BackupDraws} {start : Outside BackupFailure World} {after : World}
    {attempted : Option BackupRun} (turn : Attempted deployment draws policyId start after attempted) :
    start.world.Moved draws.scheduledFrom policyId after := by
  cases attempted with
  | none => exact turn.2
  | some run => exact Or.inr turn.2

theorem World.Moved.rows {before after : World} (moved : before.Moved (draws policyId).scheduledFrom policyId after)
    (among : policyId ∈ policyIds) : before.RowsMoved draws policyIds after := by
  intro other
  by_cases same : other = policyId
  · rcases same with rfl
    exact moved.row.imp_right fun advanced => ⟨among, advanced⟩
  · exact Or.inl (moved.other same)

/-- Moves of other policies, after a turn. -/
theorem World.RowsMoved.cons {before middle after : World} (later : middle.RowsMoved draws policyIds after)
    (moved : before.Moved (draws policyId).scheduledFrom policyId middle) (fresh : policyId ∉ policyIds) :
    before.RowsMoved draws (policyId :: policyIds) after := by
  intro other
  by_cases same : other = policyId
  · rcases same with rfl
    have kept := (later other).resolve_right fun among => fresh among.1
    rcases moved.row with old | advanced
    · exact Or.inl (kept.trans old)
    · exact Or.inr ⟨List.mem_cons_self, advanced.to_same kept⟩
  · rcases later other with kept | ⟨among, advanced⟩
    · exact Or.inl (kept.trans (moved.other same))
    · exact Or.inr ⟨List.mem_cons_of_mem _ among, advanced.from_same (moved.other same)⟩

section Turns

variable {start between : Outside BackupFailure World} {attempted : Option BackupRun}

theorem attemptEach_cons (turned : attemptDue deployment (draws policyId) policyId start = .ok attempted between)
    {runs : List BackupRun} {outside : Outside BackupFailure World}
    (ran : attemptEach deployment draws policyIds between = .ok runs outside) :
    attemptEach deployment draws (policyId :: policyIds) start = .ok (attempted.toList ++ runs) outside := by
  rw [attemptEach, bind_run, turned]
  dsimp only
  rw [bind_run, ran]
  rfl

/-- A refusal of a later policy, after a turn. -/
theorem Refused.cons {other : Id} (refused : Refused deployment draws policyIds other between)
    (turned : attemptDue deployment (draws policyId) policyId start = .ok attempted between) :
    Refused deployment draws (policyId :: policyIds) other start := by
  rcases refused with ⟨earlier, later, runs, outside, rfl, ran, raises⟩
  exact ⟨policyId :: earlier, later, _, outside, rfl, attemptEach_cons turned ran, raises⟩

/-- A loop over other policies, after a turn. -/
theorem Swept.cons {runs : List BackupRun} {after : World} (later : Swept deployment draws policyIds between runs after)
    (turned : attemptDue deployment (draws policyId) policyId start = .ok attempted between)
    (turn : Attempted deployment (draws policyId) policyId start between.world attempted)
    (fresh : policyId ∉ policyIds) :
    Swept deployment draws (policyId :: policyIds) start (attempted.toList ++ runs) after := by
  have others (other : Id) (differs : other ≠ policyId) : between.world.getPolicy other = start.world.getPolicy other :=
    turn.moved.other differs
  refine ⟨?_, ?_, ?_, ?_⟩
  · cases attempted with
    | none => exact later.each.cons policyId
    | some run =>
        rw [Option.toList_some, List.singleton_append, List.map_cons, turn.1]
        exact later.each.cons_cons policyId
  · intro other absent
    rw [List.mem_cons, not_or] at absent
    exact (later.others other absent.2).trans (others other absent.1)
  · intro run member
    rcases List.mem_append.mp member with now | next
    · cases attempted with
      | none => cases now
      | some made =>
          rw [Option.toList_some, List.mem_singleton] at now
          rcases now with rfl
          rcases turn with ⟨rfl, advanced⟩
          exact advanced.row.to_same (later.others _ fresh)
    · have differs : run.policyId ≠ policyId := by
        rintro rfl
        exact fresh (later.each.subset (List.mem_map_of_mem next))
      exact (later.returned run next).from_same (others _ differs)
  · intro other among missing
    rw [List.map_append, List.mem_append, not_or] at missing
    rcases List.mem_cons.mp among with rfl | next
    · cases attempted with
      | none => exact ⟨[], policyIds, [], start, rfl, rfl, turn.1⟩
      | some run => exact absurd (by simp [turn.1]) missing.1
    · exact (later.refused other next missing.2).cons turned

end Turns

variable (deployment draws)

/-- The loop goes through policies that differ. -/
theorem attemptEach_sweeps (distinct : policyIds.Nodup) (outside : Outside BackupFailure World) :
    Triple (fun start => start = outside) (attemptEach deployment draws policyIds)
      (fun runs after => Swept deployment draws policyIds outside runs after.world ∧
        outside.world.RowsMoved draws policyIds after.world)
      (fun _ after => outside.world.RowsMoved draws policyIds after.world) := by
  induction policyIds generalizing outside with
  | nil =>
      apply Triple.pure
      rintro after rfl
      refine ⟨⟨List.Sublist.refl [], fun _ _ => rfl, fun _ member => ?_, fun _ member => ?_⟩, fun _ => Or.inl rfl⟩
      · cases member
      · cases member
  | cons policyId policyIds ih =>
      rw [List.nodup_cons] at distinct
      rintro start rfl
      have turn := attemptDue_attempts deployment (draws policyId) policyId start start rfl
      rw [attemptEach, bind_run]
      cases turned : attemptDue deployment (draws policyId) policyId start with
      | error failure between =>
          rw [turned] at turn
          exact turn.rows List.mem_cons_self
      | ok attempted between =>
          rw [turned] at turn
          have swept := ih distinct.2 between between rfl
          dsimp only
          rw [bind_run]
          cases rest : attemptEach deployment draws policyIds between with
          | error failure after =>
              rw [rest] at swept
              exact swept.cons turn.moved distinct.1
          | ok runs after =>
              rw [rest] at swept
              exact ⟨swept.1.cons turned turn distinct.1, swept.2.cons turn.moved distinct.1⟩

end Backups

/-! ## Histories -/

theorem World.mem_duePolicies {collates : Text -> Text -> Bool} {now : Moment} {world : World} {policy : BackupPolicy} :
    policy ∈ world.duePolicies collates now <-> policy ∈ world.policies ∧ policy.isDue now = true := by
  unfold duePolicies listPolicies
  rw [List.mem_filter, List.mem_insertionSort]
  exact Iff.rfl

theorem World.duePolicies_nodup (collates : Text -> Text -> Bool) (now : Moment) (world : World) :
    ((world.duePolicies collates now).map BackupPolicy.policyId).Nodup := by
  unfold duePolicies listPolicies
  apply List.Nodup.sublist (List.filter_sublist.map BackupPolicy.policyId)
  exact (((List.perm_insertionSort _ _).map BackupPolicy.policyId).nodup_iff).mpr world.policies.unique

/-- A call of `run_due`. -/
structure Sweep where
  now : Moment
  draws : Id -> BackupDraws
  fates : List (Fate BackupFailure)

/-- A call of the service, a change to the storage and the work directory, or a sweep. -/
inductive ScheduleEvent where
  | event (event : BackupEvent)
  | runDue (sweep : Sweep)

/-- The moment from which the event's backup of the policy schedules the next, should it
make one. -/
def ScheduleEvent.Reads (policyId : Id) (scheduledFrom : Moment) : ScheduleEvent -> Prop
  | .event (.step { action := .createBackup draws backed _, fates := _ }) =>
      backed = policyId ∧ draws.scheduledFrom = scheduledFrom
  | .event _ => False
  | .runDue sweep => (sweep.draws policyId).scheduledFrom = scheduledFrom

section Histories

variable (deployment : Deployment) (collates : Text -> Text -> Bool)

/-- The policies that a sweep of the world goes through. -/
def Sweep.policyIds (world : World) (sweep : Sweep) : List Id :=
  (world.duePolicies collates sweep.now).map BackupPolicy.policyId

def Sweep.run (world : World) (sweep : Sweep) :
    EStateM.Result BackupFailure (Outside BackupFailure World) (List BackupRun) :=
  BackupService.runDue deployment collates sweep.now sweep.draws { world := world, fates := sweep.fates }

def World.pass (world : World) : ScheduleEvent -> World
  | .event (.step step) => world.step deployment step
  | .event (.tamper objects files) => { world with objects := objects, files := files }
  | .runDue sweep =>
      finalWorld (BackupService.runDue deployment collates sweep.now sweep.draws) { world := world, fates := sweep.fates }

/-- The sweep of this world returns the run. -/
def Sweep.Returns (world : World) (run : BackupRun) (sweep : Sweep) : Prop :=
  Exists fun runs => Exists fun after => sweep.run deployment collates world = .ok runs after ∧ run ∈ runs

/-- The row is that of the policy, with a next run of a kind. -/
def World.Scheduled (policy : BackupPolicy) (timely : Moment -> Prop) (world : World) : Prop :=
  Exists fun next => timely next ∧ world.getPolicy policy.policyId = some (policy.scheduledAt next)

variable {deployment collates} {world : World} {policy : BackupPolicy} {timely : Moment -> Prop}

/-- A sweep goes through the policies that are due, and moves no other. -/
theorem runDue_sweeps (sweep : Sweep) (world : World) :
    Triple (fun start => start = { world := world, fates := sweep.fates })
      (BackupService.runDue deployment collates sweep.now sweep.draws)
      (fun runs after => Exists fun start : Outside BackupFailure World => start.world = world ∧
        Swept deployment sweep.draws (sweep.policyIds collates world) start runs after.world ∧
        world.RowsMoved sweep.draws (sweep.policyIds collates world) after.world)
      (fun _ after => world.RowsMoved sweep.draws (sweep.policyIds collates world) after.world) := by
  unfold BackupService.runDue
  apply Triple.ask_bind
  · exact fun _ _ _ _ => Or.inl rfl
  intro _
  have sweeps := attemptEach_sweeps deployment sweep.draws (world.duePolicies_nodup collates sweep.now)
  exact (sweeps _).weaken (fun _ same => same) (fun runs after swept => ⟨_, rfl, swept⟩) fun _ _ moved => moved

theorem Sweep.swept {sweep : Sweep} {runs : List BackupRun} {after : Outside BackupFailure World}
    (returned : sweep.run deployment collates world = .ok runs after) :
    Exists fun start : Outside BackupFailure World => start.world = world ∧
      Swept deployment sweep.draws (sweep.policyIds collates world) start runs after.world := by
  have sweeps := @runDue_sweeps deployment collates sweep world _ rfl
  unfold Sweep.run at returned
  rw [returned] at sweeps
  rcases sweeps with ⟨start, same, swept, -⟩
  exact ⟨start, same, swept⟩

theorem Sweep.pass_of_returned {sweep : Sweep} {runs : List BackupRun} {after : Outside BackupFailure World}
    (returned : sweep.run deployment collates world = .ok runs after) :
    world.pass deployment collates (.runDue sweep) = after.world := by
  unfold Sweep.run at returned
  unfold World.pass finalWorld
  simp only [returned]

theorem Sweep.rows (sweep : Sweep) (world : World) :
    world.RowsMoved sweep.draws (sweep.policyIds collates world) (world.pass deployment collates (.runDue sweep)) := by
  have sweeps := @runDue_sweeps deployment collates sweep world
  refine sweeps.finalWorld (fun runs after ended => ?_) (fun _ _ moved => moved) rfl
  rcases ended with ⟨start, -, -, moved⟩
  exact moved

/-- An event moves the row of a policy only to what follows a reading of the clock. -/
theorem World.pass_row (event : ScheduleEvent) (world : World) (policyId : Id) :
    (world.pass deployment collates event).getPolicy policyId = world.getPolicy policyId ∨
      Exists fun scheduledFrom => event.Reads policyId scheduledFrom ∧
        world.RowAdvanced scheduledFrom policyId (world.pass deployment collates event) := by
  have kept {A : Type} {program : Service A} (keeps : Maintains (World.Keeps world.policies) program)
      (outside : Outside BackupFailure World) (begins : outside.world = world) :
      (finalWorld program outside).getPolicy policyId = world.getPolicy policyId := by
    apply World.getPolicy_of_same
    exact keeps.finalWorld (congrArg World.policies begins)
  rcases event with (⟨action, fates⟩ | ⟨objects, files⟩) | sweep
  · cases action with
    | createBackup draws backed trigger =>
        have moved : world.Moved draws.scheduledFrom backed
            (world.step deployment { action := .createBackup draws backed trigger, fates := fates }) := by
          have schedules := createBackup_schedules deployment draws backed trigger { world := world, fates := fates }
          exact schedules.finalWorld (fun _ _ ended => Or.inr ended.2) (fun _ _ moved => moved) rfl
        by_cases own : policyId = backed
        · rcases own with rfl
          exact moved.row.imp_right fun advanced => ⟨draws.scheduledFrom, ⟨rfl, rfl⟩, advanced⟩
        · exact Or.inl (moved.other own)
    | verifyBackup draws runId =>
        exact Or.inl (kept (verifyBackup_maintains deployment Keeps.ofTables draws runId fun _ _ same => same) _ rfl)
    | restoreBackup draws runId request =>
        exact Or.inl (kept (restoreBackup_maintains deployment Keeps.ofTables draws runId request) _ rfl)
    | applyRetention now policyId =>
        exact Or.inl (kept (applyRetention_maintains Keeps.ofTables now policyId fun _ _ _ same => same) _ rfl)
  · exact Or.inl rfl
  · exact (sweep.rows world policyId).imp_right fun moved => ⟨_, rfl, moved.2⟩

/-! ## What a schedule promises -/

/-- A row that has advanced is scheduled for what follows. -/
theorem World.RowAdvanced.scheduled {after : World} {scheduledFrom : Moment}
    (advanced : world.RowAdvanced scheduledFrom policy.policyId after)
    (scheduled : world.Scheduled policy timely) :
    after.getPolicy policy.policyId = some (policy.scheduledAt (policy.following scheduledFrom)) := by
  rcases advanced with ⟨row, found, -, moved⟩
  rcases scheduled with ⟨next, -, known⟩
  rw [known, Option.some.injEq] at found
  rcases found with rfl
  exact moved

theorem World.Scheduled.pass (scheduled : world.Scheduled policy timely) {event : ScheduleEvent}
    (reads : forall scheduledFrom, event.Reads policy.policyId scheduledFrom -> timely (policy.following scheduledFrom)) :
    (world.pass deployment collates event).Scheduled policy timely := by
  rcases World.pass_row event world policy.policyId with same | ⟨scheduledFrom, read, advanced⟩
  · rcases scheduled with ⟨next, intime, known⟩
    exact ⟨next, intime, same.trans known⟩
  · exact ⟨policy.following scheduledFrom, reads scheduledFrom read, advanced.scheduled scheduled⟩

/-- What holds of the next run, and of what follows every reading of the clock, holds of
the next run after every history. -/
theorem World.Scheduled.after (scheduled : world.Scheduled policy timely) (events : List ScheduleEvent)
    (reads : forall event, event ∈ events -> forall scheduledFrom, event.Reads policy.policyId scheduledFrom ->
      timely (policy.following scheduledFrom)) :
    (events.foldl (World.pass deployment collates) world).Scheduled policy timely := by
  have guarded := Run.guarded_of_mem (World.pass deployment collates) (fun event member _ => reads event member) world
  exact guarded.invariant (fun _ _ holds reads => holds.pass reads) scheduled

/-- Between two runs that sweeps return of one policy lies its interval, whatever happens
in between, unless a clock has gone back. -/
theorem sweeps_keep_their_distance (deployment : Deployment) (collates : Text -> Text -> Bool) (world : World)
    (first second : Sweep) (between : List ScheduleEvent) (run again : BackupRun)
    (ran : first.Returns deployment collates world run)
    (ranAgain : second.Returns deployment collates
      ((ScheduleEvent.runDue first :: between).foldl (World.pass deployment collates) world) again)
    (same : again.policyId = run.policyId)
    (forward : forall event, event ∈ between -> forall scheduledFrom, event.Reads run.policyId scheduledFrom ->
      (first.draws run.policyId).scheduledFrom ≤ scheduledFrom) :
    Exists fun policy => world.getPolicy run.policyId = some policy ∧
      policy.following (first.draws run.policyId).scheduledFrom ≤ second.now := by
  rcases ran with ⟨runs, after, returned, member⟩
  rcases Sweep.swept returned with ⟨start, rfl, swept⟩
  rcases swept.returned run member with ⟨policy, found, -, advanced⟩
  refine ⟨policy, found, ?_⟩
  have own : policy.policyId = run.policyId := (Table.mem_of_find found).2
  rw [← own] at advanced forward ⊢
  -- from the first sweep on, the next run is never before the interval is over
  have begins : (start.world.pass deployment collates (.runDue first)).Scheduled policy
      (fun next => policy.following (first.draws policy.policyId).scheduledFrom ≤ next) := by
    refine ⟨policy.following (first.draws policy.policyId).scheduledFrom, Int.le_refl _, ?_⟩
    rw [Sweep.pass_of_returned returned]
    exact advanced
  have later := @World.Scheduled.after deployment collates _ _ _ begins between fun event among scheduledFrom reads =>
    Int.add_le_add_right (forward event among scheduledFrom reads) _
  rcases later with ⟨next, intime, known⟩
  rcases ranAgain with ⟨runs', after', returned', member'⟩
  rcases Sweep.swept returned' with ⟨start', same', swept'⟩
  have due := swept'.each.subset (List.mem_map_of_mem member')
  rcases List.mem_map.mp due with ⟨row, isDue, rowId⟩
  rcases World.mem_duePolicies.mp isDue with ⟨stored, passed⟩
  have rowKnown := Table.find_of_mem stored
  rw [rowId, same, ← own] at rowKnown
  rcases Option.some.inj (known.symm.trans rowKnown) with rfl
  have now : next ≤ second.now := by
    simpa [BackupPolicy.isDue, BackupPolicy.scheduledAt] using (Bool.and_eq_true_iff.mp passed).2
  exact Int.le_trans intime now

/-- A policy whose next run was due, and for which every backup made since is due to be
followed, has its backup made by every sweep that returns: its run is among the results,
or the sweep came to it and the backup raised a `BackupError`. -/
theorem no_policy_is_forgotten (deployment : Deployment) (collates : Text -> Text -> Bool) (world : World)
    (policy : BackupPolicy) (next : Moment) (events : List ScheduleEvent) (sweep : Sweep) (runs : List BackupRun)
    (after : Outside BackupFailure World) (known : world.getPolicy policy.policyId = some policy)
    (enabled : policy.enabled = true) (scheduled : policy.nextRunAt = some next) (due : next ≤ sweep.now)
    (passed : forall event, event ∈ events -> forall scheduledFrom, event.Reads policy.policyId scheduledFrom ->
      policy.following scheduledFrom ≤ sweep.now)
    (returned : sweep.run deployment collates (events.foldl (World.pass deployment collates) world) = .ok runs after) :
    (Exists fun run => run ∈ runs ∧ run.policyId = policy.policyId ∧
        after.world.getPolicy policy.policyId =
          some (policy.scheduledAt (policy.following (sweep.draws policy.policyId).scheduledFrom))) ∨
      Exists fun start : Outside BackupFailure World =>
        start.world = events.foldl (World.pass deployment collates) world ∧
          Refused deployment sweep.draws (sweep.policyIds collates start.world) policy.policyId start := by
  have begins : world.Scheduled policy (fun next => next ≤ sweep.now) := by
    refine ⟨next, due, ?_⟩
    rw [known, BackupPolicy.scheduledAt, ← scheduled]
  have late := @World.Scheduled.after deployment collates _ _ _ begins events passed
  rcases Sweep.swept returned with ⟨start, same, swept⟩
  rw [← same] at late
  by_cases among : policy.policyId ∈ runs.map BackupRun.policyId
  · rcases List.mem_map.mp among with ⟨run, member, own⟩
    have advanced := swept.returned run member
    rw [own] at advanced
    exact Or.inl ⟨run, member, own, advanced.scheduled late⟩
  · refine Or.inr ⟨start, same, ?_⟩
    rw [← same] at swept
    apply swept.refused _ _ among
    rcases late with ⟨next, intime, found⟩
    have stored : policy.scheduledAt next ∈ start.world.policies := (Table.mem_of_find found).1
    refine List.mem_map.mpr ⟨policy.scheduledAt next, World.mem_duePolicies.mpr ⟨stored, ?_⟩, rfl⟩
    simp [BackupPolicy.isDue, BackupPolicy.scheduledAt, enabled, intime]

end Histories

/-! ## Two nights -/

namespace Scenario

/-- The policy, due at the start. -/
def due : BackupPolicy :=
  (policy true).scheduledAt 0

def nightly : World :=
  { unused with policies := Table.single due }

def byName (left right : Text) : Bool :=
  !decide (right < left)

/-- A sweep whose backup of the policy takes ten microseconds. -/
def night (now : Moment) (runId : Id) : Sweep where
  now := now
  draws := fun _ =>
    { runId := runId
      artifactId := runId
      startedAt := now
      expiresFrom := now
      createdAt := now
      completedAt := now
      scheduledFrom := now + 10
      failedAt := now
      execution := { outcome := .exits 0 [] [], written := some [] } }
  fates := []

def emptied : ScheduleEvent :=
  .event (.tamper Table.empty Table.empty)

/-- The policies whose runs the sweep returns. -/
def answered (world : World) (sweep : Sweep) : Option (List Id) :=
  match sweep.run deployment byName world with
  | .ok runs _ => some (runs.map BackupRun.policyId)
  | .error _ _ => none

theorem returns_of_answered {world : World} {sweep : Sweep} (answers : answered world sweep = some [1]) :
    Exists fun run => Exists fun after =>
      sweep.run deployment byName world = .ok [run] after ∧ run.policyId = 1 := by
  unfold answered at answers
  cases ran : sweep.run deployment byName world with
  | error failure after =>
      rw [ran] at answers
      cases answers
  | ok runs after =>
      rw [ran] at answers
      rcases List.map_eq_singleton_iff.mp (Option.some.inj answers) with ⟨run, rfl, own⟩
      exact ⟨run, after, rfl, own⟩

end Scenario

open Scenario in
theorem nights_keep_their_distance :
    Exists fun policy => nightly.getPolicy 1 = some policy ∧ policy.following (0 + 10) ≤ (night 86400000010 2).now := by
  rcases @returns_of_answered nightly (night 0 1) (by decide +kernel) with ⟨run, after, ran, own⟩
  rcases @returns_of_answered ([ScheduleEvent.runDue (night 0 1), emptied].foldl (World.pass deployment byName) nightly)
    (night 86400000010 2) (by decide +kernel) with ⟨again, later, ranAgain, same⟩
  have distance := sweeps_keep_their_distance deployment byName nightly (night 0 1) (night 86400000010 2) [emptied] run
    again ⟨_, after, ran, List.mem_cons_self⟩ ⟨_, later, ranAgain, List.mem_cons_self⟩ (same.trans own.symm)
    fun event among _ reads => by
      rw [List.mem_singleton] at among
      rcases among with rfl
      cases reads
  rw [own] at distance
  exact distance

open Scenario in
theorem second_night_is_not_forgotten :
    Exists fun run => Exists fun after : Outside BackupFailure World =>
      (night 86400000010 2).run deployment byName
          ([ScheduleEvent.runDue (night 0 1)].foldl (World.pass deployment byName) nightly) = .ok [run] after ∧
        ((Exists fun made => made ∈ [run] ∧ made.policyId = due.policyId ∧
            after.world.getPolicy due.policyId =
              some (due.scheduledAt (due.following ((night 86400000010 2).draws due.policyId).scheduledFrom))) ∨
          Exists fun start : Outside BackupFailure World =>
            start.world = [ScheduleEvent.runDue (night 0 1)].foldl (World.pass deployment byName) nightly ∧
              Refused deployment (night 86400000010 2).draws ((night 86400000010 2).policyIds byName start.world)
                due.policyId start) := by
  rcases @returns_of_answered ([ScheduleEvent.runDue (night 0 1)].foldl (World.pass deployment byName) nightly)
    (night 86400000010 2) (by decide +kernel) with ⟨run, after, ran, -⟩
  have passed (event : ScheduleEvent) (among : event ∈ [ScheduleEvent.runDue (night 0 1)]) (scheduledFrom : Moment)
      (reads : event.Reads due.policyId scheduledFrom) : due.following scheduledFrom ≤ (night 86400000010 2).now := by
    rw [List.mem_singleton] at among
    rcases among with rfl
    rcases reads with rfl
    decide +kernel
  exact ⟨run, after, ran, no_policy_is_forgotten deployment byName nightly due 0 [.runDue (night 0 1)]
    (night 86400000010 2) [run] after rfl rfl rfl (by decide +kernel) passed ran⟩

end Backup
end ApexQuant
