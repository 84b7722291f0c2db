import ApexQuant.Recovery.Drill

namespace ApexQuant
namespace Recovery

open Foundation
open Foundation.Faults

/-!
# What a drill leaves

A drill that is stored as succeeded has passed all of its steps, and each step stands
for what it has seen of the plan, its backups and the health of its components.  A drill
that has begun is left without the event of its end, because the call that records it
is refused.
-/

section Steps

variable (surroundings : Surroundings) (enableHealthChecks : Bool)

/-- `validate_plan` has passed: the plan is active and has components. -/
theorem within_validatePlan (planId : Id) :
    Within reading (validatePlan planId) fun before _ result =>
      result.ok = true -> Exists fun plan =>
        before.plans.find planId = some plan ∧ plan.status = .active ∧ before.components plan.planId ≠ [] := by
  apply Within.andThen (within_reply _)
  intro found
  cases found with
  | none =>
      apply Within.pure
      intro _ _ _ _ _ ok
      cases ok
  | some plan =>
      dsimp only
      split
      · apply Within.pure
        intro _ _ _ _ _ ok
        cases ok
      · rename_i active
        apply Within.andThen (within_reply _)
        intro components
        split
        · apply Within.pure
          intro _ _ _ _ _ _ _ _ _ ok
          cases ok
        · rename_i some_
          apply Within.pure
          rintro world middle - - ⟨rfl, rfl⟩ before unchanged - ⟨found, rfl⟩ -
          exact ⟨plan, found.symm, not_not.mp active, some_⟩

theorem within_buildReadinessReport (planId : Id) :
    Within reading (buildReadinessReport surroundings enableHealthChecks planId) fun _ _ _ => True := by
  apply Within.andThen (within_reply _)
  intro found
  cases found with
  | none => exact Within.throw _
  | some plan =>
      apply Within.andThen (within_assessBackupRequirements surroundings plan)
      intro backupRequirements
      apply Within.andThen (within_checkHealth surroundings enableHealthChecks plan)
      intro health
      apply Within.andThen (within_reply _)
      intro recentDrillPassed
      apply Within.pure
      intros
      trivial

/-- The step of health has passed: no component was found unhealthy. -/
theorem within_healthStep (plan : RecoveryPlan) :
    Within reading (healthStep surroundings enableHealthChecks plan) fun before after result =>
      result.ok = true -> forall component, component ∈ before.components plan.planId ->
        component.hasEndpoint = true -> NotUnhealthy surroundings enableHealthChecks component before after := by
  apply Within.andThen (within_checkHealth surroundings enableHealthChecks plan)
  intro answer
  apply Within.pure
  rintro after before - - told ok
  exact told ok

theorem within_drillSteps (plan : RecoveryPlan) (requirements : List BackupRequirementStatus) {step : Step}
    (member : step ∈ drillSteps surroundings enableHealthChecks plan requirements) :
    Within reading step.run fun _ _ _ => True := by
  unfold drillSteps at member
  rcases List.mem_cons.mp member with rfl | member
  · exact Within.weaken (within_validatePlan plan.planId) fun _ _ _ _ _ => trivial
  rcases List.mem_cons.mp member with rfl | member
  · exact Within.pure fun _ => trivial
  rcases List.mem_cons.mp member with rfl | member
  · exact Within.pure fun _ => trivial
  rcases List.mem_cons.mp member with rfl | member
  · exact Within.pure fun _ => trivial
  cases List.mem_singleton.mp member
  exact Within.weaken (within_healthStep surroundings enableHealthChecks plan) fun _ _ _ _ _ => trivial

/-! ## What the steps stand for -/

theorem namesWhere_eq_nil {requirements : List BackupRequirementStatus} {condition : BackupRequirementStatus -> Bool}
    (none_ : namesWhere requirements condition = []) :
    forall requirement, requirement ∈ requirements -> condition requirement = false := by
  intro requirement member
  have kept := List.filter_eq_nil_iff.mp (List.map_eq_nil_iff.mp none_) requirement member
  exact Bool.eq_false_iff.mpr kept

/-- A check that is passed when nobody is named. -/
theorem ok_of_named {named : List Text} {refusal passing : CheckResult} (refused : refusal.ok = false)
    (ok : (if named ≠ [] then refusal else passing).ok = true) : named = [] := by
  by_cases none_ : named = []
  · exact none_
  · rw [if_pos none_, refused] at ok
    cases ok

/-- Three checks together: each excuses what another refuses, and all of them nothing. -/
theorem met_of_checks {requirements : List BackupRequirementStatus} (policies : (checkBackupPolicies requirements).ok = true)
    (freshness : (checkBackupFreshness requirements).ok = true)
    (verification : (checkBackupVerification requirements).ok = true) {requirement : BackupRequirementStatus}
    (member : requirement ∈ requirements) (required : requirement.required = true) :
    requirement.policyExists = true ∧ requirement.fresh = true ∧ requirement.verified = true := by
  have listed := namesWhere_eq_nil (ok_of_named rfl policies) requirement member
  have fresh := namesWhere_eq_nil (ok_of_named rfl freshness) requirement member
  have verified := namesWhere_eq_nil (ok_of_named rfl verification) requirement member
  rw [required] at listed fresh verified
  have listed' : requirement.policyExists = true := by simpa using listed
  rw [listed'] at fresh verified
  have fresh' : requirement.fresh = true := by simpa using fresh
  rw [fresh'] at verified
  exact ⟨listed', fresh', by simpa using verified⟩

/-- A step that only answers has passed when its answer is good. -/
theorem Passed.ok_of_pure {name : Text} {result : CheckResult} {before after : World}
    (passed : Passed { name := name, run := pure result } before after) : result.ok = true := by
  rcases passed with ⟨outside, final, answer, ran, ok, -, -⟩
  cases ran
  exact ok

/-- What a step tells of its own worlds, it tells of the worlds that it was run between. -/
theorem Passed.tells {step : Step} {before after : World} {told : World -> World -> CheckResult -> Prop}
    (passed : Passed step before after) (runs : Within reading step.run told) :
    Exists fun first => Exists fun last => Exists fun result =>
      told first last result ∧ result.ok = true ∧ Unchanged before first ∧ Unchanged last after := by
  rcases passed with ⟨outside, final, result, ran, ok, earlier, later⟩
  exact ⟨outside.world, final.world, result, (runs.told ran).2, ok, earlier, later⟩

/-- What a success of a plan's drill stands for, with what is known of the components
that have an endpoint. -/
structure EarnedWith (health : RecoveryComponent -> World -> World -> Prop) (plan : RecoveryPlan) (before after : World) :
    Prop where
  active : Exists fun stored =>
    before.plans.find plan.planId = some stored ∧ stored.status = .active ∧ before.components stored.planId ≠ []
  backed : forall component, component ∈ before.components plan.planId ->
    component.recoveryStrategy = .restoreFromBackup -> Backed surroundings plan component before after
  healthy : forall component, component ∈ before.components plan.planId -> component.hasEndpoint = true ->
    health component before after

/-- No component with an endpoint was found unhealthy. -/
abbrev Earned : RecoveryPlan -> World -> World -> Prop :=
  EarnedWith surroundings (NotUnhealthy surroundings enableHealthChecks)

theorem Earned.stays {plan : RecoveryPlan} {before before' after after' : World}
    (earned : Earned surroundings enableHealthChecks plan before after) (earlier : SamePlans before' before)
    (later : SamePlans after after') : Earned surroundings enableHealthChecks plan before' after' := by
  constructor
  · rw [← earlier.plans, ← earlier.components]
    exact earned.active
  · intro component member strategy
    rw [← earlier.components] at member
    exact (earned.backed component member strategy).stays surroundings earlier later
  · intro component member endpoint
    rw [← earlier.components] at member
    exact (earned.healthy component member endpoint).imp id fun asked => asked.stays earlier later

/-- A drill that has passed all of its steps. -/
theorem earned_of_passed {plan : RecoveryPlan} {requirements : List BackupRequirementStatus} {first before after : World}
    (assessed : List.Forall₂ (fun component requirement => Assessed surroundings plan component first before requirement)
      (first.components plan.planId) requirements) (unchanged : Unchanged first before)
    (later : Unchanged before after)
    (passes : forall step, step ∈ drillSteps surroundings enableHealthChecks plan requirements -> Passed step before after) :
    Earned surroundings enableHealthChecks plan first after := by
  unfold drillSteps at passes
  rcases List.forall_mem_cons.mp passes with ⟨validated, passes⟩
  rcases List.forall_mem_cons.mp passes with ⟨policies, passes⟩
  rcases List.forall_mem_cons.mp passes with ⟨freshness, passes⟩
  rcases List.forall_mem_cons.mp passes with ⟨verification, passes⟩
  have health := passes _ (List.mem_singleton.mpr rfl)
  have until_ := unchanged.toSamePlans
  constructor
  · rcases validated.tells (within_validatePlan plan.planId) with ⟨world, -, result, told, ok, same, -⟩
    have between := until_.trans same.toSamePlans
    rw [← between.plans, ← between.components]
    exact told ok
  · intro component member strategy
    rcases exists_of_forall₂_mem assessed member with ⟨requirement, listed, assessment⟩
    have met := met_of_checks policies.ok_of_pure freshness.ok_of_pure verification.ok_of_pure listed
      (assessment.required.trans (decide_eq_true strategy))
    exact (assessment.backed met.1 met.2.1 met.2.2).stays surroundings (SamePlans.refl _) later.toSamePlans
  · intro component member endpoint
    rcases health.tells (within_healthStep surroundings enableHealthChecks plan) with ⟨world, last, result, told, ok, begins, ends⟩
    have between := until_.trans begins.toSamePlans
    rw [← between.components] at member
    exact (told ok component member endpoint).imp id fun asked => asked.stays between ends.toSamePlans

/-! ## What becomes of the row -/

theorem within_judgeDrill (plan : RecoveryPlan) (drill : Drill) :
    Within reading (judgeDrill surroundings enableHealthChecks plan drill) fun before after judged =>
      judged.1.status = .succeeded -> Earned surroundings enableHealthChecks plan before after := by
  apply Within.andThen (within_assessBackupRequirements surroundings plan)
  intro requirements
  apply Within.andThen (within_runSteps surroundings drill.drillId 1 _ false fun step member =>
    within_drillSteps surroundings enableHealthChecks plan requirements member)
  intro failed
  apply Within.andThen (within_buildReadinessReport surroundings enableHealthChecks plan.planId)
  intro readiness
  apply Within.andThen (within_glance _)
  intro completedAt
  apply Within.pure
  rintro world fourth toWorld - - third toFourth - - second toThird - passes first toSecond - assessed succeeded
  have completed : (!failed && decide (minimumSuccessScore ≤ readiness.score)) = true := by
    by_contra incomplete
    rw [if_neg incomplete] at succeeded
    cases succeeded
  have none_ : failed = false := by simpa using (Bool.and_eq_true_iff.mp completed).1
  have ends := reading.trans toFourth toWorld
  apply earned_of_passed surroundings enableHealthChecks assessed toSecond (reading.trans toThird ends)
  intro step member
  exact ((passes none_).2 step member).stays (reading.refl _) ends

/-- The drills after an update are those before it, or have the status that it writes; no
event is recorded, and no drill comes or goes. -/
structure Concluded (ended : Drill) (before after : World) : Prop extends SamePlans before after where
  events : after.events = before.events
  keys : after.drills.rows.map Drill.drillId = before.drills.rows.map Drill.drillId
  rows : forall row, row ∈ after.drills -> row ∈ before.drills ∨ row.status = ended.status

def concluding (ended : Drill) : Frame World where
  within := Concluded ended
  refl := fun world => ⟨SamePlans.refl world, rfl, rfl, fun _ member => Or.inl member⟩
  trans := fun first rest => by
    refine ⟨first.toSamePlans.trans rest.toSamePlans, rest.events.trans first.events, rest.keys.trans first.keys, ?_⟩
    intro row member
    exact (rest.rows row member).elim (first.rows row) Or.inr

theorem concluded_tick (ended : Drill) (world : World) : Concluded ended world world.tick :=
  ⟨⟨rfl, rfl, Nat.le_succ _⟩, rfl, rfl, fun _ member => Or.inl member⟩

/-- The row of the drill gets its end, and the event of the end is refused. -/
theorem within_concludeDrill (plan : RecoveryPlan) (actor : Text) (ended : Drill) (drillCompleted : Bool) :
    Within (concluding ended) (concludeDrill plan actor ended drillCompleted) fun _ _ _ => True := by
  have updates : Within (concluding ended) (call (World.updateDrill ended)) fun _ _ _ => True := by
    apply Within.call
    · intro world
      unfold World.updateDrill
      split
      · refine ⟨⟨rfl, rfl, Nat.le_succ _⟩, rfl, Table.keys_update ended.drillId_overwrite, ?_⟩
        intro row member
        rcases (Table.mem_update ended.drillId_overwrite).mp member with ⟨old, stored, rfl⟩
        unfold Drill.overwrite
        split
        · exact Or.inr rfl
        · exact Or.inl stored
      · exact concluded_tick ended world
    · intro _ _ _ _
      trivial
  apply Within.andThen updates
  intro _
  apply Within.andThen (Within.call (concluded_tick ended) fun _ _ _ _ => trivial)
  intro _
  apply Within.pure
  intros
  trivial

/-- What a drill that has begun leaves: no event, no other drills, and a success only when
it is earned. -/
structure Conducted (plan : RecoveryPlan) (before after : World) : Prop extends SamePlans before after where
  events : after.events = before.events
  keys : after.drills.rows.map Drill.drillId = before.drills.rows.map Drill.drillId
  rows : forall row, row ∈ after.drills ->
    row ∈ before.drills ∨ (row.status = .succeeded -> Earned surroundings enableHealthChecks plan before after)

theorem conductDrill_final (plan : RecoveryPlan) (actor : Text) (drill : Drill) (outside : Outside Failure World) :
    Conducted surroundings enableHealthChecks plan outside.world
      (finalWorld (conductDrill surroundings enableHealthChecks plan actor drill) outside) := by
  have judges := within_judgeDrill surroundings enableHealthChecks plan drill outside
  unfold conductDrill finalWorld
  rw [bind_run]
  cases ran : judgeDrill surroundings enableHealthChecks plan drill outside with
  | error error after =>
      rw [ran] at judges
      refine ⟨judges.toSamePlans, judges.events, by rw [judges.drills], fun row member => Or.inl ?_⟩
      exact judges.drills ▸ member
  | ok judged middle =>
      rw [ran] at judges
      have concludes := (within_concludeDrill plan actor judged.1 judged.2).finalWorld middle
      have before := Unchanged.toSamePlans judges.1
      refine ⟨before.trans concludes.toSamePlans, concludes.events.trans judges.1.events, ?_, fun row member => ?_⟩
      · rw [← judges.1.drills]
        exact concludes.keys
      · rcases concludes.rows row member with kept | status
        · exact Or.inl (judges.1.drills ▸ kept)
        · refine Or.inr fun succeeded => ?_
          exact (judges.2 (status.symm.trans succeeded)).stays surroundings enableHealthChecks (SamePlans.refl _)
            concludes.toSamePlans

/-! ## Runs -/

/-- The row with which a call of `run_drill` begins a drill of a plan. -/
def firstRow (plan : RecoveryPlan) (actor trigger : Text) (world : World) : Drill :=
  beginningDrill plan actor trigger (surroundings.utcNow (world.calls + 1)) (surroundings.newUuid (world.calls + 2))

/-- A call of `run_drill` creates a drill row: the plan is read and there, the row is
accepted, and the call that inserts it is not lost. -/
def Creates (planId : Id) (actor trigger : Text) (outside : Outside Failure World) : Prop :=
  outside.fate = .served ∧ (forall error, outside.fateAfter 1 ≠ .fails error false) ∧
    Exists fun plan => outside.world.plans.find planId = some plan ∧
      (firstRow surroundings plan actor trigger outside.world).wellFormed = true ∧
      outside.world.drills.find (firstRow surroundings plan actor trigger outside.world).drillId = none

/-- What a call of `run_drill` that creates a row leaves. -/
structure Begun (planId : Id) (actor trigger : Text) (before after : World) : Prop where
  conducted : Exists fun plan => Exists fun created =>
    before.plans.find planId = some plan ∧ SamePlans before created ∧ created.events = before.events ∧
      created.drills.rows = before.drills.rows ++ [firstRow surroundings plan actor trigger before] ∧
      before.drills.find (firstRow surroundings plan actor trigger before).drillId = none ∧
      Conducted surroundings enableHealthChecks plan created after

/-- The outside when `create_drill` is called. -/
def atCreation (outside : Outside Failure World) : Outside Failure World :=
  outside.next outside.world.tick.tick.tick

/-- A plan that is read and there leads to the call of `create_drill`. -/
theorem finalWorld_runDrill {planId : Id} {plan : RecoveryPlan} (actor trigger : Text) {outside : Outside Failure World}
    (read : outside.fate = .served) (found : outside.world.plans.find planId = some plan) :
    finalWorld (runDrill surroundings enableHealthChecks planId actor trigger) outside =
      finalWorld (call (World.createDrill (firstRow surroundings plan actor trigger outside.world)) >>=
        conductDrill surroundings enableHealthChecks plan actor) (atCreation outside) := by
  have opening : getPlan planId outside = .ok (some plan) (outside.next outside.world.tick) := by
    unfold getPlan reply call
    rw [read]
    dsimp only
    rw [found]
  unfold runDrill finalWorld
  rw [bind_run, opening]
  rfl

/-- The `INSERT` of a row that is accepted. -/
theorem createDrill_eq {drill : Drill} (world : World) (wellFormed : drill.wellFormed = true)
    (fresh : world.drills.find drill.drillId = none) :
    Exists fun created => World.createDrill drill world = (.ok drill, created) ∧ SamePlans world created ∧
      created.events = world.events ∧ created.drills.rows = world.drills.rows ++ [drill] := by
  rcases Table.exists_insert fresh with ⟨drills, inserted⟩
  unfold World.createDrill
  rw [if_pos wellFormed, inserted]
  exact ⟨_, rfl, ⟨rfl, rfl, Nat.le_succ _⟩, rfl, Table.rows_of_insert inserted⟩

theorem createDrill_refused {drill : Drill} (world : World)
    (refused : ¬(drill.wellFormed = true ∧ world.drills.find drill.drillId = none)) :
    Exists fun error => World.createDrill drill world = (.error error, world.tick) := by
  unfold World.createDrill
  by_cases wellFormed : drill.wellFormed = true
  · rw [if_pos wellFormed]
    cases inserted : world.drills.insert drill with
    | none => exact ⟨_, rfl⟩
    | some drills => exact absurd ⟨wellFormed, Table.find_eq_none_of_insert inserted⟩ refused
  · rw [if_neg wellFormed]
    exact ⟨_, rfl⟩

/-- A call that begins a drill. -/
theorem begun_of_creates {planId : Id} {actor trigger : Text} {outside : Outside Failure World}
    (creates : Creates surroundings planId actor trigger outside) :
    Begun surroundings enableHealthChecks planId actor trigger outside.world
      (finalWorld (runDrill surroundings enableHealthChecks planId actor trigger) outside) := by
  rcases creates with ⟨read, reaches, plan, found, wellFormed, fresh⟩
  rcases createDrill_eq outside.world.tick.tick.tick wellFormed fresh with
    ⟨created, inserted, samePlans, events, rows⟩
  have begins : SamePlans outside.world created :=
    ⟨samePlans.plans, samePlans.components, (Nat.le_add_right _ 3).trans samePlans.calls⟩
  refine ⟨plan, created, found, begins, events, rows, fresh, ?_⟩
  rw [finalWorld_runDrill surroundings enableHealthChecks actor trigger read found]
  unfold finalWorld
  rw [bind_run]
  unfold call
  have fate : (atCreation outside).fate = outside.fateAfter 1 := Outside.fate_next _ _
  have ran : World.createDrill (firstRow surroundings plan actor trigger outside.world) (atCreation outside).world =
    (.ok (firstRow surroundings plan actor trigger outside.world), created) := inserted
  rw [fate, ran]
  cases after : outside.fateAfter 1 with
  | served => exact conductDrill_final surroundings enableHealthChecks plan actor _ ((atCreation outside).next created)
  | fails error applied =>
      cases applied with
      | false => exact absurd after (reaches error)
      | true => exact ⟨SamePlans.refl _, rfl, rfl, fun _ member => Or.inl member⟩

/-- A call that begins none. -/
theorem drills_of_not_creates {planId : Id} {actor trigger : Text} {outside : Outside Failure World}
    (not_creates : ¬Creates surroundings planId actor trigger outside) :
    (finalWorld (runDrill surroundings enableHealthChecks planId actor trigger) outside).drills = outside.world.drills := by
  cases read : outside.fate with
  | fails error applied =>
      have opening : getPlan planId outside =
          .error error (outside.next (if applied then outside.world.tick else outside.world)) := by
        unfold getPlan reply call
        rw [read]
      unfold runDrill
      rw [finalWorld_bind_of_error opening]
      cases applied <;> rfl
  | served =>
      cases found : outside.world.plans.find planId with
      | none =>
          have opening : getPlan planId outside = .ok none (outside.next outside.world.tick) := by
            unfold getPlan reply call
            rw [read]
            dsimp only
            rw [found]
          unfold runDrill finalWorld
          rw [bind_run, opening]
          rfl
      | some plan =>
          rw [finalWorld_runDrill surroundings enableHealthChecks actor trigger read found]
          have fate : (atCreation outside).fate = outside.fateAfter 1 := Outside.fate_next _ _
          by_cases reaches : forall error, outside.fateAfter 1 ≠ .fails error false
          · have refused := createDrill_refused (atCreation outside).world fun accepted =>
              not_creates ⟨read, reaches, plan, found, accepted.1, accepted.2⟩
            rcases refused with ⟨error, refused⟩
            have ended : Exists fun error' => call
                (World.createDrill (firstRow surroundings plan actor trigger outside.world)) (atCreation outside) =
                .error error' ((atCreation outside).next (atCreation outside).world.tick) := by
              unfold call
              rw [refused]
              cases after : outside.fateAfter 1 with
              | served => exact ⟨error, by rw [fate, after]⟩
              | fails error' applied =>
                  cases applied with
                  | false => exact absurd after (reaches error')
                  | true => exact ⟨error', by rw [fate, after]; rfl⟩
            rcases ended with ⟨error', ended⟩
            rw [finalWorld_bind_of_error ended]
            rfl
          · rcases not_forall.mp reaches with ⟨error, lost⟩
            rw [finalWorld_call_bind_lost (fate.trans (not_not.mp lost))]
            rfl

/-! ## The results -/

/-- An event tells the end of the drill. -/
def Drill.isCompletedBy (drill : Drill) (event : DREvent) : Bool :=
  decide (event.eventType = "DR_DRILL_COMPLETED".toList) && decide (event.drillId = some drill.drillId)

/-- Every drill row that is new has ended, and one event of its end is recorded. -/
def Settled (before after : World) : Prop :=
  forall drill, drill ∈ after.drills -> drill.drillId ∉ before.drills.rows.map Drill.drillId ->
    (drill.status = .succeeded ∨ drill.status = .failed) ∧
      after.events.countP drill.isCompletedBy = before.events.countP drill.isCompletedBy + 1

/-- A drill that has begun is never settled. -/
theorem not_settled_of_creates {planId : Id} {actor trigger : Text} {outside : Outside Failure World}
    (creates : Creates surroundings planId actor trigger outside) :
    ¬Settled outside.world (finalWorld (runDrill surroundings enableHealthChecks planId actor trigger) outside) := by
  intro settled
  rcases begun_of_creates surroundings enableHealthChecks creates with
    ⟨plan, created, -, -, events, rows, fresh, conducted⟩
  have listed : (firstRow surroundings plan actor trigger outside.world).drillId ∈
      (finalWorld (runDrill surroundings enableHealthChecks planId actor trigger) outside).drills.rows.map
        Drill.drillId := by
    rw [conducted.keys, rows, List.map_append, List.map_singleton]
    exact List.mem_append_right _ (List.mem_singleton_self _)
  rcases List.mem_map.mp listed with ⟨drill, member, same⟩
  have recorded := (settled drill member (same ▸ Table.find_eq_none_iff.mp fresh)).2
  rw [conducted.events, events] at recorded
  exact absurd recorded (Nat.ne_of_lt (Nat.lt_succ_self _))

/-- A call of `run_drill` leaves its drill settled only when it creates none. -/
theorem settled_iff_none_created (planId : Id) (actor trigger : Text) (outside : Outside Failure World) :
    Settled outside.world (finalWorld (runDrill surroundings enableHealthChecks planId actor trigger) outside) <->
      ¬Creates surroundings planId actor trigger outside := by
  constructor
  · intro settled creates
    exact not_settled_of_creates surroundings enableHealthChecks creates settled
  · intro not_creates drill member new
    have kept := drills_of_not_creates surroundings enableHealthChecks not_creates
    exact absurd (List.mem_map_of_mem (kept ▸ member)) new

/-- The new drill rows that have succeeded stand for what is said of a plan's drill. -/
def SuccessStandsFor (earned : RecoveryPlan -> World -> World -> Prop) (planId : Id) (before after : World) : Prop :=
  forall drill, drill ∈ after.drills -> drill ∉ before.drills -> drill.status = .succeeded ->
    Exists fun plan => before.plans.find planId = some plan ∧ earned plan before after

end Steps

section Examples

def examplePlan : RecoveryPlan where
  planId := "plan".toList
  environment := "staging".toList
  rpoSeconds := 3600
  drillMaxAgeDays := none
  status := .active

def exampleComponent : RecoveryComponent where
  componentName := "api".toList
  recoveryStrategy := .restart
  backupPolicyName := none
  healthEndpoint := some "http://api/health".toList
  rpoSeconds := none

def exampleSurroundings : Surroundings where
  utcNow := fun number => number
  newUuid := fun number => (Nat.repr number).toList
  policyExists := fun _ _ => false
  latestBackup := fun _ _ => none
  check := fun _ _ => none

def exampleOutside : Outside Failure World where
  world :=
    { plans := Table.single examplePlan
      components := fun _ => [exampleComponent]
      drills := Table.empty
      steps := []
      events := []
      calls := 0 }
  fates := []

/-- A call that nothing fails still leaves its drill without the event. -/
theorem drill_is_left_unsettled :
    ¬Settled exampleOutside.world
      (finalWorld (runDrill exampleSurroundings false "plan".toList "actor".toList "manual".toList) exampleOutside) := by
  apply not_settled_of_creates
  refine ⟨rfl, fun error same => ?_, examplePlan, ?_, ?_, rfl⟩
  · cases same
  · decide +kernel
  · decide +kernel

end Examples

end Recovery
end ApexQuant
