import ApexQuant.Recovery.Verifier

namespace ApexQuant
namespace Recovery

open Foundation
open Foundation.Faults

/-!
# The drill

`run_drill` of `drill_engine.py`.  A step that raises is a failed step.  The assessment
of the backups before the steps and the report after them stand outside of the `try`
block, and so do the calls that write; and the event of the end is given to
`record_event` as a `dict`, which has none of the attributes that are read off it.
-/

def minimumSuccessScore : Rat := 70

/-! ## What is written -/

/-- `dr_drills_environment_not_empty`, `dr_drills_trigger_not_empty` and
`dr_drills_actor_not_empty`. -/
def Drill.wellFormed (drill : Drill) : Bool :=
  Text.notBlank drill.environment && Text.notBlank drill.trigger && Text.notBlank drill.actor

/-- The `INSERT` of `create_drill`. -/
def World.createDrill (drill : Drill) (world : World) : Except Failure Drill × World :=
  if drill.wellFormed then
    match world.drills.insert drill with
    | some drills => (.ok drill, { world.tick with drills := drills })
    | none => (.error (.constraint "dr_drills_pkey".toList), world.tick)
  else (.error (.constraint "dr_drills".toList), world.tick)

/-- The assignments of `update_drill` to a row. -/
def Drill.overwrite (drill old : Drill) : Drill :=
  if old.drillId = drill.drillId then
    { old with
      status := drill.status
      completedAt := drill.completedAt
      readinessScore := drill.readinessScore
      result := drill.result
      error := drill.error }
  else old

theorem Drill.drillId_overwrite (drill old : Drill) : (drill.overwrite old).drillId = old.drillId := by
  unfold Drill.overwrite
  split <;> rfl

/-- The `UPDATE` of `update_drill`. -/
def World.updateDrill (drill : Drill) (world : World) : Except Failure Unit × World :=
  if (world.drills.find drill.drillId).isSome then
    (.ok (), { world.tick with drills := world.drills.update drill.overwrite drill.drillId_overwrite })
  else (.error (.notFound ("drill not found: ".toList ++ drill.drillId)), world.tick)

def World.createStep (step : DrillStep) (world : World) : Except Failure DrillStep × World :=
  (.ok step, { world.tick with steps := world.steps ++ [step] })

def World.updateStep (step : DrillStep) (world : World) : Except Failure Unit × World :=
  if world.steps.any fun other => decide (other.stepId = step.stepId) then
    (.ok (),
      { world.tick with
        steps := world.steps.map fun other =>
          if other.stepId = step.stepId then
            { other with
              status := step.status
              completedAt := step.completedAt
              result := step.result
              error := step.error }
          else other })
  else (.error (.notFound ("step not found: ".toList ++ step.stepId)), world.tick)

/-- What a caller gives to `record_event`: the model that it declares, or a `dict`. -/
inductive EventArgument where
  | event (event : DREvent)
  | dict (entries : Json)

/-- `record_event`. -/
def World.recordEvent (argument : EventArgument) (world : World) : Except Failure Unit × World :=
  match argument with
  | .event event => (.ok (), { world.tick with events := world.events ++ [event] })
  | .dict _ => (.error (.attribute "'dict' object has no attribute 'plan_id'".toList), world.tick)

/-! ## Steps -/

section Engine

variable (surroundings : Surroundings) (enableHealthChecks : Bool)

/-- A step of the drill: its name and what it does. -/
structure Step where
  name : Text
  run : Action CheckResult

def validateStepName : Text := "validate_plan".toList

/-- `health_step`. -/
def healthStep (plan : RecoveryPlan) : Action CheckResult := do
  let (result, _) ← checkHealth surroundings enableHealthChecks plan
  return result

/-- The steps of a drill, in their order. -/
def drillSteps (plan : RecoveryPlan) (requirements : List BackupRequirementStatus) : List Step :=
  [{ name := validateStepName, run := validatePlan plan.planId },
    { name := "check_backup_policies".toList, run := pure (checkBackupPolicies requirements) },
    { name := "check_backup_freshness".toList, run := pure (checkBackupFreshness requirements) },
    { name := "check_backup_verification".toList, run := pure (checkBackupVerification requirements) },
    { name := "check_component_health".toList, run := healthStep surroundings enableHealthChecks plan }]

/-- One pass of the loop over the steps; the answer says whether the step succeeded. -/
def runStep (drillId : Id) (order : Nat) (step : Step) : Action Bool := do
  let stepId ← glance surroundings.newUuid
  let startedAt ← glance surroundings.utcNow
  let row ← call (World.createStep
    { stepId := stepId
      drillId := drillId
      stepName := step.name
      stepOrder := order
      status := .running
      startedAt := startedAt
      completedAt := none
      result := .object []
      error := none })
  let outcome ← handle (step.run >>= fun result => pure (Except.ok result)) fun error => pure (Except.error error)
  let completedAt ← glance surroundings.utcNow
  match outcome with
  | .ok result =>
      call (World.updateStep
        { row with
          completedAt := some completedAt
          result := result.result
          status := if result.ok then .succeeded else .failed
          error := if result.ok then none else result.error })
      return result.ok
  | .error error =>
      call (World.updateStep
        { row with completedAt := some completedAt, status := .failed, error := some error.message })
      return false

/-- The loop over the steps; the answer says whether one failed.  A plan that is not
valid ends it. -/
def runSteps (drillId : Id) : Nat -> List Step -> Bool -> Action Bool
  | _, [], failed => return failed
  | order, step :: steps, failed => do
      let succeeded ← runStep surroundings drillId order step
      if !succeeded && decide (step.name = validateStepName) then return true
      else runSteps drillId (order + 1) steps (failed || !succeeded)

/-- The event of the end, as it is written in the source. -/
def completedEvent (plan : RecoveryPlan) (drill : Drill) (actor : Text) (completed : Bool) : EventArgument :=
  .dict (.object
    [("plan_id".toList, .string plan.planId), ("drill_id".toList, .string drill.drillId),
      ("event_type".toList, .string "DR_DRILL_COMPLETED".toList),
      ("severity".toList, .string (if completed then "INFO".toList else "WARNING".toList)),
      ("actor".toList, .string actor), ("reason".toList, .string (drill.error.getD "drill completed".toList)),
      ("details".toList, .object
        [("status".toList, .string (if completed then "SUCCEEDED".toList else "FAILED".toList)),
          ("readiness_score".toList, .float (drill.readinessScore.getD 0))])])

/-- The part of `run_drill` that judges the drill: what becomes of its row, and whether
it was completed. -/
def judgeDrill (plan : RecoveryPlan) (drill : Drill) : Action (Drill × Bool) := do
  let requirements ← assessBackupRequirements surroundings plan
  let failed ← runSteps surroundings drill.drillId 1
    (drillSteps surroundings enableHealthChecks plan requirements) false
  let readiness ← buildReadinessReport surroundings enableHealthChecks plan.planId
  let drillCompleted := !failed && decide (minimumSuccessScore ≤ readiness.score)
  let completedAt ← glance surroundings.utcNow
  return ({ drill with
    status := if drillCompleted then .succeeded else .failed
    completedAt := some completedAt
    readinessScore := some readiness.score
    result := some readiness
    error := if failed then some "one or more drill steps failed".toList else drill.error }, drillCompleted)

/-- The part of `run_drill` that writes what became of the drill. -/
def concludeDrill (plan : RecoveryPlan) (actor : Text) (ended : Drill) (drillCompleted : Bool) : Action Drill := do
  call (World.updateDrill ended)
  call (World.recordEvent (completedEvent plan ended actor drillCompleted))
  return ended

/-- The row of a drill that begins. -/
def beginningDrill (plan : RecoveryPlan) (actor trigger : Text) (startedAt : Moment) (drillId : Id) : Drill where
  drillId := drillId
  planId := plan.planId
  environment := plan.environment
  trigger := trigger
  actor := actor
  status := .running
  startedAt := startedAt
  completedAt := none
  readinessScore := none
  result := none
  error := none

/-- The part of `run_drill` after the row is there. -/
def conductDrill (plan : RecoveryPlan) (actor : Text) (drill : Drill) : Action Drill := do
  let (ended, drillCompleted) ← judgeDrill surroundings enableHealthChecks plan drill
  concludeDrill plan actor ended drillCompleted

/-- `run_drill`. -/
def runDrill (planId : Id) (actor trigger : Text) : Action Drill := do
  match ← getPlan planId with
  | none => throw (.notFound ("plan not found: ".toList ++ planId))
  | some plan =>
      let startedAt ← glance surroundings.utcNow
      let drillId ← glance surroundings.newUuid
      let drill ← call (World.createDrill (beginningDrill plan actor trigger startedAt drillId))
      conductDrill surroundings enableHealthChecks plan actor drill

/-! ## What the steps have seen -/

/-- The step was run between two worlds, and passed. -/
def Passed (step : Step) (before after : World) : Prop :=
  Exists fun outside => Exists fun final => Exists fun result =>
    step.run outside = .ok result final ∧ result.ok = true ∧ Unchanged before outside.world ∧ Unchanged final.world after

theorem Passed.stays {step : Step} {before before' after after' : World} (passed : Passed step before after)
    (earlier : Unchanged before' before) (later : Unchanged after after') : Passed step before' after' := by
  rcases passed with ⟨outside, final, result, ran, ok, first, last⟩
  exact ⟨outside, final, result, ran, ok, reading.trans earlier first, reading.trans last later⟩

theorem within_createStep (row : DrillStep) : Within reading (call (World.createStep row)) fun _ _ _ => True :=
  Within.call (fun _ => ⟨⟨rfl, rfl, Nat.le_succ _⟩, rfl, rfl⟩) fun _ _ _ _ => trivial

theorem within_updateStep (row : DrillStep) : Within reading (call (World.updateStep row)) fun _ _ _ => True := by
  apply Within.call
  · intro world
    unfold World.updateStep
    split
    · exact ⟨⟨rfl, rfl, Nat.le_succ _⟩, rfl, rfl⟩
    · exact unchanged_tick world
  · intro _ _ _ _
    trivial

theorem within_runStep {step : Step} {tells : World -> World -> CheckResult -> Prop} (drillId : Id) (order : Nat)
    (runs : Within reading step.run tells) :
    Within reading (runStep surroundings drillId order step) fun before after succeeded =>
      succeeded = true -> Passed step before after := by
  apply Within.andThen (within_glance _)
  intro stepId
  apply Within.andThen (within_glance _)
  intro startedAt
  apply Within.andThen (within_createStep _)
  intro row
  apply Within.andThen (Within.attempt runs.ran)
  intro outcome
  apply Within.andThen (within_glance _)
  intro completedAt
  cases outcome with
  | error error =>
      apply Within.andThen (within_updateStep _)
      intro _
      apply Within.pure
      intros
      contradiction
  | ok result =>
      apply Within.andThen (within_updateStep _)
      intro _
      apply Within.pure
      rintro world sixth toWorld - - fifth toSixth - - fourth toFifth - attempted third toFourth - - second toThird - -
        first toSecond - - ok
      rcases attempted result rfl with ⟨outside, final, ran, rfl, rfl⟩
      exact ⟨outside, final, result, ran, ok, reading.trans toSecond (reading.trans toThird toFourth),
        reading.trans toSixth toWorld⟩

/-- A drill without a failed step has passed them all. -/
theorem within_runSteps (drillId : Id) (order : Nat) (steps : List Step) (failed : Bool)
    (runs : forall step, step ∈ steps -> Within reading step.run fun _ _ _ => True) :
    Within reading (runSteps surroundings drillId order steps failed) fun before after answer =>
      answer = false -> failed = false ∧ forall step, step ∈ steps -> Passed step before after := by
  induction steps generalizing order failed with
  | nil => exact Within.pure fun _ none_ => ⟨none_, fun _ member => by cases member⟩
  | cons step steps inductionHypothesis =>
      apply Within.andThen (within_runStep surroundings drillId order (runs step List.mem_cons_self))
      intro succeeded
      split
      · apply Within.pure
        intro _ _ _ _ _ none_
        cases none_
      · have later := inductionHypothesis (order + 1) (failed || !succeeded) fun other member =>
          runs other (List.mem_cons_of_mem _ member)
        apply Within.weaken later
        rintro middle after answer - ended before first last passes none_
        rcases ended none_ with ⟨before_, others⟩
        rcases Bool.or_eq_false_iff.mp before_ with ⟨earlier, passed⟩
        refine ⟨earlier, fun other member => ?_⟩
        rcases List.mem_cons.mp member with rfl | further
        · exact (passes (by simpa using passed)).stays (reading.refl _) last
        · exact (others other further).stays first (reading.refl _)

end Engine

end Recovery
end ApexQuant
