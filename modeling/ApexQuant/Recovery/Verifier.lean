import ApexQuant.Foundation.Frames
import ApexQuant.Foundation.Json
import ApexQuant.Foundation.Table
import ApexQuant.Recovery.Scoring

namespace ApexQuant
namespace Recovery

open Foundation
open Foundation.Faults

/-!
# The verifier

`verifier.py`, with the tables that `repository.py` reads and writes and the two
services outside: the provider of backup states and the checker of health.  Whatever
they answer may change from call to call, so an answer depends on how many calls came
before; any call may raise.  Moments are in microseconds.
-/

abbrev Id := Text
abbrev Moment := Int

inductive PlanStatus where
  | draft
  | active
  | retired
  deriving DecidableEq, Repr

inductive RecoveryStrategy where
  | restoreFromBackup
  | restart
  | rebuild
  | failover
  | manual
  deriving DecidableEq, Repr

inductive DrillStatus where
  | running
  | succeeded
  | failed
  | cancelled
  deriving DecidableEq, Repr

inductive StepStatus where
  | pending
  | running
  | succeeded
  | failed
  | skipped
  deriving DecidableEq, Repr

def PlanStatus.value : PlanStatus -> Text
  | .draft => "DRAFT".toList
  | .active => "ACTIVE".toList
  | .retired => "RETIRED".toList

structure RecoveryPlan where
  planId : Id
  environment : Text
  rpoSeconds : Int
  drillMaxAgeDays : Option Int
  status : PlanStatus
  deriving DecidableEq

structure RecoveryComponent where
  componentName : Text
  recoveryStrategy : RecoveryStrategy
  backupPolicyName : Option Text
  healthEndpoint : Option Text
  rpoSeconds : Option Int
  deriving DecidableEq

structure BackupStatus where
  latestSuccessAt : Option Moment
  verificationStatus : Option Text
  deriving DecidableEq

structure ReadinessReport where
  planId : Id
  environment : Text
  planActive : Bool
  score : Rat
  state : Text
  failClosedTriggered : Bool
  backupRequirements : List BackupRequirementStatus
  healthChecks : List HealthCheckStatus
  recentDrillPassed : Bool
  warnings : List Text
  deriving DecidableEq

structure Drill where
  drillId : Id
  planId : Id
  environment : Text
  trigger : Text
  actor : Text
  status : DrillStatus
  startedAt : Moment
  completedAt : Option Moment
  readinessScore : Option Rat
  result : Option ReadinessReport
  error : Option Text
  deriving DecidableEq

structure DrillStep where
  stepId : Id
  drillId : Id
  stepName : Text
  stepOrder : Nat
  status : StepStatus
  startedAt : Moment
  completedAt : Option Moment
  result : Json
  error : Option Text

structure DREvent where
  planId : Option Id
  drillId : Option Id
  eventType : Text
  severity : Text
  actor : Text
  reason : Text
  details : Json

/-- The tables, with the components of a plan as `list_components` answers them, and the
number of calls so far. -/
structure World where
  plans : Table RecoveryPlan.planId
  components : Id -> List RecoveryComponent
  drills : Table Drill.drillId
  steps : List DrillStep
  events : List DREvent
  calls : Nat

/-- What is outside: clocks, draws, the provider of backups and the checker of health, by
the number of calls so far. -/
structure Surroundings where
  utcNow : Nat -> Moment
  newUuid : Nat -> Id
  policyExists : Nat -> Text -> Bool
  latestBackup : Nat -> Text -> Option BackupStatus
  check : Nat -> RecoveryComponent -> Option Bool

/-- The exceptions of a drill, with their texts. -/
inductive Failure where
  | notFound (message : Text)
  | attribute (message : Text)
  | constraint (message : Text)
  | outside (message : Text)
  deriving DecidableEq

/-- `str(exc)` -/
def Failure.message : Failure -> Text
  | .notFound message => message
  | .attribute message => message
  | .constraint message => message
  | .outside message => message

abbrev Action (A : Type) := Program Failure World A

def World.tick (world : World) : World :=
  { world with calls := world.calls + 1 }

/-- A call that answers from the world and its number. -/
def reply {A : Type} (answer : World -> A) : Action A :=
  call fun world => (.ok (answer world), world.tick)

/-- `utc_now()` and `new_uuid()`, which do not raise. -/
def glance {A : Type} (answer : Nat -> A) : Action A := fun outside =>
  .ok (answer outside.world.calls) { outside with world := outside.world.tick }

def microsecondsPerSecond : Int := 1000000

/-- `component.rpo_seconds or plan.rpo_seconds` -/
def rpoOf (plan : RecoveryPlan) (component : RecoveryComponent) : Int :=
  match component.rpoSeconds with
  | none => plan.rpoSeconds
  | some seconds => if seconds = 0 then plan.rpoSeconds else seconds

/-- `bool(component.health_endpoint)` -/
def RecoveryComponent.hasEndpoint (component : RecoveryComponent) : Bool :=
  match component.healthEndpoint with
  | none => false
  | some endpoint => !endpoint.isEmpty

/-- `CheckResult`. -/
structure CheckResult where
  ok : Bool
  result : Json
  error : Option Text

def CheckResult.passed (result : List (Text × Json)) : CheckResult where
  ok := true
  result := .object result
  error := none

def CheckResult.refused (result : List (Text × Json)) (error : Text) : CheckResult where
  ok := false
  result := .object result
  error := some error

def names (list : List Text) : Json :=
  .array (list.map .string)

/-! ## `repository.py` -/

def getPlan (planId : Id) : Action (Option RecoveryPlan) :=
  reply fun world => world.plans.find planId

def listComponents (planId : Id) : Action (List RecoveryComponent) :=
  reply fun world => world.components planId

def microsecondsPerDay : Int := 86400000000

section Verifier

variable (surroundings : Surroundings) (enableHealthChecks : Bool)

/-- `latest_passed_drill_within_days`. -/
def latestPassedDrillWithinDays (planId : Id) (days : Option Int) : Action Bool :=
  reply fun world =>
    world.drills.rows.any fun drill =>
      decide (drill.planId = planId) && decide (drill.status = .succeeded) &&
        match days with
        | none => true
        | some days =>
            decide (surroundings.utcNow world.calls - days * microsecondsPerDay ≤ drill.completedAt.getD drill.startedAt)

/-! ## `verifier.py` -/

/-- `validate_plan`. -/
def validatePlan (planId : Id) : Action CheckResult := do
  match ← getPlan planId with
  | none => return { ok := false, result := .object [], error := some ("plan not found: ".toList ++ planId) }
  | some plan =>
      if plan.status ≠ .active then
        return .refused [("plan_status".toList, .string plan.status.value)] "plan is not ACTIVE".toList
      else
        let components ← listComponents plan.planId
        if components = [] then return .refused [] "plan has no recovery components".toList
        else
          return .passed [("plan_id".toList, .string plan.planId), ("plan_status".toList, .string plan.status.value),
            ("component_count".toList, .integer components.length)]

/-- The pass over one component of `assess_backup_requirements`. -/
def assessComponent (plan : RecoveryPlan) (component : RecoveryComponent) : Action BackupRequirementStatus := do
  let requiresBackup := decide (component.recoveryStrategy = .restoreFromBackup)
  let requirement : BackupRequirementStatus :=
    { componentName := component.componentName
      backupPolicyName := component.backupPolicyName
      required := requiresBackup
      policyExists := false
      latestBackupAt := none
      fresh := false
      verified := false
      rpoSeconds := some (rpoOf plan component) }
  if !requiresBackup then return requirement
  else
    match component.backupPolicyName with
    | none => return requirement
    | some name =>
        let policyExists ← reply fun world => surroundings.policyExists world.calls name
        if !policyExists then return requirement
        else
          let backupStatus ← reply fun world => surroundings.latestBackup world.calls name
          let requirement := { requirement with policyExists := true }
          match backupStatus.bind fun status => status.latestSuccessAt.map fun moment => (status, moment) with
          | none => return requirement
          | some (status, moment) =>
              let now ← glance surroundings.utcNow
              return {
                requirement with
                latestBackupAt := some moment
                fresh := decide (now - rpoOf plan component * microsecondsPerSecond ≤ moment)
                verified := decide (status.verificationStatus = some "SUCCEEDED".toList) }

/-- `assess_backup_requirements`. -/
def assessBackupRequirements (plan : RecoveryPlan) : Action (List BackupRequirementStatus) := do
  let components ← listComponents plan.planId
  components.mapM (assessComponent surroundings plan)

/-- The names of the components whose requirement meets a condition. -/
def namesWhere (requirements : List BackupRequirementStatus) (condition : BackupRequirementStatus -> Bool) : List Text :=
  (requirements.filter condition).map BackupRequirementStatus.componentName

/-- `check_backup_policies`. -/
def checkBackupPolicies (requirements : List BackupRequirementStatus) : CheckResult :=
  let missingPolicy := namesWhere requirements fun requirement => requirement.required && !requirement.policyExists
  if missingPolicy ≠ [] then
    .refused [("missing_backup_policy_for".toList, names missingPolicy)]
      "one or more components are missing backup policies".toList
  else
    .passed [("required_backup_components".toList,
      .integer (requirements.filter BackupRequirementStatus.required).length)]

/-- `check_backup_freshness`. -/
def checkBackupFreshness (requirements : List BackupRequirementStatus) : CheckResult :=
  let stale := namesWhere requirements fun requirement =>
    requirement.required && requirement.policyExists && !requirement.fresh
  if stale ≠ [] then
    .refused [("stale_or_missing_backups_for".toList, names stale)]
      "one or more required backups are missing or stale".toList
  else .passed [("all_required_backups_fresh".toList, .bool true)]

/-- `check_backup_verification`. -/
def checkBackupVerification (requirements : List BackupRequirementStatus) : CheckResult :=
  let unverified := namesWhere requirements fun requirement =>
    requirement.required && requirement.policyExists && requirement.fresh && !requirement.verified
  if unverified ≠ [] then
    .refused [("unverified_backups_for".toList, names unverified)]
      "one or more required backups are not verified".toList
  else .passed [("all_required_backups_verified".toList, .bool true)]

/-- The pass over one component of `check_health`. -/
def checkComponent (component : RecoveryComponent) : Action HealthCheckStatus := do
  let healthStatus : HealthCheckStatus :=
    { componentName := component.componentName
      healthEndpoint := component.healthEndpoint
      applicable := component.hasEndpoint
      checked := false
      healthy := none }
  if !component.hasEndpoint then return healthStatus
  else if !enableHealthChecks then return healthStatus
  else
    let healthy ← reply fun world => surroundings.check world.calls component
    return { healthStatus with checked := true, healthy := healthy }

/-- `check_health`. -/
def checkHealth (plan : RecoveryPlan) : Action (CheckResult × List HealthCheckStatus) := do
  let components ← listComponents plan.planId
  let checks ← components.mapM (checkComponent surroundings enableHealthChecks)
  let failed := (checks.filter fun check => decide (check.healthy = some false)).map HealthCheckStatus.componentName
  if failed ≠ [] then
    return (.refused [("failed_health_checks_for".toList, names failed)]
      "one or more component health checks failed".toList, checks)
  else return (.passed [("health_checks_passed".toList, .bool true)], checks)

/-- The warnings about one requirement. -/
def requirementWarnings (requirement : BackupRequirementStatus) : List Text :=
  let component := "component ".toList ++ requirement.componentName
  (if requirement.required && !requirement.policyExists then [component ++ " has no backup policy".toList] else []) ++
    (if requirement.required && requirement.policyExists && !requirement.fresh then
      [component ++ " backup is stale or missing".toList]
    else []) ++
    (if requirement.required && requirement.fresh && !requirement.verified then
      [component ++ " backup is not verified".toList]
    else [])

def healthWarnings (check : HealthCheckStatus) : List Text :=
  if check.applicable && decide (check.healthy = some false) then
    ["component ".toList ++ check.componentName ++ " failed health check".toList]
  else []

/-- `build_readiness_report`. -/
def buildReadinessReport (planId : Id) : Action ReadinessReport := do
  match ← getPlan planId with
  | none => throw (.notFound ("plan not found: ".toList ++ planId))
  | some plan =>
      let backupRequirements ← assessBackupRequirements surroundings plan
      let (_, healthChecks) ← checkHealth surroundings enableHealthChecks plan
      let recentDrillPassed ← latestPassedDrillWithinDays surroundings plan.planId plan.drillMaxAgeDays
      let planActive := decide (plan.status = .active)
      let readiness := scoreReadiness planActive backupRequirements healthChecks recentDrillPassed
      return {
        planId := plan.planId
        environment := plan.environment
        planActive := planActive
        score := readiness.score
        state := readiness.state
        failClosedTriggered := readiness.failClosedTriggered
        backupRequirements := backupRequirements
        healthChecks := healthChecks
        recentDrillPassed := recentDrillPassed
        warnings := (if planActive then [] else ["recovery plan is not active".toList]) ++
          backupRequirements.flatMap requirementWarnings ++ healthChecks.flatMap healthWarnings }

end Verifier

/-! ## Reading -/

/-- The plans are as they were. -/
structure SamePlans (before after : World) : Prop where
  plans : after.plans = before.plans
  components : after.components = before.components
  calls : before.calls ≤ after.calls

theorem SamePlans.refl (world : World) : SamePlans world world :=
  ⟨rfl, rfl, le_rfl⟩

theorem SamePlans.trans {before middle after : World} (first : SamePlans before middle) (rest : SamePlans middle after) :
    SamePlans before after :=
  ⟨rest.plans.trans first.plans, rest.components.trans first.components, first.calls.trans rest.calls⟩

/-- The tables are as they were, but for the steps of drills. -/
structure Unchanged (before after : World) : Prop extends SamePlans before after where
  drills : after.drills = before.drills
  events : after.events = before.events

def reading : Frame World where
  within := Unchanged
  refl := fun world => ⟨SamePlans.refl world, rfl, rfl⟩
  trans := fun first rest =>
    ⟨first.toSamePlans.trans rest.toSamePlans, rest.drills.trans first.drills, rest.events.trans first.events⟩

/-- A call between two worlds was answered so. -/
def Asked (before after : World) (answered : Nat -> Prop) : Prop :=
  Exists fun number => before.calls ≤ number ∧ number < after.calls ∧ answered number

theorem Asked.stays {before before' after after' : World} {answered : Nat -> Prop} (asked : Asked before after answered)
    (earlier : SamePlans before' before) (later : SamePlans after after') : Asked before' after' answered := by
  rcases asked with ⟨number, first, last, answer⟩
  exact ⟨number, earlier.calls.trans first, last.trans_le later.calls, answer⟩

theorem unchanged_tick (world : World) : Unchanged world world.tick :=
  ⟨⟨rfl, rfl, Nat.le_succ _⟩, rfl, rfl⟩

theorem asked_tick {world : World} {answered : Nat -> Prop} (answer : answered world.calls) :
    Asked world world.tick answered :=
  ⟨world.calls, le_rfl, Nat.lt_succ_self _, answer⟩

theorem within_reply {A : Type} (answer : World -> A) :
    Within reading (reply answer) fun before after value => value = answer before ∧ after = before.tick := by
  apply Within.call
  · exact unchanged_tick
  · intro world value after answered
    cases answered
    exact ⟨rfl, rfl⟩

theorem within_glance {A : Type} (answer : Nat -> A) :
    Within reading (glance answer) fun before after value => value = answer before.calls ∧ after = before.tick :=
  fun outside => ⟨unchanged_tick outside.world, rfl, rfl⟩

section Assessment

variable (surroundings : Surroundings) (enableHealthChecks : Bool)

/-- The provider had the policy of the component, with a latest success inside the RPO
that was verified. -/
def Backed (plan : RecoveryPlan) (component : RecoveryComponent) (before after : World) : Prop :=
  Exists fun name => Exists fun status => Exists fun moment =>
    component.backupPolicyName = some name ∧
      Asked before after (fun number => surroundings.policyExists number name = true) ∧
      Asked before after (fun number => surroundings.latestBackup number name = some status) ∧
      status.latestSuccessAt = some moment ∧
      Asked before after (fun number =>
        surroundings.utcNow number - rpoOf plan component * microsecondsPerSecond ≤ moment) ∧
      status.verificationStatus = some "SUCCEEDED".toList

theorem Backed.stays {plan : RecoveryPlan} {component : RecoveryComponent} {before before' after after' : World}
    (backed : Backed surroundings plan component before after) (earlier : SamePlans before' before)
    (later : SamePlans after after') : Backed surroundings plan component before' after' := by
  rcases backed with ⟨name, status, moment, policy, listed, answered, success, fresh, verified⟩
  exact ⟨name, status, moment, policy, listed.stays earlier later, answered.stays earlier later, success,
    fresh.stays earlier later, verified⟩

/-- What an assessment tells of a component. -/
structure Assessed (plan : RecoveryPlan) (component : RecoveryComponent) (before after : World)
    (requirement : BackupRequirementStatus) : Prop where
  required : requirement.required = decide (component.recoveryStrategy = .restoreFromBackup)
  backed : requirement.policyExists = true -> requirement.fresh = true -> requirement.verified = true ->
    Backed surroundings plan component before after

theorem within_assessComponent (plan : RecoveryPlan) (component : RecoveryComponent) :
    Within reading (assessComponent surroundings plan component) (Assessed surroundings plan component) := by
  unfold assessComponent
  dsimp only
  split
  · exact Within.pure fun world => ⟨rfl, fun exists_ => by cases exists_⟩
  · split
    · exact Within.pure fun world => ⟨rfl, fun exists_ => by cases exists_⟩
    · rename_i name policy
      apply Within.andThen (within_reply _)
      intro listed
      split
      · apply Within.pure
        rintro world before - - -
        exact ⟨rfl, fun exists_ => by cases exists_⟩
      · rename_i found
        apply Within.andThen (within_reply _)
        intro backupStatus
        split
        · apply Within.pure
          rintro world middle - - - before - - -
          exact ⟨rfl, fun _ fresh => by cases fresh⟩
        · rename_i status moment success
          apply Within.andThen (within_glance _)
          intro now
          apply Within.pure
          rintro last third thirdLast - ⟨rfl, rfl⟩ second secondThird - ⟨answered, rfl⟩ first firstSecond - ⟨rfl, rfl⟩
          refine ⟨rfl, fun _ fresh verified => ?_⟩
          rcases Option.bind_eq_some_iff.mp success with ⟨status', found', paired⟩
          rcases Option.map_eq_some_iff.mp paired with ⟨moment', latest, same⟩
          cases same
          have start := SamePlans.refl first
          have rest := SamePlans.trans secondThird.toSamePlans thirdLast.toSamePlans
          exact ⟨name, status, moment, policy,
            (asked_tick (by simpa using found)).stays start rest,
            (asked_tick (answered.symm.trans found')).stays firstSecond.toSamePlans thirdLast.toSamePlans, latest,
            (asked_tick (of_decide_eq_true fresh)).stays (SamePlans.trans firstSecond.toSamePlans secondThird.toSamePlans)
              (SamePlans.refl _),
            of_decide_eq_true verified⟩

/-- An assessment tells of every component of the plan, in their order. -/
theorem within_assessBackupRequirements (plan : RecoveryPlan) :
    Within reading (assessBackupRequirements surroundings plan) fun before after requirements =>
      List.Forall₂ (fun component requirement => Assessed surroundings plan component before after requirement)
        (before.components plan.planId) requirements := by
  apply Within.andThen (within_reply _)
  intro components
  apply Within.weaken (Within.mapM (fun component _ => within_assessComponent surroundings plan component) ?_)
  · rintro middle after requirements unchanged each before first - ⟨rfl, rfl⟩
    exact each.imp fun component requirement assessed =>
      ⟨assessed.required, fun exists_ fresh verified => (assessed.backed exists_ fresh verified).stays surroundings
        (Unchanged.toSamePlans first) (SamePlans.refl _)⟩
  · intro component requirement before before' after after' earlier later assessed
    exact ⟨assessed.required, fun exists_ fresh verified =>
      (assessed.backed exists_ fresh verified).stays surroundings
      (Unchanged.toSamePlans earlier) (Unchanged.toSamePlans later)⟩

/-- The component was not found unhealthy: it was not to be checked, or the checker did
not answer `False`. -/
def NotUnhealthy (component : RecoveryComponent) (before after : World) : Prop :=
  enableHealthChecks = false ∨ Asked before after fun number => surroundings.check number component ≠ some false

theorem within_checkComponent (component : RecoveryComponent) :
    Within reading (checkComponent surroundings enableHealthChecks component) fun before after check =>
      component.hasEndpoint = true -> check.healthy ≠ some false ->
        NotUnhealthy surroundings enableHealthChecks component before after := by
  unfold checkComponent
  dsimp only
  split
  · rename_i absent
    apply Within.pure
    intro world present
    rw [present] at absent
    cases absent
  · split
    · rename_i disabled
      exact Within.pure fun world _ _ => Or.inl (by simpa using disabled)
    · apply Within.andThen (within_reply _)
      intro healthy
      apply Within.pure
      rintro world before - - ⟨rfl, rfl⟩ - answered
      exact Or.inr (asked_tick answered)

/-- Every item on the left has a companion. -/
theorem exists_of_forall₂_mem {A B : Type} {relation : A -> B -> Prop} {left : List A} {right : List B}
    (each : List.Forall₂ relation left right) {item : A} (member : item ∈ left) :
    Exists fun other => other ∈ right ∧ relation item other := by
  induction each with
  | nil => cases member
  | @cons head other _ others related _ inductionHypothesis =>
      rcases List.mem_cons.mp member with rfl | later
      · exact ⟨other, List.mem_cons_self, related⟩
      · rcases inductionHypothesis later with ⟨companion, listed, known⟩
        exact ⟨companion, List.mem_cons_of_mem _ listed, known⟩

/-- A health check that passes has found no component unhealthy. -/
theorem within_checkHealth (plan : RecoveryPlan) :
    Within reading (checkHealth surroundings enableHealthChecks plan) fun before after answer =>
      answer.1.ok = true -> forall component, component ∈ before.components plan.planId ->
        component.hasEndpoint = true -> NotUnhealthy surroundings enableHealthChecks component before after := by
  apply Within.andThen (within_reply _)
  intro components
  apply Within.andThen (Within.mapM (fun component _ => within_checkComponent surroundings enableHealthChecks component) ?_)
  · intro checks
    dsimp only
    split
    · apply Within.pure
      intro world middle _ _ _ before _ _ _ ok
      cases ok
    · rename_i none_
      apply Within.pure
      rintro world middle - - each before first - ⟨rfl, rfl⟩ - component member endpoint
      rcases exists_of_forall₂_mem each member with ⟨check, listed, tells⟩
      apply (tells endpoint ?_).imp id fun asked => asked.stays (Unchanged.toSamePlans first) (SamePlans.refl _)
      intro unhealthy
      have failing : check ∈ checks.filter fun check => decide (check.healthy = some false) :=
        List.mem_filter.mpr ⟨listed, decide_eq_true unhealthy⟩
      have counted := List.mem_map_of_mem (f := HealthCheckStatus.componentName) failing
      rw [not_not.mp none_] at counted
      cases counted
  · intro component check before before' after after' earlier later tells endpoint healthy
    exact (tells endpoint healthy).imp id fun asked =>
      asked.stays (Unchanged.toSamePlans earlier) (Unchanged.toSamePlans later)

end Assessment

end Recovery
end ApexQuant
