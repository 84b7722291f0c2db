import ApexQuant.Foundation.WriteOrder
import ApexQuant.Recovery.Completion

namespace ApexQuant
namespace Recovery

open Foundation
open Foundation.Faults
open Foundation.WriteOrder

/-!
# The plans of the disaster recovery service

The service makes plans and their components and activates plans.  Each statement is a
transaction of its own, and each change is followed by the event that reports it, so an
operation that fails on its way leaves what it had written.
-/

/-! ## `models.py` -/

inductive ComponentType where
  | service
  | database
  | eventBus
  | objectStorage
  | redis
  | config
  deriving DecidableEq, Repr

/-- A row of `disaster_recovery.recovery_plans`: a plan with what no drill reads of it. -/
structure PlanRow extends RecoveryPlan where
  name : Text
  description : Text
  criticalityTier : Text
  rtoSeconds : Int
  deriving DecidableEq

/-- A row of `disaster_recovery.recovery_components`. -/
structure ComponentRow extends RecoveryComponent where
  componentId : Id
  planId : Id
  componentType : ComponentType
  priority : Int
  rtoSeconds : Option Int
  notes : Text
  deriving DecidableEq

def PlanRow.key (row : PlanRow) : Id := row.planId

/-- `model_dump(mode="json")` of the two models. -/
structure Dumps where
  plan : PlanRow -> Json
  component : ComponentRow -> Json

/-- The tables that the service writes. -/
structure Register where
  plans : Table PlanRow.key
  named : (plans.rows.map PlanRow.name).Nodup
  components : Table ComponentRow.componentId
  distinct : (components.rows.map fun row => (row.planId, row.componentName)).Nodup
  events : List DREvent

def Register.empty : Register where
  plans := Table.empty
  named := List.nodup_nil
  components := Table.empty
  distinct := List.nodup_nil
  events := []

/-! ## Statements -/

inductive PlanFailure where
  | notFound (message : Text)
  | state (message : Text)
  | refused (what : Text)
  | outside (message : Text)
  deriving DecidableEq

/-- A value of `INTEGER`. -/
def isInteger (value : Int) : Bool :=
  decide (-2147483648 ≤ value ∧ value ≤ 2147483647)

def isPositive (value : Int) : Bool :=
  isInteger value && decide (0 < value)

/-- The parameters of the `INSERT` and the constraints of the table. -/
def PlanRow.accepted (row : PlanRow) : Bool :=
  [row.name, row.environment, row.description, row.criticalityTier].all Text.sendable &&
    Text.notBlank row.name && Text.notBlank row.environment &&
    decide (row.criticalityTier ∈ ["TIER_1".toList, "TIER_2".toList, "TIER_3".toList]) &&
    isPositive row.rpoSeconds && isPositive row.rtoSeconds && row.drillMaxAgeDays.all isPositive

def ComponentRow.accepted (row : ComponentRow) : Bool :=
  ([row.componentName, row.notes] ++ row.backupPolicyName.toList ++ row.healthEndpoint.toList).all Text.sendable &&
    Text.notBlank row.componentName && isPositive row.priority && row.rpoSeconds.all isPositive &&
    row.rtoSeconds.all isPositive

/-- The texts of an event and its constraints.  The service gives it no other severity. -/
def DREvent.accepted (event : DREvent) : Bool :=
  [event.eventType, event.severity, event.actor, event.reason].all Text.sendable &&
    Text.notBlank event.eventType && Text.notBlank event.actor &&
    decide (event.severity ∈ ["INFO".toList, "WARNING".toList, "CRITICAL".toList])

inductive PlanStatement where
  | insertPlan (row : PlanRow)
  | activate (planId : Id)
  | insertComponent (row : ComponentRow)
  | insertEvent (event : DREvent)

def PlanRow.activated (planId : Id) (row : PlanRow) : PlanRow :=
  if row.planId = planId then { row with status := .active } else row

theorem PlanRow.key_activated (planId : Id) (row : PlanRow) : (row.activated planId).key = row.key := by
  unfold PlanRow.activated
  split <;> rfl

theorem PlanRow.name_activated (planId : Id) (row : PlanRow) : (row.activated planId).name = row.name := by
  unfold PlanRow.activated
  split <;> rfl

/-- The `INSERT` of `create_plan`. -/
def Register.insertPlan (row : PlanRow) (register : Register) : Except PlanFailure Register :=
  if !row.accepted then .error (.refused "recovery_plans".toList)
  else
    match inserted : register.plans.insert row with
    | none => .error (.refused "recovery_plans_pkey".toList)
    | some plans =>
        if fresh : row.name ∈ register.plans.rows.map PlanRow.name then
          .error (.refused "recovery_plans_name_key".toList)
        else
          .ok
            { register with
              plans := plans
              named := by
                rw [Table.rows_of_insert inserted, List.map_append, List.map_singleton, List.nodup_append]
                refine ⟨register.named, List.nodup_singleton _, ?_⟩
                rintro old known new added rfl
                exact fresh (List.mem_singleton.mp added ▸ known) }

/-- The `UPDATE` of `update_plan_status`, which the service uses for one status. -/
def Register.activate (planId : Id) (register : Register) : Except PlanFailure Register :=
  if (register.plans.find planId).isSome then
    .ok
      { register with
        plans := register.plans.update (PlanRow.activated planId) (PlanRow.key_activated planId)
        named := by
          have same : PlanRow.name ∘ PlanRow.activated planId = PlanRow.name := funext (PlanRow.name_activated planId)
          change ((register.plans.rows.map _).map PlanRow.name).Nodup
          rw [List.map_map, same]
          exact register.named }
  else .error (.notFound ("plan not found: ".toList ++ planId))

/-- The `INSERT` of `add_component`. -/
def Register.insertComponent (row : ComponentRow) (register : Register) : Except PlanFailure Register :=
  if !row.accepted then .error (.refused "recovery_components".toList)
  else if (register.plans.find row.planId).isNone then .error (.refused "recovery_components_plan_id_fkey".toList)
  else
    match inserted : register.components.insert row with
    | none => .error (.refused "recovery_components_pkey".toList)
    | some components =>
        if known : (row.planId, row.componentName) ∈
            register.components.rows.map fun row => (row.planId, row.componentName) then
          .error (.refused "recovery_components_plan_component_unique".toList)
        else
          .ok
            { register with
              components := components
              distinct := by
                rw [Table.rows_of_insert inserted, List.map_append, List.map_singleton, List.nodup_append]
                refine ⟨register.distinct, List.nodup_singleton _, ?_⟩
                rintro old old' new added rfl
                exact known (List.mem_singleton.mp added ▸ old') }

/-- The `INSERT` of `record_event`, whose plan has to be there. -/
def Register.insertEvent (event : DREvent) (register : Register) : Except PlanFailure Register :=
  if !event.accepted then .error (.refused "dr_events".toList)
  else if event.planId.all fun planId => (register.plans.find planId).isSome then
    .ok { register with events := register.events ++ [event] }
  else .error (.refused "dr_events_plan_id_fkey".toList)

def PlanStatement.execute : PlanStatement -> Register -> Except PlanFailure Register
  | .insertPlan row, register => register.insertPlan row
  | .activate planId, register => register.activate planId
  | .insertComponent row, register => register.insertComponent row
  | .insertEvent event, register => register.insertEvent event

/-! ## `service.py` -/

abbrev PlanAction (A : Type) := Program PlanFailure Register A

def perform (statement : PlanStatement) : PlanAction Unit :=
  write PlanStatement.execute statement

def findPlan (planId : Id) : PlanAction (Option PlanRow) :=
  ask fun register => register.plans.find planId

/-- `get_plan_by_name` -/
def getPlanByName (name : Text) : PlanAction (Option PlanRow) :=
  ask fun register => register.plans.rows.find? fun row => decide (row.name = name)

/-- An event with the defaults of its model. -/
def planEvent (planId : Id) (eventType actor reason : Text) (details : Json) : DREvent where
  planId := some planId
  drillId := none
  eventType := eventType
  severity := "INFO".toList
  actor := actor
  reason := reason
  details := details

def createdType : Text := "DR_PLAN_CREATED".toList
def activatedType : Text := "DR_PLAN_ACTIVATED".toList
def addedType : Text := "DR_COMPONENT_ADDED".toList

def addedReason (componentName : Text) : Text :=
  "component added: ".toList ++ componentName

section Service

variable (dumps : Dumps)

def createdEvent (actor : Text) (row : PlanRow) : DREvent :=
  planEvent row.planId createdType actor "disaster recovery plan created".toList (dumps.plan row)

def activatedEvent (actor : Text) (planId : Id) : DREvent :=
  planEvent planId activatedType actor "disaster recovery plan activated".toList (.object [])

def addedEvent (actor : Text) (row : ComponentRow) : DREvent :=
  planEvent row.planId addedType actor (addedReason row.componentName) (dumps.component row)

/-- `create_plan`, of a row with the identifier that the database draws. -/
def createPlan (actor : Text) (row : PlanRow) : PlanAction PlanRow := do
  perform (.insertPlan row)
  perform (.insertEvent (createdEvent dumps actor row))
  return row

/-- `activate_plan` -/
def activatePlan (actor : Text) (planId : Id) : PlanAction (Option PlanRow) := do
  match ← findPlan planId with
  | none => throw (.notFound ("plan not found: ".toList ++ planId))
  | some plan =>
      if plan.status = .retired then throw (.state "retired plans cannot be activated".toList)
      else
        perform (.activate planId)
        perform (.insertEvent (activatedEvent actor planId))
        findPlan planId

/-- `add_component`, of a row with the identifier that the database draws. -/
def addComponent (actor : Text) (planId : Id) (component : ComponentRow) : PlanAction ComponentRow := do
  match ← findPlan planId with
  | none => throw (.notFound ("plan not found: ".toList ++ planId))
  | some _ =>
      let created := { component with planId := planId }
      perform (.insertComponent created)
      perform (.insertEvent (addedEvent dumps actor created))
      return created

def DEFAULT_PLAN_NAME : Text := "platform-disaster-recovery-plan".toList

/-- The plan of `bootstrap_default_plan`. -/
def defaultPlan (planId : Id) (environment : Text) : PlanRow where
  planId := planId
  environment := environment
  rpoSeconds := 3600
  drillMaxAgeDays := some 7
  status := .draft
  name := DEFAULT_PLAN_NAME
  description := "Canonical ApexQuant Ultra platform disaster recovery plan".toList
  criticalityTier := "TIER_1".toList
  rtoSeconds := 3600

/-- The components of `bootstrap_default_plan`.  Before they are added their plan is not set. -/
def defaultComponents (draws : Nat -> Id) (plan : PlanRow) (backupPolicyName : Text) : List ComponentRow :=
  [{ componentName := "postgresql-primary".toList
     recoveryStrategy := .restoreFromBackup
     backupPolicyName := some backupPolicyName
     healthEndpoint := none
     rpoSeconds := some plan.rpoSeconds
     componentId := draws 1
     planId := []
     componentType := .database
     priority := 1
     rtoSeconds := some plan.rtoSeconds
     notes := "Primary PostgreSQL transactional truth database".toList },
    { componentName := "backup-object-storage".toList
      recoveryStrategy := .manual
      backupPolicyName := none
      healthEndpoint := none
      rpoSeconds := none
      componentId := draws 2
      planId := []
      componentType := .objectStorage
      priority := 2
      rtoSeconds := none
      notes := "Backup artifact storage. Requires storage-provider recovery or replication.".toList },
    { componentName := "event-bus".toList
      recoveryStrategy := .rebuild
      backupPolicyName := none
      healthEndpoint := none
      rpoSeconds := none
      componentId := draws 3
      planId := []
      componentType := .eventBus
      priority := 3
      rtoSeconds := none
      notes := "Kafka/Redpanda event backbone. Rebuild and replay from durable sources.".toList },
    { componentName := "redis-cache".toList
      recoveryStrategy := .rebuild
      backupPolicyName := none
      healthEndpoint := none
      rpoSeconds := none
      componentId := draws 4
      planId := []
      componentType := .redis
      priority := 4
      rtoSeconds := none
      notes := "Redis cache and temporary state. Rebuild from transactional truth.".toList },
    { componentName := "backup-recovery-core".toList
      recoveryStrategy := .restart
      backupPolicyName := none
      healthEndpoint := some "http://backup-recovery-core:8093/healthz".toList
      rpoSeconds := none
      componentId := draws 5
      planId := []
      componentType := .service
      priority := 5
      rtoSeconds := none
      notes := "Backup and recovery control service".toList },
    { componentName := "disaster-recovery-core".toList
      recoveryStrategy := .restart
      backupPolicyName := none
      healthEndpoint := some "http://disaster-recovery-core:8094/healthz".toList
      rpoSeconds := none
      componentId := draws 6
      planId := []
      componentType := .service
      priority := 6
      rtoSeconds := none
      notes := "Disaster recovery control service".toList }]

/-- What a bootstrap is given, and what the database draws for it. -/
structure Bootstrap where
  draws : Nat -> Id
  environment : Text
  backupPolicyName : Text
  actor : Text

variable (bootstrap : Bootstrap)

def Bootstrap.plan : PlanRow :=
  defaultPlan (bootstrap.draws 0) bootstrap.environment

def Bootstrap.components : List ComponentRow :=
  defaultComponents bootstrap.draws bootstrap.plan bootstrap.backupPolicyName

/-- What is done when there is no default plan yet. -/
def makeDefaultPlan : PlanAction (Option PlanRow) := do
  let plan ← createPlan dumps bootstrap.actor bootstrap.plan
  forM bootstrap.components fun component => do
    let _ ← addComponent dumps bootstrap.actor plan.planId component
  activatePlan bootstrap.actor plan.planId

/-- `bootstrap_default_plan` -/
def bootstrapDefaultPlan : PlanAction (Option PlanRow) := do
  match ← getPlanByName DEFAULT_PLAN_NAME with
  | some existing => return some existing
  | none => makeDefaultPlan dumps bootstrap

/-! ## The order of the statements -/

/-- A change and the event that reports it. -/
structure Reported where
  change : PlanStatement
  event : DREvent

def Reported.statements (reported : Reported) : List PlanStatement :=
  [reported.change, .insertEvent reported.event]

def reportedPlan (actor : Text) (row : PlanRow) : Reported where
  change := .insertPlan row
  event := createdEvent dumps actor row

def reportedActivation (actor : Text) (planId : Id) : Reported where
  change := .activate planId
  event := activatedEvent actor planId

def reportedComponent (actor : Text) (planId : Id) (component : ComponentRow) : Reported where
  change := .insertComponent { component with planId := planId }
  event := addedEvent dumps actor { component with planId := planId }

/-- The sixteen statements of a bootstrap, two for each change. -/
def Bootstrap.reported : List Reported :=
  reportedPlan dumps bootstrap.actor bootstrap.plan ::
    (bootstrap.components.map (reportedComponent dumps bootstrap.actor bootstrap.plan.planId) ++
      [reportedActivation bootstrap.actor bootstrap.plan.planId])

def Bootstrap.statements : List PlanStatement :=
  (bootstrap.reported dumps).flatMap Reported.statements

end Service

section Order

variable {dumps : Dumps} {bootstrap : Bootstrap}

theorem follows_createPlan (actor : Text) (row : PlanRow) :
    Follows PlanStatement.execute (reportedPlan dumps actor row).statements (createPlan dumps actor row) := by
  change Follows _ ([_] ++ ([_] ++ [])) _
  refine Follows.bind (Follows.write _) fun _ => ?_
  exact Follows.bind (Follows.write _) fun _ => Follows.pure _

theorem follows_activatePlan (actor : Text) (planId : Id) :
    Follows PlanStatement.execute (reportedActivation actor planId).statements (activatePlan actor planId) := by
  refine Follows.ask_bind fun found => ?_
  cases found with
  | none => exact Follows.throw _
  | some plan =>
      dsimp only
      split
      · exact Follows.throw _
      · change Follows _ ([_] ++ ([_] ++ [])) _
        refine Follows.bind (Follows.write _) fun _ => ?_
        exact Follows.bind (Follows.write _) fun _ => Follows.ask _

theorem follows_addComponent (actor : Text) (planId : Id) (component : ComponentRow) :
    Follows PlanStatement.execute (reportedComponent dumps actor planId component).statements
      (addComponent dumps actor planId component) := by
  refine Follows.ask_bind fun found => ?_
  cases found with
  | none => exact Follows.throw _
  | some plan =>
      change Follows _ ([_] ++ ([_] ++ [])) _
      refine Follows.bind (Follows.write _) fun _ => ?_
      exact Follows.bind (Follows.write _) fun _ => Follows.pure _

theorem answer_of_createPlan {actor : Text} {row answer : PlanRow} {outside after : Outside PlanFailure Register}
    (returned : createPlan dumps actor row outside = .ok answer after) : answer = row := by
  unfold createPlan at returned
  rw [bind_run] at returned
  split at returned
  · rw [bind_run] at returned
    split at returned
    · cases returned
      rfl
    · cases returned
  · cases returned

theorem follows_makeDefaultPlan :
    Follows PlanStatement.execute (bootstrap.statements dumps) (makeDefaultPlan dumps bootstrap) := by
  intro outside
  unfold Bootstrap.statements Bootstrap.reported
  rw [List.flatMap_cons, List.flatMap_append, List.flatMap_map, List.flatMap_singleton]
  refine FollowsFrom.bind_told (fun plan => plan = bootstrap.plan) (follows_createPlan _ _ outside)
    (fun _ _ returned => answer_of_createPlan returned) ?_
  rintro plan rfl
  refine Follows.bind (Follows.forM fun component _ => ?_) fun _ => follows_activatePlan _ _
  have added := Follows.bind (@follows_addComponent dumps bootstrap.actor bootstrap.plan.planId component)
    fun _ => Follows.pure PUnit.unit
  rwa [List.append_nil] at added

/-- A bootstrap that finds the plan changes nothing. -/
theorem bootstrap_of_present (dumps : Dumps) (bootstrap : Bootstrap) {outside : Outside PlanFailure Register}
    {plan : PlanRow}
    (present : plan ∈ outside.world.plans) (isDefault : plan.name = DEFAULT_PLAN_NAME) :
    finalWorld (bootstrapDefaultPlan dumps bootstrap) outside = outside.world := by
  have some_ : (outside.world.plans.rows.find? fun row => decide (row.name = DEFAULT_PLAN_NAME)).isSome = true :=
    List.find?_isSome.mpr ⟨plan, present, decide_eq_true isDefault⟩
  rcases Option.isSome_iff_exists.mp some_ with ⟨existing, found⟩
  unfold bootstrapDefaultPlan getPlanByName finalWorld
  rw [ask_bind_run, found]
  cases outside.fate <;> rfl

/-- One that does not find it performs a first part of its statements. -/
theorem bootstrap_of_absent (dumps : Dumps) (bootstrap : Bootstrap) (outside : Outside PlanFailure Register)
    (absent : forall plan, plan ∈ outside.world.plans -> plan.name ≠ DEFAULT_PLAN_NAME) :
    FollowsFrom PlanStatement.execute outside (bootstrap.statements dumps) (bootstrapDefaultPlan dumps bootstrap) := by
  have missing : outside.world.plans.rows.find? (fun row => decide (row.name = DEFAULT_PLAN_NAME)) = none :=
    List.find?_eq_none.mpr fun plan member => by simpa using absent plan member
  refine FollowsFrom.ask_bind ?_
  rw [missing]
  exact follows_makeDefaultPlan _

end Order

/-! ## What statements do to the tables -/

theorem Register.insertPlan_ok {row : PlanRow} {register after : Register} (ran : register.insertPlan row = .ok after) :
    after.plans.rows = register.plans.rows ++ [row] ∧ register.plans.find row.planId = none ∧
      after.components = register.components ∧ after.events = register.events := by
  unfold Register.insertPlan at ran
  split at ran
  · cases ran
  · split at ran
    · cases ran
    · rename_i plans inserted
      split at ran
      · cases ran
      · cases ran
        exact ⟨Table.rows_of_insert inserted, Table.find_eq_none_of_insert inserted, rfl, rfl⟩

theorem Register.activate_ok {planId : Id} {register after : Register} (ran : register.activate planId = .ok after) :
    after.plans.rows = register.plans.rows.map (PlanRow.activated planId) ∧
      (register.plans.find planId).isSome = true ∧ after.components = register.components ∧
        after.events = register.events := by
  unfold Register.activate at ran
  split at ran
  · rename_i found
    cases ran
    exact ⟨rfl, found, rfl, rfl⟩
  · cases ran

theorem Register.insertComponent_ok {row : ComponentRow} {register after : Register}
    (ran : register.insertComponent row = .ok after) :
    after.components.rows = register.components.rows ++ [row] ∧ after.plans = register.plans ∧
      after.events = register.events := by
  unfold Register.insertComponent at ran
  split at ran
  · cases ran
  · split at ran
    · cases ran
    · split at ran
      · cases ran
      · rename_i components inserted
        split at ran
        · cases ran
        · cases ran
          exact ⟨Table.rows_of_insert inserted, rfl, rfl⟩

theorem Register.insertEvent_ok {event : DREvent} {register after : Register}
    (ran : register.insertEvent event = .ok after) : after = { register with events := register.events ++ [event] } := by
  unfold Register.insertEvent at ran
  split at ran
  · cases ran
  · split at ran
    · cases ran
      rfl
    · cases ran

/-! ## Histories of bootstraps -/

section Bootstraps

variable (dumps : Dumps)

/-- A bootstrap, with what becomes of its calls. -/
structure BootstrapCall where
  bootstrap : Bootstrap
  fates : List (Fate PlanFailure)

def Register.bootstrapped (register : Register) (call : BootstrapCall) : Register :=
  finalWorld (bootstrapDefaultPlan dumps call.bootstrap) { world := register, fates := call.fates }

def BootstrapCall.Returns (register : Register) (call : BootstrapCall) : Prop :=
  Exists fun answer => Exists fun after =>
    bootstrapDefaultPlan dumps call.bootstrap { world := register, fates := call.fates } = .ok answer after

def Register.afterBootstraps (register : Register) (calls : List BootstrapCall) : Register :=
  calls.foldl (Register.bootstrapped dumps) register

def Register.HasDefault (register : Register) : Prop :=
  Exists fun plan => plan ∈ register.plans ∧ plan.name = DEFAULT_PLAN_NAME

variable {dumps} {register : Register}

theorem bootstrapped_of_hasDefault (present : register.HasDefault) (call : BootstrapCall) :
    register.bootstrapped dumps call = register := by
  rcases present with ⟨plan, member, isDefault⟩
  exact bootstrap_of_present dumps call.bootstrap member isDefault

theorem afterBootstraps_of_hasDefault (present : register.HasDefault) (calls : List BootstrapCall) :
    register.afterBootstraps dumps calls = register := by
  unfold Register.afterBootstraps
  induction calls with
  | nil => rfl
  | cons call calls ih =>
      rw [List.foldl_cons, bootstrapped_of_hasDefault present]
      exact ih

theorem exists_kept {row : PlanRow} {after : Register} {statement : PlanStatement}
    (ran : statement.execute register = .ok after) (member : row ∈ register.plans) :
    Exists fun kept => kept ∈ after.plans ∧ (kept = row ∨ kept = { row with status := .active }) := by
  cases statement with
  | insertPlan added =>
      refine ⟨row, ?_, Or.inl rfl⟩
      change row ∈ after.plans.rows
      rw [(Register.insertPlan_ok ran).1]
      exact List.mem_append_left _ member
  | activate planId =>
      refine ⟨row.activated planId, ?_, ?_⟩
      · change _ ∈ after.plans.rows
        rw [(Register.activate_ok ran).1]
        exact List.mem_map_of_mem member
      · unfold PlanRow.activated
        split
        · exact Or.inr rfl
        · exact Or.inl rfl
  | insertComponent added =>
      refine ⟨row, ?_, Or.inl rfl⟩
      rw [(Register.insertComponent_ok ran).2.1]
      exact member
  | insertEvent event =>
      obtain rfl := Register.insertEvent_ok ran
      exact ⟨row, member, Or.inl rfl⟩

/-- The first statement makes the plan, and no statement takes it away. -/
theorem hasDefault_of_performed {bootstrap : Bootstrap} {done : List PlanStatement} {after : Register}
    (part : done <+: bootstrap.statements dumps) (some_ : done ≠ [])
    (ran : performed PlanStatement.execute done register = some after) : after.HasDefault := by
  cases done with
  | nil => exact absurd rfl some_
  | cons first rest =>
      rcases part with ⟨others, split⟩
      have isFirst : first = .insertPlan bootstrap.plan := (List.cons.inj split).1
      subst isFirst
      rcases performed_cons.mp ran with ⟨next, wrote, ran⟩
      have made : next.HasDefault := by
        refine ⟨bootstrap.plan, ?_, rfl⟩
        change _ ∈ next.plans.rows
        rw [(Register.insertPlan_ok wrote).1]
        exact List.mem_append_right _ List.mem_cons_self
      refine performed_keeps ?_ ran made
      rintro statement - world later ran' ⟨plan, member, isDefault⟩
      rcases exists_kept ran' member with ⟨kept, member', rfl | rfl⟩
      · exact ⟨kept, member', isDefault⟩
      · exact ⟨_, member', isDefault⟩

/-- Over every history of bootstraps, whatever becomes of their calls, the register holds no
default plan, or exactly a first part of the sixteen statements of the one bootstrap that
made it: all of them when that one returned, and no other bootstrap adds to them. -/
theorem bootstraps_make_one_plan (dumps : Dumps) (register : Register) (absent : ¬register.HasDefault)
    (calls : List BootstrapCall) :
    register.afterBootstraps dumps calls = register ∨
      Exists fun before => Exists fun call => Exists fun later => Exists fun done =>
        calls = before ++ call :: later ∧ register.afterBootstraps dumps before = register ∧
          done <+: call.bootstrap.statements dumps ∧ done ≠ [] ∧
          performed PlanStatement.execute done register = some (register.afterBootstraps dumps calls) ∧
          (call.Returns dumps register -> done = call.bootstrap.statements dumps) := by
  induction calls using List.reverseRecOn with
  | nil => exact Or.inl rfl
  | append_singleton calls last ih =>
      have step : register.afterBootstraps dumps (calls ++ [last]) =
          (register.afterBootstraps dumps calls).bootstrapped dumps last := by
        unfold Register.afterBootstraps
        rw [List.foldl_append]
        rfl
      rw [step]
      rcases ih with same | ⟨before, call, later, done, split, earlier, part, some_, ran, complete⟩
      · rw [same]
        have lacks : forall plan, plan ∈ register.plans -> plan.name ≠ DEFAULT_PLAN_NAME :=
          fun plan member isDefault => absent ⟨plan, member, isDefault⟩
        rcases bootstrap_of_absent dumps last.bootstrap { world := register, fates := last.fates } lacks with
          ⟨done, part, ran, complete⟩
        by_cases none_ : done = []
        · subst none_
          exact Or.inl (Option.some.inj ran).symm
        · refine Or.inr ⟨calls, last, [], done, rfl, same, part, none_, ran, ?_⟩
          rintro ⟨answer, after, returned⟩
          exact complete answer after returned
      · have present := hasDefault_of_performed part some_ ran
        rw [bootstrapped_of_hasDefault present]
        refine Or.inr ⟨before, call, later ++ [last], done, ?_, earlier, part, some_, ran, complete⟩
        rw [split, List.append_assoc, List.cons_append]

end Bootstraps

namespace Scenario

def plainDumps : Dumps where
  plan := fun _ => .object []
  component := fun _ => .object []

/-- A bootstrap that loses its connection behind the statement that makes the plan. -/
def interrupted : BootstrapCall where
  bootstrap :=
    { draws := fun number => List.replicate number '0'
      environment := "production".toList
      backupPolicyName := "daily".toList
      actor := "system".toList }
  fates := [.served, .served, .fails (.outside []) false]

/-- What it leaves. -/
def halfMade : Register :=
  Register.empty.bootstrapped plainDumps interrupted

theorem halfMade_rows : halfMade.plans.rows = [interrupted.bootstrap.plan] := by
  decide +kernel

end Scenario

/-- An interrupted bootstrap is not made up for by the next one. -/
theorem one_half_made_plan :
    Register.empty.afterBootstraps Scenario.plainDumps [Scenario.interrupted, Scenario.interrupted] = Register.empty ∨
      Exists fun before => Exists fun call => Exists fun later => Exists fun done =>
        [Scenario.interrupted, Scenario.interrupted] = before ++ call :: later ∧
          Register.empty.afterBootstraps Scenario.plainDumps before = Register.empty ∧
          done <+: call.bootstrap.statements Scenario.plainDumps ∧ done ≠ [] ∧
          performed PlanStatement.execute done Register.empty =
            some (Register.empty.afterBootstraps Scenario.plainDumps [Scenario.interrupted, Scenario.interrupted]) ∧
          (call.Returns Scenario.plainDumps Register.empty -> done = call.bootstrap.statements Scenario.plainDumps) :=
  bootstraps_make_one_plan Scenario.plainDumps Register.empty (fun ⟨_, member, _⟩ => absurd member List.not_mem_nil)
    [Scenario.interrupted, Scenario.interrupted]

/-! ## Drills of a plan that is not active -/

/-- The plans of the register as a drill reads them. -/
def Register.recoveryPlans (register : Register) : Table RecoveryPlan.planId where
  rows := register.plans.rows.map PlanRow.toRecoveryPlan
  unique := by
    rw [List.map_map]
    exact register.plans.unique

theorem Register.find_recoveryPlans (register : Register) (planId : Id) :
    register.recoveryPlans.find planId = (register.plans.find planId).map PlanRow.toRecoveryPlan := by
  unfold Table.find Register.recoveryPlans
  rw [List.find?_map]
  rfl

/-- A default plan that a bootstrap left without its activation stays without it, whatever
bootstraps follow and whether or not they return, and no drill of it ever succeeds. -/
theorem half_made_plan_fails_drills (dumps : Dumps) (register : Register) (plan : PlanRow)
    (made : plan ∈ register.plans) (isDefault : plan.name = DEFAULT_PLAN_NAME) (inactive : plan.status ≠ .active)
    (calls : List BootstrapCall) (surroundings : Surroundings) (enableHealthChecks : Bool) (actor trigger : Text)
    (outside : Outside Failure World)
    (seen : outside.world.plans = (register.afterBootstraps dumps calls).recoveryPlans) :
    plan ∈ (register.afterBootstraps dumps calls).plans ∧
      forall drill,
        drill ∈ (finalWorld (runDrill surroundings enableHealthChecks plan.planId actor trigger) outside).drills ->
          drill ∉ outside.world.drills -> drill.status ≠ .succeeded := by
  rw [afterBootstraps_of_hasDefault ⟨plan, made, isDefault⟩] at seen ⊢
  refine ⟨made, ?_⟩
  intro drill member new succeeded
  by_cases creates : Creates surroundings plan.planId actor trigger outside
  · rcases begun_of_creates surroundings enableHealthChecks creates with
      ⟨stored, created, found, samePlans, -, rows, -, conducted⟩
    rcases conducted.rows drill member with kept | earned
    · -- The row as it is created is still running.
      change drill ∈ created.drills.rows at kept
      rw [rows] at kept
      rcases List.mem_append.mp kept with old | added
      · exact absurd old new
      · cases List.mem_singleton.mp added
        cases succeeded
    · rcases (earned succeeded).active with ⟨active, found', isActive, -⟩
      have own : stored.planId = plan.planId := (Table.mem_of_find found).2
      have known : register.plans.find plan.planId = some plan := Table.find_of_mem made
      rw [own, samePlans.plans, seen, Register.find_recoveryPlans, known] at found'
      cases found'
      exact inactive isActive
  · rw [drills_of_not_creates surroundings enableHealthChecks creates] at member
    exact absurd member new

/-- The next bootstrap returns the plan as it is, and a drill of it does not succeed. -/
theorem interrupted_plan_fails_drills :
    Scenario.interrupted.bootstrap.plan ∈
        (Scenario.halfMade.afterBootstraps Scenario.plainDumps [Scenario.interrupted]).plans ∧
      forall drill,
        drill ∈ (finalWorld (runDrill exampleSurroundings false Scenario.interrupted.bootstrap.plan.planId
            "actor".toList "manual".toList)
            { exampleOutside with
              world := { exampleOutside.world with plans := Scenario.halfMade.recoveryPlans } }).drills ->
          drill ∉ exampleOutside.world.drills -> drill.status ≠ .succeeded := by
  have made : Scenario.interrupted.bootstrap.plan ∈ Scenario.halfMade.plans := by
    change _ ∈ Scenario.halfMade.plans.rows
    rw [Scenario.halfMade_rows]
    exact List.mem_cons_self
  refine half_made_plan_fails_drills Scenario.plainDumps Scenario.halfMade Scenario.interrupted.bootstrap.plan made rfl
    nofun [Scenario.interrupted] exampleSurroundings false "actor".toList "manual".toList
    { exampleOutside with world := { exampleOutside.world with plans := Scenario.halfMade.recoveryPlans } } ?_
  rw [afterBootstraps_of_hasDefault ⟨_, made, rfl⟩]

/-! ## The log of the service -/

section Log

variable (dumps : Dumps)

/-- What an event of the service reports is so. -/
inductive Register.Shows (register : Register) (event : DREvent) : Prop where
  | created (row : PlanRow) (status : PlanStatus) (member : row ∈ register.plans)
      (isType : event.eventType = createdType) (names : event.planId = some row.planId)
      (details : event.details = dumps.plan { row with status := status })
  | activated (row : PlanRow) (member : row ∈ register.plans) (active : row.status = .active)
      (isType : event.eventType = activatedType) (names : event.planId = some row.planId)
  | added (row : ComponentRow) (member : row ∈ register.components)
      (isType : event.eventType = addedType) (names : event.planId = some row.planId)
      (details : event.details = dumps.component row)

/-- The events that report a new row. -/
def DREvent.reportsRow (event : DREvent) : Bool :=
  event.eventType == createdType || event.eventType == addedType

/-- The rows are those that the log reports and `lag` more. -/
def Register.Lags (register : Register) (lag : Nat) : Prop :=
  register.plans.rows.length + register.components.rows.length =
    (register.events.filter DREvent.reportsRow).length + lag

/-- The log is true of the tables, and lags behind them by so many rows. -/
structure Register.Logged (register : Register) (lag : Nat) : Prop where
  shows : forall event, event ∈ register.events -> register.Shows dumps event
  lags : register.Lags lag

/-- The event of a report is true once its change is made, and tells whether that made a row. -/
structure Reported.Faithful (reported : Reported) : Prop where
  shows : forall register after, reported.change.execute register = .ok after -> after.Shows dumps reported.event
  counts : forall register after, reported.change.execute register = .ok after ->
    after.events = register.events ∧
      after.plans.rows.length + after.components.rows.length =
        register.plans.rows.length + register.components.rows.length + if reported.event.reportsRow then 1 else 0

variable {dumps} {register after : Register}

/-- What an event reports stays so. -/
theorem Register.Shows.stays {statement : PlanStatement} {event : DREvent} (shows : register.Shows dumps event)
    (ran : statement.execute register = .ok after) : after.Shows dumps event := by
  cases shows with
  | created row status member isType names details =>
      rcases exists_kept ran member with ⟨kept, member', rfl | rfl⟩
      · exact .created kept status member' isType names details
      · exact .created _ status member' isType names details
  | activated row member active isType names =>
      rcases exists_kept ran member with ⟨kept, member', rfl | rfl⟩
      · exact .activated kept member' active isType names
      · exact .activated _ member' rfl isType names
  | added row member isType names details =>
      refine .added row ?_ isType names details
      cases statement with
      | insertPlan other =>
          rw [(Register.insertPlan_ok ran).2.2.1]
          exact member
      | activate planId =>
          rw [(Register.activate_ok ran).2.2.1]
          exact member
      | insertComponent other =>
          change row ∈ after.components.rows
          rw [(Register.insertComponent_ok ran).1]
          exact List.mem_append_left _ member
      | insertEvent other =>
          obtain rfl := Register.insertEvent_ok ran
          exact member

theorem faithful_reportedPlan (actor : Text) (row : PlanRow) : (reportedPlan dumps actor row).Faithful dumps where
  shows := by
    intro register after ran
    refine .created row row.status ?_ rfl rfl rfl
    change row ∈ after.plans.rows
    rw [(Register.insertPlan_ok ran).1]
    exact List.mem_append_right _ List.mem_cons_self
  counts := by
    intro register after ran
    rcases Register.insertPlan_ok ran with ⟨rows, -, components, events⟩
    refine ⟨events, ?_⟩
    have reports : (reportedPlan dumps actor row).event.reportsRow = true := by
      unfold DREvent.reportsRow
      rw [Bool.or_eq_true]
      exact Or.inl (beq_self_eq_true _)
    rw [rows, components, reports, List.length_append, List.length_singleton, if_pos rfl]
    omega

theorem faithful_reportedActivation (actor : Text) (planId : Id) :
    (reportedActivation actor planId).Faithful dumps where
  shows := by
    intro register after ran
    rcases Register.activate_ok ran with ⟨rows, found, -⟩
    rcases Option.isSome_iff_exists.mp found with ⟨row, found'⟩
    rcases Table.mem_of_find found' with ⟨member, own⟩
    have changed : row.activated planId = { row with status := .active } := if_pos own
    refine .activated { row with status := .active } ?_ rfl rfl (congrArg some own.symm)
    change _ ∈ after.plans.rows
    rw [rows, ← changed]
    exact List.mem_map_of_mem member
  counts := by
    intro register after ran
    rcases Register.activate_ok ran with ⟨rows, -, components, events⟩
    refine ⟨events, ?_⟩
    have silent : (reportedActivation actor planId).event.reportsRow = false := by
      change (activatedType == createdType || activatedType == addedType) = false
      decide
    rw [rows, components, silent, List.length_map]
    rfl

theorem faithful_reportedComponent (actor : Text) (planId : Id) (component : ComponentRow) :
    (reportedComponent dumps actor planId component).Faithful dumps where
  shows := by
    intro register after ran
    refine .added { component with planId := planId } ?_ rfl rfl rfl
    change _ ∈ after.components.rows
    rw [(Register.insertComponent_ok ran).1]
    exact List.mem_append_right _ List.mem_cons_self
  counts := by
    intro register after ran
    rcases Register.insertComponent_ok ran with ⟨rows, plans, events⟩
    refine ⟨events, ?_⟩
    have reports : (reportedComponent dumps actor planId component).event.reportsRow = true := by
      unfold DREvent.reportsRow
      rw [Bool.or_eq_true]
      exact Or.inr (beq_self_eq_true _)
    rw [rows, plans, reports, List.length_append, List.length_singleton, if_pos rfl]
    omega

theorem faithful_of_bootstrap {bootstrap : Bootstrap} {reported : Reported}
    (member : reported ∈ bootstrap.reported dumps) : reported.Faithful dumps := by
  rcases List.mem_cons.mp member with rfl | member
  · exact faithful_reportedPlan _ _
  · rcases List.mem_append.mp member with added | last
    · rcases List.mem_map.mp added with ⟨component, -, rfl⟩
      exact faithful_reportedComponent _ _ _
    · rw [List.mem_singleton] at last
      subst last
      exact faithful_reportedActivation _ _

/-- A change without its event makes the log lag by the row that it made. -/
theorem Register.Logged.change {reported : Reported} {lag : Nat} (logged : register.Logged dumps lag)
    (faithful : reported.Faithful dumps) (ran : reported.change.execute register = .ok after) :
    after.Logged dumps (lag + if reported.event.reportsRow then 1 else 0) := by
  rcases faithful.counts register after ran with ⟨events, rows⟩
  constructor
  · intro event member
    rw [events] at member
    exact (logged.shows event member).stays ran
  · have before := logged.lags
    unfold Register.Lags at before ⊢
    rw [rows, events, before, Nat.add_assoc]

/-- Its event catches up. -/
theorem Register.Logged.report {event : DREvent} {lag : Nat}
    (logged : register.Logged dumps (lag + if event.reportsRow then 1 else 0)) (shows : register.Shows dumps event)
    (ran : register.insertEvent event = .ok after) : after.Logged dumps lag := by
  have executed : PlanStatement.execute (.insertEvent event) register = .ok after := ran
  obtain rfl := Register.insertEvent_ok ran
  constructor
  · intro other member
    rcases List.mem_append.mp member with old | new
    · exact (logged.shows other old).stays executed
    · cases List.mem_singleton.mp new
      exact shows.stays executed
  · have before := logged.lags
    unfold Register.Lags at before ⊢
    dsimp only
    rw [before, List.filter_append, List.length_append]
    cases reports : event.reportsRow with
    | false => simp [reports]
    | true =>
        simp [reports]
        omega

inductive PlanOperation where
  | createPlan (actor : Text) (row : PlanRow)
  | activatePlan (actor : Text) (planId : Id)
  | addComponent (actor : Text) (planId : Id) (component : ComponentRow)
  | bootstrapDefaultPlan (bootstrap : Bootstrap)

/-- An operation, with what becomes of its calls. -/
structure PlanCall where
  operation : PlanOperation
  fates : List (Fate PlanFailure)

/-- The register, and how many operations have failed. -/
structure PlanHistory where
  register : Register
  failures : Nat

variable (dumps)

def PlanOperation.run : PlanOperation -> PlanAction Unit
  | .createPlan actor row => do
      let _ ← Recovery.createPlan dumps actor row
  | .activatePlan actor planId => do
      let _ ← Recovery.activatePlan actor planId
  | .addComponent actor planId component => do
      let _ ← Recovery.addComponent dumps actor planId component
  | .bootstrapDefaultPlan bootstrap => do
      let _ ← Recovery.bootstrapDefaultPlan dumps bootstrap

def PlanHistory.step (history : PlanHistory) (call : PlanCall) : PlanHistory :=
  match call.operation.run dumps { world := history.register, fates := call.fates } with
  | .ok _ after => { history with register := after.world }
  | .error _ after => { register := after.world, failures := history.failures + 1 }

variable {dumps}

/-- Every operation performs a first part of faithful reports. -/
theorem PlanOperation.follows (operation : PlanOperation) (outside : Outside PlanFailure Register) :
    Exists fun reports : List Reported => (forall reported, reported ∈ reports -> reported.Faithful dumps) ∧
      FollowsFrom PlanStatement.execute outside (reports.flatMap Reported.statements) (operation.run dumps) := by
  have one {A : Type} {reported : Reported} {program : PlanAction A} (faithful : reported.Faithful dumps)
      (follows : Follows PlanStatement.execute reported.statements program) :
      Exists fun reports : List Reported => (forall reported, reported ∈ reports -> reported.Faithful dumps) ∧
        FollowsFrom PlanStatement.execute outside (reports.flatMap Reported.statements)
          (program >>= fun _ => pure ()) := by
    refine ⟨[reported], fun other member => List.mem_singleton.mp member ▸ faithful, ?_⟩
    have whole := Follows.bind follows (fun _ => Follows.pure ()) outside
    rw [List.flatMap_singleton]
    rwa [List.append_nil] at whole
  cases operation with
  | createPlan actor row => exact one (faithful_reportedPlan actor row) (follows_createPlan actor row)
  | activatePlan actor planId => exact one (faithful_reportedActivation actor planId) (follows_activatePlan actor planId)
  | addComponent actor planId component =>
      exact one (faithful_reportedComponent actor planId component) (follows_addComponent actor planId component)
  | bootstrapDefaultPlan bootstrap =>
      by_cases present : outside.world.HasDefault
      · rcases present with ⟨plan, member, isDefault⟩
        have same := bootstrap_of_present dumps bootstrap member isDefault
        have final : finalWorld (Recovery.bootstrapDefaultPlan dumps bootstrap >>= fun _ => pure ()) outside =
            outside.world :=
          (finalWorld_bind_pure _ _ _).trans same
        refine ⟨[], fun _ member => absurd member List.not_mem_nil, [], List.prefix_refl _, ?_, fun _ _ _ => rfl⟩
        exact congrArg some final.symm
      · refine ⟨bootstrap.reported dumps, fun _ => faithful_of_bootstrap, ?_⟩
        have lacks : forall plan, plan ∈ outside.world.plans -> plan.name ≠ DEFAULT_PLAN_NAME :=
          fun plan member isDefault => present ⟨plan, member, isDefault⟩
        have whole := (bootstrap_of_absent dumps bootstrap outside lacks).bind_told (fun _ => True)
          (fun _ _ _ => trivial) fun _ _ => Follows.pure ()
        rwa [List.append_nil] at whole

end Log

end Recovery
end ApexQuant
