import Mathlib.Algebra.Order.Field.Rat
import Mathlib.Data.List.Forall2
import Mathlib.Tactic.GCongr
import Mathlib.Tactic.Linarith
import Mathlib.Tactic.NormNum
import ApexQuant.Foundation.Text

namespace ApexQuant
namespace Recovery

open Foundation

/-!
# The readiness score

`scoring.py` over exact rationals.  The score is a sum of weights: an active plan, the
shares of the required backups that are fresh and verified, the share of the applicable
health checks that are healthy, and a recent drill.  Two caps lower it, one for a check
that is not healthy and one for a backup that is not fresh.
-/

/-- `BackupRequirementStatus`, with moments in microseconds. -/
structure BackupRequirementStatus where
  componentName : Text
  backupPolicyName : Option Text
  required : Bool
  policyExists : Bool
  latestBackupAt : Option Int
  fresh : Bool
  verified : Bool
  rpoSeconds : Option Int
  deriving DecidableEq

structure HealthCheckStatus where
  componentName : Text
  healthEndpoint : Option Text
  applicable : Bool
  checked : Bool
  healthy : Option Bool
  deriving DecidableEq

def weightPlanActive : Rat := 10
def weightBackupFreshness : Rat := 40
def weightBackupVerification : Rat := 25
def weightHealth : Rat := 15
def weightRecentDrill : Rat := 10
def readyThreshold : Rat := 90
def degradedThreshold : Rat := 70
def backupFailClosedCap : Rat := 49
def healthFailureCap : Rat := 79

/-- The share of the items that meet a condition. -/
def share {Item : Type} (meets : Item -> Bool) (items : List Item) : Rat :=
  items.countP meets / items.length

def requiredBackups (requirements : List BackupRequirementStatus) : List BackupRequirementStatus :=
  requirements.filter BackupRequirementStatus.required

def applicableHealthChecks (checks : List HealthCheckStatus) : List HealthCheckStatus :=
  checks.filter HealthCheckStatus.applicable

/-- `health_check.healthy is True` -/
def HealthCheckStatus.isHealthy (check : HealthCheckStatus) : Bool :=
  decide (check.healthy = some true)

/-- The part of the score that the backups give. -/
def backupScore (requirements : List BackupRequirementStatus) : Rat :=
  if requiredBackups requirements = [] then weightBackupFreshness + weightBackupVerification
  else
    weightBackupFreshness * share BackupRequirementStatus.fresh (requiredBackups requirements) +
      weightBackupVerification * share BackupRequirementStatus.verified (requiredBackups requirements)

/-- A required backup is not fresh. -/
def failClosed (requirements : List BackupRequirementStatus) : Bool :=
  decide ((requiredBackups requirements).countP BackupRequirementStatus.fresh < (requiredBackups requirements).length)

/-- The score after the health checks. -/
def withHealth (score : Rat) (checks : List HealthCheckStatus) : Rat :=
  if applicableHealthChecks checks = [] then score + weightHealth
  else if (applicableHealthChecks checks).countP HealthCheckStatus.isHealthy < (applicableHealthChecks checks).length then
    min (score + weightHealth * share HealthCheckStatus.isHealthy (applicableHealthChecks checks)) healthFailureCap
  else score + weightHealth * share HealthCheckStatus.isHealthy (applicableHealthChecks checks)

def withRecentDrill (score : Rat) (recentDrillPassed : Bool) : Rat :=
  if recentDrillPassed then score + weightRecentDrill else score

/-- The cap for backups and the bounds of the scale. -/
def capped (failClosedTriggered : Bool) (score : Rat) : Rat :=
  max 0 (min 100 (if failClosedTriggered then min score backupFailClosedCap else score))

def stateOf (score : Rat) : Text :=
  if readyThreshold ≤ score then "READY".toList
  else if degradedThreshold ≤ score then "DEGRADED".toList
  else "NOT_READY".toList

structure Readiness where
  score : Rat
  state : Text
  failClosedTriggered : Bool
  deriving DecidableEq

/-- `score_readiness`. -/
def scoreReadiness (planActive : Bool) (backupRequirements : List BackupRequirementStatus)
    (healthChecks : List HealthCheckStatus) (recentDrillPassed : Bool) : Readiness :=
  if planActive then
    let failClosedTriggered := failClosed backupRequirements
    let score := capped failClosedTriggered
      (withRecentDrill (withHealth (weightPlanActive + backupScore backupRequirements) healthChecks) recentDrillPassed)
    { score := score, state := stateOf score, failClosedTriggered := failClosedTriggered }
  else { score := 0, state := "NOT_READY".toList, failClosedTriggered := true }

/-! ## Shares -/

/-- The same items, each at least as good. -/
theorem countP_le_of_forall₂ {Item : Type} {meets : Item -> Bool} {items items' : List Item}
    (better : List.Forall₂ (fun item item' => meets item = true -> meets item' = true) items items') :
    items.countP meets ≤ items'.countP meets := by
  induction better with
  | nil => exact le_rfl
  | @cons item item' _ _ head _ inductionHypothesis =>
      rw [List.countP_cons, List.countP_cons]
      apply Nat.add_le_add inductionHypothesis
      cases met : meets item with
      | false => exact Nat.zero_le _
      | true => rw [head met]

theorem share_le_of_forall₂ {Item : Type} {meets : Item -> Bool} {items items' : List Item}
    (better : List.Forall₂ (fun item item' => meets item = true -> meets item' = true) items items') :
    share meets items ≤ share meets items' := by
  unfold share
  rw [better.length_eq]
  exact div_le_div_of_nonneg_right (Nat.cast_le.mpr (countP_le_of_forall₂ better)) (Nat.cast_nonneg _)

/-- All items meet a condition that none of them misses. -/
theorem all_of_length_le_countP {Item : Type} {meets : Item -> Bool} {items : List Item}
    (enough : ¬items.countP meets < items.length) : forall item, item ∈ items -> meets item = true :=
  List.countP_eq_length.mp (le_antisymm List.countP_le_length (not_lt.mp enough))

/-! ## Better inputs -/

/-- The same requirement, at least as fresh and as verified. -/
structure BetterRequirement (old new : BackupRequirementStatus) : Prop where
  required : old.required = new.required
  fresh : old.fresh = true -> new.fresh = true
  verified : old.verified = true -> new.verified = true

structure BetterCheck (old new : HealthCheckStatus) : Prop where
  applicable : old.applicable = new.applicable
  healthy : old.isHealthy = true -> new.isHealthy = true

/-- The arguments of `score_readiness`. -/
structure Inputs where
  planActive : Bool
  backupRequirements : List BackupRequirementStatus
  healthChecks : List HealthCheckStatus
  recentDrillPassed : Bool

def Inputs.readiness (inputs : Inputs) : Readiness :=
  scoreReadiness inputs.planActive inputs.backupRequirements inputs.healthChecks inputs.recentDrillPassed

/-- Each input is at least as good: one of them turned better, or any number. -/
structure Better (old new : Inputs) : Prop where
  planActive : old.planActive = true -> new.planActive = true
  backupRequirements : List.Forall₂ BetterRequirement old.backupRequirements new.backupRequirements
  healthChecks : List.Forall₂ BetterCheck old.healthChecks new.healthChecks
  recentDrillPassed : old.recentDrillPassed = true -> new.recentDrillPassed = true

theorem Better.requiredBackups {old new : Inputs} (better : Better old new) :
    List.Forall₂ BetterRequirement (requiredBackups old.backupRequirements) (requiredBackups new.backupRequirements) :=
  List.rel_filter (fun _ _ same => iff_of_eq (congrArg (· = true) same.required)) better.backupRequirements

theorem Better.applicableHealthChecks {old new : Inputs} (better : Better old new) :
    List.Forall₂ BetterCheck (applicableHealthChecks old.healthChecks) (applicableHealthChecks new.healthChecks) :=
  List.rel_filter (fun _ _ same => iff_of_eq (congrArg (· = true) same.applicable)) better.healthChecks

theorem eq_nil_iff_of_forall₂ {Item : Type} {related : Item -> Item -> Prop} {items items' : List Item}
    (each : List.Forall₂ related items items') : items = [] <-> items' = [] := by
  cases each with
  | nil => exact Iff.rfl
  | cons => exact iff_of_false nofun nofun

theorem backupScore_mono {old new : Inputs} (better : Better old new) :
    backupScore old.backupRequirements ≤ backupScore new.backupRequirements := by
  have each := better.requiredBackups
  have fresh := share_le_of_forall₂ (each.imp fun _ _ better => better.fresh)
  have verified := share_le_of_forall₂ (each.imp fun _ _ better => better.verified)
  unfold backupScore weightBackupFreshness weightBackupVerification
  by_cases none : Recovery.requiredBackups old.backupRequirements = []
  · rw [if_pos none, if_pos ((eq_nil_iff_of_forall₂ each).mp none)]
  · rw [if_neg none, if_neg (fun none' => none ((eq_nil_iff_of_forall₂ each).mpr none'))]
    gcongr

/-- Better backups do not trigger the cap. -/
theorem failClosed_anti {old new : Inputs} (better : Better old new)
    (triggered : failClosed new.backupRequirements = true) : failClosed old.backupRequirements = true := by
  have each := better.requiredBackups
  have counted := countP_le_of_forall₂ (each.imp fun _ _ better => better.fresh)
  unfold failClosed at triggered ⊢
  rw [decide_eq_true_eq] at triggered ⊢
  rw [each.length_eq]
  exact counted.trans_lt triggered

theorem withHealth_mono {old new : Inputs} (better : Better old new) {score score' : Rat} (higher : score ≤ score') :
    withHealth score old.healthChecks ≤ withHealth score' new.healthChecks := by
  have each := better.applicableHealthChecks
  have healthy := share_le_of_forall₂ (each.imp fun _ _ better => better.healthy)
  have counted := countP_le_of_forall₂ (each.imp fun _ _ better => better.healthy)
  have sum : score + weightHealth * share HealthCheckStatus.isHealthy (Recovery.applicableHealthChecks old.healthChecks) ≤
      score' + weightHealth * share HealthCheckStatus.isHealthy (Recovery.applicableHealthChecks new.healthChecks) := by
    unfold weightHealth
    gcongr
  unfold withHealth
  by_cases none : Recovery.applicableHealthChecks old.healthChecks = []
  · rw [if_pos none, if_pos ((eq_nil_iff_of_forall₂ each).mp none)]
    exact add_le_add_left higher _
  · rw [if_neg none, if_neg (fun none' => none ((eq_nil_iff_of_forall₂ each).mpr none'))]
    split
    · split
      · exact min_le_min_right _ sum
      · exact (min_le_left _ _).trans sum
    · rename_i enough
      rw [if_neg (fun missing => enough (each.length_eq ▸ counted.trans_lt missing))]
      exact sum

theorem withRecentDrill_mono {score score' : Rat} {passed passed' : Bool} (higher : score ≤ score')
    (better : passed = true -> passed' = true) : withRecentDrill score passed ≤ withRecentDrill score' passed' := by
  unfold withRecentDrill weightRecentDrill
  cases passed with
  | true =>
      rw [better rfl, if_pos rfl, if_pos rfl]
      exact add_le_add_left higher _
  | false =>
      rw [if_neg Bool.false_ne_true]
      split
      · linarith only [higher]
      · exact higher

theorem capped_mono {score score' : Rat} {triggered triggered' : Bool} (higher : score ≤ score')
    (anti : triggered' = true -> triggered = true) : capped triggered score ≤ capped triggered' score' := by
  unfold capped
  apply max_le_max_left
  apply min_le_min_left
  cases triggered' with
  | true =>
      rw [anti rfl, if_pos rfl, if_pos rfl]
      exact min_le_min_right _ higher
  | false =>
      rw [if_neg Bool.false_ne_true]
      split
      · exact (min_le_left _ _).trans higher
      · exact higher

theorem capped_bounds (triggered : Bool) (score : Rat) : 0 ≤ capped triggered score ∧ capped triggered score ≤ 100 :=
  ⟨le_max_left _ _, max_le (by norm_num) (min_le_left _ _)⟩

theorem readiness_bounds (inputs : Inputs) : 0 ≤ inputs.readiness.score ∧ inputs.readiness.score ≤ 100 := by
  unfold Inputs.readiness scoreReadiness
  split
  · exact capped_bounds _ _
  · exact ⟨le_rfl, by norm_num⟩

theorem readiness_mono {old new : Inputs} (better : Better old new) :
    old.readiness.score ≤ new.readiness.score := by
  cases active : old.planActive with
  | false =>
      have zero : old.readiness.score = 0 := by rw [Inputs.readiness, scoreReadiness, active]; rfl
      exact zero ▸ (readiness_bounds new).1
  | true =>
      unfold Inputs.readiness scoreReadiness
      rw [if_pos active, if_pos (better.planActive active)]
      have backups : weightPlanActive + backupScore old.backupRequirements ≤
          weightPlanActive + backupScore new.backupRequirements := add_le_add_right (backupScore_mono better) _
      exact capped_mono (withRecentDrill_mono (withHealth_mono better backups) better.recentDrillPassed)
        (failClosed_anti better)

/-! ## What `READY` means -/

/-- A score of 90 is out of reach of both caps. -/
theorem of_ready_score {triggered : Bool} {score : Rat} {checks : List HealthCheckStatus} {passed : Bool}
    (ready : readyThreshold ≤ capped triggered (withRecentDrill (withHealth score checks) passed)) :
    triggered = false ∧
      ¬(applicableHealthChecks checks).countP HealthCheckStatus.isHealthy < (applicableHealthChecks checks).length := by
  have uncapped : triggered = false := by
    cases triggered with
    | false => rfl
    | true =>
        have low : capped true (withRecentDrill (withHealth score checks) passed) ≤ 49 :=
          max_le (by norm_num) ((min_le_right _ _).trans (min_le_right _ _))
        unfold readyThreshold at ready
        linarith only [ready, low]
  refine ⟨uncapped, ?_⟩
  intro missing
  have nonempty : applicableHealthChecks checks ≠ [] := by
    intro none
    rw [none] at missing
    exact Nat.not_lt_zero _ missing
  have health : withHealth score checks ≤ 79 := by
    rw [withHealth, if_neg nonempty, if_pos missing]
    exact min_le_right _ _
  have drill : withRecentDrill (withHealth score checks) passed ≤ 89 := by
    unfold withRecentDrill weightRecentDrill
    split
    · linarith only [health]
    · linarith only [health]
  have low : capped triggered (withRecentDrill (withHealth score checks) passed) ≤ 89 := by
    rw [uncapped]
    exact max_le (by norm_num) ((min_le_right _ _).trans drill)
  unfold readyThreshold at ready
  linarith only [ready, low]

theorem of_ready {inputs : Inputs} (ready : inputs.readiness.state = "READY".toList) :
    inputs.planActive = true ∧
      (forall requirement, requirement ∈ inputs.backupRequirements -> requirement.required = true ->
        requirement.fresh = true) ∧
      forall check, check ∈ inputs.healthChecks -> check.applicable = true -> check.healthy = some true := by
  unfold Inputs.readiness scoreReadiness at ready
  split at ready
  · rename_i active
    have high : readyThreshold ≤ capped (failClosed inputs.backupRequirements)
        (withRecentDrill (withHealth (weightPlanActive + backupScore inputs.backupRequirements) inputs.healthChecks)
          inputs.recentDrillPassed) := by
      by_contra low
      dsimp only at ready
      rw [stateOf, if_neg low] at ready
      split at ready <;> exact absurd ready (by decide)
    rcases of_ready_score high with ⟨closed, healthy⟩
    refine ⟨active, ?_, ?_⟩
    · intro requirement member required
      rw [failClosed, decide_eq_false_iff_not] at closed
      exact all_of_length_le_countP closed requirement (List.mem_filter.mpr ⟨member, required⟩)
    · intro check member applicable
      exact of_decide_eq_true (all_of_length_le_countP healthy check (List.mem_filter.mpr ⟨member, applicable⟩))
  · exact absurd ready (by decide)

/-- Better inputs never lower the score, the score is one out of a hundred, and `READY`
is said of an active plan with fresh backups and healthy components only. -/
theorem score_monotone_and_sound :
    (forall old new, Better old new -> old.readiness.score ≤ new.readiness.score) ∧
      (forall inputs : Inputs, 0 ≤ inputs.readiness.score ∧ inputs.readiness.score ≤ 100) ∧
      forall inputs : Inputs, inputs.readiness.state = "READY".toList ->
        inputs.planActive = true ∧
          (forall requirement, requirement ∈ inputs.backupRequirements -> requirement.required = true ->
            requirement.fresh = true) ∧
          forall check, check ∈ inputs.healthChecks -> check.applicable = true -> check.healthy = some true :=
  ⟨fun _ _ => readiness_mono, readiness_bounds, fun _ => of_ready⟩

end Recovery
end ApexQuant
