import ApexQuant.Recovery.Scoring

namespace ApexQuant
namespace Recovery

/-!
# How far the caps reach

The two caps of `score_readiness` stand at different places.  The one for backups comes
after everything that adds to the score, so it bounds the result.  The one for health
comes before the drill is counted, so a passed drill can lift a capped score above it.
-/

/-- Some check that applies does not report healthy. -/
def HealthFailed (checks : List HealthCheckStatus) : Prop :=
  Exists fun check => check ∈ checks ∧ check.applicable = true ∧ ¬check.healthy = some true

/-- Some required backup is not fresh. -/
def BackupStale (requirements : List BackupRequirementStatus) : Prop :=
  Exists fun requirement => requirement ∈ requirements ∧ requirement.required = true ∧ requirement.fresh = false

/-- The share of the required backups that are verified, all of them where none is required. -/
def verifiedShare (requirements : List BackupRequirementStatus) : Rat :=
  if requiredBackups requirements = [] then 1
  else share BackupRequirementStatus.verified (requiredBackups requirements)

def healthyShare (checks : List HealthCheckStatus) : Rat :=
  share HealthCheckStatus.isHealthy (applicableHealthChecks checks)

/-! ## Counts that fall short -/

theorem countP_lt_length_iff {Item : Type} {meets : Item -> Bool} {items : List Item} :
    items.countP meets < items.length <-> Exists fun item => item ∈ items ∧ meets item = false := by
  rw [List.countP_le_length.lt_iff_ne, ne_eq, List.countP_eq_length, not_forall]
  simp only [Classical.not_imp, Bool.not_eq_true]

theorem failClosed_iff (requirements : List BackupRequirementStatus) :
    failClosed requirements = true <-> BackupStale requirements := by
  rw [failClosed, decide_eq_true_eq, countP_lt_length_iff]
  simp only [requiredBackups, List.mem_filter, and_assoc]
  exact Iff.rfl

theorem failClosed_of_fresh {requirements : List BackupRequirementStatus} (fresh : ¬BackupStale requirements) :
    failClosed requirements = false := by
  rw [Bool.eq_false_iff, ne_eq, failClosed_iff]
  exact fresh

theorem healthy_short_iff (checks : List HealthCheckStatus) :
    (applicableHealthChecks checks).countP HealthCheckStatus.isHealthy < (applicableHealthChecks checks).length <->
      HealthFailed checks := by
  rw [countP_lt_length_iff]
  simp only [applicableHealthChecks, List.mem_filter, and_assoc, HealthCheckStatus.isHealthy, decide_eq_false_iff_not]
  exact Iff.rfl

/-! ## The parts of the score -/

/-- With no stale backup the freshness weight is given whole. -/
theorem backupScore_of_fresh {requirements : List BackupRequirementStatus} (fresh : ¬BackupStale requirements) :
    backupScore requirements = weightBackupFreshness + weightBackupVerification * verifiedShare requirements := by
  unfold backupScore verifiedShare
  by_cases none : requiredBackups requirements = []
  · rw [if_pos none, if_pos none, mul_one]
  · rw [if_neg none, if_neg none]
    have closed := failClosed_of_fresh fresh
    rw [failClosed, decide_eq_false_iff_not] at closed
    have all : (requiredBackups requirements).countP BackupRequirementStatus.fresh =
        (requiredBackups requirements).length :=
      le_antisymm List.countP_le_length (not_lt.mp closed)
    have positive : ((requiredBackups requirements).length : Rat) ≠ 0 :=
      Nat.cast_ne_zero.mpr (fun zero => none (List.length_eq_zero_iff.mp zero))
    have whole : share BackupRequirementStatus.fresh (requiredBackups requirements) = 1 := by
      rw [share, all, div_self positive]
    rw [whole, mul_one]

theorem withHealth_of_failed {checks : List HealthCheckStatus} (failed : HealthFailed checks) (score : Rat) :
    withHealth score checks = min (score + weightHealth * healthyShare checks) healthFailureCap := by
  have short := (healthy_short_iff checks).mpr failed
  have some : applicableHealthChecks checks ≠ [] := by
    intro none
    rw [none] at short
    exact Nat.not_lt_zero _ short
  rw [withHealth, if_neg some, if_pos short, healthyShare]

/-- The bounds of the scale do not matter to a bound inside it. -/
theorem capped_false_le_iff {score bound : Rat} (low : 0 ≤ bound) (high : bound < 100) :
    capped false score ≤ bound <-> score ≤ bound := by
  rw [capped, if_neg Bool.false_ne_true, max_le_iff, min_le_iff]
  exact ⟨fun below => below.2.resolve_left (not_le.mpr high), fun below => ⟨low, Or.inr below⟩⟩

theorem capped_true_le (score : Rat) : capped true score ≤ backupFailClosedCap := by
  rw [capped, if_pos rfl]
  exact max_le (by norm_num [backupFailClosedCap]) ((min_le_right _ _).trans (min_le_right _ _))

/-- The cap holds after the drill exactly where the drill adds nothing or leaves the sum
below the cap by itself. -/
theorem withRecentDrill_min_le_iff (score : Rat) (passed : Bool) :
    withRecentDrill (min score healthFailureCap) passed ≤ healthFailureCap <->
      (passed = true -> score + weightRecentDrill ≤ healthFailureCap) := by
  unfold withRecentDrill
  cases passed with
  | false => simp
  | true =>
      rw [if_pos rfl, ← min_add_add_right, min_le_iff]
      have above : ¬healthFailureCap + weightRecentDrill ≤ healthFailureCap := by
        norm_num [healthFailureCap, weightRecentDrill]
      simp only [above, or_false, forall_const]

/-! ## The result -/

theorem score_le_of_stale {requirements : List BackupRequirementStatus} (stale : BackupStale requirements)
    (checks : List HealthCheckStatus) (passed : Bool) :
    (scoreReadiness true requirements checks passed).score ≤ backupFailClosedCap := by
  rw [scoreReadiness, if_pos rfl, (failClosed_iff requirements).mpr stale]
  exact capped_true_le _

theorem score_le_healthFailureCap_iff {requirements : List BackupRequirementStatus} {checks : List HealthCheckStatus}
    (fresh : ¬BackupStale requirements) (failed : HealthFailed checks) (passed : Bool) :
    (scoreReadiness true requirements checks passed).score ≤ healthFailureCap <->
      (passed = true ->
        weightBackupVerification * verifiedShare requirements + weightHealth * healthyShare checks ≤ 19) := by
  rw [scoreReadiness, if_pos rfl, failClosed_of_fresh fresh, backupScore_of_fresh fresh, withHealth_of_failed failed,
    capped_false_le_iff (by norm_num [healthFailureCap]) (by norm_num [healthFailureCap]), withRecentDrill_min_le_iff]
  apply imp_congr_right
  intro _
  unfold weightPlanActive weightBackupFreshness weightRecentDrill healthFailureCap
  constructor
  · intro below
    linarith only [below]
  · intro below
    linarith only [below]

/-- Both caps hold of the score of an active plan exactly where it is not the case that the
drill passed beside fresh backups and a failed check with more than nineteen points from
verification and health. -/
theorem caps_hold_iff (requirements : List BackupRequirementStatus) (checks : List HealthCheckStatus)
    (recentDrillPassed : Bool) :
    ((HealthFailed checks ->
        (scoreReadiness true requirements checks recentDrillPassed).score ≤ healthFailureCap) ∧
      (BackupStale requirements ->
        (scoreReadiness true requirements checks recentDrillPassed).score ≤ backupFailClosedCap)) <->
      (HealthFailed checks -> ¬BackupStale requirements -> recentDrillPassed = true ->
        weightBackupVerification * verifiedShare requirements + weightHealth * healthyShare checks ≤ 19) := by
  constructor
  · intro caps failed fresh
    exact (score_le_healthFailureCap_iff fresh failed recentDrillPassed).mp (caps.1 failed)
  · intro condition
    refine ⟨?_, fun stale => score_le_of_stale stale checks recentDrillPassed⟩
    intro failed
    by_cases stale : BackupStale requirements
    · have low := score_le_of_stale stale checks recentDrillPassed
      have order : backupFailClosedCap ≤ healthFailureCap := by norm_num [backupFailClosedCap, healthFailureCap]
      exact low.trans order
    · exact (score_le_healthFailureCap_iff stale failed recentDrillPassed).mpr (condition failed stale)

/-- One of two components is down, its backup is fresh and verified, and the drill passed. -/
def oneDown : List HealthCheckStatus :=
  [{ componentName := "gateway".toList, healthEndpoint := none, applicable := true, checked := true, healthy := some true },
    { componentName := "ledger".toList, healthEndpoint := none, applicable := true, checked := true, healthy := some false }]

def ledgerBackup : BackupRequirementStatus where
  componentName := "ledger".toList
  backupPolicyName := some "ledger-daily".toList
  required := true
  policyExists := true
  latestBackupAt := some 1760000000000000
  fresh := true
  verified := true
  rpoSeconds := some 3600

/-- The score is 89 with a component down. -/
theorem drill_lifts_capped_score :
    ¬(HealthFailed oneDown -> (scoreReadiness true [ledgerBackup] oneDown true).score ≤ healthFailureCap) := by
  intro capped
  have failed : HealthFailed oneDown := ⟨_, List.mem_cons_of_mem _ (List.mem_singleton.mpr rfl), rfl, by decide⟩
  have above : ¬(scoreReadiness true [ledgerBackup] oneDown true).score ≤ healthFailureCap := by decide +kernel
  exact above (capped failed)

end Recovery
end ApexQuant
