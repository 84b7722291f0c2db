import ApexQuant.Backup.Retention
import ApexQuant.Foundation.StableOrder

namespace ApexQuant
namespace Backup

open Foundation
open Foundation.Faults
open BackupService

/-!
# What retention selects

One call of `apply_retention` that nothing interrupts: which artifacts it expires, what
it leaves of rows and objects, and that it leaves nothing to do for a second call.
-/

/-! ## The selection -/

/-- The rows that are ranked. -/
def ranked (policyId : Id) (world : World) : List BackupArtifact :=
  world.artifacts.rows.filter fun artifact => decide (artifact.policyId = policyId) && decide (artifact.status = .active)

/-- The artifact is active and either stands behind those to keep, the youngest first, or
its time is over. -/
def Expires (policy : BackupPolicy) (now : Moment) (policyId : Id) (world : World) (artifact : BackupArtifact) : Prop :=
  artifact.policyId = policyId ∧ artifact.status = .active ∧
    ((Exists fun count => policy.retentionCount = some count ∧
        count ≤ Ranking.stablePosition BackupArtifact.createdAt (ranked policyId world) artifact) ∨
      (policy.retentionDays.isSome = true ∧ Exists fun expiry => artifact.expiresAt = some expiry ∧ expiry ≤ now))

/-- What `apply_retention` is for. -/
structure Retains (now : Moment) (policyId : Id) (policy : BackupPolicy) (world : World) : Prop where
  /-- It returns the expired artifacts. -/
  returns : Exists fun expired => Exists fun after =>
    applyRetention now policyId { world := world, fates := [] } = .ok expired after ∧
      after.world = retained now policyId world ∧
      forall artifact, artifact ∈ expired <-> artifact ∈ world.artifacts ∧ Expires policy now policyId world artifact
  /-- No row is added or removed. -/
  rows : identifiers (retained now policyId world).artifacts.rows = identifiers world.artifacts.rows
  /-- An expired artifact gets its last status. -/
  expired : forall artifact, artifact ∈ world.artifacts -> Expires policy now policyId world artifact ->
    { artifact with status := if policy.deleteExpired then .deleted else .expired } ∈
      (retained now policyId world).artifacts
  /-- All others are as they were. -/
  untouched : forall artifact, artifact ∈ world.artifacts -> ¬Expires policy now policyId world artifact ->
    artifact ∈ (retained now policyId world).artifacts
  /-- No more than the number to keep are active. -/
  bounded : forall count, policy.retentionCount = some count ->
    (ranked policyId (retained now policyId world)).length ≤ count
  /-- The objects of expired artifacts are gone if they are to be deleted, and no others. -/
  objects : forall item, item ∈ (retained now policyId world).objects <->
    item ∈ world.objects ∧ ¬(policy.deleteExpired = true ∧
      Exists fun artifact => artifact ∈ world.artifacts ∧ Expires policy now policyId world artifact ∧
        artifact.storageKey = item.1)
  /-- Nothing else changes. -/
  frame : (retained now policyId world).policies = world.policies ∧ (retained now policyId world).runs = world.runs ∧
    (retained now policyId world).restores = world.restores ∧ (retained now policyId world).files = world.files
  /-- A second call finds nothing to do. -/
  settled : retained now policyId (retained now policyId world) = retained now policyId world

/-! ## Positions -/

section Retains

variable {now : Moment} {policyId : Id} {policy : BackupPolicy} {world : World}

/-- The active artifacts are sorted once and for all. -/
theorem stablySorted_activeArtifacts (policyId : Id) (world : World) :
    Ranking.StablySorted BackupArtifact.createdAt (ranked policyId world) (activeArtifacts policyId world) := by
  have sorted : Ranking.StablySorted BackupArtifact.createdAt _ (world.listArtifacts policyId) :=
    Ranking.stablySorted_insertionSort (world.artifacts.rows.filter fun artifact => decide (artifact.policyId = policyId))
  have filtered := sorted.filter fun artifact => decide (artifact.status = .active)
  rw [List.filter_filter] at filtered
  rw [World.activeArtifacts_eq]
  have same : (ranked policyId world) = world.artifacts.rows.filter fun artifact =>
      decide (artifact.status = .active) && decide (artifact.policyId = policyId) := by
    refine List.filter_congr fun artifact _ => ?_
    exact Bool.and_comm _ _
  rw [same]
  exact filtered

theorem nodup_ranked (policyId : Id) (world : World) : (ranked policyId world).Nodup :=
  (List.Nodup.of_map _ world.artifacts.unique).sublist List.filter_sublist

theorem mem_ranked_iff {artifact : BackupArtifact} :
    artifact ∈ ranked policyId world <->
      artifact ∈ world.artifacts ∧ artifact.policyId = policyId ∧ artifact.status = .active := by
  rw [ranked, List.mem_filter, Bool.and_eq_true_iff, decide_eq_true_iff, decide_eq_true_iff]
  rfl

theorem isExpired_iff {index : Nat} {artifact : BackupArtifact} :
    isExpired policy now index artifact = true <->
      (Exists fun count => policy.retentionCount = some count ∧ count ≤ index) ∨
        (policy.retentionDays.isSome = true ∧ Exists fun expiry => artifact.expiresAt = some expiry ∧ expiry ≤ now) := by
  rw [isExpired, Bool.or_eq_true_iff, expiredByCount, expiredByAge, Bool.and_eq_true_iff]
  cases policy.retentionCount <;> cases artifact.expiresAt <;> simp

/-- What the loop picks is what expires. -/
theorem mem_expiredArtifacts_iff {artifact : BackupArtifact} :
    artifact ∈ expiredArtifacts policy now policyId world <->
      artifact ∈ world.artifacts ∧ Expires policy now policyId world artifact := by
  have positions : forall index, (activeArtifacts policyId world)[index]? = some artifact <->
      artifact ∈ ranked policyId world ∧
        Ranking.stablePosition BackupArtifact.createdAt (ranked policyId world) artifact = index := by
    intro index
    exact (stablySorted_activeArtifacts policyId world).getElem?_iff (nodup_ranked policyId world)
  rw [expiredArtifacts, Ranking.mem_select_iff]
  constructor
  · rintro ⟨index, found, picked⟩
    rcases (positions index).mp found with ⟨member, place⟩
    rcases mem_ranked_iff.mp member with ⟨stored, own, active⟩
    rw [Nat.zero_add, isExpired_iff, ← place] at picked
    exact ⟨stored, own, active, picked⟩
  · rintro ⟨stored, own, active, expired⟩
    refine ⟨_, (positions _).mpr ⟨mem_ranked_iff.mpr ⟨stored, own, active⟩, rfl⟩, ?_⟩
    rw [Nat.zero_add, isExpired_iff]
    exact expired

theorem mem_identifiers_iff {artifact : BackupArtifact} (stored : artifact ∈ world.artifacts) :
    artifact.artifactId ∈ identifiers (expiredArtifacts policy now policyId world) <->
      Expires policy now policyId world artifact := by
  constructor
  · intro listed
    rcases List.mem_map.mp listed with ⟨other, picked, same⟩
    have known := mem_expiredArtifacts_iff.mp picked
    rw [← Table.eq_of_key_eq known.1 stored same]
    exact known.2
  · intro expired
    exact List.mem_map_of_mem (mem_expiredArtifacts_iff.mpr ⟨stored, expired⟩)

/-! ## What is left -/

theorem length_ranked (policyId : Id) (world : World) :
    (ranked policyId world).length = (activeArtifacts policyId world).length :=
  (stablySorted_activeArtifacts policyId world).perm.length_eq.symm

/-- What is still active stands before the number to keep. -/
theorem length_activeArtifacts_settle {count : Nat} (kept : policy.retentionCount = some count) :
    (activeArtifacts policyId
      (settle policy.deleteExpired (expiredArtifacts policy now policyId world) world)).length ≤ count := by
  rw [activeArtifacts_settle]
  have distinct : (activeArtifacts policyId world).Nodup := List.Nodup.of_map _ (nodup_activeArtifacts policyId world)
  have early : ((activeArtifacts policyId world).filter fun artifact =>
      decide (artifact.artifactId ∉ identifiers (expiredArtifacts policy now policyId world))) ⊆
        (activeArtifacts policyId world).take count := by
    intro artifact member
    rcases List.mem_filter.mp member with ⟨listed, missed⟩
    rcases List.mem_iff_getElem?.mp listed with ⟨index, found⟩
    rw [List.mem_take_iff_getElem]
    have inside := (List.getElem?_eq_some_iff.mp found).1
    have before : index < count := by
      by_contra late
      have picked : artifact ∈ expiredArtifacts policy now policyId world := by
        refine Ranking.mem_select_iff.mpr ⟨index, found, ?_⟩
        rw [Nat.zero_add, isExpired_iff]
        exact Or.inl ⟨count, kept, Nat.le_of_not_lt late⟩
      exact of_decide_eq_true missed (List.mem_map_of_mem picked)
    exact ⟨index, by omega, (List.getElem?_eq_some_iff.mp found).2⟩
  have shorter := ((distinct.sublist List.filter_sublist).subperm early).length_le
  exact shorter.trans (List.length_take_le _ _)

/-- Once its selection is settled, nothing is selected. -/
theorem expiredArtifacts_settled :
    expiredArtifacts policy now policyId
      (settle policy.deleteExpired (expiredArtifacts policy now policyId world) world) = [] := by
  have growing := isExpired_growing policy now
  have all := @expiredArtifacts_settle now policyId policy world (expiredArtifacts policy now policyId world).length
  rw [List.take_length] at all
  have shorter := growing.select_without_sublist (expiredArtifacts policy now policyId world).length 0 0
    (activeArtifacts policyId world)
  rw [Nat.zero_add] at shorter
  have none : (Ranking.select (isExpired policy now) 0 (activeArtifacts policyId world)).drop
      (expiredArtifacts policy now policyId world).length = [] := List.drop_length
  rw [none, List.sublist_nil] at shorter
  rw [all, shorter]

/-- The objects of expired artifacts are taken out. -/
theorem mem_objectsLeft_iff {item : Text × Bytes} :
    item ∈ objectsLeft policy.deleteExpired (expiredArtifacts policy now policyId world) world.objects <->
      item ∈ world.objects ∧ ¬(policy.deleteExpired = true ∧
        Exists fun artifact => artifact ∈ world.artifacts ∧ Expires policy now policyId world artifact ∧
          artifact.storageKey = item.1) := by
  rw [objectsLeft]
  cases policy.deleteExpired with
  | false => simp
  | true =>
      have keys : (((expiredArtifacts policy now policyId world).map BackupArtifact.storageKey).all fun key =>
          decide (item.1 ≠ key)) = true <->
            forall artifact, artifact ∈ expiredArtifacts policy now policyId world -> item.1 ≠ artifact.storageKey := by
        simp
      rw [if_pos rfl, Table.mem_filter, keys]
      refine and_congr_right fun _ => ?_
      constructor
      · rintro apart ⟨_, artifact, stored, expires, same⟩
        exact apart artifact (mem_expiredArtifacts_iff.mpr ⟨stored, expires⟩) same.symm
      · intro none artifact listed same
        rcases mem_expiredArtifacts_iff.mp listed with ⟨stored, expires⟩
        exact none ⟨rfl, artifact, stored, expires, same.symm⟩

/-- A call over storage that works. -/
theorem applyRetention_served (found : world.getPolicy policyId = some policy) :
    applyRetention now policyId { world := world, fates := [] } =
      .ok (expiredArtifacts policy now policyId world)
        { world := settle policy.deleteExpired (expiredArtifacts policy now policyId world) world, fates := [] } := by
  have reads : applyRetention now policyId { world := world, fates := [] } =
      (inOrder ((expiredArtifacts policy now policyId world).flatMap (expiry policy)) >>= fun _ =>
        pure (expiredArtifacts policy now policyId world))
          ({ world := world, fates := [] } : Outside BackupFailure World) := applyRetention_reads rfl rfl found
  rw [reads, bind_run, inOrder_served, ← applied_expiries]
  rfl

end Retains

/-- A call of `apply_retention` that nothing interrupts expires exactly the active
artifacts behind the number to keep, the youngest first, and those whose time is over. -/
theorem retention_selects (now : Moment) (policyId : Id) (policy : BackupPolicy) (world : World)
    (found : world.getPolicy policyId = some policy) : Retains now policyId policy world := by
  have after : retained now policyId world =
      settle policy.deleteExpired (expiredArtifacts policy now policyId world) world := retained_eq found
  refine
    { returns := ?_
      rows := ?_
      expired := fun artifact stored expires => ?_
      untouched := fun artifact stored stays => ?_
      bounded := fun count kept => ?_
      objects := fun item => ?_
      frame := ?_
      settled := ?_ }
  · refine ⟨_, _, applyRetention_served found, after.symm, fun artifact => mem_expiredArtifacts_iff⟩
  · rw [after]
    change (world.artifacts.rows.map (settled _ _)).map BackupArtifact.artifactId = _
    rw [List.map_map]
    exact List.map_congr_left fun row _ => artifactId_settled _ _ row
  · rw [after]
    refine (Table.mem_update (artifactId_settled _ _)).mpr ⟨artifact, stored, ?_⟩
    rw [settled, if_pos ((mem_identifiers_iff stored).mpr expires)]
  · rw [after]
    refine (Table.mem_update (artifactId_settled _ _)).mpr ⟨artifact, stored, ?_⟩
    exact settled_of_not_mem fun listed => stays ((mem_identifiers_iff stored).mp listed)
  · rw [length_ranked, after]
    exact length_activeArtifacts_settle kept
  · rw [after]
    exact mem_objectsLeft_iff
  · rw [after]
    exact ⟨rfl, rfl, rfl, rfl⟩
  · rw [after]
    have foundStill : (settle policy.deleteExpired (expiredArtifacts policy now policyId world) world).getPolicy policyId =
        some policy := found
    rw [retained_eq foundStill, expiredArtifacts_settled, settle_nil]

/-- Of two artifacts the older is deleted when one is to be kept. -/
theorem older_artifact_is_deleted :
    { Scenario.artifact 1 with status := .deleted } ∈ (retained 10 1 (Scenario.kept true)).artifacts := by
  refine (retention_selects 10 1 (Scenario.policy true) (Scenario.kept true) rfl).expired (Scenario.artifact 1)
    List.mem_cons_self ⟨rfl, rfl, Or.inl ⟨1, rfl, ?_⟩⟩
  decide

end Backup
end ApexQuant
