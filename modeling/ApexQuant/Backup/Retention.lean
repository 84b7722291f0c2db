import ApexQuant.Backup.Service

namespace ApexQuant
namespace Backup

open Foundation
open Foundation.Faults
open BackupService

/-!
# Interrupted retention

`apply_retention` marks an expired artifact `EXPIRED`, deletes its object and marks it
`DELETED`, one artifact after the other.  The next call looks at the active artifacts
only, and counts them anew.  So what was interrupted between the two marks is never
looked at again, and an artifact that had expired by its position may stand in front
of the limit once younger ones are gone.
-/

/-- The calls of `apply_retention` for one artifact, after the first. -/
def callsPerArtifact (policy : BackupPolicy) : Nat :=
  if policy.deleteExpired then 3 else 1

/-- A call for the same time, over storage that works. -/
def retained (now : Moment) (policyId : Id) (world : World) : World :=
  finalWorld (applyRetention now policyId) { world := world, fates := [] }

/-- Repeating the call ends as a single call does. -/
def Resumes (now : Moment) (policyId : Id) (world after : World) : Prop :=
  (retained now policyId after).artifacts = (retained now policyId world).artifacts ∧
    (retained now policyId after).objects = (retained now policyId world).objects

/-- How many calls have taken effect on artifacts and objects, when the call after
`position` others fails.  The first two calls read. -/
def effective (position : Nat) (applied : Bool) : Nat :=
  position - 2 + if applied then 1 else 0

/-- The call fails between two artifacts, and every artifact that is not reached is
expired at the position that it has without those before it. -/
def PicksUp (now : Moment) (policyId : Id) (world : World) (position : Nat) (applied : Bool) : Prop :=
  forall policy, world.getPolicy policyId = some policy -> 2 ≤ position ->
    callsPerArtifact policy ∣ effective position applied ∧
      Ranking.Stays (isExpired policy now) (effective position applied / callsPerArtifact policy) 0 0
        (activeArtifacts policyId world)

/-! ## The order of the artifacts -/

namespace World

theorem notOlder_total : forall left right : BackupArtifact, notOlder left right ∨ notOlder right left :=
  fun left right => le_total right.createdAt left.createdAt

theorem notOlder_trans : forall first second third : BackupArtifact,
    notOlder first second -> notOlder second third -> notOlder first third :=
  fun _ _ _ left right => le_trans right left

instance notOlder.total : Std.Total notOlder where
  total := notOlder_total

instance notOlder.isTrans : IsTrans BackupArtifact notOlder where
  trans := notOlder_trans

/-- The list is sorted already, so the second sort of `apply_retention` is idle. -/
theorem activeArtifacts_eq (policyId : Id) (world : World) :
    activeArtifacts policyId world =
      (world.listArtifacts policyId).filter fun artifact => decide (artifact.status = .active) := by
  apply List.Pairwise.insertionSort_eq
  exact (List.pairwise_insertionSort notOlder _).sublist List.filter_sublist

end World

/-! ## What the calls do -/

/-- The calls for one expired artifact. -/
def expiry (policy : BackupPolicy) (artifact : BackupArtifact) : List (World -> World) :=
  World.updateArtifactStatus artifact.artifactId .expired ::
    if policy.deleteExpired then
      [World.deleteObject artifact.storageKey, World.updateArtifactStatus artifact.artifactId .deleted]
    else []

theorem length_expiry (policy : BackupPolicy) (artifact : BackupArtifact) :
    (expiry policy artifact).length = callsPerArtifact policy := by
  unfold expiry callsPerArtifact
  cases policy.deleteExpired <;> rfl

/-- The identifiers of the artifacts. -/
def identifiers (artifacts : List BackupArtifact) : List Id :=
  artifacts.map BackupArtifact.artifactId

/-- A row after the artifacts have been processed. -/
def settled (delete : Bool) (done : List BackupArtifact) (row : BackupArtifact) : BackupArtifact :=
  if row.artifactId ∈ identifiers done then { row with status := if delete then .deleted else .expired } else row

theorem artifactId_settled (delete : Bool) (done : List BackupArtifact) (row : BackupArtifact) :
    (settled delete done row).artifactId = row.artifactId := by
  unfold settled
  split <;> rfl

/-- The objects that are left of those artifacts. -/
def objectsLeft (delete : Bool) (done : List BackupArtifact) (objects : Dictionary Text Bytes) : Dictionary Text Bytes :=
  if delete then objects.filter fun item => (done.map BackupArtifact.storageKey).all fun key => decide (item.1 ≠ key)
  else objects

/-- The world after the artifacts have been processed. -/
def settle (delete : Bool) (done : List BackupArtifact) (world : World) : World :=
  { world with
    artifacts := world.artifacts.update (settled delete done) (artifactId_settled delete done)
    objects := objectsLeft delete done world.objects }

theorem settled_nil (delete : Bool) (row : BackupArtifact) : settled delete [] row = row :=
  if_neg List.not_mem_nil

theorem settled_append (delete : Bool) (first rest : List BackupArtifact) (row : BackupArtifact) :
    settled delete rest (settled delete first row) = settled delete (first ++ rest) row := by
  unfold settled identifiers
  rw [List.map_append]
  by_cases early : row.artifactId ∈ first.map BackupArtifact.artifactId
  · rw [if_pos early, if_pos (List.mem_append_left _ early)]
    dsimp only
    split <;> rfl
  · rw [if_neg early]
    by_cases late : row.artifactId ∈ rest.map BackupArtifact.artifactId
    · rw [if_pos late, if_pos (List.mem_append_right _ late)]
    · rw [if_neg late, if_neg (fun listed => (List.mem_append.mp listed).elim early late)]

theorem objectsLeft_append (delete : Bool) (first rest : List BackupArtifact) (objects : Dictionary Text Bytes) :
    objectsLeft delete rest (objectsLeft delete first objects) = objectsLeft delete (first ++ rest) objects := by
  cases delete with
  | false => rfl
  | true =>
      apply Table.ext_rows
      change List.filter _ (List.filter _ _) = List.filter _ _
      rw [List.filter_filter, List.map_append]
      apply List.filter_congr
      intro item _
      rw [List.all_append]
      exact Bool.and_comm _ _

theorem settle_nil (delete : Bool) (world : World) : settle delete [] world = world := by
  have rows : world.artifacts.update (settled delete []) (artifactId_settled delete []) = world.artifacts := by
    apply Table.ext_rows
    change world.artifacts.rows.map (settled delete []) = world.artifacts.rows
    rw [funext (settled_nil delete)]
    exact List.map_id _
  have objects : objectsLeft delete [] world.objects = world.objects := by
    cases delete with
    | false => rfl
    | true =>
        apply Table.ext_rows
        exact List.filter_eq_self.mpr fun _ _ => rfl
  unfold settle
  rw [rows, objects]

theorem settle_append (delete : Bool) (first rest : List BackupArtifact) (world : World) :
    settle delete rest (settle delete first world) = settle delete (first ++ rest) world := by
  have rows : (world.artifacts.update (settled delete first) (artifactId_settled delete first)).update
      (settled delete rest) (artifactId_settled delete rest) =
        world.artifacts.update (settled delete (first ++ rest)) (artifactId_settled delete (first ++ rest)) := by
    apply Table.ext_rows
    change (world.artifacts.rows.map _).map _ = world.artifacts.rows.map _
    rw [List.map_map]
    exact List.map_congr_left fun row _ => settled_append delete first rest row
  unfold settle
  dsimp only
  rw [rows, objectsLeft_append]

/-- The effects one after the other. -/
def applied (effects : List (World -> World)) (world : World) : World :=
  effects.foldl (fun world effect => effect world) world

theorem applied_expiry (policy : BackupPolicy) (artifact : BackupArtifact) (world : World) :
    applied (expiry policy artifact) world = settle policy.deleteExpired [artifact] world := by
  have marked_eq : forall row status, World.marked artifact.artifactId status row =
      if row.artifactId ∈ identifiers [artifact] then { row with status := status } else row := by
    intro row status
    unfold World.marked identifiers
    rw [List.map_singleton]
    simp only [List.mem_singleton]
  unfold expiry settle
  cases policy.deleteExpired with
  | false =>
      have rows : world.artifacts.update (World.marked artifact.artifactId .expired)
          (World.artifactId_marked artifact.artifactId .expired) =
            world.artifacts.update (settled false [artifact]) (artifactId_settled false [artifact]) := by
        apply Table.ext_rows
        exact List.map_congr_left fun row _ => marked_eq row .expired
      change World.updateArtifactStatus artifact.artifactId .expired world = _
      unfold World.updateArtifactStatus
      rw [rows]
      rfl
  | true =>
      have rows : (world.artifacts.update (World.marked artifact.artifactId .expired)
          (World.artifactId_marked artifact.artifactId .expired)).update (World.marked artifact.artifactId .deleted)
            (World.artifactId_marked artifact.artifactId .deleted) =
              world.artifacts.update (settled true [artifact]) (artifactId_settled true [artifact]) := by
        apply Table.ext_rows
        change (world.artifacts.rows.map _).map _ = world.artifacts.rows.map _
        rw [List.map_map]
        apply List.map_congr_left
        intro row _
        unfold settled
        rw [Function.comp_apply, marked_eq row]
        by_cases own : row.artifactId ∈ identifiers [artifact]
        · rw [if_pos own, if_pos own, marked_eq]
          exact if_pos own
        · rw [if_neg own, if_neg own, marked_eq]
          exact if_neg own
      have objects : world.objects.filter (fun item => decide (item.1 ≠ artifact.storageKey)) =
          objectsLeft true [artifact] world.objects := by
        apply Table.ext_rows
        apply List.filter_congr
        intro item _
        rw [List.map_singleton, List.all_cons, List.all_nil, Bool.and_true]
      change World.updateArtifactStatus artifact.artifactId .deleted
        (World.deleteObject artifact.storageKey
          (World.updateArtifactStatus artifact.artifactId .expired world)) = _
      unfold World.updateArtifactStatus World.deleteObject
      dsimp only
      rw [rows, objects]

theorem applied_expiries (policy : BackupPolicy) (done : List BackupArtifact) (world : World) :
    applied (done.flatMap (expiry policy)) world = settle policy.deleteExpired done world := by
  induction done generalizing world with
  | nil => exact (settle_nil _ world).symm
  | cons artifact done inductionHypothesis =>
      unfold applied
      rw [List.flatMap_cons, List.foldl_append]
      change applied (done.flatMap (expiry policy)) (applied (expiry policy artifact) world) = _
      rw [applied_expiry, inductionHypothesis, settle_append, List.singleton_append]

/-! ## The next call -/

/-- What is processed is not active any more. -/
theorem activeArtifacts_settle (delete : Bool) (done : List BackupArtifact) (policyId : Id) (world : World) :
    activeArtifacts policyId (settle delete done world) =
      (activeArtifacts policyId world).filter fun artifact =>
        decide (artifact.artifactId ∉ identifiers done) := by
  have kept : forall row : BackupArtifact, (settled delete done row).policyId = row.policyId ∧
      (settled delete done row).createdAt = row.createdAt := by
    intro row
    unfold settled
    split <;> exact ⟨rfl, rfl⟩
  have listed : (settle delete done world).listArtifacts policyId =
      (world.listArtifacts policyId).map (settled delete done) := by
    have own : (fun artifact : BackupArtifact => decide (artifact.policyId = policyId)) ∘ settled delete done =
        fun artifact => decide (artifact.policyId = policyId) := by
      funext row
      rw [Function.comp_apply, (kept row).1]
    unfold World.listArtifacts
    change List.insertionSort World.notOlder ((world.artifacts.rows.map (settled delete done)).filter _) = _
    rw [List.filter_map, own]
    apply Eq.symm
    apply List.map_insertionSort
    intro left _ right _
    unfold World.notOlder
    rw [(kept left).2, (kept right).2]
  rw [World.activeArtifacts_eq, World.activeArtifacts_eq, listed, List.filter_map, List.filter_filter]
  have same : (fun artifact : BackupArtifact => decide (artifact.status = .active)) ∘ settled delete done =
      fun artifact => decide (artifact.artifactId ∉ identifiers done) && decide (artifact.status = .active) := by
    funext row
    rw [Function.comp_apply]
    unfold settled
    by_cases processed : row.artifactId ∈ identifiers done
    · rw [if_pos processed, decide_eq_false (not_not.mpr processed), Bool.false_and]
      cases delete <;> rfl
    · rw [if_neg processed, decide_eq_true processed, Bool.true_and]
  rw [same]
  have unchanged : forall row, row ∈ (world.listArtifacts policyId).filter (fun artifact =>
      decide (artifact.artifactId ∉ identifiers done) && decide (artifact.status = .active)) ->
        settled delete done row = row := by
    intro row member
    exact if_neg (of_decide_eq_true (Bool.and_eq_true_iff.mp (List.mem_filter.mp member).2).1)
  rw [List.map_congr_left unchanged, List.map_id']

/-- An active artifact is a row of the table. -/
theorem mem_activeArtifacts {policyId : Id} {world : World} {artifact : BackupArtifact}
    (listed : artifact ∈ activeArtifacts policyId world) :
    artifact ∈ world.artifacts ∧ artifact.status = .active := by
  rw [World.activeArtifacts_eq, List.mem_filter] at listed
  refine ⟨?_, of_decide_eq_true listed.2⟩
  have stored := listed.1
  unfold World.listArtifacts at stored
  rw [List.mem_insertionSort] at stored
  exact (List.mem_filter.mp stored).1

theorem nodup_activeArtifacts (policyId : Id) (world : World) :
    (identifiers (activeArtifacts policyId world)).Nodup := by
  rw [World.activeArtifacts_eq]
  unfold World.listArtifacts identifiers
  have sorted := (List.perm_insertionSort World.notOlder
    (world.artifacts.rows.filter fun artifact => decide (artifact.policyId = policyId))).map BackupArtifact.artifactId
  have distinct := sorted.nodup_iff.mpr (world.artifacts.unique.sublist (List.filter_sublist.map _))
  exact distinct.sublist (List.filter_sublist.map _)

/-- The artifacts that a call expires. -/
def expiredArtifacts (policy : BackupPolicy) (now : Moment) (policyId : Id) (world : World) : List BackupArtifact :=
  Ranking.select (isExpired policy now) 0 (activeArtifacts policyId world)

theorem isExpired_growing (policy : BackupPolicy) (now : Moment) : Ranking.Growing (isExpired policy now) := by
  intro position artifact expired later
  unfold isExpired expiredByCount at expired ⊢
  rcases Bool.or_eq_true_iff.mp expired with byCount | byAge
  · apply Bool.or_eq_true_iff.mpr
    left
    cases given : policy.retentionCount with
    | none =>
        rw [given] at byCount
        exact absurd byCount nofun
    | some count =>
        rw [given] at byCount
        have reached : count ≤ position := of_decide_eq_true byCount
        exact decide_eq_true (Nat.le_add_right_of_le reached)
  · rw [byAge, Bool.or_true]

section Calls

variable {now : Moment} {policyId : Id} {policy : BackupPolicy}

/-- The loop of `apply_retention` is a sequence of calls. -/
theorem expire_loop (policy : BackupPolicy) (expired : List BackupArtifact) :
    (ForM.forM expired fun artifact => do
        tell (World.updateArtifactStatus artifact.artifactId .expired)
        if policy.deleteExpired then
          tell (World.deleteObject artifact.storageKey)
          tell (World.updateArtifactStatus artifact.artifactId .deleted) : Service PUnit) =
      inOrder (expired.flatMap (expiry policy)) := by
  induction expired with
  | nil => rfl
  | cons artifact expired inductionHypothesis =>
      have one : (do
          tell (World.updateArtifactStatus artifact.artifactId .expired)
          if policy.deleteExpired then
            tell (World.deleteObject artifact.storageKey)
            tell (World.updateArtifactStatus artifact.artifactId .deleted) : Service PUnit) =
          inOrder (expiry policy artifact) := by
        unfold inOrder expiry
        cases policy.deleteExpired with
        | false => rfl
        | true =>
            simp only [if_true, List.forM_cons, List.forM_nil, bind_pure_unit]
      rw [List.forM_cons, one, inductionHypothesis, List.flatMap_cons]
      unfold inOrder
      rw [List.forM_append]

/-- Once policy and artifacts are read, the rest is a sequence of calls. -/
theorem applyRetention_reads {outside : Outside BackupFailure World} (first : outside.fate = .served)
    (second : (outside.next outside.world).fate = .served) (found : outside.world.getPolicy policyId = some policy) :
    applyRetention now policyId outside =
      (inOrder ((expiredArtifacts policy now policyId outside.world).flatMap (expiry policy)) >>= fun _ =>
        pure (expiredArtifacts policy now policyId outside.world))
          ((outside.next outside.world).next outside.world) := by
  unfold applyRetention
  rw [ask_bind_run, first]
  dsimp only
  rw [found]
  dsimp only
  rw [ask_bind_run, second]
  dsimp only
  rw [expire_loop]
  rfl

theorem retained_eq {world : World} (found : world.getPolicy policyId = some policy) :
    retained now policyId world =
      settle policy.deleteExpired (expiredArtifacts policy now policyId world) world := by
  have ran : applyRetention now policyId { world := world, fates := [] } = _ := applyRetention_reads rfl rfl found
  have same : retained now policyId world =
      finalWorld (inOrder ((expiredArtifacts policy now policyId world).flatMap (expiry policy)))
        ({ world := world, fates := [] } : Outside BackupFailure World) := by
    rw [← finalWorld_bind_pure _ (expiredArtifacts policy now policyId world)]
    unfold retained finalWorld
    rw [ran]
    rfl
  rw [same]
  unfold finalWorld
  rw [inOrder_served]
  exact applied_expiries policy _ world

/-- A call for a policy that is not there changes nothing. -/
theorem finalWorld_of_unknown {outside : Outside BackupFailure World}
    (unknown : outside.world.getPolicy policyId = none) :
    finalWorld (applyRetention now policyId) outside = outside.world := by
  unfold finalWorld applyRetention
  rw [ask_bind_run]
  cases outside.fate with
  | served =>
      dsimp only
      rw [unknown]
      rfl
  | fails error applied => rfl

/-- A call that fails while it reads changes nothing. -/
theorem applyRetention_fails_reading {world : World} {position : Nat} {error : BackupFailure} {taken : Bool}
    (reading : position < 2) :
    finalWorld (applyRetention now policyId) (failsAt world position error taken) = world := by
  cases position with
  | zero =>
      unfold finalWorld applyRetention
      rw [ask_bind_run]
      rfl
  | succ position =>
      cases position with
      | succ position => exact absurd reading (by omega)
      | zero =>
          let outside := failsAt world 1 error taken
          have served : outside.fate = .served := rfl
          change finalWorld (applyRetention now policyId) outside = outside.world
          cases found : outside.world.getPolicy policyId with
          | none => exact finalWorld_of_unknown found
          | some policy =>
              unfold finalWorld applyRetention
              rw [ask_bind_run, served]
              dsimp only
              rw [found]
              dsimp only
              rw [ask_bind_run]
              rfl

/-- A call that fails later leaves what has taken effect until then. -/
theorem applyRetention_fails_writing {world : World} {position : Nat} {error failure : BackupFailure} {taken : Bool}
    {after : Outside BackupFailure World} (found : world.getPolicy policyId = some policy)
    (ran : applyRetention now policyId (failsAt world (position + 2) error taken) = .error failure after) :
    position < ((expiredArtifacts policy now policyId world).flatMap (expiry policy)).length ∧
      after.world = applied (((expiredArtifacts policy now policyId world).flatMap (expiry policy)).take
        (position + if taken then 1 else 0)) world := by
  have reads : applyRetention now policyId (failsAt world (position + 2) error taken) =
      (inOrder ((expiredArtifacts policy now policyId world).flatMap (expiry policy)) >>= fun _ =>
        pure (expiredArtifacts policy now policyId world)) (failsAt world position error taken) :=
    applyRetention_reads rfl rfl found
  rw [reads, bind_run] at ran
  by_cases inside : position < ((expiredArtifacts policy now policyId world).flatMap (expiry policy)).length
  · rw [inOrder_failsAt _ world position error taken inside] at ran
    cases ran
    exact ⟨inside, rfl⟩
  · rw [inOrder_failsLater _ world position error taken (Nat.le_of_not_lt inside)] at ran
    exact absurd ran nofun

end Calls

/-! ## The verdict -/

/-- A number of calls is a number of artifacts and a rest for the next one. -/
theorem take_expiries (policy : BackupPolicy) (count rest : Nat) (expired : List BackupArtifact) :
    (expired.flatMap (expiry policy)).take (callsPerArtifact policy * count + rest) =
      (expired.take count).flatMap (expiry policy) ++ ((expired.drop count).flatMap (expiry policy)).take rest := by
  induction count generalizing expired with
  | zero => rw [Nat.mul_zero, Nat.zero_add, List.take_zero, List.flatMap_nil, List.nil_append, List.drop_zero]
  | succ count inductionHypothesis =>
      cases expired with
      | nil => simp
      | cons artifact expired =>
          have more : callsPerArtifact policy * (count + 1) + rest =
              (expiry policy artifact).length + (callsPerArtifact policy * count + rest) := by
            rw [length_expiry, Nat.mul_succ]
            omega
          rw [List.flatMap_cons, more, List.take_length_add_append, inductionHypothesis, List.take_succ_cons,
            List.flatMap_cons, List.drop_succ_cons, List.append_assoc]

theorem length_expiries (policy : BackupPolicy) (expired : List BackupArtifact) :
    (expired.flatMap (expiry policy)).length = callsPerArtifact policy * expired.length := by
  induction expired with
  | nil => rfl
  | cons artifact expired inductionHypothesis =>
      rw [List.flatMap_cons, List.length_append, length_expiry, inductionHypothesis, List.length_cons, Nat.mul_succ,
        Nat.add_comm]

theorem applied_append (first rest : List (World -> World)) (world : World) :
    applied (first ++ rest) world = applied rest (applied first world) :=
  List.foldl_append

section Verdict

variable {now : Moment} {policyId : Id} {policy : BackupPolicy} {world : World}

theorem nodup_expiredArtifacts (policy : BackupPolicy) (now : Moment) (policyId : Id) (world : World) :
    (identifiers (expiredArtifacts policy now policyId world)).Nodup :=
  (nodup_activeArtifacts policyId world).sublist ((Ranking.select_sublist _ _ _).map _)

theorem mem_of_expired {artifact : BackupArtifact} (listed : artifact ∈ expiredArtifacts policy now policyId world) :
    artifact ∈ world.artifacts ∧ artifact.status = .active :=
  mem_activeArtifacts ((Ranking.select_sublist _ _ _).subset listed)

/-- After whole artifacts, the next call picks from the others. -/
theorem expiredArtifacts_settle (count : Nat) :
    expiredArtifacts policy now policyId
        (settle policy.deleteExpired ((expiredArtifacts policy now policyId world).take count) world) =
      Ranking.select (isExpired policy now) 0
        (Ranking.without (isExpired policy now) count 0 (activeArtifacts policyId world)) := by
  unfold expiredArtifacts
  rw [activeArtifacts_settle]
  exact congrArg _ (Ranking.filter_eq_without BackupArtifact.artifactId count 0 (nodup_activeArtifacts policyId world))

theorem final_ne_active (delete : Bool) : (if delete then ArtifactStatus.deleted else .expired) ≠ .active := by
  cases delete <;> exact nofun

/-- The final status of what is processed. -/
theorem status_settled {delete : Bool} {done : List BackupArtifact} {row : BackupArtifact}
    (processed : row.artifactId ∈ identifiers done) :
    (settled delete done row).status = if delete then .deleted else .expired := by
  unfold settled
  rw [if_pos processed]

theorem settled_of_not_mem {delete : Bool} {done : List BackupArtifact} {row : BackupArtifact}
    (missed : row.artifactId ∉ identifiers done) : settled delete done row = row :=
  if_neg missed

/-- Two calls between whole artifacts end like one exactly when the second expires
the rest. -/
theorem resumes_between_iff (found : world.getPolicy policyId = some policy) (count : Nat) :
    Resumes now policyId world
        (settle policy.deleteExpired ((expiredArtifacts policy now policyId world).take count) world) <->
      Ranking.Stays (isExpired policy now) count 0 0 (activeArtifacts policyId world) := by
  let expired := expiredArtifacts policy now policyId world
  let middle := settle policy.deleteExpired (expired.take count) world
  let second := expiredArtifacts policy now policyId middle
  have again : retained now policyId middle = settle policy.deleteExpired (expired.take count ++ second) world := by
    have foundStill : middle.getPolicy policyId = some policy := found
    rw [retained_eq foundStill]
    exact settle_append _ _ _ _
  have once : retained now policyId world = settle policy.deleteExpired expired world := retained_eq found
  have growing := isExpired_growing policy now
  have stays := growing.select_without_iff count 0 0 (activeArtifacts policyId world)
  have shorter := growing.select_without_sublist count 0 0 (activeArtifacts policyId world)
  rw [← expiredArtifacts_settle] at stays shorter
  change second = expired.drop count <-> _ at stays
  change second.Sublist (expired.drop count) at shorter
  rw [← stays]
  unfold Resumes
  change (retained now policyId middle).artifacts = _ ∧ (retained now policyId middle).objects = _ <-> _
  rw [again, once]
  constructor
  · rintro ⟨sameRows, -⟩
    have rows := congrArg Table.rows sameRows
    have everywhere := List.map_inj_left.mp rows
    apply shorter.eq_of_length_le
    apply List.Subperm.length_le
    have distinct := nodup_expiredArtifacts policy now policyId world
    apply List.subperm_of_subset
    · exact (List.Nodup.of_map _ distinct).sublist (List.drop_sublist _ _)
    · intro artifact late
      have listed := List.mem_of_mem_drop late
      have stored := mem_of_expired listed
      have same := congrArg BackupArtifact.status (everywhere artifact stored.1)
      have single : artifact.artifactId ∈ identifiers expired := List.mem_map_of_mem listed
      rw [status_settled single] at same
      have processed : artifact.artifactId ∈ identifiers (expired.take count ++ second) := by
        by_contra missed
        rw [settled_of_not_mem missed, stored.2] at same
        exact final_ne_active policy.deleteExpired same.symm
      unfold identifiers at processed
      rw [List.map_append] at processed
      rcases List.mem_append.mp processed with early | picked
      · rcases List.mem_map.mp early with ⟨other, otherEarly, sameId⟩
        have split : (identifiers expired).Nodup := distinct
        unfold identifiers at split
        rw [← List.take_append_drop count expired, List.map_append] at split
        have apart := (List.nodup_append.mp split).2.2 _ (List.mem_map_of_mem otherEarly) _ (List.mem_map_of_mem late)
        exact absurd sameId apart
      · rcases List.mem_map.mp picked with ⟨other, otherPicked, sameId⟩
        have otherStored := (mem_of_expired (List.mem_of_mem_drop (shorter.subset otherPicked))).1
        rw [← Table.eq_of_key_eq otherStored stored.1 sameId]
        exact otherPicked
  · intro rest
    rw [rest, List.take_append_drop]
    exact ⟨rfl, rfl⟩

/-- An artifact that is marked expired and not deleted is not looked at again. -/
theorem not_resumes_of_marked (found : world.getPolicy policyId = some policy) (deletes : policy.deleteExpired = true)
    {artifact : BackupArtifact} (listed : artifact ∈ expiredArtifacts policy now policyId world)
    {done : List BackupArtifact} {after : World} (foundStill : after.getPolicy policyId = some policy)
    (rows : after.artifacts.rows = (world.artifacts.rows.map (settled true done)).map
      (World.marked artifact.artifactId .expired)) : ¬ Resumes now policyId world after := by
  rintro ⟨sameRows, -⟩
  rw [retained_eq found, retained_eq foundStill, deletes] at sameRows
  have lists := congrArg Table.rows sameRows
  change after.artifacts.rows.map _ = world.artifacts.rows.map _ at lists
  have stored := mem_of_expired listed
  let row := World.marked artifact.artifactId .expired (settled true done artifact)
  have rowId : row.artifactId = artifact.artifactId :=
    (World.artifactId_marked _ _ _).trans (artifactId_settled true done artifact)
  have rowStatus : row.status = .expired := by
    have own : (settled true done artifact).artifactId = artifact.artifactId := artifactId_settled true done artifact
    change (World.marked artifact.artifactId .expired (settled true done artifact)).status = .expired
    unfold World.marked
    rw [if_pos own]
  have rowStored : row ∈ after.artifacts := by
    change row ∈ after.artifacts.rows
    rw [rows]
    exact List.mem_map_of_mem (List.mem_map_of_mem stored.1)
  have missed : row.artifactId ∉ identifiers (expiredArtifacts policy now policyId after) := by
    intro picked
    rcases List.mem_map.mp picked with ⟨other, otherPicked, sameId⟩
    have otherStored := mem_of_expired otherPicked
    have same := Table.eq_of_key_eq otherStored.1 rowStored sameId
    rw [same, rowStatus] at otherStored
    exact absurd otherStored.2 nofun
  rw [rows, List.map_map, List.map_map] at lists
  have at_row := List.map_inj_left.mp lists artifact stored.1
  change settled true (expiredArtifacts policy now policyId after) row = _ at at_row
  rw [settled_of_not_mem missed] at at_row
  have status := congrArg BackupArtifact.status at_row
  rw [rowStatus, status_settled (List.mem_map_of_mem listed)] at status
  exact absurd status nofun

/-- A call that is interrupted within an artifact leaves it marked. -/
theorem not_resumes_within (found : world.getPolicy policyId = some policy) {count rest : Nat}
    (inside : count < (expiredArtifacts policy now policyId world).length) (within : rest ≠ 0)
    (short : rest < callsPerArtifact policy) :
    ¬ Resumes now policyId world
      (applied ((((expiredArtifacts policy now policyId world).drop count).flatMap (expiry policy)).take rest)
        (settle policy.deleteExpired ((expiredArtifacts policy now policyId world).take count) world)) := by
  unfold callsPerArtifact at short
  cases deletes : policy.deleteExpired with
  | false =>
      rw [deletes] at short
      exact absurd (Nat.lt_one_iff.mp short) within
  | true =>
      rw [deletes] at short
      cases behind : (expiredArtifacts policy now policyId world).drop count with
      | nil => exact absurd (List.drop_eq_nil_iff.mp behind) (Nat.not_le_of_lt inside)
      | cons artifact others =>
          have listed : artifact ∈ expiredArtifacts policy now policyId world :=
            List.mem_of_mem_drop (behind ▸ List.mem_cons_self)
          have calls : ((artifact :: others).flatMap (expiry policy)) =
              World.updateArtifactStatus artifact.artifactId .expired :: World.deleteObject artifact.storageKey ::
                World.updateArtifactStatus artifact.artifactId .deleted :: others.flatMap (expiry policy) := by
            rw [List.flatMap_cons]
            unfold expiry
            rw [deletes]
            rfl
          rw [calls]
          have cases_rest : rest = 1 ∨ rest = 2 := by
            rw [if_pos rfl] at short
            omega
          rcases cases_rest with rfl | rfl
          · exact not_resumes_of_marked found deletes listed found rfl
          · exact not_resumes_of_marked found deletes listed found rfl

end Verdict

/-- A second call makes good for the failure of the first exactly when the first was
interrupted between two artifacts and no artifact behind had expired by a position
that it has lost. -/
theorem retention_resumes_iff (now : Moment) (policyId : Id) (world : World) (position : Nat) (error : BackupFailure)
    (taken : Bool) (failure : BackupFailure) (after : Outside BackupFailure World)
    (ran : applyRetention now policyId (failsAt world position error taken) = .error failure after) :
    Resumes now policyId world after.world <-> PicksUp now policyId world position taken := by
  have final : finalWorld (applyRetention now policyId) (failsAt world position error taken) = after.world := by
    unfold finalWorld
    rw [ran]
  cases found : world.getPolicy policyId with
  | none =>
      have same : after.world = world := final.symm.trans (finalWorld_of_unknown found)
      rw [same]
      exact iff_of_true ⟨rfl, rfl⟩ fun policy known => absurd (found.symm.trans known) nofun
  | some policy =>
      by_cases reading : position < 2
      · have same : after.world = world := final.symm.trans (applyRetention_fails_reading reading)
        rw [same]
        exact iff_of_true ⟨rfl, rfl⟩ fun _ _ writing => absurd reading (Nat.not_lt_of_le writing)
      · rcases Nat.exists_eq_add_of_le (Nat.le_of_not_lt reading) with ⟨later, rfl⟩
        rw [Nat.add_comm] at ran
        rcases applyRetention_fails_writing found ran with ⟨inside, left⟩
        let expired := expiredArtifacts policy now policyId world
        let calls := callsPerArtifact policy
        have positive : 0 < calls := by
          change 0 < callsPerArtifact policy
          unfold callsPerArtifact
          cases policy.deleteExpired <;> decide
        have count_eq : effective (2 + later) taken = later + if taken then 1 else 0 := by
          unfold effective
          rw [Nat.add_sub_cancel_left]
        have condition : PicksUp now policyId world (2 + later) taken <->
            calls ∣ effective (2 + later) taken ∧
              Ranking.Stays (isExpired policy now) (effective (2 + later) taken / calls) 0 0
                (activeArtifacts policyId world) := by
          constructor
          · exact fun holds => holds policy found (Nat.le_add_right 2 later)
          · intro holds other known _
            rw [found] at known
            cases known
            exact holds
        rw [condition, count_eq, left]
        have divided := Nat.div_add_mod (later + if taken then 1 else 0) calls
        rw [← divided, take_expiries, applied_append, applied_expiries, divided]
        by_cases whole : (later + if taken then 1 else 0) % calls = 0
        · rw [whole, List.take_zero]
          rw [and_iff_right (Nat.dvd_of_mod_eq_zero whole)]
          exact resumes_between_iff found _
        · apply iff_of_false
          · apply not_resumes_within found _ whole (Nat.mod_lt _ positive)
            rw [length_expiries] at inside
            have bound : later + (if taken then 1 else 0) ≤ calls * expired.length := by
              cases taken
              · exact Nat.le_of_lt inside
              · exact inside
            apply Nat.lt_of_mul_lt_mul_left (a := calls)
            have some_left : calls * ((later + if taken then 1 else 0) / calls) <
                calls * ((later + if taken then 1 else 0) / calls) + (later + if taken then 1 else 0) % calls :=
              Nat.lt_add_of_pos_right (Nat.pos_of_ne_zero whole)
            exact Nat.lt_of_lt_of_le (Nat.lt_of_lt_of_eq some_left divided) bound
          · exact fun holds => whole (Nat.mod_eq_zero_of_dvd holds.1)

/-! ## One expired artifact -/

namespace Scenario

/-- The artifact of a run. -/
def artifact (id : Id) : BackupArtifact where
  artifactId := id
  runId := id
  policyId := 1
  targetSystem := .postgres
  targetName := "market".toList
  storageKey := "backups/postgres/market/".toList ++ uuidText id ++ ".dump".toList
  uri := "s3://backups/".toList ++ uuidText id
  sizeBytes := 1
  checksumSha256 := []
  encryptionKeyRef := none
  status := .active
  createdAt := id
  expiresAt := none

/-- Two artifacts of the policy. -/
def kept (deleteExpired : Bool) : World where
  policies := { rows := [policy deleteExpired], unique := List.nodup_singleton _ }
  runs := Table.empty
  artifacts := { rows := [artifact 1, artifact 2], unique := by decide }
  restores := Table.empty
  objects := Table.empty
  files := Table.empty

end Scenario

/-- Where objects are not deleted, a call that fails at its first mark can be
repeated. -/
theorem retention_resumes_without_deletion :
    Exists fun after => applyRetention 10 1 (failsAt (Scenario.kept false) 2 Scenario.unreachable false) =
      .error Scenario.unreachable after ∧ Resumes 10 1 (Scenario.kept false) after.world := by
  refine ⟨_, rfl, (retention_resumes_iff 10 1 (Scenario.kept false) 2 Scenario.unreachable false _ _ rfl).mpr ?_⟩
  intro policy found _
  refine ⟨Nat.dvd_zero _, fun index item listed expired _ => ?_⟩
  have nothing : effective 2 false / callsPerArtifact policy = 0 := Nat.zero_div _
  rw [Nat.add_zero] at expired
  rw [nothing]
  exact expired

/-- Where they are, the object of an artifact whose deletion fails is never deleted. -/
theorem interrupted_deletion_is_not_resumed :
    ¬ forall (now : Moment) (policyId : Id) (world : World) (position : Nat) (error : BackupFailure) (taken : Bool)
      (failure : BackupFailure) (after : Outside BackupFailure World),
      applyRetention now policyId (failsAt world position error taken) = .error failure after ->
        Resumes now policyId world after.world := by
  intro resumes
  have same := resumes 10 1 (Scenario.kept true) 3 Scenario.unreachable false _ _ rfl
  have statuses := congrArg (fun table : Table BackupArtifact.artifactId => table.rows.map BackupArtifact.status) same.1
  exact absurd statuses (by decide)

end Backup
end ApexQuant
