import ApexQuant.Flags.Registry

namespace ApexQuant
namespace Flags

open Foundation

/-!
# The flag reconciler

`FlagReconciler.run_once` repairs the Redis cache from Postgres and then retires
the flags that nobody evaluates.  The cache is what Redis holds under every key.
What the reconciler reads there is a decoded JSON value, and two values are one
here when Python's `==` holds between them.

The repository that the reconciler talks to is a parameter: the condition of its
review query, what `force_retire` makes of a row, and which rows the driver
returns in a form that `json.dumps` accepts.
-/

/-- A decoded JSON value.  A boolean is the number it is equal to. -/
inductive Json where
  | null
  | number (value : Rat)
  | notFinite
  | text (value : Text)
  | array (items : List Json)
  | object (fields : List (Text × Json))

/-- A decoded JSON object. -/
abbrev Document := Text -> Option Json

/-- What Redis can hold under a key.  Reading a malformed entry raises. -/
inductive CacheEntry where
  | malformed
  | null
  | document (fields : Document)

abbrev Redis := Text -> Option CacheEntry

/-- `_redis_key`. -/
def redisKey (flagKey : Text) : Text :=
  "apex:flags:".toList ++ flagKey

theorem redisKey_injective : Function.Injective redisKey :=
  List.append_right_injective _

def FlagType.value : FlagType -> Text
  | .boolean => "BOOLEAN".toList
  | .percentage => "PERCENTAGE".toList
  | .allowlist => "ALLOWLIST".toList
  | .denylist => "DENYLIST".toList

def FlagClass.value : FlagClass -> Text
  | .safetyCritical => "SAFETY_CRITICAL".toList
  | .tradingBehavior => "TRADING_BEHAVIOR".toList
  | .standard => "STANDARD".toList

def FlagStatus.value : FlagStatus -> Text
  | .draft => "DRAFT".toList
  | .active => "ACTIVE".toList
  | .disabled => "DISABLED".toList
  | .retired => "RETIRED".toList

namespace Json

def ofInt (value : Int) : Json :=
  .number value

def ofBool (value : Bool) : Json :=
  .number (if value then 1 else 0)

def ofTexts (values : List Text) : Json :=
  .array (values.map .text)

def ofOption {A : Type} (convert : A -> Json) : Option A -> Json
  | none => .null
  | some value => convert value

end Json

/-- The repository and the clock of the database. -/
structure FlagRepository where
  /-- The condition of `list_flags_pending_review`. -/
  pendingReview : (now : Int) -> FlagRow -> Bool
  /-- What `force_retire` makes of a row. -/
  retired : FlagRow -> FlagRow
  /-- Whether `json.dumps` accepts the row as `list_active_flags` returns it. -/
  serializable : FlagRow -> Bool
  /-- How a timestamp of a row reads in a document. -/
  timestamp : Int -> Json
  retired_key : forall row, (retired row).flagKey = row.flagKey
  retired_status : forall row, (retired row).status = .retired
  retired_generation : forall row, row.generation < (retired row).generation

variable (repository : FlagRepository)

/-- The columns of a row as the repository returns them. -/
def FlagRow.fields (row : FlagRow) : List (Text × Json) :=
  [("generation".toList, .ofInt row.generation),
   ("flag_key".toList, .text row.flagKey),
   ("description".toList, .text row.description),
   ("owner".toList, .text row.owner),
   ("flag_type".toList, .text row.flagType.value),
   ("flag_class".toList, .text row.flagClass.value),
   ("status".toList, .text row.status.value),
   ("bool_value".toList, .ofOption .ofBool row.boolValue),
   ("rollout_bps".toList, .ofInt row.rolloutBps),
   ("allowlist".toList, .ofTexts row.allowlist),
   ("denylist".toList, .ofTexts row.denylist),
   ("environments".toList, .ofTexts row.environments),
   ("fail_value".toList, .ofBool row.failValue),
   ("review_at".toList, repository.timestamp row.reviewAt),
   ("expires_at".toList, .ofOption repository.timestamp row.expiresAt),
   ("last_evaluated_at".toList, .ofOption repository.timestamp row.lastEvaluatedAt),
   ("required_authority".toList, .text row.requiredAuthority),
   ("created_at".toList, repository.timestamp row.createdAt),
   ("updated_at".toList, repository.timestamp row.updatedAt)]

/-- The cached form of a row. -/
def FlagRow.document (row : FlagRow) : Document :=
  fun field => (row.fields repository).lookup field

/-- `cached.get("generation") == generation`. -/
def Document.generationIs (cached : Document) (generation : Int) : Bool :=
  match cached "generation".toList with
  | some (.number value) => decide (value = generation)
  | _ => false

theorem generationIs_document (row : FlagRow) (generation : Int) :
    (row.document repository).generationIs generation = decide (row.generation = generation) := by
  have read : row.document repository "generation".toList = some (.number row.generation) := rfl
  rw [Document.generationIs, read]
  simp only [Int.cast_inj]

/-! ## `run_once` -/

def ZOMBIE_EVAL_GAP_SECONDS : Int := 7 * 24 * 3600

structure ReconciliationReport where
  driftFlags : List Text := []
  repaired : List Text := []
  zombieFlags : List Text := []
  forcedRetirements : List Text := []

inductive Alert where
  | flagCacheDrift (flagKey : Text) (generation : Int)
  | zombieFlagForcedRetirement (flagKey : Text) (reviewAt : Int)

/-- What a run works on: the two stores, its report and the alerts it has sent. -/
structure Reconciling where
  flags : FlagTable
  redis : Redis
  report : ReconciliationReport := {}
  alerts : List Alert := []

inductive ReconcileError where
  | malformedEntry
  | notSerializable
  deriving DecidableEq

/-- `_redis_get`. -/
def redisGet (redis : Redis) (flagKey : Text) : Except ReconcileError (Option Document) :=
  match redis (redisKey flagKey) with
  | none => .ok none
  | some .null => .ok none
  | some .malformed => .error .malformedEntry
  | some (.document fields) => .ok (some fields)

/-- `_redis_put`. -/
def redisPut (redis : Redis) (flag : FlagRow) : Except ReconcileError Redis :=
  if repository.serializable flag then
    .ok (Function.update redis (redisKey flag.flagKey) (some (.document (flag.document repository))))
  else .error .notSerializable

/-- `cached is None or cached.get("generation") != flag["generation"]`. -/
def drifted (cached : Option Document) (flag : FlagRow) : Bool :=
  match cached with
  | none => true
  | some fields => !fields.generationIs flag.generation

/-- One pass of the drift loop. -/
def repairDrift (run : Reconciling) (flag : FlagRow) : Except ReconcileError Reconciling := do
  let cached ← redisGet run.redis flag.flagKey
  if drifted cached flag then
    let redis ← redisPut repository run.redis flag
    return { run with
        redis := redis
        report :=
          { run.report with
            driftFlags := run.report.driftFlags ++ [flag.flagKey]
            repaired := run.report.repaired ++ [flag.flagKey] }
        alerts := run.alerts ++ [.flagCacheDrift flag.flagKey flag.generation] }
  else return run

/-- The test of the sweep: past review, and without a recent evaluation. -/
def isZombie (now : Int) (flag : FlagRow) : Bool :=
  decide (flag.reviewAt ≤ now) &&
    match flag.lastEvaluatedAt with
    | none => true
    | some lastEval => decide (ZOMBIE_EVAL_GAP_SECONDS * 1000000 < now - lastEval)

/-- `force_retire`. -/
def forceRetire (flags : FlagTable) (flagKey : Text) : FlagTable :=
  flags.update (fun row => if row.flagKey = flagKey then repository.retired row else row) fun row => by
    split
    · exact repository.retired_key row
    · rfl

/-- One pass of the zombie loop. -/
def sweepZombie (now : Int) (run : Reconciling) (flag : FlagRow) : Reconciling :=
  if isZombie now flag then
    { run with
      flags := forceRetire repository run.flags flag.flagKey
      report :=
        { run.report with
          zombieFlags := run.report.zombieFlags ++ [flag.flagKey]
          forcedRetirements := run.report.forcedRetirements ++ [flag.flagKey] }
      alerts := run.alerts ++ [.zombieFlagForcedRetirement flag.flagKey flag.reviewAt] }
  else run

/-- `list_active_flags`. -/
def listActiveFlags (flags : FlagTable) : FlagTable :=
  flags.filter fun row => decide (row.status = .active)

/-- `FlagReconciler.run_once`. -/
def runOnce (now : Int) (flags : FlagTable) (redis : Redis) : Except ReconcileError Reconciling := do
  let repaired ← (listActiveFlags flags).rows.foldlM (repairDrift repository) { flags := flags, redis := redis }
  return (repaired.flags.filter (repository.pendingReview now)).rows.foldl (sweepZombie repository now) repaired

/-! ## What a run leaves -/

/-- The entry that the drift loop leaves for an active flag. -/
def repairedEntry (flag : FlagRow) (entry : Option CacheEntry) : CacheEntry :=
  match entry with
  | some (.document fields) =>
      if fields.generationIs flag.generation then .document fields else .document (flag.document repository)
  | _ => .document (flag.document repository)

/-- One accepted pass writes the flag's entry and nothing else. -/
theorem repairDrift_spec {run after : Reconciling} {flag : FlagRow}
    (accepted : repairDrift repository run flag = .ok after) :
    after.flags = run.flags ∧
      after.redis = Function.update run.redis (redisKey flag.flagKey)
        (some (repairedEntry repository flag (run.redis (redisKey flag.flagKey)))) := by
  rcases Run.ok_of_bind accepted with ⟨cached, got, rest⟩
  split at rest
  · rename_i drifts
    rcases Run.ok_of_bind rest with ⟨redis, put, returned⟩
    rw [← Except.ok.inj returned]
    refine ⟨rfl, ?_⟩
    unfold redisPut at put
    split at put
    · rw [← Except.ok.inj put]
      unfold redisGet at got
      cases held : run.redis (redisKey flag.flagKey) with
      | none => rfl
      | some entry =>
          cases entry with
          | null => rfl
          | malformed => rw [held] at got; exact absurd got nofun
          | document fields =>
              rw [held] at got
              rw [← Except.ok.inj got, drifted, Bool.not_eq_true'] at drifts
              rw [repairedEntry, drifts]
              rfl
    · exact absurd put nofun
  · rename_i settled
    rw [← Except.ok.inj rest]
    refine ⟨rfl, ?_⟩
    unfold redisGet at got
    cases held : run.redis (redisKey flag.flagKey) with
    | none => rw [held] at got; rw [← Except.ok.inj got] at settled; exact absurd rfl settled
    | some entry =>
        cases entry with
        | null => rw [held] at got; rw [← Except.ok.inj got] at settled; exact absurd rfl settled
        | malformed => rw [held] at got; exact absurd got nofun
        | document fields =>
            rw [held] at got
            rw [← Except.ok.inj got, drifted, Bool.not_eq_true', Bool.not_eq_false] at settled
            rw [repairedEntry, if_pos settled, ← held, Function.update_eq_self]

/-- The drift loop over flags with different keys. -/
theorem repairDrift_loop {flags : List FlagRow} (unique : (flags.map FlagRow.flagKey).Nodup) {run after : Reconciling}
    (accepted : flags.foldlM (repairDrift repository) run = .ok after) :
    after.flags = run.flags ∧
      (forall flag, flag ∈ flags -> after.redis (redisKey flag.flagKey) =
        some (repairedEntry repository flag (run.redis (redisKey flag.flagKey)))) ∧
      (forall flagKey, flagKey ∉ flags.map FlagRow.flagKey ->
        after.redis (redisKey flagKey) = run.redis (redisKey flagKey)) := by
  induction flags generalizing run with
  | nil =>
      rw [List.foldlM_nil] at accepted
      rw [← Except.ok.inj accepted]
      exact ⟨rfl, fun _ member => absurd member List.not_mem_nil, fun _ _ => rfl⟩
  | cons head tail inductionHypothesis =>
      rw [List.foldlM_cons] at accepted
      rw [List.map_cons, List.nodup_cons] at unique
      rcases Run.ok_of_bind accepted with ⟨middle, passed, rest⟩
      rcases repairDrift_spec repository passed with ⟨sameFlags, written⟩
      rcases inductionHypothesis unique.2 rest with ⟨laterFlags, repaired, untouched⟩
      have elsewhere : forall flagKey, flagKey ≠ head.flagKey ->
          middle.redis (redisKey flagKey) = run.redis (redisKey flagKey) := by
        intro flagKey different
        rw [written, Function.update_of_ne (redisKey_injective.ne different)]
      refine ⟨laterFlags.trans sameFlags, ?_, ?_⟩
      · intro flag member
        rcases List.mem_cons.mp member with rfl | later
        · rw [untouched flag.flagKey unique.1, written, Function.update_self]
        · have different : flag.flagKey ≠ head.flagKey :=
            fun same => unique.1 (same ▸ List.mem_map_of_mem later)
          rw [repaired flag later, elsewhere flag.flagKey different]
      · intro flagKey fresh
        rcases not_or.mp (fun known => fresh (List.mem_cons.mpr known)) with ⟨different, absent⟩
        rw [untouched flagKey absent, elsewhere flagKey different]

/-- The row that the sweep leaves in the place of a row. -/
def sweptRow (now : Int) (row : FlagRow) : FlagRow :=
  if repository.pendingReview now row && isZombie now row then repository.retired row else row

theorem sweptRow_key (now : Int) (row : FlagRow) : (sweptRow repository now row).flagKey = row.flagKey := by
  unfold sweptRow
  split
  · exact repository.retired_key row
  · rfl

/-- The sweep leaves Redis alone and retires each zombie of its list. -/
theorem sweepZombie_loop (now : Int) {flags : List FlagRow} (unique : (flags.map FlagRow.flagKey).Nodup)
    (run : Reconciling) :
    (flags.foldl (sweepZombie repository now) run).redis = run.redis ∧
      (flags.foldl (sweepZombie repository now) run).flags.rows = run.flags.rows.map fun row =>
        if row.flagKey ∈ (flags.filter (isZombie now)).map FlagRow.flagKey then repository.retired row else row := by
  induction flags generalizing run with
  | nil => exact ⟨rfl, (List.map_id' _).symm⟩
  | cons head tail inductionHypothesis =>
      rw [List.map_cons, List.nodup_cons] at unique
      rcases inductionHypothesis unique.2 (sweepZombie repository now run head) with ⟨sameRedis, rows⟩
      rw [List.foldl_cons, sameRedis, rows]
      unfold sweepZombie
      by_cases zombie : isZombie now head = true
      · rw [if_pos zombie]
        refine ⟨rfl, ?_⟩
        change (run.flags.rows.map _).map _ = _
        rw [List.map_map]
        apply List.map_congr_left
        intro row _
        have absent : head.flagKey ∉ (tail.filter (isZombie now)).map FlagRow.flagKey :=
          fun known => unique.1 ((List.filter_sublist.map FlagRow.flagKey).subset known)
        rw [List.filter_cons_of_pos zombie, List.map_cons]
        by_cases same : row.flagKey = head.flagKey
        · simp only [Function.comp_apply, same, if_true, List.mem_cons, true_or, repository.retired_key, absent,
            if_false]
        · simp only [Function.comp_apply, same, if_false, List.mem_cons, false_or]
      · rw [if_neg zombie, List.filter_cons_of_neg zombie]
        exact ⟨rfl, rfl⟩

theorem mem_zombie_keys_iff (now : Int) {flags : FlagTable} {row : FlagRow} (member : row ∈ flags) :
    row.flagKey ∈ ((flags.filter (repository.pendingReview now)).rows.filter (isZombie now)).map FlagRow.flagKey <->
      (repository.pendingReview now row && isZombie now row) = true := by
  rw [List.mem_map, Bool.and_eq_true]
  constructor
  · rintro ⟨other, listed, same⟩
    rcases List.mem_filter.mp listed with ⟨pending, zombie⟩
    rcases Table.mem_filter.mp pending with ⟨stored, selected⟩
    have equal : other = row := Table.eq_of_key_eq stored member same
    exact equal ▸ ⟨selected, zombie⟩
  · rintro ⟨selected, zombie⟩
    exact ⟨row, List.mem_filter.mpr ⟨Table.mem_filter.mpr ⟨member, selected⟩, zombie⟩, rfl⟩

/-- What a run that returns leaves in the two stores. -/
theorem runOnce_spec {now : Int} {flags : FlagTable} {redis : Redis} {after : Reconciling}
    (returned : runOnce repository now flags redis = .ok after) :
    after.flags.rows = flags.rows.map (sweptRow repository now) ∧
      (forall row, row ∈ flags -> row.status = .active -> after.redis (redisKey row.flagKey) =
        some (repairedEntry repository row (redis (redisKey row.flagKey)))) ∧
      (forall flagKey, (forall row, row ∈ flags -> row.status = .active -> row.flagKey ≠ flagKey) ->
        after.redis (redisKey flagKey) = redis (redisKey flagKey)) := by
  rcases Run.ok_of_bind returned with ⟨repaired, loop, rest⟩
  rcases repairDrift_loop repository (listActiveFlags flags).unique loop with ⟨sameFlags, written, untouched⟩
  obtain ⟨sameRedis, swept⟩ :=
    sweepZombie_loop repository now (repaired.flags.filter (repository.pendingReview now)).unique repaired
  rw [← Except.ok.inj rest, sameRedis, swept, sameFlags]
  refine ⟨?_, ?_, ?_⟩
  · apply List.map_congr_left
    intro row member
    simp only [mem_zombie_keys_iff repository now member]
    rfl
  · intro row member active
    exact written row (Table.mem_filter.mpr ⟨member, decide_eq_true active⟩)
  · intro flagKey inactive
    apply untouched
    intro listed
    rcases List.mem_map.mp listed with ⟨row, member, same⟩
    rcases Table.mem_filter.mp member with ⟨stored, active⟩
    exact inactive row stored (of_decide_eq_true active) same

/-! ## Convergence -/

/-- Every cached flag key holds its row, and every active flag is cached. -/
structure Converged (flags : FlagTable) (redis : Redis) : Prop where
  agrees : forall flagKey entry, redis (redisKey flagKey) = some entry ->
    Exists fun row => row ∈ flags ∧ row.flagKey = flagKey ∧ entry = .document (row.document repository)
  cached : forall row, row ∈ flags -> row.status = .active -> (redis (redisKey row.flagKey)).isSome = true

/-- An active row that the sweep leaves active and that is not cached with its own
generation and other content, or another row that is cached, if at all, as the
sweep leaves it. -/
def SettledRow (now : Int) (redis : Redis) (row : FlagRow) : Prop :=
  if row.status = .active then
    (repository.pendingReview now row && isZombie now row) = false ∧
      forall fields, redis (redisKey row.flagKey) = some (.document fields) ->
        fields.generationIs row.generation = true -> fields = row.document repository
  else
    forall entry, redis (redisKey row.flagKey) = some entry ->
      entry = .document ((sweptRow repository now row).document repository)

/-- Every row is settled, and no other key is cached. -/
structure Settled (now : Int) (flags : FlagTable) (redis : Redis) : Prop where
  rows : forall row, row ∈ flags -> SettledRow repository now redis row
  owned : forall flagKey entry, redis (redisKey flagKey) = some entry ->
    Exists fun row => row ∈ flags ∧ row.flagKey = flagKey

theorem generation_of_document_eq {left right : FlagRow} (same : left.document repository = right.document repository) :
    left.generation = right.generation := by
  have read := generationIs_document repository left right.generation
  rw [same, generationIs_document, decide_eq_true rfl] at read
  exact of_decide_eq_true read.symm

/-- The repaired entry of a row is the row unless it was cached with the row's
generation and other content. -/
theorem repairedEntry_eq_iff (row : FlagRow) (entry : Option CacheEntry) :
    repairedEntry repository row entry = .document (row.document repository) <->
      forall fields, entry = some (.document fields) -> fields.generationIs row.generation = true ->
        fields = row.document repository := by
  unfold repairedEntry
  split
  · rename_i fields
    by_cases same : fields.generationIs row.generation = true
    · rw [if_pos same, CacheEntry.document.injEq]
      constructor
      · rintro equal _ ⟨⟩ _
        exact equal
      · intro only
        exact only fields rfl same
    · rw [if_neg same]
      refine ⟨fun _ => ?_, fun _ => rfl⟩
      rintro _ ⟨⟩ known
      exact absurd known same
  · rename_i other
    exact ⟨fun _ fields held => absurd held (other fields), fun _ => rfl⟩

/-- An entry that the drift loop leaves never shows a later generation. -/
theorem repairedEntry_ne_of_generation_lt {row later : FlagRow} (entry : Option CacheEntry)
    (newer : row.generation < later.generation) :
    repairedEntry repository row entry ≠ .document (later.document repository) := by
  have differs : forall fields : Document, fields.generationIs row.generation = true ->
      fields ≠ later.document repository := by
    rintro fields same rfl
    rw [generationIs_document] at same
    exact absurd (of_decide_eq_true same) (ne_of_gt newer)
  have own : (row.document repository).generationIs row.generation = true := by
    rw [generationIs_document, decide_eq_true rfl]
  unfold repairedEntry
  split
  · split
    · rename_i same
      exact fun equal => differs _ same (CacheEntry.document.inj equal)
    · exact fun equal => differs _ own (CacheEntry.document.inj equal)
  · exact fun equal => differs _ own (CacheEntry.document.inj equal)

/-- The two laws for one row, in terms of what the run found. -/
theorem row_converges_iff {now : Int} {flags : FlagTable} {redis : Redis} {after : Reconciling}
    (returned : runOnce repository now flags redis = .ok after) {row : FlagRow} (member : row ∈ flags) :
    ((forall entry, after.redis (redisKey row.flagKey) = some entry ->
        entry = .document ((sweptRow repository now row).document repository)) ∧
      ((sweptRow repository now row).status = .active -> (after.redis (redisKey row.flagKey)).isSome = true)) <->
      SettledRow repository now redis row := by
  rcases runOnce_spec repository returned with ⟨-, written, untouched⟩
  unfold SettledRow
  by_cases active : row.status = .active
  · rw [if_pos active, written row member active]
    cases zombie : repository.pendingReview now row && isZombie now row with
    | true =>
        have swept : sweptRow repository now row = repository.retired row := if_pos zombie
        rw [swept]
        constructor
        · intro holds
          exact absurd (holds.1 _ rfl)
            (repairedEntry_ne_of_generation_lt repository _ (repository.retired_generation row))
        · exact fun settled => absurd settled.1 Bool.true_eq_false_eq_False
    | false =>
        have swept : sweptRow repository now row = row := if_neg (Bool.eq_false_iff.mp zombie)
        rw [swept, ← repairedEntry_eq_iff]
        constructor
        · exact fun holds => ⟨rfl, holds.1 _ rfl⟩
        · rintro ⟨-, equal⟩
          exact ⟨fun entry held => Option.some.inj held ▸ equal, fun _ => rfl⟩
  · have inactive : forall other, other ∈ flags -> other.status = .active -> other.flagKey ≠ row.flagKey := by
      intro other stored running same
      exact active (Table.eq_of_key_eq stored member same ▸ running)
    have stays : (sweptRow repository now row).status ≠ .active := by
      unfold sweptRow
      split
      · rw [repository.retired_status row]
        exact nofun
      · exact active
    rw [if_neg active, untouched row.flagKey inactive]
    exact ⟨fun holds => holds.1, fun settled => ⟨settled, fun running => absurd running stays⟩⟩

/-- A run of the reconciler that returns leaves Redis and Postgres in agreement
exactly when every row was settled and no foreign key was cached. -/
theorem runOnce_converges_iff {now : Int} {flags : FlagTable} {redis : Redis} {after : Reconciling}
    (returned : runOnce repository now flags redis = .ok after) :
    Converged repository after.flags after.redis <-> Settled repository now flags redis := by
  rcases runOnce_spec repository returned with ⟨rows, -, untouched⟩
  have member_after : forall row, row ∈ after.flags <->
      Exists fun old => old ∈ flags ∧ sweptRow repository now old = row := by
    intro row
    change row ∈ after.flags.rows <-> _
    rw [rows]
    exact List.mem_map
  constructor
  · intro converged
    refine ⟨?_, ?_⟩
    · intro row member
      refine (row_converges_iff repository returned member).mp ⟨?_, ?_⟩
      · intro entry held
        rcases converged.agrees row.flagKey entry held with ⟨later, stored, same, equal⟩
        rcases (member_after later).mp stored with ⟨old, known, rfl⟩
        rw [sweptRow_key] at same
        exact Table.eq_of_key_eq known member same ▸ equal
      · intro running
        have cached := converged.cached _ ((member_after _).mpr ⟨row, member, rfl⟩) running
        rwa [sweptRow_key] at cached
    · intro flagKey entry held
      by_contra foreign
      have inactive : forall row, row ∈ flags -> row.status = .active -> row.flagKey ≠ flagKey :=
        fun row member _ same => foreign ⟨row, member, same⟩
      rw [← untouched flagKey inactive] at held
      rcases converged.agrees flagKey entry held with ⟨later, stored, same, -⟩
      rcases (member_after later).mp stored with ⟨old, known, rfl⟩
      exact foreign ⟨old, known, (sweptRow_key repository now old).symm.trans same⟩
  · intro settled
    refine ⟨?_, ?_⟩
    · intro flagKey entry held
      have owned : Exists fun row => row ∈ flags ∧ row.flagKey = flagKey := by
        by_contra foreign
        have inactive : forall row, row ∈ flags -> row.status = .active -> row.flagKey ≠ flagKey :=
          fun row member _ same => foreign ⟨row, member, same⟩
        rw [untouched flagKey inactive] at held
        exact foreign (settled.owned flagKey entry held)
      rcases owned with ⟨row, member, rfl⟩
      have agrees := ((row_converges_iff repository returned member).mpr (settled.rows row member)).1 entry held
      exact ⟨sweptRow repository now row, (member_after _).mpr ⟨row, member, rfl⟩,
        sweptRow_key repository now row, agrees⟩
    · intro later stored running
      rcases (member_after later).mp stored with ⟨row, member, rfl⟩
      rw [sweptRow_key]
      exact ((row_converges_iff repository returned member).mpr (settled.rows row member)).2 running

/-- A repository whose review query asks for `review_at` only. -/
def plainRepository : FlagRepository where
  pendingReview := fun now row => decide (row.reviewAt ≤ now)
  retired := fun row => { row with status := .retired, generation := row.generation + 1 }
  serializable := fun _ => true
  timestamp := .ofInt
  retired_key := fun _ => rfl
  retired_status := fun _ => rfl
  retired_generation := fun row => Int.lt_succ row.generation

/-- A table with one flag. -/
def singleFlag (row : FlagRow) : FlagTable where
  rows := [row]
  unique := List.nodup_singleton _

def liveFlag : FlagRow :=
  { haltFlag with status := .active, generation := 2 }

def disabledFlag : FlagRow :=
  { haltFlag with status := .disabled, generation := 3 }

theorem runOnce_fills_empty_cache :
    Exists fun after => runOnce plainRepository 0 (singleFlag liveFlag) (fun _ => none) = .ok after ∧
      Converged plainRepository after.flags after.redis := by
  obtain ⟨after, returned⟩ : Exists fun after =>
    runOnce plainRepository 0 (singleFlag liveFlag) (fun _ => none) = .ok after := ⟨_, rfl⟩
  refine ⟨after, returned, (runOnce_converges_iff plainRepository returned).mpr ⟨?_, fun _ _ => nofun⟩⟩
  intro row member
  rcases List.mem_singleton.mp member with rfl
  exact ⟨rfl, fun _ => nofun⟩

/-- The cache of a flag that has since been disabled. -/
def staleCache : Redis :=
  Function.update (fun _ => none) (redisKey haltFlag.flagKey) (some (.document (liveFlag.document plainRepository)))

/-- A disabled flag keeps its entry as an active flag. -/
theorem disabled_flag_stays_cached :
    Exists fun after => runOnce plainRepository 0 (singleFlag disabledFlag) staleCache = .ok after ∧
      ¬ Converged plainRepository after.flags after.redis := by
  obtain ⟨after, returned⟩ : Exists fun after =>
    runOnce plainRepository 0 (singleFlag disabledFlag) staleCache = .ok after := ⟨_, rfl⟩
  rcases runOnce_spec plainRepository returned with ⟨rows, -, untouched⟩
  refine ⟨after, returned, ?_⟩
  intro converged
  have kept : after.redis (redisKey haltFlag.flagKey) = some (.document (liveFlag.document plainRepository)) := by
    rw [untouched haltFlag.flagKey, staleCache, Function.update_self]
    intro row member active
    rcases List.mem_singleton.mp member with rfl
    exact absurd active (by decide)
  rcases converged.agrees haltFlag.flagKey _ kept with ⟨row, member, -, equal⟩
  change row ∈ after.flags.rows at member
  rw [rows] at member
  rcases List.mem_singleton.mp member with rfl
  have same := generation_of_document_eq plainRepository (CacheEntry.document.inj equal)
  exact absurd same (by decide)

end Flags
end ApexQuant
