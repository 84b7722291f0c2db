import ApexQuant.Flags.Engine

namespace ApexQuant
namespace Flags

/-!
# Cross-language conformance of flag evaluation

The two evaluators walk one precedence ladder.  `Exit` names the rung on which a
walk stops and `ladder` computes it; each evaluator is then the ladder followed
by its own way of reporting the rung.  What the languages share and where they
differ is read off the two reports: the verdicts agree on every rung, while the
reason strings agree exactly on the rungs that fall back to `fail_value`.
-/

/-- The rungs of the precedence ladder, with the verdict where a rung has two. -/
inductive Exit where
  | retired
  | disabled
  | draft
  | environmentNotTargeted
  | expired
  | denylisted
  | allowlisted
  | boolean (value : Bool)
  | notInAllowlist
  | notInDenylist
  | missingBucketingEntity
  | percentage (inside : Bool)
  deriving DecidableEq, Repr

namespace Exit

/-- How the crate reports a rung. -/
def toRust : Exit -> Rust.EvaluationOutcome
  | .retired => .useFailValue "retired"
  | .disabled => .useFailValue "disabled"
  | .draft => .useFailValue "draft"
  | .environmentNotTargeted => .useFailValue "environment_not_targeted"
  | .expired => .useFailValue "expired"
  | .denylisted => .disabled
  | .allowlisted => .enabled
  | .boolean value => if value then .enabled else .disabled
  | .notInAllowlist => .disabled
  | .notInDenylist => .enabled
  | .missingBucketingEntity => .useFailValue "missing_bucketing_entity"
  | .percentage inside => if inside then .enabled else .disabled

/-- How the package reports a rung. -/
def toPython : Exit -> Python.EvaluationOutcome
  | .retired => Python.fail "retired"
  | .disabled => Python.fail "disabled"
  | .draft => Python.fail "draft"
  | .environmentNotTargeted => Python.fail "environment_not_targeted"
  | .expired => Python.fail "expired"
  | .denylisted => { kind := .disabled, reason := "denylisted" }
  | .allowlisted => { kind := .enabled, reason := "allowlisted" }
  | .boolean value => { kind := if value then .enabled else .disabled, reason := "boolean" }
  | .notInAllowlist => { kind := .disabled, reason := "not_in_allowlist" }
  | .notInDenylist => { kind := .enabled, reason := "not_in_denylist" }
  | .missingBucketingEntity => Python.fail "missing_bucketing_entity"
  | .percentage inside => { kind := if inside then .enabled else .disabled, reason := "percentage" }

/-- The rungs that resolve to the flag's `fail_value`. -/
def fallsBack : Exit -> Bool
  | .retired | .disabled | .draft | .environmentNotTargeted | .expired | .missingBucketingEntity => true
  | _ => false

theorem resolve_toRust (rung : Exit) (failValue : Bool) :
    rung.toRust.resolve failValue = rung.toPython.resolve failValue := by
  cases rung with
  | boolean value => cases value <;> rfl
  | percentage inside => cases inside <;> rfl
  | _ => rfl

theorem reason_toRust_iff (rung : Exit) : rung.toRust.reason = rung.toPython.reason <-> rung.fallsBack = true := by
  cases rung with
  | boolean value => cases value <;> decide
  | percentage inside => cases inside <;> decide
  | _ => decide

end Exit

/-- The ladder itself.  `entity` is the selected bucketing entity and `inside`
says of an entity whether its bucket lies under the rollout. -/
def ladder (status : FlagStatus) (targeted expired : Bool) (entity : Option String)
    (denylist allowlist : Finset String) (flagType : FlagType) (boolValue : Bool) (inside : String -> Bool) : Exit :=
  match status with
  | .retired => .retired
  | .disabled => .disabled
  | .draft => .draft
  | .active =>
      if !targeted then .environmentNotTargeted
      else if expired then .expired
      else if entity.any (fun e => decide (e ∈ denylist)) then .denylisted
      else if entity.any (fun e => decide (e ∈ allowlist)) then .allowlisted
      else
        match flagType with
        | .boolean => .boolean boolValue
        | .allowlist => .notInAllowlist
        | .denylist => .notInDenylist
        | .percentage =>
            match entity with
            | none => .missingBucketingEntity
            | some e => .percentage (inside e)

/-- `environments` is empty or names the context's environment. -/
def targets (environments : Finset String) (ctx : EvaluationContext) : Bool :=
  decide (environments = ∅ ∨ ctx.environment ∈ environments)

/-- The rung on which the crate's evaluation of a flag stops. -/
def Rust.exit (xxh64 : Xxh64) (flag : Rust.CompiledFlag) (ctx : EvaluationContext) (entityPriority : List String)
    (nowEpochMs : BitVec 128) : Exit :=
  ladder flag.status (targets flag.environments ctx)
    (flag.expiresAtEpochMs.any fun exp => decide (exp ≤ nowEpochMs))
    (Rust.selectBucketingEntity ctx.attributes entityPriority) flag.denylist flag.allowlist flag.flagType
    flag.boolValue (fun e => decide (Rust.bucketFor xxh64 flag.flagKey e < flag.rolloutBps.toUInt64))

/-! ## Both evaluators are the ladder with a report -/

theorem not_targets_iff (environments : Finset String) (ctx : EvaluationContext) :
    (environments ≠ ∅ ∧ ctx.environment ∉ environments) <-> targets environments ctx = false := by
  rw [targets, decide_eq_false_iff_not, not_or]

theorem Rust.evaluate_eq (xxh64 : Xxh64) (flag : Rust.CompiledFlag) (ctx : EvaluationContext)
    (entityPriority : List String) (nowEpochMs : BitVec 128) :
    Rust.evaluate xxh64 flag ctx entityPriority nowEpochMs =
      (Rust.exit xxh64 flag ctx entityPriority nowEpochMs).toRust := by
  unfold Rust.evaluate Rust.exit ladder
  simp only [not_targets_iff]
  cases flag.status with
  | retired => rfl
  | disabled => rfl
  | draft => rfl
  | active =>
      simp only [reduceCtorEq, if_false]
      cases targets flag.environments ctx with
      | false => rfl
      | true =>
          simp only [Bool.true_eq_false, if_false, Bool.not_true, Bool.false_eq_true]
          split
          · rfl
          · split
            · rfl
            · split
              · rfl
              · cases flag.flagType with
                | boolean => cases flag.boolValue <;> rfl
                | allowlist => rfl
                | denylist => rfl
                | percentage =>
                    cases Rust.selectBucketingEntity ctx.attributes entityPriority with
                    | none => rfl
                    | some e => simp only [Exit.toRust, decide_eq_true_eq]

/-! ## The two entity selectors -/

/-- The first non-empty value of a key. -/
def firstValue (attributes : List (String × String)) (wanted : String) : Option String :=
  (attributes.find? fun attr => decide (attr.1 = wanted) && !attr.2.isEmpty).map Prod.snd

theorem firstValue_cons (attr : String × String) (attributes : List (String × String)) (wanted : String) :
    firstValue (attr :: attributes) wanted =
      if attr.1 = wanted ∧ attr.2.isEmpty = false then some attr.2 else firstValue attributes wanted := by
  rw [firstValue, List.find?_cons]
  by_cases same : attr.1 = wanted
  · cases empty : attr.2.isEmpty with
    | true => simp [firstValue]
    | false => simp [same]
  · simp [same, firstValue]

/-- The fold that builds the dictionary, from any dictionary.  An entry already
present wins; otherwise the first non-empty value of the key is entered. -/
theorem lookup_foldl_attributes (attributes : List (String × String)) (start : List (String × String))
    (wanted : String) :
    (attributes.foldl
        (fun lookup attr =>
          if (lookup.lookup attr.1).isNone && !attr.2.isEmpty then lookup ++ [attr] else lookup) start).lookup wanted =
      (start.lookup wanted).or (firstValue attributes wanted) := by
  induction attributes generalizing start with
  | nil => simp [firstValue]
  | cons attr rest inductionHypothesis =>
      rw [List.foldl_cons, inductionHypothesis, firstValue_cons]
      cases empty : attr.2.isEmpty with
      | true => simp
      | false =>
          cases known : start.lookup attr.1 with
          | some value =>
              by_cases same : attr.1 = wanted
              · simp [← same, known]
              · simp [same]
          | none =>
              simp only [Option.isNone_none, Bool.not_false, Bool.and_self, if_true, and_true]
              rw [List.lookup_append]
              by_cases same : attr.1 = wanted
              · have hit : List.lookup attr.1 [attr] = some attr.2 := by simp [List.lookup]
                subst same
                simp [known, hit]
              · have miss : (wanted == attr.1) = false := beq_eq_false_iff_ne.mpr (Ne.symm same)
                simp [List.lookup, miss, same]

theorem entityLookup_lookup (attributes : List (String × String)) (wanted : String) :
    (Python.entityLookup attributes).lookup wanted = firstValue attributes wanted := by
  rw [Python.entityLookup, lookup_foldl_attributes]
  rfl

theorem firstValue_nonempty {attributes : List (String × String)} {wanted value : String}
    (found : firstValue attributes wanted = some value) : value.isEmpty = false := by
  rcases Option.map_eq_some_iff.mp found with ⟨attr, located, rfl⟩
  have accepted := List.find?_some located
  simpa using (Bool.and_eq_true_iff.mp accepted).2

/-- The nested scan and the dictionary with priority lookup select the same
entity, whatever duplicates and empty values the attributes hold. -/
theorem selectBucketingEntity_eq (attributes : List (String × String)) (priority : List String) :
    Rust.selectBucketingEntity attributes priority = Python.selectBucketingEntity attributes priority := by
  unfold Rust.selectBucketingEntity Python.selectBucketingEntity
  apply congrArg priority.findSome?
  funext wanted
  change firstValue attributes wanted = _
  rw [entityLookup_lookup]
  cases found : firstValue attributes wanted with
  | none => rfl
  | some value => simp [firstValue_nonempty found]

/-! ## The package walks the same ladder -/

theorem bucketFor_lt_iff (xxh64 : Xxh64) (flag : Rust.CompiledFlag) (entity : String) :
    Python.bucketFor xxh64 flag.flagKey entity < (flag.rolloutBps.toNat : Int) <->
      Rust.bucketFor xxh64 flag.flagKey entity < flag.rolloutBps.toUInt64 := by
  have seeds : Python.SEED = Rust.SEED := rfl
  rw [UInt64.lt_iff_toNat_lt, Rust.bucketFor, Python.bucketFor, seeds, UInt64.toNat_mod, UInt32.toNat_toUInt64]
  exact Int.ofNat_lt

theorem expired_toPython (exp : Option (BitVec 128)) (nowEpochMs : BitVec 128) :
    (exp.map fun t => (t.toNat : Int)).any (fun t => decide (t ≤ (nowEpochMs.toNat : Int))) =
      exp.any (fun t => decide (t ≤ nowEpochMs)) := by
  cases exp with
  | none => rfl
  | some t =>
      rw [Option.map_some, Option.any_some, Option.any_some, decide_eq_decide, Int.ofNat_le, BitVec.le_def]

/-- The rung on which the package's evaluation of a flag stops. -/
def Python.exit (xxh64 : Xxh64) (flag : Python.CompiledFlag) (ctx : EvaluationContext) (entityPriority : List String)
    (nowEpochMs : Int) : Exit :=
  ladder flag.status (targets flag.environments ctx)
    (flag.expiresAtEpochMs.any fun exp => decide (exp ≤ nowEpochMs))
    (Python.selectBucketingEntity ctx.attributes entityPriority) flag.denylist flag.allowlist flag.flagType
    flag.boolValue (fun e => decide (Python.bucketFor xxh64 flag.flagKey e < flag.rolloutBps))

theorem Python.evaluate_eq (xxh64 : Xxh64) (flag : Python.CompiledFlag) (ctx : EvaluationContext)
    (entityPriority : List String) (nowEpochMs : Int) :
    Python.evaluate xxh64 flag ctx entityPriority nowEpochMs =
      (Python.exit xxh64 flag ctx entityPriority nowEpochMs).toPython := by
  unfold Python.evaluate Python.exit ladder
  simp only [not_targets_iff]
  cases flag.status with
  | retired => rfl
  | disabled => rfl
  | draft => rfl
  | active =>
      simp only [reduceCtorEq, if_false]
      cases targets flag.environments ctx with
      | false => rfl
      | true =>
          simp only [Bool.true_eq_false, if_false, Bool.not_true, Bool.false_eq_true]
          split
          · rfl
          · split
            · rfl
            · split
              · rfl
              · cases flag.flagType with
                | boolean => cases flag.boolValue <;> rfl
                | allowlist => rfl
                | denylist => rfl
                | percentage =>
                    cases Python.selectBucketingEntity ctx.attributes entityPriority with
                    | none => rfl
                    | some e =>
                        simp only [reduceCtorEq, if_false, if_true, Exit.toPython, decide_eq_true_eq]
                        split <;> rfl

/-- On a flag that both hold the package stops where the crate does. -/
theorem Python.evaluate_toPython (xxh64 : Xxh64) (flag : Rust.CompiledFlag)
    (bounded : flag.rolloutBps.toNat ≤ 10000) (ctx : EvaluationContext) (entityPriority : List String)
    (nowEpochMs : BitVec 128) :
    Python.evaluate xxh64 (flag.toPython bounded) ctx entityPriority nowEpochMs.toNat =
      (Rust.exit xxh64 flag ctx entityPriority nowEpochMs).toPython := by
  rw [Python.evaluate_eq]
  congr 1
  unfold Python.exit Rust.exit Rust.CompiledFlag.toPython
  simp only [expired_toPython, ← selectBucketingEntity_eq, bucketFor_lt_iff]

/-- One verdict in both languages: for every flag the two can hold, every
context with any attribute list, every priority order and every clock reading. -/
theorem verdicts_agree (xxh64 : Xxh64) (flag : Rust.CompiledFlag) (bounded : flag.rolloutBps.toNat ≤ 10000)
    (ctx : EvaluationContext) (entityPriority : List String) (nowEpochMs : BitVec 128) (failValue : Bool) :
    (Rust.evaluate xxh64 flag ctx entityPriority nowEpochMs).resolve failValue =
      (Python.evaluate xxh64 (flag.toPython bounded) ctx entityPriority nowEpochMs.toNat).resolve failValue := by
  rw [Rust.evaluate_eq, Python.evaluate_toPython]
  exact Exit.resolve_toRust _ failValue

/-- The rollout flag of the shared vectors. -/
def newRouter (allowlist denylist : Finset String) : Rust.CompiledFlag where
  flagKey := "exp.new_router"
  status := .active
  flagType := .percentage
  flagClass := .standard
  boolValue := false
  rolloutBps := 5000
  allowlist := allowlist
  denylist := denylist
  environments := {"paper", "production"}
  failValue := false
  generation := 1
  expiresAtEpochMs := none

/-- `entity_priority` of `determinism.yaml`. -/
def entityPriority : List String :=
  ["strategy_id", "model_id", "account_id", "service", "principal"]

/-- The vector in which the strategy is on the denylist.  Evaluation stops before
the hash is asked for. -/
theorem verdicts_agree_denylisted :
    (Python.evaluate (fun _ _ => 0) ((newRouter {"strat-allow"} {"strat-deny"}).toPython (by decide))
      { environment := "production", attributes := [("strategy_id", "strat-deny")] } entityPriority
      ((1000 : BitVec 128).toNat)).resolve false = false :=
  (verdicts_agree (fun _ _ => 0) (newRouter {"strat-allow"} {"strat-deny"}) (by decide)
    { environment := "production", attributes := [("strategy_id", "strat-deny")] } entityPriority 1000 false).symm.trans
    (by decide)

/-! ## Reasons -/

theorem ladder_fallsBack_iff (status : FlagStatus) (targeted expired : Bool) (entity : Option String)
    (denylist allowlist : Finset String) (flagType : FlagType) (boolValue : Bool) (inside : String -> Bool) :
    (ladder status targeted expired entity denylist allowlist flagType boolValue inside).fallsBack = true <->
      status ≠ .active ∨ targeted = false ∨ expired = true ∨ (flagType = .percentage ∧ entity = none) := by
  cases status with
  | retired => simp [ladder, Exit.fallsBack]
  | disabled => simp [ladder, Exit.fallsBack]
  | draft => simp [ladder, Exit.fallsBack]
  | active =>
      cases targeted with
      | false => simp [ladder, Exit.fallsBack]
      | true =>
          cases expired with
          | true => simp [ladder, Exit.fallsBack]
          | false =>
              simp only [ladder, Bool.not_true, Bool.false_eq_true, if_false, ne_eq, not_true_eq_false,
                Bool.true_eq_false, false_or]
              cases entity with
              | none => cases flagType <;> simp [Exit.fallsBack]
              | some e =>
                  simp only [Option.any_some, decide_eq_true_eq, reduceCtorEq, and_false, iff_false]
                  split
                  · decide
                  · split
                    · decide
                    · cases flagType <;> simp [Exit.fallsBack]

/-- No entity is selected exactly when every prioritised attribute is empty. -/
theorem selectBucketingEntity_eq_none_iff (attributes : List (String × String)) (priority : List String) :
    Rust.selectBucketingEntity attributes priority = none <->
      forall wanted, wanted ∈ priority -> forall value, (wanted, value) ∈ attributes -> value.isEmpty = true := by
  rw [Rust.selectBucketingEntity, List.findSome?_eq_none_iff]
  constructor
  · intro missing wanted listed value member
    have absent := List.find?_eq_none.mp (Option.map_eq_none_iff.mp (missing wanted listed)) (wanted, value) member
    simpa using absent
  · intro empty wanted listed
    rw [Option.map_eq_none_iff, List.find?_eq_none]
    rintro ⟨key, value⟩ member accepted
    simp only [Bool.and_eq_true, decide_eq_true_eq, Bool.not_eq_true'] at accepted
    have blank := empty wanted listed value (accepted.1 ▸ member)
    rw [accepted.2] at blank
    exact absurd blank (by decide)

/-- The reason strings agree exactly when evaluation falls back to `fail_value`:
the flag is not active, does not target the environment, has expired, or is a
rollout without any non-empty prioritised attribute. -/
theorem reasons_agree_iff (xxh64 : Xxh64) (flag : Rust.CompiledFlag) (bounded : flag.rolloutBps.toNat ≤ 10000)
    (ctx : EvaluationContext) (entityPriority : List String) (nowEpochMs : BitVec 128) :
    (Rust.evaluate xxh64 flag ctx entityPriority nowEpochMs).reason =
        (Python.evaluate xxh64 (flag.toPython bounded) ctx entityPriority nowEpochMs.toNat).reason <->
      flag.status ≠ .active ∨
      (flag.environments ≠ ∅ ∧ ctx.environment ∉ flag.environments) ∨
      (Exists fun exp => flag.expiresAtEpochMs = some exp ∧ exp ≤ nowEpochMs) ∨
      (flag.flagType = .percentage ∧ forall wanted, wanted ∈ entityPriority ->
        forall value, (wanted, value) ∈ ctx.attributes -> value.isEmpty = true) := by
  rw [Rust.evaluate_eq, Python.evaluate_toPython, Exit.reason_toRust_iff, Rust.exit, ladder_fallsBack_iff,
    ← not_targets_iff, selectBucketingEntity_eq_none_iff]
  simp only [Option.any_eq_true, decide_eq_true_eq]

/-- The vector outside the targeted environments is one whose reasons agree. -/
theorem reasons_agree_environment :
    (Python.evaluate (fun _ _ => 0) ((newRouter ∅ ∅).toPython (by decide))
      { environment := "shadow", attributes := [("strategy_id", "strat-9")] } entityPriority
      ((1000 : BitVec 128).toNat)).reason = "environment_not_targeted" :=
  ((reasons_agree_iff (fun _ _ => 0) (newRouter ∅ ∅) (by decide)
    { environment := "shadow", attributes := [("strategy_id", "strat-9")] } entityPriority 1000).mpr
    (Or.inr (Or.inl (by decide)))).symm.trans (by decide)

/-- The denylist vector of the shared suite: the crate says `disabled` where the
package says `denylisted`, so no expected reason satisfies both suites. -/
theorem denylisted_reasons_differ :
    ¬ forall (flag : Rust.CompiledFlag) (bounded : flag.rolloutBps.toNat ≤ 10000) (ctx : EvaluationContext)
      (priority : List String) (nowEpochMs : BitVec 128),
      (Rust.evaluate (fun _ _ => 0) flag ctx priority nowEpochMs).reason =
        (Python.evaluate (fun _ _ => 0) (flag.toPython bounded) ctx priority nowEpochMs.toNat).reason := by
  intro agree
  have same := agree (newRouter {"strat-allow"} {"strat-deny"}) (by decide)
    { environment := "production", attributes := [("strategy_id", "strat-deny")] } entityPriority 1000
  exact absurd same (by decide)

end Flags
end ApexQuant
