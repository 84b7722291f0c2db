import ApexQuant.Flags.Conformance

namespace ApexQuant
namespace Flags

/-!
# Raising a rollout

A rollout is compared with the bucket of an entity on one rung of the ladder only.  The
two evaluations of a flag at a lower and at a higher rollout therefore stop on the same
rung, and where that is the percentage rung the higher one lets in every entity that the
lower one did.
-/

namespace Exit

/-- The rungs that turn the flag on. -/
def isEnabled : Exit -> Bool
  | .allowlisted | .notInDenylist => true
  | .boolean value => value
  | .percentage inside => inside
  | _ => false

theorem toRust_enabled_iff (rung : Exit) : rung.toRust = .enabled <-> rung.isEnabled = true := by
  cases rung with
  | boolean value => cases value <;> decide
  | percentage inside => cases inside <;> decide
  | _ => decide

theorem toPython_enabled_iff (rung : Exit) : rung.toPython.kind = .enabled <-> rung.isEnabled = true := by
  cases rung with
  | boolean value => cases value <;> decide
  | percentage inside => cases inside <;> decide
  | _ => decide

end Exit

/-- The walk comes to the comparison of the bucket of this entity. -/
structure ReachesPercentage (status : FlagStatus) (targeted expired : Bool) (entity : Option String)
    (denylist allowlist : Finset String) (flagType : FlagType) (e : String) : Prop where
  active : status = .active
  targeted : targeted = true
  unexpired : expired = false
  entity : entity = some e
  undenied : e ∉ denylist
  unlisted : e ∉ allowlist
  percentage : flagType = .percentage

section

variable {status : FlagStatus} {targeted expired : Bool} {entity : Option String} {denylist allowlist : Finset String}
  {flagType : FlagType} {boolValue : Bool}

/-- More entities inside the rollout, and no rung turns the flag off. -/
theorem ladder_mono {inside inside' : String -> Bool} (more : forall e, inside e = true -> inside' e = true)
    (enabled : (ladder status targeted expired entity denylist allowlist flagType boolValue inside).isEnabled = true) :
    (ladder status targeted expired entity denylist allowlist flagType boolValue inside').isEnabled = true := by
  cases status with
  | retired | disabled | draft => exact enabled
  | active =>
      cases flagType with
      | boolean | allowlist | denylist => exact enabled
      | percentage =>
          cases entity with
          | none => exact enabled
          | some e =>
              simp only [ladder] at enabled ⊢
              split_ifs at enabled ⊢ with untargeted past denied listed
              · exact enabled
              · exact enabled
              · exact enabled
              · exact enabled
              · exact more e enabled

theorem ladder_of_reaches {e : String} (inside : String -> Bool)
    (reaches : ReachesPercentage status targeted expired entity denylist allowlist flagType e) :
    ladder status targeted expired entity denylist allowlist flagType boolValue inside = .percentage (inside e) := by
  rcases reaches with ⟨rfl, rfl, rfl, rfl, undenied, unlisted, rfl⟩
  simp [ladder, undenied, unlisted]

end

/-! ## The crate -/

namespace Rust

def CompiledFlag.withRollout (flag : CompiledFlag) (rolloutBps : UInt32) : CompiledFlag :=
  { flag with rolloutBps := rolloutBps }

/-- The evaluation compares a bucket with the rollout, whatever the rollout is. -/
def ReachesRollout (flag : CompiledFlag) (ctx : EvaluationContext) (entityPriority : List String)
    (nowEpochMs : BitVec 128) (e : String) : Prop :=
  ReachesPercentage flag.status (targets flag.environments ctx)
    (flag.expiresAtEpochMs.any fun exp => decide (exp ≤ nowEpochMs))
    (selectBucketingEntity ctx.attributes entityPriority) flag.denylist flag.allowlist flag.flagType e

theorem bucketFor_lt (xxh64 : Xxh64) (flagKey entity : String) :
    bucketFor xxh64 flagKey entity < (10000 : UInt32).toUInt64 := by
  rw [UInt64.lt_iff_toNat_lt, bucketFor, UInt64.toNat_mod]
  exact Nat.mod_lt _ (by decide)

theorem evaluate_mono (xxh64 : Xxh64) (flag : CompiledFlag) (ctx : EvaluationContext) (entityPriority : List String)
    (nowEpochMs : BitVec 128) {rollout rollout' : UInt32} (raised : rollout ≤ rollout')
    (enabled : evaluate xxh64 (flag.withRollout rollout) ctx entityPriority nowEpochMs = .enabled) :
    evaluate xxh64 (flag.withRollout rollout') ctx entityPriority nowEpochMs = .enabled := by
  rw [evaluate_eq, Exit.toRust_enabled_iff] at enabled ⊢
  refine ladder_mono ?_ enabled
  intro e inside
  rw [decide_eq_true_eq, UInt64.lt_iff_toNat_lt, UInt32.toNat_toUInt64] at inside ⊢
  exact inside.trans_le (UInt32.le_iff_toNat_le.mp raised)

theorem evaluate_of_reaches (xxh64 : Xxh64) {flag : CompiledFlag} {ctx : EvaluationContext}
    {entityPriority : List String} {nowEpochMs : BitVec 128} {e : String}
    (reaches : ReachesRollout flag ctx entityPriority nowEpochMs e) :
    evaluate xxh64 (flag.withRollout 10000) ctx entityPriority nowEpochMs = .enabled ∧
      evaluate xxh64 (flag.withRollout 0) ctx entityPriority nowEpochMs = .disabled := by
  have stops (rollout : UInt32) : exit xxh64 (flag.withRollout rollout) ctx entityPriority nowEpochMs =
      .percentage (decide (bucketFor xxh64 flag.flagKey e < rollout.toUInt64)) :=
    ladder_of_reaches _ reaches
  constructor
  · rw [evaluate_eq, stops, decide_eq_true (bucketFor_lt xxh64 flag.flagKey e)]
    rfl
  · have outside : ¬bucketFor xxh64 flag.flagKey e < (0 : UInt32).toUInt64 := UInt64.not_lt_zero
    rw [evaluate_eq, stops, decide_eq_false outside]
    rfl

end Rust

/-! ## The package -/

namespace Python

/-- A value of `rollout_bps` that the model admits. -/
def Rollout : Type := { bps : Int // 0 ≤ bps ∧ bps ≤ 10000 }

def CompiledFlag.withRollout (flag : CompiledFlag) (rollout : Rollout) : CompiledFlag :=
  { flag with rolloutBps := rollout.val, rolloutBps_ge := rollout.property.1, rolloutBps_le := rollout.property.2 }

def ReachesRollout (flag : CompiledFlag) (ctx : EvaluationContext) (entityPriority : List String)
    (nowEpochMs : Int) (e : String) : Prop :=
  ReachesPercentage flag.status (targets flag.environments ctx)
    (flag.expiresAtEpochMs.any fun exp => decide (exp ≤ nowEpochMs))
    (selectBucketingEntity ctx.attributes entityPriority) flag.denylist flag.allowlist flag.flagType e

theorem bucketFor_nonneg (xxh64 : Xxh64) (flagKey entity : String) : 0 ≤ bucketFor xxh64 flagKey entity :=
  Int.natCast_nonneg _

theorem bucketFor_lt (xxh64 : Xxh64) (flagKey entity : String) : bucketFor xxh64 flagKey entity < 10000 :=
  Int.ofNat_lt.mpr (Nat.mod_lt _ (by decide))

theorem evaluate_mono (xxh64 : Xxh64) (flag : CompiledFlag) (ctx : EvaluationContext) (entityPriority : List String)
    (nowEpochMs : Int) {rollout rollout' : Rollout} (raised : rollout.val ≤ rollout'.val)
    (enabled : (evaluate xxh64 (flag.withRollout rollout) ctx entityPriority nowEpochMs).kind = .enabled) :
    (evaluate xxh64 (flag.withRollout rollout') ctx entityPriority nowEpochMs).kind = .enabled := by
  rw [evaluate_eq, Exit.toPython_enabled_iff] at enabled ⊢
  refine ladder_mono ?_ enabled
  intro e inside
  rw [decide_eq_true_eq] at inside ⊢
  exact inside.trans_le raised

theorem evaluate_of_reaches (xxh64 : Xxh64) {flag : CompiledFlag} {ctx : EvaluationContext}
    {entityPriority : List String} {nowEpochMs : Int} {e : String} {rollout : Rollout}
    (reaches : ReachesRollout flag ctx entityPriority nowEpochMs e) :
    (rollout.val = 10000 ->
      (evaluate xxh64 (flag.withRollout rollout) ctx entityPriority nowEpochMs).kind = .enabled) ∧
    (rollout.val = 0 ->
      (evaluate xxh64 (flag.withRollout rollout) ctx entityPriority nowEpochMs).kind = .disabled) := by
  have stops : exit xxh64 (flag.withRollout rollout) ctx entityPriority nowEpochMs =
      .percentage (decide (bucketFor xxh64 flag.flagKey e < rollout.val)) :=
    ladder_of_reaches _ reaches
  constructor
  · intro full
    rw [evaluate_eq, stops, full, decide_eq_true (bucketFor_lt xxh64 flag.flagKey e)]
    rfl
  · intro none
    rw [evaluate_eq, stops, none, decide_eq_false (not_lt.mpr (bucketFor_nonneg xxh64 flag.flagKey e))]
    rfl

end Python

/-- Raising a rollout turns no entity off; a full one turns on every entity whose bucket is
looked at, and an empty one none.  Both evaluators. -/
theorem rollout_monotone (xxh64 : Xxh64) :
    ((forall (flag : Rust.CompiledFlag) ctx entityPriority nowEpochMs (rollout rollout' : UInt32), rollout ≤ rollout' ->
        Rust.evaluate xxh64 (flag.withRollout rollout) ctx entityPriority nowEpochMs = .enabled ->
          Rust.evaluate xxh64 (flag.withRollout rollout') ctx entityPriority nowEpochMs = .enabled) ∧
      forall (flag : Rust.CompiledFlag) ctx entityPriority nowEpochMs e, Rust.ReachesRollout flag ctx entityPriority nowEpochMs e ->
        Rust.evaluate xxh64 (flag.withRollout 10000) ctx entityPriority nowEpochMs = .enabled ∧
          Rust.evaluate xxh64 (flag.withRollout 0) ctx entityPriority nowEpochMs = .disabled) ∧
    ((forall (flag : Python.CompiledFlag) ctx entityPriority nowEpochMs (rollout rollout' : Python.Rollout),
        rollout.val ≤ rollout'.val ->
        (Python.evaluate xxh64 (flag.withRollout rollout) ctx entityPriority nowEpochMs).kind = .enabled ->
          (Python.evaluate xxh64 (flag.withRollout rollout') ctx entityPriority nowEpochMs).kind = .enabled) ∧
      forall (flag : Python.CompiledFlag) ctx entityPriority nowEpochMs e (rollout : Python.Rollout),
        Python.ReachesRollout flag ctx entityPriority nowEpochMs e ->
        (rollout.val = 10000 ->
          (Python.evaluate xxh64 (flag.withRollout rollout) ctx entityPriority nowEpochMs).kind = .enabled) ∧
        (rollout.val = 0 ->
          (Python.evaluate xxh64 (flag.withRollout rollout) ctx entityPriority nowEpochMs).kind = .disabled)) := by
  refine ⟨⟨?_, ?_⟩, ?_, ?_⟩
  · intro flag ctx entityPriority nowEpochMs rollout rollout' raised enabled
    exact Rust.evaluate_mono xxh64 flag ctx entityPriority nowEpochMs raised enabled
  · intro flag ctx entityPriority nowEpochMs e reaches
    exact Rust.evaluate_of_reaches xxh64 reaches
  · intro flag ctx entityPriority nowEpochMs rollout rollout' raised enabled
    exact Python.evaluate_mono xxh64 flag ctx entityPriority nowEpochMs raised enabled
  · intro flag ctx entityPriority nowEpochMs e rollout reaches
    exact Python.evaluate_of_reaches xxh64 reaches

end Flags
end ApexQuant
