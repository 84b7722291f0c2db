import Mathlib

namespace ApexQuant
namespace Flags

/-!
# The flag engine and the Python SDK

The crate `apex-flag-engine` and the package `apexquant-flags` evaluate the same
compiled flags.  Each is embedded from its own source: the crate over
fixed-width integers and the package over Python integers, with the bounds that
the pydantic model checks as fields of the structure.

The 64-bit hash is a library function of either language.  It is a parameter
`xxh64` here, applied to the UTF-8 bytes of the bucketing key and to the seed of
`determinism.yaml`.
-/

inductive FlagStatus where
  | draft
  | active
  | disabled
  | retired
  deriving DecidableEq, Repr

inductive FlagType where
  | boolean
  | percentage
  | allowlist
  | denylist
  deriving DecidableEq, Repr

inductive FlagClass where
  | safetyCritical
  | tradingBehavior
  | standard
  deriving DecidableEq, Repr

/-- `EvaluationContext` of both languages. -/
structure EvaluationContext where
  environment : String
  attributes : List (String × String)

/-- A seeded 64-bit hash of a byte string. -/
abbrev Xxh64 := ByteArray -> UInt64 -> UInt64

/-! ## The crate `apex-flag-engine` -/

namespace Rust

def SEED : UInt64 := 0x9E3779B97F4A7C15

def MODULUS : UInt64 := 10000

/-- `CompiledFlag` of `model.rs`. -/
structure CompiledFlag where
  flagKey : String
  status : FlagStatus
  flagType : FlagType
  flagClass : FlagClass
  boolValue : Bool
  rolloutBps : UInt32
  allowlist : Finset String
  denylist : Finset String
  /-- Empty means all environments. -/
  environments : Finset String
  failValue : Bool
  generation : UInt64
  expiresAtEpochMs : Option (BitVec 128)

/-- `EvaluationOutcome`. -/
inductive EvaluationOutcome where
  | enabled
  | disabled
  | useFailValue (reason : String)
  deriving DecidableEq, Repr

namespace EvaluationOutcome

def resolve (outcome : EvaluationOutcome) (failValue : Bool) : Bool :=
  match outcome with
  | .enabled => true
  | .disabled => false
  | .useFailValue _ => failValue

def reason : EvaluationOutcome -> String
  | .enabled => "enabled"
  | .disabled => "disabled"
  | .useFailValue r => r

end EvaluationOutcome

/-- `select_bucketing_entity`: a scan of the attributes for each wanted key. -/
def selectBucketingEntity (attrs : List (String × String)) (priority : List String) : Option String :=
  priority.findSome? fun wanted =>
    (attrs.find? fun attr => decide (attr.1 = wanted) && !attr.2.isEmpty).map Prod.snd

/-- `bucket_for`. -/
def bucketFor (xxh64 : Xxh64) (flagKey entity : String) : UInt64 :=
  xxh64 (flagKey ++ ":" ++ entity).toUTF8 SEED % MODULUS

/-- `evaluate` of `evaluator.rs`. -/
def evaluate (xxh64 : Xxh64) (flag : CompiledFlag) (ctx : EvaluationContext) (entityPriority : List String)
    (nowEpochMs : BitVec 128) : EvaluationOutcome :=
  if flag.status = .retired then .useFailValue "retired"
  else if flag.status = .disabled then .useFailValue "disabled"
  else if flag.status = .draft then .useFailValue "draft"
  else if flag.environments ≠ ∅ ∧ ctx.environment ∉ flag.environments then
    .useFailValue "environment_not_targeted"
  else if flag.expiresAtEpochMs.any (fun exp => decide (exp ≤ nowEpochMs)) then .useFailValue "expired"
  else
    let entity := selectBucketingEntity ctx.attributes entityPriority
    if entity.any (fun e => decide (e ∈ flag.denylist)) then .disabled
    else if entity.any (fun e => decide (e ∈ flag.allowlist)) then .enabled
    else
      match flag.flagType with
      | .boolean => if flag.boolValue then .enabled else .disabled
      | .allowlist => .disabled
      | .denylist => .enabled
      | .percentage =>
          match entity with
          | none => .useFailValue "missing_bucketing_entity"
          | some e => if bucketFor xxh64 flag.flagKey e < flag.rolloutBps.toUInt64 then .enabled else .disabled

end Rust

/-! ## The package `apexquant-flags` -/

namespace Python

def SEED : UInt64 := 0x9E3779B97F4A7C15

def MODULUS : Nat := 10000

/-- `CompiledFlag` of `model.py`, with the bounds of its `Field`s. -/
structure CompiledFlag where
  flagKey : String
  status : FlagStatus
  flagType : FlagType
  flagClass : FlagClass
  boolValue : Bool
  rolloutBps : Int
  rolloutBps_ge : 0 ≤ rolloutBps
  rolloutBps_le : rolloutBps ≤ 10000
  allowlist : Finset String
  denylist : Finset String
  environments : Finset String
  failValue : Bool
  generation : Int
  expiresAtEpochMs : Option Int

/-- The three values of `EvaluationOutcome.kind`. -/
inductive OutcomeKind where
  | enabled
  | disabled
  | failValue
  deriving DecidableEq, Repr

/-- `EvaluationOutcome`. -/
structure EvaluationOutcome where
  kind : OutcomeKind
  reason : String
  deriving DecidableEq, Repr

def EvaluationOutcome.resolve (outcome : EvaluationOutcome) (failValue : Bool) : Bool :=
  if outcome.kind = .enabled then true
  else if outcome.kind = .disabled then false
  else failValue

/-- `_fail`. -/
def fail (reason : String) : EvaluationOutcome :=
  { kind := .failValue, reason := reason }

/-- The dictionary that `select_bucketing_entity` builds: the first non-empty
value of each key. -/
def entityLookup (attributes : List (String × String)) : List (String × String) :=
  attributes.foldl
    (fun lookup attr =>
      if (lookup.lookup attr.1).isNone && !attr.2.isEmpty then lookup ++ [attr] else lookup) []

/-- `select_bucketing_entity`. -/
def selectBucketingEntity (attributes : List (String × String)) (priority : List String) : Option String :=
  let lookup := entityLookup attributes
  priority.findSome? fun wanted =>
    match lookup.lookup wanted with
    | some value => if value.isEmpty then none else some value
    | none => none

/-- `bucket_for`. -/
def bucketFor (xxh64 : Xxh64) (flagKey entity : String) : Int :=
  (((xxh64 (flagKey ++ ":" ++ entity).toUTF8 SEED).toNat % MODULUS : Nat) : Int)

/-- `evaluate` of `evaluator.py`. -/
def evaluate (xxh64 : Xxh64) (flag : CompiledFlag) (ctx : EvaluationContext) (entityPriority : List String)
    (nowEpochMs : Int) : EvaluationOutcome :=
  if flag.status = .retired then fail "retired"
  else if flag.status = .disabled then fail "disabled"
  else if flag.status = .draft then fail "draft"
  else if flag.environments ≠ ∅ ∧ ctx.environment ∉ flag.environments then fail "environment_not_targeted"
  else if flag.expiresAtEpochMs.any (fun exp => decide (exp ≤ nowEpochMs)) then fail "expired"
  else
    let entity := selectBucketingEntity ctx.attributes entityPriority
    if entity.any (fun e => decide (e ∈ flag.denylist)) then { kind := .disabled, reason := "denylisted" }
    else if entity.any (fun e => decide (e ∈ flag.allowlist)) then { kind := .enabled, reason := "allowlisted" }
    else if flag.flagType = .boolean then
      if flag.boolValue then { kind := .enabled, reason := "boolean" } else { kind := .disabled, reason := "boolean" }
    else if flag.flagType = .allowlist then { kind := .disabled, reason := "not_in_allowlist" }
    else if flag.flagType = .denylist then { kind := .enabled, reason := "not_in_denylist" }
    else if flag.flagType = .percentage then
      match entity with
      | none => fail "missing_bucketing_entity"
      | some e =>
          if bucketFor xxh64 flag.flagKey e < flag.rolloutBps then { kind := .enabled, reason := "percentage" }
          else { kind := .disabled, reason := "percentage" }
    else fail "unknown_type"

end Python

/-- The flag that the SDK holds when the engine holds this one. -/
def Rust.CompiledFlag.toPython (flag : Rust.CompiledFlag) (bounded : flag.rolloutBps.toNat ≤ 10000) :
    Python.CompiledFlag where
  flagKey := flag.flagKey
  status := flag.status
  flagType := flag.flagType
  flagClass := flag.flagClass
  boolValue := flag.boolValue
  rolloutBps := flag.rolloutBps.toNat
  rolloutBps_ge := Int.natCast_nonneg _
  rolloutBps_le := by omega
  allowlist := flag.allowlist
  denylist := flag.denylist
  environments := flag.environments
  failValue := flag.failValue
  generation := flag.generation.toNat
  expiresAtEpochMs := flag.expiresAtEpochMs.map fun exp => (exp.toNat : Int)

end Flags
end ApexQuant
