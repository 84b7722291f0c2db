import ApexQuant.Flags.Engine
import ApexQuant.Foundation.Runs

namespace ApexQuant
namespace Flags

open Foundation

/-!
# The flag providers

Both providers serve a flag from a snapshot and replace its verdict by
`fail_value` when the snapshot is older than the limit of the flag's class.  One
snapshot is exempt: the baked defaults of a cold start, which are recognized by
the identity of the object and not by its content.

The crate receives a snapshot by value and puts it in a new `Arc`, so an installed
snapshot is never the baked one.  The package keeps the object it is handed.  An
evaluation reads the state of its provider and leaves it alone, so a history is a
list of the other calls, and an evaluation is made after it.
-/

/-- `DegradationState` of both languages. -/
inductive DegradationState where
  | fresh
  | failValue
  | bakedDefaults
  deriving DecidableEq, Repr

/-! ## The crate `apex-flag-engine` -/

namespace Rust

/-- `staleness_limit_ms`. -/
def stalenessLimitMs : FlagClass -> BitVec 128
  | .safetyCritical => 1000
  | .tradingBehavior => 5000
  | .standard => 60000

/-- `u128::saturating_sub`. -/
def saturatingSub (left right : BitVec 128) : BitVec 128 :=
  if right ≤ left then left - right else 0

theorem toNat_saturatingSub (left right : BitVec 128) :
    (saturatingSub left right).toNat = left.toNat - right.toNat := by
  unfold saturatingSub
  split
  · rename_i ordered
    exact BitVec.toNat_sub_of_le ordered
  · rename_i unordered
    rw [BitVec.le_def] at unordered
    change 0 = left.toNat - right.toNat
    omega

/-- `FlagSnapshot`. -/
structure FlagSnapshot where
  generation : UInt64
  fetchedAtEpochMs : BitVec 128
  flags : List (String × CompiledFlag)

def FlagSnapshot.get (snapshot : FlagSnapshot) (key : String) : Option CompiledFlag :=
  snapshot.flags.lookup key

/-- An `Arc<FlagSnapshot>`, with the address that `Arc::as_ptr` returns. -/
structure Arc where
  address : Nat
  snapshot : FlagSnapshot

/-- An allocation returns no address that is in use. -/
structure Allocator where
  allocate : List Nat -> Nat
  allocate_not_mem : forall live, allocate live ∉ live

/-- `FlagStore`. -/
structure FlagStore where
  current : Arc
  baked : Arc

/-- `PinnedFlags`. -/
structure PinnedFlags where
  snapshot : Arc

/-- `FlagStore::new`. -/
def FlagStore.new (allocator : Allocator) (baked : FlagSnapshot) : FlagStore :=
  let arc : Arc := { address := allocator.allocate [], snapshot := baked }
  { current := arc, baked := arc }

/-- `FlagStore::pin`. -/
def FlagStore.pin (store : FlagStore) : PinnedFlags :=
  { snapshot := store.current }

/-- `FlagStore::swap`, with the address of the new `Arc`. -/
def FlagStore.swap (store : FlagStore) (address : Nat) (next : FlagSnapshot) : FlagStore :=
  { store with current := { address := address, snapshot := next } }

/-- `ResolvedFlag`. -/
structure ResolvedFlag where
  enabled : Bool
  reason : String
  degradation : DegradationState
  generation : UInt64
  deriving DecidableEq

/-- `FlagProvider` on a store. -/
structure FlagProvider where
  xxh64 : Xxh64
  entityPriority : List String

namespace FlagProvider

variable (provider : FlagProvider)

/-- `evaluate_against_snapshot`, at a reading of the clock. -/
def evaluateAgainstSnapshot (store : FlagStore) (snapshot : Arc) (flagKey : String) (ctx : EvaluationContext)
    (now : BitVec 128) : Option ResolvedFlag :=
  (snapshot.snapshot.get flagKey).map fun flag =>
    let isBaked := decide (snapshot.address = store.baked.address)
    let ageMs := saturatingSub now snapshot.snapshot.fetchedAtEpochMs
    let threshold := stalenessLimitMs flag.flagClass
    let (degradation, useFail) :=
      if isBaked then (DegradationState.bakedDefaults, false)
      else if ageMs ≤ threshold then (DegradationState.fresh, false)
      else (DegradationState.failValue, true)
    if useFail then
      { enabled := flag.failValue
        reason := "snapshot_stale_beyond_threshold"
        degradation := degradation
        generation := snapshot.snapshot.generation }
    else
      let outcome := evaluate provider.xxh64 flag ctx provider.entityPriority now
      { enabled := outcome.resolve flag.failValue
        reason := outcome.reason
        degradation := degradation
        generation := snapshot.snapshot.generation }

/-- `evaluate_current`. -/
def evaluateCurrent (store : FlagStore) (flagKey : String) (ctx : EvaluationContext) (now : BitVec 128) :
    Option ResolvedFlag :=
  provider.evaluateAgainstSnapshot store store.current flagKey ctx now

/-- `evaluate_pinned`. -/
def evaluatePinned (store : FlagStore) (pinned : PinnedFlags) (flagKey : String) (ctx : EvaluationContext)
    (now : BitVec 128) : Option ResolvedFlag :=
  provider.evaluateAgainstSnapshot store pinned.snapshot flagKey ctx now

end FlagProvider

/-! ### Histories -/

/-- A store, the pins taken from it, and every `Arc` that `swap` has made. -/
structure StoreHistory where
  store : FlagStore
  pins : List PinnedFlags
  installed : List Arc

inductive StoreAction where
  | swap (next : FlagSnapshot)
  | pin

def StoreHistory.initial (allocator : Allocator) (baked : FlagSnapshot) : StoreHistory :=
  { store := FlagStore.new allocator baked, pins := [], installed := [] }

/-- The addresses in use.  A snapshot that is neither current nor pinned is freed,
and a later `swap` may get its address. -/
def StoreHistory.live (history : StoreHistory) : List Nat :=
  history.store.baked.address :: history.store.current.address ::
    history.pins.map fun pinned => pinned.snapshot.address

def StoreHistory.step (allocator : Allocator) (history : StoreHistory) : StoreAction -> StoreHistory
  | .swap next =>
      let store := history.store.swap (allocator.allocate history.live) next
      { history with store := store, installed := history.installed ++ [store.current] }
  | .pin => { history with pins := history.pins ++ [history.store.pin] }

/-- What every history keeps: the baked snapshot has its address to itself. -/
structure StoreHistory.Apart (baked : Arc) (history : StoreHistory) : Prop where
  same : history.store.baked = baked
  installed : forall arc, arc ∈ history.installed -> arc.address ≠ baked.address

theorem StoreHistory.Apart.step (allocator : Allocator) {baked : Arc} (history : StoreHistory) (action : StoreAction)
    (apart : history.Apart baked) : (history.step allocator action).Apart baked := by
  cases action with
  | swap next =>
      have fresh : allocator.allocate history.live ≠ baked.address := by
        intro taken
        apply allocator.allocate_not_mem history.live
        rw [taken, ← apart.same]
        exact List.mem_cons_self
      refine ⟨apart.same, ?_⟩
      intro arc member
      rcases List.mem_append.mp member with earlier | last
      · exact apart.installed arc earlier
      · rw [List.mem_singleton.mp last]
        exact fresh
  | pin => exact ⟨apart.same, apart.installed⟩

/-- The history after a list of calls. -/
def StoreHistory.after (allocator : Allocator) (baked : FlagSnapshot) (actions : List StoreAction) : StoreHistory :=
  actions.foldl (StoreHistory.step allocator) (StoreHistory.initial allocator baked)

theorem StoreHistory.apart_after (allocator : Allocator) (baked : FlagSnapshot) (actions : List StoreAction) :
    (StoreHistory.after allocator baked actions).Apart (FlagStore.new allocator baked).baked := by
  apply Run.invariant _ (StoreHistory.Apart.step allocator)
  exact ⟨rfl, fun _ member => absurd member List.not_mem_nil⟩

/-- A stale snapshot that is not the baked one answers with the fail value. -/
theorem FlagProvider.evaluateAgainstSnapshot_of_stale (provider : FlagProvider) {store : FlagStore} {snapshot : Arc}
    {flagKey : String} {flag : CompiledFlag} {now : BitVec 128} (found : snapshot.snapshot.get flagKey = some flag)
    (other : snapshot.address ≠ store.baked.address)
    (stale : ((stalenessLimitMs flag.flagClass).toNat : Int) <
      (now.toNat : Int) - (snapshot.snapshot.fetchedAtEpochMs.toNat : Int)) (ctx : EvaluationContext) :
    provider.evaluateAgainstSnapshot store snapshot flagKey ctx now =
      some
        { enabled := flag.failValue
          reason := "snapshot_stale_beyond_threshold"
          degradation := .failValue
          generation := snapshot.snapshot.generation } := by
  have old : ¬ saturatingSub now snapshot.snapshot.fetchedAtEpochMs ≤ stalenessLimitMs flag.flagClass := by
    rw [BitVec.le_def, toNat_saturatingSub]
    omega
  rw [evaluateAgainstSnapshot, found]
  simp only [Option.map_some, decide_eq_false other, Bool.false_eq_true, if_false, old, if_true]

/-- Whether an answer is exactly the flag's fail value, reported as such. -/
def ResolvedFlag.IsFailValue (flag : CompiledFlag) (resolved : ResolvedFlag) : Prop :=
  resolved.enabled = flag.failValue ∧ resolved.degradation = .failValue

/-- Staleness safety and isolation of pins, over every history of a store.  An
installed snapshot that is older than the limit of a flag's class answers with the
fail value of the flag, through a pin and through the store; and what a pin answers
does not change with whatever happens to the store later. -/
theorem provider_safety (provider : FlagProvider) (allocator : Allocator) (baked : FlagSnapshot)
    (actions : List StoreAction) :
    (forall arc, arc ∈ (StoreHistory.after allocator baked actions).installed ->
      forall flagKey flag, arc.snapshot.get flagKey = some flag -> forall now : BitVec 128,
      ((stalenessLimitMs flag.flagClass).toNat : Int) <
        (now.toNat : Int) - (arc.snapshot.fetchedAtEpochMs.toNat : Int) ->
      forall ctx,
        (Exists fun resolved => resolved.IsFailValue flag ∧
          provider.evaluatePinned (StoreHistory.after allocator baked actions).store { snapshot := arc } flagKey ctx
            now = some resolved) ∧
        ((StoreHistory.after allocator baked actions).store.current = arc ->
          Exists fun resolved => resolved.IsFailValue flag ∧
            provider.evaluateCurrent (StoreHistory.after allocator baked actions).store flagKey ctx now =
              some resolved)) ∧
    (forall pinned later flagKey ctx now,
        provider.evaluatePinned (StoreHistory.after allocator baked (actions ++ later)).store pinned flagKey ctx now =
          provider.evaluatePinned (StoreHistory.after allocator baked actions).store pinned flagKey ctx now) := by
  have apart := StoreHistory.apart_after allocator baked actions
  refine ⟨?_, ?_⟩
  · intro arc installed flagKey flag found now stale ctx
    have other : arc.address ≠ (StoreHistory.after allocator baked actions).store.baked.address := by
      rw [apart.same]
      exact apart.installed arc installed
    have answer := provider.evaluateAgainstSnapshot_of_stale found other stale ctx
    refine ⟨⟨_, ⟨rfl, rfl⟩, answer⟩, ?_⟩
    rintro rfl
    exact ⟨_, ⟨rfl, rfl⟩, answer⟩
  · intro pinned later flagKey ctx now
    have same := (StoreHistory.apart_after allocator baked (actions ++ later)).same.trans apart.same.symm
    unfold FlagProvider.evaluatePinned FlagProvider.evaluateAgainstSnapshot
    rw [same]

/-! ### The safety flag of the proof tests -/

/-- An allocator that stays above every address in use. -/
def bumpAllocator : Allocator where
  allocate := fun live => live.sum + 1
  allocate_not_mem := by
    intro live taken
    have below := List.le_sum_of_mem taken
    omega

def liveTradingEnabled (boolValue : Bool) : CompiledFlag where
  flagKey := "live_trading_enabled"
  status := .active
  flagType := .boolean
  flagClass := .safetyCritical
  boolValue := boolValue
  rolloutBps := 0
  allowlist := ∅
  denylist := ∅
  environments := {"production"}
  failValue := false
  generation := 7
  expiresAtEpochMs := none

/-- A snapshot of the safety flag, switched on. -/
def liveTradingSnapshot (generation : UInt64) (fetchedAtEpochMs : BitVec 128) : FlagSnapshot where
  generation := generation
  fetchedAtEpochMs := fetchedAtEpochMs
  flags := [("live_trading_enabled", liveTradingEnabled true)]

/-- A provider whose hash no boolean flag asks for. -/
def proofProvider : FlagProvider where
  xxh64 := fun _ _ => 0
  entityPriority := ["service"]

/-- Two seconds after it was fetched, an installed snapshot no longer enables live
trading. -/
theorem provider_safety_live_trading :
    Exists fun resolved => resolved.IsFailValue (liveTradingEnabled true) ∧
      proofProvider.evaluateCurrent
        (StoreHistory.after bumpAllocator (liveTradingSnapshot 1 0) [.swap (liveTradingSnapshot 7 1000)]).store
        "live_trading_enabled" { environment := "production", attributes := [("service", "exec-core")] } 3000 =
          some resolved :=
  ((provider_safety proofProvider bumpAllocator (liveTradingSnapshot 1 0) [.swap (liveTradingSnapshot 7 1000)]).1
    _ List.mem_cons_self "live_trading_enabled" (liveTradingEnabled true) rfl 3000 (by decide)
    { environment := "production", attributes := [("service", "exec-core")] }).2 rfl

end Rust

/-! ## The package `apexquant-flags` -/

namespace Python

/-- `staleness_limit_ms`. -/
def stalenessLimitMs : FlagClass -> Int
  | .safetyCritical => 1000
  | .tradingBehavior => 5000
  | .standard => 60000

/-- `Snapshot`. -/
structure Snapshot where
  generation : Int
  fetchedAtEpochMs : Int
  flags : List (String × CompiledFlag)

/-- A reference to a snapshot object.  Two references are the same object exactly
when they are equal. -/
structure Ref where
  identity : Nat
  deriving DecidableEq

/-- `ResolvedFlag`. -/
structure ResolvedFlag where
  enabled : Bool
  reason : String
  degradation : DegradationState
  generation : Int
  deriving DecidableEq

/-- What the package runs on: the hash and the priority list of the fixture, and the
snapshot objects of the process. -/
structure Process where
  xxh64 : Xxh64
  entityPriority : List String
  heap : Ref -> Snapshot

/-- `FlagProvider`. -/
structure FlagProvider where
  baked : Ref
  current : Ref

/-- `FlagProvider.__init__`. -/
def FlagProvider.new (baked : Ref) : FlagProvider :=
  { baked := baked, current := baked }

/-- `refresh`. -/
def FlagProvider.refresh (provider : FlagProvider) (snapshot : Ref) : FlagProvider :=
  { provider with current := snapshot }

/-- `pin`. -/
def FlagProvider.pin (provider : FlagProvider) : Ref :=
  provider.current

/-- `evaluate`, at a reading of the clock.  A snapshot is always true, so
`snapshot or self._current` asks only whether one was given. -/
def FlagProvider.evaluate (process : Process) (provider : FlagProvider) (flagKey : String) (ctx : EvaluationContext)
    (snapshot : Option Ref) (now : Int) : Option ResolvedFlag :=
  let snap := snapshot.getD provider.current
  match (process.heap snap).flags.lookup flagKey with
  | none => none
  | some flag =>
      let isBaked := decide (snap = provider.baked)
      let ageMs := max 0 (now - (process.heap snap).fetchedAtEpochMs)
      let threshold := stalenessLimitMs flag.flagClass
      let (degradation, useFail) :=
        if isBaked then (DegradationState.bakedDefaults, false)
        else if ageMs ≤ threshold then (DegradationState.fresh, false)
        else (DegradationState.failValue, true)
      if useFail then
        some
          { enabled := flag.failValue
            reason := "snapshot_stale_beyond_threshold"
            degradation := degradation
            generation := (process.heap snap).generation }
      else
        let outcome := Python.evaluate process.xxh64 flag ctx process.entityPriority now
        some
          { enabled := outcome.resolve flag.failValue
            reason := outcome.reason
            degradation := degradation
            generation := (process.heap snap).generation }

/-! ### Histories -/

/-- A provider, the pins taken from it, and the objects handed to `refresh`. -/
structure ProviderHistory where
  provider : FlagProvider
  pins : List Ref
  refreshed : List Ref

/-- A snapshot handed to `refresh` may be any object, a pinned one included. -/
inductive ProviderAction where
  | refresh (snapshot : Ref)
  | pin

def ProviderHistory.step (history : ProviderHistory) : ProviderAction -> ProviderHistory
  | .refresh snapshot =>
      { history with
        provider := history.provider.refresh snapshot
        refreshed := history.refreshed ++ [snapshot] }
  | .pin => { history with pins := history.pins ++ [history.provider.pin] }

/-- The history of a provider after a list of calls. -/
def ProviderHistory.after (baked : Ref) (actions : List ProviderAction) : ProviderHistory :=
  actions.foldl ProviderHistory.step { provider := FlagProvider.new baked, pins := [], refreshed := [] }

/-- Whether an answer is exactly the flag's fail value, reported as such. -/
def ResolvedFlag.IsFailValue (flag : CompiledFlag) (resolved : ResolvedFlag) : Prop :=
  resolved.enabled = flag.failValue ∧ resolved.degradation = .failValue

def liveTradingEnabled (boolValue : Bool) : CompiledFlag where
  flagKey := "live_trading_enabled"
  status := .active
  flagType := .boolean
  flagClass := .safetyCritical
  boolValue := boolValue
  rolloutBps := 0
  rolloutBps_ge := by decide
  rolloutBps_le := by decide
  allowlist := ∅
  denylist := ∅
  environments := ∅
  failValue := false
  generation := 1
  expiresAtEpochMs := none

end Python
end Flags
end ApexQuant
