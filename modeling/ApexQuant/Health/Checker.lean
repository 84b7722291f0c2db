import ApexQuant.Foundation.LastWrites
import ApexQuant.Foundation.Text

namespace ApexQuant
namespace Health

open Foundation

/-!
# The health checkers

`checkers.py` with `run_with_timeout`, and `apex-health`.  Both ask every registered
check, readiness as a fold over the answers and health through a map by type and name.
In Python a timeout is one of the exceptions of a check; `checkers.py` names `asyncio`
in `check_ready` without an import.
-/

inductive HealthStatus where
  | healthy
  | degraded
  | unhealthy
  deriving DecidableEq

structure DependencyStatus where
  status : HealthStatus
  latencyMs : Option Rat
  error : Option Text
  deriving DecidableEq

structure HealthResponse where
  status : HealthStatus
  service : Text
  version : Text
  plane : Text
  environment : Text
  instanceId : Text
  dependencies : AList fun _ : Text => DependencyStatus

/-- What becomes of a check within the two seconds that it has. -/
inductive Outcome where
  | returned (status : DependencyStatus)
  | timedOut

/-- A registered check with its outcome, and what a clock shows around it. -/
structure DependencyCheck where
  type : Text
  name : Text
  outcome : Outcome
  latencyMs : Rat

/-- `f"{check.type}:{check.name}"` -/
def DependencyCheck.key (check : DependencyCheck) : Text :=
  check.type ++ ":".toList ++ check.name

structure HealthChecker where
  service : Text
  version : Text
  plane : Text
  environment : Text
  instanceId : Text
  checks : List DependencyCheck

/-- The response over the statuses by key: unhealthy when one of them is. -/
def HealthChecker.response (checker : HealthChecker) (results : List (Text × DependencyStatus)) : HealthResponse where
  status :=
    if (LastWrites.values (LastWrites.fill results)).any fun result => decide (result.status = .unhealthy) then
      .unhealthy
    else .healthy
  service := checker.service
  version := checker.version
  plane := checker.plane
  environment := checker.environment
  instanceId := checker.instanceId
  dependencies := LastWrites.fill results

/-! ## Python -/

namespace Checkers

/-- What a coroutine may raise. -/
inductive CheckException where
  | timeoutError
  | other (message : Text)

inductive PythonError where
  | nameError (message : Text)
  deriving DecidableEq

/-- `run_with_timeout`, over what `wait_for` gives and the latency that is measured. -/
def runWithTimeout (latencyMs : Rat) : Except CheckException DependencyStatus -> DependencyStatus
  | .ok _ => { status := .healthy, latencyMs := some latencyMs, error := none }
  | .error .timeoutError => { status := .unhealthy, latencyMs := none, error := some "timeout after 2.0s".toList }
  | .error (.other message) => { status := .unhealthy, latencyMs := none, error := some message }

/-- What `wait_for` gives. -/
def waitFor : Outcome -> Except CheckException DependencyStatus
  | .returned status => .ok status
  | .timedOut => .error .timeoutError

def result (check : DependencyCheck) : DependencyStatus :=
  runWithTimeout check.latencyMs (waitFor check.outcome)

/-- `check_ready` -/
def checkReady (checker : HealthChecker) : Except PythonError Bool :=
  if checker.checks = [] then .ok true
  else .error (.nameError "name 'asyncio' is not defined".toList)

/-- `check_health` -/
def checkHealth (checker : HealthChecker) : Except PythonError HealthResponse :=
  .ok (checker.response (checker.checks.map fun check => (check.key, result check)))

end Checkers

/-! ## Rust -/

namespace ApexHealth

/-- A task of `check_ready` does not let the probe pass. -/
def refuses : Outcome -> Bool
  | .returned status => decide (status.status ≠ .healthy)
  | .timedOut => true

/-- `check_ready` -/
def checkReady (checker : HealthChecker) : Bool :=
  !checker.checks.any fun check => refuses check.outcome

/-- The status of a check, or that of a timeout. -/
def result (check : DependencyCheck) : DependencyStatus :=
  match check.outcome with
  | .returned status => status
  | .timedOut => { status := .unhealthy, latencyMs := none, error := some "timeout".toList }

/-- `check_health` -/
def checkHealth (checker : HealthChecker) : HealthResponse :=
  checker.response (checker.checks.map fun check => (check.key, result check))

end ApexHealth

/-! ## What the probes are for -/

/-- The check is unhealthy or times out. -/
def DependencyCheck.Fails (check : DependencyCheck) : Prop :=
  match check.outcome with
  | .returned status => status.status = .unhealthy
  | .timedOut => True

def DependencyCheck.IsHealthy (check : DependencyCheck) : Prop :=
  match check.outcome with
  | .returned status => status.status = .healthy
  | .timedOut => False

/-- Readiness returns, and is the health of every check. -/
def ReadySound {Error : Type} (checker : HealthChecker) (ready : Except Error Bool) : Prop :=
  Exists fun answer => ready = .ok answer ∧
    (answer = true <-> forall check, check ∈ checker.checks -> check.IsHealthy)

/-- Health returns, and is bad exactly when some check is. -/
def HealthSound {Error : Type} (checker : HealthChecker) (health : Except Error HealthResponse) : Prop :=
  Exists fun response => health = .ok response ∧
    (response.status = .unhealthy <-> Exists fun check => check ∈ checker.checks ∧ check.Fails)

def PythonSound (checker : HealthChecker) : Prop :=
  ReadySound checker (Checkers.checkReady checker) ∧ HealthSound checker (Checkers.checkHealth checker)

/-- The probes of Rust, which raise nothing. -/
def ApexHealth.ready (checker : HealthChecker) : Except Empty Bool :=
  .ok (ApexHealth.checkReady checker)

def ApexHealth.health (checker : HealthChecker) : Except Empty HealthResponse :=
  .ok (ApexHealth.checkHealth checker)

def RustSound (checker : HealthChecker) : Prop :=
  ReadySound checker (ApexHealth.ready checker) ∧ HealthSound checker (ApexHealth.health checker)

/-- No later check has the type and name of this one. -/
def HealthChecker.Shows (checker : HealthChecker) (check : DependencyCheck) : Prop :=
  Exists fun before => Exists fun after =>
    checker.checks = before ++ check :: after ∧ forall later, later ∈ after -> later.key ≠ check.key

theorem last_map_iff {checker : HealthChecker} {result : DependencyCheck -> DependencyStatus}
    {entry : Text × DependencyStatus} :
    LastWrites.Last (checker.checks.map fun check => (check.key, result check)) entry <->
      Exists fun check => checker.Shows check ∧ entry = (check.key, result check) := by
  constructor
  · rintro ⟨before, after, split, others⟩
    rcases List.map_eq_append_iff.1 split with ⟨opening, rest, whole, _, shown⟩
    rcases List.map_eq_cons_iff.1 shown with ⟨check, closing, rfl, rfl, rfl⟩
    refine ⟨check, ⟨opening, closing, whole, fun later member => ?_⟩, rfl⟩
    exact others _ (List.mem_map_of_mem member)
  · rintro ⟨check, ⟨before, after, whole, others⟩, rfl⟩
    refine ⟨before.map fun check => (check.key, result check), after.map fun check => (check.key, result check), ?_, ?_⟩
    · rw [whole, List.map_append, List.map_cons]
    · intro later member
      rcases List.mem_map.1 member with ⟨other, listed, rfl⟩
      exact others other listed

/-- The response is bad exactly when a check that is shown has a bad status. -/
theorem response_unhealthy_iff (checker : HealthChecker) (result : DependencyCheck -> DependencyStatus) :
    (checker.response (checker.checks.map fun check => (check.key, result check))).status = .unhealthy <->
      Exists fun check => checker.Shows check ∧ (result check).status = .unhealthy := by
  have shown : ((LastWrites.values (LastWrites.fill (checker.checks.map fun check => (check.key, result check)))).any
      fun result => decide (result.status = .unhealthy)) = true <->
        Exists fun check => checker.Shows check ∧ (result check).status = .unhealthy := by
    rw [List.any_eq_true]
    constructor
    · rintro ⟨status, member, bad⟩
      rcases LastWrites.mem_values_fill.1 member with ⟨key, last⟩
      rcases last_map_iff.1 last with ⟨check, shows, same⟩
      have value : status = result check := (Prod.ext_iff.1 same).2
      rw [value] at bad
      exact ⟨check, shows, of_decide_eq_true bad⟩
    · rintro ⟨check, shows, bad⟩
      refine ⟨result check, LastWrites.mem_values_fill.2 ⟨check.key, last_map_iff.2 ⟨check, shows, rfl⟩⟩, ?_⟩
      exact decide_eq_true bad
  rw [← shown, HealthChecker.response]
  split
  · rename_i bad
    exact iff_of_true rfl bad
  · rename_i good
    exact iff_of_false (fun status => by cases status) good

theorem HealthChecker.Shows.mem {checker : HealthChecker} {check : DependencyCheck} (shows : checker.Shows check) :
    check ∈ checker.checks := by
  rcases shows with ⟨before, after, whole, _⟩
  simp [whole]

/-! ## The results -/

theorem Checkers.result_unhealthy_iff {check : DependencyCheck} :
    (Checkers.result check).status = .unhealthy <-> check.outcome = .timedOut := by
  cases ended : check.outcome with
  | returned status => simp [Checkers.result, Checkers.waitFor, Checkers.runWithTimeout, ended]
  | timedOut => simp [Checkers.result, Checkers.waitFor, Checkers.runWithTimeout, ended]

theorem ApexHealth.result_unhealthy_iff {check : DependencyCheck} :
    (ApexHealth.result check).status = .unhealthy <-> check.Fails := by
  cases ended : check.outcome with
  | returned status => simp [ApexHealth.result, DependencyCheck.Fails, ended]
  | timedOut => simp [ApexHealth.result, DependencyCheck.Fails, ended]

theorem DependencyCheck.fails_of_timedOut {check : DependencyCheck} (timedOut : check.outcome = .timedOut) :
    check.Fails := by
  simp [DependencyCheck.Fails, timedOut]

theorem ApexHealth.readySound (checker : HealthChecker) :
    ReadySound checker (ApexHealth.ready checker) := by
  have each : forall check : DependencyCheck, ApexHealth.refuses check.outcome = false <-> check.IsHealthy := by
    intro check
    cases ended : check.outcome with
    | returned status => simp [ApexHealth.refuses, DependencyCheck.IsHealthy, ended]
    | timedOut => simp [ApexHealth.refuses, DependencyCheck.IsHealthy, ended]
  refine ⟨_, rfl, ?_⟩
  rw [ApexHealth.checkReady, Bool.not_eq_true', List.any_eq_false]
  simp only [Bool.not_eq_true, each]

/-- Health in Rust is sound unless every failing check is written over. -/
theorem ApexHealth.healthSound_iff (checker : HealthChecker) :
    HealthSound checker (ApexHealth.health checker) <->
      ((Exists fun check => check ∈ checker.checks ∧ check.Fails) ->
        Exists fun check => checker.Shows check ∧ check.Fails) := by
  have status := response_unhealthy_iff checker ApexHealth.result
  simp only [ApexHealth.result_unhealthy_iff] at status
  constructor
  · rintro ⟨response, returned, exactly⟩ failing
    rw [← Except.ok.inj returned] at exactly
    exact status.1 (exactly.2 failing)
  · intro shown
    refine ⟨_, rfl, fun bad => ?_, fun failing => status.2 (shown failing)⟩
    rcases status.1 bad with ⟨check, shows, fails⟩
    exact ⟨check, shows.mem, fails⟩

/-- Health in Python is sound exactly when a check that is shown has timed out, or none
fails. -/
theorem Checkers.healthSound_iff (checker : HealthChecker) :
    HealthSound checker (Checkers.checkHealth checker) <->
      ((Exists fun check => check ∈ checker.checks ∧ check.Fails) ->
        Exists fun check => checker.Shows check ∧ check.outcome = .timedOut) := by
  have status := response_unhealthy_iff checker Checkers.result
  simp only [Checkers.result_unhealthy_iff] at status
  constructor
  · rintro ⟨response, returned, exactly⟩ failing
    rw [← Except.ok.inj returned] at exactly
    exact status.1 (exactly.2 failing)
  · intro shown
    refine ⟨_, rfl, fun bad => ?_, fun failing => status.2 (shown failing)⟩
    rcases status.1 bad with ⟨check, shows, timedOut⟩
    exact ⟨check, shows.mem, DependencyCheck.fails_of_timedOut timedOut⟩

/-- Readiness in Python returns for no checker with a check. -/
theorem Checkers.readySound_iff (checker : HealthChecker) :
    ReadySound checker (Checkers.checkReady checker) <-> checker.checks = [] := by
  constructor
  · rintro ⟨answer, returned, _⟩
    by_contra registered
    rw [Checkers.checkReady, if_neg registered] at returned
    cases returned
  · intro empty
    refine ⟨true, if_pos empty, ?_⟩
    simp [empty]

/-- The two checkers aggregate their checks soundly exactly when there are none; each
probe by itself, when the failing checks are shown. -/
theorem aggregation_sound_iff (checker : HealthChecker) :
    (PythonSound checker ∧ RustSound checker <-> checker.checks = []) ∧
      (RustSound checker <->
        ((Exists fun check => check ∈ checker.checks ∧ check.Fails) ->
          Exists fun check => checker.Shows check ∧ check.Fails)) ∧
      (HealthSound checker (Checkers.checkHealth checker) <->
        ((Exists fun check => check ∈ checker.checks ∧ check.Fails) ->
          Exists fun check => checker.Shows check ∧ check.outcome = .timedOut)) := by
  have rust : RustSound checker <-> HealthSound checker (ApexHealth.health checker) :=
    and_iff_right (ApexHealth.readySound checker)
  refine ⟨⟨fun sound => (Checkers.readySound_iff checker).1 sound.1.1, fun empty => ?_⟩,
    rust.trans (ApexHealth.healthSound_iff checker), Checkers.healthSound_iff checker⟩
  have none : ¬Exists fun check => check ∈ checker.checks ∧ check.Fails := by simp [empty]
  refine ⟨⟨(Checkers.readySound_iff checker).2 empty, (Checkers.healthSound_iff checker).2 fun failing => ?_⟩,
    rust.2 ((ApexHealth.healthSound_iff checker).2 fun failing => ?_)⟩
  · exact absurd failing none
  · exact absurd failing none

/-- The dependency answers that it is unhealthy. -/
def failingCheck : DependencyCheck where
  type := "redis".toList
  name := "mock-redis".toList
  outcome := .returned { status := .unhealthy, latencyMs := none, error := some "connection refused".toList }
  latencyMs := 0

def failingChecker : HealthChecker where
  service := "test-svc".toList
  version := "1.0".toList
  plane := "CONTROL".toList
  environment := "local".toList
  instanceId := "inst-1".toList
  checks := [failingCheck]

theorem failingChecker_unsound : ¬(forall checker, PythonSound checker ∧ RustSound checker) := by
  intro sound
  have empty := (Checkers.readySound_iff failingChecker).1 (sound failingChecker).1.1
  cases empty

end Health
end ApexQuant
